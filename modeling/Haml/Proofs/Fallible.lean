import Haml.Text.Basic

/-!
# Computations that can fail

What a sequence, a loop or a traversal has done when it succeeds, and which error it ends with when
it fails. The error of a computation is `errorOf?`: when the second of two steps fails alike after
each result of the first, the error of both is the first error there is, and a loop fails with the
first error of its rounds.
-/

namespace Haml

variable {ε α β σ : Type} {x : Except ε α} {f : α → Except ε β}

/-- What has been done when two steps succeed. -/
theorem bind_eq_ok_iff {b : β} : x >>= f = .ok b ↔ ∃ a, x = .ok a ∧ f a = .ok b := by
  cases x with
  | error e => simp [Bind.bind, Except.bind]
  | ok a => simp [Bind.bind, Except.bind]

/-- What has been done when one of two steps fails. -/
theorem bind_eq_error_iff {e : ε} :
    x >>= f = .error e ↔ x = .error e ∨ ∃ a, x = .ok a ∧ f a = .error e := by
  cases x with
  | error e => simp [Bind.bind, Except.bind]
  | ok a => simp [Bind.bind, Except.bind]

/-- An error under another name is no success. -/
theorem mapError_eq_ok_iff {δ : Type} {g : ε → δ} {a : α} : x.mapError g = .ok a ↔ x = .ok a := by
  constructor
  · intro h
    cases x with
    | error e => cases h
    | ok b => exact congrArg _ (Except.ok.inj h)
  · rintro rfl
    rfl

/-- The errors under another name are those under the first. -/
theorem mapError_eq_error_iff {δ : Type} {g : ε → δ} {d : δ} :
    x.mapError g = .error d ↔ ∃ e, x = .error e ∧ d = g e := by
  constructor
  · intro h
    cases x with
    | error e => exact ⟨e, rfl, (Except.error.inj h).symm⟩
    | ok a => cases h
  · rintro ⟨e, rfl, rfl⟩
    rfl

/-- What holds at the start of a loop and is kept by every round holds at its end. -/
theorem foldlM_eq_ok_induction {P : σ → Prop} {step : σ → α → Except ε σ} {list : List α}
    {s t : σ} (h : list.foldlM step s = .ok t) (hstart : P s)
    (hstep : ∀ s a t, a ∈ list → P s → step s a = .ok t → P t) : P t := by
  induction list generalizing s with
  | nil => exact Except.ok.inj h ▸ hstart
  | cons a list ih =>
    rw [List.foldlM_cons] at h
    obtain ⟨next, hnext, hrest⟩ := bind_eq_ok_iff.mp h
    exact ih hrest (hstep s a next List.mem_cons_self hstart hnext)
      fun s b t hb => hstep s b t (List.mem_cons_of_mem _ hb)

/-- Each result of several computations is that of one of them. -/
theorem exists_of_mem_mapM {f : α → Except ε β} {list : List α} {results : List β} {b : β}
    (h : list.mapM f = .ok results) (hb : b ∈ results) : ∃ a ∈ list, f a = .ok b := by
  induction list generalizing results with
  | nil =>
    obtain rfl : [] = results := Except.ok.inj h
    cases hb
  | cons a list ih =>
    rw [List.mapM_cons] at h
    obtain ⟨first, hfirst, hmore⟩ := bind_eq_ok_iff.mp h
    obtain ⟨rest, hrest, heq⟩ := bind_eq_ok_iff.mp hmore
    obtain rfl := Except.ok.inj heq
    rcases List.mem_cons.mp hb with rfl | hb
    · exact ⟨a, List.mem_cons_self, hfirst⟩
    · obtain ⟨c, hc, hof⟩ := ih hrest hb
      exact ⟨c, List.mem_cons_of_mem _ hc, hof⟩

/-- The error of a computation that fails. -/
def errorOf? : Except ε α → Option ε
  | .error e => some e
  | .ok _ => none

/-- A computation has an error exactly if it fails with it. -/
theorem errorOf?_eq_some_iff {x : Except ε α} {e : ε} : errorOf? x = some e ↔ x = .error e := by
  cases x <;> simp [errorOf?]

/-- A computation has no error exactly if it has a result. -/
theorem errorOf?_eq_none_iff {x : Except ε α} : errorOf? x = none ↔ ∃ a, x = .ok a := by
  cases x <;> simp [errorOf?]

/-- A computation goes on with the result of the one before it. -/
theorem ok_bind (a : α) (f : α → Except ε β) : (Except.ok a >>= f) = f a := rfl

/-- A result is no error. -/
@[simp] theorem errorOf?_pure (a : α) : errorOf? (pure a : Except ε α) = none := rfl

/-- The error of a computation whose errors are renamed is renamed. -/
theorem errorOf?_mapError (x : Except ε α) (f : ε → β) :
    errorOf? (x.mapError f) = (errorOf? x).map f := by cases x <;> rfl

/-- When the second step fails alike after each result, the first error is that of the first step or
else that. -/
theorem errorOf?_bind {x : Except ε α} {f : α → Except ε β} {fault : Option ε}
    (h : ∀ a, errorOf? (f a) = fault) : errorOf? (x >>= f) = (errorOf? x).or fault := by
  cases x with
  | error e => rfl
  | ok a => exact (h a).trans (Option.none_or).symm

/-- When the second step never fails, the error is that of the first. -/
theorem errorOf?_bind_of_none {x : Except ε α} {f : α → Except ε β}
    (h : ∀ a, errorOf? (f a) = none) : errorOf? (x >>= f) = errorOf? x := by
  rw [errorOf?_bind h, Option.or_none]

/-- A computation whose result is only changed fails as before. -/
theorem errorOf?_bind_pure {x : Except ε α} {f : α → β} :
    errorOf? (x >>= fun a => pure (f a)) = errorOf? x :=
  errorOf?_bind_of_none fun a => errorOf?_pure (f a)

/-- A loop whose rounds fail for their own reasons fails with the first of these. -/
theorem errorOf?_foldlM {step : σ → α → Except ε σ} {fault : α → Option ε} {list : List α}
    (h : ∀ s, ∀ a ∈ list, errorOf? (step s a) = fault a) (s : σ) :
    errorOf? (list.foldlM step s) = list.findSome? fault := by
  induction list generalizing s with
  | nil => rfl
  | cons a list ih =>
    have hrest := ih fun s b hb => h s b (List.mem_cons_of_mem _ hb)
    rw [List.foldlM_cons, errorOf?_bind hrest, h s a List.mem_cons_self, List.findSome?_cons]
    cases fault a <;> rfl

/-- A computation over a list fails with the fault of the first item that has one. -/
theorem errorOf?_mapM {f : α → Except ε β} {fault : α → Option ε} {list : List α}
    (h : ∀ a ∈ list, errorOf? (f a) = fault a) :
    errorOf? (list.mapM f) = list.findSome? fault := by
  induction list with
  | nil => rfl
  | cons a list ih =>
    have hrest := ih fun b hb => h b (List.mem_cons_of_mem _ hb)
    rw [List.mapM_cons, errorOf?_bind fun b => errorOf?_bind_pure, hrest, h a List.mem_cons_self,
      List.findSome?_cons]
    cases fault a <;> rfl

end Haml
