import Haml.Bracket

/-!
# What the scan shows

`shown` lists the characters of a text outside of strings, each with the depth after it. The cut at
the closing bracket and the pieces between separators depend on a text only through this list and
the state after the text, so both pass over a text that shows nothing they look for.
-/

namespace Haml.Bracket

variable {s : Scan} {a b t : Text}

/-- The characters outside of strings, each with the depth after it. -/
def shown (s : Scan) : Text → List (Char × Int)
  | [] => []
  | c :: rest =>
    if s.shows c then (c, (s.step c).depth) :: shown (s.step c) rest else shown (s.step c) rest

/-- A text is scanned part by part. -/
theorem Scan.run_append (s : Scan) (a b : Text) : s.run (a ++ b) = (s.run a).run b :=
  List.foldl_append

/-- The empty text leaves the state as it is. -/
@[simp] theorem Scan.run_nil (s : Scan) : s.run [] = s := rfl

/-- A text is scanned character by character. -/
@[simp] theorem Scan.run_cons (s : Scan) (c : Char) (t : Text) :
    s.run (c :: t) = (s.step c).run t := rfl

/-- The characters that count are found part by part, the second part in the state that the first
leaves. -/
theorem shown_append (s : Scan) (a b : Text) :
    shown s (a ++ b) = shown s a ++ shown (s.run a) b := by
  induction a generalizing s with
  | nil => rfl
  | cons c rest ih =>
    simp only [List.cons_append, shown, ih, Scan.run_cons]
    split <;> rfl

/-- What counts in the rest of a text counts in the text. -/
theorem mem_shown_cons {x : Char × Int} {c : Char} (h : x ∈ shown (s.step c) t) :
    x ∈ shown s (c :: t) := by
  rw [shown]
  split
  · exact List.mem_cons_of_mem _ h
  · exact h

/-- The same state at another depth. -/
def Scan.raise (n : Int) (s : Scan) : Scan := { s with depth := s.depth + n }

/-- A step does not look at the depth. -/
theorem Scan.step_raise (n : Int) (s : Scan) (c : Char) :
    (s.raise n).step c = (s.step c).raise n := by
  obtain ⟨depth, quoting⟩ := s
  cases quoting with
  | outside =>
    simp only [raise, step]
    split
    · rfl
    · split
      · simp only [Scan.mk.injEq, and_true]
        omega
      · split
        · simp only [Scan.mk.injEq, and_true]
          omega
        · rfl
  | inside mark =>
    simp only [raise, step]
    split
    · rfl
    · split <;> rfl
  | escaped mark => rfl

/-- A scan does not look at the depth. -/
theorem Scan.run_raise (n : Int) (s : Scan) (t : Text) : (s.raise n).run t = (s.run t).raise n := by
  induction t generalizing s with
  | nil => rfl
  | cons c rest ih => rw [run_cons, run_cons, step_raise, ih]

/-- Depths are counted from where the scan starts. -/
theorem shown_raise (n : Int) (s : Scan) (t : Text) :
    shown (s.raise n) t = (shown s t).map fun x => (x.1, x.2 + n) := by
  induction t generalizing s with
  | nil => rfl
  | cons c rest ih =>
    have hshows : (s.raise n).shows c = s.shows c := rfl
    simp only [shown, hshows, Scan.step_raise, ih]
    split <;> rfl

/-- No cut is made in a text that is not back at depth zero. -/
theorem closing?_append (h : ∀ x ∈ shown s a, x.2 ≠ 0) :
    closing? s (a ++ b) = (closing? (s.run a) b).map fun cut => ⟨a ++ cut.group, cut.rest⟩ := by
  induction a generalizing s with
  | nil => simp
  | cons c rest ih =>
    have hcut : ¬(s.shows c && (s.step c).depth == 0) = true := by
      intro hc
      rw [Bool.and_eq_true, beq_iff_eq] at hc
      exact h (c, (s.step c).depth) (by simp [shown, hc.1]) hc.2
    rw [List.cons_append, closing?, if_neg hcut, ih fun x hx => h x (mem_shown_cons hx),
      Option.map_map]
    rfl

/-- Every text has at least one piece. -/
theorem pieces_ne_nil (separator : Text) (s : Scan) (t : Text) : pieces separator s t ≠ [] := by
  cases t with
  | nil => simp [pieces]
  | cons c rest =>
    rw [pieces]
    split
    · simp
    · split <;> simp

/-- No separator is found in a text that shows none at depth zero, so it starts the first piece. -/
theorem pieces_append {separator : Char} (h : (separator, 0) ∉ shown s a) :
    pieces [separator] s (a ++ b) = (pieces [separator] (s.run a) b).modifyHead (a ++ ·) := by
  induction a generalizing s with
  | nil => cases hb : pieces [separator] s b <;> simp [hb]
  | cons c rest ih =>
    have hcut : ¬(s.shows c && [separator] == [c] && (s.step c).depth == 0) = true := by
      intro hc
      simp only [Bool.and_eq_true, beq_iff_eq, List.cons.injEq, and_true] at hc
      obtain ⟨⟨hshows, rfl⟩, hdepth⟩ := hc
      exact h (by simp [shown, hshows, hdepth])
    rw [List.cons_append, pieces, if_neg hcut, ih fun hx => h (mem_shown_cons hx),
      Scan.run_cons]
    cases hb : pieces [separator] ((s.step c).run rest) b with
    | nil => exact absurd hb (pieces_ne_nil _ _ _)
    | cons piece more => rfl

/-- A text that closes the brackets and strings it opens, and no other brackets. -/
structure Balanced (t : Text) : Prop where
  /-- All that it opens is closed. -/
  ends : Scan.start.run t = .start
  /-- Nothing else is closed on the way. -/
  above : ∀ x ∈ shown .start t, 0 ≤ x.2

instance (t : Text) : Decidable (Balanced t) :=
  decidable_of_iff (Scan.start.run t = .start ∧ (shown .start t).all (0 ≤ ·.2) = true)
    ⟨fun h => ⟨h.1, by simpa using h.2⟩, fun h => ⟨h.ends, by simpa using h.above⟩⟩

/-- Two balanced texts in a row are balanced. -/
theorem Balanced.append (ha : Balanced a) (hb : Balanced b) : Balanced (a ++ b) := by
  refine ⟨by rw [Scan.run_append, ha.ends, hb.ends], ?_⟩
  rw [shown_append, ha.ends]
  intro x hx
  exact (List.mem_append.mp hx).elim (ha.above x) (hb.above x)

/-- Balanced parts with a balanced separator between them are balanced. -/
theorem Balanced.join {separator : Text} (hseparator : Balanced separator) {parts : List Text}
    (h : ∀ p ∈ parts, Balanced p) : Balanced (List.intercalate separator parts) := by
  induction parts with
  | nil => exact ⟨rfl, by simp [shown]⟩
  | cons part more ih =>
    have hpart := h part List.mem_cons_self
    have hmore := ih fun p hp => h p (List.mem_cons_of_mem _ hp)
    cases more with
    | nil => rwa [List.intercalate_singleton]
    | cons next rest =>
      rw [List.intercalate_cons_cons]
      exact (hpart.append hseparator).append hmore

/-- Nothing in a string is shown, and the scan is outside again at its end. -/
theorem scan_quoted {mark : Char} (hmark : isQuote mark = true) {name : Text}
    (h : ∀ c ∈ name, c ≠ mark ∧ c ≠ '\\') :
    shown .start (mark :: name ++ [mark]) = [] ∧
      Scan.start.run (mark :: name ++ [mark]) = .start := by
  have hopen : Scan.start.step mark = ⟨0, .inside mark⟩ := by simp [Scan.start, Scan.step, hmark]
  have hbackslash : mark ≠ '\\' := by
    rintro rfl
    cases hmark
  have hinside : shown ⟨0, .inside mark⟩ (name ++ [mark]) = [] ∧
      Scan.run ⟨0, .inside mark⟩ (name ++ [mark]) = .start := by
    induction name with
    | nil => simp [shown, Scan.shows, Scan.step, hbackslash, Scan.start]
    | cons c rest ih =>
      obtain ⟨hc, hescape⟩ := h c List.mem_cons_self
      have hstep : Scan.step ⟨0, .inside mark⟩ c = ⟨0, .inside mark⟩ := by
        simp [Scan.step, hc, hescape]
      obtain ⟨hshown, hrun⟩ := ih fun d hd => h d (List.mem_cons_of_mem _ hd)
      refine ⟨?_, by rw [List.cons_append, Scan.run_cons, hstep, hrun]⟩
      rw [List.cons_append, shown, hstep, hshown]
      simp [Scan.shows]
  refine ⟨?_, by rw [List.cons_append, Scan.run_cons, hopen, hinside.2]⟩
  rw [List.cons_append, shown, hopen, hinside.1]
  simp [Scan.shows, hmark]

/-- A bracket that opens a group is shown and raises the scan. -/
theorem step_opener {c : Char} (h : isOpener c = true) :
    Scan.start.shows c = true ∧ Scan.start.step c = Scan.start.raise 1 := by
  simp only [isOpener, Bool.or_eq_true, beq_iff_eq] at h
  obtain (rfl | rfl) | rfl := h <;> decide

/-- A bracket that closes the only open group leads back to depth zero. -/
theorem step_closer {c : Char} (h : isCloser c = true) :
    (Scan.start.raise 1).shows c = true ∧ ((Scan.start.raise 1).step c).depth = 0 := by
  simp only [isCloser, Bool.or_eq_true, beq_iff_eq] at h
  obtain (rfl | rfl) | rfl := h <;> decide

/-- A balanced text in brackets is a group, whatever follows. -/
theorem splitBalanced_group (h : Balanced t) (rest : Text) {opener closer : Char}
    (hopener : isOpener opener = true) (hcloser : isCloser closer = true) :
    splitBalanced (opener :: t ++ closer :: rest) = ⟨opener :: t ++ [closer], rest⟩ := by
  obtain ⟨hshows, hstep⟩ := step_opener hopener
  obtain ⟨hshown, hdepth⟩ := step_closer hcloser
  have hinside : ∀ x ∈ shown .start (opener :: t), x.2 ≠ 0 := by
    rw [shown, if_pos hshows, hstep, shown_raise]
    intro x hx
    obtain rfl | hx := List.mem_cons.mp hx
    · exact Int.one_ne_zero
    · obtain ⟨y, hy, rfl⟩ := List.mem_map.mp hx
      have := h.above y hy
      simp only [ne_eq]
      omega
  have hrun : Scan.start.run (opener :: t) = Scan.start.raise 1 := by
    rw [Scan.run_cons, hstep, Scan.run_raise, h.ends]
  rw [List.cons_append, splitBalanced, if_pos hopener, ← List.cons_append, closing?_append hinside,
    hrun, closing?, if_pos (by simp [hshown, hdepth])]
  rfl

/-- A separator at the start of a text cuts off an empty piece. -/
theorem pieces_separator_cons {separator : Char}
    (hstep : Scan.start.shows separator = true ∧ Scan.start.step separator = .start) (t : Text) :
    pieces [separator] .start (separator :: t) = [] :: pieces [separator] .start t := by
  have hcut : (Scan.start.shows separator && [separator] == [separator] &&
      (Scan.start.step separator).depth == 0) = true := by
    rw [hstep.1, hstep.2]
    simp [Scan.start]
  rw [pieces, if_pos hcut, hstep.2]

/-- Parts that end as they start and show no separator at depth zero are the pieces of their
join. -/
theorem pieces_join {separator : Char}
    (hstep : Scan.start.shows separator = true ∧ Scan.start.step separator = .start)
    {part : Text} {parts : List Text}
    (h : ∀ p ∈ part :: parts, Scan.start.run p = .start ∧ (separator, 0) ∉ shown .start p) :
    pieces [separator] .start (List.intercalate [separator] (part :: parts)) = part :: parts := by
  obtain ⟨hends, hwhole⟩ := h part List.mem_cons_self
  induction parts generalizing part with
  | nil =>
    rw [List.intercalate_singleton, ← List.append_nil part, pieces_append hwhole]
    simp [pieces]
  | cons next more ih =>
    have hrest := fun p hp => h p (List.mem_cons_of_mem _ hp)
    have hnext := hrest next List.mem_cons_self
    rw [List.intercalate_cons_cons, List.append_assoc, List.singleton_append,
      pieces_append hwhole, hends, pieces_separator_cons hstep,
      ih hrest hnext.1 hnext.2]
    simp

/-- The last character of a text is outside of strings and leads back to depth zero. -/
def Closes (s : Scan) (p : Text) : Prop :=
  ∃ a c, p = a ++ [c] ∧ (s.run a).shows c = true ∧ (s.run p).depth = 0

/-- The empty text closes nothing. -/
theorem Closes.ne_nil (h : Closes s a) : a ≠ [] := by
  obtain ⟨b, c, rfl, -⟩ := h
  simp

/-- A text closes with its only character, which comes back to the outermost level, or with its
rest. -/
theorem closes_cons_iff {c : Char} :
    Closes s (c :: t) ↔
      (t = [] ∧ s.shows c = true ∧ (s.step c).depth = 0) ∨ Closes (s.step c) t := by
  constructor
  · rintro ⟨a, d, heq, hshows, hdepth⟩
    cases a with
    | nil =>
      obtain ⟨rfl, rfl⟩ := List.cons.inj heq
      exact .inl ⟨rfl, hshows, hdepth⟩
    | cons b a =>
      obtain ⟨rfl, rfl⟩ := List.cons.inj heq
      exact .inr ⟨a, d, rfl, hshows, hdepth⟩
  · rintro (⟨rfl, hshows, hdepth⟩ | ⟨a, d, rfl, hshows, hdepth⟩)
    · exact ⟨[], c, rfl, hshows, hdepth⟩
    · exact ⟨c :: a, d, rfl, hshows, hdepth⟩

/-- The cut is made after the shortest part that closes. -/
theorem closes_of_closing? {cut : Cut} (h : closing? s t = some cut) :
    Closes s cut.group ∧ ∀ p, p <+: cut.group → Closes s p → p = cut.group := by
  induction t generalizing s cut with
  | nil => cases h
  | cons c rest ih =>
    rw [closing?] at h
    split at h
    · rename_i hcut
      obtain rfl := Option.some.inj h
      rw [Bool.and_eq_true, beq_iff_eq] at hcut
      refine ⟨closes_cons_iff.mpr (.inl ⟨rfl, hcut.1, hcut.2⟩), fun p hp hcloses => ?_⟩
      exact hp.eq_of_length_le (List.length_pos_iff.mpr hcloses.ne_nil)
    · rename_i hcut
      obtain ⟨inner, hinner, rfl⟩ := Option.map_eq_some_iff.mp h
      obtain ⟨hcloses, hleast⟩ := ih hinner
      refine ⟨closes_cons_iff.mpr (.inr hcloses), fun p hp hshort => ?_⟩
      cases p with
      | nil => exact absurd rfl hshort.ne_nil
      | cons d p =>
        obtain ⟨rfl, htail⟩ := List.cons_prefix_cons.mp hp
        obtain ⟨-, hshows, hdepth⟩ | hshort := closes_cons_iff.mp hshort
        · exact absurd (by simp [hshows, hdepth]) hcut
        · rw [hleast p htail hshort]

/-- Without a cut, no part of the text closes. -/
theorem not_closes_of_closing? (h : closing? s t = none) {p : Text} (hp : p <+: t) :
    ¬Closes s p := by
  intro hcloses
  induction t generalizing s p with
  | nil => exact hcloses.ne_nil (List.prefix_nil.mp hp)
  | cons c rest ih =>
    rw [closing?] at h
    split at h
    · cases h
    · rename_i hcut
      cases p with
      | nil => exact hcloses.ne_nil rfl
      | cons d p =>
        obtain ⟨rfl, htail⟩ := List.cons_prefix_cons.mp hp
        obtain ⟨-, hshows, hdepth⟩ | hcloses := closes_cons_iff.mp hcloses
        · exact hcut (by simp [hshows, hdepth])
        · exact ih (Option.map_eq_none_iff.mp h) htail hcloses

/-- A bracketed group: it starts with a bracket, and nothing shorter closes it. -/
structure IsGroup (g : Text) : Prop where
  /-- It starts with a bracket. -/
  opens : g.head?.any isOpener = true
  /-- The bracket is closed at its end. -/
  closes : Closes .start g
  /-- No shorter start closes it. -/
  least : ∀ p, p <+: g → Closes .start p → p = g

/-- A group is not empty. -/
theorem IsGroup.ne_nil (h : IsGroup a) : a ≠ [] := h.closes.ne_nil

/-- A group ends where it ends, whatever follows. -/
theorem IsGroup.splitBalanced_append (h : IsGroup a) (rest : Text) :
    splitBalanced (a ++ rest) = ⟨a, rest⟩ := by
  cases a with
  | nil => exact absurd rfl h.ne_nil
  | cons c g =>
    have hopener : isOpener c = true := h.opens
    cases hcut : closing? .start (c :: g ++ rest) with
    | none => exact absurd h.closes (not_closes_of_closing? hcut (List.prefix_append _ _))
    | some cut =>
      have hall := group_append_rest_of_closing? hcut
      obtain ⟨hcloses, hleast⟩ := closes_of_closing? hcut
      have hgroup : cut.group = c :: g := by
        obtain hle | hle := List.prefix_or_prefix_of_prefix (hall ▸ List.prefix_append _ _)
          (List.prefix_append (c :: g) rest)
        · exact h.least _ hle hcloses
        · exact (hleast _ hle h.closes).symm
      have hrest : cut.rest = rest := by
        rw [hgroup] at hall
        exact List.append_cancel_left hall
      rw [List.cons_append, splitBalanced, if_pos hopener, ← List.cons_append, hcut, ← hgroup,
        ← hrest]
      rfl

/-- The leading group that is cut off, if there is one, is a group. -/
theorem isGroup_splitBalanced (h : (splitBalanced t).group ≠ []) :
    IsGroup (splitBalanced t).group := by
  unfold splitBalanced at h ⊢
  split at h
  · exact absurd rfl h
  · rename_i c rest
    split at h
    · rename_i hopener
      rw [if_pos hopener]
      cases hcut : closing? .start (c :: rest) with
      | none =>
        rw [hcut] at h
        exact absurd rfl h
      | some cut =>
        obtain ⟨hcloses, hleast⟩ := closes_of_closing? hcut
        refine ⟨?_, hcloses, hleast⟩
        have hall := group_append_rest_of_closing? hcut
        cases hgroup : cut.group with
        | nil => exact absurd hgroup hcloses.ne_nil
        | cons d g =>
          rw [hgroup, List.cons_append] at hall
          obtain ⟨rfl, -⟩ := List.cons.inj hall
          simpa [hgroup] using hopener
    · exact absurd rfl h

/-- The mark of the string that the scan is in. -/
def Quoting.mark? : Quoting → Option Char
  | outside => none
  | inside mark | escaped mark => some mark

/-- A string that is open was opened by a quote, after a step as before it. -/
theorem Scan.isQuote_of_mark?_step {s : Scan} (h : ∀ m ∈ s.quoting.mark?, isQuote m = true)
    (c : Char) : ∀ m ∈ (s.step c).quoting.mark?, isQuote m = true := by
  obtain ⟨depth, quoting⟩ := s
  cases quoting with
  | outside =>
    intro m hm
    simp only [step] at hm
    split at hm
    · rename_i hquote
      obtain rfl := Option.some.inj hm
      exact hquote
    · split at hm
      · cases hm
      · split at hm <;> cases hm
  | inside mark =>
    intro m hm
    simp only [step] at hm
    split at hm
    · exact h m hm
    · split at hm
      · cases hm
      · exact h m hm
  | escaped mark => exact h

/-- The scan is never in a string without a quote as its mark. -/
theorem Scan.isQuote_of_mark? (t : Text) :
    ∀ m ∈ (Scan.start.run t).quoting.mark?, isQuote m = true := by
  have hstart : ∀ m ∈ Scan.start.quoting.mark?, isQuote m = true := by
    intro m hm
    cases hm
  generalize Scan.start = s at hstart
  induction t generalizing s with
  | nil => exact hstart
  | cons c t ih => exact ih _ (isQuote_of_mark?_step hstart c)

/-- A blank is neither a quote nor a bracket. -/
theorem not_isQuote_of_isBlank {c : Char} (h : Text.isBlank c = true) :
    isQuote c = false ∧ isOpener c = false ∧ isCloser c = false := by
  have hnone {d : Char} (hd : Text.isBlank d = false) : c ≠ d := by
    rintro rfl
    rw [hd] at h
    cases h
  simp only [isQuote, isOpener, isCloser, Bool.or_eq_false_iff, beq_eq_false_iff_ne]
  exact ⟨⟨hnone (by decide), hnone (by decide)⟩,
    ⟨⟨hnone (by decide), hnone (by decide)⟩, hnone (by decide)⟩,
    ⟨hnone (by decide), hnone (by decide)⟩, hnone (by decide)⟩

/-- A blank outside of strings is shown and changes nothing. -/
theorem step_blank {c : Char} (h : Text.isBlank c = true) (hs : s.quoting = .outside) :
    s.shows c = true ∧ s.step c = s := by
  obtain ⟨hquote, hopener, hcloser⟩ := not_isQuote_of_isBlank h
  obtain ⟨depth, quoting⟩ := s
  obtain rfl : quoting = .outside := hs
  simp [Scan.shows, Scan.step, hquote, hopener, hcloser]

/-- A blank ends no string. -/
theorem outside_of_step_blank {c : Char} (h : Text.isBlank c = true)
    (hends : ((Scan.start.run a).step c).quoting = .outside) :
    (Scan.start.run a).quoting = .outside := by
  have hmarks := Scan.isQuote_of_mark? a
  generalize Scan.start.run a = s at hmarks hends
  obtain ⟨depth, quoting⟩ := s
  cases quoting with
  | outside => rfl
  | inside mark =>
    have hc : c ≠ mark := by
      rintro rfl
      exact absurd (hmarks c rfl) (by simp [(not_isQuote_of_isBlank h).1])
    simp only [Scan.step] at hends
    split at hends
    · cases hends
    · rw [if_neg (by simpa using hc)] at hends
      exact hends
  | escaped mark => cases hends

end Haml.Bracket
