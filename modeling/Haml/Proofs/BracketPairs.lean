import Haml.Proofs.BracketScan
import Mathlib.Logic.ExistsUnique

/-!
# Brackets that close each other

A closing bracket closes the opening bracket before it from which the text in between closes all
that it opens. The scan counts the three kinds of brackets alike, so in a group every closing
bracket closes exactly one opening bracket and the last closes the first, but the two may be of
different kinds. They are of one kind throughout exactly if the group is properly nested, which is
said by a grammar without the scan.
-/

namespace Haml.Bracket

variable {s : Scan} {a b t g body inner : Text} {c o mark : Char}

/-- An opening bracket is no quote. -/
theorem isQuote_eq_false_of_isOpener (h : isOpener c = true) : isQuote c = false := by
  simp only [isOpener, Bool.or_eq_true, beq_iff_eq] at h
  obtain (rfl | rfl) | rfl := h <;> decide

/-- A closing bracket is neither a quote nor an opening bracket. -/
theorem isQuote_eq_false_of_isCloser (h : isCloser c = true) :
    isQuote c = false ∧ isOpener c = false := by
  simp only [isCloser, Bool.or_eq_true, beq_iff_eq] at h
  obtain (rfl | rfl) | rfl := h <;> decide

/-- Raising a state adds to its depth. -/
@[simp] theorem Scan.depth_raise (n : Int) (s : Scan) : (s.raise n).depth = s.depth + n := rfl

/-- Raising a state does not change where it is in strings. -/
@[simp] theorem Scan.quoting_raise (n : Int) (s : Scan) : (s.raise n).quoting = s.quoting := rfl

/-- Outside of strings a scan is that from the start, at another depth. -/
theorem Scan.eq_raise (h : s.quoting = .outside) : s = Scan.start.raise s.depth := by
  obtain ⟨depth, quoting⟩ := s
  obtain rfl : quoting = .outside := h
  simp [start, raise]

/-- Outside of strings a scan goes as from the start, at another depth. -/
theorem Scan.run_of_outside (h : s.quoting = .outside) (t : Text) :
    s.run t = (Scan.start.run t).raise s.depth := by
  rw [← run_raise, ← eq_raise h]

/-- Outside of strings a scan comes into strings as from the start. -/
theorem Scan.quoting_run_of_outside (h : s.quoting = .outside) (t : Text) :
    (s.run t).quoting = (Scan.start.run t).quoting := by
  rw [run_of_outside h, quoting_raise]

/-- Outside of strings an opening bracket counts and goes one level deeper. -/
theorem Scan.step_of_isOpener (h : s.quoting = .outside) (hc : isOpener c = true) :
    s.shows c = true ∧ s.step c = s.raise 1 := by
  obtain ⟨depth, quoting⟩ := s
  obtain rfl : quoting = .outside := h
  simp [shows, step, raise, hc, isQuote_eq_false_of_isOpener hc]

/-- Outside of strings a closing bracket counts and comes back one level. -/
theorem Scan.step_of_isCloser (h : s.quoting = .outside) (hc : isCloser c = true) :
    s.shows c = true ∧ s.step c = s.raise (-1) := by
  obtain ⟨hquote, hopener⟩ := isQuote_eq_false_of_isCloser hc
  obtain ⟨depth, quoting⟩ := s
  obtain rfl : quoting = .outside := h
  simp [shows, step, raise, hc, hquote, hopener, Int.sub_eq_add_neg]

/-- The depth changes at brackets outside of strings only. -/
theorem Scan.step_cases (s : Scan) (c : Char) :
    (s.quoting = .outside ∧ isOpener c = true ∧ s.step c = s.raise 1) ∨
    (s.quoting = .outside ∧ isCloser c = true ∧ s.step c = s.raise (-1)) ∨
    (s.step c).depth = s.depth := by
  obtain ⟨depth, quoting⟩ := s
  cases quoting with
  | outside =>
    by_cases hopener : isOpener c = true
    · exact .inl ⟨rfl, hopener, (step_of_isOpener rfl hopener).2⟩
    by_cases hcloser : isCloser c = true
    · exact .inr (.inl ⟨rfl, hcloser, (step_of_isCloser rfl hcloser).2⟩)
    refine .inr (.inr ?_)
    simp only [step, hopener, hcloser]
    split <;> rfl
  | inside mark =>
    refine .inr (.inr ?_)
    simp only [step]
    split
    · rfl
    · split <;> rfl
  | escaped mark => exact .inr (.inr rfl)

/-- A step that keeps the depth keeps it whatever the depth is. -/
theorem Scan.step_ground (h : (s.step c).depth = s.depth) :
    Scan.step ⟨0, s.quoting⟩ c = ⟨0, (s.step c).quoting⟩ := by
  have hstep : s.step c = (Scan.step ⟨0, s.quoting⟩ c).raise s.depth := by
    rw [← step_raise]
    simp [raise]
  rw [hstep] at h ⊢
  generalize Scan.step ⟨0, s.quoting⟩ c = next at h ⊢
  rw [depth_raise] at h
  have hzero : next.depth = 0 := by omega
  rw [quoting_raise, ← hzero]

/-- A depth that is not shown is the one before. -/
theorem Scan.depth_run (s : Scan) (t : Text) :
    (s.run t).depth = s.depth ∨ ∃ x ∈ shown s t, x.2 = (s.run t).depth := by
  induction t generalizing s with
  | nil => exact .inl rfl
  | cons c t ih =>
    rw [run_cons]
    obtain hsame | ⟨x, hx, hdepth⟩ := ih (s.step c)
    · have hbracket (hshows : s.shows c = true) : ∃ x ∈ shown s (c :: t),
          x.2 = ((s.step c).run t).depth := by
        refine ⟨(c, (s.step c).depth), ?_, hsame.symm⟩
        rw [shown, if_pos hshows]
        exact List.mem_cons_self
      obtain ⟨hout, hopener, -⟩ | ⟨hout, hcloser, -⟩ | hstep := s.step_cases c
      · exact .inr (hbracket (step_of_isOpener hout hopener).1)
      · exact .inr (hbracket (step_of_isCloser hout hcloser).1)
      · exact .inl (hsame.trans hstep)
    · exact .inr ⟨x, mem_shown_cons hx, hdepth⟩

/-- A balanced text never goes below where it starts. -/
theorem Balanced.depth_nonneg (h : Balanced (a ++ b)) : 0 ≤ (Scan.start.run a).depth := by
  obtain hsame | ⟨x, hx, hdepth⟩ := Scan.start.depth_run a
  · rw [hsame]
    exact Int.le_refl 0
  · rw [← hdepth]
    refine h.above x ?_
    rw [shown_append]
    exact List.mem_append_left _ hx

/-- A scan that is above zero and never comes back to it stays above. -/
theorem one_le_depth (hs : 1 ≤ s.depth) (h : ∀ x ∈ shown s t, x.2 ≠ 0) :
    (∀ x ∈ shown s t, 1 ≤ x.2) ∧ 1 ≤ (s.run t).depth := by
  induction t generalizing s with
  | nil => exact ⟨List.forall_mem_nil _, hs⟩
  | cons c t ih =>
    have hmore : ∀ x ∈ shown (s.step c) t, x.2 ≠ 0 := fun x hx => h x (mem_shown_cons hx)
    have hnext : 1 ≤ (s.step c).depth := by
      obtain ⟨-, -, hstep⟩ | ⟨hout, hcloser, hstep⟩ | hstep := s.step_cases c
      · rw [hstep, Scan.depth_raise]
        omega
      · have hne : (s.step c).depth ≠ 0 := by
          refine h (c, (s.step c).depth) ?_
          rw [shown, if_pos (Scan.step_of_isCloser hout hcloser).1]
          exact List.mem_cons_self
        rw [hstep, Scan.depth_raise] at hne ⊢
        omega
      · rw [hstep]
        exact hs
    obtain ⟨hall, hend⟩ := ih hnext hmore
    refine ⟨fun x hx => ?_, hend⟩
    rw [shown] at hx
    split at hx
    · obtain rfl | hx := List.mem_cons.mp hx
      · exact hnext
      · exact hall x hx
    · exact hall x hx

/-- The empty text is balanced. -/
theorem Balanced.nil : Balanced [] := ⟨rfl, by simp [shown]⟩

/-- A balanced text in brackets is balanced. -/
theorem Balanced.wrap (h : Balanced inner) (ho : isOpener o = true) (hc : isCloser c = true) :
    Balanced (o :: inner ++ [c]) := by
  obtain ⟨hshows, hopen⟩ := step_opener ho
  have hrun : Scan.start.run (o :: inner) = Scan.start.raise 1 := by
    rw [Scan.run_cons, hopen, Scan.run_raise, h.ends]
  obtain ⟨hcloses, hclose⟩ := Scan.step_of_isCloser (s := Scan.start.raise 1) rfl hc
  refine ⟨by rw [Scan.run_append, hrun, Scan.run_cons, hclose]; rfl, ?_⟩
  rw [shown_append, hrun, shown, if_pos hshows, hopen, shown_raise, shown, if_pos hcloses, hclose]
  intro x hx
  obtain hx | hx := List.mem_append.mp hx
  · obtain rfl | hx := List.mem_cons.mp hx
    · exact Int.one_nonneg
    · obtain ⟨y, hy, rfl⟩ := List.mem_map.mp hx
      have := h.above y hy
      dsimp only
      omega
  · obtain rfl := List.mem_singleton.mp hx
    exact Int.le_refl 0

/-- Balanced is what keeps to depth one when it starts there. -/
theorem balanced_of_raise (hout : ((Scan.start.raise 1).run t).quoting = .outside)
    (hdepth : ((Scan.start.raise 1).run t).depth = 1)
    (habove : ∀ x ∈ shown (Scan.start.raise 1) t, 1 ≤ x.2) : Balanced t := by
  rw [Scan.run_raise, Scan.quoting_raise] at hout
  rw [Scan.run_raise, Scan.depth_raise] at hdepth
  have hzero : (Scan.start.run t).depth = 0 := by omega
  refine ⟨by rw [Scan.eq_raise hout, hzero]; rfl, fun x hx => ?_⟩
  rw [shown_raise] at habove
  have := habove _ (List.mem_map_of_mem hx)
  dsimp only at this
  omega

/-- What a balanced text leaves is balanced, without a balanced start. -/
theorem Balanced.of_append (ha : Balanced a) (h : Balanced (a ++ b)) : Balanced b := by
  have hends := h.ends
  have habove := h.above
  rw [Scan.run_append, ha.ends] at hends
  rw [shown_append, ha.ends] at habove
  exact ⟨hends, fun x hx => habove x (List.mem_append_right _ hx)⟩

/-- An opening and a closing bracket with the text around and between them. -/
structure Pair where
  /-- The text before the opening bracket. -/
  before : Text
  /-- The opening bracket. -/
  opener : Char
  /-- The text between the brackets. -/
  inner : Text
  /-- The closing bracket. -/
  closer : Char
  /-- The text after the closing bracket. -/
  after : Text
deriving DecidableEq, Repr

/-- The closing bracket of the pair closes the opening one in a text: both are outside of strings,
and the text between them is balanced. -/
structure Pair.In (p : Pair) (t : Text) : Prop where
  /-- The parts of the pair make up the text. -/
  text : t = p.before ++ p.opener :: p.inner ++ p.closer :: p.after
  /-- The opening bracket is outside of strings. -/
  outside : (Scan.start.run p.before).quoting = .outside
  /-- It is an opening bracket. -/
  opener : isOpener p.opener = true
  /-- The text between the brackets is balanced. -/
  inner : Balanced p.inner
  /-- The closing bracket is one. -/
  closer : isCloser p.closer = true

/-- A pair stays one in a longer text, if the text in front ends outside of strings. -/
theorem Pair.In.within {p : Pair} (h : p.In t) (hfront : (Scan.start.run a).quoting = .outside)
    (b : Text) :
    Pair.In ⟨a ++ p.before, p.opener, p.inner, p.closer, p.after ++ b⟩ (a ++ t ++ b) := by
  refine ⟨?_, ?_, h.opener, h.inner, h.closer⟩
  · rw [h.text]
    simp only [List.append_assoc, List.cons_append]
  · rw [Scan.run_append, Scan.quoting_run_of_outside hfront]
    exact h.outside

/-- The bracket that opened the level that a text is at, and a rest that keeps to that level. The
last bracket decides: one that opens is the bracket itself, and behind one that closes the bracket
is looked for twice, first for the one that it closes and then before that. -/
theorem exists_opener (h : 1 ≤ (Scan.start.run t).depth) :
    ∃ before o inner, t = before ++ o :: inner ∧ isOpener o = true ∧
      Scan.start.run before = ⟨(Scan.start.run t).depth - 1, .outside⟩ ∧
      Scan.start.run inner = ⟨0, (Scan.start.run t).quoting⟩ ∧
      ∀ x ∈ shown .start inner, 0 ≤ x.2 := by
  induction hn : t.length using Nat.strongRecOn generalizing t with
  | ind n ih =>
    obtain rfl | ⟨front, c, rfl⟩ := List.eq_nil_or_concat t
    · exact absurd h (by decide)
    rw [List.concat_eq_append] at h hn ⊢
    have hlength : front.length < n := by
      rw [← hn, List.length_append]
      exact Nat.lt_succ_self _
    rw [Scan.run_append, Scan.run_cons, Scan.run_nil] at h ⊢
    obtain ⟨hout, hopener, hstep⟩ | ⟨hout, hcloser, hstep⟩ | hstep :=
      (Scan.start.run front).step_cases c
    · refine ⟨front, c, [], rfl, hopener, ?_, ?_, List.forall_mem_nil _⟩
      · rw [hstep, ← hout, Scan.depth_raise, Int.add_sub_cancel]
      · rw [hstep, Scan.quoting_raise, hout]
        rfl
    · rw [hstep, Scan.depth_raise] at h
      obtain ⟨between, o, inner, rfl, ho, hbefore, hinner, habove⟩ := ih _ hlength (by omega) rfl
      rw [hout] at hinner
      have hdepth : (Scan.start.run between).depth =
          (Scan.start.run (between ++ o :: inner)).depth - 1 := by rw [hbefore]
      have hbetween : between.length < n := by
        rw [List.length_append] at hlength
        omega
      obtain ⟨before, opener, first, rfl, hopener, hrun, hfirst, hlow⟩ :=
        ih _ hbetween (by omega) rfl
      rw [hbefore] at hrun hfirst
      have hball : Balanced (first ++ (o :: inner ++ [c])) :=
        Balanced.append ⟨hfirst, hlow⟩ (Balanced.wrap ⟨hinner, habove⟩ ho hcloser)
      refine ⟨before, opener, first ++ (o :: inner ++ [c]), by simp, hopener, ?_, ?_, hball.above⟩
      · rw [hstep, Scan.depth_raise]
        exact hrun
      · rw [hstep, Scan.quoting_raise, hout]
        exact hball.ends
    · rw [hstep] at h ⊢
      obtain ⟨before, o, inner, rfl, ho, hbefore, hinner, habove⟩ := ih _ hlength h rfl
      refine ⟨before, o, inner ++ [c], by simp, ho, hbefore, ?_, ?_⟩
      · rw [Scan.run_append, hinner, Scan.run_cons, Scan.step_ground hstep, Scan.run_nil]
      · rw [shown_append, hinner, shown, Scan.step_ground hstep]
        intro x hx
        obtain hx | hx := List.mem_append.mp hx
        · exact habove x hx
        · split at hx
          · obtain rfl := List.mem_singleton.mp hx
            exact Int.le_refl 0
          · cases hx

/-- No bracket that is opened in a balanced text is left open. -/
theorem not_balanced_append_cons (hout : (Scan.start.run a).quoting = .outside)
    (ho : isOpener o = true) (hinner : Balanced inner) : ¬Balanced (a ++ o :: inner) := by
  intro h
  have hnonneg := h.depth_nonneg
  have hrun : (Scan.start.run (a ++ o :: inner)).depth = (Scan.start.run a).depth + 1 := by
    rw [Scan.run_append, Scan.run_cons, (Scan.step_of_isOpener hout ho).2, Scan.run_raise,
      Scan.run_of_outside hout, hinner.ends]
    simp [Scan.start]
  have hzero : (Scan.start.run (a ++ o :: inner)).depth = 0 := by rw [h.ends]; rfl
  omega

/-- A closing bracket closes one bracket only. Of two brackets, the one that stands first would be
left open by the text between it and the closing bracket. -/
theorem opener_unique {before before' inner' : Text} {o' : Char}
    (h : before ++ o :: inner = before' ++ o' :: inner')
    (hout : (Scan.start.run before).quoting = .outside)
    (hout' : (Scan.start.run before').quoting = .outside)
    (ho : isOpener o = true) (ho' : isOpener o' = true)
    (hinner : Balanced inner) (hinner' : Balanced inner') :
    before = before' ∧ o = o' ∧ inner = inner' := by
  have hlater {front rest : Text} {first second : Char} (more : Text)
      (hfront : (Scan.start.run front).quoting = .outside)
      (hnext : (Scan.start.run (front ++ first :: more)).quoting = .outside)
      (hfirst : isOpener first = true) (hsecond : isOpener second = true) (hrest : Balanced rest) :
      ¬Balanced (more ++ second :: rest) := by
    refine not_balanced_append_cons ?_ hsecond hrest
    rw [Scan.run_append, Scan.run_cons, (Scan.step_of_isOpener hfront hfirst).2, Scan.run_raise,
      Scan.quoting_raise, Scan.quoting_run_of_outside hfront] at hnext
    exact hnext
  obtain ⟨more, rfl, hmore⟩ | ⟨more, rfl, hmore⟩ := List.append_eq_append_iff.mp h
  · cases more with
    | nil =>
      obtain ⟨rfl, rfl⟩ := List.cons.inj hmore
      exact ⟨(List.append_nil _).symm, rfl, rfl⟩
    | cons first more =>
      obtain ⟨rfl, rfl⟩ := List.cons.inj hmore
      exact absurd hinner (hlater more hout hout' ho ho' hinner')
  · cases more with
    | nil =>
      obtain ⟨rfl, rfl⟩ := List.cons.inj hmore
      exact ⟨List.append_nil _, rfl, rfl⟩
    | cons first more =>
      obtain ⟨rfl, rfl⟩ := List.cons.inj hmore
      exact absurd hinner' (hlater more hout' hout ho' ho hinner)

/-- Where depth zero is shown, a part of the text closes. -/
theorem exists_closes_of_mem_shown {x : Char × Int} (hx : x ∈ shown s t) (hzero : x.2 = 0) :
    ∃ p, p <+: t ∧ Closes s p := by
  induction t generalizing s with
  | nil => cases hx
  | cons c t ih =>
    have hmore (hx : x ∈ shown (s.step c) t) : ∃ p, p <+: c :: t ∧ Closes s p := by
      obtain ⟨p, hp, hcloses⟩ := ih hx
      exact ⟨c :: p, List.cons_prefix_cons.mpr ⟨rfl, hp⟩, closes_cons_iff.mpr (.inr hcloses)⟩
    rw [shown] at hx
    split at hx
    · rename_i hshows
      obtain rfl | hx := List.mem_cons.mp hx
      · exact ⟨[c], List.cons_prefix_cons.mpr ⟨rfl, List.nil_prefix⟩,
          closes_cons_iff.mpr (.inl ⟨rfl, hshows, hzero⟩)⟩
      · exact hmore hx
    · exact hmore hx

/-- A group is a pair of brackets around a balanced text. -/
theorem IsGroup.exists_pair (h : IsGroup g) :
    ∃ o inner c, g = o :: inner ++ [c] ∧ isOpener o = true ∧ Balanced inner ∧
      isCloser c = true := by
  obtain ⟨front, c, rfl, hshows, hdepth⟩ := h.closes
  have hnever : ∀ x ∈ shown .start front, x.2 ≠ 0 := by
    intro x hx hzero
    obtain ⟨p, hp, hcloses⟩ := exists_closes_of_mem_shown hx hzero
    have heq := h.least p (hp.trans (List.prefix_append _ _)) hcloses
    have hle := hp.length_le
    rw [heq, List.length_append] at hle
    exact Nat.not_succ_le_self _ hle
  cases front with
  | nil =>
    have hopener : isOpener c = true := h.opens
    rw [List.nil_append, Scan.run_cons, (step_opener hopener).2] at hdepth
    cases hdepth
  | cons o inner =>
    have hopener : isOpener o = true := h.opens
    obtain ⟨hshown, hopen⟩ := step_opener hopener
    rw [shown, if_pos hshown, hopen] at hnever
    obtain ⟨habove, hend⟩ := one_le_depth (s := Scan.start.raise 1) (Int.le_refl 1)
      (List.forall_mem_cons.mp hnever).2
    have hout : (Scan.start.run (o :: inner)).quoting = .outside := by
      rw [Scan.shows, Bool.and_eq_true, beq_iff_eq] at hshows
      exact hshows.1
    rw [Scan.run_append, Scan.run_cons, Scan.run_nil] at hdepth
    rw [Scan.run_cons, hopen] at hout hdepth
    obtain ⟨-, -, hstep⟩ | ⟨-, hcloser, hstep⟩ | hstep :=
      ((Scan.start.raise 1).run inner).step_cases c
    · rw [hstep, Scan.depth_raise] at hdepth
      omega
    · rw [hstep, Scan.depth_raise] at hdepth
      exact ⟨o, inner, c, rfl, hopener, balanced_of_raise hout (by omega) habove, hcloser⟩
    · omega

/-- A text that is back at depth zero has closed the bracket at its start. -/
theorem exists_group (ho : isOpener o = true) (h : (Scan.start.run (o :: t)).depth ≤ 0) :
    ∃ inner c rest, t = inner ++ c :: rest ∧ Balanced inner ∧ isCloser c = true := by
  obtain ⟨hshows, hopen⟩ := step_opener ho
  have hgroup : (splitBalanced (o :: t)).group ≠ [] := by
    intro hnone
    have hcut : closing? .start (o :: t) = none := by
      rw [splitBalanced, if_pos ho] at hnone
      cases hcut : closing? .start (o :: t) with
      | none => rfl
      | some cut =>
        rw [hcut] at hnone
        exact absurd hnone (closes_of_closing? hcut).1.ne_nil
    have hnever : ∀ x ∈ shown (Scan.start.raise 1) t, x.2 ≠ 0 := by
      intro x hx hzero
      have hmem : x ∈ shown .start (o :: t) := mem_shown_cons (by rwa [hopen])
      obtain ⟨p, hp, hcloses⟩ := exists_closes_of_mem_shown hmem hzero
      exact not_closes_of_closing? hcut hp hcloses
    have hend := (one_le_depth (s := Scan.start.raise 1) (Int.le_refl 1) hnever).2
    rw [Scan.run_cons, hopen] at h
    omega
  obtain ⟨first, inner, c, hpair, -, hinner, hc⟩ := (isGroup_splitBalanced hgroup).exists_pair
  have hall := splitBalanced_append (o :: t)
  rw [hpair, List.cons_append, List.cons_append] at hall
  obtain ⟨-, hrest⟩ := List.cons.inj hall
  exact ⟨inner, c, (splitBalanced (o :: t)).rest, by simpa using hrest.symm, hinner, hc⟩

/-- The closing bracket of the same kind. -/
def closerOf (c : Char) : Char := if c == '(' then ')' else if c == '[' then ']' else '\x7d'

/-- What closes a bracket is a closing bracket. -/
theorem isCloser_closerOf (c : Char) : isCloser (closerOf c) = true := by
  rw [closerOf]
  split
  · rfl
  · split <;> rfl

/-- The text of a string between its marks. -/
inductive IsStringBody (mark : Char) : Text → Prop where
  | nil : IsStringBody mark []
  | char {c : Char} {t : Text} (hc : c ≠ mark) (hescape : c ≠ '\\') :
      IsStringBody mark t → IsStringBody mark (c :: t)
  | escape {c : Char} {t : Text} : IsStringBody mark t → IsStringBody mark ('\\' :: c :: t)

/-- A text in which, strings aside, every bracket is closed by one of its kind. -/
inductive Nested : Text → Prop where
  | nil : Nested []
  | char {c : Char} {t : Text} (hquote : isQuote c = false) (hopener : isOpener c = false)
      (hcloser : isCloser c = false) : Nested t → Nested (c :: t)
  | string {mark : Char} {body t : Text} (hmark : isQuote mark = true)
      (hbody : IsStringBody mark body) : Nested t → Nested (mark :: body ++ [mark] ++ t)
  | group {o : Char} {inner t : Text} (ho : isOpener o = true) :
      Nested inner → Nested t → Nested (o :: inner ++ [closerOf o] ++ t)

/-- Every closing bracket is of the kind of the bracket that it closes. -/
def KindsAgree (t : Text) : Prop := ∀ p : Pair, p.In t → p.closer = closerOf p.opener

/-- A quote is no backslash. -/
theorem ne_backslash_of_isQuote (h : isQuote mark = true) : mark ≠ '\\' := by
  rintro rfl
  cases h

/-- Inside of a string only its mark and a backslash change anything. -/
theorem Scan.step_inside {depth : Int} (hc : c ≠ mark) (hescape : c ≠ '\\') :
    Scan.step ⟨depth, .inside mark⟩ c = ⟨depth, .inside mark⟩ := by
  simp only [step]
  rw [if_neg (by simpa using hescape), if_neg (by simpa using hc)]

/-- Its mark ends a string. -/
theorem Scan.step_mark {depth : Int} (hmark : mark ≠ '\\') :
    Scan.step ⟨depth, .inside mark⟩ mark = ⟨depth, .outside⟩ := by
  simp only [step]
  rw [if_neg (by simpa using hmark), if_pos (beq_self_eq_true mark)]

/-- The body of a string shows nothing and does not end it. -/
theorem IsStringBody.scan (hbody : IsStringBody mark body) (depth : Int) :
    shown ⟨depth, .inside mark⟩ body = [] ∧
      Scan.run ⟨depth, .inside mark⟩ body = ⟨depth, .inside mark⟩ := by
  induction hbody with
  | nil => exact ⟨rfl, rfl⟩
  | char hc hescape _ ih =>
    rw [shown, Scan.run_cons, Scan.step_inside hc hescape]
    simpa [Scan.shows] using ih
  | escape _ ih => exact ih

/-- A part of the body of a string is inside of it. -/
theorem IsStringBody.inside_of_prefix (hbody : IsStringBody mark body) (h : a <+: body)
    (depth : Int) : (Scan.run ⟨depth, .inside mark⟩ a).quoting ≠ .outside := by
  induction hbody generalizing a with
  | nil =>
    obtain rfl := List.prefix_nil.mp h
    simp
  | char hc hescape _ ih =>
    cases a with
    | nil => simp
    | cons d a =>
      obtain ⟨rfl, ha⟩ := List.cons_prefix_cons.mp h
      rw [Scan.run_cons, Scan.step_inside hc hescape]
      exact ih ha
  | escape _ ih =>
    cases a with
    | nil => simp
    | cons d a =>
      obtain ⟨rfl, ha⟩ := List.cons_prefix_cons.mp h
      cases a with
      | nil => simp [Scan.step]
      | cons e a => exact ih (a := a) (List.cons_prefix_cons.mp ha).2

/-- A string that ends has a body. After a backslash one more character belongs to it. -/
theorem exists_isStringBody (depth : Int) (mark : Char) (t : Text) :
    ((Scan.run ⟨depth, .inside mark⟩ t).quoting = .outside →
      ∃ body rest, t = body ++ [mark] ++ rest ∧ IsStringBody mark body) ∧
    ((Scan.run ⟨depth, .escaped mark⟩ t).quoting = .outside →
      ∃ c body rest, t = c :: body ++ [mark] ++ rest ∧ IsStringBody mark body) := by
  induction t with
  | nil => refine ⟨fun h => ?_, fun h => ?_⟩ <;> cases h
  | cons c t ih =>
    refine ⟨fun h => ?_, fun h => ?_⟩
    · by_cases hescape : c = '\\'
      · subst hescape
        obtain ⟨d, body, rest, rfl, hbody⟩ := ih.2 h
        exact ⟨'\\' :: d :: body, rest, rfl, .escape hbody⟩
      by_cases hc : c = mark
      · subst hc
        exact ⟨[], t, rfl, .nil⟩
      · rw [Scan.run_cons, Scan.step_inside hc hescape] at h
        obtain ⟨body, rest, rfl, hbody⟩ := ih.1 h
        exact ⟨c :: body, rest, rfl, .char hc hescape hbody⟩
    · obtain ⟨body, rest, rfl, hbody⟩ := ih.1 h
      exact ⟨c, body, rest, rfl, hbody⟩

/-- A character that is neither a quote nor a bracket is balanced. -/
theorem balanced_char (hquote : isQuote c = false) (hopener : isOpener c = false)
    (hcloser : isCloser c = false) : Balanced [c] := by
  have hstep : Scan.start.step c = .start := by
    simp [Scan.start, Scan.step, hquote, hopener, hcloser]
  refine ⟨hstep, fun x hx => ?_⟩
  rw [shown, hstep] at hx
  split at hx
  · obtain rfl := List.mem_singleton.mp hx
    exact Int.le_refl 0
  · cases hx

/-- A string is balanced, whatever brackets are in it. -/
theorem balanced_string (hmark : isQuote mark = true) (hbody : IsStringBody mark body) :
    Balanced (mark :: body ++ [mark]) := by
  have hopen : Scan.start.step mark = ⟨0, .inside mark⟩ := by simp [Scan.start, Scan.step, hmark]
  obtain ⟨hshown, hrun⟩ := hbody.scan 0
  have hclose : Scan.step ⟨0, .inside mark⟩ mark = .start :=
    Scan.step_mark (ne_backslash_of_isQuote hmark)
  refine ⟨by rw [List.cons_append, Scan.run_cons, hopen, Scan.run_append, hrun, Scan.run_cons,
    hclose, Scan.run_nil], ?_⟩
  rw [List.cons_append, shown, hopen, shown_append, hshown, hrun, shown, hclose]
  simp [Scan.shows, hmark, shown]

/-- A properly nested text is balanced. -/
theorem Nested.balanced (h : Nested t) : Balanced t := by
  induction h with
  | nil => exact .nil
  | char hquote hopener hcloser _ ih => exact (balanced_char hquote hopener hcloser).append ih
  | string hmark hbody _ ih => exact (balanced_string hmark hbody).append ih
  | group ho _ _ ihInner ih => exact (ihInner.wrap ho (isCloser_closerOf _)).append ih

/-- An opening bracket at the start is outside of strings. -/
theorem outside_opener (h : isOpener o = true) :
    (Scan.start.run [o]).quoting = .outside := by
  rw [Scan.run_cons, (step_opener h).2]
  rfl

/-- Brackets agree in a part of a text that starts outside of strings. -/
theorem KindsAgree.part (front back : Text) (h : KindsAgree (front ++ t ++ back))
    (hfront : (Scan.start.run front).quoting = .outside) : KindsAgree t := by
  intro p hp
  exact h ⟨front ++ p.before, p.opener, p.inner, p.closer, p.after ++ back⟩ (hp.within hfront back)

/-- A balanced text in which the kinds agree is properly nested. What follows a balanced start is
balanced again, and shorter. -/
theorem nested_of_kindsAgree (hbalanced : Balanced t) (h : KindsAgree t) : Nested t := by
  induction hn : t.length using Nat.strongRecOn generalizing t with
  | ind n ih =>
    have hrest (first rest : Text) (ht : t = first ++ rest) (hne : first ≠ [])
        (hfirst : Balanced first) : Nested rest := by
      subst ht
      refine ih rest.length ?_ (hfirst.of_append hbalanced) (.part first [] ?_ ?_) rfl
      · have := List.length_pos_iff.mpr hne
        rw [← hn, List.length_append]
        omega
      · rwa [List.append_nil]
      · rw [hfirst.ends]
        rfl
    cases t with
    | nil => exact .nil
    | cons c t =>
      by_cases hquote : isQuote c = true
      · have hopen : Scan.start.step c = ⟨0, .inside c⟩ := by simp [Scan.start, Scan.step, hquote]
        have hends : (Scan.start.run (c :: t)).quoting = .outside := by rw [hbalanced.ends]; rfl
        rw [Scan.run_cons, hopen] at hends
        obtain ⟨body, rest, rfl, hbody⟩ := (exists_isStringBody _ _ _).1 hends
        exact .string hquote hbody
          (hrest (c :: body ++ [c]) rest rfl (List.cons_ne_nil _ _) (balanced_string hquote hbody))
      by_cases hopener : isOpener c = true
      · have hzero : (Scan.start.run (c :: t)).depth ≤ 0 := by
          rw [hbalanced.ends]
          exact Int.le_refl 0
        obtain ⟨inner, d, rest, rfl, hinner, hd⟩ := exists_group hopener hzero
        have hpair : d = closerOf c :=
          h ⟨[], c, inner, d, rest⟩ ⟨rfl, rfl, hopener, hinner, hd⟩
        have hnested : Nested inner := by
          refine ih inner.length ?_ hinner (.part [c] (d :: rest) ?_ ?_) rfl
          · rw [← hn, List.length_cons, List.length_append]
            omega
          · simpa using h
          · exact outside_opener hopener
        rw [hpair] at hrest ⊢
        have hall : c :: (inner ++ closerOf c :: rest) = c :: inner ++ [closerOf c] ++ rest := by
          simp
        rw [hall] at hrest ⊢
        exact .group hopener hnested
          (hrest _ rest rfl (List.cons_ne_nil _ _) (hinner.wrap hopener (isCloser_closerOf c)))
      by_cases hcloser : isCloser c = true
      · obtain ⟨hshows, hstep⟩ := Scan.step_of_isCloser (s := .start) rfl hcloser
        have hlow := hbalanced.above (c, (Scan.start.step c).depth) (by simp [shown, hshows])
        rw [hstep] at hlow
        cases hlow
      · rw [Bool.not_eq_true] at hquote hopener hcloser
        exact .char hquote hopener hcloser
          (hrest [c] t rfl (List.cons_ne_nil _ _) (balanced_char hquote hopener hcloser))

/-- A cut of two texts in a row is a cut of the first or of the second. -/
theorem cut_append {first rest before after : Text}
    (h : first ++ rest = before ++ c :: after) :
    (∃ more, first = before ++ c :: more ∧ after = more ++ rest) ∨
      ∃ more, before = first ++ more ∧ rest = more ++ c :: after := by
  obtain ⟨more, hbefore, hrest⟩ | ⟨more, hfirst, hafter⟩ := List.append_eq_append_iff.mp h
  · exact .inr ⟨more, hbefore, hrest⟩
  · cases more with
    | nil => exact .inr ⟨[], by simpa using hfirst.symm, hafter.symm⟩
    | cons d more =>
      obtain ⟨rfl, rfl⟩ := List.cons.inj hafter
      exact .inl ⟨more, hfirst, rfl⟩

/-- No character of a string is outside of it but its first mark. -/
theorem eq_mark_of_outside (hmark : isQuote mark = true) (hbody : IsStringBody mark body)
    {before after : Text} (h : mark :: body ++ [mark] = before ++ c :: after)
    (hout : (Scan.start.run before).quoting = .outside) : c = mark := by
  cases before with
  | nil => exact (List.cons.inj h).1.symm
  | cons d before =>
    obtain ⟨rfl, hrest⟩ := List.cons.inj h
    obtain ⟨more, rfl, -⟩ | ⟨more, -, hlast⟩ := cut_append hrest
    · have hopen : Scan.start.step mark = ⟨0, .inside mark⟩ := by
        simp [Scan.start, Scan.step, hmark]
      rw [Scan.run_cons, hopen] at hout
      exact absurd hout (hbody.inside_of_prefix (List.prefix_append _ _) 0)
    · have hmem : c ∈ [mark] := by rw [hlast]; simp
      exact List.mem_singleton.mp hmem

/-- The closing bracket before a rest of the text closes a bracket of its kind. -/
def ClosesKind (t : Text) (c : Char) (after : Text) : Prop :=
  ∃ p : Pair, p.In t ∧ p.closer = c ∧ p.after = after ∧ c = closerOf p.opener

/-- What a bracket closes does not depend on the text around, if that leaves no string open. -/
theorem ClosesKind.within {after : Text} (h : ClosesKind t c after)
    (hfront : (Scan.start.run a).quoting = .outside) (b : Text) :
    ClosesKind (a ++ t ++ b) c (after ++ b) := by
  obtain ⟨p, hp, rfl, rfl, hkind⟩ := h
  exact ⟨_, hp.within hfront b, rfl, rfl, hkind⟩

/-- A balanced text in front changes nothing. -/
theorem ClosesKind.behind {after : Text} (h : ClosesKind t c after) (ha : Balanced a) :
    ClosesKind (a ++ t) c after := by
  have hwithin := h.within (a := a) (by rw [ha.ends]; rfl) []
  rwa [List.append_nil, List.append_nil] at hwithin

/-- In a properly nested text every closing bracket closes a bracket of its kind. Behind a balanced
part the scan is where it was at the start. -/
theorem Nested.closesKind (h : Nested t) {before after : Text} (ht : t = before ++ c :: after)
    (hout : (Scan.start.run before).quoting = .outside) (hc : isCloser c = true) :
    ClosesKind t c after := by
  have hstart {first more : Text} (hfirst : Balanced first)
      (hout : (Scan.start.run (first ++ more)).quoting = .outside) :
      (Scan.start.run more).quoting = .outside := by
    rwa [Scan.run_append, hfirst.ends] at hout
  obtain ⟨hquote, hopener⟩ := isQuote_eq_false_of_isCloser hc
  induction h generalizing before after with
  | nil => simp at ht
  | @char d t hd hd' hd'' _ ih =>
    have hfirst := balanced_char hd hd' hd''
    obtain ⟨more, heq, -⟩ | ⟨more, rfl, rfl⟩ := cut_append (show [d] ++ t = _ from ht)
    · have hmem : c ∈ [d] := by rw [heq]; simp
      rw [List.mem_singleton.mp hmem, hd''] at hc
      cases hc
    · exact (ih rfl (hstart hfirst hout)).behind hfirst
  | @string mark body t hmark hbody _ ih =>
    have hfirst := balanced_string hmark hbody
    obtain ⟨more, heq, -⟩ | ⟨more, rfl, rfl⟩ := cut_append ht
    · rw [eq_mark_of_outside hmark hbody heq hout, hmark] at hquote
      cases hquote
    · exact (ih rfl (hstart hfirst hout)).behind hfirst
  | @group o inner t ho hinner _ ihInner ih =>
    have hfirst := hinner.balanced.wrap ho (isCloser_closerOf o)
    obtain ⟨more, heq, rfl⟩ | ⟨more, rfl, rfl⟩ := cut_append ht
    · cases before with
      | nil =>
        rw [← (List.cons.inj heq).1, ho] at hopener
        cases hopener
      | cons d before =>
        obtain ⟨rfl, hrest⟩ := List.cons.inj heq
        obtain ⟨rest, rfl, rfl⟩ | ⟨rest, rfl, hlast⟩ := cut_append hrest
        · rw [Scan.run_cons, (step_opener ho).2, Scan.run_raise, Scan.quoting_raise] at hout
          simpa using (ihInner rfl hout).within (outside_opener ho) (closerOf o :: t)
        · obtain ⟨rfl, rfl, rfl⟩ : rest = [] ∧ closerOf o = c ∧ more = [] := by
            cases rest with
            | nil => simpa [eq_comm] using hlast
            | cons d rest => simp at hlast
          exact ⟨⟨[], o, inner, closerOf o, t⟩, ⟨by simp, rfl, ho, hinner.balanced,
            isCloser_closerOf o⟩, rfl, rfl, rfl⟩
    · exact (ih rfl (hstart hfirst hout)).behind hfirst

/-- In a properly nested text the kinds agree, since a closing bracket closes one bracket only. -/
theorem Nested.kindsAgree (h : Nested t) : KindsAgree t := by
  intro p hp
  have hout : (Scan.start.run (p.before ++ p.opener :: p.inner)).quoting = .outside := by
    rw [Scan.run_append, Scan.run_cons, (Scan.step_of_isOpener hp.outside hp.opener).2,
      Scan.run_raise, Scan.quoting_raise, Scan.quoting_run_of_outside hp.outside, hp.inner.ends]
    rfl
  obtain ⟨other, hother, hcloser, hafter, hkind⟩ := h.closesKind hp.text hout hp.closer
  have heq := hother.text
  rw [hcloser, hafter, hp.text] at heq
  obtain ⟨-, hsame, -⟩ := opener_unique (List.append_cancel_right heq) hp.outside hother.outside
    hp.opener hother.opener hp.inner hother.inner
  rw [hkind, hsame]

/-- The pair that starts a text is its leading group. -/
theorem Pair.In.splitBalanced {p : Pair} (h : p.In t) (hfirst : p.before = []) :
    splitBalanced t = ⟨p.opener :: p.inner ++ [p.closer], p.after⟩ := by
  rw [h.text, hfirst]
  exact splitBalanced_group h.inner p.after h.opener h.closer

/-- Before its last character a group is above depth zero. -/
theorem IsGroup.one_le_depth (h : IsGroup g) {before after : Text} (hg : g = before ++ c :: after)
    (hbefore : before ≠ []) : 1 ≤ (Scan.start.run before).depth := by
  obtain ⟨o, inner, d, hpair, ho, hinner, -⟩ := h.exists_pair
  cases before with
  | nil => exact absurd rfl hbefore
  | cons first before =>
    obtain ⟨rfl, heq⟩ := List.cons.inj (hpair.symm.trans hg)
    obtain ⟨more, hmore⟩ : ∃ more, inner = before ++ more := by
      obtain ⟨more, hinner, -⟩ | ⟨more, hbefore, hlast⟩ := cut_append heq
      · exact ⟨_, hinner⟩
      · cases more with
        | nil => exact ⟨[], by simpa using hbefore.symm⟩
        | cons d more => simp at hlast
    rw [hmore] at hinner
    have hnonneg := hinner.depth_nonneg
    rw [Scan.run_cons, (step_opener ho).2, Scan.run_raise, Scan.depth_raise]
    omega

/-- Every closing bracket of a group closes exactly one bracket of it. -/
theorem IsGroup.existsUnique_pair (h : IsGroup g) {before after : Text}
    (hg : g = before ++ c :: after) (hout : (Scan.start.run before).quoting = .outside)
    (hc : isCloser c = true) : ∃! p : Pair, p.In g ∧ p.closer = c ∧ p.after = after := by
  have hbefore : before ≠ [] := by
    rintro rfl
    have hopener : isOpener c = true := by simpa [hg] using h.opens
    rw [(isQuote_eq_false_of_isCloser hc).2] at hopener
    cases hopener
  obtain ⟨front, o, inner, rfl, ho, hfront, hinner, habove⟩ :=
    exists_opener (h.one_le_depth hg hbefore)
  rw [hout] at hinner
  have houtside : (Scan.start.run front).quoting = .outside := by rw [hfront]
  refine ⟨⟨front, o, inner, c, after⟩,
    ⟨⟨hg, houtside, ho, ⟨hinner, habove⟩, hc⟩, rfl, rfl⟩, ?_⟩
  rintro ⟨front', o', inner', c', after'⟩ ⟨hp, rfl, rfl⟩
  obtain ⟨rfl, rfl, rfl⟩ := opener_unique (List.append_cancel_right (hp.text.symm.trans hg))
    hp.outside houtside hp.opener ho hp.inner ⟨hinner, habove⟩
  rfl

/-- There is a group exactly if some closing bracket, of whatever kind, closes the bracket at the
start of the line. It then goes from the one to the other, and every closing bracket in it closes
exactly one bracket of it. It has the kinds of its brackets right exactly if the line starts with a
properly nested group. -/
theorem splitBalanced_kinds (line : Text) :
    ((splitBalanced line).group ≠ [] ↔ ∃ p : Pair, p.In line ∧ p.before = []) ∧
    (∀ p : Pair, p.In line → p.before = [] →
      splitBalanced line = ⟨p.opener :: p.inner ++ [p.closer], p.after⟩) ∧
    (∀ before c after, (splitBalanced line).group = before ++ c :: after →
      (Scan.start.run before).quoting = .outside → isCloser c = true →
        ∃! p : Pair, p.In (splitBalanced line).group ∧ p.closer = c ∧ p.after = after) ∧
    (((splitBalanced line).group ≠ [] ∧ KindsAgree (splitBalanced line).group) ↔
      ∃ o inner rest, isOpener o = true ∧ Nested inner ∧
        line = o :: inner ++ closerOf o :: rest) := by
  have hgroup : (splitBalanced line).group ≠ [] → ∃ p : Pair, p.In line ∧ p.before = [] := by
    intro hne
    obtain ⟨o, inner, c, hpair, ho, hinner, hc⟩ := (isGroup_splitBalanced hne).exists_pair
    refine ⟨⟨[], o, inner, c, (splitBalanced line).rest⟩, ⟨?_, rfl, ho, hinner, hc⟩, rfl⟩
    have hall := splitBalanced_append line
    rw [hpair] at hall
    simpa using hall.symm
  refine ⟨⟨hgroup, ?_⟩, fun p hp hfirst => hp.splitBalanced hfirst, ?_, ?_, ?_⟩
  · rintro ⟨p, hp, hfirst⟩
    rw [hp.splitBalanced hfirst]
    exact List.cons_ne_nil _ _
  · intro before c after hcut hout hc
    have hne : (splitBalanced line).group ≠ [] := by
      rw [hcut]
      simp
    exact (isGroup_splitBalanced hne).existsUnique_pair hcut hout hc
  · rintro ⟨hne, hkinds⟩
    obtain ⟨p, hp, hfirst⟩ := hgroup hne
    rw [hp.splitBalanced hfirst] at hkinds
    have hkind : p.closer = closerOf p.opener :=
      hkinds ⟨[], p.opener, p.inner, p.closer, []⟩ ⟨rfl, rfl, hp.opener, hp.inner, hp.closer⟩
    refine ⟨p.opener, p.inner, p.after, hp.opener, nested_of_kindsAgree hp.inner
      (.part [p.opener] [p.closer] hkinds (outside_opener hp.opener)), ?_⟩
    rw [← hkind]
    simpa [hfirst] using hp.text
  · rintro ⟨o, inner, rest, ho, hinner, rfl⟩
    rw [splitBalanced_group hinner.balanced rest ho (isCloser_closerOf o)]
    have hnested := Nested.group ho hinner .nil
    rw [List.append_nil] at hnested
    exact ⟨List.cons_ne_nil _ _, hnested.kindsAgree⟩

example : splitBalanced "(a]b".toList = ⟨"(a]".toList, "b".toList⟩ := by decide

end Haml.Bracket
