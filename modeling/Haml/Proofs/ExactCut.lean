import Haml.Proofs.BracketPairs
import Mathlib.Data.List.Basic

/-!
# Where texts are cut

Both cuts are decided by the state of the scan alone, and the state after a text in front of another
is that after the text. A group ends as soon as the scan, having left depth zero by a bracket, is
back where it started, so it is the shortest start of the line after which that is so. The pieces
between separators are separated exactly at the separators that the scan meets in its first state:
nothing is lost between them, and parts that bring the scan back to that state are found again in
their join, even if they go below depth zero in between.
-/

namespace Haml.Bracket

variable {s : Scan} {a b p t line : Text} {c separator : Char}

/-- The text is not empty, and after it the scan is back at depth zero outside of strings. -/
def Returns (p : Text) : Prop := p ≠ [] ∧ Scan.start.run p = .start

instance (p : Text) : Decidable (Returns p) := inferInstanceAs (Decidable (_ ∧ _))

/-- A character that is shown does not start a string. -/
theorem Scan.quoting_step_of_shows (h : s.shows c = true) :
    s.quoting = .outside ∧ (s.step c).quoting = .outside := by
  obtain ⟨depth, quoting⟩ := s
  simp only [shows, Bool.and_eq_true, beq_iff_eq, Bool.not_eq_true'] at h
  obtain ⟨rfl, hquote⟩ := h
  refine ⟨rfl, ?_⟩
  simp only [step, hquote, Bool.false_eq_true, if_false]
  split
  · rfl
  · split <;> rfl

/-- What closes leads back to the first state. -/
theorem Closes.run_eq (h : Closes s p) : s.run p = .start := by
  obtain ⟨a, c, rfl, hshows, hdepth⟩ := h
  have hout : (s.run (a ++ [c])).quoting = .outside := by
    rw [Scan.run_append]
    exact (Scan.quoting_step_of_shows hshows).2
  rw [Scan.eq_raise hout, hdepth]
  rfl

/-- Without a cut, no depth that is shown is zero. -/
theorem ne_zero_of_closing? (h : closing? s t = none) : ∀ x ∈ shown s t, x.2 ≠ 0 := by
  induction t generalizing s with
  | nil => exact List.forall_mem_nil _
  | cons c t ih =>
    rw [closing?] at h
    split at h
    · cases h
    · rename_i hcut
      have hmore := ih (Option.map_eq_none_iff.mp h)
      rw [shown]
      split
      · rename_i hshows
        refine List.forall_mem_cons.mpr ⟨fun hzero => hcut ?_, hmore⟩
        simpa [hshows] using hzero
      · exact hmore

/-- A text that starts with a bracket and leads back to the first state is closed on the way. One
bracket is open after the first character, and it stays open until then. -/
theorem Returns.exists_closes (h : Returns p) (hopens : p.head?.any isOpener = true) :
    ∃ q, q <+: p ∧ Closes .start q := by
  cases hcut : closing? .start p with
  | some cut =>
    refine ⟨cut.group, ?_, (closes_of_closing? hcut).1⟩
    rw [← group_append_rest_of_closing? hcut]
    exact List.prefix_append _ _
  | none =>
    cases p with
    | nil => exact absurd rfl h.1
    | cons c t =>
      obtain ⟨-, hstep⟩ := step_opener (c := c) (by simpa using hopens)
      have hnone : ∀ x ∈ shown (Scan.start.raise 1) t, x.2 ≠ 0 := by
        intro x hx
        rw [← hstep] at hx
        exact ne_zero_of_closing? hcut x (mem_shown_cons hx)
      have hdepth := (one_le_depth (by decide) hnone).2
      rw [← hstep, ← Scan.run_cons, h.2] at hdepth
      exact absurd hdepth (by decide)

/-- A group comes back to the state that it starts in. -/
theorem IsGroup.returns (h : IsGroup a) : Returns a := ⟨h.ne_nil, h.closes.run_eq⟩

/-- A text starts with the first character of any start of it. -/
theorem head?_of_start (h : p <+: t) (hne : p ≠ []) : t.head? = p.head? := by
  obtain ⟨rest, rfl⟩ := h
  exact List.head?_append_of_ne_nil p hne

/-- Of all starts of a line after which the scan is back, the group is the shortest. -/
theorem IsGroup.le_returns (h : IsGroup a) (ha : a <+: line) (hp : p <+: line) (hr : Returns p) :
    a <+: p := by
  have hhead : p.head? = a.head? := by rw [← head?_of_start hp hr.1, head?_of_start ha h.ne_nil]
  obtain ⟨q, hq, hcloses⟩ := hr.exists_closes (hhead ▸ h.opens)
  obtain hle | hle := List.prefix_or_prefix_of_prefix (hq.trans hp) ha
  · rw [← h.least q hle hcloses]
    exact hq
  · exact hle.trans hq

/-- There is a group exactly if the line starts with a bracket and the scan comes back. -/
theorem splitBalanced_ne_nil_iff :
    (splitBalanced line).group ≠ [] ↔
      line.head?.any isOpener = true ∧ ∃ p, p <+: line ∧ Returns p := by
  constructor
  · intro h
    have hgroup := isGroup_splitBalanced h
    have hle : (splitBalanced line).group <+: line := ⟨_, splitBalanced_append line⟩
    refine ⟨?_, _, hle, hgroup.returns⟩
    rw [head?_of_start hle h]
    exact hgroup.opens
  · rintro ⟨hopens, p, hp, hr⟩
    obtain ⟨q, hq, hcloses⟩ := hr.exists_closes (head?_of_start hp hr.1 ▸ hopens)
    obtain ⟨c, rest, rfl⟩ := List.exists_cons_of_ne_nil (hp.ne_nil hr.1)
    rw [splitBalanced, if_pos (by simpa using hopens)]
    cases hcut : closing? .start (c :: rest) with
    | none => exact absurd hcloses (not_closes_of_closing? hcut (hq.trans hp))
    | some cut => exact (closes_of_closing? hcut).1.ne_nil

/-- The pieces make up the text. -/
theorem join_pieces (separator : Char) (s : Scan) (t : Text) :
    List.intercalate [separator] (pieces [separator] s t) = t := by
  induction t generalizing s with
  | nil => rfl
  | cons c t ih =>
    obtain ⟨piece, more, hpieces⟩ :=
      List.exists_cons_of_ne_nil (pieces_ne_nil [separator] (s.step c) t)
    have hjoin := ih (s.step c)
    rw [pieces]
    split
    · rename_i hcut
      simp only [Bool.and_eq_true, beq_iff_eq, List.cons.injEq, and_true] at hcut
      rw [hpieces] at hjoin ⊢
      rw [List.intercalate_cons_cons, hjoin, hcut.1.2, List.nil_append, List.singleton_append]
    · rw [hpieces] at hjoin ⊢
      rw [List.intercalate_cons_cons_left, hjoin]

section Separator

variable (hstep : Scan.start.shows separator = true ∧ Scan.start.step separator = .start)

include hstep

/-- Only in its first state does the scan take a separator for one. -/
theorem eq_start_of_separates (hshows : s.shows separator = true)
    (hdepth : (s.step separator).depth = 0) : s = .start := by
  have hs := Scan.eq_raise (Scan.quoting_step_of_shows hshows).1
  rw [hs, Scan.step_raise, hstep.2, ← hs] at hdepth
  rw [hs, hdepth]
  rfl

/-- Where the scan is back in its first state, a separator ends the pieces before it. -/
theorem pieces_cut (h : s.run a = .start) :
    pieces [separator] s (a ++ separator :: b) =
      pieces [separator] s a ++ pieces [separator] .start b := by
  induction a generalizing s with
  | nil =>
    obtain rfl : s = .start := h
    rw [List.nil_append, pieces_separator_cons hstep]
    rfl
  | cons c a ih =>
    rw [List.cons_append, pieces, pieces, ih h]
    split
    · rfl
    · cases hpieces : pieces [separator] (s.step c) a with
      | nil => exact absurd hpieces (pieces_ne_nil _ _ _)
      | cons piece more => rfl

/-- Between two pieces the scan is in its first state. -/
theorem run_join_of_pieces {first rest : List Text} (hfirst : first ≠ []) (hrest : rest ≠ [])
    (h : pieces [separator] s t = first ++ rest) :
    s.run (List.intercalate [separator] first) = .start := by
  induction t generalizing s first with
  | nil =>
    obtain ⟨piece, more, rfl⟩ := List.exists_cons_of_ne_nil hfirst
    obtain ⟨next, others, rfl⟩ := List.exists_cons_of_ne_nil hrest
    simp [pieces] at h
  | cons c t ih =>
    obtain ⟨piece, more, rfl⟩ := List.exists_cons_of_ne_nil hfirst
    rw [pieces] at h
    split at h
    · rename_i hcut
      obtain ⟨rfl, hpieces⟩ := List.cons.inj h
      simp only [Bool.and_eq_true, beq_iff_eq, List.cons.injEq, and_true] at hcut
      obtain ⟨⟨hshows, rfl⟩, hdepth⟩ := hcut
      cases more with
      | nil => exact eq_start_of_separates hstep hshows hdepth
      | cons next more =>
        rw [List.intercalate_cons_cons, List.nil_append, List.singleton_append, Scan.run_cons]
        exact ih (List.cons_ne_nil _ _) hpieces
    · obtain ⟨head, others, hpieces⟩ :=
        List.exists_cons_of_ne_nil (pieces_ne_nil [separator] (s.step c) t)
      rw [hpieces] at h
      obtain ⟨rfl, rfl⟩ := List.cons.inj h
      rw [List.intercalate_cons_cons_left, Scan.run_cons]
      exact ih (List.cons_ne_nil head more) hpieces

/-- The pieces are cut at the separators that the scan meets in its first state. -/
theorem run_eq_start_iff (before after : Text) :
    Scan.start.run before = .start ↔ ∃ first rest, first ≠ [] ∧ rest ≠ [] ∧
      pieces [separator] .start (before ++ separator :: after) = first ++ rest ∧
      before = List.intercalate [separator] first ∧ after = List.intercalate [separator] rest := by
  constructor
  · intro h
    exact ⟨_, _, pieces_ne_nil _ _ _, pieces_ne_nil _ _ _, pieces_cut hstep h,
      (join_pieces _ _ _).symm, (join_pieces _ _ _).symm⟩
  · rintro ⟨first, rest, hfirst, hrest, hpieces, rfl, -⟩
    exact run_join_of_pieces hstep hfirst hrest hpieces

end Separator

/-- A list of pieces whose join is the text, with a cut between two pieces wherever a separator
stands at depth zero outside of strings, and nowhere else. -/
structure CutsAt (separator : Char) (t : Text) (ps : List Text) : Prop where
  /-- The pieces with the separator between them are the text. -/
  join : List.intercalate [separator] ps = t
  /-- A separator is one between pieces exactly if the scan is back before it. -/
  cuts : ∀ before after, t = before ++ separator :: after →
    (Scan.start.run before = .start ↔ ∃ first rest, first ≠ [] ∧ rest ≠ [] ∧ ps = first ++ rest ∧
      before = List.intercalate [separator] first ∧ after = List.intercalate [separator] rest)

/-- Both cuts are exact. The group and the rest make up the line. There is a group exactly if the
line starts with a bracket and the scan comes back to depth zero outside of strings; then the group
is the shortest start of the line after which that is so, and it is the group whatever follows it.
Parts that are not blank, bring the scan back and show no comma at depth zero are what the text
joined from them is split into. Every text is split into the pieces that are not blank of a list
that cuts it exactly at the commas at depth zero outside of strings. -/
theorem splits_exactly :
    (∀ line, (splitBalanced line).group ++ (splitBalanced line).rest = line ∧
      ((splitBalanced line).group ≠ [] ↔
        line.head?.any isOpener = true ∧ ∃ p, p <+: line ∧ Returns p) ∧
      ((splitBalanced line).group ≠ [] →
        Returns (splitBalanced line).group ∧
        (∀ p, p <+: line → Returns p → (splitBalanced line).group <+: p) ∧
        ∀ rest, splitBalanced ((splitBalanced line).group ++ rest) =
          ⟨(splitBalanced line).group, rest⟩)) ∧
    (∀ parts : List Text,
      (∀ p ∈ parts, Text.isAllBlank p = false ∧ Scan.start.run p = .start ∧
        (',', 0) ∉ shown .start p) →
      splitTopLevel [','] (List.intercalate [','] parts) = parts) ∧
    ∀ t, ∃ ps, CutsAt ',' t ps ∧ splitTopLevel [','] t = ps.filter fun p => !Text.isAllBlank p := by
  refine ⟨fun line => ⟨splitBalanced_append line, splitBalanced_ne_nil_iff, fun h => ?_⟩,
    fun parts h => ?_, fun t => ⟨pieces [','] .start t, ⟨join_pieces _ _ _, ?_⟩, rfl⟩⟩
  · have hgroup := isGroup_splitBalanced h
    exact ⟨hgroup.returns, fun p => hgroup.le_returns ⟨_, splitBalanced_append line⟩,
      hgroup.splitBalanced_append⟩
  · cases parts with
    | nil => rfl
    | cons part parts =>
      rw [splitTopLevel, pieces_join ⟨rfl, rfl⟩ fun p hp => (h p hp).2, List.filter_eq_self]
      intro p hp
      rw [(h p hp).1]
      rfl
  · rintro before after rfl
    exact run_eq_start_iff ⟨rfl, rfl⟩ before after

/-- A line with a bracket in a string, and parts with commas in brackets and strings and with a
depth below zero. -/
theorem splits_exactly_call :
    (splitBalanced "(a, ')' [1]) + (b)".toList).group = "(a, ')' [1])".toList ∧
    Returns "(a, ')' [1])".toList ∧
    splitBalanced ("(a, ')' [1])".toList ++ "]x".toList) = ⟨"(a, ')' [1])".toList, "]x".toList⟩ ∧
    splitTopLevel [',']
        (List.intercalate [','] ["f(1, 2)".toList, " 'a,\\',b'".toList, ")(".toList]) =
      ["f(1, 2)".toList, " 'a,\\',b'".toList, ")(".toList] := by
  obtain ⟨hgroups, hparts, -⟩ := splits_exactly
  have hgroup : (splitBalanced "(a, ')' [1]) + (b)".toList).group = "(a, ')' [1])".toList := by
    decide +kernel
  have hexact := (hgroups "(a, ')' [1]) + (b)".toList).2.2 (by rw [hgroup]; decide)
  rw [hgroup] at hexact
  refine ⟨hgroup, hexact.1, hexact.2.2 _, hparts _ fun p hp => ?_⟩
  have hscan : (["f(1, 2)".toList, " 'a,\\',b'".toList, ")(".toList].all fun p =>
      !Text.isAllBlank p && Scan.start.run p == .start && !(shown .start p).contains (',', 0)) =
        true := by decide +kernel
  have hp := List.all_eq_true.mp hscan p hp
  simpa [Bool.and_eq_true, and_assoc] using hp

end Haml.Bracket
