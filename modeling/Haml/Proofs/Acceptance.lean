import Haml.Proofs.Offside

/-!
# What is accepted

A template is refused for the first line that is misplaced, and only for that. A line is misplaced
if it is indented with nothing before it, if its width is no multiple of the unit, or if it is more
than one level below the line before it and that line is neither in a filter nor in a comment. The
unit is the first width of the whole template, though the outline finds it on the way: the lines
that come before it have no width.
-/

namespace Haml

open Outline (Fault ErrorKind)
open LogicalLine (significant unitOf)

/-- The last node that stands for a line that is not blank. -/
def Tree.IsLastLine (tree : Tree) (i : Nat) : Prop := tree.IsLine i ∧ ∀ j, i < j → ¬tree.IsLine j

/-- Why a line that comes after the lines `before` does not fit, in a template with some unit. -/
inductive Misplaced (unit : Nat) (before : List LogicalLine) (line : LogicalLine) : Fault → Prop
  /-- It is indented and the first line. -/
  | orphan (first : significant before = []) (indented : 0 < line.indent) :
      Misplaced unit before line .orphan
  /-- Its width is no multiple of the unit. -/
  | uneven (odd : ¬unit ∣ line.indent) : Misplaced unit before line (.uneven line.indent unit)
  /-- It skips a level, and the line before is neither in a filter nor in a comment. -/
  | tooDeep {previous : LogicalLine} {tree : Tree} {i : Nat} (even : unit ∣ line.indent)
      (last : (significant before).getLast? = some previous)
      (deep : previous.indent / unit + 1 < line.indent / unit)
      (built : Template.build before = .ok tree) (node : tree.IsLastLine i)
      (plain : ∀ a ∈ i :: tree.ancestors i, (tree.contentAt a).isRaw = false) :
      Misplaced unit before line
        (.tooDeep (previous.indent / unit : Nat) (line.indent / unit : Nat))

/-- No line is misplaced. -/
def WellPlaced (unit : Nat) (lines : List LogicalLine) : Prop :=
  ∀ before line after fault, lines = before ++ line :: after → line.expression ≠ [] →
    ¬Misplaced unit before line fault

/-- There is one last line. -/
theorem Tree.IsLastLine.unique {tree : Tree} {i j : Nat} (hi : tree.IsLastLine i)
    (hj : tree.IsLastLine j) : i = j := by
  rcases Nat.lt_trichotomy i j with hlt | heq | hlt
  · exact absurd hj.1 (hi.2 j hlt)
  · exact heq
  · exact absurd hi.1 (hj.2 i hlt)

namespace Misplaced

variable {unit : Nat} {before : List LogicalLine} {line : LogicalLine} {fault : Fault}

/-- A line without indentation fits anywhere. -/
theorem indent_pos (h : Misplaced unit before line fault) : 0 < line.indent := by
  rcases Nat.eq_zero_or_pos line.indent with hz | hpos
  · cases h with
    | orphan _ indented => exact indented
    | uneven odd => exact absurd (hz ▸ Nat.dvd_zero unit) odd
    | tooDeep _ _ deep =>
      rw [hz, Nat.zero_div] at deep
      exact absurd deep (Nat.not_lt_zero _)
  · exact hpos

/-- The kind of the error: a level was skipped only if the width fits and there is a line before. -/
theorem kind?_eq (h : Misplaced unit before line fault) :
    fault.kind? = some (if significant before = [] ∨ ¬unit ∣ line.indent then ErrorKind.indentation
      else ErrorKind.blockTooDeep) := by
  cases h with
  | orphan first _ => rw [if_pos (.inl first)]; rfl
  | uneven odd => rw [if_pos (.inr odd)]; rfl
  | tooDeep even last =>
    rw [if_neg]
    · rfl
    · rintro (hnil | hodd)
      · rw [hnil] at last
        contradiction
      · exact hodd even

end Misplaced

namespace Nesting

variable {n : Nesting} {before after lines : List LogicalLine} {line : LogicalLine} {fault : Fault}

/-- An indented line is measured with the unit of the whole template. -/
theorem Reads.unitAt_eq (h : n.Reads before) (hlines : lines = before ++ line :: after)
    (hne : line.expression ≠ []) (hpos : 0 < line.indent) :
    n.unitAt line.indent = unitOf lines := by
  have hsplit : lines = before ++ ([line] ++ after) := hlines
  rw [hsplit, LogicalLine.unitOf_append, LogicalLine.unitOf_append,
    LogicalLine.unitOf_singleton hne,
    if_neg hpos.ne', ← h.unit]
  rfl

/-- The level of the last line is its width in units. -/
theorem Reads.level_eq (hs : n.Sound) (h : n.Reads before) {previous : LogicalLine}
    (hlast : (significant before).getLast? = some previous) (width : Nat) :
    previous.indent / n.unitAt width = n.level := by
  have hw := h.width previous hlast
  rcases Nat.eq_zero_or_pos n.unit with hz | hpos
  · rw [← hw, hz, hs.level_eq_zero hz, Nat.zero_mul, Nat.zero_div]
  · rw [← hw, unitAt, if_neg hpos.ne', Nat.mul_div_cancel_left _ hpos]

/-- The last node is in a filter or a comment exactly when the last line is: the nodes between them
are blank lines of a filter. -/
theorem Offside.insideRaw_last (h : n.Offside) (hne : n.tree.size ≠ 1) :
    ∃ s, n.tree.IsLastLine s ∧ n.tree.insideRaw n.last = n.tree.insideRaw s := by
  obtain ⟨s, hline, -, hblank⟩ := h.last_line hne
  have hslt := Tree.lt_size_of_isLine hline
  refine ⟨s, ⟨hline, ?_⟩, ?_⟩
  · intro j hj hl
    exact hl.not_blank (hblank j hj (Tree.lt_size_of_isLine hl))
  · have hlast : n.last + 1 = n.tree.size := by rw [last]; omega
    rcases Nat.eq_or_lt_of_le (show s ≤ n.last by omega) with rfl | hlt
    · rfl
    · have hfilter := h.filters s (hblank (s + 1) (by omega) (by omega))
      rw [Tree.insideRaw_of_isFilter (hblank n.last hlt (by omega)).2,
        Tree.insideRaw_of_isFilter hfilter]

/-- A line that is refused is misplaced. -/
theorem misplaced_of_fault? (hr : run before = .ok n) (hpos : 0 < line.indent)
    (hf : n.fault? line.indent = some fault) :
    Misplaced (n.unitAt line.indent) before line fault := by
  obtain ⟨hs, hreads⟩ := reads_run hr
  unfold fault? at hf
  split_ifs at hf with hodd hdeep horphan
  · obtain rfl := Option.some.inj hf
    exact .uneven fun hd => hodd (Nat.mod_eq_zero_of_dvd hd)
  · obtain rfl := Option.some.inj hf
    have hone : n.tree.size ≠ 1 := by
      intro hone
      have hle := hs.levelAt_of_fresh line.indent hone
      omega
    cases hlast : (significant before).getLast? with
    | none => exact absurd (hreads.fresh.mpr (List.getLast?_eq_none_iff.mp hlast)) hone
    | some previous =>
      obtain ⟨s, hline, hraw⟩ := (offside_run hr).2.insideRaw_last hone
      have hlevel := hreads.level_eq hs hlast line.indent
      have hbuilt : Template.build before = .ok n.tree := build_eq_ok_iff.mpr ⟨n, hr, rfl⟩
      rw [← hlevel]
      refine .tooDeep (Nat.dvd_of_mod_eq_zero (by omega)) hlast ?_ hbuilt hline ?_
      · rw [hlevel]
        exact hdeep.1
      · rw [hraw, Tree.insideRaw_eq_false_iff] at hdeep
        exact hdeep.2
  · obtain rfl := Option.some.inj hf
    exact .orphan (hreads.fresh.mp horphan.2) hpos

/-- A line that is misplaced is refused, and for that reason. -/
theorem fault?_of_misplaced (hr : run before = .ok n)
    (hm : Misplaced (n.unitAt line.indent) before line fault) :
    n.fault? line.indent = some fault := by
  obtain ⟨hs, hreads⟩ := reads_run hr
  unfold fault?
  cases hm with
  | orphan first indented =>
    have hone := hreads.fresh.mpr first
    have hz := hs.fresh hone
    have hu : n.unitAt line.indent = line.indent := by rw [unitAt, if_pos hz]
    have hl : n.levelAt line.indent = 1 := by rw [levelAt, hu, Nat.div_self indented]
    rw [hu, hl, hs.level_eq_zero hz, if_neg (by rw [Nat.mod_self]; exact fun hh => hh rfl),
      if_neg (by omega),
      if_pos ⟨Nat.one_pos, hone⟩]
  | uneven odd => rw [if_pos fun hz => odd (Nat.dvd_of_mod_eq_zero hz)]
  | @tooDeep previous tree i even last deep built node plain =>
    obtain ⟨n', hr', rfl⟩ := build_eq_ok_iff.mp built
    obtain rfl : n = n' := Except.ok.inj (hr.symm.trans hr')
    have hone : n.tree.size ≠ 1 := by
      intro hone
      rw [hreads.fresh.mp hone] at last
      contradiction
    obtain ⟨s, hline, hraw⟩ := (offside_run hr).2.insideRaw_last hone
    obtain rfl := hline.unique node
    have hplain : n.tree.insideRaw n.last = false := by
      rw [hraw, Tree.insideRaw_eq_false_iff]
      exact plain
    rw [hreads.level_eq hs last line.indent] at deep ⊢
    rw [if_neg fun hh => hh (Nat.mod_eq_zero_of_dvd even), if_pos ⟨deep, hplain⟩]
    rfl

/-- A line is refused exactly when it is misplaced, by the unit of the whole template. -/
theorem step_eq_error_iff_misplaced (hlines : lines = before ++ line :: after)
    (hr : run before = .ok n) (hne : line.expression ≠ []) {error : TemplateError} :
    n.step line = .error error ↔
      Misplaced (unitOf lines) before line error.fault ∧ error.line = line.number := by
  have hreads := (reads_run hr).2
  rw [step_eq_error_iff]
  constructor
  · rintro ⟨-, hf, hline⟩
    have hpos : 0 < line.indent := by
      rcases Nat.eq_zero_or_pos line.indent with hz | hpos
      · have hnone : n.fault? line.indent = none := by
          rw [fault?_eq_none_iff, levelAt, hz, Nat.zero_div, Nat.zero_mod]
          exact ⟨rfl, fun hh => absurd hh (Nat.not_lt_zero _),
            fun hh => absurd hh (Nat.not_lt_zero _)⟩
        rw [hnone] at hf
        contradiction
      · exact hpos
    rw [← hreads.unitAt_eq hlines hne hpos]
    exact ⟨misplaced_of_fault? hr hpos hf, hline⟩
  · rintro ⟨hm, hline⟩
    rw [← hreads.unitAt_eq hlines hne hm.indent_pos] at hm
    exact ⟨hne, fault?_of_misplaced hr hm, hline⟩

/-- The start of a template is accepted exactly when no line of it is misplaced. -/
theorem exists_run_iff (hlines : lines = before ++ after) :
    (∃ n, run before = .ok n) ↔ WellPlaced (unitOf lines) before := by
  constructor
  · rintro ⟨n, hr⟩ start line rest fault rfl hne hm
    have hsplit : lines = start ++ line :: (rest ++ after) := by simpa using hlines
    obtain ⟨m, hstart, hrest⟩ := exists_run_of_append hr
    have herror : m.step line = .error ⟨fault, line.number⟩ :=
      (step_eq_error_iff_misplaced hsplit hstart hne).mpr ⟨hm, rfl⟩
    rw [List.foldlM_cons, herror] at hrest
    contradiction
  · intro hwell
    cases hr : run before with
    | ok n => exact ⟨n, rfl⟩
    | error error =>
      obtain ⟨start, line, rest, n, rfl, hn, hstep⟩ := run_eq_error_iff.mp hr
      have hsplit : lines = start ++ line :: (rest ++ after) := by simpa using hlines
      have hne := (step_eq_error_iff.mp hstep).1
      have hm := (step_eq_error_iff_misplaced hsplit hn hne).mp hstep
      exact absurd hm.1 (hwell start line rest error.fault rfl hne)

/-- A template is refused for its first misplaced line. -/
theorem run_eq_error_iff_misplaced {error : TemplateError} :
    run lines = .error error ↔ ∃ before line after, lines = before ++ line :: after ∧
      line.expression ≠ [] ∧ WellPlaced (unitOf lines) before ∧
      Misplaced (unitOf lines) before line error.fault ∧ error.line = line.number := by
  rw [run_eq_error_iff]
  constructor
  · rintro ⟨before, line, after, n, hlines, hn, hstep⟩
    have hne := (step_eq_error_iff.mp hstep).1
    exact ⟨before, line, after, hlines, hne, (exists_run_iff hlines).mp ⟨n, hn⟩,
      (step_eq_error_iff_misplaced hlines hn hne).mp hstep⟩
  · rintro ⟨before, line, after, hlines, hne, hwell, hm⟩
    obtain ⟨n, hn⟩ := (exists_run_iff hlines).mpr hwell
    exact ⟨before, line, after, n, hlines, hn, (step_eq_error_iff_misplaced hlines hn hne).mpr hm⟩

end Nesting

namespace Template

/-- What is accepted and what is reported. Every physical line of a source can be split. A source is
accepted exactly when no line is misplaced. Otherwise the error is that of the first misplaced line,
with the number of the physical line on which it starts, and its kind tells a skipped level from a
width that does not fit. -/
theorem refuses_first_misplaced (source : Text) :
    (∀ line ∈ Text.splitLines source,
      splitLine? line = some (LogicalLine.indentation line, Text.trim line)) ∧
    ((∃ tree, parse source = .ok tree) ↔
      WellPlaced (unitOf (logicalLines source)) (logicalLines source)) ∧
    (∀ error, parse source = .error error ↔
      ∃ before line after, logicalLines source = before ++ line :: after ∧ line.expression ≠ [] ∧
        WellPlaced (unitOf (logicalLines source)) before ∧
        Misplaced (unitOf (logicalLines source)) before line error.fault ∧
        error.line = line.number) ∧
    (∀ before line after, logicalLines source = before ++ line :: after →
      ∃ above first below, Text.splitLines source = above ++ first :: below ∧
        before = LogicalLine.ofLines 0 above ∧
        line :: after = LogicalLine.ofLines above.length (first :: below) ∧
        line.number = above.length + 1 ∧ line.indent = (LogicalLine.indentation first).length) ∧
    (∀ before line fault, Misplaced (unitOf (logicalLines source)) before line fault →
      fault.kind? = some (if significant before = [] ∨ ¬unitOf (logicalLines source) ∣ line.indent
        then ErrorKind.indentation else ErrorKind.blockTooDeep)) := by
  have hself : logicalLines source = logicalLines source ++ [] := (List.append_nil _).symm
  refine ⟨fun _ => Text.splitLine?_of_mem_splitLines, ?_, ?_, ?_, fun _ _ _ => Misplaced.kind?_eq⟩
  · rw [← Nesting.exists_run_iff hself]
    constructor
    · rintro ⟨tree, hp⟩
      obtain ⟨n, hr, -⟩ := Nesting.exists_run hp
      exact ⟨n, hr⟩
    · rintro ⟨n, hr⟩
      exact ⟨n.tree, Nesting.build_eq_ok_iff.mpr ⟨n, hr, rfl⟩⟩
  · intro error
    rw [← Nesting.run_eq_error_iff_misplaced]
    exact Nesting.build_eq_error_iff
  · intro before line after h
    obtain ⟨above, first, below, hlines, hnumber, hindent, hline, hbefore⟩ :=
      LogicalLine.ofLines_split h
    rw [Nat.zero_add] at hnumber hline
    exact ⟨above, first, below, hlines, hbefore, hline, hnumber, hindent⟩

end Template

end Haml
