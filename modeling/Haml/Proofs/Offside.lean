import Haml.Proofs.Lines

/-!
# The offside rule

Indentation alone decides where a line goes: below the last line before it that is narrower. The
outline finds that line with a stack, on which a rise of several levels leaves several entries. The
invariant here says of the whole stack what the rule says of one line: the parent for level `j` is
the last line narrower than `j` units, or the last of the blank filter lines right after it. Blank
lines of a filter can come between a line and the lines below it, since they take part in the tree
but have no width of their own.
-/

namespace Haml

open Template (Progress)

namespace Tree

variable {tree : Tree} {node : Node} {i p q : Nat} {width : Int}

/-- The node is that of a line that is not blank. -/
def IsLine (tree : Tree) (i : Nat) : Prop := (tree.nodeAt i).expression ≠ []

/-- The node is that of a blank line in a filter. -/
def IsBlankFilterLine (tree : Tree) (i : Nat) : Prop :=
  (tree.nodeAt i).expression = [] ∧ (tree.contentAt i).isFilter = true

instance (tree : Tree) (i : Nat) : Decidable (tree.IsLine i) :=
  inferInstanceAs (Decidable ((tree.nodeAt i).expression ≠ []))

instance (tree : Tree) (i : Nat) : Decidable (tree.IsBlankFilterLine i) :=
  inferInstanceAs (Decidable (_ ∧ _))

/-- The last line before the node `i` that is narrower than `width`; the root if there is none. -/
def enclosing (tree : Tree) (width : Int) : Nat → Nat
  | 0 => 0
  | i + 1 =>
    if tree.IsLine i ∧ (tree.nodeAt i).indent < width then i else tree.enclosing width i

/-- A line is a node of the tree. -/
theorem lt_size_of_isLine (h : tree.IsLine i) : i < tree.size := by
  by_contra hn
  rw [IsLine, nodeAt_of_size_le (Nat.le_of_not_lt hn)] at h
  exact h rfl

/-- Adding a node does not change which of the others are lines. -/
theorem isLine_add_lt (h : i < tree.size) : (tree.add node).IsLine i ↔ tree.IsLine i := by
  rw [IsLine, nodeAt_add_lt h, IsLine]

/-- The node that was added is a line exactly if it has an expression. -/
theorem isLine_add_size : (tree.add node).IsLine tree.size ↔ node.expression ≠ [] := by
  rw [IsLine, nodeAt_add_size]

/-- Adding a node does not change which of the others are blank lines of filters. -/
theorem isBlankFilterLine_add_lt (h : i < tree.size) :
    (tree.add node).IsBlankFilterLine i ↔ tree.IsBlankFilterLine i := by
  rw [IsBlankFilterLine, nodeAt_add_lt h, contentAt_add_lt h, IsBlankFilterLine]

/-- A line is no blank line of a filter. -/
theorem IsLine.not_blank (h : tree.IsLine i) : ¬tree.IsBlankFilterLine i := fun hb => h hb.1

/-- Whether a line is narrower does not depend on later lines. -/
theorem enclosing_add (h : i ≤ tree.size) :
    (tree.add node).enclosing width i = tree.enclosing width i := by
  induction i with
  | zero => rfl
  | succ i ih =>
    have hi : i < tree.size := h
    simp only [enclosing, isLine_add_lt hi, nodeAt_add_lt hi, ih (Nat.le_of_lt hi)]

/-- A node that is no narrower line does not enclose. -/
theorem enclosing_succ_of_not (h : ¬(tree.IsLine i ∧ (tree.nodeAt i).indent < width)) :
    tree.enclosing width (i + 1) = tree.enclosing width i := if_neg h

/-- The narrower line that all later lines are blank after encloses. -/
theorem enclosing_eq_of_blank {s : Nat} (hs : tree.IsLine s) (hw : (tree.nodeAt s).indent < width)
    (hsi : s < i) (hb : ∀ j, s < j → j < i → tree.IsBlankFilterLine j) :
    tree.enclosing width i = s := by
  induction i with
  | zero => omega
  | succ i ih =>
    rcases Nat.lt_succ_iff_lt_or_eq.mp hsi with hlt | rfl
    · have hn : ¬tree.IsLine i := fun hl => hl.not_blank (hb i hlt (Nat.lt_succ_self i))
      rw [enclosing_succ_of_not (fun hh => hn hh.1)]
      exact ih hlt fun j h₁ h₂ => hb j h₁ (by omega)
    · exact if_pos ⟨hs, hw⟩

/-- No line is narrower than the lines without indentation. -/
theorem enclosing_eq_zero (h : ∀ i, 0 ≤ (tree.nodeAt i).indent) (hw : width ≤ 0) (i : Nat) :
    tree.enclosing width i = 0 := by
  induction i with
  | zero => rfl
  | succ i ih =>
    have hi := h i
    rw [enclosing_succ_of_not (fun hh => by omega), ih]

/-- Lines in between that are not narrower change nothing. -/
theorem enclosing_eq_enclosing {j : Nat} (hij : i ≤ j)
    (h : ∀ k, i ≤ k → k < j → tree.IsLine k → width ≤ (tree.nodeAt k).indent) :
    tree.enclosing width j = tree.enclosing width i := by
  induction j with
  | zero =>
    obtain rfl : i = 0 := by omega
    rfl
  | succ j ih =>
    rcases Nat.lt_or_eq_of_le hij with hlt | rfl
    · have hn : ¬(tree.IsLine j ∧ (tree.nodeAt j).indent < width) := by
        rintro ⟨hl, hw⟩
        have hk := h j (by omega) (by omega) hl
        omega
      rw [enclosing_succ_of_not hn]
      exact ih (by omega) fun k h₁ h₂ => h k h₁ (by omega)
    · rfl

/-- The node `q` is `p` itself or the last of the blank filter lines right after `p`, and a line
that is not blank comes next. -/
structure EndsBlanks (tree : Tree) (p q : Nat) : Prop where
  /-- It is not before `p`. -/
  le : p ≤ q
  /-- From `p` to it there are only blank filter lines. -/
  blank : ∀ j, p < j → j ≤ q → tree.IsBlankFilterLine j
  /-- Then the blank lines end. -/
  next : tree.IsLine (q + 1)

namespace EndsBlanks

/-- Adding a node does not change where blank lines end. -/
theorem add (h : tree.EndsBlanks p q) : (tree.add node).EndsBlanks p q where
  le := h.le
  blank := by
    intro j hp hq
    have hlt := lt_size_of_isLine h.next
    rw [isBlankFilterLine_add_lt (by omega)]
    exact h.blank j hp hq
  next := (isLine_add_lt (lt_size_of_isLine h.next)).mpr h.next

/-- The blank lines after a line end at one place. -/
theorem unique {q' : Nat} (h : tree.EndsBlanks p q) (h' : tree.EndsBlanks p q') : q = q' := by
  rcases Nat.lt_trichotomy q q' with hlt | heq | hlt
  · exact absurd (h'.blank (q + 1) (by have hle := h.le; omega) hlt) h.next.not_blank
  · exact heq
  · exact absurd (h.blank (q' + 1) (by have hle := h'.le; omega) hlt) h'.next.not_blank

end EndsBlanks

end Tree

namespace Nesting

variable {n m : Nesting} {line : LogicalLine}

/-- The offside rule for the lines so far and for the parents that the next line can get. -/
structure Offside (n : Nesting) : Prop where
  /-- Each line is below the last narrower line. -/
  lines : ∀ i, n.tree.IsLine i → ∃ q, (n.tree.nodeAt i).parent = some q ∧
    n.tree.EndsBlanks (n.tree.enclosing (n.tree.nodeAt i).indent i) q
  /-- So would be a line of each level up to the present one. -/
  parents : ∀ j q, n.parents[j]? = some q →
    n.tree.EndsBlanks (n.tree.enclosing ((n.unit * (j + 1) : Nat) : Int) n.tree.size) q
  /-- After the last line there are only blank filter lines. -/
  last_line : n.tree.size ≠ 1 → ∃ s, n.tree.IsLine s ∧
    (n.tree.nodeAt s).indent = ((n.unit * n.level : Nat) : Int) ∧
    ∀ j, s < j → j < n.tree.size → n.tree.IsBlankFilterLine j
  /-- The first node after the root is no blank line. -/
  first : n.tree.size ≠ 1 → n.tree.IsLine 1
  /-- Widths are not negative. -/
  nonneg : ∀ i, 0 ≤ (n.tree.nodeAt i).indent
  /-- Blank filter lines follow filter lines. -/
  filters : ∀ i, n.tree.IsBlankFilterLine (i + 1) → (n.tree.contentAt i).isFilter = true

/-- At the start the rule holds, since there are no lines. -/
theorem offside_start : start.Offside where
  lines := by
    intro i hi
    have hlt := Tree.lt_size_of_isLine hi
    obtain rfl : i = 0 := Nat.lt_one_iff.mp hlt
    exact absurd rfl hi
  parents := by
    intro j q hq
    cases hq
  last_line h := absurd rfl h
  first h := absurd rfl h
  nonneg := by
    intro i
    rcases Nat.eq_zero_or_pos i with rfl | hi
    · exact Int.le_refl 0
    · rw [Tree.nodeAt_of_size_le hi]
      exact Int.le_refl 0
  filters := by
    rintro i ⟨-, hf⟩
    cases hf

namespace Offside

/-- What holds of the older lines after one more node. -/
theorem lines_add (h : n.Offside) {node : Node} {i : Nat} (hi : n.tree.IsLine i) :
    ∃ q, ((n.tree.add node).nodeAt i).parent = some q ∧
      (n.tree.add node).EndsBlanks
        ((n.tree.add node).enclosing ((n.tree.add node).nodeAt i).indent i) q := by
  have hlt := Tree.lt_size_of_isLine hi
  obtain ⟨q, hp, hq⟩ := h.lines i hi
  rw [Tree.nodeAt_add_lt hlt, Tree.enclosing_add (Nat.le_of_lt hlt)]
  exact ⟨q, hp, hq.add⟩

/-- A blank line comes after a line of its filter, also after one more node. -/
theorem filters_add (h : n.Offside) {node : Node}
    (hn : node.expression = [] → (n.tree.contentAt n.last).isFilter = true) :
    ∀ i, (n.tree.add node).IsBlankFilterLine (i + 1) →
      ((n.tree.add node).contentAt i).isFilter = true := by
  intro i hi
  rcases Nat.lt_trichotomy (i + 1) n.tree.size with hlt | heq | hgt
  · rw [Tree.isBlankFilterLine_add_lt hlt] at hi
    rw [Tree.contentAt_add_lt (by omega)]
    exact h.filters i hi
  · have hlast : n.last = i := by rw [last]; omega
    rw [heq, Tree.IsBlankFilterLine, Tree.nodeAt_add_size] at hi
    rw [Tree.contentAt_add_lt (by omega), ← hlast]
    exact hn hi.1
  · rw [Tree.IsBlankFilterLine, Tree.contentAt,
      Tree.nodeAt_of_size_le (by rw [Tree.size_add]; omega)] at hi
    cases hi.2

/-- No line is narrower than nothing, also after one more node. -/
theorem nonneg_add (h : n.Offside) {node : Node} (hn : 0 ≤ node.indent) (i : Nat) :
    0 ≤ ((n.tree.add node).nodeAt i).indent := by
  rcases Nat.lt_trichotomy i n.tree.size with hlt | rfl | hgt
  · rw [Tree.nodeAt_add_lt hlt]
    exact h.nonneg i
  · rwa [Tree.nodeAt_add_size]
  · rw [Tree.nodeAt_of_size_le (by rw [Tree.size_add]; omega)]
    exact Int.le_refl 0

/-- Adding a blank line of a filter keeps the rule. -/
theorem add_blank (hs : n.Sound) (h : n.Offside) {top : Int}
    (ht : n.tree.topOf? n.last = some top) : (n.add (n.blankNode top.toNat)).Offside := by
  have hpos := hs.rooted.size_pos
  have hnot : ¬(n.tree.add (n.blankNode top.toNat)).IsLine n.tree.size := fun hl =>
    Tree.isLine_add_size.mp hl rfl
  have hfilter := Tree.isFilter_of_topOf? ht
  have hne := hs.size_ne_one_of_filter ht
  obtain ⟨s, hline, hindent, hblank⟩ := h.last_line hne
  have hslt := Tree.lt_size_of_isLine hline
  refine ⟨?_, ?_, ?_, ?_, h.nonneg_add (Int.le_refl 0), h.filters_add fun _ => hfilter⟩
  · intro i hi
    have hlt := Tree.lt_size_of_isLine hi
    rw [tree_add, Tree.size_add] at hlt
    rcases Nat.lt_succ_iff_lt_or_eq.mp hlt with hlt | rfl
    · exact h.lines_add ((Tree.isLine_add_lt hlt).mp hi)
    · exact absurd hi hnot
  · intro j q hq
    rw [tree_add, Tree.size_add, Tree.enclosing_succ_of_not (fun hh => hnot hh.1),
      Tree.enclosing_add le_rfl]
    exact (h.parents j q hq).add
  · intro _
    refine ⟨s, (Tree.isLine_add_lt hslt).mpr hline, ?_, ?_⟩
    · rw [tree_add, Tree.nodeAt_add_lt hslt]
      exact hindent
    · intro j hsj hj
      rw [tree_add, Tree.size_add] at hj
      rcases Nat.lt_succ_iff_lt_or_eq.mp hj with hlt | rfl
      · exact (Tree.isBlankFilterLine_add_lt hlt).mpr (hblank j hsj hlt)
      · rw [tree_add, Tree.IsBlankFilterLine, Tree.nodeAt_add_size, Tree.contentAt_add_size]
        exact ⟨rfl, rfl⟩
  · intro _
    exact (Tree.isLine_add_lt (by omega)).mpr (h.first hne)

/-- The parents after a move, once a line has been added there, obey the rule. -/
theorem parents_moveTo (hs : n.Sound) (h : n.Offside) {width : Nat}
    (hf : n.fault? width = none) {node : Node} (hne : node.expression ≠ []) {j q : Nat}
    (hq : (n.moveTo width).parents[j]? = some q) :
    (n.tree.add node).EndsBlanks
      (n.tree.enclosing (((n.moveTo width).unit * (j + 1) : Nat) : Int) n.tree.size) q := by
  obtain ⟨-, -, ho⟩ := fault?_eq_none_iff.mp hf
  rw [getElem?_moveTo] at hq
  split_ifs at hq with hj hl
  · have hu : (n.moveTo width).unit = n.unit := by
      have hz : n.unit ≠ 0 := by
        intro hz
        rw [level, hs.unit hz, List.length_nil] at hl
        omega
      rw [moveTo, unitAt, if_neg hz]
    rw [hu]
    exact (h.parents j q hq).add
  · obtain rfl : n.last = q := Option.some.inj hq
    obtain ⟨s, hline, hindent, hblank⟩ := h.last_line (ho (by omega))
    have hslt := Tree.lt_size_of_isLine hline
    have hlast : n.last + 1 = n.tree.size := by rw [last]; omega
    have hlt : n.unit * n.level < (n.moveTo width).unit * (j + 1) := by
      have hup : 0 < (n.moveTo width).unit := by
        apply n.unitAt_pos
        by_contra hw
        rw [levelAt, Nat.eq_zero_of_not_pos hw, Nat.zero_div] at hj
        omega
      rcases Nat.eq_zero_or_pos n.unit with hz | hz
      · rw [hz, Nat.zero_mul]
        exact Nat.mul_pos hup (Nat.succ_pos j)
      · have hu : (n.moveTo width).unit = n.unit := by rw [moveTo, unitAt, if_neg hz.ne']
        rw [hu]
        exact Nat.mul_lt_mul_of_pos_left (by omega) hz
    have he : n.tree.enclosing (((n.moveTo width).unit * (j + 1) : Nat) : Int) n.tree.size = s :=
      Tree.enclosing_eq_of_blank hline (by rw [hindent]; exact_mod_cast hlt) hslt hblank
    rw [he]
    refine ⟨by omega, ?_, ?_⟩
    · intro k hk hkq
      rw [Tree.isBlankFilterLine_add_lt (by omega)]
      exact hblank k hk (by omega)
    · rw [hlast]
      exact Tree.isLine_add_size.mpr hne

/-- The new line itself obeys the rule. -/
theorem line_moveTo (hs : n.Sound) (h : n.Offside) {width : Nat} (hf : n.fault? width = none)
    {node : Node} (hne : node.expression ≠ []) :
    (n.tree.add node).EndsBlanks (n.tree.enclosing (width : Int) n.tree.size)
      (n.moveTo width).parent := by
  have hw := width_moveTo hf
  rcases (n.moveTo width).parent_cases with ⟨hl, hp⟩ | ⟨j, hl, hp⟩
  · rw [hl, Nat.mul_zero] at hw
    have hpos := hs.rooted.size_pos
    have hz : (width : Int) ≤ 0 := by omega
    rw [hp, Tree.enclosing_eq_zero h.nonneg hz]
    refine ⟨le_rfl, fun j h₁ h₂ => by omega, ?_⟩
    by_cases hone : n.tree.size = 1
    · rw [Nat.zero_add, ← hone]
      exact Tree.isLine_add_size.mpr hne
    · exact (Tree.isLine_add_lt (by omega)).mpr (h.first hone)
  · have ho := h.parents_moveTo hs hf hne hp
    rwa [← hl, hw] at ho

/-- Adding a line keeps the rule: the parents that are still open are the lines that enclose it. -/
theorem add_line (hs : n.Sound) (h : n.Offside) (hne : line.expression ≠ [])
    (hf : n.fault? line.indent = none) :
    ((n.moveTo line.indent).add ((n.moveTo line.indent).lineNode line)).Offside := by
  have hw := width_moveTo hf
  have hpos := hs.rooted.size_pos
  have hnew : ((n.moveTo line.indent).lineNode line).expression ≠ [] := hne
  refine ⟨?_, ?_, ?_, ?_, h.nonneg_add (Int.natCast_nonneg _),
    h.filters_add fun he => absurd he hne⟩
  · intro i hi
    have hlt := Tree.lt_size_of_isLine hi
    rw [tree_add, Tree.size_add] at hlt
    rcases Nat.lt_succ_iff_lt_or_eq.mp hlt with hlt | rfl
    · exact h.lines_add ((Tree.isLine_add_lt hlt).mp hi)
    · refine ⟨(n.moveTo line.indent).parent, ?_, ?_⟩
      · rw [tree_add, Tree.nodeAt_add_size]
        rfl
      · rw [tree_add, Tree.nodeAt_add_size, Tree.enclosing_add le_rfl]
        exact h.line_moveTo hs hf hnew
  · intro j q hq
    have hj : j < (n.moveTo line.indent).level := (List.getElem?_eq_some_iff.mp hq).1
    have hnot : ¬(((n.moveTo line.indent).lineNode line).indent <
        (((n.moveTo line.indent).unit * (j + 1) : Nat) : Int)) := by
      have hle := Nat.mul_le_mul_left (n.moveTo line.indent).unit (Nat.succ_le_of_lt hj)
      rw [hw] at hle
      change ¬((line.indent : Int) < _)
      exact_mod_cast Nat.not_lt.mpr hle
    rw [tree_add, Tree.size_add, Tree.enclosing_succ_of_not, Tree.enclosing_add le_rfl]
    · exact h.parents_moveTo hs hf hnew hq
    · rw [Tree.nodeAt_add_size]
      exact fun hh => hnot hh.2
  · intro _
    refine ⟨n.tree.size, Tree.isLine_add_size.mpr hnew, ?_, ?_⟩
    · rw [tree_add, tree_moveTo, Tree.nodeAt_add_size]
      exact congrArg Nat.cast hw.symm
    · intro j h₁ h₂
      rw [tree_add, tree_moveTo, Tree.size_add] at h₂
      omega
  · intro _
    by_cases hone : n.tree.size = 1
    · rw [← hone]
      exact Tree.isLine_add_size.mpr hnew
    · exact (Tree.isLine_add_lt (by change 1 < n.tree.size; omega)).mpr (h.first hone)

/-- A step keeps the rule. -/
theorem step (hs : n.Sound) (h : n.Offside) (hm : n.step line = .ok m) : m.Offside := by
  obtain ⟨-, -, rfl⟩ | ⟨-, top, ht, rfl⟩ | ⟨hne, hf, rfl⟩ := step_cases hm
  · exact h
  · exact h.add_blank hs ht
  · exact h.add_line hs hne hf

end Offside

/-- A line's parent is the last narrower line, or a blank line of the filter that it is. -/
theorem Offside.parent_cases (h : n.Offside) {i : Nat} (hi : n.tree.IsLine i) :
    ∃ q, (n.tree.nodeAt i).parent = some q ∧
      (q = n.tree.enclosing (n.tree.nodeAt i).indent i ∨
        (n.tree.contentAt (n.tree.enclosing (n.tree.nodeAt i).indent i)).isFilter = true ∧
        n.tree.enclosing (n.tree.nodeAt i).indent i < q ∧
        ∀ j, n.tree.enclosing (n.tree.nodeAt i).indent i < j → j ≤ q →
          n.tree.IsBlankFilterLine j) := by
  obtain ⟨q, hq, hends⟩ := h.lines i hi
  refine ⟨q, hq, ?_⟩
  rcases Nat.lt_or_eq_of_le hends.le with hlt | heq
  · exact .inr ⟨h.filters _ (hends.blank _ (Nat.lt_succ_self _) hlt), hlt, hends.blank⟩
  · exact .inl heq.symm

/-- Lines of one width with no narrower line between them have one parent. -/
theorem Offside.parent_eq (h : n.Offside) {i j : Nat} (hi : n.tree.IsLine i) (hj : n.tree.IsLine j)
    (hij : i ≤ j) (hw : (n.tree.nodeAt j).indent = (n.tree.nodeAt i).indent)
    (hbetween : ∀ k, i ≤ k → k < j → n.tree.IsLine k →
      (n.tree.nodeAt i).indent ≤ (n.tree.nodeAt k).indent) :
    (n.tree.nodeAt j).parent = (n.tree.nodeAt i).parent := by
  obtain ⟨q, hq, hends⟩ := h.lines i hi
  obtain ⟨q', hq', hends'⟩ := h.lines j hj
  rw [hw, Tree.enclosing_eq_enclosing hij hbetween] at hends'
  rw [hq, hq', hends.unique hends']

/-- After a run the rule holds. -/
theorem offside_run {lines : List LogicalLine} (h : run lines = .ok n) : n.Sound ∧ n.Offside :=
  run_induction (P := fun n _ => n.Offside) offside_start (fun _ _ _ _ hs ho => ho.step hs) h

end Nesting

namespace Template

/-- The offside rule. The nodes that are not blank are the lines that are not blank, in order. The
parent of each is the last line before it that is narrower, or the root, or, when that line belongs
to a filter, a blank line of the filter with only blank lines between the two. A line that returns
to the width of an earlier one, with no narrower line in between, gets the parent of that line. -/
theorem offside_rule {source : Text} {tree : Tree} (h : parse source = .ok tree) :
    tree.lines.map (fun node => (node.indent, node.expression)) =
      (LogicalLine.significant (logicalLines source)).map
        (fun line => ((line.indent : Int), line.expression)) ∧
    (∀ i node, tree.get? i = some node → node.expression ≠ [] →
      ∃ parent, node.parent = some parent ∧
        (parent = tree.enclosing node.indent i ∨
          (tree.contentAt (tree.enclosing node.indent i)).isFilter = true ∧
          tree.enclosing node.indent i < parent ∧
          ∀ j, tree.enclosing node.indent i < j → j ≤ parent → tree.IsBlankFilterLine j)) ∧
    (∀ i j first second, tree.get? i = some first → tree.get? j = some second → i < j →
      first.expression ≠ [] → second.expression ≠ [] → second.indent = first.indent →
      (∀ k, i < k → k < j → tree.IsLine k → first.indent ≤ (tree.nodeAt k).indent) →
      second.parent = first.parent) := by
  obtain ⟨n, hr, rfl⟩ := Nesting.exists_run h
  have hoff := (Nesting.offside_run hr).2
  refine ⟨(Nesting.reads_run hr).2.nodes, ?_, ?_⟩
  · intro i node hi hne
    obtain rfl := Tree.nodeAt_of_get? hi
    exact hoff.parent_cases hne
  · intro i j first second hi hj hij hfirst hsecond hw hbetween
    obtain rfl := Tree.nodeAt_of_get? hi
    obtain rfl := Tree.nodeAt_of_get? hj
    refine hoff.parent_eq hfirst hsecond (Nat.le_of_lt hij) hw ?_
    intro k hik hkj hk
    rcases Nat.lt_or_eq_of_le hik with hlt | rfl
    · exact hbetween k hlt hkj hk
    · exact Int.le_refl _

/-- A filter with a blank line after its header, a rise of two levels and two returns. -/
def risingFilter : Text := ":plain\n\n    a\n            b\n        c\n    d\n%p".toList

/-- The tree of `risingFilter`. -/
def risingTree : Tree := (parse risingFilter).toOption.getD Tree.empty

/-- A line of a filter that comes back to the width of an earlier one has the same parent, here a
blank line of the filter. -/
theorem offside_rule_risingFilter :
    parse risingFilter = .ok risingTree ∧
      (risingTree.nodeAt 6).parent = (risingTree.nodeAt 3).parent ∧
      (risingTree.nodeAt 3).parent = some 2 ∧ risingTree.IsBlankFilterLine 2 := by
  obtain ⟨hparse, hfirst, hsecond, hlines, hwidths, hparent⟩ :
      parse risingFilter = .ok risingTree ∧
      risingTree.get? 3 = some (risingTree.nodeAt 3) ∧
      risingTree.get? 6 = some (risingTree.nodeAt 6) ∧
      (risingTree.IsLine 3 ∧ risingTree.IsLine 6) ∧
      ((risingTree.nodeAt 6).indent = (risingTree.nodeAt 3).indent ∧
        (risingTree.nodeAt 3).indent ≤ (risingTree.nodeAt 4).indent ∧
        (risingTree.nodeAt 3).indent ≤ (risingTree.nodeAt 5).indent) ∧
      (risingTree.nodeAt 3).parent = some 2 ∧ risingTree.IsBlankFilterLine 2 := by decide +kernel
  refine ⟨hparse, ?_, hparent⟩
  refine (offside_rule hparse).2.2 3 6 _ _ hfirst hsecond (by decide) hlines.1 hlines.2 hwidths.1 ?_
  intro k h₁ h₂ _
  obtain rfl | rfl : k = 4 ∨ k = 5 := by omega
  · exact hwidths.2.1
  · exact hwidths.2.2

end Template

end Haml
