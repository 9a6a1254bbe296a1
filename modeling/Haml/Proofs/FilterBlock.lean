import Haml.Proofs.Branch
import Haml.Proofs.Nesting

/-!
# Filters as blocks of nodes

The nodes of a filter are its header and the nodes right after it, up to some node. They are also
the nodes below the header: a node below a filter line is a line of the same filter, blank or not,
and each line of a filter other than its header is below a line of the filter. On the way from the
root to the last node, a filter once entered is not left.
-/

namespace Haml

/-- Whether the node is a content line of a filter. -/
def Content.isBody : Content → Bool
  | filter (.body _) => true
  | _ => false

/-- Content is that of a filter exactly if it names the header of the filter. -/
theorem Content.isBody_iff {content : Content} :
    content.isBody = true ↔ ∃ top, content = .filter (.body top) := by
  cases content with
  | filter line => cases line <;> simp [isBody]
  | _ => simp [isBody]

/-- The content lines of a filter in the order of their creation. -/
def Tree.bodyOf (tree : Tree) (t : Nat) : List Nat :=
  (List.range tree.size).filter fun j => tree.contentAt j == .filter (.body t)

/-- The lines of a filter are listed in order. -/
theorem Tree.pairwise_bodyOf (tree : Tree) (t : Nat) : (tree.bodyOf t).Pairwise (· < ·) :=
  List.Pairwise.filter _ List.pairwise_lt_range

/-- The lines of a filter are the nodes that name it. -/
theorem Tree.mem_bodyOf {tree : Tree} {t j : Nat} :
    j ∈ tree.bodyOf t ↔ j < tree.size ∧ tree.contentAt j = .filter (.body t) := by
  rw [bodyOf, List.mem_filter, List.mem_range, beq_iff_eq]

namespace Nesting

variable {n m : Nesting} {line : LogicalLine} {width t : Nat}

/-- The lines of a filter follow each other and are below each other. -/
structure Blocks (n : Nesting) : Prop where
  /-- A parent in a filter has the parents for further levels in the same filter. -/
  nested : ∀ j k a b : Nat, j ≤ k → n.parents[j]? = some a → n.parents[k]? = some b →
    ∀ top, n.tree.topOf? a = some top → n.tree.topOf? b = some top
  /-- It has the last node in the same filter too. -/
  reaches : ∀ j a : Nat, n.parents[j]? = some a →
    ∀ top, n.tree.topOf? a = some top → n.tree.topOf? n.last = some top
  /-- A node below a line of a filter is a line of the filter. -/
  below : ∀ i < n.tree.size, ∀ p, (n.tree.nodeAt i).parent = some p →
    ∀ top, n.tree.topOf? p = some top → n.tree.topOf? i = some top
  /-- A line of a filter opens it or is below a line of the filter. -/
  above : ∀ i < n.tree.size, ∀ top, n.tree.topOf? i = some top →
    top = i ∨ ∃ p, (n.tree.nodeAt i).parent = some p ∧ n.tree.topOf? p = some top
  /-- A line of a filter opens it or comes right after a line of the filter. -/
  previous : ∀ i, i + 1 < n.tree.size → ∀ top, n.tree.topOf? (i + 1) = some top →
    top = (i + 1 : Nat) ∨ n.tree.topOf? i = some top

/-- At the start there are no filters. -/
theorem blocks_start : start.Blocks := by
  have hs : start.tree.size = 1 := rfl
  refine ⟨?_, ?_, ?_, ?_, ?_⟩
  · intro j k a b _ ha
    cases ha
  · intro j a ha
    cases ha
  · intro i hi p hp
    obtain rfl : i = 0 := by omega
    cases hp
  · intro i hi top ht
    obtain rfl : i = 0 := by omega
    cases ht
  · intro i hi
    omega

namespace Blocks

/-- The parent of the present level reaches to the last node. -/
theorem reaches_parent (hs : n.Sound) (h : n.Blocks) {top : Int}
    (ht : n.tree.topOf? n.parent = some top) : n.tree.topOf? n.last = some top := by
  rcases n.parent_cases with ⟨-, hp⟩ | ⟨j, -, hj⟩
  · rw [hp, hs.rooted.topOf?_zero] at ht
    contradiction
  · exact h.reaches j n.parent hj top ht

/-- A parent in a filter has the parent of the present level in the same filter. -/
theorem nested_parent (h : n.Blocks) {j a : Nat} {top : Int} (ha : n.parents[j]? = some a)
    (ht : n.tree.topOf? a = some top) : n.tree.topOf? n.parent = some top := by
  have hj : j < n.level := (List.getElem?_eq_some_iff.mp ha).1
  rcases n.parent_cases with ⟨hl, -⟩ | ⟨k, hl, hk⟩
  · omega
  · exact h.nested j k a n.parent (by omega) ha hk top ht

/-- Moving to another width leaves the filters as they are. -/
theorem moveTo (h : n.Blocks) (width : Nat) : (n.moveTo width).Blocks := by
  refine ⟨?_, ?_, h.below, h.above, h.previous⟩
  · intro j k a b hjk ha hb top ht
    rw [getElem?_moveTo] at ha hb
    split_ifs at ha hb with hj hjl hk hkl hk hkl
    · exact h.nested j k a b hjk ha hb top ht
    · obtain rfl := Option.some.inj hb
      exact h.reaches j a ha top ht
    · omega
    · obtain rfl := Option.some.inj ha
      obtain rfl := Option.some.inj hb
      exact ht
  · intro j a ha top ht
    rw [getElem?_moveTo] at ha
    split_ifs at ha with hj hjl
    · exact h.reaches j a ha top ht
    · obtain rfl := Option.some.inj ha
      exact ht

/-- One more node below `p`, in the filter of `p` if there is one, or the header of a new filter. -/
theorem add_node (hs : n.Sound) (h : n.Blocks) {node : Node} {p : Nat} (hp : p < n.tree.size)
    (hn : node.parent = some p)
    (hdown : ∀ top, n.tree.topOf? p = some top →
      Tree.topOfContent n.tree.size node.content = some top)
    (hup : ∀ top, Tree.topOfContent n.tree.size node.content = some top →
      top = n.tree.size ∨ n.tree.topOf? p = some top ∧ n.tree.topOf? n.last = some top)
    (hlast : ∀ j a : Nat, n.parents[j]? = some a → ∀ top, n.tree.topOf? a = some top →
      Tree.topOfContent n.tree.size node.content = some top) :
    (n.add node).Blocks := by
  have hpos := hs.rooted.size_pos
  have hold : ∀ {j a : Nat}, n.parents[j]? = some a →
      (n.tree.add node).topOf? a = n.tree.topOf? a := by
    intro j a ha
    exact Tree.topOf?_add_lt (hs.parents_lt a (List.mem_of_getElem? ha))
  refine ⟨?_, ?_, ?_, ?_, ?_⟩
  · intro j k a b hjk ha hb top ht
    rw [tree_add, hold ha] at ht
    rw [tree_add, hold hb]
    exact h.nested j k a b hjk ha hb top ht
  · intro j a ha top ht
    rw [tree_add, hold ha] at ht
    rw [last_add, tree_add, Tree.topOf?_add_size]
    exact hlast j a ha top ht
  · intro i hi q hq top ht
    rw [tree_add, Tree.size_add] at hi
    rcases Nat.lt_succ_iff_lt_or_eq.mp hi with hlt | rfl
    · rw [tree_add, Tree.nodeAt_add_lt hlt] at hq
      have hqi : q < i := hs.rooted.parent_lt hlt hq
      rw [tree_add, Tree.topOf?_add_lt (hqi.trans hlt)] at ht
      rw [tree_add, Tree.topOf?_add_lt hlt]
      exact h.below i hlt q hq top ht
    · rw [tree_add, Tree.nodeAt_add_size, hn] at hq
      obtain rfl := Option.some.inj hq
      rw [tree_add, Tree.topOf?_add_lt hp] at ht
      rw [tree_add, Tree.topOf?_add_size]
      exact hdown top ht
  · intro i hi top ht
    rw [tree_add, Tree.size_add] at hi
    rcases Nat.lt_succ_iff_lt_or_eq.mp hi with hlt | rfl
    · rw [tree_add, Tree.topOf?_add_lt hlt] at ht
      rcases h.above i hlt top ht with htop | ⟨q, hq, hqt⟩
      · exact .inl htop
      · refine .inr ⟨q, by rw [tree_add, Tree.nodeAt_add_lt hlt, hq], ?_⟩
        have hqlt : q < n.tree.size := (hs.rooted.parent_lt hlt hq).trans hlt
        rw [tree_add, Tree.topOf?_add_lt hqlt, hqt]
    · rw [tree_add, Tree.topOf?_add_size] at ht
      rcases hup top ht with htop | ⟨hpt, -⟩
      · exact .inl htop
      · exact .inr ⟨p, by rw [tree_add, Tree.nodeAt_add_size, hn], by
          rw [tree_add, Tree.topOf?_add_lt hp, hpt]⟩
  · intro i hi top ht
    rw [tree_add, Tree.size_add] at hi
    rcases Nat.lt_or_eq_of_le (Nat.le_of_lt_succ hi) with hlt | heq
    · rw [tree_add, Tree.topOf?_add_lt hlt] at ht
      rw [tree_add, Tree.topOf?_add_lt (by omega)]
      exact h.previous i hlt top ht
    · have hl : n.last = i := by rw [last]; omega
      rw [heq, tree_add, Tree.topOf?_add_size] at ht
      rcases hup top ht with htop | ⟨-, hlt⟩
      · exact .inl (by rw [htop, ← heq])
      · refine .inr ?_
        rw [tree_add, Tree.topOf?_add_lt (by omega), ← hl, hlt]

/-- A blank line in a filter is one of its lines. -/
theorem add_blank (hs : n.Sound) (h : n.Blocks) {top : Int}
    (ht : n.tree.topOf? n.last = some top) : (n.add (n.blankNode top.toNat)).Blocks := by
  obtain ⟨hlt, htop, kind, hk⟩ := hs.header_of_last ht
  have hheader : n.tree.topOf? top.toNat = some top := by
    rw [Tree.topOf?_eq hlt, hk, htop]
    rfl
  have hnew : Tree.topOfContent n.tree.size (n.blankNode top.toNat).content = some top :=
    congrArg some htop.symm
  refine h.add_node hs hlt rfl ?_ ?_ ?_
  · intro other ho
    rw [hnew, ← hheader, ho]
  · intro other ho
    obtain rfl : top = other := Option.some.inj (hnew.symm.trans ho)
    exact .inr ⟨hheader, ht⟩
  · intro j a ha other ho
    rw [hnew, ← ht, h.reaches j a ha other ho]

/-- A further line leaves the filters in blocks: in a filter it is one of its lines. -/
theorem add_line (hs : n.Sound) (h : n.Blocks) (line : LogicalLine) :
    (n.add (n.lineNode line)).Blocks := by
  have hdown : ∀ top, n.tree.topOf? n.parent = some top →
      Tree.topOfContent n.tree.size (n.lineNode line).content = some top := by
    intro top ht
    rw [content_lineNode_of_some line ht]
    rfl
  refine h.add_node hs hs.parent_lt rfl hdown ?_ ?_
  · intro top ht
    rcases topOfContent_lineNode ht with htop | hp
    · exact .inl htop
    · exact .inr ⟨hp, h.reaches_parent hs hp⟩
  · intro j a ha top ht
    exact hdown top (h.nested_parent ha ht)

/-- A step leaves the lines of each filter together. -/
theorem step (hs : n.Sound) (h : n.Blocks) (hm : n.step line = .ok m) : m.Blocks := by
  obtain ⟨-, -, rfl⟩ | ⟨-, top, ht, rfl⟩ | ⟨-, hf, rfl⟩ := step_cases hm
  · exact h
  · exact h.add_blank hs ht
  · exact (h.moveTo line.indent).add_line (hs.moveTo hf) line

/-- What is below the header of a filter are the other lines of the filter. -/
theorem mem_ancestors_iff (hs : n.Sound) (h : n.Blocks) {i : Nat}
    (hheader : n.tree.topOf? t = some (t : Int)) (hi : i < n.tree.size) :
    t ∈ n.tree.ancestors i ↔ t < i ∧ n.tree.topOf? i = some (t : Int) := by
  induction i using Nat.strong_induction_on with
  | _ i ih =>
    rcases Nat.eq_zero_or_pos i with rfl | hz
    · rw [hs.rooted.ancestors_zero]
      simp
    · obtain ⟨p, hpi, hp, ha⟩ := hs.rooted.ancestors_pos hi hz
      have hiff := ih p hpi (hpi.trans hi)
      rw [ha, List.mem_cons]
      constructor
      · rintro (rfl | hmem)
        · exact ⟨hpi, h.below i hi t hp t hheader⟩
        · obtain ⟨htp, htop⟩ := hiff.mp hmem
          exact ⟨htp.trans hpi, h.below i hi p hp t htop⟩
      · rintro ⟨hti, htop⟩
        rcases h.above i hi t htop with heq | ⟨q, hq, hqt⟩
        · exact absurd hti (by omega)
        · obtain rfl : p = q := Option.some.inj (hp.symm.trans hq)
          obtain ⟨t', hle, heq, -⟩ := hs.filters p (hpi.trans hi) t hqt
          rcases Nat.lt_or_eq_of_le (show t ≤ p by omega) with hlt | heq
          · exact .inr (hiff.mpr ⟨hlt, hqt⟩)
          · exact .inl heq

/-- A filter that has ended does not go on. -/
theorem topOf?_ne_of_le (h : n.Blocks) {e i : Nat} (hte : t < e) (hei : e ≤ i)
    (hi : i < n.tree.size) (he : n.tree.topOf? e ≠ some (t : Int)) :
    n.tree.topOf? i ≠ some (t : Int) := by
  induction i with
  | zero => omega
  | succ i ih =>
    rcases Nat.lt_or_eq_of_le hei with hlt | rfl
    · intro ht
      rcases h.previous i hi t ht with heq | hprev
      · omega
      · exact ih (by omega) (by omega) hprev
    · exact he

end Blocks

/-- After a run the lines of each filter are together. -/
theorem blocks_run {lines : List LogicalLine} (h : run lines = .ok n) : n.Sound ∧ n.Blocks :=
  run_induction (P := fun n _ => n.Blocks) blocks_start (fun _ _ _ _ hs hb => hb.step hs) h

/-- The content of a filter belongs to a header before it. -/
theorem Sound.contentAt_eq_body_iff (h : n.Sound) {i t : Nat} (hi : i < n.tree.size) :
    n.tree.contentAt i = .filter (.body (t : Int)) ↔ t < i ∧ n.tree.topOf? i = some (t : Int) := by
  constructor
  · intro hc
    have htop : n.tree.topOf? i = some (t : Int) := by rw [Tree.topOf?_eq hi, hc]; rfl
    obtain ⟨t', hle, heq, kind, hheader⟩ := h.filters i hi t htop
    obtain rfl : t = t' := Int.ofNat.inj heq
    refine ⟨lt_of_le_of_ne hle ?_, htop⟩
    rintro rfl
    rw [hc] at hheader
    cases hheader
  · rintro ⟨hlt, htop⟩
    rw [Tree.topOf?_eq hi] at htop
    cases hc : n.tree.contentAt i with
    | filter line =>
      rw [hc] at htop
      cases line with
      | header kind =>
        have heq : (i : Int) = t := Option.some.inj htop
        omega
      | body top => rw [Option.some.inj htop]
    | _ =>
      rw [hc] at htop
      cases htop

/-- The content lines of filters are the nodes that have their filter before them. -/
theorem Sound.isBody_iff (h : n.Sound) {i : Nat} (hi : i < n.tree.size) :
    (n.tree.contentAt i).isBody = true ↔ ∃ t < i, n.tree.topOf? i = some (t : Int) := by
  rw [Content.isBody_iff]
  constructor
  · rintro ⟨top, hc⟩
    have htop : n.tree.topOf? i = some top := by rw [Tree.topOf?_eq hi, hc]; rfl
    obtain ⟨t, -, rfl, -⟩ := h.filters i hi top htop
    exact ⟨t, (h.contentAt_eq_body_iff hi).mp hc⟩
  · rintro ⟨t, ht⟩
    exact ⟨t, (h.contentAt_eq_body_iff hi).mpr ht⟩

/-- The content of filters is what is below filter lines. -/
theorem Blocks.isBody_iff (hs : n.Sound) (h : n.Blocks) {i p : Nat} (hi : i < n.tree.size)
    (hp : (n.tree.nodeAt i).parent = some p) :
    (n.tree.contentAt i).isBody = true ↔ (n.tree.contentAt p).isFilter = true := by
  have hpi := hs.rooted.parent_lt hi hp
  rw [hs.isBody_iff hi]
  constructor
  · rintro ⟨t, hlt, htop⟩
    rcases h.above i hi _ htop with heq | ⟨q, hq, habove⟩
    · omega
    · obtain rfl : p = q := Option.some.inj (hp.symm.trans hq)
      exact Tree.isFilter_of_topOf? habove
  · intro hfilter
    rw [← Tree.isSome_topOfContent p, ← Tree.topOf?_eq (hpi.trans hi)] at hfilter
    obtain ⟨top, htop⟩ := Option.isSome_iff_exists.mp hfilter
    obtain ⟨t, hle, rfl, -⟩ := hs.filters p (hpi.trans hi) top htop
    exact ⟨t, by omega, h.below i hi p hp _ htop⟩

/-- What is below the header of a filter is its content. -/
theorem Blocks.mem_bodyOf_iff (hs : n.Sound) (h : n.Blocks) {kind : FilterKind}
    (ht : n.tree.contentAt t = .filter (.header kind)) (j : Nat) :
    j ∈ n.tree.bodyOf t ↔ j < n.tree.size ∧ t ∈ n.tree.ancestors j := by
  have hlt : t < n.tree.size := by
    by_contra hn
    rw [Tree.contentAt, Tree.nodeAt_of_size_le (Nat.le_of_not_lt hn)] at ht
    cases ht
  have htop : n.tree.topOf? t = some (t : Int) := by rw [Tree.topOf?_eq hlt, ht]; rfl
  rw [Tree.mem_bodyOf]
  refine and_congr_right fun hj => ?_
  rw [h.mem_ancestors_iff hs htop hj, hs.contentAt_eq_body_iff hj]

/-- A filter takes its content lines in the order of their creation. -/
theorem Blocks.filterLines_eq (hs : n.Sound) (h : n.Blocks) {kind : FilterKind}
    (ht : n.tree.contentAt t = .filter (.header kind)) (node : Node) :
    Branch.filterLines (n.tree.branch t node).children =
      FilterText.ofNodes ((n.tree.bodyOf t).map n.tree.nodeAt) :=
  Tree.filterLines_eq (n.tree.pairwise_bodyOf t) (h.mem_bodyOf_iff hs ht)

/-- The lines so far end with lines of the filter `t`, whose header is at some level and width. -/
structure InFilter (n : Nesting) (t level width : Nat) : Prop where
  /-- The last node is a line of the filter. -/
  last_line : n.tree.topOf? n.last = some (t : Int)
  /-- The parents for deeper levels are lines of the filter. -/
  inner : ∀ j q : Nat, level ≤ j → n.parents[j]? = some q → n.tree.topOf? q = some (t : Int)
  /-- The other parents come before the filter. -/
  outer : ∀ j q : Nat, j < level → n.parents[j]? = some q → q < t
  /-- The level has not been left. -/
  level_le : level ≤ n.level
  /-- The width belongs to the level. -/
  width_eq : n.unit * level = width

/-- The node of a content line of the filter `t`. -/
structure IsContent (t : Nat) (line : LogicalLine) (node : Node) : Prop where
  /-- It is content of the filter. -/
  content : node.content = .filter (.body t)
  /-- It has the text of the line. -/
  expression : node.expression = line.expression
  /-- It has the width of the line, unless that is blank. -/
  indent : line.expression ≠ [] → node.indent = line.indent

namespace InFilter

variable {level : Nat}

/-- A line that is wider than the header is deeper, and any other line is not. -/
theorem lt_levelAt_iff (hs : n.Sound) (h : n.InFilter t level width) {indent : Nat}
    (hf : n.fault? indent = none) : level < n.levelAt indent ↔ width < indent := by
  rw [← hs.mul_lt_iff h.level_le (fault?_eq_none_iff.mp hf).1, h.width_eq]

/-- The filter is before the last node. -/
theorem lt_size (hs : n.Sound) (h : n.InFilter t level width) : t < n.tree.size := by
  obtain ⟨t', hle, heq, -⟩ := hs.filters n.last hs.last_lt t h.last_line
  have hlt := hs.last_lt
  omega

/-- Parents of other levels are not in the filter. -/
theorem topOf?_outer (hs : n.Sound) (h : n.InFilter t level width) {j q : Nat} (hj : j < level)
    (hq : n.parents[j]? = some q) : n.tree.topOf? q ≠ some (t : Int) := by
  intro ht
  obtain ⟨t', hle, heq, -⟩ := hs.filters q (hs.parents_lt q (List.mem_of_getElem? hq)) t ht
  have hlt := h.outer j q hj hq
  omega

/-- A line that is indented further than the header of a filter stays in it. -/
theorem moveTo (hs : n.Sound) (h : n.InFilter t level width) {indent : Nat}
    (hf : n.fault? indent = none) (hindent : width < indent) :
    (n.moveTo indent).InFilter t level width := by
  have hlevel := (h.lt_levelAt_iff hs hf).mpr hindent
  refine ⟨h.last_line, ?_, ?_, ?_, ?_⟩
  · intro j q hj hq
    rw [getElem?_moveTo] at hq
    split_ifs at hq with hlt hold
    · exact h.inner j q hj hq
    · obtain rfl := Option.some.inj hq
      exact h.last_line
  · intro j q hj hq
    have hle := h.level_le
    rw [getElem?_moveTo, if_pos (by omega), if_pos (by omega)] at hq
    exact h.outer j q hj hq
  · rw [level_moveTo]
    omega
  · have hw := h.width_eq
    rcases Nat.eq_zero_or_pos n.unit with hz | hpos
    · have hl := hs.level_eq_zero hz
      have hle := h.level_le
      have hzero : level = 0 := by omega
      rw [hzero, Nat.mul_zero] at hw ⊢
      exact hw
    · have hu : (n.moveTo indent).unit = n.unit := if_neg hpos.ne'
      rw [hu]
      exact hw

/-- A further content line of the filter leaves the run in it. -/
theorem add (hs : n.Sound) (h : n.InFilter t level width) {node : Node}
    (hn : node.content = .filter (.body t)) : (n.add node).InFilter t level width where
  last_line := by
    rw [last_add, tree_add, Tree.topOf?_add_size, hn]
    rfl
  inner := by
    intro j q hj hq
    rw [tree_add, Tree.topOf?_add_lt (hs.parents_lt q (List.mem_of_getElem? hq))]
    exact h.inner j q hj hq
  outer := h.outer
  level_le := h.level_le
  width_eq := h.width_eq

/-- The parent of a line of the filter is a line of the filter. -/
theorem topOf?_parent (h : n.InFilter t level width) (hlevel : level < n.level) :
    n.tree.topOf? n.parent = some (t : Int) := by
  rcases n.parent_cases with ⟨hz, -⟩ | ⟨j, hj, hp⟩
  · omega
  · exact h.inner j n.parent (by omega) hp

/-- A blank line, and a line that is wider than the header, is one more line of the filter. -/
theorem step (hs : n.Sound) (h : n.InFilter t level width)
    (hline : line.expression = [] ∨ width < line.indent) (hm : n.step line = .ok m) :
    m.InFilter t level width ∧ ∃ node, m.tree = n.tree.add node ∧ IsContent t line node := by
  obtain ⟨-, hnone, -⟩ | ⟨he, top, ht, rfl⟩ | ⟨hne, hf, rfl⟩ := step_cases hm
  · rw [h.last_line] at hnone
    contradiction
  · obtain rfl : (t : Int) = top := Option.some.inj (h.last_line.symm.trans ht)
    exact ⟨h.add hs rfl, _, rfl, rfl, he.symm, fun hne => absurd he hne⟩
  · have hindent := hline.resolve_left hne
    have hmoved := h.moveTo hs hf hindent
    have hlevel : level < (n.moveTo line.indent).level := by
      rw [level_moveTo]
      exact (h.lt_levelAt_iff hs hf).mpr hindent
    have hc := content_lineNode_of_some line (hmoved.topOf?_parent hlevel)
    exact ⟨hmoved.add (hs.moveTo hf) hc, _, rfl, hc, rfl, fun _ => rfl⟩

/-- Any other line ends the filter. -/
theorem step_leave (hs : n.Sound) (h : n.InFilter t level width) (hne : line.expression ≠ [])
    (hindent : line.indent ≤ width) (hm : n.step line = .ok m) :
    m.tree.size = n.tree.size + 1 ∧ m.tree.topOf? n.tree.size ≠ some (t : Int) := by
  obtain ⟨hf, rfl⟩ := step_cases_line hne hm
  refine ⟨by rw [tree_add, tree_moveTo, Tree.size_add], ?_⟩
  intro ht
  have hsize : n.tree.size = (n.moveTo line.indent).tree.size := rfl
  rw [tree_add, hsize, Tree.topOf?_add_size] at ht
  rcases topOfContent_lineNode ht with heq | hp
  · have hlt := h.lt_size hs
    rw [tree_moveTo] at heq
    omega
  · have hlevel : n.levelAt line.indent ≤ level := by
      by_contra hn
      have hlt := (h.lt_levelAt_iff hs hf).mp (by omega)
      omega
    rcases (n.moveTo line.indent).parent_cases with ⟨-, hz⟩ | ⟨j, hj, hq⟩
    · rw [hz, tree_moveTo, hs.rooted.topOf?_zero] at hp
      contradiction
    · have hle := h.level_le
      rw [level_moveTo] at hj
      rw [getElem?_moveTo, if_pos (by omega), if_pos (by omega)] at hq
      exact h.topOf?_outer hs (by omega) hq hp

/-- Several such lines are as many more lines of the filter. -/
theorem foldlM {lines : List LogicalLine} (hs : n.Sound) (h : n.InFilter t level width)
    (hlines : ∀ line ∈ lines, line.expression = [] ∨ width < line.indent)
    (hm : lines.foldlM Nesting.step n = .ok m) :
    m.Sound ∧ m.InFilter t level width ∧ m.tree.size = n.tree.size + lines.length ∧
      ∀ k line, lines[k]? = some line → IsContent t line (m.tree.nodeAt (n.tree.size + k)) := by
  induction lines generalizing n with
  | nil =>
    obtain rfl : n = m := Except.ok.inj hm
    exact ⟨hs, h, rfl, fun k line hk => by simp at hk⟩
  | cons line lines ih =>
    obtain ⟨next, hstep, hrest⟩ := exists_foldlM_cons hm
    obtain ⟨hnext, node, htree, hnode⟩ := h.step hs (hlines line List.mem_cons_self) hstep
    have hsize : next.tree.size = n.tree.size + 1 := by rw [htree, Tree.size_add]
    obtain ⟨hms, hmf, hmsize, hcontent⟩ :=
      ih (hs.step hstep) hnext (fun other ho => hlines other (List.mem_cons_of_mem _ ho)) hrest
    refine ⟨hms, hmf, by rw [hmsize, hsize, List.length_cons]; omega, ?_⟩
    intro k other hk
    cases k with
    | zero =>
      obtain rfl : line = other := Option.some.inj hk
      have hkeep := (foldlM_frame hrest).2 n.tree.size (by omega)
      rw [Nat.add_zero, hkeep, htree, Tree.nodeAt_add_size]
      exact hnode
    | succ k =>
      have hindex : n.tree.size + (k + 1) = next.tree.size + k := by omega
      rw [hindex]
      exact hcontent k other hk

end InFilter

/-- A header opens its filter. -/
theorem inFilter_header (hs : n.Sound) (hne : line.expression ≠ []) (hm : n.step line = .ok m)
    (hheader : m.tree.topOf? n.tree.size = some (n.tree.size : Int)) :
    m.InFilter n.tree.size m.level line.indent ∧ m.tree.size = n.tree.size + 1 := by
  obtain ⟨hf, rfl⟩ := step_cases_line hne hm
  have hsize : (n.tree.add ((n.moveTo line.indent).lineNode line)).size = n.tree.size + 1 :=
    Tree.size_add ..
  refine ⟨⟨?_, ?_, ?_, le_rfl, ?_⟩, hsize⟩
  · rw [last_add]
    exact hheader
  · intro j q hj hq
    have hlt : j < (n.moveTo line.indent).level := (List.getElem?_eq_some_iff.mp hq).1
    exact absurd hlt (Nat.not_lt.mpr hj)
  · intro j q _ hq
    exact (hs.moveTo hf).parents_lt q (List.mem_of_getElem? hq)
  · exact width_moveTo hf

end Nesting

end Haml
