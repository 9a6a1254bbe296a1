import Haml.Proofs.Lines

/-!
# Levels

A node carries three levels: of its block, of its code and of its output. The outline takes them
from counters that it changes only when the width changes. In the tree they depend on the ancestors
alone. The code level counts the lines of code among them, the output level the others except the
root, and the block level all of them except the root, as long as none is a filter or a comment.
-/

namespace Haml

namespace Tree

variable {tree : Tree} {node : Node} {i p : Nat}

/-- The levels of the node `i` follow from those of the node `p` above it. -/
structure LevelsFollow (tree : Tree) (i p : Nat) : Prop where
  /-- The root is above all others. -/
  content : tree.contentAt i ≠ .root
  /-- The output level is that of a child. -/
  output : (tree.nodeAt i).outputLevel = (tree.nodeAt p).childOutputLevel
  /-- The code level is that of a child. -/
  code : (tree.nodeAt i).codeLevel = (tree.nodeAt p).childCodeLevel
  /-- The block level is one more, except below the root and inside of filters and comments. -/
  block : tree.insideRaw p = false →
    (tree.nodeAt i).blockLevel = if p = 0 then 0 else (tree.nodeAt p).blockLevel + 1

/-- Adding a node does not change the levels of the others. -/
theorem LevelsFollow.add (h : tree.LevelsFollow i p) (hi : i < tree.size) (hp : p < tree.size) :
    (tree.add node).LevelsFollow i p where
  content := by
    rw [contentAt_add_lt hi]
    exact h.content
  output := by
    rw [nodeAt_add_lt hi, nodeAt_add_lt hp]
    exact h.output
  code := by
    rw [nodeAt_add_lt hi, nodeAt_add_lt hp]
    exact h.code
  block := by
    rw [insideRaw_add_lt hp, nodeAt_add_lt hi, nodeAt_add_lt hp]
    exact h.block

/-- A filter opens no block of code. -/
theorem childCodeLevel_of_filter (h : (tree.contentAt i).isFilter = true) :
    (tree.nodeAt i).childCodeLevel = (tree.nodeAt i).codeLevel := by
  rw [Node.childCodeLevel]
  rw [contentAt] at h
  cases hc : (tree.nodeAt i).content <;> simp_all [Content.isFilter, Content.isCode]

end Tree

namespace Nesting

variable {n m : Nesting} {line : LogicalLine} {width t : Nat}

/-- The levels in the tree so far, and of the parents that the next line can get. -/
structure Graded (n : Nesting) : Prop where
  /-- The levels of each node follow from those of its parent. -/
  nodes : ∀ i < n.tree.size, ∀ p, (n.tree.nodeAt i).parent = some p → n.tree.LevelsFollow i p
  /-- The lines of a filter have one code level. -/
  filters : ∀ i < n.tree.size, ∀ t : Nat, n.tree.topOf? i = some (t : Int) →
    (n.tree.nodeAt i).codeLevel = (n.tree.nodeAt t).codeLevel
  /-- The parent for a level is at the level above, except inside of filters and comments. -/
  parents : ∀ j q : Nat, n.parents[j]? = some q →
    0 < q ∧ (n.tree.insideRaw q = false → (n.tree.nodeAt q).blockLevel = j)

/-- The same, with the levels of the last node. -/
structure Levelled (n : Nesting) : Prop extends n.Graded where
  /-- The last node is at the present level, except inside of filters and comments. -/
  last_block : n.tree.size ≠ 1 → n.tree.insideRaw n.last = false →
    (n.tree.nodeAt n.last).blockLevel = n.level
  /-- In a filter, a line at the present level has the code level of the filter. -/
  last_code : ∀ t : Nat, n.tree.topOf? n.last = some (t : Int) →
    (n.tree.nodeAt n.parent).childCodeLevel = (n.tree.nodeAt t).codeLevel

/-- At the start the levels are right. -/
theorem levelled_start : start.Levelled := by
  have hs : start.tree.size = 1 := rfl
  refine ⟨⟨?_, ?_, ?_⟩, fun h => absurd rfl h, ?_⟩
  · intro i hi p hp
    obtain rfl : i = 0 := by omega
    cases hp
  · intro i hi t ht
    obtain rfl : i = 0 := by omega
    cases ht
  · intro j q hq
    cases hq
  · intro t ht
    cases ht

/-- The present level is one below that of the parent. -/
theorem Graded.parent_block (h : n.Graded) (hraw : n.tree.insideRaw n.parent = false) :
    (n.level : Int) = if n.parent = 0 then 0 else (n.tree.nodeAt n.parent).blockLevel + 1 := by
  rcases n.parent_cases with ⟨hl, hp⟩ | ⟨j, hl, hp⟩
  · rw [if_pos hp, hl]
    rfl
  · obtain ⟨hpos, hblock⟩ := h.parents j n.parent hp
    rw [if_neg hpos.ne', hblock hraw, hl]
    rfl

/-- One more node at the present level. -/
theorem Graded.add (hs : n.Sound) (h : n.Graded) {node : Node} {p : Nat}
    (hn : node.parent = some p) (hlevels : (n.tree.add node).LevelsFollow n.tree.size p)
    (hblock : node.blockLevel = n.level)
    (hcode : ∀ t : Nat, Tree.topOfContent n.tree.size node.content = some (t : Int) →
      node.codeLevel = ((n.tree.add node).nodeAt t).codeLevel ∧
      (n.tree.nodeAt n.parent).childCodeLevel = ((n.tree.add node).nodeAt t).codeLevel) :
    (n.add node).Levelled := by
  refine ⟨⟨?_, ?_, ?_⟩, ?_, ?_⟩
  · intro i hi q hq
    rw [tree_add, Tree.size_add] at hi
    rcases Nat.lt_succ_iff_lt_or_eq.mp hi with hlt | rfl
    · rw [tree_add, Tree.nodeAt_add_lt hlt] at hq
      have hqlt : q < n.tree.size := (hs.rooted.parent_lt hlt hq).trans hlt
      exact (h.nodes i hlt q hq).add hlt hqlt
    · rw [tree_add, Tree.nodeAt_add_size, hn] at hq
      obtain rfl := Option.some.inj hq
      exact hlevels
  · intro i hi t ht
    rw [tree_add, Tree.size_add] at hi
    rcases Nat.lt_succ_iff_lt_or_eq.mp hi with hlt | rfl
    · rw [tree_add, Tree.topOf?_add_lt hlt] at ht
      obtain ⟨t', hle, heq, -⟩ := hs.filters i hlt t ht
      rw [tree_add, Tree.nodeAt_add_lt hlt, Tree.nodeAt_add_lt (by omega)]
      exact h.filters i hlt t ht
    · rw [tree_add, Tree.topOf?_add_size] at ht
      rw [tree_add, Tree.nodeAt_add_size]
      exact (hcode t ht).1
  · intro j q hq
    have hqlt := hs.parents_lt q (List.mem_of_getElem? hq)
    rw [tree_add, Tree.insideRaw_add_lt hqlt, Tree.nodeAt_add_lt hqlt]
    exact h.parents j q hq
  · intro _ _
    rw [last_add, tree_add, Tree.nodeAt_add_size]
    exact hblock
  · intro t ht
    rw [last_add, tree_add, Tree.topOf?_add_size] at ht
    have hparent : (n.add node).parent = n.parent := rfl
    rw [hparent, tree_add, Tree.nodeAt_add_lt hs.parent_lt]
    exact (hcode t ht).2

/-- Moving to another width keeps the levels of the parents that are still open. -/
theorem Levelled.moveTo (hs : n.Sound) (h : n.Levelled) (hf : n.fault? width = none) :
    (n.moveTo width).Graded := by
  refine ⟨h.nodes, h.filters, ?_⟩
  intro j q hq
  obtain ⟨-, hdeep, hfirst⟩ := fault?_eq_none_iff.mp hf
  rw [getElem?_moveTo] at hq
  split_ifs at hq with hj hold
  · exact h.parents j q hq
  · obtain rfl := Option.some.inj hq
    have hne := hfirst (by omega)
    have hpos := hs.rooted.size_pos
    refine ⟨by rw [last]; omega, ?_⟩
    intro hraw
    have hlevel : j = n.level := by
      by_contra hn
      rw [tree_moveTo, hdeep (by omega)] at hraw
      contradiction
    rw [hlevel]
    exact h.last_block hne hraw

/-- A blank line in a filter has the levels of the filter. -/
theorem Levelled.add_blank (hs : n.Sound) (h : n.Levelled) {top : Int}
    (ht : n.tree.topOf? n.last = some top) : (n.add (n.blankNode top.toNat)).Levelled := by
  obtain ⟨hlt, htop, kind, hk⟩ := hs.header_of_last ht
  rw [htop] at ht
  have hcode := h.last_code top.toNat ht
  have hfilter : (n.tree.contentAt top.toNat).isFilter = true := by rw [hk]; rfl
  refine h.add hs rfl ⟨?_, ?_, ?_, ?_⟩ rfl ?_
  · rw [Tree.contentAt_add_size]
    exact Content.noConfusion
  · rw [Tree.nodeAt_add_size, Tree.nodeAt_add_lt hlt]
    rfl
  · rw [Tree.nodeAt_add_size, Tree.nodeAt_add_lt hlt, Tree.childCodeLevel_of_filter hfilter]
    exact hcode
  · intro hplain
    rw [Tree.insideRaw_add_lt hlt, Tree.insideRaw_of_isFilter hfilter] at hplain
    contradiction
  · intro t htc
    obtain rfl : top.toNat = t := Int.ofNat.inj (Option.some.inj htc)
    rw [Tree.nodeAt_add_lt hlt]
    exact ⟨hcode, hcode⟩

/-- A further line has the levels that follow from its parent. -/
theorem Graded.add_line (hs : n.Sound) (h : n.Graded) (line : LogicalLine) :
    (n.add (n.lineNode line)).Levelled := by
  have hplt := hs.parent_lt
  refine h.add hs rfl ⟨?_, ?_, ?_, ?_⟩ rfl ?_
  · rw [Tree.contentAt_add_size]
    exact content_lineNode_ne_root n line
  · rw [Tree.nodeAt_add_size, Tree.nodeAt_add_lt hplt]
    rfl
  · rw [Tree.nodeAt_add_size, Tree.nodeAt_add_lt hplt]
    rfl
  · rw [Tree.insideRaw_add_lt hplt, Tree.nodeAt_add_size, Tree.nodeAt_add_lt hplt]
    exact h.parent_block
  · intro t ht
    rcases topOfContent_lineNode ht with heq | hp
    · obtain rfl : t = n.tree.size := Int.ofNat.inj heq
      rw [Tree.nodeAt_add_size]
      exact ⟨rfl, rfl⟩
    · obtain ⟨t', hle, heq, -⟩ := hs.filters n.parent hplt t hp
      have hcode := Tree.childCodeLevel_of_filter (Tree.isFilter_of_topOf? hp)
      rw [h.filters n.parent hplt t hp] at hcode
      rw [Tree.nodeAt_add_lt (by omega)]
      exact ⟨hcode, hcode⟩

/-- A step keeps the levels right. -/
theorem Levelled.step (hs : n.Sound) (h : n.Levelled) (hm : n.step line = .ok m) : m.Levelled := by
  obtain ⟨-, -, rfl⟩ | ⟨-, top, ht, rfl⟩ | ⟨-, hf, rfl⟩ := step_cases hm
  · exact h
  · exact h.add_blank hs ht
  · exact (h.moveTo hs hf).add_line (hs.moveTo hf) line

/-- After a run the levels are right. -/
theorem levelled_run {lines : List LogicalLine} (h : run lines = .ok n) : n.Sound ∧ n.Levelled :=
  run_induction (P := fun n _ => n.Levelled) levelled_start (fun _ _ _ _ hs hl => hl.step hs) h

end Nesting

namespace Tree

variable {tree : Tree} {i : Nat}

/-- A rooted tree in which all levels follow from those of the parent. -/
structure Graded (tree : Tree) : Prop extends tree.Rooted where
  /-- The levels of each node follow from those of its parent. -/
  follow : ∀ i < tree.size, ∀ p, (tree.nodeAt i).parent = some p → tree.LevelsFollow i p

namespace Graded

/-- The way to a node that is not the root goes through its parent. -/
theorem ancestors_eq (h : tree.Graded) (hi : i < tree.size) (hz : 0 < i) :
    ∃ p < i, tree.ancestors i = p :: tree.ancestors p ∧ tree.LevelsFollow i p := by
  obtain ⟨p, hp, hparent, ha⟩ := h.ancestors_pos hi hz
  exact ⟨p, hp, ha, h.follow i hi p hparent⟩

/-- The root is the only node with its content. -/
theorem content_eq_root_iff (h : tree.Graded) (hi : i < tree.size) :
    tree.contentAt i = .root ↔ i = 0 := by
  constructor
  · intro hc
    by_contra hz
    obtain ⟨p, -, -, hfollow⟩ := h.ancestors_eq hi (Nat.pos_of_ne_zero hz)
    exact hfollow.content hc
  · rintro rfl
    exact h.contentAt_zero

/-- The code level is one more than the number of lines of code above a node. -/
theorem codeLevel_eq (h : tree.Graded) (hi : i < tree.size) :
    (tree.nodeAt i).codeLevel =
      1 + (tree.ancestors i).countP fun a => (tree.contentAt a).isCode := by
  induction i using Nat.strong_induction_on with
  | _ i ih =>
    rcases Nat.eq_zero_or_pos i with rfl | hz
    · rw [h.nodeAt_zero, h.ancestors_zero]
      rfl
    · obtain ⟨p, hp, ha, hfollow⟩ := h.ancestors_eq hi hz
      rw [hfollow.code, ha, List.countP_cons, Node.childCodeLevel, ih p hp (hp.trans hi)]
      change (if (tree.contentAt p).isCode = true then _ else _) = _
      split <;> push_cast <;> omega

/-- Lines that are not code indent the output below them. -/
theorem childOutputLevel_eq (h : tree.Graded) (hi : i < tree.size) :
    (tree.nodeAt i).childOutputLevel = (tree.nodeAt i).outputLevel +
      if (i ≠ 0 && !(tree.contentAt i).isCode) = true then 1 else 0 := by
  rcases Nat.eq_zero_or_pos i with rfl | hz
  · rw [h.nodeAt_zero]
    rfl
  · have hroot : (tree.nodeAt i).content ≠ .root := fun hc =>
      hz.ne' ((h.content_eq_root_iff hi).mp hc)
    rw [Node.childOutputLevel, contentAt]
    cases hc : (tree.nodeAt i).content with
    | root => exact absurd hc hroot
    | code c => simp [Content.isCode]
    | _ => simp [Content.isCode, hz.ne']

/-- The output level is the number of nodes above a node that are neither the root nor code. -/
theorem outputLevel_eq (h : tree.Graded) (hi : i < tree.size) :
    (tree.nodeAt i).outputLevel =
      (tree.ancestors i).countP fun a => a ≠ 0 && !(tree.contentAt a).isCode := by
  induction i using Nat.strong_induction_on with
  | _ i ih =>
    rcases Nat.eq_zero_or_pos i with rfl | hz
    · rw [h.nodeAt_zero, h.ancestors_zero]
      rfl
    · obtain ⟨p, hp, ha, hfollow⟩ := h.ancestors_eq hi hz
      rw [hfollow.output, h.childOutputLevel_eq (hp.trans hi), ha, List.countP_cons,
        ih p hp (hp.trans hi)]
      split <;> push_cast <;> rfl

/-- Outside of filters and comments, the block level is the number of nodes above a node except the
root. -/
theorem blockLevel_eq (h : tree.Graded) (hi : i < tree.size) (hz : 0 < i)
    (hplain : ∀ a ∈ tree.ancestors i, (tree.contentAt a).isRaw = false) :
    (tree.nodeAt i).blockLevel = (tree.ancestors i).countP (· ≠ 0) := by
  induction i using Nat.strong_induction_on with
  | _ i ih =>
    obtain ⟨p, hp, ha, hfollow⟩ := h.ancestors_eq hi hz
    rw [ha] at hplain ⊢
    rw [hfollow.block (insideRaw_eq_false_iff.mpr hplain), List.countP_cons]
    rcases Nat.eq_zero_or_pos p with rfl | hpos
    · rw [h.ancestors_zero]
      rfl
    · rw [if_neg hpos.ne', ih p hp (hp.trans hi) hpos fun a hmem =>
        hplain a (List.mem_cons_of_mem _ hmem)]
      simp [hpos.ne']

/-- Each node above a node, except the root, counts for its code level or for its output level. -/
theorem countP_ne_zero (h : tree.Graded) (hi : i < tree.size) :
    ((tree.ancestors i).countP (· ≠ 0) : Int) =
      (tree.nodeAt i).outputLevel + (tree.nodeAt i).codeLevel - 1 := by
  have hsum : ∀ above : List Nat, above.countP (· ≠ 0) =
      above.countP (fun a => a ≠ 0 && !(tree.contentAt a).isCode) +
        above.countP fun a => (tree.contentAt a).isCode := by
    intro above
    induction above with
    | nil => rfl
    | cons a above ih =>
      rw [List.countP_cons, List.countP_cons, List.countP_cons, ih]
      rcases Nat.eq_zero_or_pos a with rfl | hpos
      · rw [h.contentAt_zero]
        rfl
      · cases (tree.contentAt a).isCode <;> simp [hpos.ne'] <;> omega
  rw [hsum, h.outputLevel_eq hi, h.codeLevel_eq hi]
  push_cast
  omega

/-- The depths of the first nodes, in order. -/
theorem foldlM_extendDepths (h : tree.Graded) {count : Nat} (hcount : count < tree.size) :
    ((tree.nodes.toList.drop 1).take count).foldlM extendDepths [-1] =
      some ((List.range (count + 1)).map fun i => ((tree.ancestors i).length : Int) - 1) := by
  induction count with
  | zero =>
    rw [List.take_zero, List.range_succ, List.range_zero, List.nil_append, List.map_singleton,
      h.ancestors_zero]
    rfl
  | succ count ih =>
    have hget : (tree.nodes.toList.drop 1)[count]? = some (tree.nodeAt (count + 1)) := by
      rw [List.getElem?_drop, Array.getElem?_toList, Nat.add_comm]
      exact get?_eq_some_nodeAt hcount
    obtain ⟨p, hp, hparent, ha⟩ := h.ancestors_pos hcount (Nat.succ_pos count)
    rw [List.take_add_one, hget, List.foldlM_append, ih (by omega),
      List.range_succ (n := count + 1),
      List.map_append, List.map_singleton, ha, List.length_cons]
    simp [extendDepths, hparent, hp]

/-- The root is above each other node once. -/
theorem length_ancestors (h : tree.Graded) (hi : i < tree.size) (hz : 0 < i) :
    (tree.ancestors i).length = (tree.ancestors i).countP (· ≠ 0) + 1 := by
  induction i using Nat.strong_induction_on with
  | _ i ih =>
    obtain ⟨p, hp, ha, -⟩ := h.ancestors_eq hi hz
    rw [ha, List.length_cons, List.countP_cons]
    rcases Nat.eq_zero_or_pos p with rfl | hpos
    · rw [h.ancestors_zero]
      rfl
    · rw [ih p hp (hp.trans hi) hpos]
      simp [hpos.ne']

/-- The depth is the greatest of the nodes' depths. -/
theorem depth?_eq_max? (h : tree.Graded) (hsize : 1 < tree.size) :
    tree.depth? = (-1 :: (List.range tree.size).map fun i =>
      ((tree.ancestors i).length : Int) - 1).max? := by
  have hfold := h.foldlM_extendDepths (show tree.size - 1 < tree.size by omega)
  have hlength : (tree.nodes.toList.drop 1).length = tree.size - 1 := by
    rw [List.length_drop, Array.length_toList]
    rfl
  rw [List.take_of_length_le (Nat.le_of_eq hlength), Nat.sub_add_cancel (by omega)] at hfold
  rw [depth?]
  match hnodes : tree.nodes.toList with
  | [] | [_] =>
    rw [hnodes] at hlength
    simp at hlength
    omega
  | _ :: second :: rest =>
    rw [hnodes] at hfold
    have hrest : (second :: rest).foldlM extendDepths [-1] = _ := hfold
    dsimp only
    rw [hrest, List.max?_cons']
    rfl

/-- Without filters and comments, the depth is the greatest block level. The greatest depth is not
that of the root. -/
theorem depth?_eq_blockLevel (h : tree.Graded) (hsize : 1 < tree.size)
    (hplain : ∀ i < tree.size, (tree.contentAt i).isRaw = false) :
    ∃ i, 0 < i ∧ i < tree.size ∧ tree.depth? = some (tree.nodeAt i).blockLevel ∧
      ∀ j, 0 < j → j < tree.size → (tree.nodeAt j).blockLevel ≤ (tree.nodeAt i).blockLevel := by
  have hlevel : ∀ i, 0 < i → i < tree.size →
      ((tree.ancestors i).length : Int) - 1 = (tree.nodeAt i).blockLevel := by
    intro i hz hi
    rw [h.blockLevel_eq hi hz fun a ha => hplain a ((lt_of_mem_ancestors ha).trans hi),
      h.length_ancestors hi hz]
    push_cast
    omega
  have hnonneg : 0 ≤ (tree.nodeAt 1).blockLevel := by
    have hlength := h.length_ancestors hsize Nat.one_pos
    rw [← hlevel 1 Nat.one_pos hsize]
    omega
  obtain ⟨d, hd⟩ : ∃ d, tree.depth? = some d := ⟨_, h.depth?_eq_max? hsize⟩
  have hmax := hd
  rw [h.depth?_eq_max? hsize, List.max?_eq_some_iff] at hmax
  obtain ⟨hmem, hle⟩ := hmax
  have hall : ∀ j, 0 < j → j < tree.size → (tree.nodeAt j).blockLevel ≤ d := by
    intro j hz hj
    rw [← hlevel j hz hj]
    exact hle _ (List.mem_cons_of_mem _ (List.mem_map.mpr ⟨j, List.mem_range.mpr hj, rfl⟩))
  have hone := hall 1 Nat.one_pos hsize
  rcases List.mem_cons.mp hmem with hroot | hnode
  · omega
  · obtain ⟨i, hi, heq⟩ := List.mem_map.mp hnode
    rcases Nat.eq_zero_or_pos i with rfl | hz
    · rw [h.ancestors_zero] at heq
      have hneg : (-1 : Int) = d := heq
      omega
    · have hi := List.mem_range.mp hi
      rw [hlevel i hz hi] at heq
      exact ⟨i, hz, hi, by rw [hd, heq], heq ▸ hall⟩

end Graded

end Tree

/-- The tree of a run is graded. -/
theorem Nesting.Levelled.tree {n : Nesting} (hs : n.Sound) (h : n.Levelled) : n.tree.Graded :=
  ⟨hs.rooted, h.nodes⟩

namespace Template

/-- The levels of every node below the root in terms of its ancestors. The code level counts the
lines of code, from one. The output level counts the others except the root. Outside of filters and
comments the block level counts all except the root, so it is what the other two add up to. In a
tree without filters and comments the depth is the greatest block level. -/
theorem levels_of_ancestors {source : Text} {tree : Tree} (h : parse source = .ok tree) :
    (∀ i node, tree.get? i = some node → 0 < i →
      node.codeLevel = 1 + (tree.ancestors i).countP (fun a => (tree.contentAt a).isCode) ∧
      node.outputLevel =
        (tree.ancestors i).countP (fun a => a ≠ 0 && !(tree.contentAt a).isCode) ∧
      ((∀ a ∈ tree.ancestors i, (tree.contentAt a).isRaw = false) →
        node.blockLevel = (tree.ancestors i).countP (· ≠ 0) ∧
        node.blockLevel = node.outputLevel + node.codeLevel - 1)) ∧
    ((∀ i < tree.size, (tree.contentAt i).isRaw = false) → 1 < tree.size →
      ∃ i, 0 < i ∧ i < tree.size ∧ tree.depth? = some (tree.nodeAt i).blockLevel ∧
        ∀ j, 0 < j → j < tree.size →
          (tree.nodeAt j).blockLevel ≤ (tree.nodeAt i).blockLevel) := by
  obtain ⟨n, hr, rfl⟩ := Nesting.exists_run h
  obtain ⟨hs, hlevelled⟩ := Nesting.levelled_run hr
  have hgraded := hlevelled.tree hs
  constructor
  · intro i node hget hz
    have hi := Tree.lt_size_of_get? hget
    obtain rfl := Tree.nodeAt_of_get? hget
    refine ⟨hgraded.codeLevel_eq hi, hgraded.outputLevel_eq hi, ?_⟩
    intro hplain
    have hblock := hgraded.blockLevel_eq hi hz hplain
    exact ⟨hblock, hblock.trans (hgraded.countP_ne_zero hi)⟩
  · intro hplain hsize
    exact hgraded.depth?_eq_blockLevel hsize hplain

/-- Code and markup inside of each other, and a return by two levels. -/
def nestedCode : Text := "- if x\n  %p\n    - for y in z\n      = y\n  %br".toList

/-- The tree of `nestedCode`. -/
def nestedTree : Tree := (parse nestedCode).toOption.getD Tree.empty

/-- A value in a loop in an element in a condition has the levels that its ancestors give it. -/
theorem levels_of_ancestors_nestedCode :
    parse nestedCode = .ok nestedTree ∧ nestedTree.ancestors 4 = [3, 2, 1, 0] ∧
      (nestedTree.nodeAt 4).codeLevel = 3 ∧ (nestedTree.nodeAt 4).outputLevel = 1 ∧
      (nestedTree.nodeAt 4).blockLevel = 3 ∧
      ∃ i, 0 < i ∧ i < nestedTree.size ∧
        nestedTree.depth? = some (nestedTree.nodeAt i).blockLevel := by
  obtain ⟨hparse, hget, hsize, habove, hplain⟩ : parse nestedCode = .ok nestedTree ∧
      nestedTree.get? 4 = some (nestedTree.nodeAt 4) ∧ 1 < nestedTree.size ∧
      nestedTree.ancestors 4 = [3, 2, 1, 0] ∧
      ∀ i < nestedTree.size, (nestedTree.contentAt i).isRaw = false := by decide +kernel
  obtain ⟨hnodes, hdepth⟩ := levels_of_ancestors hparse
  obtain ⟨hcode, houtput, hblock⟩ := hnodes 4 _ hget (by decide)
  obtain ⟨i, hz, hi, hmax, -⟩ := hdepth hplain hsize
  have hraw : ∀ a ∈ nestedTree.ancestors 4, (nestedTree.contentAt a).isRaw = false :=
    fun a ha => hplain a ((Tree.lt_of_mem_ancestors ha).trans (Tree.lt_size_of_get? hget))
  refine ⟨hparse, habove, ?_, ?_, ?_, i, hz, hi, hmax⟩
  · rw [hcode]
    decide +kernel
  · rw [houtput]
    decide +kernel
  · rw [(hblock hraw).1, habove]
    rfl

end Template

end Haml
