import Haml.Proofs.Embedding
import Mathlib.Data.List.Sort

/-!
# Trees that differ below one node

Two trees are compared that are the same except for a stretch of nodes after a node `k`, all of them
below `k`. The map `across` of indices passes over the two stretches. It keeps the order, sends
parents to parents and the lines of filters to the lines of filters. So, if `k` is a silent comment,
whose lines below do not render, the two trees render alike.
-/

namespace Haml

/-- The node `b` is the node `a` with its references sent along a map, at any block level. -/
structure Node.Sent (f : Nat → Nat) (a b : Node) : Prop where
  /-- The line is the same. -/
  expression : b.expression = a.expression
  /-- So is its width. -/
  indent : b.indent = a.indent
  /-- So is its code level. -/
  codeLevel : b.codeLevel = a.codeLevel
  /-- So is its output level. -/
  outputLevel : b.outputLevel = a.outputLevel
  /-- The parent is sent along. -/
  parent : b.parent = a.parent.map f
  /-- So is the filter that the line belongs to. -/
  content : b.content = a.content.relabel f

namespace Node.Sent

variable {f : Nat → Nat} {a b : Node}

/-- A node that is sent along has its children at the same code level. -/
theorem childCodeLevel (h : a.Sent f b) : b.childCodeLevel = a.childCodeLevel := by
  rw [Node.childCodeLevel, h.content, h.codeLevel]
  exact Node.childCodeLevel_relabel f a

/-- A node that is sent along has its children at the same output level. -/
theorem childOutputLevel (h : a.Sent f b) : b.childOutputLevel = a.childOutputLevel := by
  rw [Node.childOutputLevel, h.content, h.outputLevel]
  exact Node.childOutputLevel_relabel f a

/-- A node that is sent along renders like before. -/
theorem rendersLike (h : a.Sent f b) : a.RendersLike b where
  expression := h.expression
  codeLevel := h.codeLevel
  outputLevel := h.outputLevel
  content := by
    rw [h.content]
    exact (Node.rendersLike_relabel f a).content

end Node.Sent

namespace Tree

variable {k e e' i j : Nat} {t u tree : Tree} {node a b : Node}

/-- The indices that are not between `k` and `e`. -/
def Outside (k e i : Nat) : Prop := i ≤ k ∨ e ≤ i

/-- The map that keeps the indices up to `k` and sends those from `e` on to those from `e'` on. -/
def across (k e e' i : Nat) : Nat := if i ≤ k then i else i - e + e'

/-- Indices up to the hidden nodes stay. -/
theorem across_of_le (h : i ≤ k) : across k e e' i = i := if_pos h

/-- Indices after the hidden nodes are counted from their end. -/
theorem across_of_ge (hk : k < e) (h : e ≤ i) : across k e e' i = i - e + e' := if_neg (by omega)

/-- Different indices outside of the hidden nodes stay different. -/
theorem across_inj (hk' : k < e') (hi : Outside k e i) (hj : Outside k e j)
    (h : across k e e' i = across k e e' j) : i = j := by
  rw [across, across] at h
  rw [Outside] at hi hj
  split_ifs at h <;> omega

/-- Indices outside of the hidden nodes keep their order. -/
theorem across_lt (hk' : k < e') (hi : Outside k e i) (h : i < j) :
    across k e e' i < across k e e' j := by
  rw [across, across]
  rw [Outside] at hi
  split_ifs <;> omega

/-- Indices are sent outside of the hidden nodes. -/
theorem outside_across (k e e' i : Nat) : Outside k e' (across k e e' i) := by
  rw [across, Outside]
  split_ifs <;> omega

/-- Every index outside of the hidden nodes is an image. -/
theorem exists_across (hk : k < e) (hj : Outside k e' j) :
    ∃ i, Outside k e i ∧ across k e e' i = j := by
  rcases Nat.lt_or_ge k j with hlt | hle
  · have hge : e' ≤ j := hj.resolve_left (Nat.not_le.mpr hlt)
    refine ⟨j - e' + e, .inr (by omega), ?_⟩
    rw [across_of_ge hk (by omega)]
    omega
  · exact ⟨j, .inl hle, across_of_le hle⟩

/-- The nodes between `k` and `e` are below `k`, and their filters are among them. -/
def Hides (tree : Tree) (k e : Nat) : Prop :=
  ∀ i, k < i → i < e → (∃ p, (tree.nodeAt i).parent = some p ∧ k ≤ p) ∧
    ∀ top, tree.contentAt i = .filter (.body top) → (k : Int) < top

/-- Nodes that are hidden stay so when a node is added after them. -/
theorem Hides.add_of_le (h : tree.Hides k e) (he : e ≤ tree.size) : (tree.add node).Hides k e := by
  intro i hk hi
  rw [contentAt_add_lt (by omega), nodeAt_add_lt (by omega)]
  exact h i hk hi

/-- A further node below the hidden ones is hidden with them. -/
theorem Hides.add (h : tree.Hides k tree.size) {p : Nat} (hp : node.parent = some p) (hkp : k ≤ p)
    (ht : ∀ top, node.content = .filter (.body top) → (k : Int) < top) :
    (tree.add node).Hides k (tree.size + 1) := by
  intro i hk hi
  rcases Nat.lt_succ_iff_lt_or_eq.mp hi with hlt | rfl
  · rw [contentAt_add_lt hlt, nodeAt_add_lt hlt]
    exact h i hk hlt
  · rw [contentAt_add_size, nodeAt_add_size]
    exact ⟨⟨p, hp, hkp⟩, ht⟩

/-- A node that is not hidden, other than `k`, has no hidden children. -/
theorem Hides.outside_of_parent (h : tree.Hides k e) (hr : tree.Rooted) (hi : Outside k e i)
    (hik : i ≠ k) (hj : j < tree.size) (hp : tree.parent? j = some i) : Outside k e j := by
  rw [parent?_eq hj] at hp
  have hlt := hr.parent_lt hj hp
  by_contra hn
  rw [Outside, not_or, Nat.not_le, Nat.not_le] at hn
  obtain ⟨⟨p, hparent, hkp⟩, -⟩ := h j hn.1 hn.2
  obtain rfl : i = p := Option.some.inj (hp.symm.trans hparent)
  rw [Outside] at hi
  omega

/-- Two trees that differ only between `k` and `e` in the one, and between `k` and `e'` in the
other. -/
structure SameOutside (k e e' : Nat) (t u : Tree) : Prop where
  /-- The part that differs starts after `k`. -/
  lt : k < e
  /-- In both trees. -/
  lt' : k < e'
  /-- It is within the one tree. -/
  le : e ≤ t.size
  /-- As many nodes come after it in the other tree. -/
  size : u.size = t.size - e + e'
  /-- The other nodes are the same. -/
  nodes : ∀ i < t.size, Outside k e i →
    (t.nodeAt i).Sent (across k e e') (u.nodeAt (across k e e' i))
  /-- Their parents are among them. -/
  parent : ∀ i < t.size, Outside k e i → ∀ p, (t.nodeAt i).parent = some p → Outside k e p
  /-- So are their filters. -/
  top : ∀ i < t.size, Outside k e i → ∀ top, t.topOf? i = some top → Outside k e top.toNat
  /-- What differs is below `k`. -/
  hides : t.Hides k e
  /-- In both trees. -/
  hides' : u.Hides k e'

namespace SameOutside

/-- The next index of the one tree goes to the next index of the other. -/
theorem apply_size (h : t.SameOutside k e e' u) : across k e e' t.size = u.size := by
  rw [across_of_ge h.lt h.le, h.size]

/-- Nodes that are not hidden go to nodes. -/
theorem apply_lt (h : t.SameOutside k e e' u) (hi : i < t.size) (ho : Outside k e i) :
    across k e e' i < u.size :=
  h.apply_size ▸ across_lt h.lt' ho hi

/-- The next node is not among the hidden ones. -/
theorem outside_size (h : t.SameOutside k e e' u) : Outside k e t.size := .inr h.le

/-- Each node of the other tree that is not hidden is an image. -/
theorem exists_index (h : t.SameOutside k e e' u) (hj : j < u.size) (ho : Outside k e' j) :
    ∃ i < t.size, Outside k e i ∧ across k e e' i = j := by
  obtain ⟨i, hi, rfl⟩ := exists_across h.lt ho
  refine ⟨i, ?_, hi, rfl⟩
  by_contra hge
  rcases Nat.lt_or_eq_of_le (Nat.le_of_not_lt hge) with hgt | rfl
  · have hbeyond := across_lt h.lt' h.outside_size hgt
    rw [h.apply_size] at hbeyond
    omega
  · rw [h.apply_size] at hj
    omega

/-- The filter of a line is sent to the filter of its image. -/
theorem topOf? (h : t.SameOutside k e e' u) (hi : i < t.size) (ho : Outside k e i) :
    u.topOf? (across k e e' i) =
      (t.topOf? i).map fun top => ((across k e e' top.toNat : Nat) : Int) := by
  rw [topOf?_eq hi, topOf?_eq (h.apply_lt hi ho), contentAt, (h.nodes i hi ho).content, contentAt]
  cases (t.nodeAt i).content with
  | filter line => cases line <;> rfl
  | _ => rfl

/-- One more node on both sides. -/
theorem add (h : t.SameOutside k e e' u) (hab : a.Sent (across k e e') b)
    (hp : ∀ p, a.parent = some p → Outside k e p)
    (ht : ∀ top, topOfContent t.size a.content = some top → Outside k e top.toNat) :
    (t.add a).SameOutside k e e' (u.add b) where
  lt := h.lt
  lt' := h.lt'
  le := by
    rw [size_add]
    exact Nat.le_succ_of_le h.le
  size := by
    have hle := h.le
    rw [size_add, size_add, h.size]
    omega
  nodes := by
    intro i hi ho
    rw [size_add] at hi
    rcases Nat.lt_succ_iff_lt_or_eq.mp hi with hlt | rfl
    · rw [nodeAt_add_lt hlt, nodeAt_add_lt (h.apply_lt hlt ho)]
      exact h.nodes i hlt ho
    · rw [nodeAt_add_size, h.apply_size, nodeAt_add_size]
      exact hab
  parent := forall_nodeAt_add
    (P := fun i node => Outside k e i → ∀ p, node.parent = some p → Outside k e p) h.parent
    fun _ => hp
  top := by
    intro i hi ho top htop
    rw [size_add] at hi
    rcases Nat.lt_succ_iff_lt_or_eq.mp hi with hlt | rfl
    · rw [topOf?_add_lt hlt] at htop
      exact h.top i hlt ho top htop
    · rw [topOf?_add_size] at htop
      exact ht top htop
  hides := h.hides.add_of_le h.le
  hides' := by
    have hsize := h.size
    exact h.hides'.add_of_le (by omega)

/-- Children of nodes that are not hidden are not hidden, except for those of `k`. -/
theorem children_across (h : t.SameOutside k e e' u) (ht : t.Rooted) (hu : u.Rooted)
    (hi : i < t.size) (ho : Outside k e i) (hik : i ≠ k) :
    u.children (across k e e' i) = (t.children i).map (across k e e') := by
  have hsorted : ((t.children i).map (across k e e')).Pairwise (· < ·) := by
    refine List.pairwise_map.mpr ((t.pairwise_children i).imp_of_mem ?_)
    intro c d hc _ hlt
    obtain ⟨-, hcs, hcp⟩ := mem_children.mp hc
    exact across_lt h.lt' (h.hides.outside_of_parent ht ho hik hcs hcp) hlt
  refine (u.pairwise_children _).eq_of_mem_iff hsorted ?_
  intro j
  rw [mem_children, List.mem_map]
  constructor
  · rintro ⟨-, hj, hp⟩
    have hne : across k e e' i ≠ k := by
      intro heq
      have hk : across k e e' k = k := across_of_le le_rfl
      exact hik (across_inj h.lt' ho (.inl le_rfl) (heq.trans hk.symm))
    obtain ⟨c, hc, hco, rfl⟩ := h.exists_index hj
      (h.hides'.outside_of_parent hu (outside_across k e e' i) hne hj hp)
    rw [parent?_eq hj, (h.nodes c hc hco).parent] at hp
    obtain ⟨p, hcp, heq⟩ := Option.map_eq_some_iff.mp hp
    obtain rfl : p = i := across_inj h.lt' (h.parent c hc hco p hcp) ho heq
    exact ⟨c, mem_children.mpr ⟨ht.parent_lt hc hcp, hc, (parent?_eq hc).trans hcp⟩, rfl⟩
  · rintro ⟨c, hc, rfl⟩
    obtain ⟨hic, hcs, hcp⟩ := mem_children.mp hc
    have hco := h.hides.outside_of_parent ht ho hik hcs hcp
    refine ⟨across_lt h.lt' ho hic, h.apply_lt hcs hco, ?_⟩
    rw [parent?_eq hcs] at hcp
    rw [parent?_eq (h.apply_lt hcs hco), (h.nodes c hcs hco).parent, hcp]
    rfl

end SameOutside

end Tree

namespace Nesting

open Haml.Tree (Outside across)

variable {k e e' v : Nat} {base m n m' n' : Nesting} {line : LogicalLine}

/-- The lines of a filter that is not hidden are not hidden. -/
theorem Sound.outside_of_body (hs : n.Sound) (h : n.tree.Hides k e) {t j : Nat} (ho : Outside k e t)
    (hj : j ∈ n.tree.bodyOf t) : Outside k e j := by
  obtain ⟨hjs, hc⟩ := Tree.mem_bodyOf.mp hj
  have hlt := ((hs.contentAt_eq_body_iff hjs).mp hc).1
  by_contra hhidden
  rw [Outside, not_or, Nat.not_le, Nat.not_le] at hhidden
  have htop := (h j hhidden.1 hhidden.2).2 t hc
  rw [Outside] at ho
  omega

/-- They are sent to the lines of its image. -/
theorem bodyOf_across (hm : m.Sound) (hn : n.Sound) (h : m.tree.SameOutside k e e' n.tree) {t : Nat}
    (ho : Outside k e t) :
    n.tree.bodyOf (across k e e' t) = (m.tree.bodyOf t).map (across k e e') := by
  have hsorted : ((m.tree.bodyOf t).map (across k e e')).Pairwise (· < ·) :=
    List.pairwise_map.mpr ((m.tree.pairwise_bodyOf t).imp_of_mem fun hc _ hlt =>
      Tree.across_lt h.lt' (hm.outside_of_body h.hides ho hc) hlt)
  refine (n.tree.pairwise_bodyOf _).eq_of_mem_iff hsorted ?_
  intro j
  rw [List.mem_map]
  constructor
  · intro hbody
    have hjo := hn.outside_of_body h.hides' (Tree.outside_across k e e' t) hbody
    obtain ⟨hj, hc⟩ := Tree.mem_bodyOf.mp hbody
    obtain ⟨i, hi, hio, rfl⟩ := h.exists_index hj hjo
    rw [Tree.contentAt, (h.nodes i hi hio).content, Content.relabel_eq_body_iff] at hc
    obtain ⟨other, hother, heq⟩ := hc
    have htop : m.tree.topOf? i = some other := by
      rw [Tree.topOf?_eq hi, Tree.contentAt, hother]
      rfl
    obtain ⟨s, -, rfl, -⟩ := hm.filters i hi other htop
    obtain rfl : t = s := Tree.across_inj h.lt' ho (h.top i hi hio s htop) (Int.ofNat.inj heq)
    exact ⟨i, Tree.mem_bodyOf.mpr ⟨hi, hother⟩, rfl⟩
  · rintro ⟨i, hi, rfl⟩
    have hio := hm.outside_of_body h.hides ho hi
    obtain ⟨his, hc⟩ := Tree.mem_bodyOf.mp hi
    rw [Tree.contentAt] at hc
    refine Tree.mem_bodyOf.mpr ⟨h.apply_lt his hio, ?_⟩
    rw [Tree.contentAt, (h.nodes i his hio).content, hc]
    rfl

/-- What is not hidden below a silent comment renders alike. -/
theorem mirrors_across (hm : m.Sound ∧ m.Blocks) (hn : n.Sound ∧ n.Blocks)
    (h : m.tree.SameOutside k e e' n.tree) {comment : Comment}
    (hk : m.tree.contentAt k = .comment comment) (hsilent : comment.silent = true) :
    m.tree.Mirrors n.tree (across k e e') fun i => i < m.tree.size ∧ Outside k e i := by
  have hne : ∀ {i}, (m.tree.contentAt i).rendersBelow = true → i ≠ k := by
    rintro i hrenders rfl
    rw [hk, Content.rendersBelow, hsilent] at hrenders
    cases hrenders
  refine ⟨?_, ?_, ?_, ?_⟩
  · rintro i ⟨hi, ho⟩
    exact (h.nodes i hi ho).rendersLike
  · rintro i ⟨hi, ho⟩ hrenders
    exact h.children_across hm.1.rooted hn.1.rooted hi ho (hne hrenders)
  · rintro i ⟨-, ho⟩ hrenders c hc
    obtain ⟨-, hcs, hcp⟩ := Tree.mem_children.mp hc
    exact ⟨hcs, h.hides.outside_of_parent hm.1.rooted ho (hne hrenders) hcs hcp⟩
  · rintro i kind ⟨hi, ho⟩ hheader
    have hheader' : n.tree.contentAt (across k e e' i) = .filter (.header kind) := by
      rw [Tree.contentAt] at hheader
      rw [Tree.contentAt, (h.nodes i hi ho).content, hheader]
      rfl
    rw [hn.2.filterLines_eq hn.1 hheader', hm.2.filterLines_eq hm.1 hheader,
      bodyOf_across hm.1 hn.1 h ho, List.map_map]
    refine FilterText.ofNodes_congr fun j hj => ?_
    have hsent := h.nodes j (Tree.mem_bodyOf.mp hj).1 (hm.1.outside_of_body h.hides ho hj)
    exact ⟨hsent.expression, hsent.indent⟩

end Nesting

end Haml
