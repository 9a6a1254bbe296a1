import Haml.Template
import Mathlib.Order.Nat

/-!
# Trees that grow

A tree grows at its end only, so what holds of a node goes on to hold of it. This module gives the
look-up of a node after a line has been added, the nodes above a node, and what it means for a tree
to be rooted: the first node is the root and the parent of every other node comes before it. In a
rooted tree the walk upwards always ends at the root, and the test for filters and comments above a
node is a test of its ancestors.
-/

namespace Haml.Tree

variable {tree : Tree} {node : Node} {i p : Nat}

/-- The node at an index; the root for an index outside of the tree. -/
def nodeAt (tree : Tree) (i : Nat) : Node := (tree.get? i).getD Node.root

/-- The meaning of the node at an index. -/
def contentAt (tree : Tree) (i : Nat) : Content := (tree.nodeAt i).content

/-- Every index below the size has its node. -/
theorem get?_eq_some_nodeAt (h : i < tree.size) : tree.get? i = some (tree.nodeAt i) := by
  have hi : i < tree.nodes.size := h
  simp [nodeAt, get?, hi]

/-- Only indices below the size have nodes. -/
theorem lt_size_of_get? (h : tree.get? i = some node) : i < tree.size := by
  by_contra hn
  have he : tree.get? i = none := Array.getElem?_eq_none (Nat.le_of_not_lt hn)
  rw [he] at h
  contradiction

/-- The node that is found at an index is the node at the index. -/
theorem nodeAt_of_get? (h : tree.get? i = some node) : tree.nodeAt i = node := by
  rw [nodeAt, h]
  rfl

/-- Behind the end of the tree the root is found. -/
theorem nodeAt_of_size_le (h : tree.size ≤ i) : tree.nodeAt i = Node.root := by
  have he : tree.get? i = none := Array.getElem?_eq_none h
  rw [nodeAt, he]
  rfl

/-- Adding a node makes the tree one node larger. -/
@[simp] theorem size_add (tree : Tree) (node : Node) : (tree.add node).size = tree.size + 1 :=
  Array.size_push ..

/-- The node that was added is at the next index. -/
@[simp] theorem nodeAt_add_size (tree : Tree) (node : Node) :
    (tree.add node).nodeAt tree.size = node :=
  nodeAt_of_get? Array.getElem?_push_size

/-- Adding a node leaves the others where they are. -/
theorem nodeAt_add_lt (h : i < tree.size) : (tree.add node).nodeAt i = tree.nodeAt i := by
  have hi : i < tree.nodes.size := h
  simp [nodeAt, get?, add, Array.getElem?_push_lt, hi]

/-- Adding a node does not change the content of the others. -/
theorem contentAt_add_lt (h : i < tree.size) : (tree.add node).contentAt i = tree.contentAt i := by
  rw [contentAt, nodeAt_add_lt h, contentAt]

/-- The node that was added has its own content. -/
@[simp] theorem contentAt_add_size (tree : Tree) (node : Node) :
    (tree.add node).contentAt tree.size = node.content := by
  rw [contentAt, nodeAt_add_size]

/-- A property of all nodes holds after one more node if it holds of that node. -/
theorem forall_nodeAt_add {P : Nat → Node → Prop} (h : ∀ i < tree.size, P i (tree.nodeAt i))
    (hn : P tree.size node) : ∀ i < (tree.add node).size, P i ((tree.add node).nodeAt i) := by
  intro i hi
  rw [size_add] at hi
  rcases Nat.lt_succ_iff_lt_or_eq.mp hi with hlt | rfl
  · rw [nodeAt_add_lt hlt]
    exact h i hlt
  · rwa [nodeAt_add_size]

/-- The parent of a node is recorded in it. -/
theorem parent?_eq (h : i < tree.size) : tree.parent? i = (tree.nodeAt i).parent := by
  rw [parent?, get?_eq_some_nodeAt h]
  rfl

/-- Adding a node does not change the parents of the others, nor which of them have none. -/
theorem parent?_add_lt (h : i < tree.size) : (tree.add node).parent? i = tree.parent? i := by
  rw [parent?_eq h, parent?_eq (by rw [size_add]; omega), nodeAt_add_lt h]

/-- A reference within the tree stands for the node it counts to. -/
theorem index?_natCast (h : i < tree.size) : tree.index? (i : Int) = some i := by
  have hn : ¬((i : Int) < 0) := by omega
  have hi : 0 ≤ (i : Int) ∧ (i : Int) < tree.size := by omega
  simp only [index?, hn, if_false, hi, and_self, if_true, Int.toNat_natCast]

/-- An index that counts from the start finds its node. -/
theorem find?_natCast (h : i < tree.size) : tree.find? (i : Int) = some (tree.nodeAt i) := by
  rw [find?, index?_natCast h]
  exact get?_eq_some_nodeAt h

/-- The filter that a node with some content at an index belongs to. -/
def topOfContent (i : Nat) : Content → Option Int
  | .filter (.body top) => some top
  | .filter (.header _) => some i
  | _ => none

/-- The filter of a node is told by its content. -/
theorem topOf?_eq (h : i < tree.size) : tree.topOf? i = topOfContent i (tree.contentAt i) := by
  rw [topOf?, get?_eq_some_nodeAt h, contentAt]
  dsimp only
  cases (tree.nodeAt i).content with
  | filter line => cases line <;> rfl
  | _ => rfl

/-- Beyond the nodes there are no filters. -/
theorem topOf?_eq_none_of_size_le (h : tree.size ≤ i) : tree.topOf? i = none := by
  have he : tree.get? i = none := Array.getElem?_eq_none h
  rw [topOf?, he]

/-- Adding a node does not change the filters of the others. -/
theorem topOf?_add_lt (h : i < tree.size) : (tree.add node).topOf? i = tree.topOf? i := by
  rw [topOf?_eq h, topOf?_eq (by rw [size_add]; omega), contentAt_add_lt h]

/-- The filter of the node that was added is told by its content. -/
theorem topOf?_add_size (tree : Tree) (node : Node) :
    (tree.add node).topOf? tree.size = topOfContent tree.size node.content := by
  rw [topOf?_eq (by rw [size_add]; omega), contentAt_add_size]

/-- The nodes with a filter to belong to are the lines of filters. -/
theorem isSome_topOfContent (i : Nat) (content : Content) :
    (topOfContent i content).isSome = content.isFilter := by
  cases content with
  | filter line => cases line <;> rfl
  | _ => rfl

/-- A node with a filter is a line of it. -/
theorem isFilter_of_topOf? {top : Int} (h : tree.topOf? i = some top) :
    (tree.contentAt i).isFilter = true := by
  have hi : i < tree.size := by
    by_contra hn
    rw [topOf?_eq_none_of_size_le (Nat.le_of_not_lt hn)] at h
    contradiction
  rw [← isSome_topOfContent i, ← topOf?_eq hi, h]
  rfl

/-- The parent of a node, the parent's parent and so on up to the root. -/
def ancestors (tree : Tree) (i : Nat) : List Nat :=
  match tree.parent? i with
  | none => []
  | some p => if p < i then p :: tree.ancestors p else []
termination_by i

/-- A node without a parent has no ancestors. -/
theorem ancestors_of_none (h : tree.parent? i = none) : tree.ancestors i = [] := by
  rw [ancestors, h]

/-- The ancestors of a node are its parent and the ancestors of that. -/
theorem ancestors_of_some (h : tree.parent? i = some p) (hp : p < i) :
    tree.ancestors i = p :: tree.ancestors p := by
  rw [ancestors, h]
  exact if_pos hp

/-- Ancestors come before the node. -/
theorem lt_of_mem_ancestors {a : Nat} (h : a ∈ tree.ancestors i) : a < i := by
  induction i using Nat.strong_induction_on with
  | _ i ih =>
    rw [ancestors] at h
    split at h
    · simp at h
    · rename_i p _
      split at h
      · rename_i hp
        rcases List.mem_cons.mp h with rfl | ha
        · exact hp
        · exact (ih p hp ha).trans hp
      · simp at h

/-- A new node is above no other node. -/
theorem ancestors_add_lt (h : i < tree.size) : (tree.add node).ancestors i = tree.ancestors i := by
  induction i using Nat.strong_induction_on with
  | _ i ih =>
    have hp : (tree.add node).parent? i = tree.parent? i := parent?_add_lt h
    cases hc : tree.parent? i with
    | none => rw [ancestors_of_none hc, ancestors_of_none (hp.trans hc)]
    | some p =>
      by_cases hlt : p < i
      · rw [ancestors_of_some hc hlt, ancestors_of_some (hp.trans hc) hlt,
          ih p hlt (hlt.trans h)]
      · rw [ancestors, ancestors, hp, hc]
        simp [hlt]

/-- The first node is the root, and every other node has its parent before it. -/
structure Rooted (tree : Tree) : Prop where
  /-- The root is the first node. -/
  root : tree.get? 0 = some Node.root
  /-- A parent comes before its children. -/
  parent : ∀ i < tree.size, 0 < i → ∃ p < i, (tree.nodeAt i).parent = some p

namespace Rooted

/-- A tree with a root is not empty. -/
theorem size_pos (h : tree.Rooted) : 0 < tree.size := lt_size_of_get? h.root

/-- The first node is the root. -/
theorem nodeAt_zero (h : tree.Rooted) : tree.nodeAt 0 = Node.root := nodeAt_of_get? h.root

/-- The first node has the content of a root. -/
theorem contentAt_zero (h : tree.Rooted) : tree.contentAt 0 = .root := by
  rw [contentAt, h.nodeAt_zero]
  rfl

/-- A tree with a root has one after a node is added below another. -/
theorem add (h : tree.Rooted) (hp : p < tree.size) (hn : node.parent = some p) :
    (tree.add node).Rooted := by
  constructor
  · rw [get?_eq_some_nodeAt (by rw [size_add]; omega), nodeAt_add_lt h.size_pos, h.nodeAt_zero]
  · exact forall_nodeAt_add (P := fun i node => 0 < i → ∃ p < i, node.parent = some p) h.parent
      fun _ => ⟨p, hp, hn⟩

/-- A parent comes before the node. -/
theorem parent_lt (h : tree.Rooted) (hi : i < tree.size) (hp : (tree.nodeAt i).parent = some p) :
    p < i := by
  rcases Nat.eq_zero_or_pos i with rfl | hz
  · rw [h.nodeAt_zero] at hp
    cases hp
  · obtain ⟨q, hq, he⟩ := h.parent i hi hz
    obtain rfl : p = q := Option.some.inj (hp.symm.trans he)
    exact hq

/-- The root has no ancestors. -/
theorem ancestors_zero (h : tree.Rooted) : tree.ancestors 0 = [] := by
  apply ancestors_of_none
  rw [parent?_eq h.size_pos, h.nodeAt_zero]
  rfl

/-- Every node but the root has a parent before it, and its ancestors are the parent and those of
the parent. -/
theorem ancestors_pos (h : tree.Rooted) (hi : i < tree.size) (hz : 0 < i) :
    ∃ p < i, (tree.nodeAt i).parent = some p ∧ tree.ancestors i = p :: tree.ancestors p := by
  obtain ⟨p, hp, hc⟩ := h.parent i hi hz
  exact ⟨p, hp, hc, ancestors_of_some ((parent?_eq hi).trans hc) hp⟩

/-- The root is no line of a filter. -/
theorem topOf?_zero (h : tree.Rooted) : tree.topOf? 0 = none := by
  rw [topOf?_eq h.size_pos, h.contentAt_zero]
  rfl

end Rooted

/-- Whether a node, or one above it, is a filter or a comment. -/
def insideRaw (tree : Tree) (i : Nat) : Bool :=
  (i :: tree.ancestors i).any fun a => (tree.contentAt a).isRaw

/-- A node is not inside of raw text exactly if neither it nor any of its ancestors is raw. -/
theorem insideRaw_eq_false_iff : tree.insideRaw i = false ↔
    ∀ a ∈ i :: tree.ancestors i, (tree.contentAt a).isRaw = false := by
  simp only [insideRaw, List.any_eq_false, Bool.not_eq_true]

/-- The lines of a filter are raw. -/
theorem insideRaw_of_isFilter (h : (tree.contentAt i).isFilter = true) :
    tree.insideRaw i = true := by
  have hraw : (tree.contentAt i).isRaw = true := by
    cases hc : tree.contentAt i with
    | filter line => rfl
    | _ =>
      rw [hc] at h
      cases h
  rw [insideRaw, List.any_cons, hraw, Bool.true_or]

/-- Adding a node does not change which of the others are inside of raw text. -/
theorem insideRaw_add_lt (h : i < tree.size) :
    (tree.add node).insideRaw i = tree.insideRaw i := by
  have hm : ∀ a ∈ i :: tree.ancestors i, (tree.add node).contentAt a = tree.contentAt a := by
    intro a ha
    apply contentAt_add_lt
    rcases List.mem_cons.mp ha with rfl | ha
    · exact h
    · exact (lt_of_mem_ancestors ha).trans h
  rw [insideRaw, insideRaw, ancestors_add_lt h, Bool.eq_iff_iff, List.any_eq_true, List.any_eq_true]
  constructor
  · rintro ⟨a, ha, hr⟩
    exact ⟨a, ha, hm a ha ▸ hr⟩
  · rintro ⟨a, ha, hr⟩
    exact ⟨a, ha, (hm a ha).symm ▸ hr⟩

/-- What is raw makes all below it raw. -/
theorem insideRaw_of_parent (hc : (tree.nodeAt i).parent = some p) (hi : i < tree.size)
    (hp : p < i) :
    tree.insideRaw i = ((tree.contentAt i).isRaw || tree.insideRaw p) := by
  rw [insideRaw, ancestors_of_some ((parent?_eq hi).trans hc) hp, List.any_cons]
  rfl

/-- The walk upwards meets a filter or a comment exactly when there is one among the ancestors. -/
theorem Rooted.inRawBlock?_eq (h : tree.Rooted) (hi : i < tree.size) :
    tree.inRawBlock? i = some (tree.insideRaw i) := by
  induction i using Nat.strong_induction_on with
  | _ i ih =>
    rw [inRawBlock?, get?_eq_some_nodeAt hi]
    dsimp only
    rcases Nat.eq_zero_or_pos i with rfl | hz
    · rw [insideRaw, h.ancestors_zero, h.nodeAt_zero, List.any_cons, h.contentAt_zero]
      rfl
    · obtain ⟨p, hp, hc⟩ := h.parent i hi hz
      rw [insideRaw_of_parent hc hi hp, hc, contentAt]
      cases hr : (tree.nodeAt i).content.isRaw with
      | true => rfl
      | false =>
        simp only [Bool.false_eq_true, if_false, hp, if_true, Bool.false_or]
        exact ih p hp (hp.trans hi)

end Haml.Tree
