import Haml.Proofs.Tree
import Haml.Statement
import Mathlib.Data.List.Nodup

/-!
# The nodes of a branch

The branch of a node holds the node and all nodes that have it among their ancestors, each once. In
the order of their indices these are the nodes in the order of their creation, so what is below a
filter can be read off the tree without the branch.
-/

namespace Haml

/-- The nodes of several branches are those of each in turn. -/
theorem Branch.nodesOfAll_eq_flatMap (branches : List Branch) :
    nodesOfAll branches = branches.flatMap nodes := by
  induction branches with
  | nil => rfl
  | cons branch rest ih => rw [nodesOfAll, ih, List.flatMap_cons]

/-- Sorting puts nodes in the order of their indices. -/
theorem Branch.pairwise_mergeSort_nodes (nodes : List (Nat × Node)) :
    (nodes.mergeSort fun a b => a.1 ≤ b.1).Pairwise fun a b => decide (a.1 ≤ b.1) = true := by
  apply List.pairwise_mergeSort
  · intro a b c hab hbc
    simp only [decide_eq_true_eq] at *
    omega
  · intro a b
    simp only [Bool.or_eq_true, decide_eq_true_eq]
    omega

namespace Tree

variable {tree : Tree} {node : Node} {i j a b : Nat}

/-- A node is a child exactly of its parent, and comes after it. -/
theorem mem_children : j ∈ tree.children i ↔
    i < j ∧ j < tree.size ∧ tree.parent? j = some i := by
  constructor
  · intro h
    obtain ⟨hi, hj⟩ := lt_of_mem_children h
    exact ⟨hi, hj, ((tree.listed i j).mp h).2⟩
  · rintro ⟨hi, -, hp⟩
    exact (tree.listed i j).mpr ⟨hi, hp⟩

/-- Children are in the order of their creation. -/
theorem pairwise_children (tree : Tree) (i : Nat) : (tree.children i).Pairwise (· < ·) :=
  tree.ordered i

/-- No node is listed twice among the children of a node. -/
theorem nodup_children (tree : Tree) (i : Nat) : (tree.children i).Nodup :=
  (tree.pairwise_children i).imp Nat.ne_of_lt

/-- The branch of a node in terms of the branches of its children. -/
theorem branch_eq (tree : Tree) (i : Nat) (node : Node) :
    tree.branch i node =
      .mk i node ((tree.children i).map fun j => tree.branch j (tree.nodeAt j)) := by
  rw [branch]
  congr 1
  conv_rhs => rw [← List.attach_map_subtype_val (tree.children i), List.map_map]
  rw [← List.filterMap_eq_map]
  congr 1
  funext ⟨j, hj⟩
  dsimp only
  rw [get?_eq_some_nodeAt (mem_children.mp hj).2.1]
  rfl

/-- The branch of the root holds the tree. -/
theorem branch?_of_lt (h : i < tree.size) :
    tree.branch? i = some (tree.branch i (tree.nodeAt i)) := by
  rw [branch?, get?_eq_some_nodeAt h]
  rfl

/-- In a tree with a root the branch of the root is found. -/
theorem Rooted.branch?_zero (h : tree.Rooted) :
    tree.branch? 0 = some (tree.branch 0 Node.root) := by
  rw [branch?, h.root]
  rfl

/-- Of two nodes on the way up from a node, one is above the other. -/
theorem ancestors_comparable (ha : a = j ∨ a ∈ tree.ancestors j)
    (hb : b = j ∨ b ∈ tree.ancestors j) :
    a = b ∨ a ∈ tree.ancestors b ∨ b ∈ tree.ancestors a := by
  induction j using Nat.strong_induction_on with
  | _ j ih =>
    rcases ha with rfl | ha
    · rcases hb with rfl | hb
      · exact .inl rfl
      · exact .inr (.inr hb)
    · rcases hb with rfl | hb
      · exact .inr (.inl ha)
      · rw [ancestors] at ha hb
        split at ha
        · simp at ha
        · rename_i p hp
          rw [hp] at hb
          by_cases hlt : p < j
          · simp only [hlt, if_true, List.mem_cons] at ha hb
            exact ih p hlt ha hb
          · simp [hlt] at ha

/-- What is below a node is a child of it or below one. -/
theorem mem_ancestors_iff (hj : j < tree.size) :
    i ∈ tree.ancestors j ↔ ∃ c ∈ tree.children i, c = j ∨ c ∈ tree.ancestors j := by
  induction j using Nat.strong_induction_on with
  | _ j ih =>
    constructor
    · intro hi
      have hlt := lt_of_mem_ancestors hi
      cases hp : tree.parent? j with
      | none => simp [ancestors_of_none hp] at hi
      | some p =>
        by_cases hpj : p < j
        · rw [ancestors_of_some hp hpj] at hi ⊢
          rcases List.mem_cons.mp hi with rfl | hi
          · exact ⟨j, mem_children.mpr ⟨hpj, hj, hp⟩, .inl rfl⟩
          · obtain ⟨c, hc, hcp⟩ := (ih p hpj (hpj.trans hj)).mp hi
            exact ⟨c, hc, .inr (List.mem_cons.mpr hcp)⟩
        · rw [ancestors, hp] at hi
          simp [hpj] at hi
    · rintro ⟨c, hc, rfl | hcj⟩
      · obtain ⟨hic, -, hp⟩ := mem_children.mp hc
        rw [ancestors_of_some hp hic]
        exact List.mem_cons_self
      · cases hp : tree.parent? j with
        | none => simp [ancestors_of_none hp] at hcj
        | some p =>
          by_cases hpj : p < j
          · rw [ancestors_of_some hp hpj] at hcj ⊢
            exact List.mem_cons_of_mem _
              ((ih p hpj (hpj.trans hj)).mpr ⟨c, hc, List.mem_cons.mp hcj⟩)
          · rw [ancestors, hp] at hcj
            simp [hpj] at hcj

/-- The nodes below a node are its children and what is below them. -/
theorem nodesOfAll_children (tree : Tree) (i : Nat) (node : Node) :
    Branch.nodesOfAll (tree.branch i node).children =
      (tree.children i).flatMap fun j =>
        (j, tree.nodeAt j) :: Branch.nodesOfAll (tree.branch j (tree.nodeAt j)).children := by
  rw [branch_eq, Branch.children, Branch.nodesOfAll_eq_flatMap, List.flatMap_map]
  congr 1
  funext j
  rw [branch_eq, Branch.nodes, Branch.children]

/-- A branch holds, below its node, the nodes with that node among their ancestors. -/
theorem mem_nodesOfAll_children {entry : Nat × Node} :
    entry ∈ Branch.nodesOfAll (tree.branch i node).children ↔
      ∃ j < tree.size, i ∈ tree.ancestors j ∧ entry = (j, tree.nodeAt j) := by
  induction hs : tree.size - i using Nat.strong_induction_on generalizing i node with
  | _ size ih =>
    have hchild : ∀ c ∈ tree.children i, tree.size - c < size := by
      intro c hc
      have hlt := lt_of_mem_children hc
      omega
    rw [nodesOfAll_children, List.mem_flatMap]
    constructor
    · rintro ⟨c, hc, he⟩
      have hlt := (lt_of_mem_children hc).2
      rcases List.mem_cons.mp he with rfl | he
      · exact ⟨c, hlt, (mem_ancestors_iff hlt).mpr ⟨c, hc, .inl rfl⟩, rfl⟩
      · obtain ⟨j, hj, hcj, rfl⟩ := (ih _ (hchild c hc) rfl).mp he
        exact ⟨j, hj, (mem_ancestors_iff hj).mpr ⟨c, hc, .inr hcj⟩, rfl⟩
    · rintro ⟨j, hj, hij, rfl⟩
      obtain ⟨c, hc, hcj⟩ := (mem_ancestors_iff hj).mp hij
      refine ⟨c, hc, List.mem_cons.mpr ?_⟩
      rcases hcj with rfl | hcj
      · exact .inl rfl
      · exact .inr ((ih _ (hchild c hc) rfl).mpr ⟨j, hj, hcj, rfl⟩)

/-- A node is above all nodes in the branches of its children. -/
theorem mem_ancestors_of_mem_map
    (h : j ∈ (Branch.nodesOfAll (tree.branch i node).children).map Prod.fst) :
    i ∈ tree.ancestors j := by
  obtain ⟨entry, he, rfl⟩ := List.mem_map.mp h
  obtain ⟨j, -, hij, rfl⟩ := mem_nodesOfAll_children.mp he
  exact hij

/-- Children of one node are not above each other. -/
theorem notMem_ancestors_of_mem_children (ha : a ∈ tree.children i) (hb : b ∈ tree.children i) :
    a ∉ tree.ancestors b := by
  intro hab
  obtain ⟨hib, -, hp⟩ := mem_children.mp hb
  have hia := (lt_of_mem_children ha).1
  rw [ancestors_of_some hp hib] at hab
  rcases List.mem_cons.mp hab with rfl | hai
  · exact absurd hia (Nat.lt_irrefl _)
  · exact absurd (lt_of_mem_ancestors hai) (by omega)

/-- A branch holds no node twice. -/
theorem nodup_nodesOfAll_children (tree : Tree) (i : Nat) (node : Node) :
    ((Branch.nodesOfAll (tree.branch i node).children).map Prod.fst).Nodup := by
  induction hs : tree.size - i using Nat.strong_induction_on generalizing i node with
  | _ size ih =>
    rw [nodesOfAll_children, List.map_flatMap, List.nodup_flatMap]
    constructor
    · intro c hc
      have hlt := lt_of_mem_children hc
      rw [List.map_cons, List.nodup_cons]
      refine ⟨?_, ih _ (by omega) c _ rfl⟩
      intro hcc
      exact absurd (lt_of_mem_ancestors (mem_ancestors_of_mem_map hcc)) (Nat.lt_irrefl _)
    · refine (tree.nodup_children i).imp_of_mem ?_
      intro c d hc hd hne j hcj hdj
      have habove : ∀ {c}, j ∈ ((c, tree.nodeAt c) ::
          Branch.nodesOfAll (tree.branch c (tree.nodeAt c)).children).map Prod.fst →
          c = j ∨ c ∈ tree.ancestors j := by
        intro c hcj
        rcases List.mem_cons.mp hcj with rfl | hcj
        · exact .inl rfl
        · exact .inr (mem_ancestors_of_mem_map hcj)
      rcases ancestors_comparable (habove hcj) (habove hdj) with heq | hcd | hdc
      · exact hne heq
      · exact notMem_ancestors_of_mem_children hc hd hcd
      · exact notMem_ancestors_of_mem_children hd hc hdc

/-- A filter takes the nodes below it in the order of their indices. Two entries of one index are
equal, since both are the node at that index. -/
theorem filterLines_eq {content : List Nat} (hsorted : content.Pairwise (· < ·))
    (hmem : ∀ j, j ∈ content ↔ j < tree.size ∧ i ∈ tree.ancestors j) :
    Branch.filterLines (tree.branch i node).children =
      FilterText.ofNodes (content.map tree.nodeAt) := by
  have hperm : (Branch.nodesOfAll (tree.branch i node).children).Perm
      (content.map fun j => (j, tree.nodeAt j)) := by
    rw [List.perm_ext_iff_of_nodup (nodup_nodesOfAll_children tree i node).of_map
      (List.Nodup.map (fun a b h => congrArg Prod.fst h) (hsorted.imp Nat.ne_of_lt))]
    intro entry
    rw [mem_nodesOfAll_children, List.mem_map]
    constructor
    · rintro ⟨j, hj, hij, rfl⟩
      exact ⟨j, (hmem j).mpr ⟨hj, hij⟩, rfl⟩
    · rintro ⟨j, hj, rfl⟩
      obtain ⟨hlt, hij⟩ := (hmem j).mp hj
      exact ⟨j, hlt, hij, rfl⟩
  have hsort : (Branch.nodesOfAll (tree.branch i node).children).mergeSort (fun a b => a.1 ≤ b.1) =
      content.map fun j => (j, tree.nodeAt j) := by
    refine List.Perm.eq_of_pairwise ?_ (Branch.pairwise_mergeSort_nodes _) ?_
      ((List.mergeSort_perm _ _).trans hperm)
    · intro a b ha hb hab hba
      obtain ⟨j, -, rfl⟩ := List.mem_map.mp (hperm.subset (List.mem_mergeSort.mp ha))
      obtain ⟨k, -, rfl⟩ := List.mem_map.mp hb
      simp only [decide_eq_true_eq] at hab hba
      rw [Nat.le_antisymm hab hba]
    · rw [List.pairwise_map]
      exact hsorted.imp fun h => decide_eq_true h.le
  rw [Branch.filterLines, hsort, List.map_map]
  rfl

end Tree

end Haml
