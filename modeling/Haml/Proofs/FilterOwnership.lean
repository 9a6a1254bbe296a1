import Haml.Proofs.FilterBlock
import Haml.Proofs.Lines
import Mathlib.Data.List.DropRight

/-!
# What belongs to a filter

The content of a filter are the nodes below its header, and these are the nodes right after it, up
to some node. They can be gathered in rounds, each of which takes one of the nodes that wait and
lets its children wait in turn: every round takes one node more, none is taken twice, and sorted
they are the content in the order of its creation. The lines of the filter are these nodes without
the blank ones at the end, their widths counted from the least.
-/

namespace Haml

namespace Tree

variable {tree : Tree} {i j t : Nat}

/-- The state between two rounds: the nodes that wait, and those that have been taken. -/
structure Gathering where
  /-- The nodes that wait. -/
  pending : List Nat
  /-- The nodes that have been taken, in this order. -/
  taken : List Nat

/-- One round: the last node that waits is taken, and its children wait instead. -/
def Gathering.next (tree : Tree) (g : Gathering) : Gathering :=
  match g.pending.getLast? with
  | none => g
  | some i => ⟨g.pending.dropLast ++ tree.children i, g.taken ++ [i]⟩

/-- The nodes below a node after some rounds. -/
def gathered (tree : Tree) (t : Nat) : Nat → Gathering
  | 0 => ⟨tree.children t, []⟩
  | rounds + 1 => (tree.gathered t rounds).next tree

/-- The nodes of the branch below a node. -/
def descendants (tree : Tree) (i : Nat) : List Nat :=
  (Branch.nodesOfAll (tree.branch i (tree.nodeAt i)).children).map Prod.fst

/-- The nodes that wait and all below them. -/
def outstanding (tree : Tree) (pending : List Nat) : List Nat :=
  pending.flatMap fun j => j :: tree.descendants j

/-- The descendants of a node are its children and theirs. -/
theorem descendants_eq (tree : Tree) (i : Nat) :
    tree.descendants i = tree.outstanding (tree.children i) := by
  rw [descendants, nodesOfAll_children, List.map_flatMap]
  rfl

/-- What is outstanding is listed part by part. -/
theorem outstanding_append (tree : Tree) (front back : List Nat) :
    tree.outstanding (front ++ back) = tree.outstanding front ++ tree.outstanding back :=
  List.flatMap_append

/-- The descendants of a node are the nodes that have it above them. -/
theorem mem_descendants : j ∈ tree.descendants i ↔ j < tree.size ∧ i ∈ tree.ancestors j := by
  rw [descendants, List.mem_map]
  constructor
  · rintro ⟨entry, hentry, rfl⟩
    obtain ⟨j, hj, hij, rfl⟩ := mem_nodesOfAll_children.mp hentry
    exact ⟨hj, hij⟩
  · rintro ⟨hj, hij⟩
    exact ⟨(j, tree.nodeAt j), mem_nodesOfAll_children.mpr ⟨j, hj, hij, rfl⟩, rfl⟩

/-- A round takes one node and leaves the others. -/
theorem Gathering.next_cases (tree : Tree) {g : Gathering} (h : g.pending ≠ []) :
    (g.next tree).taken.length = g.taken.length + 1 ∧
      ((g.next tree).taken ++ tree.outstanding (g.next tree).pending).Perm
        (g.taken ++ tree.outstanding g.pending) := by
  obtain ⟨pending, taken⟩ := g
  obtain ⟨front, i, rfl⟩ := (List.eq_nil_or_concat pending).resolve_left h
  have hnext : Gathering.next tree ⟨front.concat i, taken⟩ =
      ⟨front ++ tree.children i, taken ++ [i]⟩ := by simp [next]
  have hlast : tree.outstanding [i] = i :: tree.outstanding (tree.children i) := by
    rw [outstanding, List.flatMap_singleton, descendants_eq]
  rw [hnext, List.concat_eq_append]
  refine ⟨List.length_append, ?_⟩
  dsimp only
  rw [outstanding_append, outstanding_append, hlast, List.append_assoc, List.singleton_append]
  exact List.perm_middle.symm.append_left taken

/-- After as many rounds as there are nodes below, or fewer, as many nodes have been taken, and
together with what waits they are the nodes below. -/
theorem gathered_cases {rounds : Nat} (h : rounds ≤ (tree.descendants t).length) :
    (tree.gathered t rounds).taken.length = rounds ∧
      ((tree.gathered t rounds).taken ++ tree.outstanding (tree.gathered t rounds).pending).Perm
        (tree.descendants t) := by
  induction rounds with
  | zero =>
    refine ⟨rfl, ?_⟩
    rw [descendants_eq]
    exact .refl _
  | succ rounds ih =>
    obtain ⟨hlength, hperm⟩ := ih (by omega)
    have hwaits : (tree.gathered t rounds).pending ≠ [] := by
      intro hnil
      have hall := hperm.length_eq
      rw [hnil, List.length_append, hlength] at hall
      have hnone : (tree.outstanding []).length = 0 := rfl
      omega
    obtain ⟨hnext, hkeep⟩ := Gathering.next_cases tree hwaits
    exact ⟨by rw [gathered, hnext, hlength], hkeep.trans hperm⟩

/-- Something waits until all nodes below have been taken. -/
theorem pending_gathered_iff {rounds : Nat} (h : rounds ≤ (tree.descendants t).length) :
    (tree.gathered t rounds).pending = [] ↔ rounds = (tree.descendants t).length := by
  obtain ⟨hlength, hperm⟩ := gathered_cases h
  have hall := hperm.length_eq
  rw [List.length_append, hlength] at hall
  constructor
  · intro hnil
    rw [hnil] at hall
    exact hall
  · intro heq
    have hnone : tree.outstanding (tree.gathered t rounds).pending = [] :=
      List.eq_nil_of_length_eq_zero (by omega)
    cases hpending : (tree.gathered t rounds).pending with
    | nil => rfl
    | cons j more =>
      rw [hpending, outstanding, List.flatMap_cons] at hnone
      cases hnone

/-- When nothing waits any more, each node below has been taken once. -/
theorem taken_gathered_perm (tree : Tree) (t : Nat) :
    (tree.gathered t (tree.descendants t).length).taken.Perm (tree.descendants t) := by
  have hperm := (gathered_cases (le_refl (tree.descendants t).length)).2
  rw [(pending_gathered_iff le_rfl).mpr rfl, outstanding, List.flatMap_nil, List.append_nil]
    at hperm
  exact hperm

/-- A sorted list that leaves out nothing above its least possible element is a range. -/
theorem eq_range'_of_closed {list : List Nat} {a : Nat} (hsorted : list.Pairwise (· < ·))
    (hle : ∀ j ∈ list, a ≤ j) (hclosed : ∀ j ∈ list, ∀ i, a ≤ i → i < j → i ∈ list) :
    list = List.range' a list.length := by
  induction list generalizing a with
  | nil => rfl
  | cons b list ih =>
    obtain ⟨hb, hrest⟩ := List.pairwise_cons.mp hsorted
    obtain rfl : b = a := by
      by_contra hne
      have hab := hle b List.mem_cons_self
      rcases List.mem_cons.mp (hclosed b List.mem_cons_self a le_rfl (by omega)) with heq | hmem
      · exact hne heq.symm
      · exact absurd (hb a hmem) (by omega)
    have hmore := ih (a := b + 1) hrest (fun j hj => hb j hj) fun j hj i hi hij => by
      have hmem := hclosed j (List.mem_cons_of_mem _ hj) i (by omega) hij
      rcases List.mem_cons.mp hmem with heq | hmem
      · omega
      · exact hmem
    rw [List.length_cons, List.range'_succ, ← hmore]

/-- The nodes that a filter owns: the header `t` and the `count` nodes after it, which are gathered
in as many rounds. -/
structure Owns (tree : Tree) (t count : Nat) : Prop where
  /-- What is below the header comes right after it. -/
  range : ∀ j, j < tree.size ∧ t ∈ tree.ancestors j ↔ t < j ∧ j ≤ t + count
  /-- It is the content of the filter. -/
  content : ∀ j, j < tree.size ∧ t ∈ tree.ancestors j ↔ tree.contentAt j = .filter (.body t)
  /-- Until it has been gathered, something waits. -/
  waits : ∀ rounds < count, (tree.gathered t rounds).pending ≠ []
  /-- Then nothing waits any more. -/
  ends : (tree.gathered t count).pending = []
  /-- Each node has been taken once. -/
  once : (tree.gathered t count).taken.Perm (List.range' (t + 1) count)
  /-- Sorted, the nodes are in the order of their creation. -/
  sorted : ((tree.gathered t count).taken.mergeSort fun a b => decide (a ≤ b)) =
    List.range' (t + 1) count

/-- A filter whose content follows its header owns it. -/
theorem owns_of_bodyOf {count : Nat} (hbody : tree.bodyOf t = List.range' (t + 1) count)
    (hbelow : ∀ j, j < tree.size ∧ t ∈ tree.ancestors j ↔ j ∈ tree.bodyOf t) :
    tree.Owns t count := by
  have hperm : (tree.descendants t).Perm (List.range' (t + 1) count) := by
    have hnodup : (tree.descendants t).Nodup := nodup_nodesOfAll_children tree t _
    rw [List.perm_ext_iff_of_nodup hnodup List.nodup_range', ← hbody]
    exact fun j => mem_descendants.trans (hbelow j)
  have hcount : (tree.descendants t).length = count := by
    rw [hperm.length_eq, List.length_range']
  have honce : (tree.gathered t count).taken.Perm (List.range' (t + 1) count) :=
    (hcount ▸ tree.taken_gathered_perm t).trans hperm
  refine ⟨fun j => ?_, fun j => ?_, fun rounds hlt hnil => ?_, ?_, honce, ?_⟩
  · rw [hbelow j, hbody, List.mem_range'_1]
    omega
  · rw [hbelow j, mem_bodyOf]
    refine ⟨And.right, fun hc => ⟨?_, hc⟩⟩
    by_contra hn
    rw [contentAt, nodeAt_of_size_le (Nat.le_of_not_lt hn)] at hc
    cases hc
  · have heq := (pending_gathered_iff (by omega)).mp hnil
    omega
  · exact (pending_gathered_iff (by omega)).mpr hcount.symm
  · refine ((List.mergeSort_perm _ _).trans honce).eq_of_pairwise ?_
      (List.pairwise_mergeSort ?_ ?_ _) (List.pairwise_le_range'.imp decide_eq_true)
    · intro a b _ _ hab hba
      exact le_antisymm (of_decide_eq_true hab) (of_decide_eq_true hba)
    · intro a b c hab hbc
      simp only [decide_eq_true_eq] at *
      omega
    · intro a b
      simp only [Bool.or_eq_true, decide_eq_true_eq]
      omega

end Tree

namespace FilterText

/-- The content line of a node: its text, and its width beyond a base unless it is blank. -/
structure IsLineOf (base : Int) (node : Node) (line : FilterText) : Prop where
  /-- It has the text of the node. -/
  text_eq : line.text = node.expression
  /-- A blank line has no width. -/
  blank : node.expression = [] → line.indent = 0
  /-- The width of any other line is counted from the base. -/
  width : node.expression ≠ [] → node.indent = base + line.indent

/-- The content lines of nodes: blank nodes at the end are left out, and the widths of the others
are counted from the least. -/
structure Lists (nodes : List Node) (lines : List FilterText) : Prop where
  /-- Nodes are left out at the end, up to the last that is not blank. -/
  cut : ∃ base kept dropped, nodes = kept ++ dropped ∧ (∀ node ∈ dropped, node.expression = []) ∧
    (∀ node ∈ kept.getLast?, node.expression ≠ []) ∧ List.Forall₂ (IsLineOf base) kept lines
  /-- Some line that is not blank has no width. -/
  flush : (∃ node ∈ nodes, node.expression ≠ []) → ∃ line ∈ lines, line.text ≠ [] ∧ line.indent = 0

/-- The least width is the minimum, and nothing if there is no width. -/
theorem least_eq_getD (widths : List Int) : least widths = widths.min?.getD 0 := by
  cases widths with
  | nil => rfl
  | cons width widths => rw [List.min?_cons', Option.getD_some, least]

/-- The least width is not greater than any other. -/
theorem least_le {widths : List Int} {width : Int} (h : width ∈ widths) : least widths ≤ width := by
  obtain ⟨a, ha⟩ := Option.isSome_iff_exists.mp (List.isSome_min?_of_mem h)
  rw [least_eq_getD, ha, Option.getD_some]
  exact (List.min?_eq_some_iff.mp ha).2 width h

/-- The least of some widths is one of them. -/
theorem least_mem {widths : List Int} (h : widths ≠ []) : least widths ∈ widths := by
  obtain ⟨width, hwidth⟩ := List.exists_mem_of_ne_nil widths h
  obtain ⟨a, ha⟩ := Option.isSome_iff_exists.mp (List.isSome_min?_of_mem hwidth)
  rw [least_eq_getD, ha, Option.getD_some]
  exact (List.min?_eq_some_iff.mp ha).1

/-- The content lines of nodes are those of each node up to the last that is not blank. -/
theorem ofNodes_eq_map (nodes : List Node) :
    ofNodes nodes = (nodes.rdropWhile (·.expression.isEmpty)).map (ofNode (base nodes)) := by
  have htext : ((fun line : FilterText => line.text.isEmpty) ∘ ofNode (base nodes)) =
      fun node : Node => node.expression.isEmpty :=
    funext fun node => congrArg List.isEmpty (text_ofNode _ node)
  rw [List.rdropWhile, List.map_reverse, ← htext, ← List.dropWhile_map, List.map_reverse]
  rfl

/-- The content line of a node is counted from the base of its filter. -/
theorem isLineOf_ofNode {nodes : List Node} {node : Node} (h : node ∈ nodes) :
    IsLineOf (base nodes) node (ofNode (base nodes) node) := by
  refine ⟨text_ofNode _ node, ?_, ?_⟩
  · intro hnil
    rw [ofNode, hnil]
    rfl
  · intro hne
    have hempty : node.expression.isEmpty = false := by simpa using hne
    have hle : base nodes ≤ node.indent :=
      least_le (List.mem_map_of_mem (List.mem_filter.mpr ⟨h, by rw [hempty]; rfl⟩))
    rw [ofNode, hempty, if_neg Bool.false_ne_true]
    dsimp only
    omega

/-- The lines that are read from nodes list them. -/
theorem lists_ofNodes (nodes : List Node) : Lists nodes (ofNodes nodes) := by
  have hcut : nodes = nodes.rdropWhile (·.expression.isEmpty) ++
      nodes.rtakeWhile (·.expression.isEmpty) := List.rdropWhile_append_rtakeWhile.symm
  have hdropped : ∀ node ∈ nodes.rtakeWhile (·.expression.isEmpty), node.expression = [] := by
    intro node hnode
    have hempty := List.mem_rtakeWhile_imp hnode
    exact List.isEmpty_iff.mp hempty
  constructor
  · refine ⟨base nodes, _, _, hcut, hdropped, ?_, ?_⟩
    · intro node hnode hnil
      have hne := List.ne_nil_of_mem (List.mem_of_mem_getLast? hnode)
      have hlast := List.rdropWhile_last_not _ nodes hne
      rw [List.getLast_of_mem_getLast? hnode, hnil] at hlast
      exact hlast rfl
    · rw [ofNodes_eq_map, List.forall₂_map_right_iff, List.forall₂_same]
      intro node hnode
      exact isLineOf_ofNode (hcut ▸ List.mem_append_left _ hnode)
  · rintro ⟨node, hnode, hne⟩
    have hmem : base nodes ∈ (nodes.filter fun node => !node.expression.isEmpty).map (·.indent) :=
      least_mem (List.ne_nil_of_mem
        (List.mem_map_of_mem (List.mem_filter.mpr ⟨hnode, by simpa using hne⟩)))
    obtain ⟨shallow, hshallow, hindent⟩ := List.mem_map.mp hmem
    obtain ⟨hin, htext⟩ := List.mem_filter.mp hshallow
    have hfull : shallow.expression ≠ [] := by simpa using htext
    have hkept : shallow ∈ nodes.rdropWhile (·.expression.isEmpty) :=
      (List.mem_append.mp (hcut ▸ hin)).resolve_right fun h => hfull (hdropped shallow h)
    refine ⟨ofNode (base nodes) shallow, ?_, ?_, ?_⟩
    · rw [ofNodes_eq_map]
      exact List.mem_map_of_mem hkept
    · rw [text_ofNode]
      exact hfull
    · have hwidth := (isLineOf_ofNode hin).width hfull
      omega

end FilterText

namespace Nesting

variable {n : Nesting}

/-- The content of filters is what is below filter lines, at any distance. -/
theorem Blocks.exists_ancestor_iff (hs : n.Sound) (h : n.Blocks) {j : Nat} (hj : j < n.tree.size) :
    (∃ a ∈ n.tree.ancestors j, (n.tree.contentAt a).isFilter = true) ↔
      (n.tree.contentAt j).isBody = true := by
  induction j using Nat.strong_induction_on with
  | _ j ih =>
    rcases Nat.eq_zero_or_pos j with rfl | hpos
    · rw [hs.rooted.ancestors_zero, hs.isBody_iff hj]
      simp
    · obtain ⟨p, hpj, hp, hancestors⟩ := hs.rooted.ancestors_pos hj hpos
      have hiff := h.isBody_iff hs hj hp
      rw [hancestors, hiff]
      constructor
      · rintro ⟨a, ha, hfilter⟩
        rcases List.mem_cons.mp ha with rfl | ha
        · exact hfilter
        · obtain ⟨top, hc⟩ := Content.isBody_iff.mp ((ih p hpj (hpj.trans hj)).mp ⟨a, ha, hfilter⟩)
          rw [hc]
          rfl
      · intro hfilter
        exact ⟨p, List.mem_cons_self, hfilter⟩

/-- The content of a filter comes right after its header. -/
theorem Blocks.bodyOf_eq_range' (hs : n.Sound) (h : n.Blocks) (t : Nat) :
    n.tree.bodyOf t = List.range' (t + 1) (n.tree.bodyOf t).length := by
  have hmem : ∀ j, j ∈ n.tree.bodyOf t ↔
      j < n.tree.size ∧ t < j ∧ n.tree.topOf? j = some (t : Int) := by
    intro j
    rw [Tree.mem_bodyOf]
    exact and_congr_right fun hj => hs.contentAt_eq_body_iff hj
  refine Tree.eq_range'_of_closed (n.tree.pairwise_bodyOf t) ?_ ?_
  · intro j hj
    exact ((hmem j).mp hj).2.1
  · intro j hj i hti hij
    obtain ⟨hlt, htj, htop⟩ := (hmem j).mp hj
    refine (hmem i).mpr ⟨hij.trans hlt, hti, ?_⟩
    by_contra hne
    exact h.topOf?_ne_of_le hti hij.le hlt hne htop

end Nesting

namespace Template

variable {source : Text} {tree : Tree}

/-- Filters own what is below them. In the tree of an accepted source, the nodes below filter lines
are the content of filters. What is below the header of a filter is its own content and comes right
after it; gathered round by round, each of these nodes is taken once, and in order they give the
lines of the filter. -/
theorem filter_owns_descendants (h : parse source = .ok tree) :
    (∀ j < tree.size, (∃ a ∈ tree.ancestors j, (tree.contentAt a).isFilter = true) ↔
      (tree.contentAt j).isBody = true) ∧
    ∀ t kind, tree.contentAt t = .filter (.header kind) → ∃ count, tree.Owns t count ∧
      Branch.filterLines (tree.branch t (tree.nodeAt t)).children =
        FilterText.ofNodes (((tree.gathered t count).taken.mergeSort fun a b => decide (a ≤ b)).map
          tree.nodeAt) ∧
      FilterText.Lists ((List.range' (t + 1) count).map tree.nodeAt)
        (Branch.filterLines (tree.branch t (tree.nodeAt t)).children) := by
  obtain ⟨n, hr, rfl⟩ := Nesting.exists_run h
  obtain ⟨hs, hblocks⟩ := Nesting.blocks_run hr
  refine ⟨fun j hj => hblocks.exists_ancestor_iff hs hj, ?_⟩
  intro t kind hheader
  have hbody := hblocks.bodyOf_eq_range' hs t
  have howns := Tree.owns_of_bodyOf hbody fun j => (hblocks.mem_bodyOf_iff hs hheader j).symm
  refine ⟨(n.tree.bodyOf t).length, howns, ?_, ?_⟩
  · rw [hblocks.filterLines_eq hs hheader, howns.sorted, ← hbody]
  · rw [hblocks.filterLines_eq hs hheader, ← hbody]
    exact FilterText.lists_ofNodes _

/-- A filter with lines that look like markup and another header, one of them below a blank line. -/
def hangingFilter : Text := ":plain\n  a\n\n    %p\n      b\n\n  :css\n\nx".toList

/-- The tree of `hangingFilter`. -/
def hangingTree : Tree := (parse hangingFilter).toOption.getD Tree.empty

/-- A filter with blank lines in it, lines that look like an element and a filter, and blank lines
after it has all of its body and no blank lines at the end. -/
theorem filter_owns_descendants_hangingFilter :
    parse hangingFilter = .ok hangingTree ∧ hangingTree.contentAt 1 = .filter (.header .plain) ∧
      hangingTree.Owns 1 7 ∧
      Branch.filterLines (hangingTree.branch 1 (hangingTree.nodeAt 1)).children =
        [⟨0, "a".toList⟩, ⟨0, []⟩, ⟨2, "%p".toList⟩, ⟨4, "b".toList⟩, ⟨0, []⟩,
          ⟨0, ":css".toList⟩] := by
  have hparse : parse hangingFilter = .ok hangingTree := by decide +kernel
  have hheader : hangingTree.contentAt 1 = .filter (.header .plain) := by decide +kernel
  obtain ⟨count, howns, hlines, -⟩ := (filter_owns_descendants hparse).2 1 .plain hheader
  have hcount : count = 7 := by
    have hlast := (howns.range 8).mp (by decide +kernel)
    have hnext := mt (howns.range 9).mpr (by decide +kernel)
    omega
  subst hcount
  refine ⟨hparse, hheader, howns, ?_⟩
  rw [hlines, howns.sorted]
  decide +kernel

end Template

end Haml
