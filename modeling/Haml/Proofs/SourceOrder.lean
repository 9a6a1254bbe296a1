import Haml.Proofs.FilterBlock
import Haml.Proofs.Offside
import Haml.Proofs.Rendering

/-!
# Source order

Nodes are created in the order of the lines, but a walk from the root goes by parents. Blank lines
of a filter are below its header while the lines after them can be deeper, so the walk is not in the
order of creation. It is once the content of filters is left out. The reason is the offside rule: a
node is above a line exactly when all lines from the one to the other are wider than it, so what is
above a line is above every line between the two. A filter sorts its content by itself.
-/

namespace Haml

namespace Tree

variable {tree : Tree} {node : Node} {i j k p : Nat} {width : Int}

/-- The line that encloses a node comes before it. -/
theorem enclosing_lt (hi : 0 < i) : tree.enclosing width i < i := by
  induction i with
  | zero => omega
  | succ i ih =>
    rw [enclosing]
    split
    · omega
    · rcases Nat.eq_zero_or_pos i with rfl | hpos
      · exact Nat.one_pos
      · exact (ih hpos).trans (Nat.lt_succ_self i)

/-- What encloses is the root or a narrower line. -/
theorem enclosing_cases (tree : Tree) (width : Int) (i : Nat) :
    tree.enclosing width i = 0 ∨ tree.IsLine (tree.enclosing width i) ∧
      (tree.nodeAt (tree.enclosing width i)).indent < width := by
  induction i with
  | zero => exact .inl rfl
  | succ i ih =>
    rw [enclosing]
    split
    · rename_i h
      exact .inr h
    · exact ih

/-- The lines after the one that encloses are not narrower. -/
theorem le_indent_of_enclosing_lt (hk : tree.enclosing width i < k) (hki : k < i)
    (hl : tree.IsLine k) : width ≤ (tree.nodeAt k).indent := by
  induction i with
  | zero => omega
  | succ i ih =>
    rw [enclosing] at hk
    split at hk
    · omega
    · rename_i hn
      rcases Nat.lt_succ_iff_lt_or_eq.mp hki with hlt | rfl
      · exact ih hk hlt
      · by_contra hw
        exact hn ⟨hl, by omega⟩

/-- Nothing is below two siblings. -/
theorem siblings_apart {c d y : Nat} (hc : c ∈ tree.children i) (hd : d ∈ tree.children i)
    (hne : c ≠ d) (hy : d = y ∨ d ∈ tree.ancestors y) : ¬(c = y ∨ c ∈ tree.ancestors y) := by
  intro hcy
  rcases ancestors_comparable hcy hy with heq | hab | hba
  · exact hne heq
  · exact notMem_ancestors_of_mem_children hc hd hab
  · exact notMem_ancestors_of_mem_children hd hc hba

/-- What is above a node is above all that is below the node. -/
theorem mem_ancestors_trans (hij : i ∈ tree.ancestors j) (hjk : j ∈ tree.ancestors k) :
    i ∈ tree.ancestors k := by
  induction k using Nat.strong_induction_on with
  | _ k ih =>
    rw [ancestors] at hjk ⊢
    split at hjk
    · simp at hjk
    · rename_i p hp
      split at hjk
      · rename_i hlt
        rw [if_pos hlt]
        rcases List.mem_cons.mp hjk with rfl | hjp
        · exact List.mem_cons_of_mem _ hij
        · exact List.mem_cons_of_mem _ (ih p hlt hjp)
      · simp at hjk

namespace Rooted

/-- The root is above every other node. -/
theorem zero_mem_ancestors (h : tree.Rooted) (hi : i < tree.size) (hz : 0 < i) :
    0 ∈ tree.ancestors i := by
  induction i using Nat.strong_induction_on with
  | _ i ih =>
    obtain ⟨p, hp, -, ha⟩ := h.ancestors_pos hi hz
    rw [ha]
    rcases Nat.eq_zero_or_pos p with rfl | hpos
    · exact List.mem_cons_self
    · exact List.mem_cons_of_mem _ (ih p hp (hp.trans hi) hpos)

/-- A node is a child of its parent and of no other node. -/
theorem mem_children_iff (h : tree.Rooted) (hi : i < tree.size) (hz : 0 < i) :
    ∃ p < i, tree.parent? i = some p ∧ ∀ q, i ∈ tree.children q ↔ q = p := by
  obtain ⟨p, hp, hparent⟩ := h.parent i hi hz
  have hsome : tree.parent? i = some p := (parent?_eq hi).trans hparent
  refine ⟨p, hp, hsome, ?_⟩
  intro q
  rw [mem_children, hsome]
  constructor
  · rintro ⟨-, -, heq⟩
    exact (Option.some.inj heq).symm
  · rintro rfl
    exact ⟨hp, hi, rfl⟩

/-- A walk from the root meets every other node once. -/
theorem walk_perm (h : tree.Rooted) (node : Node) :
    ((Branch.nodesOfAll (tree.branch 0 node).children).map Prod.fst).Perm
      (List.range' 1 (tree.size - 1)) := by
  rw [List.perm_ext_iff_of_nodup (nodup_nodesOfAll_children tree 0 node) List.nodup_range']
  intro i
  rw [List.mem_map, List.mem_range'_1]
  constructor
  · rintro ⟨entry, he, rfl⟩
    obtain ⟨j, hj, hmem, rfl⟩ := mem_nodesOfAll_children.mp he
    have hlt := lt_of_mem_ancestors hmem
    dsimp only
    omega
  · intro hi
    have hlt : i < tree.size := by omega
    exact ⟨(i, tree.nodeAt i), mem_nodesOfAll_children.mpr
      ⟨i, hlt, h.zero_mem_ancestors hlt (by omega), rfl⟩, rfl⟩

end Rooted

/-- A tree in which widths decide the parents, the content of filters apart. -/
structure Ordered (tree : Tree) : Prop extends tree.Rooted where
  /-- A node other than the root that is no content of a filter is a line. -/
  line : ∀ i < tree.size, 0 < i → (tree.contentAt i).isBody = false → tree.IsLine i
  /-- Its parent is the last narrower line. -/
  parent_eq : ∀ i < tree.size, 0 < i → (tree.contentAt i).isBody = false →
    (tree.nodeAt i).parent = some (tree.enclosing (tree.nodeAt i).indent i)
  /-- The content of filters is what is below filter lines. -/
  body_iff : ∀ i < tree.size, ∀ p, (tree.nodeAt i).parent = some p →
    ((tree.contentAt i).isBody = true ↔ (tree.contentAt p).isFilter = true)

/-- The order of two nodes of a walk, unless one of them is content of a filter. -/
def Precedes (tree : Tree) (a b : Nat) : Prop :=
  (tree.contentAt a).isBody = false → (tree.contentAt b).isBody = false → a < b

/-- The statement comes from the node `i` or from a line below it. -/
structure Emits (tree : Tree) (i : Nat) (emitted : Emitted) : Prop where
  /-- It comes from a node. -/
  lt_size : emitted.index < tree.size
  /-- The node is no content of a filter. -/
  plain : (tree.contentAt emitted.index).isBody = false
  /-- The node is `i` or below it. -/
  below : i = emitted.index ∨ i ∈ tree.ancestors emitted.index

/-- Two statements in source order: the second comes from a later line, which is not below a line
that the first closes, or both come from one line, or the second closes a line above that of the
first. -/
def InOrder (tree : Tree) (first second : Emitted) : Prop :=
  (first.index < second.index ∧
    (first.closes = true → first.index ∉ tree.ancestors second.index)) ∨
  (first.index = second.index ∧ (first.closes = true → second.closes = true)) ∨
  (second.closes = true ∧ second.index ∈ tree.ancestors first.index)

/-- The statements of a node stand around those of the lines below it. -/
theorem pairwise_inOrder_around {start closing : List Statement} {inner : List Emitted}
    (hbelow : ∀ e ∈ inner, i ∈ tree.ancestors e.index) (hinner : inner.Pairwise (InOrder tree)) :
    (start.map (Emitted.mk i false) ++ inner ++ closing.map (Emitted.mk i true)).Pairwise
      (InOrder tree) := by
  have hown : ∀ {closes} {own : List Statement},
      (own.map (Emitted.mk i closes)).Pairwise (InOrder tree) := by
    intro closes own
    exact List.pairwise_map.mpr (List.pairwise_of_forall fun _ _ => .inr (.inl ⟨rfl, id⟩))
  refine List.pairwise_append.mpr ⟨List.pairwise_append.mpr ⟨hown, hinner, ?_⟩, hown, ?_⟩
  · intro a ha b hb
    obtain ⟨statement, -, rfl⟩ := List.mem_map.mp ha
    exact .inl ⟨lt_of_mem_ancestors (hbelow b hb), nofun⟩
  · intro a ha b hb
    obtain ⟨statement, -, rfl⟩ := List.mem_map.mp hb
    rcases List.mem_append.mp ha with ha | ha
    · obtain ⟨other, -, rfl⟩ := List.mem_map.mp ha
      exact .inr (.inl ⟨rfl, nofun⟩)
    · exact .inr (.inr ⟨rfl, hbelow a ha⟩)

namespace Ordered

/-- No content of a filter is above other lines. -/
theorem isBody_parent (h : tree.Ordered) (hi : i < tree.size)
    (hp : (tree.nodeAt i).parent = some p) (hb : (tree.contentAt i).isBody = false) :
    (tree.contentAt p).isBody = false := by
  have hnot : (tree.contentAt p).isFilter ≠ true := by
    rw [ne_eq, ← h.body_iff i hi p hp, hb]
    exact Bool.false_ne_true
  cases hc : tree.contentAt p with
  | filter line =>
    rw [hc] at hnot
    exact absurd rfl hnot
  | _ => rfl

/-- A node is above a line when all lines after it, up to that line, are wider. Lines between the
parent and the line are as wide as the line. -/
theorem mem_ancestors_iff_wider (h : tree.Ordered) (hi : i < tree.size) (hz : 0 < i)
    (hb : (tree.contentAt i).isBody = false) :
    p ∈ tree.ancestors i ↔ p < i ∧ (p = 0 ∨ tree.IsLine p ∧
      ∀ k, p < k → k ≤ i → tree.IsLine k → (tree.nodeAt p).indent < (tree.nodeAt k).indent) := by
  induction i using Nat.strong_induction_on with
  | _ i ih =>
    have hparent := h.parent_eq i hi hz hb
    have hlt : tree.enclosing (tree.nodeAt i).indent i < i := enclosing_lt hz
    have hcases := tree.enclosing_cases (tree.nodeAt i).indent i
    have hwide : ∀ k, tree.enclosing (tree.nodeAt i).indent i < k → k < i → tree.IsLine k →
        (tree.nodeAt i).indent ≤ (tree.nodeAt k).indent := fun k => le_indent_of_enclosing_lt
    have hplain := h.isBody_parent hi hparent hb
    rw [ancestors_of_some ((parent?_eq hi).trans hparent) hlt, List.mem_cons]
    generalize tree.enclosing (tree.nodeAt i).indent i = q at *
    have hafter : ∀ k, q < k → k ≤ i → tree.IsLine k →
        (tree.nodeAt i).indent ≤ (tree.nodeAt k).indent := by
      intro k hk hki hkl
      rcases Nat.lt_or_eq_of_le hki with hlt | rfl
      · exact hwide k hk hlt hkl
      · exact Int.le_refl _
    constructor
    · rintro (rfl | hmem)
      · refine ⟨hlt, hcases.imp id fun ⟨hl, hw⟩ => ⟨hl, ?_⟩⟩
        intro k hk hki hkl
        exact Int.lt_of_lt_of_le hw (hafter k hk hki hkl)
      · have hpq := lt_of_mem_ancestors hmem
        have hqpos : 0 < q := by omega
        obtain ⟨-, hp⟩ := (ih q hlt (hlt.trans hi) hqpos hplain).mp hmem
        refine ⟨hpq.trans hlt, hp.imp id fun ⟨hl, hw⟩ => ⟨hl, ?_⟩⟩
        intro k hk hki hkl
        obtain hqz | ⟨hql, hqw⟩ := hcases
        · omega
        · rcases Nat.lt_or_ge q k with hqk | hkq
          · have hkw := hafter k hqk hki hkl
            have hpw := hw q hpq le_rfl hql
            omega
          · exact hw k hk hkq hkl
    · rintro ⟨hpi, rfl | ⟨hl, hw⟩⟩
      · rcases Nat.eq_zero_or_pos q with rfl | hqpos
        · exact .inl rfl
        · exact .inr (h.zero_mem_ancestors (hlt.trans hi) hqpos)
      · have hline := h.line i hi hz hb
        rcases Nat.lt_trichotomy p q with hpq | rfl | hqp
        · refine .inr ((ih q hlt (hlt.trans hi) (by omega) hplain).mpr ⟨hpq, .inr ⟨hl, ?_⟩⟩)
          intro k hk hkq
          exact hw k hk (by omega)
        · exact .inl rfl
        · have hle := hwide p hqp hpi hl
          have hgt := hw i hpi le_rfl hline
          omega

/-- What is above a line is above every line between the two. -/
theorem mem_ancestors_between (h : tree.Ordered) (hj : j < tree.size)
    (hjb : (tree.contentAt j).isBody = false) (hkb : (tree.contentAt k).isBody = false)
    (hp : p ∈ tree.ancestors j) (hpk : p < k) (hkj : k ≤ j) : p ∈ tree.ancestors k := by
  obtain ⟨-, hw⟩ := (h.mem_ancestors_iff_wider hj (by omega) hjb).mp hp
  refine (h.mem_ancestors_iff_wider (by omega) (by omega) hkb).mpr ⟨hpk, hw.imp id ?_⟩
  rintro ⟨hl, hwide⟩
  exact ⟨hl, fun m hm hmk => hwide m hm (hmk.trans hkj)⟩

/-- What is below the earlier of two siblings comes before what is below the later. -/
theorem lt_of_siblings (h : tree.Ordered) {c d x y : Nat} (hc : c ∈ tree.children i)
    (hd : d ∈ tree.children i) (hcd : c < d) (hx : c = x ∨ c ∈ tree.ancestors x)
    (hy : d = y ∨ d ∈ tree.ancestors y) (hxs : x < tree.size)
    (hxb : (tree.contentAt x).isBody = false) (hyb : (tree.contentAt y).isBody = false) :
    x < y := by
  have hdy : d ≤ y := by
    rcases hy with rfl | hy
    · exact le_rfl
    · exact (lt_of_mem_ancestors hy).le
  by_contra hle
  have hcx : c ∈ tree.ancestors x := by
    rcases hx with rfl | hx
    · omega
    · exact hx
  exact siblings_apart hc hd hcd.ne hy
    (.inr (h.mem_ancestors_between hxs hxb hyb hcx (by omega) (by omega)))

/-- The nodes below a node are walked in the order of the source. -/
theorem pairwise_precedes (h : tree.Ordered) (i : Nat) (node : Node) :
    ((Branch.nodesOfAll (tree.branch i node).children).map Prod.fst).Pairwise (Precedes tree) := by
  induction hs : tree.size - i using Nat.strong_induction_on generalizing i node with
  | _ size ih =>
    rw [nodesOfAll_children, List.map_flatMap, List.pairwise_flatMap]
    constructor
    · intro c hc
      have hlt := lt_of_mem_children hc
      rw [List.map_cons, List.pairwise_cons]
      refine ⟨?_, ih _ (by omega) c _ rfl⟩
      intro x hx _ _
      exact lt_of_mem_ancestors (mem_ancestors_of_mem_map hx)
    · refine (tree.pairwise_children i).imp_of_mem ?_
      intro c d hc hd hcd x hx y hy hxb hyb
      have hbelow : ∀ {c x}, c ∈ tree.children i → x ∈ ((c, tree.nodeAt c) ::
          Branch.nodesOfAll (tree.branch c (tree.nodeAt c)).children).map Prod.fst →
          (c = x ∨ c ∈ tree.ancestors x) ∧ x < tree.size := by
        intro c x hc hx
        rcases List.mem_cons.mp hx with rfl | hx
        · exact ⟨.inl rfl, (lt_of_mem_children hc).2⟩
        · obtain ⟨entry, he, rfl⟩ := List.mem_map.mp hx
          obtain ⟨j, hj, hcj, rfl⟩ := mem_nodesOfAll_children.mp he
          exact ⟨.inr hcj, hj⟩
      obtain ⟨hcx, hxs⟩ := hbelow hc hx
      exact h.lt_of_siblings hc hd hcd hcx (hbelow hd hy).1 hxs hxb hyb

/-- The statements of siblings are in source order if those of each are. -/
theorem traceOfAll_inOrder (h : tree.Ordered) {options : Options} {cs : List Nat}
    {all : List Emitted} (hcs : cs.Sublist (tree.children i))
    (hparts : ∀ c ∈ cs, ∀ part,
      (tree.branch c (tree.nodeAt c)).trace options = .ok part →
        (∀ e ∈ part, Emits tree c e) ∧ part.Pairwise (InOrder tree))
    (hall : Branch.traceOfAll options (cs.map fun c => tree.branch c (tree.nodeAt c)) = .ok all) :
    (∀ e ∈ all, ∃ c ∈ cs, Emits tree c e) ∧ all.Pairwise (InOrder tree) := by
  induction cs generalizing all with
  | nil =>
    obtain rfl : [] = all := Except.ok.inj hall
    exact ⟨nofun, List.Pairwise.nil⟩
  | cons c cs ih =>
    rw [List.map_cons, Branch.traceOfAll, bind_eq_ok_iff] at hall
    obtain ⟨first, hfirst, hmore⟩ := hall
    obtain ⟨rest, hrest, heq⟩ := bind_eq_ok_iff.mp hmore
    obtain rfl := Except.ok.inj heq
    obtain ⟨hfrom, horder⟩ := hparts c List.mem_cons_self first hfirst
    obtain ⟨hothers, hlater⟩ := ih ((List.sublist_cons_self c cs).trans hcs)
      (fun d hd => hparts d (List.mem_cons_of_mem _ hd)) hrest
    constructor
    · intro e he
      rcases List.mem_append.mp he with he | he
      · exact ⟨c, List.mem_cons_self, hfrom e he⟩
      · obtain ⟨d, hd, hde⟩ := hothers e he
        exact ⟨d, List.mem_cons_of_mem _ hd, hde⟩
    · refine List.pairwise_append.mpr ⟨horder, hlater, ?_⟩
      intro a ha b hb
      obtain ⟨d, hd, hdb⟩ := hothers b hb
      have hca := hfrom a ha
      have hcd : c < d := (List.pairwise_cons.mp ((tree.pairwise_children i).sublist hcs)).1 d hd
      have hc := hcs.subset List.mem_cons_self
      have hd := hcs.subset (List.mem_cons_of_mem _ hd)
      refine .inl ⟨h.lt_of_siblings hc hd hcd hca.below hdb.below hca.lt_size hca.plain hdb.plain,
        fun _ hab => siblings_apart hc hd hcd.ne hdb.below (.inr ?_)⟩
      rcases hca.below with heq | hmem
      · rwa [heq]
      · exact mem_ancestors_trans hmem hab

/-- The statements of a branch are in source order. -/
theorem trace_inOrder (h : tree.Ordered) {options : Options} (hi : i < tree.size)
    (hb : (tree.contentAt i).isBody = false) {all : List Emitted}
    (hall : (tree.branch i (tree.nodeAt i)).trace options = .ok all) :
    (∀ e ∈ all, Emits tree i e) ∧ all.Pairwise (InOrder tree) := by
  induction hs : tree.size - i using Nat.strong_induction_on generalizing i all with
  | _ size ih =>
    rw [branch_eq, Branch.trace] at hall
    obtain ⟨start, -, hall⟩ := bind_eq_ok_iff.mp hall
    obtain ⟨inner, hinner, heq⟩ := bind_eq_ok_iff.mp hall
    obtain rfl := Except.ok.inj heq
    have hbelow : (∀ e ∈ inner, Emits tree i e ∧ i ∈ tree.ancestors e.index) ∧
        inner.Pairwise (InOrder tree) := by
      split at hinner
      · rename_i hrenders
        have hparts : ∀ c ∈ tree.children i, ∀ part,
            (tree.branch c (tree.nodeAt c)).trace options = .ok part →
              (∀ e ∈ part, Emits tree c e) ∧ part.Pairwise (InOrder tree) := by
          intro c hc part hpart
          obtain ⟨hic, hcs, hp⟩ := mem_children.mp hc
          rw [parent?_eq hcs] at hp
          have hplain : (tree.contentAt c).isBody ≠ true := by
            rw [ne_eq, h.body_iff c hcs i hp, contentAt, Content.isFilter_of_rendersBelow hrenders]
            exact Bool.false_ne_true
          exact ih _ (by omega) hcs (by simpa using hplain) hpart rfl
        obtain ⟨hfrom, hpairs⟩ := h.traceOfAll_inOrder (List.Sublist.refl _) hparts hinner
        refine ⟨?_, hpairs⟩
        intro e he
        obtain ⟨c, hc, hce⟩ := hfrom e he
        have hmem := (mem_ancestors_iff hce.lt_size).mpr ⟨c, hc, hce.below⟩
        exact ⟨⟨hce.lt_size, hce.plain, .inr hmem⟩, hmem⟩
      · obtain rfl : [] = inner := Except.ok.inj hinner
        exact ⟨List.forall_mem_nil _, List.Pairwise.nil⟩
    obtain ⟨hfrom, hpairs⟩ := hbelow
    refine ⟨?_, pairwise_inOrder_around (fun e he => (hfrom e he).2) hpairs⟩
    have hown : ∀ {closes} {own : List Statement},
        ∀ e ∈ own.map (Emitted.mk i closes), Emits tree i e := by
      intro closes own e he
      obtain ⟨statement, -, rfl⟩ := List.mem_map.mp he
      exact ⟨hi, hb, .inl rfl⟩
    intro e he
    rcases List.mem_append.mp he with he | he
    · rcases List.mem_append.mp he with he | he
      · exact hown e he
      · exact (hfrom e he).1
    · exact hown e he

end Ordered

end Tree

namespace Branch

/-- A line of a dump and the node that it shows. -/
def ShowsNode (line : Text) (entry : Nat × Node) : Prop :=
  ∃ depth, line = Text.times depth "|   ".toList ++ entry.2.summary

mutual

/-- A dump has one line for each node, in the order of the walk. -/
theorem dumpLines_shows (depth : Nat) : (branch : Branch) →
    List.Forall₂ ShowsNode (dumpLines depth branch) branch.nodes
  | mk index node children => by
    rw [dumpLines, nodes]
    exact .cons ⟨depth, rfl⟩ (dumpAll_shows (depth + 1) children)

/-- A dump shows the nodes of the branches, in the order of the walk. -/
theorem dumpAll_shows (depth : Nat) : (branches : List Branch) →
    List.Forall₂ ShowsNode (dumpAll depth branches) (nodesOfAll branches)
  | [] => .nil
  | branch :: rest => by
    rw [dumpAll, nodesOfAll]
    exact List.rel_append (dumpLines_shows depth branch) (dumpAll_shows depth rest)

end

end Branch

namespace Nesting

variable {n m : Nesting} {line : LogicalLine}

/-- Blank nodes are content of filters. -/
theorem isBody_of_blank {lines : List LogicalLine} (h : run lines = .ok n) :
    ∀ i < n.tree.size, 0 < i → (n.tree.nodeAt i).expression = [] →
      (n.tree.nodeAt i).content.isBody = true := by
  refine (run_induction (P := fun n _ => ∀ i < n.tree.size, 0 < i →
    (n.tree.nodeAt i).expression = [] → (n.tree.nodeAt i).content.isBody = true) ?_ ?_ h).2
  · intro i hi hz
    have hs : start.tree.size = 1 := rfl
    omega
  · intro n lines line m _ hn hm
    obtain ⟨-, -, rfl⟩ | ⟨-, top, -, rfl⟩ | ⟨hne, -, rfl⟩ := step_cases hm
    · exact hn
    · exact Tree.forall_nodeAt_add (P := fun i node => 0 < i → node.expression = [] →
        node.content.isBody = true) hn fun _ _ => rfl
    · exact Tree.forall_nodeAt_add (P := fun i node => 0 < i → node.expression = [] →
        node.content.isBody = true) hn fun _ he => absurd he hne

/-- After a run the tree is in the order of the source. -/
theorem ordered_run {lines : List LogicalLine} (h : run lines = .ok n) : n.tree.Ordered := by
  obtain ⟨hs, hoff⟩ := offside_run h
  have hblocks := (blocks_run h).2
  have hline : ∀ i < n.tree.size, 0 < i → (n.tree.contentAt i).isBody = false →
      n.tree.IsLine i := by
    intro i hi hz hb he
    have hbody := isBody_of_blank h i hi hz he
    rw [← Tree.contentAt, hb] at hbody
    contradiction
  refine ⟨hs.rooted, hline, ?_, fun i hi p hp => hblocks.isBody_iff hs hi hp⟩
  intro i hi hz hb
  obtain ⟨q, hq, rfl | ⟨-, hlt, hblank⟩⟩ := hoff.parent_cases (hline i hi hz hb)
  · exact hq
  · have hbody := (hblocks.isBody_iff hs hi hq).mpr (hblank q hlt le_rfl).2
    rw [hb] at hbody
    contradiction

/-- A filter renders its content lines in the order of their creation. -/
theorem filter_statements {lines : List LogicalLine} (h : run lines = .ok n) {t : Nat}
    {kind : FilterKind} (ht : n.tree.contentAt t = .filter (.header kind)) (options : Options) :
    (n.tree.branch t (n.tree.nodeAt t)).statements options =
      .ok (kind.statements options.format (n.tree.nodeAt t)
        (FilterText.ofNodes ((n.tree.bodyOf t).map n.tree.nodeAt))) := by
  obtain ⟨hs, hblocks⟩ := blocks_run h
  rw [← hblocks.filterLines_eq hs ht (n.tree.nodeAt t), Tree.branch_eq, Branch.statements,
    ← Tree.contentAt, ht]
  rfl

end Nesting

namespace Template

open Haml.Tree (InOrder)

/-- A filter with a blank line inside of a deeper block. -/
def blankInFilter : Text := "%p\n  :plain\n    a\n      b\n\n      c\n  = d\n".toList

/-- The tree of `blankInFilter`. -/
def blankTree : Tree := (parse blankInFilter).toOption.getD Tree.empty

end Template

end Haml
