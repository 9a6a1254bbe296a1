import Haml.Proofs.FilterBlock
import Haml.Proofs.Likeness
import Haml.Proofs.Lines
import Mathlib.Order.WellFounded

/-!
# Runs inside of longer runs

A run that starts where another has ended makes the same nodes as a run from the root, at later
indices. The map of indices keeps the root and the order. It sends parents to parents and the
headers of filters to headers, and so it sends the nodes above a node to the nodes above its image.
That the two runs go on in step is shown for one line and then for a list of lines: neither the
counters nor the parents at the end of the first run have a part in what the second makes, except
for the unit.
-/

namespace Haml

/-- The meaning of a node with the reference to its filter sent along a map of indices. -/
def Content.relabel (f : Nat → Nat) : Content → Content
  | filter (.body top) => .filter (.body (f top.toNat : Nat))
  | content => content

/-- A node with its references sent along a map of indices. -/
def Node.relabel (f : Nat → Nat) (node : Node) : Node :=
  { node with parent := node.parent.map f, content := node.content.relabel f }

section relabel

variable (f : Nat → Nat)

/-- Relabelling does not change what is raw. -/
@[simp] theorem Content.isRaw_relabel (content : Content) :
    (content.relabel f).isRaw = content.isRaw := by
  cases content with
  | filter line => cases line <;> rfl
  | _ => rfl

/-- The body of a filter is relabelled with the node at its top. -/
theorem Content.relabel_eq_body_iff {content : Content} {top : Int} :
    content.relabel f = .filter (.body top) ↔
      ∃ other, content = .filter (.body other) ∧ top = (f other.toNat : Nat) := by
  cases content with
  | filter line =>
    cases line with
    | header kind => simp [relabel]
    | body other =>
      simp only [relabel, filter.injEq, FilterLine.body.injEq, exists_eq_left']
      exact eq_comm
  | _ => simp [relabel]

/-- Relabelling does not change the code level of children. -/
@[simp] theorem Node.childCodeLevel_relabel (node : Node) :
    (node.relabel f).childCodeLevel = node.childCodeLevel := by
  rw [childCodeLevel, childCodeLevel, relabel]
  cases node.content with
  | filter line => cases line <;> rfl
  | _ => rfl

/-- Relabelling does not change the output level of children. -/
@[simp] theorem Node.childOutputLevel_relabel (node : Node) :
    (node.relabel f).childOutputLevel = node.childOutputLevel := by
  rw [childOutputLevel, childOutputLevel, relabel]
  cases node.content with
  | filter line => cases line <;> rfl
  | _ => rfl

/-- References do not show in the output. -/
theorem Node.rendersLike_relabel (node : Node) : node.RendersLike (node.relabel f) := by
  refine ⟨rfl, rfl, rfl, ?_⟩
  rw [relabel]
  cases node.content with
  | filter line =>
    cases line with
    | header kind => exact .inl rfl
    | body top => exact .inr ⟨top, _, rfl, rfl⟩
  | _ => exact .inl rfl

/-- A filter takes lines and widths of its nodes only. -/
theorem FilterText.ofNodes_congr {α : Type} {list : List α} {g k : α → Node}
    (h : ∀ a ∈ list, (g a).expression = (k a).expression ∧ (g a).indent = (k a).indent) :
    ofNodes (list.map g) = ofNodes (list.map k) := by
  have hvisible : list.filter ((fun node : Node => !node.expression.isEmpty) ∘ g) =
      list.filter ((fun node : Node => !node.expression.isEmpty) ∘ k) :=
    List.filter_congr fun a ha => by simp only [Function.comp, (h a ha).1]
  have hbase : base (list.map g) = base (list.map k) := by
    rw [base, base, List.filter_map, List.filter_map, List.map_map, List.map_map, hvisible]
    exact congrArg least (List.map_congr_left fun a ha => (h a (List.mem_filter.mp ha).1).2)
  have hlines : list.map (ofNode (base (list.map k)) ∘ g) =
      list.map (ofNode (base (list.map k)) ∘ k) :=
    List.map_congr_left fun a ha => by simp only [Function.comp, ofNode, (h a ha).1, (h a ha).2]
  rw [ofNodes, ofNodes, hbase, List.map_map, List.map_map, hlines]

/-- A filter takes no references of its lines. -/
theorem FilterText.ofNodes_map_relabel (nodes : List Node) :
    ofNodes (nodes.map (Node.relabel f)) = ofNodes nodes := by
  have hsame : ofNodes (nodes.map (Node.relabel f)) = ofNodes (nodes.map id) :=
    ofNodes_congr fun _ _ => ⟨rfl, rfl⟩
  rw [hsame, List.map_id]

/-- A line outside of filters has no reference to a filter. -/
theorem Content.relabel_ofLine (kind : Kind) (line : Text) :
    (Content.ofLine kind none line).relabel f = Content.ofLine kind none line := by
  cases kind <;> rfl

end relabel

namespace Tree

variable {f : Nat → Nat} {t u : Tree} {node : Node} {i : Nat}

/-- The map `f` sends the nodes of the tree `t` to nodes of the tree `u`, and the next node of the
one to the next node of the other. -/
structure Embeds (f : Nat → Nat) (t u : Tree) : Prop where
  /-- The order is kept. -/
  mono : StrictMono f
  /-- The root stays the root. -/
  zero : f 0 = 0
  /-- Further nodes of the one are sent to further nodes of the other. -/
  size : ∀ k, f (t.size + k) = u.size + k
  /-- Nodes are sent to nodes. -/
  nodes : ∀ i < t.size, u.nodeAt (f i) = (t.nodeAt i).relabel f

namespace Embeds

/-- The next index of the one tree goes to the next index of the other. -/
theorem apply_size (h : t.Embeds f u) : f t.size = u.size := h.size 0

/-- Nodes go to nodes. -/
theorem apply_lt_size (h : t.Embeds f u) (hi : i < t.size) : f i < u.size :=
  (h.mono hi).trans_eq h.apply_size

/-- A tree is not larger than one that it is embedded in. -/
theorem size_le (h : t.Embeds f u) : t.size ≤ u.size :=
  (StrictMono.le_apply h.mono).trans_eq h.apply_size

/-- Images of indices in order are in order. -/
theorem pairwise_map (h : t.Embeds f u) {list : List Nat} (hl : list.Pairwise (· < ·)) :
    (list.map f).Pairwise (· < ·) :=
  List.pairwise_map.mpr (hl.imp fun hlt => h.mono hlt)

/-- One more node on both sides. -/
theorem add (h : t.Embeds f u) (node : Node) :
    (t.add node).Embeds f (u.add (node.relabel f)) where
  mono := h.mono
  zero := h.zero
  size := by
    intro k
    rw [size_add, size_add, Nat.add_assoc, h.size]
    omega
  nodes := by
    intro i hi
    rw [size_add] at hi
    rcases Nat.lt_succ_iff_lt_or_eq.mp hi with hlt | rfl
    · rw [nodeAt_add_lt hlt, nodeAt_add_lt (h.apply_lt_size hlt), h.nodes i hlt]
    · rw [nodeAt_add_size, h.apply_size, nodeAt_add_size]

/-- Nodes have the same content, relabelled. -/
theorem contentAt (h : t.Embeds f u) (hi : i < t.size) :
    u.contentAt (f i) = (t.contentAt i).relabel f := by
  rw [Tree.contentAt, h.nodes i hi]
  rfl

/-- The header of a filter is sent to the header of the image. -/
theorem topOf? (h : t.Embeds f u) (hi : i < t.size) :
    u.topOf? (f i) = (t.topOf? i).map fun top => ((f top.toNat : Nat) : Int) := by
  rw [topOf?_eq hi, topOf?_eq (h.apply_lt_size hi), h.contentAt hi]
  cases t.contentAt i with
  | filter line => cases line <;> rfl
  | _ => rfl

/-- The nodes above a node are sent to the nodes above the image. -/
theorem ancestors (h : t.Embeds f u) (hr : t.Rooted) (hi : i < t.size) :
    u.ancestors (f i) = (t.ancestors i).map f := by
  induction i using Nat.strong_induction_on with
  | _ i ih =>
    have hparent : u.parent? (f i) = (t.nodeAt i).parent.map f := by
      rw [parent?_eq (h.apply_lt_size hi), h.nodes i hi]
      rfl
    rcases Nat.eq_zero_or_pos i with rfl | hz
    · rw [hr.nodeAt_zero] at hparent
      rw [ancestors_of_none hparent, hr.ancestors_zero]
      rfl
    · obtain ⟨p, hp, hc, ha⟩ := hr.ancestors_pos hi hz
      rw [hc] at hparent
      rw [ancestors_of_some hparent (h.mono hp), ha, ih p hp (hp.trans hi), List.map_cons]

/-- Nodes are inside raw text in the one tree exactly if they are in the other. -/
theorem insideRaw (h : t.Embeds f u) (hr : t.Rooted) (hi : i < t.size) :
    u.insideRaw (f i) = t.insideRaw i := by
  have hraw : ∀ a ∈ i :: t.ancestors i, (u.contentAt (f a)).isRaw = (t.contentAt a).isRaw := by
    intro a ha
    have hlt : a < t.size := by
      rcases List.mem_cons.mp ha with rfl | ha
      · exact hi
      · exact (lt_of_mem_ancestors ha).trans hi
    rw [h.contentAt hlt, Content.isRaw_relabel]
  rw [Tree.insideRaw, Tree.insideRaw, h.ancestors hr hi, ← List.map_cons, List.any_map,
    Bool.eq_iff_iff, List.any_eq_true, List.any_eq_true]
  constructor
  · rintro ⟨a, ha, hr⟩
    exact ⟨a, ha, (hraw a ha).symm.trans hr⟩
  · rintro ⟨a, ha, hr⟩
    exact ⟨a, ha, (hraw a ha).trans hr⟩

end Embeds

end Tree

namespace Nesting

variable {f : Nat → Nat} {m n m' : Nesting} {line : LogicalLine} {width v : Nat}

/-- The run `n` goes on as the run `m` does, at the images of the nodes of `m`. The second run will
measure with the unit `v`, if with any. -/
structure InStep (f : Nat → Nat) (v : Nat) (m n : Nesting) : Prop where
  /-- The nodes of the one are nodes of the other. -/
  tree : m.tree.Embeds f n.tree
  /-- The last node is sent to the last node. -/
  last : n.last = f m.last
  /-- Parents are sent to parents. -/
  parents : n.parents = m.parents.map f
  /-- There is one unit, unless the one run has seen no indented line yet. -/
  unit : m.unit = 0 ∨ n.unit = m.unit
  /-- The other run has no unit that the one will not have. -/
  measure : n.unit = 0 ∨ v = 0 ∨ n.unit = v

/-- States with the same open parents are at the same level. -/
theorem level_of_parents (hp : n.parents = m.parents.map f) : n.level = m.level := by
  rw [level, hp, List.length_map, level]

/-- States with the same open parents have the same innermost one. -/
theorem parent_of_parents (hz : f 0 = 0) (hp : n.parents = m.parents.map f) :
    n.parent = f m.parent := by
  rw [parent, parent, hp, List.getLastD_eq_getLast?, List.getLastD_eq_getLast?, List.getLast?_map]
  cases m.parents.getLast? with
  | none => exact hz.symm
  | some p => rfl

/-- Blank lines become the same nodes. -/
theorem blankNode_of_embeds (hs : m.Sound) (h : m.tree.Embeds f n.tree)
    (hp : n.parents = m.parents.map f) {top : Nat} (ht : top < m.tree.size) :
    n.blankNode (f top) = (m.blankNode top).relabel f := by
  rw [blankNode, parent_of_parents h.zero hp, h.nodes _ hs.parent_lt, h.nodes _ ht,
    Node.childCodeLevel_relabel, Node.childOutputLevel_relabel, level_of_parents hp]
  rfl

/-- Lines become the same nodes. -/
theorem lineNode_of_embeds (hs : m.Sound) (h : m.tree.Embeds f n.tree)
    (hp : n.parents = m.parents.map f) (line : LogicalLine) :
    n.lineNode line = (m.lineNode line).relabel f := by
  rw [lineNode, parent_of_parents h.zero hp, h.nodes _ hs.parent_lt, h.topOf? hs.parent_lt,
    Node.childCodeLevel_relabel, Node.childOutputLevel_relabel, level_of_parents hp, lineNode]
  cases m.tree.topOf? m.parent with
  | some top => rfl
  | none =>
    simp only [Option.map_none, Node.relabel, Content.relabel_ofLine]
    rfl

/-- A line at the margin does not set the unit. -/
theorem unitAt_zero (n : Nesting) : n.unitAt 0 = n.unit := by
  rw [unitAt]
  split <;> simp_all

/-- A line at the margin is at level zero. -/
theorem levelAt_zero (n : Nesting) : n.levelAt 0 = 0 := Nat.zero_div _

namespace InStep

/-- States in step are at the same level. -/
theorem level (h : InStep f v m n) : n.level = m.level := level_of_parents h.parents

/-- An indented line is measured with one unit. -/
theorem unitAt (h : InStep f v m n) (hw : 0 < width)
    (hv : m.unitAt width = 0 ∨ m.unitAt width = v) : n.unitAt width = m.unitAt width := by
  have hpos := m.unitAt_pos hw
  have hunit := h.unit
  have hmeasure := h.measure
  rw [Nesting.unitAt] at hv hpos ⊢
  rw [Nesting.unitAt]
  split_ifs at * <;> omega

/-- A line of some width is at the same level in both states, if the one has the unit of the other
or none. -/
theorem levelAt (h : InStep f v m n) (hv : m.unitAt width = 0 ∨ m.unitAt width = v) :
    n.levelAt width = m.levelAt width := by
  rcases Nat.eq_zero_or_pos width with rfl | hw
  · rw [levelAt_zero, levelAt_zero]
  · rw [Nesting.levelAt, Nesting.levelAt, h.unitAt hw hv]

/-- A line that is not at fault in the one state is not at fault in the other. -/
theorem fault? (hs : m.Sound) (h : InStep f v m n)
    (hv : m.unitAt width = 0 ∨ m.unitAt width = v) (hf : m.fault? width = none) :
    n.fault? width = none := by
  obtain ⟨hunit, hdeep, horphan⟩ := fault?_eq_none_iff.mp hf
  rw [fault?_eq_none_iff, h.level, h.levelAt hv, h.last, h.tree.insideRaw hs.rooted hs.last_lt]
  refine ⟨?_, hdeep, fun hl hone => ?_⟩
  · rcases Nat.eq_zero_or_pos width with rfl | hw
    · exact Nat.zero_mod _
    · rw [h.unitAt hw hv, hunit]
  · have hle := h.tree.size_le
    have hpos := hs.rooted.size_pos
    have hne := horphan hl
    omega

/-- States in step are in step after they move to the same width. -/
theorem moveTo (h : InStep f v m n) (hv : m.unitAt width = 0 ∨ m.unitAt width = v) :
    InStep f v (m.moveTo width) (n.moveTo width) where
  tree := h.tree
  last := h.last
  parents := by
    rw [Nesting.moveTo, Nesting.moveTo, h.levelAt hv, h.level, h.parents, h.last, List.map_append,
      List.map_take, List.map_replicate]
  unit := by
    rcases Nat.eq_zero_or_pos width with rfl | hw
    · rw [Nesting.moveTo, Nesting.moveTo, unitAt_zero, unitAt_zero]
      exact h.unit
    · exact .inr (h.unitAt hw hv)
  measure := by
    rcases Nat.eq_zero_or_pos width with rfl | hw
    · rw [Nesting.moveTo, unitAt_zero]
      exact h.measure
    · rw [Nesting.moveTo, h.unitAt hw hv]
      exact hv.imp id .inr

/-- Both runs add a node. -/
theorem add (h : InStep f v m n) (node : Node) :
    InStep f v (m.add node) (n.add (node.relabel f)) where
  tree := h.tree.add node
  last := by rw [last_add, last_add, h.tree.apply_size]
  parents := h.parents
  unit := h.unit
  measure := h.measure

/-- One line. -/
theorem step (hs : m.Sound) (h : InStep f v m n) (hm : m.step line = .ok m')
    (hv : m'.unit = 0 ∨ m'.unit = v) : ∃ n', n.step line = .ok n' ∧ InStep f v m' n' := by
  obtain ⟨he, ht, rfl⟩ | ⟨he, top, ht, rfl⟩ | ⟨hne, hf, rfl⟩ := step_cases hm
  · refine ⟨n, ?_, h⟩
    rw [Nesting.step, if_pos he, h.last, h.tree.topOf? hs.last_lt, ht]
    rfl
  · refine ⟨n.add (n.blankNode (f top.toNat)), ?_, ?_⟩
    · rw [Nesting.step, if_pos he, h.last, h.tree.topOf? hs.last_lt, ht]
      rfl
    · rw [blankNode_of_embeds hs h.tree h.parents (hs.header_of_last ht).1]
      exact h.add _
  · refine ⟨(n.moveTo line.indent).add ((n.moveTo line.indent).lineNode line), ?_, ?_⟩
    · rw [Nesting.step, if_neg hne, h.fault? hs hv hf]
    · rw [lineNode_of_embeds (hs.moveTo hf) (h.moveTo hv).tree (h.moveTo hv).parents]
      exact (h.moveTo hv).add _

/-- All further lines. -/
theorem foldlM {before lines : List LogicalLine} (hrun : run before = .ok m)
    (h : InStep f (LogicalLine.unitOf (before ++ lines)) m n)
    (hm : lines.foldlM Nesting.step m = .ok m') :
    ∃ n', lines.foldlM Nesting.step n = .ok n' ∧
      InStep f (LogicalLine.unitOf (before ++ lines)) m' n' := by
  induction lines generalizing before m n with
  | nil =>
    obtain rfl : m = m' := Except.ok.inj hm
    exact ⟨n, rfl, h⟩
  | cons line lines ih =>
    obtain ⟨mid, hstep, hrest⟩ := exists_foldlM_cons hm
    have hmid : run (before ++ [line]) = .ok mid := by
      rw [run_concat, hrun]
      exact hstep
    rw [List.append_cons] at h ⊢
    have hv : mid.unit = 0 ∨ mid.unit = LogicalLine.unitOf (before ++ [line] ++ lines) := by
      rw [(reads_run hmid).2.unit, LogicalLine.unitOf_append _ lines]
      split
      · exact .inl ‹_›
      · exact .inr rfl
    obtain ⟨next, hnext, hfollows⟩ := h.step (reads_run hrun).1 hstep hv
    obtain ⟨n', hn', hlast⟩ := ih hmid hfollows hrest
    refine ⟨n', ?_, hlast⟩
    rw [List.foldlM_cons, hnext]
    exact hn'

end InStep

/-- Blank lines at the end of a run are added to the filter that the run ends in. -/
structure Padded (n padded : Nesting) : Prop where
  /-- The unit stays. -/
  unit : padded.unit = n.unit
  /-- Nodes are only added. -/
  size_le : n.tree.size ≤ padded.tree.size
  /-- The nodes stay. -/
  nodes : ∀ i < n.tree.size, padded.tree.nodeAt i = n.tree.nodeAt i
  /-- Each further node is a blank line of a filter. -/
  blanks : ∀ i, n.tree.size ≤ i → i < padded.tree.size → ∃ t kind, t < n.tree.size ∧
    n.tree.contentAt t = .filter (.header kind) ∧ (padded.tree.nodeAt i).expression = [] ∧
    (padded.tree.nodeAt i).parent = some t ∧ (padded.tree.nodeAt i).content = .filter (.body t)

/-- Blank lines are never at fault, and add blank nodes only. -/
theorem exists_foldlM_blank (hs : n.Sound) {blanks : List LogicalLine}
    (hb : ∀ line ∈ blanks, line.expression = []) :
    ∃ padded, blanks.foldlM Nesting.step n = .ok padded ∧ padded.Sound ∧ n.Padded padded := by
  induction blanks generalizing n with
  | nil => exact ⟨n, rfl, hs, rfl, le_rfl, fun _ _ => rfl, fun i h₁ h₂ => absurd h₁ (by omega)⟩
  | cons line blanks ih =>
    have he := hb line List.mem_cons_self
    have hrest := fun other ho => hb other (List.mem_cons_of_mem _ ho)
    cases ht : n.tree.topOf? n.last with
    | none =>
      have hstep : n.step line = .ok n := by rw [Nesting.step, if_pos he, ht]
      obtain ⟨padded, hfold, hpadded⟩ := ih hs hrest
      refine ⟨padded, ?_, hpadded⟩
      rw [List.foldlM_cons, hstep]
      exact hfold
    | some top =>
      have hstep : n.step line = .ok (n.add (n.blankNode top.toNat)) := by
        rw [Nesting.step, if_pos he, ht]
      obtain ⟨padded, hfold, hsound, hpadded⟩ := ih (hs.add_blank ht) hrest
      obtain ⟨hlt, -, kind, hheader⟩ := hs.header_of_last ht
      have hsize := hpadded.size_le
      have hnodes := hpadded.nodes
      rw [tree_add, Tree.size_add] at hsize hnodes
      refine ⟨padded, ?_, hsound, hpadded.unit, by omega, ?_, ?_⟩
      · rw [List.foldlM_cons, hstep]
        exact hfold
      · intro i hi
        rw [hnodes i (by omega), Tree.nodeAt_add_lt hi]
      · intro i hi hip
        rcases Nat.lt_or_eq_of_le hi with hgt | rfl
        · obtain ⟨t, other, htlt, hother, hblank⟩ :=
            hpadded.blanks i (by rw [tree_add, Tree.size_add]; omega) hip
          rw [tree_add, Tree.size_add] at htlt
          rcases Nat.lt_succ_iff_lt_or_eq.mp htlt with htn | rfl
          · rw [tree_add, Tree.contentAt_add_lt htn] at hother
            exact ⟨t, other, htn, hother, hblank⟩
          · rw [tree_add, Tree.contentAt_add_size] at hother
            cases hother
        · rw [hnodes _ (by omega), Tree.nodeAt_add_size]
          exact ⟨top.toNat, kind, hlt, hheader, rfl, rfl, rfl⟩

/-- Before the first line blank lines leave no trace. -/
theorem foldlM_blank_start {blanks : List LogicalLine}
    (hb : ∀ line ∈ blanks, line.expression = []) :
    blanks.foldlM Nesting.step start = .ok start := by
  induction blanks with
  | nil => rfl
  | cons line blanks ih =>
    have hstep : start.step line = .ok start := by
      rw [Nesting.step, if_pos (hb line List.mem_cons_self)]
      rfl
    rw [List.foldlM_cons, hstep]
    exact ih fun other ho => hb other (List.mem_cons_of_mem _ ho)

end Nesting

end Haml
