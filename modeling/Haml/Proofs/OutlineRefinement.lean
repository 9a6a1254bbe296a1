import Haml.Proofs.Nesting

/-!
# The outline follows the nesting

Between two lines the state of the outline is a function of the nesting, but for the fields that the
next line overwrites. Here each part of the outline's step is computed on such a state: the unit,
the level, the moves on the stack and the code level. It follows that the outline refuses a line
exactly when the nesting does, for the same reason, and otherwise goes on to follow it.
-/

namespace Haml

open Outline (Fault State Outcome)
open Template (Progress)

namespace Outline.State

/-- Taking levels off the stack leaves what lies below them. -/
theorem popLevels_eq {k : Nat} {s : State} {p : Int} {rest : List Int}
    (h : (s.parent :: s.stack).drop k = p :: rest) :
    popLevels k s = ⟨{ s with parent := p, stack := rest }, none⟩ := by
  induction k generalizing s with
  | zero =>
    simp only [List.drop_zero, List.cons.injEq] at h
    rw [popLevels, ← h.1, ← h.2]
  | succ k ih =>
    rw [List.drop_succ_cons] at h
    cases hs : s.stack with
    | nil =>
      rw [hs, List.drop_nil] at h
      contradiction
    | cons q stack =>
      rw [popLevels, hs]
      exact ih (by rwa [hs] at h)

section Level

variable {tree : Tree} {s : State} {width unit : Nat}

/-- A width that is no whole number of units is a fault. -/
theorem updateLevel_uneven (hc : s.currentIndent = width) (hu : s.unit = unit) (hz : unit ≠ 0)
    (hm : width % unit ≠ 0) : s.updateLevel tree = ⟨s, some (.uneven width unit)⟩ := by
  rw [updateLevel, hc, hu, ← Int.ofNat_fmod, if_neg (by simpa using hz),
    if_pos (by simpa only [bne_iff_ne, ne_eq, Int.natCast_eq_zero] using hm)]

/-- The level is taken if it rises by one at most, or if the line before is raw. -/
theorem updateLevel_ok (hc : s.currentIndent = width) (hu : s.unit = unit) (hz : unit ≠ 0)
    (hm : width % unit = 0)
    (hd : s.previousLevel + 1 < ((width / unit : Nat) : Int) →
      ∃ node, s.node = some node ∧ (tree.index? node).bind tree.inRawBlock? = some true) :
    s.updateLevel tree =
      ⟨{ s with
        currentLevel := ((width / unit : Nat) : Int)
        delta := s.previousLevel - ((width / unit : Nat) : Int) }, none⟩ := by
  rw [updateLevel, hc, hu, ← Int.ofNat_fmod, ← Int.ofNat_fdiv, if_neg (by simpa using hz),
    if_neg (by simpa only [bne_iff_ne, ne_eq, Int.natCast_eq_zero, not_not] using hm)]
  dsimp only
  split
  · rename_i hlt
    obtain ⟨node, hn, hr⟩ := hd hlt
    rw [hn]
    dsimp only
    rw [hr]
  · rfl

/-- A line that is more than one level deeper is a fault, unless it is inside of raw text. -/
theorem updateLevel_tooDeep (hc : s.currentIndent = width) (hu : s.unit = unit) (hz : unit ≠ 0)
    (hm : width % unit = 0) (hd : s.previousLevel + 1 < ((width / unit : Nat) : Int)) {node : Int}
    (hn : s.node = some node) (hr : (tree.index? node).bind tree.inRawBlock? = some false) :
    s.updateLevel tree =
      ⟨{ s with currentLevel := ((width / unit : Nat) : Int) },
        some (.tooDeep s.previousLevel ((width / unit : Nat) : Int))⟩ := by
  rw [updateLevel, hc, hu, ← Int.ofNat_fmod, ← Int.ofNat_fdiv, if_neg (by simpa using hz),
    if_neg (by simpa only [bne_iff_ne, ne_eq, Int.natCast_eq_zero, not_not] using hm)]
  dsimp only
  rw [if_pos hd, hn]
  dsimp only
  rw [hr]

end Level

section Parent

variable {tree : Tree} {s : State}

/-- A wider line has the last node as its parent, which is pushed once for each level in between. -/
theorem updateParent_push (hi : s.previousIndent < s.currentIndent) {node : Int}
    (hn : s.node = some node) :
    s.updateParent =
      ⟨{ s with
        stack := List.replicate (s.currentLevel - s.previousLevel - 1).toNat node ++
          s.parent :: s.stack
        parent := node }, none⟩ := by
  rw [updateParent, if_pos (by simpa [isIndent] using hi), pushParent, hn]

/-- A wider line that has no line before it has no parent. -/
theorem updateParent_orphan (hi : s.previousIndent < s.currentIndent) (hn : s.node = none) :
    s.updateParent = ⟨s, some .orphan⟩ := by
  rw [updateParent, if_pos (by simpa [isIndent] using hi), pushParent, hn]

/-- A line that is not wider takes a parent from the stack, for each level that it goes back. -/
theorem updateParent_pop (hi : s.currentIndent ≤ s.previousIndent) {p : Int} {rest : List Int}
    (h : (s.parent :: s.stack).drop s.delta.toNat = p :: rest) :
    s.updateParent = ⟨{ s with parent := p, stack := rest }, none⟩ := by
  rw [updateParent, if_neg (by simpa [isIndent] using hi), popParent, popLevels_eq h]

/-- A width without a fault goes through all steps. -/
theorem resolve_of_steps {s₁ s₂ s₃ : State} (h₁ : s.updateUnit = ⟨s₁, none⟩)
    (h₂ : s₁.updateLevel tree = ⟨s₂, none⟩) (h₃ : s₂.updateParent = ⟨s₃, none⟩) :
    s.resolve tree = s₃.updateCodeLevel tree := by
  simp only [resolve, h₁, Outcome.andThen, h₂, h₃]

/-- A width that is at fault for its level goes no further. -/
theorem resolve_of_level_fault {s₁ s₂ : State} {fault : Fault} (h₁ : s.updateUnit = ⟨s₁, none⟩)
    (h₂ : s₁.updateLevel tree = ⟨s₂, some fault⟩) : s.resolve tree = ⟨s₂, some fault⟩ := by
  simp only [resolve, h₁, Outcome.andThen, h₂]

/-- A width that is at fault for its parent goes no further. -/
theorem resolve_of_parent_fault {s₁ s₂ s₃ : State} {fault : Fault}
    (h₁ : s.updateUnit = ⟨s₁, none⟩) (h₂ : s₁.updateLevel tree = ⟨s₂, none⟩)
    (h₃ : s₂.updateParent = ⟨s₃, some fault⟩) : s.resolve tree = ⟨s₃, some fault⟩ := by
  simp only [resolve, h₁, Outcome.andThen, h₂, h₃]

end Parent

end Outline.State

namespace Nesting

variable {n m : Nesting} {p q : Progress} {width : Nat} {line : LogicalLine}

/-- The fields of the outline that a line leaves for the next one, widths apart. -/
structure Follows (n : Nesting) (p : Progress) : Prop where
  /-- Both have the same tree. -/
  tree : p.tree = n.tree
  /-- Both have the same unit. -/
  unit : p.state.unit = n.unit
  /-- The level is the number of parents. -/
  level : p.state.currentLevel = n.level
  /-- The stack holds the parents below the present one, the root at the bottom. -/
  stack : p.state.parent :: p.state.stack = ((0 :: n.parents).map Int.ofNat).reverse
  /-- The line before is the last node, if there is a line before. -/
  node : p.state.node = if n.tree.size = 1 then none else some (n.last : Int)
  /-- The code level is that of the parent's children. -/
  code : p.state.codeLevel = (n.tree.nodeAt n.parent).childCodeLevel

/-- The state of the outline between two lines. -/
structure Tracks (n : Nesting) (p : Progress) : Prop extends n.Follows p where
  /-- The level of the line before. -/
  previousLevel : p.state.previousLevel = n.level
  /-- The width of the line before. -/
  previousIndent : p.state.previousIndent = ((n.unit * n.level : Nat) : Int)

/-- At the start the outline is as the nesting. -/
theorem tracks_start : start.Tracks Template.start where
  tree := rfl
  unit := rfl
  level := rfl
  stack := rfl
  node := rfl
  code := rfl
  previousLevel := rfl
  previousIndent := rfl

/-- The outline has the innermost parent of the nesting. -/
theorem Follows.parent (h : n.Follows p) : p.state.parent = (n.parent : Int) := by
  have hs := congrArg List.head? h.stack
  rw [List.head?_reverse, List.getLast?_map] at hs
  have hl : (0 :: n.parents).getLast? = some n.parent := by
    rw [List.getLast?_cons, Nesting.parent, List.getLastD_eq_getLast?]
  rw [hl] at hs
  exact Option.some.inj hs

/-- Going back leaves the parents of the lower level on the stack. -/
theorem Follows.popped_stack (h : n.Follows p) (hle : n.levelAt width ≤ n.level) :
    (p.state.parent :: p.state.stack).drop (n.level - n.levelAt width) =
      ((0 :: (n.moveTo width).parents).map Int.ofNat).reverse := by
  have hp : (n.moveTo width).parents = n.parents.take (n.levelAt width) := by
    rw [moveTo, Nat.sub_eq_zero_of_le hle, List.replicate_zero, List.append_nil]
  have hk : n.parents.length + 1 - (n.level - n.levelAt width) = n.levelAt width + 1 := by
    rw [Nesting.level] at hle ⊢
    omega
  rw [h.stack, hp, List.drop_reverse, ← List.map_take, List.length_map, List.length_cons, hk,
    List.take_succ_cons]

/-- Going deeper puts the last node on the stack once for each further level. -/
theorem Follows.pushed_stack (h : n.Follows p) (hlt : n.level < n.levelAt width) :
    (n.last : Int) :: (List.replicate (n.levelAt width - n.level - 1) (n.last : Int) ++
      p.state.parent :: p.state.stack) =
        ((0 :: (n.moveTo width).parents).map Int.ofNat).reverse := by
  have hp : 0 :: (n.moveTo width).parents =
      (0 :: n.parents) ++ List.replicate (n.levelAt width - n.level) n.last := by
    rw [moveTo, List.take_of_length_le (Nat.le_of_lt hlt), List.cons_append]
  obtain ⟨k, hk⟩ : ∃ k, n.levelAt width - n.level = k + 1 :=
    ⟨n.levelAt width - n.level - 1, by omega⟩
  rw [h.stack, hp, hk, List.map_append, List.reverse_append, List.map_replicate,
    List.reverse_replicate, List.replicate_succ, Nat.add_sub_cancel]
  rfl

/-- The outline's state once it knows the width and the unit of a line. -/
def measured (n : Nesting) (p : Progress) (width : Nat) : State :=
  { p.state with currentIndent := width, unit := n.unitAt width }

/-- The outline's state once it knows the level of a line. -/
def levelled (n : Nesting) (p : Progress) (width : Nat) : State :=
  { n.measured p width with
    currentLevel := n.levelAt width
    delta := p.state.previousLevel - n.levelAt width }

namespace Tracks

/-- The outline measures a width with the unit of the nesting. -/
theorem updateUnit_eq (h : n.Tracks p) (width : Nat) :
    State.updateUnit { p.state with currentIndent := width } = ⟨n.measured p width, none⟩ := by
  by_cases hz : n.unit = 0
  · have hu : p.state.unit = 0 := by rw [h.unit, hz]; rfl
    have hi : p.state.previousIndent = 0 := by rw [h.previousIndent, hz, Nat.zero_mul]; rfl
    simp [State.updateUnit, measured, unitAt, hz, hu, hi]
  · have hu : ¬(p.state.unit == 0) = true := by simpa [h.unit] using hz
    rw [State.updateUnit, if_neg hu, measured, unitAt, if_neg hz, ← h.unit]

/-- The outline has the last node of the nesting, once there is one below the root. -/
theorem node_eq (h : n.Tracks p) (hne : n.tree.size ≠ 1) : p.state.node = some (n.last : Int) :=
  h.node.trans (if_neg hne)

/-- The test for raw lines looks at the last node. -/
theorem inRawBlock?_node (hs : n.Sound) :
    (n.tree.index? n.last).bind n.tree.inRawBlock? = some (n.tree.insideRaw n.last) := by
  rw [Tree.index?_natCast hs.last_lt, Option.bind_some, hs.rooted.inRawBlock?_eq hs.last_lt]

/-- The outline finds the level of the nesting. -/
theorem updateLevel_eq (hs : n.Sound) (h : n.Tracks p) (hu : n.unitAt width ≠ 0)
    (hm : width % n.unitAt width = 0)
    (hd : n.level + 1 < n.levelAt width → n.tree.insideRaw n.last = true) :
    (n.measured p width).updateLevel n.tree = ⟨n.levelled p width, none⟩ := by
  refine State.updateLevel_ok rfl rfl hu hm ?_
  intro hlt
  have hlev : (n.measured p width).previousLevel = n.level := h.previousLevel
  rw [hlev] at hlt
  have hlt' : n.level + 1 < n.levelAt width := by exact_mod_cast hlt
  have hne : n.tree.size ≠ 1 := by
    intro hone
    have hle := hs.levelAt_of_fresh width hone
    omega
  refine ⟨n.last, h.node_eq hne, ?_⟩
  rw [inRawBlock?_node hs, hd hlt']

/-- The outline moves its parents as the nesting does. -/
theorem updateParent_eq (hs : n.Sound) (h : n.Tracks p) (hf : n.fault? width = none) :
    ∃ parent stack, (n.levelled p width).updateParent =
        ⟨{ n.levelled p width with parent := parent, stack := stack }, none⟩ ∧
      parent :: stack = ((0 :: (n.moveTo width).parents).map Int.ofNat).reverse := by
  obtain ⟨hm, -, ho⟩ := fault?_eq_none_iff.mp hf
  have hiff := hs.mul_lt_iff le_rfl hm
  have hprev : (n.levelled p width).previousIndent = ((n.unit * n.level : Nat) : Int) :=
    h.previousIndent
  have hcur : (n.levelled p width).currentIndent = width := rfl
  by_cases hlt : n.level < n.levelAt width
  · refine ⟨_, _, State.updateParent_push ?_ (h.node_eq (ho hlt)), ?_⟩
    · rw [hprev, hcur]
      exact_mod_cast hiff.mpr hlt
    · have hk : ((n.levelled p width).currentLevel - (n.levelled p width).previousLevel - 1).toNat =
          n.levelAt width - n.level - 1 := by
        change ((n.levelAt width : Int) - p.state.previousLevel - 1).toNat = _
        rw [h.previousLevel]
        omega
      rw [hk]
      exact h.pushed_stack hlt
  · have hpop := h.popped_stack (Nat.le_of_not_lt hlt)
    have hk : (n.levelled p width).delta.toNat = n.level - n.levelAt width := by
      change (p.state.previousLevel - (n.levelAt width : Int)).toNat = _
      rw [h.previousLevel]
      omega
    cases hd : (p.state.parent :: p.state.stack).drop (n.level - n.levelAt width) with
    | nil => simp [hd] at hpop
    | cons parent stack =>
      refine ⟨parent, stack, State.updateParent_pop ?_ (by rw [hk]; exact hd),
        hd.symm.trans hpop⟩
      rw [hprev, hcur]
      exact_mod_cast Nat.le_of_not_lt (mt hiff.mp hlt)

/-- A change of width that the nesting takes. -/
theorem resolve_eq (hs : n.Sound) (h : n.Tracks p) (hu : n.unitAt width ≠ 0)
    (hf : n.fault? width = none) :
    ∃ s, State.resolve n.tree { p.state with currentIndent := width } = ⟨s, none⟩ ∧
      (n.moveTo width).Follows ⟨n.tree, s⟩ ∧ s.currentIndent = width := by
  obtain ⟨hm, hd, -⟩ := fault?_eq_none_iff.mp hf
  obtain ⟨parent, stack, hp, hstack⟩ := h.updateParent_eq hs hf
  have hr := State.resolve_of_steps (h.updateUnit_eq width) (h.updateLevel_eq hs hu hm hd) hp
  have hparent : parent = ((n.moveTo width).parent : Int) := by
    have hh := congrArg List.head? hstack
    rw [List.head?_reverse, List.getLast?_map, List.getLast?_cons] at hh
    rw [Nesting.parent, List.getLastD_eq_getLast?]
    exact Option.some.inj hh
  have hcode : n.tree.find? parent = some (n.tree.nodeAt (n.moveTo width).parent) := by
    rw [hparent]
    exact Tree.find?_natCast (hs.moveTo hf).parent_lt
  rw [State.updateCodeLevel, hcode] at hr
  refine ⟨_, hr, ⟨rfl, rfl, ?_, hstack, h.node, rfl⟩, rfl⟩
  rw [level_moveTo]
  rfl

/-- A change of width that the nesting refuses. -/
theorem resolve_eq_fault (hs : n.Sound) (h : n.Tracks p) (hu : n.unitAt width ≠ 0) {fault : Fault}
    (hf : n.fault? width = some fault) :
    ∃ s, State.resolve n.tree { p.state with currentIndent := width } = ⟨s, some fault⟩ := by
  have hunit := h.updateUnit_eq width
  have hprev : (n.measured p width).previousLevel = n.level := h.previousLevel
  unfold fault? at hf
  split_ifs at hf with hm hd ho
  · obtain rfl := Option.some.inj hf
    exact ⟨_, State.resolve_of_level_fault hunit (State.updateLevel_uneven rfl rfl hu hm)⟩
  · obtain rfl := Option.some.inj hf
    have hne : n.tree.size ≠ 1 := by
      intro hone
      have hle := hs.levelAt_of_fresh width hone
      omega
    have hlt : (n.measured p width).previousLevel + 1 < ((width / n.unitAt width : Nat) : Int) := by
      rw [hprev]
      exact_mod_cast hd.1
    have hl := State.updateLevel_tooDeep rfl rfl hu (not_not.mp hm) hlt (h.node_eq hne)
      ((inRawBlock?_node hs).trans (congrArg some hd.2))
    rw [hprev] at hl
    exact ⟨_, State.resolve_of_level_fault hunit hl⟩
  · obtain rfl := Option.some.inj hf
    have hl := h.updateLevel_eq hs hu (not_not.mp hm) fun hlt => by
      cases hr : n.tree.insideRaw n.last with
      | true => rfl
      | false => exact absurd ⟨hlt, hr⟩ hd
    have hi : (n.levelled p width).previousIndent < (n.levelled p width).currentIndent := by
      change p.state.previousIndent < (width : Int)
      rw [h.previousIndent]
      exact_mod_cast (hs.mul_lt_iff le_rfl (not_not.mp hm)).mpr ho.1
    exact ⟨_, State.resolve_of_parent_fault hunit hl
      (State.updateParent_orphan hi (h.node.trans (if_pos ho.2)))⟩

/-- A line of another width than the last one is measured with a unit. -/
theorem unitAt_ne_zero (hne : width ≠ n.unit * n.level) : n.unitAt width ≠ 0 := by
  intro hz
  apply hne
  rw [unitAt] at hz
  split at hz
  · rename_i hu
    rw [hz, hu, Nat.zero_mul]
  · contradiction

/-- The outline looks at a width again exactly if the width is not that of the line before. -/
theorem indentChanged_iff (h : n.Tracks p) :
    State.indentChanged { p.state with currentIndent := width } = true ↔
      width ≠ n.unit * n.level := by
  change ((width : Int) != p.state.previousIndent) = true ↔ _
  rw [h.previousIndent, bne_iff_ne, ne_eq, Int.natCast_inj]

/-- The move to a line's width, as the outline makes it. -/
theorem moveTo_ok (hs : n.Sound) (h : n.Tracks p) (hf : n.fault? width = none) :
    ∃ q, p.moveTo width = .ok q ∧ (n.moveTo width).Follows q ∧ q.state.currentIndent = width := by
  rw [Progress.moveTo]
  dsimp only
  by_cases heq : width = n.unit * n.level
  · rw [if_neg (mt h.indentChanged_iff.mp (not_not.mpr heq)), (hs.moveTo_of_eq heq).2]
    exact ⟨_, rfl, ⟨h.tree, h.unit, h.level, h.stack, h.node, h.code⟩, rfl⟩
  · obtain ⟨s, hr, hfollows, hcur⟩ := h.resolve_eq hs (unitAt_ne_zero heq) hf
    rw [if_pos (h.indentChanged_iff.mpr heq), h.tree, hr]
    exact ⟨_, rfl, hfollows, hcur⟩

/-- A width that is at fault for the nesting is at fault for the outline, with the same fault. -/
theorem moveTo_error (hs : n.Sound) (h : n.Tracks p) {fault : Fault}
    (hf : n.fault? width = some fault) : p.moveTo width = .error fault := by
  have heq : width ≠ n.unit * n.level := by
    intro heq
    rw [(hs.moveTo_of_eq heq).1] at hf
    contradiction
  obtain ⟨s, hr⟩ := h.resolve_eq_fault hs (unitAt_ne_zero heq) hf
  rw [Progress.moveTo]
  dsimp only
  rw [if_pos (h.indentChanged_iff.mpr heq), h.tree, hr]
  rfl

end Tracks

/-- A line that is not blank becomes a child of the parent, a filter line if that is one. -/
theorem insert?_line (hs : n.Sound) (hne : line.expression ≠ []) (previous : Option Nat) :
    n.tree.insert? line.expression previous n.parent
      ⟨n.level, (n.tree.nodeAt n.parent).childCodeLevel, line.indent⟩ =
        some (n.tree.add (n.lineNode line)) := by
  have he : line.expression.isEmpty = false := by simpa using hne
  have ha := Tree.get?_eq_some_nodeAt hs.parent_lt
  cases ht : n.tree.topOf? n.parent with
  | some top =>
    have hp : n.tree.place? line.expression previous n.parent = some ⟨.filter, n.parent⟩ := by
      simp [Tree.place?, he, ht]
    simp [Tree.insert?, hp, ha, ht, lineNode, Content.ofLine]
  | none =>
    have hp : n.tree.place? line.expression previous n.parent =
        some ⟨Kind.ofLine line.expression, n.parent⟩ := by
      simp [Tree.place?, he, ht]
    simp [Tree.insert?, hp, ha, ht, lineNode]

/-- A blank line after a filter line becomes a child of the filter's header. -/
theorem insert?_blank (hs : n.Sound) {top : Int} (ht : n.tree.topOf? n.last = some top)
    (parent : Nat) :
    n.tree.insert? [] (some n.last) parent
      ⟨n.level, (n.tree.nodeAt n.parent).childCodeLevel, 0⟩ =
        some (n.tree.add (n.blankNode top.toNat)) := by
  obtain ⟨hlt, htop, kind, hk⟩ := hs.header_of_last ht
  have hi : n.tree.index? top = some top.toNat := by
    rw [htop]
    exact Tree.index?_natCast hlt
  have hp : n.tree.place? [] (some n.last) parent = some ⟨.filter, top.toNat⟩ := by
    simp [Tree.place?, ht, hi]
  have ha := Tree.get?_eq_some_nodeAt hlt
  have hself : n.tree.topOf? top.toNat = some (top.toNat : Int) := by
    rw [Tree.topOf?_eq hlt, hk]
    rfl
  simp only [Tree.insert?, hp, ha, hself, Option.bind_eq_bind, Option.bind_some, beq_self_eq_true,
    if_true]
  rfl

/-- The outline's state after a node has been added. -/
def added (p : Progress) (node : Node) : Progress :=
  ⟨p.tree.add node, { p.state with node := some (p.tree.size : Int) }⟩

/-- A node that is added to both keeps the outline as the nesting. -/
theorem Follows.add (hs : n.Sound) (h : n.Follows p) (node : Node) :
    (n.add node).Follows (added p node) where
  tree := congrArg (Tree.add · node) h.tree
  unit := h.unit
  level := h.level
  stack := h.stack
  node := by
    have hp := hs.rooted.size_pos
    have hne : ¬(n.add node).tree.size = 1 := by rw [Nesting.add, Tree.size_add]; omega
    rw [if_neg hne, last, Nesting.add, Tree.size_add, Nat.add_sub_cancel, ← h.tree]
    rfl
  code := by
    have hp : (n.add node).parent = n.parent := rfl
    rw [hp, Nesting.add, Tree.nodeAt_add_lt hs.parent_lt]
    exact h.code

/-- The node of the line before, looked up in the tree. -/
theorem Follows.node_bind (hs : n.Sound) (h : n.Follows p) :
    p.state.node.bind p.tree.index? = if n.tree.size = 1 then none else some n.last := by
  rw [h.node, h.tree]
  split
  · rfl
  · exact Tree.index?_natCast hs.last_lt

/-- The outline inserts the node that the tree gives it. -/
theorem Follows.insert_eq (hs : n.Sound) (h : n.Follows p) {text : Text} {indent : Nat}
    {node : Node}
    (hi : p.tree.insert? text (p.state.node.bind p.tree.index?) n.parent
      ⟨p.state.currentLevel, p.state.codeLevel, indent⟩ = some (p.tree.add node)) :
    p.insert text indent = .ok (added p node) := by
  have hp : p.tree.index? p.state.parent = some n.parent := by
    rw [h.tree, h.parent]
    exact Tree.index?_natCast hs.parent_lt
  simp only [Progress.insert, hp, Option.bind_eq_bind, Option.bind_some, hi]
  rfl

/-- The outline inserts the node that the nesting has for a line. -/
theorem Follows.insert_line (hs : n.Sound) (h : n.Follows p) (hne : line.expression ≠ []) :
    p.insert line.expression line.indent = .ok (added p (n.lineNode line)) := by
  apply h.insert_eq hs
  rw [h.level, h.code, h.tree]
  exact insert?_line hs hne _

/-- The outline inserts the node that the nesting has for a blank line of a filter. -/
theorem Follows.insert_blank (hs : n.Sound) (h : n.Follows p) {top : Int}
    (ht : n.tree.topOf? n.last = some top) :
    p.insert [] 0 = .ok (added p (n.blankNode top.toNat)) := by
  have hn : p.state.node.bind p.tree.index? = some n.last := by
    rw [h.node_bind hs, if_neg (hs.size_ne_one_of_filter ht)]
  apply h.insert_eq hs
  rw [hn, h.level, h.code, h.tree]
  exact insert?_blank hs ht _

/-- A line is after a filter line exactly when the last node belongs to a filter. -/
theorem Follows.afterFilter_eq (hs : n.Sound) (h : n.Follows p) :
    p.afterFilter = (n.tree.topOf? n.last).isSome := by
  rw [Progress.afterFilter, h.node_bind hs, h.tree]
  split
  · rename_i hone
    have hz : n.last = 0 := by rw [last, hone]
    rw [hz, Tree.topOf?_eq hs.rooted.size_pos, hs.rooted.contentAt_zero]
    rfl
  · rfl

/-- The outline once it knows the number of a line. -/
def numbered (p : Progress) (number : Nat) : Progress :=
  { p with state := { p.state with line := number } }

/-- The number of a line makes no difference. -/
theorem Tracks.numbered (h : n.Tracks p) (number : Nat) : n.Tracks (numbered p number) :=
  ⟨⟨h.tree, h.unit, h.level, h.stack, h.node, h.code⟩, h.previousLevel, h.previousIndent⟩

/-- A blank line is inserted after a line of a filter, and is passed over anywhere else. -/
theorem step_of_blank (he : line.expression = []) :
    p.step line =
      (if (numbered p line.number).afterFilter then (numbered p line.number).insert [] 0
        else .ok (numbered p line.number)).mapError fun fault => ⟨fault, line.number⟩ := by
  unfold Progress.step
  rw [he]
  rfl

/-- The outline after a line that is not blank: the line's width and level are now those before the
next line. -/
def settled (p : Progress) : Progress :=
  { p with state :=
    { p.state with
      previousLevel := p.state.currentLevel
      previousIndent := p.state.currentIndent } }

/-- A line that is not blank is moved to its width and inserted. -/
theorem step_of_line (hne : line.expression ≠ []) :
    p.step line =
      (((numbered p line.number).moveTo line.indent).bind fun moved =>
        (moved.insert line.expression line.indent).map settled).mapError
          fun fault => ⟨fault, line.number⟩ := by
  have hb : line.expression.isEmpty = false := by simpa using hne
  unfold Progress.step
  rw [hb]
  change Except.mapError _ (Except.bind ((numbered p line.number).moveTo line.indent) _) = _
  congr 2

/-- One step of the outline on a nesting's state: the same outcome, and the new state follows the
new nesting. -/
theorem Tracks.step (hs : n.Sound) (h : n.Tracks p) (line : LogicalLine) :
    (∀ error, n.step line = .error error → p.step line = .error error) ∧
    (∀ m, n.step line = .ok m → ∃ q, p.step line = .ok q ∧ m.Tracks q) := by
  have hn := h.numbered line.number
  constructor
  · intro error he
    obtain ⟨hne, hf, hl⟩ := step_eq_error_iff.mp he
    rw [step_of_line hne, hn.moveTo_error hs hf, ← hl]
    rfl
  · intro m hm
    obtain ⟨he, ht, rfl⟩ | ⟨he, top, ht, rfl⟩ | ⟨hne, hf, rfl⟩ := step_cases hm
    · rw [step_of_blank he, hn.afterFilter_eq hs, ht]
      exact ⟨_, rfl, hn⟩
    · rw [step_of_blank he, hn.afterFilter_eq hs, ht, Option.isSome_some, if_pos rfl,
        hn.insert_blank hs ht]
      have ha := hn.toFollows.add hs (n.blankNode top.toNat)
      exact ⟨_, rfl, ha, hn.previousLevel, hn.previousIndent⟩
    · obtain ⟨q, hq, hfollows, hcur⟩ := hn.moveTo_ok hs hf
      have hsound := hs.moveTo hf
      rw [step_of_line hne, hq]
      dsimp only [Except.bind]
      rw [hfollows.insert_line hsound hne]
      have ha := hfollows.add hsound ((n.moveTo line.indent).lineNode line)
      refine ⟨_, rfl, ⟨ha.tree, ha.unit, ha.level, ha.stack, ha.node, ha.code⟩, ha.level, ?_⟩
      exact hcur.trans (congrArg Nat.cast (width_moveTo hf).symm)

/-- A run of the outline follows the run of the nesting. -/
theorem Tracks.foldlM (hs : n.Sound) (h : n.Tracks p) (lines : List LogicalLine) :
    (∀ error, lines.foldlM Nesting.step n = .error error →
      lines.foldlM Progress.step p = .error error) ∧
    (∀ m, lines.foldlM Nesting.step n = .ok m →
      ∃ q, lines.foldlM Progress.step p = .ok q ∧ m.Tracks q) := by
  induction lines generalizing n p with
  | nil =>
    constructor
    · intro error he
      cases he
    · intro m hm
      cases hm
      exact ⟨p, rfl, h⟩
  | cons line lines ih =>
    obtain ⟨herror, hok⟩ := h.step hs line
    rw [List.foldlM_cons, List.foldlM_cons]
    cases hstep : n.step line with
    | error error =>
      rw [herror error hstep]
      constructor
      · intro other he
        cases he
        rfl
      · intro m hm
        cases hm
    | ok next =>
      obtain ⟨q, hq, htracks⟩ := hok next hstep
      rw [hq]
      exact ih (hs.step hstep) htracks

/-- The outline builds the tree of the nesting, or reports its error. -/
theorem build_eq_run (lines : List LogicalLine) :
    Template.build lines = (run lines).map Nesting.tree := by
  obtain ⟨herror, hok⟩ := tracks_start.foldlM sound_start lines
  rw [Template.build]
  cases hr : run lines with
  | error error =>
    rw [herror error hr]
    rfl
  | ok m =>
    obtain ⟨q, hq, htracks⟩ := hok m hr
    rw [hq]
    exact congrArg Except.ok htracks.tree

/-- The outline builds the trees that the nesting builds. -/
theorem build_eq_ok_iff {lines : List LogicalLine} {tree : Tree} :
    Template.build lines = .ok tree ↔ ∃ n, run lines = .ok n ∧ n.tree = tree := by
  rw [build_eq_run]
  cases run lines with
  | error error => simp [Except.map]
  | ok n => simp [Except.map]

/-- The outline fails as the nesting fails. -/
theorem build_eq_error_iff {lines : List LogicalLine} {error : TemplateError} :
    Template.build lines = .error error ↔ run lines = .error error := by
  rw [build_eq_run]
  cases run lines with
  | error other => simp [Except.map]
  | ok n => simp [Except.map]

end Nesting

end Haml
