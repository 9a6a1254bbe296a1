import Haml.Proofs.Tree
import Mathlib.Data.List.Induction

/-!
# Nesting by widths

The outline keeps counters for levels and widths, a stack and references to nodes. Between two lines
all of them follow from three things: the tree so far, the unit, and the parents that lines at the
levels 1, 2, … get, up to the level of the last line. A `Nesting` holds these three. Its step says
in one place when a line is refused and where an accepted line goes. What every run keeps is proved
by `run_induction` from what one step keeps. That the outline does the same for every list of lines
is `build_eq_run`, in the module on its refinement: so its stack is never popped when empty, its
unit is never zero when divided by, and every reference it follows leads to a node.
-/

namespace Haml

open Outline (Fault State Outcome)
open Template (Progress)

/-- The tree so far, the unit and the parents for each level. -/
structure Nesting where
  /-- The tree so far. -/
  tree : Tree
  /-- The width of one level; zero until the first indented line. -/
  unit : Nat
  /-- The parents of lines at the levels 1, 2, … up to the level of the last line. -/
  parents : List Nat

namespace Nesting

variable {n m : Nesting} {width t : Nat} {line : LogicalLine}

/-- The root alone. -/
def start : Nesting := ⟨Template.start.tree, 0, []⟩

/-- The level of the last line. -/
def level (n : Nesting) : Nat := n.parents.length

/-- The parent of a line at the level of the last one. -/
def parent (n : Nesting) : Nat := n.parents.getLastD 0

/-- The last node. -/
def last (n : Nesting) : Nat := n.tree.size - 1

/-- The unit that a line of some width is measured with: its own width if it is the first indented
one. -/
def unitAt (n : Nesting) (width : Nat) : Nat := if n.unit = 0 then width else n.unit

/-- The level of a line of some width. -/
def levelAt (n : Nesting) (width : Nat) : Nat := width / n.unitAt width

/-- Why a line of some width is refused. -/
def fault? (n : Nesting) (width : Nat) : Option Fault :=
  if width % n.unitAt width ≠ 0 then some (.uneven width (n.unitAt width))
  else if n.level + 1 < n.levelAt width ∧ n.tree.insideRaw n.last = false then
    some (.tooDeep n.level (n.levelAt width))
  else if n.level < n.levelAt width ∧ n.tree.size = 1 then some .orphan
  else none

/-- Lower levels keep their parents, and the last node becomes the parent for each further level. -/
def moveTo (n : Nesting) (width : Nat) : Nesting :=
  { n with
    unit := n.unitAt width
    parents := n.parents.take (n.levelAt width) ++
      List.replicate (n.levelAt width - n.level) n.last }

/-- The node of a line at the level of the last one. -/
def lineNode (n : Nesting) (line : LogicalLine) : Node :=
  { expression := line.expression
    indent := line.indent
    blockLevel := n.level
    codeLevel := (n.tree.nodeAt n.parent).childCodeLevel
    outputLevel := (n.tree.nodeAt n.parent).childOutputLevel
    parent := some n.parent
    content :=
      match n.tree.topOf? n.parent with
      | some top => .filter (.body top)
      | none => Content.ofLine (Kind.ofLine line.expression) none line.expression }

/-- The node of a blank line of the filter `top`. -/
def blankNode (n : Nesting) (top : Nat) : Node :=
  { expression := []
    indent := 0
    blockLevel := n.level
    codeLevel := (n.tree.nodeAt n.parent).childCodeLevel
    outputLevel := (n.tree.nodeAt top).childOutputLevel
    parent := some top
    content := .filter (.body top) }

/-- The nesting with one more node. -/
def add (n : Nesting) (node : Node) : Nesting := { n with tree := n.tree.add node }

/-- Moving to a width adds no nodes. -/
@[simp] theorem tree_moveTo (n : Nesting) (width : Nat) : (n.moveTo width).tree = n.tree := rfl

/-- A further node is added to the tree. -/
@[simp] theorem tree_add (n : Nesting) (node : Node) : (n.add node).tree = n.tree.add node := rfl

/-- The node that was added is the last one. -/
@[simp] theorem last_add (n : Nesting) (node : Node) : (n.add node).last = n.tree.size := by
  rw [last, tree_add, Tree.size_add, Nat.add_sub_cancel]

/-- One logical line. -/
def step (n : Nesting) (line : LogicalLine) : Except TemplateError Nesting :=
  if line.expression = [] then
    match n.tree.topOf? n.last with
    | some top => .ok (n.add (n.blankNode top.toNat))
    | none => .ok n
  else
    match n.fault? line.indent with
    | some fault => .error ⟨fault, line.number⟩
    | none => .ok ((n.moveTo line.indent).add ((n.moveTo line.indent).lineNode line))

/-- All logical lines in turn. -/
def run (lines : List LogicalLine) : Except TemplateError Nesting := lines.foldlM step start

/-- What a step that succeeds has done. -/
theorem step_cases (h : n.step line = .ok m) :
    (line.expression = [] ∧ n.tree.topOf? n.last = none ∧ m = n) ∨
    (line.expression = [] ∧ ∃ top, n.tree.topOf? n.last = some top ∧
      m = n.add (n.blankNode top.toNat)) ∨
    (line.expression ≠ [] ∧ n.fault? line.indent = none ∧
      m = (n.moveTo line.indent).add ((n.moveTo line.indent).lineNode line)) := by
  unfold step at h
  by_cases he : line.expression = []
  · rw [if_pos he] at h
    cases ht : n.tree.topOf? n.last with
    | none =>
      simp only [ht, Except.ok.injEq] at h
      exact .inl ⟨he, rfl, h.symm⟩
    | some top =>
      simp only [ht, Except.ok.injEq] at h
      exact .inr (.inl ⟨he, top, rfl, h.symm⟩)
  · rw [if_neg he] at h
    cases hf : n.fault? line.indent with
    | some fault => simp [hf] at h
    | none =>
      simp only [hf, Except.ok.injEq] at h
      exact .inr (.inr ⟨he, rfl, h.symm⟩)

/-- What a step on a line that is not blank has done. -/
theorem step_cases_line (hne : line.expression ≠ []) (h : n.step line = .ok m) :
    n.fault? line.indent = none ∧
      m = (n.moveTo line.indent).add ((n.moveTo line.indent).lineNode line) := by
  obtain ⟨he, -, -⟩ | ⟨he, -⟩ | ⟨-, hf, hm⟩ := step_cases h
  · exact absurd he hne
  · exact absurd he hne
  · exact ⟨hf, hm⟩

/-- A step that fails does so on a line that is not blank, with the fault of its width. -/
theorem step_eq_error_iff {error : TemplateError} :
    n.step line = .error error ↔
      line.expression ≠ [] ∧ n.fault? line.indent = some error.fault ∧
        error.line = line.number := by
  unfold step
  by_cases he : line.expression = []
  · rw [if_pos he]
    cases n.tree.topOf? n.last <;> simp [he]
  · rw [if_neg he]
    cases hf : n.fault? line.indent with
    | none => simp
    | some fault =>
      obtain ⟨fault', number⟩ := error
      simp [he, eq_comm]

/-- The level fits the width, and it rises by more than one only below raw lines and never before
the first node. -/
theorem fault?_eq_none_iff :
    n.fault? width = none ↔
      width % n.unitAt width = 0 ∧
      (n.level + 1 < n.levelAt width → n.tree.insideRaw n.last = true) ∧
      (n.level < n.levelAt width → n.tree.size ≠ 1) := by
  unfold fault?
  split_ifs with hu hd ho <;> simp_all

/-- After moving to a width the level is that of the width. -/
@[simp] theorem level_moveTo (n : Nesting) (width : Nat) :
    (n.moveTo width).level = n.levelAt width := by
  rw [level, moveTo, List.length_append, List.length_take, List.length_replicate, level]
  omega

/-- The parents after a move: those before up to the old level, then the last node. -/
theorem getElem?_moveTo (n : Nesting) (width j : Nat) :
    (n.moveTo width).parents[j]? =
      if j < n.levelAt width then if j < n.level then n.parents[j]? else some n.last else none := by
  rw [moveTo, List.getElem?_append, List.length_take, List.getElem?_replicate, level]
  by_cases hj : j < n.levelAt width
  · by_cases hl : j < n.parents.length
    · rw [if_pos (by omega), List.getElem?_take, if_pos hj, if_pos hj, if_pos hl]
    · rw [if_neg (by omega), if_pos (by omega), if_pos hj, if_neg hl]
  · rw [if_neg (by omega), if_neg (by omega), if_neg hj]

/-- The parent at the present level is the last of the parents, or the root. -/
theorem parent_cases (n : Nesting) :
    (n.level = 0 ∧ n.parent = 0) ∨ ∃ j, n.level = j + 1 ∧ n.parents[j]? = some n.parent := by
  rcases List.eq_nil_or_concat n.parents with h | ⟨before, p, h⟩
  · exact .inl ⟨by rw [level, h]; rfl, by rw [parent, h]; rfl⟩
  · rw [List.concat_eq_append] at h
    refine .inr ⟨before.length, by rw [level, h, List.length_append]; rfl, ?_⟩
    rw [parent, h, List.getLastD_concat]
    exact List.getElem?_concat_length

/-- A width that fits is a whole number of units. -/
theorem width_moveTo (hf : n.fault? width = none) :
    (n.moveTo width).unit * (n.moveTo width).level = width := by
  rw [level_moveTo]
  exact Nat.mul_div_cancel' (Nat.dvd_of_mod_eq_zero (fault?_eq_none_iff.mp hf).1)

/-- An indented line has a unit to be measured with. -/
theorem unitAt_pos (n : Nesting) (hw : 0 < width) : 0 < n.unitAt width := by
  rw [unitAt]
  split <;> omega

/-- A line below a line of a filter is a line of the filter. -/
theorem content_lineNode_of_some (line : LogicalLine) {top : Int}
    (ht : n.tree.topOf? n.parent = some top) :
    (n.lineNode line).content = .filter (.body top) := by simp only [lineNode, ht]

/-- A line of a filter opens it or is below a line of the filter. -/
theorem topOfContent_lineNode {top : Int} {i : Nat}
    (ht : Tree.topOfContent i (n.lineNode line).content = some top) :
    top = i ∨ n.tree.topOf? n.parent = some top := by
  cases hp : n.tree.topOf? n.parent with
  | some other =>
    rw [content_lineNode_of_some line hp] at ht
    exact .inr ht
  | none =>
    have hc : (n.lineNode line).content =
        Content.ofLine (Kind.ofLine line.expression) none line.expression := by
      simp only [lineNode, hp]
    rw [hc] at ht
    cases hk : Kind.ofLine line.expression with
    | filter =>
      rw [hk] at ht
      exact .inl (Option.some.inj ht).symm
    | _ =>
      rw [hk] at ht
      cases ht

/-- No line is the root. -/
theorem content_lineNode_ne_root (n : Nesting) (line : LogicalLine) :
    (n.lineNode line).content ≠ .root := by
  cases hp : n.tree.topOf? n.parent with
  | some top =>
    rw [content_lineNode_of_some line hp]
    exact Content.noConfusion
  | none =>
    have hc : (n.lineNode line).content =
        Content.ofLine (Kind.ofLine line.expression) none line.expression := by
      simp only [lineNode, hp]
    rw [hc]
    cases Kind.ofLine line.expression <;> exact Content.noConfusion

/-- The tree is rooted, its filter lines refer to headers before them, and the parents and the unit
fit the tree. -/
structure Sound (n : Nesting) : Prop where
  /-- The tree is rooted. -/
  rooted : n.tree.Rooted
  /-- A filter line belongs to a header that is not after it. -/
  filters : ∀ i < n.tree.size, ∀ top, n.tree.topOf? i = some top →
    ∃ t ≤ i, top = (t : Int) ∧ ∃ kind, n.tree.contentAt t = .filter (.header kind)
  /-- The parents are nodes of the tree. -/
  parents_lt : ∀ p ∈ n.parents, p < n.tree.size
  /-- There are levels only when there is a unit. -/
  unit : n.unit = 0 → n.parents = []
  /-- There is a unit only when there is a line. -/
  fresh : n.tree.size = 1 → n.unit = 0

/-- At the start the state is sound. -/
theorem sound_start : start.Sound where
  rooted := by
    refine ⟨rfl, ?_⟩
    intro i hi hz
    have hs : start.tree.size = 1 := rfl
    omega
  filters := by
    intro i hi top ht
    have hs : start.tree.size = 1 := rfl
    obtain rfl : i = 0 := by omega
    cases ht
  parents_lt := by simp [start]
  unit _ := rfl
  fresh _ := rfl

namespace Sound

/-- The innermost open parent is a node. -/
theorem parent_lt (h : n.Sound) : n.parent < n.tree.size := by
  rw [parent, List.getLastD_eq_getLast?]
  cases hl : n.parents.getLast? with
  | none => exact h.rooted.size_pos
  | some p => exact h.parents_lt p (List.mem_of_getLast? hl)

/-- Without a unit there are no levels. -/
theorem level_eq_zero (h : n.Sound) (hu : n.unit = 0) : n.level = 0 := by
  rw [level, h.unit hu, List.length_nil]

/-- There is a last node. -/
theorem last_lt (h : n.Sound) : n.last < n.tree.size := by
  have hp := h.rooted.size_pos
  rw [last]
  omega

/-- A line one level down from nothing has its own width as the unit. -/
theorem levelAt_of_fresh (h : n.Sound) (width : Nat) (hs : n.tree.size = 1) :
    n.levelAt width ≤ 1 := by
  rw [levelAt, unitAt, if_pos (h.fresh hs)]
  rcases Nat.eq_zero_or_pos width with rfl | hw
  · simp
  · rw [Nat.div_self hw]

/-- A width that fits is more than some levels exactly when its level is. -/
theorem mul_lt_iff (h : n.Sound) {k : Nat} (hk : k ≤ n.level) (hm : width % n.unitAt width = 0) :
    n.unit * k < width ↔ k < n.levelAt width := by
  rcases Nat.eq_zero_or_pos n.unit with hu | hu
  · have hl := h.level_eq_zero hu
    obtain rfl : k = 0 := by omega
    rw [levelAt, unitAt, if_pos hu, hu, Nat.zero_mul]
    rcases Nat.eq_zero_or_pos width with rfl | hw
    · simp
    · simp [Nat.div_self hw, hw]
  · rw [unitAt, if_neg hu.ne'] at hm
    have hd := Nat.dvd_of_mod_eq_zero hm
    rw [levelAt, unitAt, if_neg hu.ne', Nat.lt_div_iff_mul_lt_of_dvd hu.ne' hd, Nat.mul_comm]

/-- A line of the last line's width stays where it is. -/
theorem moveTo_of_eq (h : n.Sound) (hw : width = n.unit * n.level) :
    n.fault? width = none ∧ n.moveTo width = n := by
  have hl : n.levelAt width = n.level := by
    rcases Nat.eq_zero_or_pos n.unit with hu | hu
    · have hp := h.level_eq_zero hu
      rw [levelAt, unitAt, if_pos hu, hw, hu, Nat.zero_mul, hp]
    · rw [levelAt, unitAt, if_neg (by omega), hw, Nat.mul_div_cancel_left _ hu]
  have hu : n.unitAt width = n.unit := by
    rw [unitAt, hw]
    split <;> simp_all
  constructor
  · rw [fault?_eq_none_iff, hl, hu, hw]
    exact ⟨Nat.mul_mod_right _ _, fun hh => absurd hh (by omega), fun hh => absurd hh (by omega)⟩
  · rw [moveTo, hl, hu, level, Nat.sub_self, List.take_length, List.replicate_zero,
      List.append_nil]

/-- Lines are added below nodes of the tree. -/
theorem add_node (h : n.Sound) {node : Node} {p : Nat} (hp : p < n.tree.size)
    (hn : node.parent = some p)
    (hf : ∀ top, Tree.topOfContent n.tree.size node.content = some top →
      ∃ t ≤ n.tree.size, top = (t : Int) ∧
        ∃ kind, (n.tree.add node).contentAt t = .filter (.header kind)) :
    (n.add node).Sound where
  rooted := h.rooted.add hp hn
  filters := by
    intro i hi top ht
    rw [add, Tree.size_add] at hi
    rcases Nat.lt_succ_iff_lt_or_eq.mp hi with hlt | rfl
    · rw [add, Tree.topOf?_add_lt hlt] at ht
      obtain ⟨t, hle, htop, kind, hk⟩ := h.filters i hlt top ht
      refine ⟨t, hle, htop, kind, ?_⟩
      rw [add, Tree.contentAt_add_lt (by omega), hk]
    · rw [add, Tree.topOf?_add_size] at ht
      exact hf top ht
  parents_lt := by
    intro q hq
    rw [add, Tree.size_add]
    exact Nat.lt_succ_of_lt (h.parents_lt q hq)
  unit := h.unit
  fresh := by
    intro hs
    have hp := h.rooted.size_pos
    rw [add, Tree.size_add] at hs
    omega

/-- Moving to a width that is not at fault keeps the state sound. -/
theorem moveTo (h : n.Sound) (hf : n.fault? width = none) : (n.moveTo width).Sound where
  rooted := h.rooted
  filters := h.filters
  parents_lt := by
    intro q hq
    rcases List.mem_append.mp hq with hq | hq
    · exact h.parents_lt q (List.mem_of_mem_take hq)
    · rw [List.eq_of_mem_replicate hq]
      exact h.last_lt
  unit := by
    intro hu
    have hw : width = 0 := by
      by_contra hw
      have hp := n.unitAt_pos (Nat.pos_of_ne_zero hw)
      have he : n.unitAt width = 0 := hu
      omega
    have hl : n.levelAt width = 0 := by rw [levelAt, hw, Nat.zero_div]
    rw [Nesting.moveTo, hl, List.take_zero, Nat.zero_sub, List.replicate_zero, List.append_nil]
  fresh := by
    intro hs
    have hz : n.unit = 0 := h.fresh hs
    have hl := (fault?_eq_none_iff.mp hf).2.2
    have hw : width = 0 := by
      by_contra hw
      have he : n.levelAt width = 1 := by
        rw [levelAt, unitAt, if_pos hz, Nat.div_self (by omega)]
      have hlev := h.level_eq_zero hz
      exact hl (by omega) hs
    rw [Nesting.moveTo, unitAt, if_pos hz, hw]

/-- The header of the filter that the last line belongs to. -/
theorem header_of_last (h : n.Sound) {top : Int} (ht : n.tree.topOf? n.last = some top) :
    top.toNat < n.tree.size ∧ top = (top.toNat : Int) ∧
      ∃ kind, n.tree.contentAt top.toNat = .filter (.header kind) := by
  obtain ⟨t, hle, rfl, hk⟩ := h.filters n.last h.last_lt top ht
  exact ⟨by have hl := h.last_lt; rw [Int.toNat_natCast]; omega, rfl, hk⟩

/-- A filter line is not the root. -/
theorem size_ne_one_of_filter (h : n.Sound) {top : Int} (ht : n.tree.topOf? n.last = some top) :
    n.tree.size ≠ 1 := by
  intro hone
  have hz : n.last = 0 := by rw [last, hone]
  rw [hz, h.rooted.topOf?_zero] at ht
  contradiction

/-- Adding a blank line of a filter keeps the state sound. -/
theorem add_blank (h : n.Sound) {top : Int} (ht : n.tree.topOf? n.last = some top) :
    (n.add (n.blankNode top.toNat)).Sound := by
  obtain ⟨hlt, htop, kind, hk⟩ := h.header_of_last ht
  refine h.add_node hlt rfl ?_
  intro other ho
  obtain rfl : (top.toNat : Int) = other := Option.some.inj ho
  refine ⟨top.toNat, by omega, rfl, kind, ?_⟩
  rw [Tree.contentAt_add_lt hlt, hk]

/-- Adding a line keeps the state sound. -/
theorem add_line (h : n.Sound) (line : LogicalLine) : (n.add (n.lineNode line)).Sound := by
  refine h.add_node h.parent_lt rfl ?_
  intro top ht
  cases hp : n.tree.topOf? n.parent with
  | some other =>
    have hc : (n.lineNode line).content = .filter (.body other) := by simp only [lineNode, hp]
    rw [hc] at ht
    obtain rfl : other = top := Option.some.inj ht
    obtain ⟨t, hle, htop, kind, hk⟩ := h.filters n.parent h.parent_lt other hp
    have hlt := h.parent_lt
    refine ⟨t, by omega, htop, kind, ?_⟩
    rw [Tree.contentAt_add_lt (by omega), hk]
  | none =>
    have hc : (n.lineNode line).content =
        Content.ofLine (Kind.ofLine line.expression) none line.expression := by
      simp only [lineNode, hp]
    cases hk : Kind.ofLine line.expression with
    | filter =>
      rw [hk] at hc
      rw [hc] at ht
      refine ⟨n.tree.size, le_rfl, (Option.some.inj ht).symm,
        (FilterKind.ofLine? line.expression).getD .plain, ?_⟩
      rw [Tree.contentAt_add_size, hc]
      rfl
    | _ =>
      rw [hk] at hc
      rw [hc] at ht
      cases ht

/-- A step keeps the state sound. -/
theorem step (h : n.Sound) (hm : n.step line = .ok m) : m.Sound := by
  obtain ⟨-, -, rfl⟩ | ⟨-, top, ht, rfl⟩ | ⟨-, hf, rfl⟩ := step_cases hm
  · exact h
  · exact h.add_blank ht
  · exact (h.moveTo hf).add_line line

end Sound

/-- A step keeps the nodes and adds at most one. -/
theorem step_frame (h : n.step line = .ok m) :
    n.tree.size ≤ m.tree.size ∧ ∀ i < n.tree.size, m.tree.nodeAt i = n.tree.nodeAt i := by
  obtain ⟨-, -, rfl⟩ | ⟨-, top, -, rfl⟩ | ⟨-, -, rfl⟩ := step_cases h
  · exact ⟨le_rfl, fun _ _ => rfl⟩
  · exact ⟨by rw [tree_add, Tree.size_add]; omega, fun i hi => Tree.nodeAt_add_lt hi⟩
  · exact ⟨by rw [tree_add, tree_moveTo, Tree.size_add]; omega, fun i hi => Tree.nodeAt_add_lt hi⟩

/-- Steps that succeed together succeed one by one. -/
theorem exists_foldlM_cons {lines : List LogicalLine}
    (h : (line :: lines).foldlM Nesting.step n = .ok m) :
    ∃ mid, n.step line = .ok mid ∧ lines.foldlM Nesting.step mid = .ok m := by
  rw [List.foldlM_cons] at h
  cases hl : n.step line with
  | error e =>
    rw [hl] at h
    contradiction
  | ok mid =>
    rw [hl] at h
    exact ⟨mid, rfl, h⟩

/-- A run over two parts runs over the first, and from where that ends over the second. -/
theorem exists_foldlM_append {lines more : List LogicalLine}
    (h : (lines ++ more).foldlM Nesting.step n = .ok m) :
    ∃ mid, lines.foldlM Nesting.step n = .ok mid ∧ more.foldlM Nesting.step mid = .ok m := by
  rw [List.foldlM_append] at h
  cases hl : lines.foldlM Nesting.step n with
  | error e =>
    rw [hl] at h
    contradiction
  | ok mid =>
    rw [hl] at h
    exact ⟨mid, rfl, h⟩

/-- Several steps keep the nodes too. -/
theorem foldlM_frame {lines : List LogicalLine} (h : lines.foldlM Nesting.step n = .ok m) :
    n.tree.size ≤ m.tree.size ∧ ∀ i < n.tree.size, m.tree.nodeAt i = n.tree.nodeAt i := by
  induction lines generalizing n with
  | nil =>
    obtain rfl : n = m := Except.ok.inj h
    exact ⟨le_rfl, fun _ _ => rfl⟩
  | cons line lines ih =>
    obtain ⟨next, hstep, hrest⟩ := exists_foldlM_cons h
    obtain ⟨hle, hkeep⟩ := step_frame hstep
    obtain ⟨hle', hkeep'⟩ := ih hrest
    refine ⟨hle.trans hle', ?_⟩
    intro i hi
    rw [hkeep' i (by omega), hkeep i hi]

/-- A run over one more line is a run and a step. -/
theorem run_concat (lines : List LogicalLine) (line : LogicalLine) :
    run (lines ++ [line]) = (run lines).bind fun n => n.step line := by
  rw [run, run, List.foldlM_append]
  cases lines.foldlM Nesting.step start with
  | error e => rfl
  | ok n =>
    change [line].foldlM Nesting.step n = n.step line
    rw [List.foldlM_cons]
    exact bind_pure (n.step line)

/-- A run over two parts goes on over the second where it ends with the first. -/
theorem run_append (lines more : List LogicalLine) :
    run (lines ++ more) = (run lines).bind fun n => more.foldlM Nesting.step n := by
  rw [run, List.foldlM_append]
  rfl

/-- A run that succeeds has succeeded on the way. -/
theorem exists_run_of_append {lines more : List LogicalLine} (h : run (lines ++ more) = .ok m) :
    ∃ n, run lines = .ok n ∧ more.foldlM Nesting.step n = .ok m := exists_foldlM_append h

/-- A run fails with the first line that is refused. -/
theorem run_eq_error_iff {lines : List LogicalLine} {error : TemplateError} :
    run lines = .error error ↔ ∃ before line after n, lines = before ++ line :: after ∧
      run before = .ok n ∧ n.step line = .error error := by
  constructor
  · intro h
    induction lines using List.reverseRecOn with
    | nil => contradiction
    | append_singleton lines line ih =>
      rw [run_concat] at h
      cases hr : run lines with
      | error e =>
        rw [hr] at h
        obtain rfl : e = error := Except.error.inj h
        obtain ⟨before, other, after, n, rfl, hn, hstep⟩ := ih hr
        exact ⟨before, other, after ++ [line], n, by simp, hn, hstep⟩
      | ok n =>
        rw [hr] at h
        exact ⟨lines, line, [], n, rfl, hr, h⟩
  · rintro ⟨before, line, after, n, rfl, hn, hstep⟩
    rw [run_append, hn]
    change (line :: after).foldlM Nesting.step n = _
    rw [List.foldlM_cons, hstep]
    rfl

/-- What holds at the start and is kept by every step holds after every run. -/
theorem run_induction {P : Nesting → List LogicalLine → Prop} (hstart : P start [])
    (hstep : ∀ n lines line m, n.Sound → P n lines → n.step line = .ok m → P m (lines ++ [line]))
    {lines : List LogicalLine} (h : run lines = .ok n) : n.Sound ∧ P n lines := by
  induction lines using List.reverseRecOn generalizing n with
  | nil =>
    obtain rfl : start = n := Except.ok.inj h
    exact ⟨sound_start, hstart⟩
  | append_singleton lines line ih =>
    rw [run_concat] at h
    cases hr : run lines with
    | error e =>
      rw [hr] at h
      contradiction
    | ok before =>
      obtain ⟨hs, hp⟩ := ih hr
      have hm : before.step line = .ok n := by rwa [hr] at h
      exact ⟨hs.step hm, hstep before lines line n hs hp hm⟩

end Nesting

end Haml
