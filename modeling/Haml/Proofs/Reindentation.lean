import Haml.Proofs.CompileOutcome
import Haml.Proofs.JoinedLines
import Haml.Proofs.SilentComment

/-!
# Other indentation of the same lines

Widths are only ever compared, divided by the unit and checked to be whole numbers of it, and the
unit is itself the first of them. So a template whose lines are all indented `k` times as wide, by
whatever blanks, is read in the same way. The nesting after each line is the nesting of the original
with unit and widths multiplied by `k`, and a line is refused for the same fault, widths apart. Only
the content of a filter is laid out by its width, so a template without filters has the same code.
-/

namespace Haml

namespace LogicalLine

variable {k : Nat} {line other : Text} {group others : List Text} {lines : List Text}

/-- The line `other` is `line` with blanks before it that are `k` times as many. -/
structure Reindents (k : Nat) (line other : Text) : Prop where
  /-- Blanks take the place of the indentation. -/
  eq : ∃ blanks, other = blanks ++ Text.trimLeft line ∧
    (∀ c ∈ blanks, Text.isBlank c = true) ∧ blanks.length = k * (indentation line).length

/-- The first line of a group is indented anew, and the lines that continue it stay. -/
inductive ReindentsGroup (k : Nat) : List Text → List Text → Prop
  | cons {line other : Text} (h : Reindents k line other) (rest : List Text) :
      ReindentsGroup k (line :: rest) (other :: rest)

/-- The first physical line of each logical line is indented anew. -/
def ReindentsLines (k : Nat) (lines others : List Text) : Prop :=
  ∃ all, List.Forall₂ (ReindentsGroup k) (groups lines) all ∧ others = all.flatten

/-- The logical line with a width `k` times as large. -/
def widened (k : Nat) (line : LogicalLine) : LogicalLine := { line with indent := k * line.indent }

namespace Reindents

/-- A line that is indented anew is the same after its indentation. -/
theorem trimLeft_eq (h : Reindents k line other) : Text.trimLeft other = Text.trimLeft line := by
  obtain ⟨blanks, rfl, hblank, -⟩ := h.eq
  rw [Text.trimLeft_append_of_blank hblank]
  exact List.dropWhile_idempotent ..

/-- A line that is indented anew has the same text. -/
theorem trim_eq (h : Reindents k line other) : Text.trim other = Text.trim line := by
  rw [Text.trim, Text.trim, h.trimLeft_eq]

/-- A line that is indented anew is wider by the factor. -/
theorem length_indentation (h : Reindents k line other) :
    (indentation other).length = k * (indentation line).length := by
  obtain ⟨blanks, rfl, hblank, hlength⟩ := h.eq
  have hstart : ∀ c ∈ (Text.trimLeft line).head?, Text.isBlank c = false := by
    intro c hc
    have hnot := List.head?_dropWhile_not Text.isBlank line
    rw [Text.trimLeft, Option.mem_def] at hc
    rwa [hc] at hnot
  rw [indentation_append hblank, indentation_of_start hstart, List.append_nil, hlength]

/-- Whether a line continues another does not depend on its indentation. -/
theorem continues_eq (h : Reindents k line other) (expression : Text) :
    continues expression other = continues expression line := by
  rw [continues, continues, isMarkerLine, isMarkerLine, isAttributeLine, isAttributeLine,
    h.trimLeft_eq]

end Reindents

namespace ReindentsGroup

/-- A group that is indented anew is written as one line in the same way. -/
theorem merged_eq (h : ReindentsGroup k group others) : merged others = merged group := by
  obtain ⟨h, rest⟩ := h
  rw [merged, merged, List.map_cons, List.map_cons, h.trim_eq]

/-- A group that is indented anew has as many lines. -/
theorem length_eq (h : ReindentsGroup k group others) : others.length = group.length := by
  obtain ⟨-, rest⟩ := h
  rfl

/-- The lines still continue the first. -/
theorem continued (h : ReindentsGroup k group others) (hgroup : Continued group) :
    Continued others := by
  induction hgroup generalizing others with
  | single line =>
    obtain ⟨-, rest⟩ := h
    exact .single _
  | @concat group next hgroup hnext ih =>
    obtain ⟨first, rest, rfl⟩ := List.exists_cons_of_ne_nil hgroup.ne_nil
    rw [List.cons_append] at h
    obtain ⟨hfirst⟩ := h
    have hstart := ReindentsGroup.cons hfirst rest
    refine .concat (ih hstart) ?_
    rw [hstart.merged_eq]
    exact hnext

/-- The first line still does not continue another group. -/
theorem not_continues (h : ReindentsGroup k group others) {expression : Text}
    (hends : ∀ line ∈ group.head?, continues expression line = false) :
    ∀ line ∈ others.head?, continues expression line = false := by
  obtain ⟨h, rest⟩ := h
  intro line hline
  obtain rfl := Option.some.inj hline
  rw [h.continues_eq]
  exact hends _ rfl

end ReindentsGroup

/-- The lines of a group are taken one after the other. -/
theorem Continued.groupsFrom_eq (h : Continued group) {first : Text} {rest : List Text}
    (hgroup : group = first :: rest) (more : List Text) :
    groupsFrom [first] (rest ++ more) = groupsFrom group more := by
  induction h generalizing rest more with
  | single line =>
    obtain ⟨rfl, rfl⟩ := List.cons.inj hgroup
    rfl
  | @concat group next hstart hnext ih =>
    obtain ⟨head, tail, htail⟩ := List.exists_cons_of_ne_nil hstart.ne_nil
    rw [htail, List.cons_append, List.cons.injEq] at hgroup
    obtain ⟨rfl, rfl⟩ := hgroup
    rw [List.append_assoc, List.singleton_append, ih htail, groupsFrom, if_pos hnext]

/-- There is one cut of lines into groups only. -/
theorem Groups.eq_groups {all : List (List Text)} (h : Groups lines all) : groups lines = all := by
  induction all generalizing lines with
  | nil =>
    rw [← h.cut]
    rfl
  | cons group all ih =>
    obtain ⟨hgroup, hall⟩ := List.forall_mem_cons.mp h.continued
    obtain ⟨hends, hchain⟩ := List.isChain_cons.mp h.ends
    have hrest : groups all.flatten = all := ih ⟨rfl, hall, hchain⟩
    obtain ⟨first, rest, hfirst⟩ := List.exists_cons_of_ne_nil hgroup.ne_nil
    have hlines : lines = first :: (rest ++ all.flatten) := by
      rw [← h.cut, List.flatten_cons, hfirst, List.cons_append]
    rw [hlines, groups, hgroup.groupsFrom_eq hfirst]
    cases all with
    | nil => rfl
    | cons next all =>
      obtain ⟨second, more, hsecond⟩ :=
        List.exists_cons_of_ne_nil (hall next List.mem_cons_self).ne_nil
      have hnext : continues (merged group) second = false :=
        hends next rfl second (by rw [hsecond]; rfl)
      rw [List.flatten_cons, hsecond, List.cons_append] at hrest ⊢
      rw [groupsFrom, hnext, if_neg Bool.false_ne_true, ← hrest, groups]

/-- Groups that are indented anew are a cut of their lines. -/
theorem Groups.reindents {gs all : List (List Text)} (h : Groups lines gs)
    (hall : List.Forall₂ (ReindentsGroup k) gs all) : Groups all.flatten all := by
  induction hall generalizing lines with
  | nil => exact ⟨rfl, List.forall_mem_nil _, List.isChain_nil⟩
  | @cons group others gs all hgroup hall ih =>
    obtain ⟨hcontinued, hrest⟩ := List.forall_mem_cons.mp h.continued
    obtain ⟨hends, hchain⟩ := List.isChain_cons.mp h.ends
    have hmore := ih ⟨rfl, hrest, hchain⟩
    refine ⟨rfl, List.forall_mem_cons.mpr ⟨hgroup.continued hcontinued, hmore.continued⟩, ?_⟩
    refine List.isChain_cons.mpr ⟨?_, hmore.ends⟩
    cases hall with
    | nil => exact fun _ hnext => absurd hnext (Option.not_mem_none _)
    | cons hnext _ =>
      intro next hmem
      obtain rfl := Option.some.inj hmem
      rw [hgroup.merged_eq]
      exact hnext.not_continues (hends _ rfl)

/-- The logical lines have the numbers and texts that they had, and widths `k` times as large. -/
theorem ofGroups_reindents {gs all : List (List Text)}
    (h : List.Forall₂ (ReindentsGroup k) gs all) (before : Nat) :
    ofGroups before all = (ofGroups before gs).map (widened k) := by
  induction h generalizing before with
  | nil => rfl
  | cons hgroup _ ih =>
    rw [ofGroups, ofGroups, List.map_cons, ih, hgroup.merged_eq, hgroup.length_eq]
    obtain ⟨hline, rest⟩ := hgroup
    rw [List.headD_cons, hline.length_indentation]
    rfl

/-- The logical lines of a source that is indented anew are those of the source, wider by the
factor. -/
theorem ofLines_reindents {others : List Text} (h : ReindentsLines k lines others) (before : Nat) :
    ofLines before others = (ofLines before lines).map (widened k) := by
  obtain ⟨all, hall, rfl⟩ := h
  rw [ofLines_eq_ofGroups, ofLines_eq_ofGroups, ((groups_groups lines).reindents hall).eq_groups,
    ofGroups_reindents hall]

end LogicalLine

/-- The fault with widths `k` times as large. Levels stay as they are. -/
def Outline.Fault.widened (k : Nat) : Outline.Fault → Outline.Fault
  | .uneven width unit => .uneven (k * width) (k * unit)
  | fault => fault

/-- The kind of a fault does not depend on widths. -/
theorem Outline.Fault.kind?_widened (k : Nat) (fault : Outline.Fault) :
    (fault.widened k).kind? = fault.kind? := by
  cases fault <;> rfl

/-- The error with widths `k` times as large. -/
def TemplateError.widened (k : Nat) (error : TemplateError) : TemplateError :=
  { error with fault := error.fault.widened k }

/-- The node with a width `k` times as large. -/
def Node.widened (k : Nat) (node : Node) : Node := { node with indent := k * node.indent }

/-- The root has no width. -/
theorem Node.widened_root (k : Nat) : Node.root.widened k = Node.root := by
  simp only [Node.widened, Node.root, Int.mul_zero]

/-- A wider node renders alike. -/
theorem Node.rendersLike_widened (k : Nat) (node : Node) : node.RendersLike (node.widened k) :=
  ⟨rfl, rfl, rfl, .inl rfl⟩

namespace Tree

/-- Other widths are no other parents. -/
theorem parent_getElem?_widened (k : Nat) (nodes : Array Node) (j : Nat) :
    (nodes.map (Node.widened k))[j]?.bind Node.parent = nodes[j]?.bind Node.parent := by
  rw [Array.getElem?_map]
  cases nodes[j]? <;> rfl

/-- The tree with widths `k` times as large. -/
def widened (k : Nat) (tree : Tree) : Tree where
  nodes := tree.nodes.map (Node.widened k)
  childLists := tree.childLists
  size_childLists := tree.size_childLists.trans Array.size_map.symm
  listed i j := by rw [parent_getElem?_widened, tree.listed]
  ordered := tree.ordered

variable (k : Nat) (tree : Tree) (i : Nat)

/-- A wider tree has as many nodes. -/
@[simp] theorem size_widened : (tree.widened k).size = tree.size := Array.size_map

/-- The nodes of a wider tree are wider, and found at the same indices. -/
theorem get?_widened : (tree.widened k).get? i = (tree.get? i).map (Node.widened k) :=
  Array.getElem?_map

/-- The node at an index of a wider tree is wider. -/
theorem nodeAt_widened : (tree.widened k).nodeAt i = (tree.nodeAt i).widened k := by
  rw [nodeAt, nodeAt, get?_widened]
  cases tree.get? i with
  | none => exact (Node.widened_root k).symm
  | some node => rfl

/-- The nodes of a wider tree have the same content. -/
theorem contentAt_widened : (tree.widened k).contentAt i = tree.contentAt i := by
  rw [contentAt, nodeAt_widened]
  rfl

/-- The nodes of a wider tree have the same parents. -/
theorem parent?_widened : (tree.widened k).parent? i = tree.parent? i :=
  parent_getElem?_widened k tree.nodes i

/-- The nodes of a wider tree are in the same filters. -/
theorem topOf?_widened : (tree.widened k).topOf? i = tree.topOf? i := by
  rw [topOf?, topOf?, get?_widened]
  cases tree.get? i <;> rfl

/-- The nodes of a wider tree have the same children. -/
theorem children_widened : (tree.widened k).children i = tree.children i := rfl

/-- The nodes of a wider tree have the same nodes above them. -/
theorem ancestors_widened : (tree.widened k).ancestors i = tree.ancestors i := by
  induction i using Nat.strong_induction_on with
  | _ i ih =>
    rw [ancestors, ancestors, parent?_widened]
    cases tree.parent? i with
    | none => rfl
    | some p =>
      dsimp only
      split
      · rename_i hp
        rw [ih p hp]
      · rfl

/-- The nodes of a wider tree are inside of raw text as before. -/
theorem insideRaw_widened : (tree.widened k).insideRaw i = tree.insideRaw i := by
  rw [insideRaw, insideRaw, ancestors_widened]
  simp only [contentAt_widened]

/-- A node that is added to a tree is wider with it. -/
theorem add_widened (node : Node) :
    (tree.add node).widened k = (tree.widened k).add (node.widened k) := by
  refine Tree.ext Array.map_push ?_
  change link tree.childLists node.parent tree.nodes.size =
    link tree.childLists node.parent (tree.nodes.map (Node.widened k)).size
  rw [Array.size_map]

/-- Without filters a tree renders as it does with other widths. -/
theorem mirrors_widened {tree : Tree} (h : ∀ i < tree.size, (tree.contentAt i).isFilter = false) :
    tree.Mirrors (tree.widened k) id (· < tree.size) where
  node i _ := by
    rw [id, nodeAt_widened]
    exact Node.rendersLike_widened k _
  children i _ _ := by rw [id, children_widened, List.map_id]
  closed i _ _ c hc := (lt_of_mem_children hc).2
  filter i kind hi hkind := by
    have hfilter := h i hi
    rw [hkind] at hfilter
    cases hfilter

end Tree

namespace Nesting

variable {k : Nat} {n m : Nesting} {line : LogicalLine} {lines : List LogicalLine}

/-- The nesting with unit and widths `k` times as large. -/
def widened (k : Nat) (n : Nesting) : Nesting := ⟨n.tree.widened k, k * n.unit, n.parents⟩

/-- A run starts without widths. -/
theorem widened_start (k : Nat) : start.widened k = start := by
  have htree : Template.start.tree.widened k = Template.start.tree := by
    change (Tree.empty.add Node.root).widened k = Tree.empty.add Node.root
    have hempty : Tree.empty.widened k = Tree.empty := Tree.ext Array.map_empty rfl
    rw [Tree.add_widened, Node.widened_root, hempty]
  simp only [widened, start, htree, Nat.mul_zero]

/-- A wider run has the same last node. -/
theorem last_widened (k : Nat) (n : Nesting) : (n.widened k).last = n.last := by
  rw [last, last, widened, Tree.size_widened]

/-- A wider run is at the same level. -/
theorem level_widened (k : Nat) (n : Nesting) : (n.widened k).level = n.level := rfl

/-- A wider run has the same innermost parent. -/
theorem parent_widened (k : Nat) (n : Nesting) : (n.widened k).parent = n.parent := rfl

section Positive

variable (hk : 0 < k)
include hk

/-- A wider run measures a wider line with a wider unit. -/
theorem unitAt_widened (n : Nesting) (width : Nat) :
    (n.widened k).unitAt (k * width) = k * n.unitAt width := by
  rw [unitAt, unitAt, widened]
  by_cases hu : n.unit = 0
  · have hwide : k * n.unit = 0 := by rw [hu, Nat.mul_zero]
    rw [if_pos hu, if_pos hwide]
  · rw [if_neg hu, if_neg (Nat.mul_ne_zero hk.ne' hu)]

/-- A wider line is at the same level of a wider run. -/
theorem levelAt_widened (n : Nesting) (width : Nat) :
    (n.widened k).levelAt (k * width) = n.levelAt width := by
  rw [levelAt, unitAt_widened hk, Nat.mul_div_mul_left _ _ hk, levelAt]

/-- A wider run moves to a wider width as the run moves to the width. -/
theorem moveTo_widened (n : Nesting) (width : Nat) :
    (n.widened k).moveTo (k * width) = (n.moveTo width).widened k := by
  rw [moveTo, unitAt_widened hk, levelAt_widened hk, last_widened, level_widened]
  rfl

/-- A line is refused for the same fault, widths apart. -/
theorem fault?_widened (n : Nesting) (width : Nat) :
    (n.widened k).fault? (k * width) = (n.fault? width).map (Outline.Fault.widened k) := by
  have hmod : k * width % (k * n.unitAt width) ≠ 0 ↔ width % n.unitAt width ≠ 0 := by
    rw [Nat.mul_mod_mul_left, ne_eq, Nat.mul_eq_zero, not_or]
    exact and_iff_right hk.ne'
  rw [fault?, fault?, unitAt_widened hk, levelAt_widened hk, last_widened, level_widened]
  simp only [hmod, widened, Tree.insideRaw_widened, Tree.size_widened]
  split_ifs
  · rw [Int.natCast_mul, Int.natCast_mul]
    rfl
  all_goals rfl

end Positive

/-- The node of a wider line is wider. -/
theorem lineNode_widened (k : Nat) (n : Nesting) (line : LogicalLine) :
    (n.widened k).lineNode (line.widened k) = (n.lineNode line).widened k := by
  rw [lineNode, lineNode, parent_widened, level_widened]
  simp only [widened, Tree.nodeAt_widened, Tree.topOf?_widened, LogicalLine.widened, Node.widened,
    Int.natCast_mul]
  rfl

/-- The node of a blank line is wider. -/
theorem blankNode_widened (k : Nat) (n : Nesting) (top : Nat) :
    (n.widened k).blankNode top = (n.blankNode top).widened k := by
  rw [blankNode, blankNode, parent_widened, level_widened]
  simp only [widened, Tree.nodeAt_widened, Node.widened, Int.mul_zero]
  rfl

/-- A node that is added to a run is wider with it. -/
theorem add_widened (k : Nat) (n : Nesting) (node : Node) :
    (n.add node).widened k = (n.widened k).add (node.widened k) := by
  rw [add, widened, Tree.add_widened]
  rfl

/-- A step of a wider run over a wider line is a wider step. -/
theorem step_widened (hk : 0 < k) (h : n.step line = .ok m) :
    (n.widened k).step (line.widened k) = .ok (m.widened k) := by
  have htop : (n.widened k).tree.topOf? (n.widened k).last = n.tree.topOf? n.last := by
    rw [last_widened]
    exact Tree.topOf?_widened k n.tree n.last
  obtain ⟨he, ht, rfl⟩ | ⟨he, top, ht, rfl⟩ | ⟨hne, hf, rfl⟩ := step_cases h
  · rw [step, if_pos (show (line.widened k).expression = [] from he), htop, ht]
  · rw [step, if_pos (show (line.widened k).expression = [] from he), htop, ht]
    dsimp only
    rw [blankNode_widened, ← add_widened]
  · have hfault : (n.widened k).fault? (line.widened k).indent = none := by
      rw [LogicalLine.widened, fault?_widened hk, hf]
      rfl
    rw [step, if_neg (show (line.widened k).expression ≠ [] from hne), hfault]
    dsimp only
    rw [add_widened, ← lineNode_widened, ← moveTo_widened hk]
    rfl

/-- A step of a wider run fails at a wider line as the step does. -/
theorem step_widened_error (hk : 0 < k) {error : TemplateError} (h : n.step line = .error error) :
    (n.widened k).step (line.widened k) = .error (error.widened k) := by
  obtain ⟨hne, hfault, hline⟩ := step_eq_error_iff.mp h
  refine step_eq_error_iff.mpr ⟨hne, ?_, hline⟩
  rw [LogicalLine.widened, fault?_widened hk, hfault]
  rfl

/-- Lines with widths `k` times as large give the same nesting, widths apart, or the same error. -/
theorem foldlM_widened (hk : 0 < k) (lines : List LogicalLine) (n : Nesting) :
    (∀ m, lines.foldlM step n = .ok m →
      (lines.map (LogicalLine.widened k)).foldlM step (n.widened k) = .ok (m.widened k)) ∧
    ∀ error, lines.foldlM step n = .error error →
      (lines.map (LogicalLine.widened k)).foldlM step (n.widened k) = .error (error.widened k) := by
  induction lines generalizing n with
  | nil =>
    constructor
    · intro m hm
      rw [← Except.ok.inj hm]
      rfl
    · intro error he
      cases he
  | cons line lines ih =>
    rw [List.map_cons, List.foldlM_cons, List.foldlM_cons]
    cases hstep : n.step line with
    | error error =>
      rw [step_widened_error hk hstep]
      constructor
      · intro m hm
        cases hm
      · intro other he
        rw [← Except.error.inj he]
        rfl
    | ok next =>
      rw [step_widened hk hstep]
      exact ih next

/-- A run over wider lines gives the wider result, or fails with the wider fault. -/
theorem run_widened (hk : 0 < k) (lines : List LogicalLine) :
    (∀ m, run lines = .ok m → run (lines.map (LogicalLine.widened k)) = .ok (m.widened k)) ∧
    ∀ error, run lines = .error error →
      run (lines.map (LogicalLine.widened k)) = .error (error.widened k) := by
  have hfold := foldlM_widened hk lines start
  rwa [widened_start] at hfold

end Nesting

open LogicalLine (ReindentsLines)

/-- Only how widths relate to each other matters. Where the indentation of each logical line is
replaced by blanks of any kind, `k` times as many, a template without filters compiles to the same
code, or is refused with an error of the same kind on the same line. -/
theorem compile_reindented {k : Nat} (hk : 0 < k) {source other : Text}
    (h : ReindentsLines k (Text.splitLines source) (Text.splitLines other))
    (hplain : ∀ tree, Template.parse source = .ok tree →
      ∀ i < tree.size, (tree.contentAt i).isFilter = false)
    (options : Options) (name nameSpace : Text) :
    ((∃ tree, Template.parse source = .ok tree) ∧ (∃ tree, Template.parse other = .ok tree) ∧
      compile options other name nameSpace = compile options source name nameSpace) ∨
    ∃ error error', compile options source name nameSpace = .error (.template error) ∧
      compile options other name nameSpace = .error (.template error') ∧
      error.fault.kind?.isSome = true ∧ error'.fault.kind? = error.fault.kind? ∧
      error'.line = error.line := by
  have hlines := LogicalLine.ofLines_reindents h 0
  obtain ⟨hok, herror⟩ := Nesting.run_widened hk (LogicalLine.ofLines 0 (Text.splitLines source))
  rw [← hlines] at hok herror
  cases hparse : Template.parse source with
  | error error =>
    have hother := Nesting.build_eq_error_iff.mpr
      (herror error (Nesting.build_eq_error_iff.mp hparse))
    refine .inr ⟨error, error.widened k, ?_, ?_, Template.isSome_kind? hparse,
      Outline.Fault.kind?_widened k _, rfl⟩
    · rw [compile, hparse]
      rfl
    · rw [compile, Template.parse, Template.parseLines, hother]
      rfl
  | ok tree =>
    obtain ⟨n, hn, rfl⟩ := Nesting.exists_run hparse
    have hother : Template.parse other = .ok (n.tree.widened k) :=
      Nesting.build_eq_ok_iff.mpr ⟨n.widened k, hok n hn, rfl⟩
    refine .inl ⟨⟨_, rfl⟩, ⟨_, hother⟩, ?_⟩
    have hrooted := (Nesting.reads_run hn).1.rooted
    have hrooted' : (n.tree.widened k).Rooted := (Nesting.reads_run (hok n hn)).1.rooted
    exact compile_eq_of_mirrors hparse hother hrooted hrooted'
      (Tree.mirrors_widened k (hplain n.tree hparse)) hrooted.size_pos rfl options name nameSpace

/-- Attributes over two physical lines, code below them, and a comment with a line that skips
levels. -/
def spacedList : Text :=
  "%ul\x7b'a': 1,\n 'b': 2\x7d\n  - for i in x:\n    %li= i\n\n  / c\n        d".toList

/-- The same with twice as many tabs and spaces. The continued line stays as it is. -/
def tabbedList : Text :=
  ("%ul\x7b'a': 1,\n 'b': 2\x7d\n\t \t - for i in x:\n        %li= i\n\n" ++
    "\t\t\t\t/ c\n\t               d").toList

open LogicalLine (Reindents ReindentsGroup indentation groups) in
/-- Units of two spaces and of four blanks that differ from line to line give the same code. -/
theorem compile_reindented_tabbedList :
    ReindentsLines 2 (Text.splitLines spacedList) (Text.splitLines tabbedList) ∧
    compile {} tabbedList "t".toList "HAML".toList =
      compile {} spacedList "t".toList "HAML".toList ∧
    (compile {} spacedList "t".toList "HAML".toList).isOk = true := by
  have hline (line blanks : Text) (hall : blanks.all Text.isBlank = true)
      (hlength : blanks.length = 2 * (indentation line).length) (rest : List Text) :
      ReindentsGroup 2 (line :: rest) ((blanks ++ Text.trimLeft line) :: rest) :=
    .cons ⟨blanks, rfl, List.all_eq_true.mp hall, hlength⟩ rest
  have hgroups : groups (Text.splitLines spacedList) =
      [["%ul\x7b'a': 1,".toList, " 'b': 2\x7d".toList], ["  - for i in x:".toList],
        ["    %li= i".toList], [[]], ["  / c".toList], ["        d".toList]] := by
    decide +kernel
  have hlines : ReindentsLines 2 (Text.splitLines spacedList) (Text.splitLines tabbedList) := by
    rw [ReindentsLines, hgroups]
    refine ⟨_, .cons (hline _ [] rfl rfl _) (.cons (hline _ "\t \t ".toList rfl rfl _)
      (.cons (hline _ "        ".toList rfl rfl _) (.cons (hline _ [] rfl rfl _)
      (.cons (hline _ "\t\t\t\t".toList rfl rfl _)
      (.cons (hline _ "\t               ".toList rfl rfl _) .nil))))), ?_⟩
    decide +kernel
  have hok : (compile {} spacedList "t".toList "HAML".toList).isOk = true := by decide +kernel
  have hparse : Template.parse spacedList = .ok (Template.treeOf (Text.splitLines spacedList)) := by
    decide +kernel
  have hnone : ((List.range (Template.treeOf (Text.splitLines spacedList)).size).all fun i =>
      !((Template.treeOf (Text.splitLines spacedList)).contentAt i).isFilter) = true := by
    decide +kernel
  have hplain : ∀ tree, Template.parse spacedList = .ok tree →
      ∀ i < tree.size, (tree.contentAt i).isFilter = false := by
    intro tree htree i hi
    rw [hparse] at htree
    obtain rfl := Except.ok.inj htree
    simpa using List.all_eq_true.mp hnone i (List.mem_range.mpr hi)
  refine ⟨hlines, ?_, hok⟩
  obtain ⟨-, -, heq⟩ | ⟨error, -, herror, -⟩ :=
    compile_reindented (by decide) hlines hplain {} "t".toList "HAML".toList
  · exact heq
  · rw [herror] at hok
    cases hok

end Haml
