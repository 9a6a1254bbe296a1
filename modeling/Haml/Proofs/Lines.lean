import Haml.Proofs.LogicalLine
import Haml.Proofs.OutlineRefinement

/-!
# What a run reads off the lines

The nodes that are not blank are the lines that are not blank, in order and with their widths. The
unit is the first width that is not zero, and the level is the last line's width in units. None of
these depends on blank lines.
-/

namespace Haml

namespace LogicalLine

variable {line : LogicalLine}

/-- The lines that are not blank. -/
def significant (lines : List LogicalLine) : List LogicalLine :=
  lines.filter fun line => !line.expression.isEmpty

/-- The first width that is not zero among the lines that are not blank; zero if there is none. -/
def unitOf (lines : List LogicalLine) : Nat :=
  (((significant lines).map indent).find? fun width => width != 0).getD 0

/-- The lines that are not blank are found part by part. -/
theorem significant_append (lines more : List LogicalLine) :
    significant (lines ++ more) = significant lines ++ significant more := List.filter_append ..

/-- A blank line is left out. -/
theorem significant_concat_blank (lines : List LogicalLine) (he : line.expression = []) :
    significant (lines ++ [line]) = significant lines := by
  rw [significant_append]
  simp [significant, he]

/-- A line that is not blank is kept. -/
theorem significant_concat_line (lines : List LogicalLine) (hne : line.expression ≠ []) :
    significant (lines ++ [line]) = significant lines ++ [line] := by
  rw [significant_append]
  simp [significant, hne]

/-- The unit is fixed by the first lines that have one. -/
theorem unitOf_append (lines more : List LogicalLine) :
    unitOf (lines ++ more) = if unitOf lines = 0 then unitOf more else unitOf lines := by
  rw [unitOf, unitOf, unitOf, significant_append, List.map_append, List.find?_append]
  cases hf : ((significant lines).map indent).find? fun width => width != 0 with
  | none => simp
  | some width =>
    have hne : width ≠ 0 := by simpa using List.find?_some hf
    simp [hne]

/-- A single line sets the unit to its width. -/
theorem unitOf_singleton (hne : line.expression ≠ []) : unitOf [line] = line.indent := by
  by_cases hz : line.indent = 0 <;> simp [unitOf, significant, hne, hz]

end LogicalLine

/-- The nodes that stand for lines that are not blank. -/
def Tree.lines (tree : Tree) : List Node :=
  tree.nodes.toList.filter fun node => !node.expression.isEmpty

/-- A further node is a further line unless it is blank. -/
theorem Tree.lines_add (tree : Tree) (node : Node) :
    (tree.add node).lines = tree.lines ++ if node.expression = [] then [] else [node] := by
  rw [lines, add, Array.toList_push, List.filter_append, lines]
  by_cases he : node.expression = [] <;> simp [he]

namespace Nesting

open LogicalLine (significant unitOf)

variable {n m : Nesting} {line : LogicalLine} {lines : List LogicalLine}

/-- What a nesting shows of the lines it was made from. -/
structure Reads (n : Nesting) (lines : List LogicalLine) : Prop where
  /-- The nodes are the lines, in order. -/
  nodes : n.tree.lines.map (fun node => (node.indent, node.expression)) =
    (significant lines).map fun line => ((line.indent : Int), line.expression)
  /-- The unit is the first width. -/
  unit : n.unit = unitOf lines
  /-- The level is that of the last line. -/
  width : ∀ line ∈ (significant lines).getLast?, n.unit * n.level = line.indent
  /-- There are nodes below the root exactly when there are lines. -/
  fresh : n.tree.size = 1 ↔ significant lines = []

/-- At the start no lines have been read. -/
theorem reads_start : start.Reads [] := ⟨rfl, rfl, nofun, ⟨fun _ => rfl, fun _ => rfl⟩⟩

namespace Reads

/-- A blank line shows nowhere. -/
theorem blank (h : n.Reads lines) (he : line.expression = []) : n.Reads (lines ++ [line]) := by
  have hsig := LogicalLine.significant_concat_blank lines he
  refine ⟨?_, ?_, ?_, ?_⟩
  · rw [hsig]
    exact h.nodes
  · rw [unitOf, hsig]
    exact h.unit
  · rw [hsig]
    exact h.width
  · rw [hsig]
    exact h.fresh

/-- A blank line in a filter is not read as a line. -/
theorem add_blank (hs : n.Sound) (h : n.Reads lines) {top : Int}
    (ht : n.tree.topOf? n.last = some top) : (n.add (n.blankNode top.toNat)).Reads lines := by
  have hpos := hs.rooted.size_pos
  have hne := hs.size_ne_one_of_filter ht
  refine ⟨?_, h.unit, h.width, ?_⟩
  · have he : (n.blankNode top.toNat).expression = [] := rfl
    rw [tree_add, Tree.lines_add, if_pos he, List.append_nil]
    exact h.nodes
  · rw [tree_add, Tree.size_add, ← h.fresh]
    omega

/-- A further line is read as a line. -/
theorem add_line (hs : n.Sound) (h : n.Reads lines) (hne : line.expression ≠ [])
    (hf : n.fault? line.indent = none) :
    ((n.moveTo line.indent).add ((n.moveTo line.indent).lineNode line)).Reads
      (lines ++ [line]) := by
  have hpos := hs.rooted.size_pos
  have hsig := LogicalLine.significant_concat_line lines hne
  have hnew : ((n.moveTo line.indent).lineNode line).expression ≠ [] := hne
  refine ⟨?_, ?_, ?_, ?_⟩
  · rw [tree_add, tree_moveTo, Tree.lines_add, if_neg hnew, hsig, List.map_append, List.map_append,
      h.nodes]
    rfl
  · rw [LogicalLine.unitOf_append, LogicalLine.unitOf_singleton hne, ← h.unit]
    rfl
  · intro other ho
    rw [hsig, List.getLast?_concat] at ho
    obtain rfl : line = other := Option.some.inj ho
    exact width_moveTo hf
  · rw [tree_add, tree_moveTo, Tree.size_add, hsig]
    constructor
    · intro hone
      omega
    · intro hnil
      simp at hnil

/-- A step reads a line. -/
theorem step (hs : n.Sound) (h : n.Reads lines) (hm : n.step line = .ok m) :
    m.Reads (lines ++ [line]) := by
  obtain ⟨he, -, rfl⟩ | ⟨he, top, ht, rfl⟩ | ⟨hne, hf, rfl⟩ := step_cases hm
  · exact h.blank he
  · exact (h.add_blank hs ht).blank he
  · exact h.add_line hs hne hf

end Reads

/-- A source that is accepted has a run. -/
theorem exists_run {source : Text} {tree : Tree} (h : Template.parse source = .ok tree) :
    ∃ n, run (Template.logicalLines source) = .ok n ∧ n.tree = tree := build_eq_ok_iff.mp h

/-- A run reads all lines. -/
theorem reads_run (h : run lines = .ok n) : n.Sound ∧ n.Reads lines :=
  run_induction reads_start (fun _ _ _ _ hs hr => hr.step hs) h

end Nesting

end Haml
