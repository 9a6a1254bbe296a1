import Haml.Tree

/-!
# The outline

Bookkeeping that turns the widths of indentation into levels and parents. The first change of width
fixes the unit for the rest of the template. Going deeper makes the last node the parent and keeps
the one before on a stack; going back takes parents off it. A step that fails leaves the state as
far as it had been changed.
-/

namespace Haml.Outline

/-- The state between two lines. Nodes are given by references to the tree. -/
structure State where
  /-- The width of the line at hand. -/
  currentIndent : Int := 0
  /-- The width of the line before. -/
  previousIndent : Int := 0
  /-- The width of one level; zero until the first change of width. -/
  unit : Int := 0
  /-- The level of the line at hand. -/
  currentLevel : Int := 0
  /-- The level of the line before. -/
  previousLevel : Int := 0
  /-- By how many levels the line at hand goes back. -/
  delta : Int := 0
  /-- The parents to return to, the innermost first. -/
  stack : List Int := []
  /-- The parent of the line at hand. -/
  parent : Int := 0
  /-- The node of the line before. -/
  node : Option Int := none
  /-- The code level of the line at hand. -/
  codeLevel : Int := 1
  /-- The number of the line at hand. -/
  line : Int := 0
deriving DecidableEq, Repr

/-- Why a step fails. The first three are errors of the template; the others cannot arise from a
template. -/
inductive Fault where
  /-- A width that is no multiple of the unit. -/
  | uneven (width unit : Int)
  /-- A line more than one level below the one before. -/
  | tooDeep (before after : Int)
  /-- An indented line with nothing above it. -/
  | orphan
  /-- A level asked for while the unit is unknown. -/
  | noUnit
  /-- More levels left than were entered. -/
  | emptyStack
  /-- A reference to a node that does not exist. -/
  | noNode
deriving DecidableEq, Repr

/-- The text of a fault, without its line. -/
def Fault.reason : Fault → Text
  | .uneven width unit =>
    "Indentation of ".toList ++ Text.ofInt width ++ " is not a multiple of ".toList ++
      Text.ofInt unit ++ ['.']
  | .tooDeep before after =>
    "Block level too deep, went from ".toList ++ Text.ofInt before ++ " to ".toList ++
      Text.ofInt after ++ ['.']
  | .orphan => "Indented line without a parent.".toList
  | .noUnit => "The width of a level is unknown.".toList
  | .emptyStack => "There is no level to return to.".toList
  | .noNode => "There is no such node.".toList

/-- The kinds of errors that a template can have. -/
inductive ErrorKind where
  /-- A width that fits no level. -/
  | indentation
  /-- A line too far below the one before. -/
  | blockTooDeep
deriving DecidableEq, Repr

/-- The name of a kind in a report. -/
def ErrorKind.name : ErrorKind → Text
  | indentation => "IndentationError".toList
  | blockTooDeep => "BlockTooDeepError".toList

/-- The kind of a fault; nothing when it is no error of the template. -/
def Fault.kind? : Fault → Option ErrorKind
  | .uneven _ _ | .orphan => some .indentation
  | .tooDeep _ _ => some .blockTooDeep
  | .noUnit | .emptyStack | .noNode => none

/-- The outcome of a step: the state it leaves, and the fault that stopped it. -/
structure Outcome where
  /-- The state after the step. -/
  state : State
  /-- Why the step stopped early. -/
  fault : Option Fault := none
deriving DecidableEq, Repr

namespace Outcome

/-- One step after another, unless the first has failed. -/
def andThen (outcome : Outcome) (step : State → Outcome) : Outcome :=
  match outcome.fault with
  | none => step outcome.state
  | some _ => outcome

/-- The state of a step that has not failed. -/
def toExcept (outcome : Outcome) : Except Fault State :=
  match outcome.fault with
  | none => .ok outcome.state
  | some fault => .error fault

end Outcome

namespace State

/-- Whether the width differs from the one before. -/
def indentChanged (s : State) : Bool := s.currentIndent != s.previousIndent

/-- Whether the line goes deeper. -/
def isIndent (s : State) : Bool := s.currentIndent > s.previousIndent

/-- The first change of width fixes the unit. -/
def updateUnit (s : State) : Outcome :=
  if s.unit == 0 then ⟨{ s with unit := (s.currentIndent - s.previousIndent).natAbs }, none⟩
  else ⟨s, none⟩

/-- The level follows from the width. It may rise by one only, except inside filters and
comments. -/
def updateLevel (tree : Tree) (s : State) : Outcome :=
  if s.unit == 0 then ⟨s, some .noUnit⟩
  else if s.currentIndent.fmod s.unit != 0 then ⟨s, some (.uneven s.currentIndent s.unit)⟩
  else
    let level := s.currentIndent.fdiv s.unit
    let s := { s with currentLevel := level }
    let done : Outcome := ⟨{ s with delta := s.previousLevel - level }, none⟩
    if s.previousLevel + 1 < level then
      match s.node with
      | none => ⟨s, some (.tooDeep s.previousLevel level)⟩
      | some node =>
        match (tree.index? node).bind tree.inRawBlock? with
        | none => ⟨s, some .noNode⟩
        | some true => done
        | some false => ⟨s, some (.tooDeep s.previousLevel level)⟩
    else done

/-- The node before becomes the parent. A line that goes several levels deeper at once puts the new
parent on the stack for each further level. -/
def pushParent (s : State) : Outcome :=
  match s.node with
  | none => ⟨s, some .orphan⟩
  | some node =>
    let padding := List.replicate (s.currentLevel - s.previousLevel - 1).toNat node
    ⟨{ s with stack := padding ++ s.parent :: s.stack, parent := node }, none⟩

/-- Parents are taken off the stack, one for each level. -/
def popLevels : Nat → State → Outcome
  | 0, s => ⟨s, none⟩
  | n + 1, s =>
    match s.stack with
    | [] => ⟨s, some .emptyStack⟩
    | parent :: stack => popLevels n { s with parent := parent, stack := stack }

/-- The line returns by as many levels as it goes back. -/
def popParent (s : State) : Outcome := popLevels s.delta.toNat s

/-- The parent after a change of width. -/
def updateParent (s : State) : Outcome := if s.isIndent then s.pushParent else s.popParent

/-- The code level follows from the parent. -/
def updateCodeLevel (tree : Tree) (s : State) : Outcome :=
  match tree.find? s.parent with
  | none => ⟨s, some .noNode⟩
  | some parent => ⟨{ s with codeLevel := parent.childCodeLevel }, none⟩

/-- A change of width: unit, level, parent and code level in turn. -/
def resolve (tree : Tree) (s : State) : Outcome :=
  s.updateUnit.andThen (updateLevel tree) |>.andThen updateParent |>.andThen (updateCodeLevel tree)

end State

end Haml.Outline
