import Haml.Options
import Haml.Outline

/-!
# Templates

A template is a list of physical lines. Lines that continue an open attribute list are joined to the
line that opened it, and each logical line becomes a node of the tree, its place decided by the
outline. Blank lines are kept inside filters only.
-/

namespace Haml

/-- A logical line of a template. -/
structure LogicalLine where
  /-- The number of its first physical line. -/
  number : Nat
  /-- The width of its indentation. -/
  indent : Nat
  /-- The line without blanks around it, continuations joined. -/
  expression : Text
deriving DecidableEq, Repr

namespace LogicalLine

/-- The indentation of a physical line. -/
def indentation (line : Text) : Text := line.takeWhile Text.isBlank

/-- Characters that begin a line of their own rather than a continuation. -/
def isMarker (c : Char) : Bool := "-=&!~.%#</".toList.contains c

/-- Characters of an attribute name on a continuation line. -/
def isKeyChar (c : Char) : Bool := c == '@' || Text.isTagChar c

/-- Whether a text has a visible character. -/
def hasVisible (t : Text) : Bool := t.any fun c => !Text.isBlank c

/-- Whether a colon of the run, other than its first character, has a visible character after it.
The text after the run counts too. -/
def hasInnerColon (after : Text) : Text → Bool
  | [] => false
  | c :: rest => (c == ':' && hasVisible (rest ++ after)) || hasInnerColon after rest

/-- Whether a sign and a visible character follow. -/
def hasSign (t : Text) : Bool :=
  match Attribute.afterSign? t with
  | some rest => hasVisible rest
  | none => false

/-- Whether an equals sign and a visible character follow. -/
def hasEquals (t : Text) : Bool :=
  match Text.trimLeft t with
  | '=' :: rest => hasVisible rest
  | _ => false

/-- Whether a name, perhaps quoted, and a sign start the text: a colon inside the name, or a sign
after it. -/
def isHashEntry (t : Text) : Bool :=
  let start :=
    match t with
    | c :: rest => if Bracket.isQuote c then rest else t
    | [] => []
  let name := start.takeWhile isKeyChar
  let after := start.dropWhile isKeyChar
  let closed :=
    match after with
    | c :: rest => if Bracket.isQuote c then rest else after
    | [] => []
  !name.isEmpty && (hasInnerColon after (name.drop 1) || hasSign closed)

/-- Whether a name, an equals sign and a value start the text. -/
def isHtmlEntry (t : Text) : Bool :=
  !(t.takeWhile isKeyChar).isEmpty && hasEquals (t.dropWhile isKeyChar)

/-- Whether a physical line looks like further attributes. -/
def isAttributeLine (line : Text) : Bool :=
  let t := Text.trimLeft line
  isHashEntry t || isHtmlEntry t

/-- Whether a physical line begins with a marker. -/
def isMarkerLine (line : Text) : Bool := (Text.trimLeft line).head?.any isMarker

/-- Whether a physical line continues the open attribute list of an expression. -/
def continues (expression next : Text) : Bool :=
  Element.opensAttributeList expression && !isMarkerLine next && isAttributeLine next

/-- An expression with the lines that continue it. -/
structure Joined where
  /-- The joined expression. -/
  expression : Text
  /-- The lines after it. -/
  rest : List Text

/-- An expression joined with the lines that continue it. -/
def joinLines (expression : Text) : List Text → Joined
  | [] => ⟨expression, []⟩
  | next :: rest =>
    if continues expression next then joinLines (expression ++ ' ' :: Text.trim next) rest
    else ⟨expression, next :: rest⟩

/-- Joining takes lines from the front. -/
theorem length_rest_joinLines (expression : Text) (lines : List Text) :
    (joinLines expression lines).rest.length ≤ lines.length := by
  induction lines generalizing expression with
  | nil => simp [joinLines]
  | cons next rest ih =>
    simp only [joinLines]
    split
    · exact Nat.le_succ_of_le (ih _)
    · exact Nat.le_refl _

/-- The logical lines of a list of physical lines, of which `before` precede the first. -/
def ofLines (before : Nat) (lines : List Text) : List LogicalLine :=
  match lines with
  | [] => []
  | line :: rest =>
    let joined := joinLines (Text.trim line) rest
    ⟨before + 1, (indentation line).length, joined.expression⟩ ::
      ofLines (before + 1 + (rest.length - joined.rest.length)) joined.rest
termination_by lines.length
decreasing_by
  have := length_rest_joinLines (Text.trim line) rest
  simp only [List.length_cons]; omega

end LogicalLine

/-- The indentation and the expression of one physical line; nothing when the visible part of the
text has a line feed in it. -/
def splitLine? (line : Text) : Option (Text × Text) :=
  let visible := Text.trim line
  if visible.contains '\n' then none else some (LogicalLine.indentation line, visible)

/-- An error of the template: what is wrong and on which line. -/
structure TemplateError where
  /-- What is wrong. -/
  fault : Outline.Fault
  /-- The line, counted from one. -/
  line : Int
deriving DecidableEq, Repr

/-- The report of an error with its line. -/
def TemplateError.message (error : TemplateError) : Text :=
  "Haml Compile Error (Line ".toList ++ Text.ofInt error.line ++ "): ".toList ++ error.fault.reason

namespace Template

/-- The tree so far and the state of the outline. -/
structure Progress where
  /-- The tree so far. -/
  tree : Tree
  /-- The state of the outline. -/
  state : Outline.State
deriving DecidableEq, Repr

/-- The tree with the root alone. -/
def start : Progress := { tree := Tree.empty.add Node.root, state := {} }

/-- Whether the line before is a line of a filter. -/
def Progress.afterFilter (progress : Progress) : Bool :=
  ((progress.state.node.bind progress.tree.index?).bind progress.tree.topOf?).isSome

/-- The progress after a node for a line has been added. -/
def Progress.insert (progress : Progress) (line : Text) (indent : Nat) :
    Except Outline.Fault Progress :=
  let s := progress.state
  let added := do
    let parent ← progress.tree.index? s.parent
    progress.tree.insert? line (s.node.bind progress.tree.index?) parent
      ⟨s.currentLevel, s.codeLevel, indent⟩
  match added with
  | none => .error .noNode
  | some tree => .ok ⟨tree, { s with node := some progress.tree.size }⟩

/-- The outline after a line of some width. -/
def Progress.moveTo (progress : Progress) (indent : Nat) : Except Outline.Fault Progress :=
  let s := { progress.state with currentIndent := indent }
  if s.indentChanged then
    match (s.resolve progress.tree).toExcept with
    | .ok s => .ok { progress with state := s }
    | .error fault => .error fault
  else .ok { progress with state := s }

/-- One logical line. A blank one counts only after a filter line. -/
def Progress.step (progress : Progress) (line : LogicalLine) : Except TemplateError Progress :=
  let numbered := { progress with state := { progress.state with line := line.number } }
  let result : Except Outline.Fault Progress :=
    if line.expression.isEmpty then
      if numbered.afterFilter then numbered.insert [] 0 else .ok numbered
    else do
      let moved ← numbered.moveTo line.indent
      let added ← moved.insert line.expression line.indent
      return { added with state :=
        { added.state with
          previousLevel := added.state.currentLevel
          previousIndent := added.state.currentIndent } }
  result.mapError fun fault => ⟨fault, line.number⟩

/-- The tree of a list of logical lines. -/
def build (lines : List LogicalLine) : Except TemplateError Tree := do
  return (← lines.foldlM Progress.step start).tree

/-- The tree of a list of physical lines. -/
def parseLines (lines : List Text) : Except TemplateError Tree :=
  build (LogicalLine.ofLines 0 lines)

/-- The tree of a template, or the first error in it. -/
def parse (source : Text) : Except TemplateError Tree := parseLines (Text.splitLines source)

end Template

end Haml
