import Haml.Attribute.Serial
import Haml.Options
import Haml.Tree

/-!
# Statements of the generated function

A branch of the tree becomes a list of statements, each at a code level: output lines made of
fragments, statements taken over from the template, the lines of a `python` filter, and `pass` for a
block that would be empty. `Statement.text` writes one statement as a line of code.
-/

namespace Haml

open Literal (Fault)

/-- What a statement does. -/
inductive Action where
  /-- Append one output line. -/
  | output (line : List Fragment)
  /-- Run a statement of the template. -/
  | run (code : Text)
  /-- Run a line of a `python` filter, indented further by its own indentation. -/
  | raw (pad : Nat) (code : Text)
  /-- Do nothing, where a block needs a statement. -/
  | pass
deriving DecidableEq, Repr

/-- A statement at its code level. -/
structure Statement where
  /-- How many blocks deep it is. -/
  level : Nat
  /-- What it does. -/
  action : Action
deriving DecidableEq, Repr

/-- One level of indentation in the generated code. -/
def codeIndent : Text := "    ".toList

/-- One level of indentation in the output. -/
def htmlIndent : Text := "  ".toList

/-- The code of an action. -/
def Action.text : Action → Text
  | output line => "o.append(".toList ++ Fragment.toExpression line ++ [')']
  | run code => code
  | raw pad code => List.replicate pad ' ' ++ code
  | pass => "pass".toList

/-- A statement as a line of code. -/
def Statement.text (s : Statement) : Text :=
  Text.times s.level codeIndent ++ s.action.text ++ ['\n']

namespace Node

/-- The indentation of a node's output, some levels further in. -/
def margin (node : Node) (extra : Nat) : Text :=
  Text.times (node.outputLevel + extra).toNat htmlIndent

/-- The number of blocks around a node's statements. -/
def blocks (node : Node) : Nat := node.codeLevel.toNat

/-- An output line of a node. -/
def push (node : Node) (line : List Fragment) : Statement := ⟨node.blocks, .output line⟩

/-- An output line of fixed text, some levels further in. -/
def pushText (node : Node) (extra : Nat) (text : Text) : Statement :=
  node.push [.text (node.margin extra ++ text)]

/-- An output line of fragments after the indentation, some levels further in. -/
def pushLine (node : Node) (extra : Nat) (line : List Fragment) : Statement :=
  node.push (.text (node.margin extra) :: line)

/-- The output of a text line. A backslash at its start makes a marker plain text and is dropped,
unless it belongs to an interpolation. -/
def textStatements (options : Options) (node : Node) : List Statement :=
  let text :=
    match node.expression with
    | '\\' :: rest => if List.isPrefixOf "#\x7b".toList rest then node.expression else rest
    | text => text
  [node.pushLine 0 (Fragment.interpolate options.escapeHtml text)]

/-- The statement of a code line itself: none for an empty statement. -/
def codeStatements (options : Options) (node : Node) (code : Code) : List Statement :=
  match code.marker with
  | .statement => if code.code.isEmpty then [] else [⟨node.blocks, .run code.code⟩]
  | .escaped => [node.pushLine 0 [.ofValue options.escapeHtml code.code]]
  | .unescaped => [node.pushLine 0 [.plain code.code]]

/-- A block below a code line: a block that renders nothing gets a statement that does nothing. -/
def codeBody (node : Node) (hasChildren : Bool) (body : List Statement) : List Statement :=
  if hasChildren && body.isEmpty then [⟨(node.codeLevel + 1).toNat, .pass⟩] else body

end Node

namespace Comment

/-- The start of a comment in the output. -/
def opening (comment : Comment) : Text :=
  match comment.condition with
  | some (c :: rest) => "<!--".toList ++ c :: rest ++ ['>']
  | _ => "<!--".toList

/-- The end of a comment in the output. -/
def closing (comment : Comment) : Text :=
  match comment.condition with
  | some (_ :: _) => "<![endif]-->".toList
  | _ => "-->".toList

/-- A comment on one line. -/
def inline (comment : Comment) : Text :=
  if comment.text.isEmpty then comment.opening ++ comment.closing
  else comment.opening ++ ' ' :: comment.text ++ ' ' :: comment.closing

/-- The output before the lines below a comment. -/
def openStatements (comment : Comment) (node : Node) : List Statement :=
  node.pushText 0 comment.opening ::
    (if comment.text.isEmpty then [] else [node.pushText 1 comment.text])

end Comment

namespace Element

/-- The fragments of the content on an element's own line. -/
def inlineContent (options : Options) (element : Element) : List Fragment :=
  match element.marker with
  | some .escaped => [.ofValue options.escapeHtml element.content]
  | some .unescaped => [.plain element.content]
  | none => Fragment.interpolate options.escapeHtml element.content

/-- The end tag. -/
def endTag (element : Element) : Text := "</".toList ++ element.tag ++ ['>']

/-- The output at the start of an element: the whole element if it has nothing below it. -/
def openStatements (options : Options) (element : Element) (node : Node) (hasChildren : Bool) :
    Except Fault (List Statement) := do
  let attributes ← Attribute.serialise options element.id element.classes element.attributes
  let start := .text (node.margin 0 ++ '<' :: element.tag) :: attributes
  if element.selfClosing then
    let close := if options.format == .xhtml then " />".toList else ['>']
    return [node.push (start ++ [.text close])]
  else if !hasChildren then
    return [node.push
      (start ++ [.text ['>']] ++ inlineContent options element ++ [.text element.endTag])]
  else
    return node.push (start ++ [.text ['>']]) ::
      (if element.content.isEmpty then [] else [node.pushLine 1 (inlineContent options element)])

/-- The output at the end of an element. -/
def closeStatements (element : Element) (node : Node) (hasChildren : Bool) : List Statement :=
  if element.selfClosing || !hasChildren then [] else [node.pushText 0 element.endTag]

end Element

namespace Markup

/-- The declaration of a document type line. In xhtml `xml` asks for a prolog with an encoding;
elsewhere it declares nothing. -/
def declaration (format : Format) (name : Text) : Text :=
  match Text.words name with
  | word :: more =>
    if Text.fold word == "xml".toList then
      if format == .xhtml then
        "<?xml version='1.0' encoding='".toList ++ more.headD "utf-8".toList ++ "' ?>".toList
      else []
    else format.doctype name
  | [] => format.doctype name

/-- The output at the start of a markup line. -/
def openStatements (options : Options) (markup : Markup) (node : Node) (hasChildren : Bool) :
    Except Fault (List Statement) :=
  match markup with
  | .doctype name =>
    let line := declaration options.format name
    .ok (if line.isEmpty then [] else [node.pushText 0 line])
  | .literal text => .ok [node.pushLine 0 (Fragment.interpolate false text)]
  | .element e => e.openStatements options node hasChildren

/-- The output at the end of a markup line. -/
def closeStatements (markup : Markup) (node : Node) (hasChildren : Bool) : List Statement :=
  match markup with
  | .element e => e.closeStatements node hasChildren
  | _ => []

end Markup

/-- A content line of a filter. -/
structure FilterText where
  /-- Its indentation beyond that of the shallowest content line. -/
  indent : Nat
  /-- The line without indentation; empty for a blank line. -/
  text : Text
deriving DecidableEq, Repr

namespace FilterText

/-- The least of the widths; zero for none. -/
def least : List Int → Int
  | [] => 0
  | n :: rest => rest.foldl min n

/-- The width that the content lines of nodes have at least. -/
def base (nodes : List Node) : Int :=
  least ((nodes.filter fun node => !node.expression.isEmpty).map (·.indent))

/-- The content line of a node, with its indentation beyond a width. -/
def ofNode (base : Int) (node : Node) : FilterText :=
  if node.expression.isEmpty then ⟨0, []⟩ else ⟨(node.indent - base).toNat, node.expression⟩

/-- A content line has the text of its node. -/
theorem text_ofNode (base : Int) (node : Node) : (ofNode base node).text = node.expression := by
  rw [ofNode]
  split
  · rename_i h
    exact (List.isEmpty_iff.mp h).symm
  · rfl

/-- The content lines of nodes in the order of their creation, blank ones at the end dropped. -/
def ofNodes (nodes : List Node) : List FilterText :=
  ((nodes.map (ofNode (base nodes))).reverse.dropWhile (·.text.isEmpty)).reverse

/-- The text of a line with its indentation. -/
def indented (line : FilterText) : Text := List.replicate line.indent ' ' ++ line.text

/-- What stands between preserved lines. -/
def separator : Text := "&#x000A;".toList

/-- The text that is read for preserved lines. -/
def preserved (lines : List FilterText) : Text := List.intercalate separator (lines.map indented)

end FilterText

/-- Literal text escaped, expressions as they are. -/
def Fragment.escapeLiteral : Fragment → Fragment
  | .literal t => .literal (Html.escapeCodes t)
  | f => f

namespace FilterKind

/-- The output of one content line. -/
def contentStatement (node : Node) (extra : Nat) (escape : Bool) (line : FilterText) : Statement :=
  if line.text.isEmpty then node.push []
  else
    let fragments := Fragment.interpolate escape line.text
    let fragments := if escape then fragments.map Fragment.escapeLiteral else fragments
    node.push (.text (node.margin extra ++ List.replicate line.indent ' ') :: fragments)

/-- The output of the content lines. -/
def contentStatements (node : Node) (extra : Nat) (escape : Bool) (lines : List FilterText) :
    List Statement :=
  lines.map (contentStatement node extra escape)

/-- Content between two lines of text. -/
def wrapped (node : Node) (before after : Text) (body : List Statement) : List Statement :=
  node.pushText 0 before :: body ++ [node.pushText 0 after]

/-- Content of a script or style element, hidden from parsers of xhtml. -/
def embedded (format : Format) (node : Node) (lines : List FilterText) (before after : Text) :
    List Statement :=
  let body := contentStatements node 1 false lines
  if format == .xhtml then node.pushText 1 before :: body ++ [node.pushText 1 after] else body

/-- The statements of a filter. -/
def statements (format : Format) (node : Node) (lines : List FilterText) :
    FilterKind → List Statement
  | plain => contentStatements node 0 false lines
  | escaped => contentStatements node 0 true lines
  | preserve => [node.pushLine 0 (Fragment.interpolate false (FilterText.preserved lines))]
  | cdata =>
    wrapped node "<![CDATA[".toList "]]>".toList (contentStatements node 1 false lines)
  | css =>
    let start := if format == .html5 then "<style>" else "<style type=\"text/css\">"
    wrapped node start.toList "</style>".toList
      (embedded format node lines "/*<![CDATA[*/".toList "/*]]>*/".toList)
  | javascript =>
    let start := if format == .html5 then "<script>" else "<script type=\"text/javascript\">"
    wrapped node start.toList "</script>".toList
      (embedded format node lines "//<![CDATA[".toList "//]]>".toList)
  | python =>
    (lines.filter fun line => !line.text.isEmpty).map fun line =>
      ⟨node.blocks, .raw line.indent line.text⟩

end FilterKind

namespace Branch

/-- The content lines below a filter, in the order of their creation. -/
def filterLines (children : List Branch) : List FilterText :=
  let nodes := (nodesOfAll children).mergeSort fun a b => a.1 ≤ b.1
  FilterText.ofNodes (nodes.map (·.2))

mutual

/-- The statements of a branch. -/
def statements (options : Options) : Branch → Except Fault (List Statement)
  | mk _ node children =>
    match node.content with
    | .root => statementsOfAll options children
    | .text => do return node.textStatements options ++ (← statementsOfAll options children)
    | .code code => do
      let body ← statementsOfAll options children
      return node.codeStatements options code ++ node.codeBody (!children.isEmpty) body
    | .comment comment =>
      if comment.silent then .ok []
      else if children.isEmpty then .ok [node.pushText 0 comment.inline]
      else do
        let body ← statementsOfAll options children
        return comment.openStatements node ++ body ++ [node.pushText 0 comment.closing]
    | .markup markup => do
      let start ← markup.openStatements options node (!children.isEmpty)
      let body ← statementsOfAll options children
      return start ++ body ++ markup.closeStatements node (!children.isEmpty)
    | .filter (.body _) => .ok []
    | .filter (.header kind) => .ok (kind.statements options.format node (filterLines children))

/-- The statements of several branches, one after the other. -/
def statementsOfAll (options : Options) : List Branch → Except Fault (List Statement)
  | [] => .ok []
  | branch :: rest => do return (← statements options branch) ++ (← statementsOfAll options rest)

end

mutual

/-- How deep the rendering of a branch nests: a line of code takes three steps to the lines below
it, a comment two, and any other line one. What is below a filter or a silent comment is not
rendered by itself. -/
def reach : Branch → Nat
  | mk _ node children =>
    match node.content with
    | .root | .text | .markup _ => reachOfAll children + 1
    | .code _ => if children.isEmpty then 1 else reachOfAll children + 3
    | .comment comment => if comment.silent then 1 else reachOfAll children + 2
    | .filter _ => 1

/-- How deep the rendering of several branches nests. -/
def reachOfAll : List Branch → Nat
  | [] => 0
  | branch :: rest => max (reach branch) (reachOfAll rest)

end

/-- How deep rendering may nest. -/
def maxReach : Nat := 985

/-- The generated code of a branch. -/
def code (options : Options) (branch : Branch) : Except Fault Text := do
  return (← branch.statements options).flatMap Statement.text

end Branch

end Haml
