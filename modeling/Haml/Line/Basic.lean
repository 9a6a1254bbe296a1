import Haml.Line.Element
import Haml.Text.Blank

/-!
# Kinds of lines

What a template line means: text, markup (an element, a document type or a literal line), code, a
comment, or a line of a filter. Each kind is read off the line's expression, the line without its
indentation.
-/

namespace Haml

/-- A document type, a line of unescaped text, or an element. -/
inductive Markup where
  | doctype (name : Text)
  | literal (text : Text)
  | element (element : Element)
deriving DecidableEq, Repr

/-- The name of a document type line: what stands on the line after three exclamation marks. -/
def Markup.doctype? (line : Text) : Option Text :=
  match line with
  | '!' :: '!' :: '!' :: rest =>
    let name := Text.trimLeft rest
    let visible := if name.getLast? == some '\n' then name.dropLast else name
    if visible.contains '\n' then none else some (Text.trim visible)
  | _ => none

/-- The markup of a line. -/
def Markup.ofLine (line : Text) : Markup :=
  match Markup.doctype? line with
  | some name => .doctype name
  | none =>
    match line with
    | '!' :: rest => .literal (Text.trimLeft rest)
    | _ => .element (Element.ofLine line)

/-- What happens to the code of a code line. -/
inductive CodeMarker where
  /-- `-`: a statement. -/
  | statement
  /-- `=`: its value is output, escaped when escaping is on. -/
  | escaped
  /-- `!=`: its value is output as it is. -/
  | unescaped
deriving DecidableEq, Repr

/-- The marker as it is written. -/
def CodeMarker.text : CodeMarker → Text
  | statement => ['-']
  | escaped => ['=']
  | unescaped => ['!', '=']

/-- A line of embedded code. -/
structure Code where
  /-- What happens to the code. -/
  marker : CodeMarker
  /-- The code. -/
  code : Text
deriving DecidableEq, Repr

/-- The code of a line; without a marker the line is a statement. -/
def Code.ofLine (line : Text) : Code :=
  match line with
  | '-' :: rest => ⟨.statement, Text.trim rest⟩
  | '!' :: '=' :: rest => ⟨.unescaped, Text.trim rest⟩
  | '=' :: rest => ⟨.escaped, Text.trim rest⟩
  | rest => ⟨.statement, Text.trim rest⟩

/-- A comment line. -/
structure Comment where
  /-- Whether nothing of the comment is output. -/
  silent : Bool
  /-- The bracketed condition of a conditional comment. -/
  condition : Option Text
  /-- The comment on the line itself. -/
  text : Text
deriving DecidableEq, Repr

/-- The bracketed condition at the start of a text. -/
def Comment.condition? (t : Text) : Option Text :=
  match t with
  | '[' :: rest =>
    if rest.contains ']' then some ('[' :: rest.takeWhile (· != ']') ++ [']']) else none
  | _ => none

/-- The comment after its marker. -/
def Comment.ofBody (silent : Bool) (body : Text) : Comment :=
  let condition := condition? body
  ⟨silent, condition, Text.trim (body.drop ((condition.map List.length).getD 0))⟩

/-- The comment of a line; without a marker all of it is the comment. -/
def Comment.ofLine (line : Text) : Comment :=
  match line with
  | '/' :: rest => ofBody false rest
  | '-' :: '#' :: rest => ofBody true rest
  | rest => ⟨false, none, Text.trim rest⟩

/-- What a filter makes of its lines. -/
inductive FilterKind where
  | escaped
  | preserve
  | css
  | javascript
  | plain
  | cdata
  | python
deriving DecidableEq, Repr

namespace FilterKind

/-- All filters. -/
def all : List FilterKind := [escaped, preserve, css, javascript, plain, cdata, python]

/-- The name after the colon. -/
def name : FilterKind → Text
  | escaped => "escaped".toList
  | preserve => "preserve".toList
  | css => "css".toList
  | javascript => "javascript".toList
  | plain => "plain".toList
  | cdata => "cdata".toList
  | python => "python".toList

/-- The filter that a line opens: a colon and a filter's name, with no word character after it. -/
def ofLine? (line : Text) : Option FilterKind :=
  match line with
  | ':' :: rest =>
    all.find? fun kind =>
      match List.isPrefixOf? kind.name rest with
      | some after => !(after.head?.any Text.isWord)
      | none => false
  | _ => none

end FilterKind

/-- A line of a filter: the one that opens it, or one of its content with a reference to the
former. -/
inductive FilterLine where
  | header (kind : FilterKind)
  | body (top : Int)
deriving DecidableEq, Repr

/-- The kinds of lines. -/
inductive Kind where
  | text
  | markup
  | code
  | comment
  | filter
deriving DecidableEq, Repr

namespace Kind

/-- The lower case name of a kind. -/
def name : Kind → Text
  | text => "text".toList
  | markup => "markup".toList
  | code => "code".toList
  | comment => "comment".toList
  | filter => "filter".toList

/-- Whether a line opens markup: a tag, a shorthand or an exclamation mark. -/
def isMarkupLine (line : Text) : Bool :=
  match line with
  | '%' :: c :: _ => Text.isTagChar c
  | '.' :: c :: _ | '#' :: c :: _ => Text.isNameChar c
  | '!' :: _ => true
  | _ => false

/-- Whether a line is a comment. -/
def isCommentLine (line : Text) : Bool :=
  match line with
  | '/' :: _ => true
  | '-' :: '#' :: _ => true
  | _ => false

/-- Whether a line is code. -/
def isCodeLine (line : Text) : Bool :=
  match line with
  | '-' :: _ => true
  | '=' :: _ => true
  | '!' :: '=' :: _ => true
  | _ => false

/-- The kind of a line outside of filters. A silent comment starts like code, and unescaped output
like markup, so the order of the tests matters. -/
def ofLine (line : Text) : Kind :=
  if (FilterKind.ofLine? line).isSome then .filter
  else if isCommentLine line then .comment
  else if isCodeLine line then .code
  else if isMarkupLine line then .markup
  else .text

end Kind

/-- The meaning of a tree node. -/
inductive Content where
  /-- The node that holds the lines without indentation. -/
  | root
  | text
  | markup (m : Markup)
  | code (c : Code)
  | comment (c : Comment)
  | filter (f : FilterLine)
deriving DecidableEq, Repr

namespace Content

/-- The kind of a node's line; the root has none. -/
def kind? : Content → Option Kind
  | root => none
  | text => some .text
  | markup _ => some .markup
  | code _ => some .code
  | comment _ => some .comment
  | filter _ => some .filter

/-- Whether the node is a line of a filter. -/
def isFilter : Content → Bool
  | filter _ => true
  | _ => false

/-- Whether the lines below the node may skip levels: filters and comments take any text. -/
def isRaw : Content → Bool
  | filter _ | comment _ => true
  | _ => false

/-- Whether the node is a line of code. -/
def isCode : Content → Bool
  | code _ => true
  | _ => false

/-- The content of a line of a kind. A filter line is content of the filter at `top` if there is
one, and opens a filter otherwise, a plain one if it names none. -/
def ofLine (kind : Kind) (top : Option Int) (line : Text) : Content :=
  match kind with
  | .text => .text
  | .markup => .markup (Markup.ofLine line)
  | .code => .code (Code.ofLine line)
  | .comment => .comment (Comment.ofLine line)
  | .filter =>
    match top with
    | some top => .filter (.body top)
    | none => .filter (.header ((FilterKind.ofLine? line).getD .plain))

end Content

end Haml
