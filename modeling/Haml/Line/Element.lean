import Haml.Attribute.Basic
import Haml.Format

/-!
# Element lines

An element line is a tag with shorthands for id and classes, attribute lists, an optional slash for
an element without content, and content on the same line: text, or code after `=` or `!=`.
-/

namespace Haml

/-- How the content on an element's own line is produced. -/
inductive ContentMarker where
  /-- `=`: the value of code, escaped when escaping is on. -/
  | escaped
  /-- `!=`: the value of code, never escaped. -/
  | unescaped
deriving DecidableEq, Repr

/-- An element as its line describes it. -/
structure Element where
  /-- The tag name. -/
  tag : Text
  /-- The id given by shorthand; the last one counts. -/
  id : Option Text
  /-- The classes given by shorthand. -/
  classes : List Text
  /-- The attributes of all lists on the line. -/
  attributes : List Attribute
  /-- Whether the element has no end tag. -/
  selfClosing : Bool
  /-- The content on the line. -/
  content : Text
  /-- How the content is produced; text when absent. -/
  marker : Option ContentMarker
deriving DecidableEq, Repr

namespace Element

/-- A shorthand for an id or a class. -/
inductive Shorthand where
  | id (name : Text)
  | cls (name : Text)
deriving DecidableEq, Repr

/-- The shorthand that a mark makes of a name. -/
def Shorthand.of (mark : Char) (name : Text) : Shorthand :=
  if mark == '#' then .id name else .cls name

/-- Whether a character starts a shorthand. -/
def isShorthandMark (c : Char) : Bool := c == '.' || c == '#'

/-- The shorthands at the start of a text. -/
def shorthands (t : Text) : List Shorthand :=
  match t with
  | [] => []
  | c :: rest =>
    if isShorthandMark c && rest.head?.any Text.isNameChar then
      .of c (rest.takeWhile Text.isNameChar) :: shorthands (rest.dropWhile Text.isNameChar)
    else []
termination_by t.length
decreasing_by
  have := Text.length_dropWhile_le Text.isNameChar rest
  simp only [List.length_cons]; omega

/-- The text after the shorthands at its start. -/
def afterShorthands (t : Text) : Text :=
  match t with
  | [] => []
  | c :: rest =>
    if isShorthandMark c && rest.head?.any Text.isNameChar then
      afterShorthands (rest.dropWhile Text.isNameChar)
    else c :: rest
termination_by t.length
decreasing_by
  have := Text.length_dropWhile_le Text.isNameChar rest
  simp only [List.length_cons]; omega

/-- The tag name after a percent sign at the start of a text. -/
def tag? (t : Text) : Option Text :=
  match t with
  | '%' :: rest =>
    if rest.head?.any Text.isTagChar then some (rest.takeWhile Text.isTagChar) else none
  | _ => none

/-- The text after the tag at its start. -/
def afterTag (t : Text) : Text :=
  match t with
  | '%' :: rest => if rest.head?.any Text.isTagChar then rest.dropWhile Text.isTagChar else t
  | _ => t

/-- The text after tag and shorthands. -/
def afterHead (t : Text) : Text := afterShorthands (afterTag t)

/-- Whether a text starts with a tag or a shorthand. -/
def hasHead (t : Text) : Bool := (tag? t).isSome || !(shorthands t).isEmpty

/-- Whether a text starts with the bracket of an attribute list. -/
def opensList (t : Text) : Bool := t.head?.any fun c => c == '\x7b' || c == '('

/-- The rest after a group is shorter than the line. -/
theorem length_rest_lt {t : Text} (h : (Bracket.splitBalanced t).group.isEmpty = false) :
    (Bracket.splitBalanced t).rest.length < t.length := by
  have hl := congrArg List.length (Bracket.splitBalanced_append t)
  have hg : 0 < (Bracket.splitBalanced t).group.length :=
    List.length_pos_iff.mpr (by simpa using h)
  simp only [List.length_append] at hl
  omega

/-- The attribute lists at the start of a text, up to the first one that is never closed. -/
def lists (t : Text) : List Text :=
  if opensList t && !(Bracket.splitBalanced t).group.isEmpty then
    (Bracket.splitBalanced t).group :: lists (Bracket.splitBalanced t).rest
  else []
termination_by t.length
decreasing_by exact length_rest_lt (by simp_all)

/-- The text after the attribute lists. -/
def afterLists (t : Text) : Text :=
  if opensList t && !(Bracket.splitBalanced t).group.isEmpty then
    afterLists (Bracket.splitBalanced t).rest
  else t
termination_by t.length
decreasing_by exact length_rest_lt (by simp_all)

/-- The name of the last id shorthand. -/
def lastId (all : List Shorthand) : Option Text :=
  all.foldl (fun last shorthand =>
    match shorthand with
    | .id name => some name
    | .cls _ => last) none

/-- The names of the class shorthands. -/
def classNames (all : List Shorthand) : List Text :=
  all.filterMap fun shorthand =>
    match shorthand with
    | .id _ => none
    | .cls name => some name

/-- The marker and content of what follows tag, attributes and slash. -/
def splitContent (t : Text) : Option ContentMarker × Text :=
  match t with
  | '!' :: '=' :: rest => (some .unescaped, Text.trim rest)
  | '=' :: rest => (some .escaped, Text.trim rest)
  | rest => (none, Text.trim rest)

/-- The element that a line describes. -/
def ofLine (line : Text) : Element :=
  let tag := (tag? line).getD "div".toList
  let names := shorthands (afterTag line)
  let rest := afterHead line
  let tail := afterLists rest
  let slash := tail.head? == some '/'
  let (marker, content) := splitContent (if slash then tail.drop 1 else tail)
  { tag := tag
    id := lastId names
    classes := classNames names
    attributes := (lists rest).flatMap Attribute.ofList
    selfClosing := slash || Format.voidElements.contains (Text.fold tag)
    content := content
    marker := marker }

/-- Whether a line starts with a tag or shorthand and its first attribute list is not closed. -/
def opensAttributeList (line : Text) : Bool :=
  hasHead line && opensList (afterHead line) &&
    (Bracket.splitBalanced (afterHead line)).group.isEmpty

end Element

end Haml
