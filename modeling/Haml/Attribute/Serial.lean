import Haml.Attribute.Basic
import Haml.Fragment
import Haml.Html.Escape
import Haml.Literal.Read
import Haml.Options

/-!
# Serialised attributes

The fragments that an element's attributes contribute to its start tag: the id, then the class, then
all others in source order. Literal values are evaluated here; any other value becomes an escaped
expression. Values given for the id are joined by underscores, those for the class by spaces.
-/

namespace Haml.Attribute

open Literal (Value Fault SetOrder)

/-- The texts that a literal value adds to the class: those of its true items for a list or tuple,
its own when it is true, none otherwise. -/
def classTexts (order : SetOrder) : Value → Except Fault (List CodeText)
  | .list items | .tuple items => (items.filter Value.truthy).mapM (Literal.shown order)
  | v => if v.truthy then do return [← Literal.shown order v] else .ok []

/-- Class values told apart: texts known now and expressions evaluated at run time. -/
structure ClassValues where
  /-- Texts known at compile time. -/
  static : List CodeText
  /-- Expressions evaluated at run time. -/
  dynamic : List Text

/-- The class values with one more value expression. -/
def ClassValues.add (order : SetOrder) (values : ClassValues) (value : Text) :
    Except Fault ClassValues := do
  match ← Literal.read value with
  | some literal => return { values with static := values.static ++ (← classTexts order literal) }
  | none => return { values with dynamic := values.dynamic ++ [value] }

/-- The run-time values of a class, a space before each but the first when nothing is static. -/
def dynamicClass (spaced : Bool) : List Text → List Fragment
  | [] => []
  | value :: rest =>
    (if spaced then [.text [' ']] else []) ++ .escaped value :: dynamicClass true rest

/-- The class attribute, absent when there is no class. -/
def classFragments (order : SetOrder) (shorthand values : List Text) :
    Except Fault (List Fragment) := do
  let classes ← values.foldlM (ClassValues.add order) ⟨shorthand.map Text.codes, []⟩
  if classes.static.isEmpty && classes.dynamic.isEmpty then return []
  else
    let known := List.intercalate (Text.codes [' ']) classes.static
    return .literal (Text.codes " class=\"".toList ++ Html.escapeCodes known) ::
      dynamicClass (!classes.static.isEmpty) classes.dynamic ++ [.text ['"']]

/-- The id parts with one more value expression; a literal that counts as false adds nothing. -/
def addIdPart (order : SetOrder) (parts : List Fragment) (value : Text) :
    Except Fault (List Fragment) := do
  let joined := if parts.isEmpty then parts else parts ++ [.text ['_']]
  match ← Literal.read value with
  | some literal =>
    if literal.truthy then
      return joined ++ [.literal (Html.escapeCodes (← Literal.shown order literal))]
    else return parts
  | none => return joined ++ [.escaped value]

/-- The id attribute, absent when there is no id. -/
def idFragments (order : SetOrder) (shorthand : Option Text) (values : List Text) :
    Except Fault (List Fragment) := do
  let start : List Fragment :=
    match shorthand with
    | some (c :: rest) => [.text (Html.escape (c :: rest))]
    | _ => []
  let parts ← values.foldlM (addIdPart order) start
  if parts.isEmpty then return []
  else return .text " id=\"".toList :: parts ++ [.text ['"']]

/-- An attribute other than id and class. A true flag is written by its name, a false or missing one
not at all. -/
def otherFragments (options : Options) (given : Attribute) : Except Fault (List Fragment) := do
  let start := ' ' :: given.name ++ "=\"".toList
  match ← Literal.read given.value with
  | none => return [.text start, .escaped given.value, .text ['"']]
  | some (.bool true) =>
    if options.format == .xhtml then return [.text (start ++ given.name ++ ['"'])]
    else return [.text (' ' :: given.name)]
  | some (.bool false) | some .none => return []
  | some literal =>
    let shown ← Literal.shown options.setOrder literal
    return [.literal (Text.codes start ++ Html.escapeCodes shown ++ Text.codes ['"'])]

/-- The values of the attributes of a name. -/
def valuesOf (name : Text) (attributes : List Attribute) : List Text :=
  (attributes.filter (·.name == name)).map (·.value)

/-- The fragments of id, class and the remaining attributes, in that order. -/
def serialise (options : Options) (id : Option Text) (classes : List Text)
    (attributes : List Attribute) : Except Fault (List Fragment) := do
  let idPart ← idFragments options.setOrder id (valuesOf "id".toList attributes)
  let classPart ← classFragments options.setOrder classes (valuesOf "class".toList attributes)
  let others := attributes.filter fun given =>
    given.name != "id".toList && given.name != "class".toList
  let rest ← others.mapM (otherFragments options)
  return idPart ++ classPart ++ rest.flatten

end Haml.Attribute
