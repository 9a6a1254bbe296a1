import Haml.Literal.Token

/-!
# Token trees

Tokens grouped by their brackets. Each closing bracket has to be the partner of the one it closes,
and brackets nest at most two hundred deep. The fields of a formatted text are token trees of their
own.
-/

namespace Haml.Literal

/-- A token, the items between a pair of brackets, or the items of each field of a formatted
text. -/
inductive Item where
  | token (t : Token)
  | group (bracket : Char) (items : List Item)
  | formatted (fields : List (List Item))

/-- The items of a row inside the open brackets `outer`, innermost first. Each open bracket comes
with the items before it, and `done` holds the items since; both are in reverse order. -/
def group? (outer : List (Char × List Item)) (done : List Item) : List Item → Option (List Item)
  | [] => if outer.isEmpty then some done.reverse else none
  | .token (.mark [c]) :: rest =>
    if isOpening c then
      if outer.length < maxNesting then group? ((c, done) :: outer) [] rest else none
    else if isClosing c then
      match outer with
      | (bracket, before) :: outer =>
        if closes bracket c then group? outer (.group bracket done.reverse :: before) rest else none
      | [] => none
    else group? outer (.token (.mark [c]) :: done) rest
  | item :: rest => group? outer (item :: done) rest

/-- Whether an item is the end of a line. -/
def Item.isNewline : Item → Bool
  | .token .newline => true
  | _ => false

/-- The items of a row, without the line end after the last of them. -/
def dropNewline (items : List Item) : List Item :=
  match items.getLast? with
  | some last => if last.isNewline then items.dropLast else items
  | none => items

/-- The source of a field in parentheses, inside which line ends and blanks do not count. -/
def fieldSource (field : Text) : Text := '(' :: field ++ [')']

/-- The items of a text, without the line end after the last of them. -/
def items? (t : Text) : Option (List Item) := do
  let row ← (← tokens? t).mapM fun token =>
    match token with
    | .formatted fields => do
      let inner ← fields.mapM fun field =>
        if (fieldSource field).length < t.length then items? (fieldSource field) else none
      return .formatted inner
    | token => some (.token token)
  return dropNewline (← group? [] [] row)
termination_by t.length

end Haml.Literal
