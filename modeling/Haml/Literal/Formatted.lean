import Haml.Text.Escaped
import Haml.Text.Scanned

/-!
# Formatted text

The inside of a quoted form whose fields are filled in at run time. A field is an expression in
braces, perhaps with a sign that shows its source, a conversion and a format, which can hold fields
itself. Doubled braces stand for themselves. `fields?` gives the sources of all expressions, and
nothing when the braces, escapes, conversions or formats are malformed.
-/

namespace Haml.Literal

/-- How deep brackets may nest. -/
def maxNesting : Nat := 200

/-- Whether a character opens a bracket. -/
def isOpening (c : Char) : Bool := c == '(' || c == '[' || c == '\x7b'

/-- Whether a character closes a bracket. -/
def isClosing (c : Char) : Bool := c == ')' || c == ']' || c == '\x7d'

/-- The partner of an opening bracket. -/
def closes (bracket c : Char) : Bool :=
  (bracket == '(' && c == ')') || (bracket == '[' && c == ']') ||
    (bracket == '\x7b' && c == '\x7d')

/-- Whether a character is a quote mark. -/
def isQuoteMark (c : Char) : Bool := c == '"' || c == '\''

/-- Characters that can end the expression of a field. -/
def isFieldSign (c : Char) : Bool := "!:\x7d=<>".toList.contains c

/-- Characters that an equals sign joins to an operator. -/
def joinsEquals (c : Char) : Bool := "!=<>".toList.contains c

/-- What surrounds a character inside the expression of a field. -/
inductive Context where
  /-- Brackets, the innermost first. -/
  | brackets (outer : List Char)
  /-- A quoted text inside brackets, in tripled quote marks or not. -/
  | quote (mark : Char) (tripled : Bool) (outer : List Char)

/-- The expression at the start of a text, up to the sign that ends it. Backslashes and comments are
refused, brackets have to match, and quoted texts have to end. -/
def fieldExpression? (context : Context) (t : Text) : Option (Scanned Text) :=
  match t with
  | [] => none
  | c :: rest =>
    if c == '\\' then none
    else
      match context with
      | .quote mark tripled outer =>
        if c != mark then (fieldExpression? context rest).map (·.prepend [c])
        else if !tripled then (fieldExpression? (.brackets outer) rest).map (·.prepend [c])
        else if rest.take 2 == [mark, mark] then
          (fieldExpression? (.brackets outer) (rest.drop 2)).map (·.prepend [c, c, c])
        else (fieldExpression? context rest).map (·.prepend [c])
      | .brackets outer =>
        if isQuoteMark c then
          if rest.take 2 == [c, c] then
            (fieldExpression? (.quote c true outer) (rest.drop 2)).map (·.prepend [c, c, c])
          else (fieldExpression? (.quote c false outer) rest).map (·.prepend [c])
        else if isOpening c then
          if outer.length < maxNesting then
            (fieldExpression? (.brackets (c :: outer)) rest).map (·.prepend [c])
          else none
        else if c == '#' then none
        else if outer.isEmpty && isFieldSign c then
          if joinsEquals c && rest.head? == some '=' then
            (fieldExpression? context (rest.drop 1)).map (·.prepend [c, '='])
          else if c == '<' || c == '>' then (fieldExpression? context rest).map (·.prepend [c])
          else some ⟨[], t⟩
        else if isClosing c then
          match outer with
          | bracket :: outer =>
            if closes bracket c then
              (fieldExpression? (.brackets outer) rest).map (·.prepend [c])
            else none
          | [] => none
        else (fieldExpression? context rest).map (·.prepend [c])
termination_by t.length
decreasing_by all_goals simp only [List.length_cons, List.length_drop]; omega

/-- A piece of literal text between two fields. -/
structure Piece where
  /-- The text with its escapes. -/
  text : Text
  /-- Whether a doubled brace ends it, rather than a field or the end. -/
  doubled : Bool

/-- The piece with characters before it. -/
def Piece.prepend (t : Text) (piece : Piece) : Piece := { piece with text := t ++ piece.text }

/-- The literal text up to the next brace. Inside a format braces are not doubled. The braces of a
named escape belong to the escape. Nothing when a closing brace stands alone outside a format. -/
def piece? (isRaw inFormat : Bool) (t : Text) : Option (Scanned Piece) :=
  let brace (before : Text) (c : Char) (rest : Text) : Option (Scanned Piece) :=
    if inFormat then some ⟨⟨before, false⟩, c :: rest⟩
    else if rest.head? == some c then some ⟨⟨before ++ [c], true⟩, rest.drop 1⟩
    else if c == '\x7d' then none
    else some ⟨⟨before, false⟩, c :: rest⟩
  match t with
  | [] => some ⟨⟨[], false⟩, []⟩
  | c :: rest =>
    if c == '\\' && !isRaw then
      match rest with
      | [] => some ⟨⟨[c], false⟩, []⟩
      | 'N' :: '\x7b' :: more =>
        let name := more.takeWhile (· != '\x7d')
        let tail := more.drop (name.length + 1)
        (piece? isRaw inFormat tail).map
          (·.map (·.prepend (c :: 'N' :: '\x7b' :: more.take (name.length + 1))))
      | 'N' :: d :: more =>
        (piece? isRaw inFormat more).map (·.map (·.prepend [c, 'N', d]))
      | d :: more =>
        if d == '\x7b' || d == '\x7d' then brace [c] d more
        else (piece? isRaw inFormat more).map (·.map (·.prepend [c, d]))
    else if c == '\x7b' || c == '\x7d' then brace [] c rest
    else (piece? isRaw inFormat rest).map (·.map (·.prepend [c]))
termination_by t.length
decreasing_by all_goals simp only [List.length_cons, List.length_drop]; omega

/-- Whether the escapes of a piece are well formed. -/
def Piece.isValid (isRaw : Bool) (piece : Piece) : Bool :=
  isRaw || (Text.unescape? true piece.text).any fun codes => codes.all (· < 0x110000)

/-- Whether an expression has more than the blanks that are skipped between tokens. -/
def hasSource (t : Text) : Bool :=
  t.any fun c => !(c == ' ' || c == '\t' || c == '\n' || c == '\x0c')

/-- Blanks after the sign that shows the source of an expression. -/
def isFieldBlank (c : Char) : Bool := c == ' ' || ('\t' ≤ c && c ≤ '\r')

/-- What follows the sign that shows the source of an expression, if there is one. -/
def afterEquals (t : Text) : Text :=
  match t with
  | '=' :: rest => rest.dropWhile isFieldBlank
  | _ => t

/-- What follows the conversion of a field, if there is one; nothing when there is no such
conversion. -/
def afterConversion? (t : Text) : Option Text :=
  match t with
  | '!' :: c :: rest => if c == 's' || c == 'r' || c == 'a' then some rest else none
  | '!' :: [] => none
  | _ => some t

/-- The sources of the fields of a text, `level` formats deep, up to its end or to the brace that
ends the format. The fuel bounds the number of pieces. -/
def fieldsAt? (fuel : Nat) (isRaw : Bool) (level : Nat) (t : Text) : Option (Scanned (List Text)) :=
  match fuel with
  | 0 => none
  | fuel + 1 => do
    let piece ← piece? isRaw (level > 0) t
    if !piece.found.isValid isRaw then none
    else if piece.found.doubled then fieldsAt? fuel isRaw level piece.rest
    else
      match piece.rest with
      | '\x7b' :: rest =>
        if level ≥ 2 then none
        else
          let expression ← fieldExpression? (.brackets []) rest
          if !hasSource expression.found then none
          else
            let rest ← afterConversion? (afterEquals expression.rest)
            let format : Scanned (List Text) ←
              match rest with
              | ':' :: rest => fieldsAt? fuel isRaw (level + 1) rest
              | rest => some ⟨[], rest⟩
            match format.rest with
            | '\x7d' :: rest =>
              let more ← fieldsAt? fuel isRaw level rest
              return more.map (expression.found :: format.found ++ ·)
            | _ => none
      | rest => return ⟨[], rest⟩

/-- The sources of all fields of a formatted text. -/
def fields? (isRaw : Bool) (t : Text) : Option (List Text) :=
  match fieldsAt? (t.length + 1) isRaw 0 t with
  | some ⟨fields, []⟩ => some fields
  | _ => none

end Haml.Literal
