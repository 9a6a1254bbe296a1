import Haml.Literal.Formatted
import Haml.Literal.Numeral
import Haml.Text.Blank
import Haml.Text.Identifier

/-!
# Tokens of expressions

The lexical level of the target language's expressions: numbers, quoted texts and bytes, names and
marks. Blanks, comments and joined lines vanish; outside brackets an ended line leaves a `newline`,
and an indented line is refused.
-/

namespace Haml.Literal

/-- A lexical unit of an expression. -/
inductive Token where
  | number (v : Value)
  | text (t : CodeText)
  | bytes (b : List UInt8)
  /-- A quoted text with fields to be filled in at run time, by the sources of the fields. -/
  | formatted (fields : List Text)
  | name (t : Text)
  | mark (t : Text)
  | newline

/-- The inside of a text in single quote marks, up to the closing one. A line end ends it only after
a backslash. -/
def quotedBody (mark : Char) : Text → Option (Scanned Text)
  | [] => none
  | '\\' :: c :: rest =>
    (quotedBody mark rest).map (·.prepend ['\\', c])
  | c :: rest =>
    if c == mark then some ⟨[], rest⟩
    else if c == '\n' || c == '\\' then none
    else (quotedBody mark rest).map (·.prepend [c])

/-- The inside of a text in tripled quote marks, up to the closing three. -/
def longQuotedBody (mark : Char) : Text → Option (Scanned Text)
  | [] => none
  | '\\' :: c :: rest =>
    (longQuotedBody mark rest).map (·.prepend ['\\', c])
  | c :: rest =>
    if c == mark && rest.take 2 == [mark, mark] then some ⟨[], rest.drop 2⟩
    else if c == '\\' then none
    else (longQuotedBody mark rest).map (·.prepend [c])

/-- What the letters before a quote mark say. -/
structure QuoteKind where
  /-- Bytes rather than text. -/
  isBytes : Bool
  /-- Backslashes stand for themselves. -/
  isRaw : Bool
  /-- Fields are filled in at run time. -/
  isFormatted : Bool

/-- The kind that the letters before a quote mark choose. -/
def QuoteKind.of? (letters : Text) : Option QuoteKind :=
  match letters.map Char.toLower with
  | [] | ['u'] => some ⟨false, false, false⟩
  | ['r'] => some ⟨false, true, false⟩
  | ['b'] => some ⟨true, false, false⟩
  | ['b', 'r'] | ['r', 'b'] => some ⟨true, true, false⟩
  | ['f'] => some ⟨false, false, true⟩
  | ['f', 'r'] | ['r', 'f'] => some ⟨false, true, true⟩
  | _ => none

/-- The token of a quoted form. Bytes are written in ASCII; a code above a byte wraps. -/
def QuoteKind.token? (kind : QuoteKind) (body : Text) : Option Token :=
  if kind.isFormatted then (fields? kind.isRaw body).map .formatted
  else if kind.isBytes then
    if body.any (·.toNat ≥ 128) then none
    else
      let codes := if kind.isRaw then some (body.map Char.toNat) else Text.unescape? false body
      codes.map fun codes => .bytes (codes.map UInt8.ofNat)
  else if kind.isRaw then some (.text (Text.codes body))
  else ((Text.unescape? true body).bind CodeText.ofNats?).map .text

/-- A quoted form that starts with its quote mark. -/
def quoted? (kind : QuoteKind) (mark : Char) (t : Text) : Option (Scanned Token) := do
  let body ←
    if t.take 2 == [mark, mark] then longQuotedBody mark (t.drop 2) else quotedBody mark t
  return ⟨← kind.token? body.found, body.rest⟩

/-- A name, or a quoted form with letters before its quote mark. Names beyond ASCII have to be
identifiers. -/
def word? (t : Text) : Option (Scanned Token) :=
  let letters := t.takeWhile isNameRest
  let rest := t.dropWhile isNameRest
  let name : Option (Scanned Token) :=
    if letters.all (·.toNat < 128) || Text.isIdentifier letters then some ⟨.name letters, rest⟩
    else none
  match rest with
  | mark :: more =>
    if isQuoteMark mark then
      match QuoteKind.of? letters with
      | some kind => quoted? kind mark more
      | none => name
    else name
  | [] => name

/-- The marks of more than one character, longer ones first. -/
def longMarks : List Text :=
  ["...".toList, "**=".toList, "//=".toList, ">>=".toList, "<<=".toList, "->".toList, ":=".toList,
   "!=".toList, "==".toList, "<=".toList, ">=".toList, "**".toList, "//".toList, "<<".toList,
   ">>".toList, "+=".toList, "-=".toList, "*=".toList, "/=".toList, "%=".toList, "&=".toList,
   "|=".toList, "^=".toList, "@=".toList]

/-- The marks of one character. -/
def shortMarks : Text := "()[]\x7b\x7d,:.;@=+-*/%&|^~<>".toList

/-- The longest mark at the start of a text. -/
def mark? (t : Text) : Option (Scanned Token) :=
  match longMarks.find? fun m => List.isPrefixOf m t with
  | some m => some ⟨.mark m, t.drop m.length⟩
  | none =>
    match t with
    | c :: rest => if shortMarks.contains c then some ⟨.mark [c], rest⟩ else none
    | [] => none

/-- The token at the start of a text that does not start with a blank. -/
def token? (t : Text) : Option (Scanned Token) :=
  match t with
  | [] => none
  | c :: rest =>
    if isQuoteMark c then quoted? ⟨false, false, false⟩ c rest
    else if c.isDigit || (c == '.' && rest.head?.any Char.isDigit) then
      (number? t).map (·.map .number)
    else if isNameRest c then word? t
    else mark? t

/-- The column of the first character of a line that is no blank. A form feed starts the column
anew; a joined line keeps the column of its first part that had one. -/
def column? (col joined : Nat) : Text → Option (Scanned Nat)
  | ' ' :: rest | '\t' :: rest => column? (col + 1) joined rest
  | '\x0c' :: rest => column? 0 joined rest
  | '\\' :: '\n' :: rest =>
    if rest.isEmpty then none else column? col (if joined == 0 then col else joined) rest
  | '\\' :: _ => none
  | rest => some ⟨if joined == 0 then col else joined, rest⟩

/-- The start of a line outside brackets: a line with a token has to start in the first column. -/
def lineStart? (t : Text) : Option Text := do
  let line ← column? 0 0 t
  match line.rest.head? with
  | some '\n' | some '#' | none => return line.rest
  | some _ => if line.found == 0 then return line.rest else none

/-- How the number of open brackets changes with a token. -/
def Token.nesting (depth : Nat) : Token → Nat
  | .mark ['('] | .mark ['['] | .mark ['\x7b'] => depth + 1
  | .mark [')'] | .mark [']'] | .mark ['\x7d'] => depth - 1
  | _ => depth

/-- The tokens of a text, `depth` brackets being open, and `begun` telling whether the line already
has a token. Every step shortens the text. -/
def lex (depth : Nat) (begun : Bool) (t : Text) : Option (List Token) :=
  match t with
  | [] => some []
  | c :: rest =>
    if c == ' ' || c == '\t' || c == '\x0c' then lex depth begun rest
    else if c == '#' then lex depth begun (rest.drop (rest.takeWhile (· != '\n')).length)
    else if c == '\\' then
      match rest with
      | '\n' :: d :: more => lex depth begun (d :: more)
      | _ => none
    else if c == '\n' then
      if depth > 0 then lex depth begun rest
      else
        match lineStart? rest with
        | none => none
        | some line =>
          if line.length ≤ rest.length then
            let tokens := lex 0 false line
            if begun then tokens.map (.newline :: ·) else tokens
          else none
    else
      match token? (c :: rest) with
      | none => none
      | some scanned =>
        if scanned.rest.length ≤ rest.length then
          (lex (scanned.found.nesting depth) true scanned.rest).map (scanned.found :: ·)
        else none
termination_by t.length
decreasing_by all_goals simp_all only [List.length_cons, List.length_drop]; omega

/-- The tokens of an expression. A text with a null character has none. -/
def tokens? (t : Text) : Option (List Token) := do
  if t.contains '\x00' then none
  lex 0 false (← lineStart? (Text.unifyLineEnds t))

end Haml.Literal
