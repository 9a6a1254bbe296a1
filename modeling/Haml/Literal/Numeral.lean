import Haml.Literal.Value
import Haml.Text.Scanned

/-!
# Numerals

Integers to four bases, floating-point numbers and imaginary numbers, with single underscores
between digits. A numeral ends where no character of a name follows, or where one of the words
follows that can stand right behind a number.
-/

namespace Haml.Literal

open Haml.Number (Double Magnitude)

/-- Whether a number or name goes on with the character. -/
def isNameRest (c : Char) : Bool := c.isAlphanum || c == '_' || c.toNat ≥ 128

/-- A run of digits with single underscores between them. -/
def digitRun (isDigit : Char → Bool) : Text → Scanned Text
  | [] => ⟨[], []⟩
  | c :: rest =>
    if isDigit c then (digitRun isDigit rest).prepend [c]
    else if c == '_' && (rest.head?.any isDigit) then digitRun isDigit rest
    else ⟨[], c :: rest⟩

/-- The number that digits denote to a base. -/
def digitsValue (base : Nat) (digits : Text) : Nat :=
  digits.foldl (fun n c => base * n + (Text.hexValue? c).getD 0) 0

/-- The base and digit class of a marked integer such as `0x1F`, by its second character. -/
def radix? (c : Char) : Option (Nat × (Char → Bool)) :=
  match c.toLower with
  | 'x' => some (16, fun d => (Text.hexValue? d).isSome)
  | 'o' => some (8, Text.isOctal)
  | 'b' => some (2, fun d => d == '0' || d == '1')
  | _ => none

/-- Whether a text starts with a word that ends there. -/
def startsWithWord (word t : Text) : Bool :=
  match List.isPrefixOf? word t with
  | some rest => !rest.head?.any isNameRest
  | none => false

/-- Whether a numeral can end before the text: no name goes on, or a word follows that needs no
blank before it. -/
def endsNumeral (t : Text) : Bool :=
  !t.head?.any isNameRest ||
    ["and", "else", "for", "or", "not"].any (startsWithWord ·.toList t) ||
    ["if", "in", "is"].any (List.isPrefixOf ·.toList t)

/-- The digits after a decimal point, if a point with or without digits follows. -/
def fraction? (t : Text) : Option (Scanned Text) :=
  match t with
  | '.' :: rest =>
    if rest.head?.any Char.isDigit then some (digitRun Char.isDigit rest) else some ⟨[], rest⟩
  | _ => none

/-- The exponent of a decimal number. The outer option is empty when an exponent is begun and has
no digits; the inner one is empty when there is none. -/
def exponent? (t : Text) : Option (Option (Scanned Int)) :=
  let digits (negative : Bool) (rest : Text) : Option (Option (Scanned Int)) :=
    if rest.head?.any Char.isDigit then
      let run := digitRun Char.isDigit rest
      let size : Int := digitsValue 10 run.found
      some (some ⟨if negative then -size else size, run.rest⟩)
    else none
  match t with
  | c :: rest =>
    if startsWithWord "else".toList t then some none
    else if c == 'e' || c == 'E' then
      match rest with
      | '-' :: more => digits true more
      | '+' :: more => digits false more
      | more => digits false more
    else some none
  | [] => some none

/-- A decimal integer, floating-point number or imaginary number. A decimal integer other than zero
starts with no zero, unless `else` follows, and has at most `Value.maxDigits` digits. -/
def decimal? (t : Text) : Option (Scanned Value) := do
  let whole := digitRun Char.isDigit t
  let fraction := fraction? whole.rest
  let rest := (fraction.map (·.rest)).getD whole.rest
  let exponent ← exponent? rest
  let rest := (exponent.map (·.rest)).getD rest
  let places := (fraction.map (·.found)).getD []
  let float : Double :=
    ⟨false, .ofDecimal (digitsValue 10 (whole.found ++ places))
      ((exponent.map (·.found)).getD 0 - places.length)⟩
  match rest with
  | c :: more =>
    if c == 'j' || c == 'J' then return ⟨.complex .zero float, more⟩
  | [] => pure ()
  if fraction.isSome || exponent.isSome then return ⟨.float float, rest⟩
  let value := digitsValue 10 whole.found
  if value != 0 && whole.found.head? == some '0' then
    if rest.head? == some 'e' then return ⟨.float float, rest⟩ else none
  else if value != 0 && whole.found.length > Value.maxDigits then none
  else return ⟨.int value, rest⟩

/-- A number at the start of a text. -/
def number? (t : Text) : Option (Scanned Value) := do
  let scanned ←
    match t with
    | '0' :: c :: rest =>
      match radix? c with
      | some (base, isDigit) =>
        let run := digitRun isDigit rest
        if run.found.isEmpty then none else some ⟨.int (digitsValue base run.found), run.rest⟩
      | none => decimal? t
    | _ => decimal? t
  if endsNumeral scanned.rest then some scanned else none

end Haml.Literal
