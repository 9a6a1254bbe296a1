import Haml.Text.Printable

/-!
# Quoted text

A text between quotes, with escapes for the quote, the backslash, line ends, tabs and characters
that are not printable. `quote` writes the form that generated code holds.
-/

namespace Haml.Text

/-- The lower case hexadecimal digits of a number, at least `width` of them. -/
def hex (width n : Nat) : Text :=
  let digits := Nat.toDigits 16 n
  List.replicate (width - digits.length) '0' ++ digits

/-- A code point by its number: two, four or eight hexadecimal digits. -/
def escapeCode (n : Nat) : Text :=
  if n < 0x100 then '\\' :: 'x' :: hex 2 n
  else if n < 0x10000 then '\\' :: 'u' :: hex 4 n
  else '\\' :: 'U' :: hex 8 n

/-- The written form of a character inside quotes `mark`. -/
def escapeChar (mark c : Char) : Text :=
  if c == mark || c == '\\' then ['\\', c]
  else if c == '\n' then ['\\', 'n']
  else if c == '\r' then ['\\', 'r']
  else if c == '\t' then ['\\', 't']
  else if isPrintable c then [c]
  else escapeCode c.toNat

/-- Single quotes, unless the text holds a single quote and no double quote. -/
def quoteMark (t : Text) : Char :=
  if t.contains '\'' && !t.contains '"' then '"' else '\''

/-- The quoted form of a text. -/
def quote (t : Text) : Text :=
  let mark := quoteMark t
  mark :: (t.flatMap (escapeChar mark) ++ [mark])

/-- The written form of a byte inside quotes `mark`. -/
def escapeByte (mark : Char) (b : UInt8) : Text :=
  let c := Char.ofNat b.toNat
  if c == mark || c == '\\' then ['\\', c]
  else if c == '\n' then ['\\', 'n']
  else if c == '\r' then ['\\', 'r']
  else if c == '\t' then ['\\', 't']
  else if 0x20 ≤ b.toNat && b.toNat < 0x7F then [c]
  else '\\' :: 'x' :: hex 2 b.toNat

/-- The quoted form of a byte string. -/
def quoteBytes (bytes : List UInt8) : Text :=
  let mark := quoteMark (bytes.map fun b => Char.ofNat b.toNat)
  'b' :: mark :: (bytes.flatMap (escapeByte mark) ++ [mark])

/-- The value of a hexadecimal digit of either case. -/
def hexValue? (c : Char) : Option Nat :=
  if c.isDigit then some (c.toNat - 48)
  else if 'a' ≤ c ∧ c ≤ 'f' then some (c.toNat - 87)
  else if 'A' ≤ c ∧ c ≤ 'F' then some (c.toNat - 55)
  else none

/-- Whether a character is an octal digit. -/
def isOctal (c : Char) : Bool := '0' ≤ c && c ≤ '7'

/-- The number written by exactly `count` hexadecimal digits at the start of a text. -/
def hexNumber? (count : Nat) (t : Text) : Option Nat :=
  let digits := t.take count
  if digits.length < count then none
  else digits.foldl (fun n c => do return 16 * (← n) + (← hexValue? c)) (some 0)

end Haml.Text
