import Haml.Text.Quoted

/-!
# Texts of values

The text of an evaluated literal is a list of code points. It can hold single surrogates, which an
escape can write and which are no characters. Every `Text` is such a list by `Text.codes`, and
`CodeText.quote` agrees with `Text.quote` on those.
-/

namespace Haml

/-- A code point of a value's text. -/
inductive CodePoint where
  | char (c : Char)
  /-- The surrogate with the code `0xD800 + offset`. -/
  | surrogate (offset : Fin 0x800)
deriving DecidableEq, Repr

namespace CodePoint

/-- The number of a code point. -/
def toNat : CodePoint → Nat
  | char c => c.toNat
  | surrogate offset => 0xD800 + offset

/-- The code point of a number; nothing beyond the last one. -/
def ofNat? (n : Nat) : Option CodePoint :=
  if n.isValidChar then some (char (Char.ofNat n))
  else if h : 0xD800 ≤ n ∧ n < 0xE000 then some (surrogate ⟨n - 0xD800, by omega⟩)
  else none

/-- The written form of a code point inside quotes `mark`. -/
def escape (mark : Char) : CodePoint → Text
  | char c => Text.escapeChar mark c
  | surrogate offset => Text.escapeCode (0xD800 + offset)

end CodePoint

/-- The text of a value. -/
abbrev CodeText := List CodePoint

/-- A text as the text of a value. -/
def Text.codes (t : Text) : CodeText := t.map .char

namespace CodeText

/-- The text of a list of code point numbers, if each is one. -/
def ofNats? (numbers : List Nat) : Option CodeText := numbers.mapM CodePoint.ofNat?

/-- Single quotes, unless the text holds a single quote and no double quote. -/
def quoteMark (t : CodeText) : Char :=
  if t.contains (.char '\'') && !t.contains (.char '"') then '"' else '\''

/-- The quoted form of a text. -/
def quote (t : CodeText) : Text :=
  let mark := quoteMark t
  mark :: (t.flatMap (CodePoint.escape mark) ++ [mark])

end CodeText

end Haml
