import Haml.Text.Basic

/-!
# Blanks and line breaks

Blanks are the characters that separate words and make up indentation. Line breaks are the
characters that end a physical line; every line break is a blank except that some blanks, such as
the unit separator, end no line.
-/

namespace Haml.Text

/-- Characters that count as white space. -/
def isBlank (c : Char) : Bool :=
  let n := c.toNat
  (0x09 ≤ n && n ≤ 0x0D) || (0x1C ≤ n && n ≤ 0x20) || n == 0x85 || n == 0xA0 || n == 0x1680 ||
    (0x2000 ≤ n && n ≤ 0x200A) || n == 0x2028 || n == 0x2029 || n == 0x202F || n == 0x205F ||
    n == 0x3000

/-- Characters that end a physical line. -/
def isLineBreak (c : Char) : Bool :=
  let n := c.toNat
  (0x0A ≤ n && n ≤ 0x0D) || (0x1C ≤ n && n ≤ 0x1E) || n == 0x85 || n == 0x2028 || n == 0x2029

/-- The text without its leading blanks. -/
def trimLeft (t : Text) : Text := t.dropWhile isBlank

/-- The text without its trailing blanks. -/
def trimRight (t : Text) : Text := (t.reverse.dropWhile isBlank).reverse

/-- The text without its leading and trailing blanks. -/
def trim (t : Text) : Text := trimRight (trimLeft t)

/-- Whether a text has no character other than blanks. -/
def isAllBlank (t : Text) : Bool := t.all isBlank

/-- The maximal runs of characters that are not blank. -/
def words : Text → List Text
  | [] => []
  | c :: rest =>
    if isBlank c then words rest
    else
      match rest with
      | [] => [[c]]
      | d :: _ =>
        if isBlank d then [c] :: words rest
        else
          match words rest with
          | [] => [[c]]
          | word :: more => (c :: word) :: more

/-- The physical lines of a text. A carriage return with a line feed after it is one break, and a
break at the end starts no further line. -/
def splitLines : Text → List Text
  | [] => []
  | '\r' :: '\n' :: rest => [] :: splitLines rest
  | c :: rest =>
    if isLineBreak c then [] :: splitLines rest
    else
      match splitLines rest with
      | [] => [[c]]
      | line :: lines => (c :: line) :: lines

/-- Line ends in one form: a carriage return, with or without a line feed, becomes a line feed. -/
def unifyLineEnds : Text → Text
  | [] => []
  | '\r' :: '\n' :: rest => '\n' :: unifyLineEnds rest
  | c :: rest => (if c == '\r' then '\n' else c) :: unifyLineEnds rest

end Haml.Text
