import Haml.CharacterName.Table
import Haml.Text.Quoted

/-!
# Characters by name

The code point that a name stands for. Syllables and unified ideographs have systematic names, which
are read in capital letters only; all other names are looked up in the tables, in letters of either
case.
-/

namespace Haml.CharacterName

/-- The first letters of syllable names, in the order of the syllables. -/
def leadingLetters : List Text :=
  ["G", "GG", "N", "D", "DD", "R", "M", "B", "BB", "S", "SS", "", "J", "JJ", "C", "K", "T", "P",
   "H"].map String.toList

/-- The vowels of syllable names. -/
def vowelLetters : List Text :=
  ["A", "AE", "YA", "YAE", "EO", "E", "YEO", "YE", "O", "WA", "WAE", "OE", "YO", "U", "WEO", "WE",
   "WI", "YU", "EU", "YI", "I"].map String.toList

/-- The last letters of syllable names, which can be missing. -/
def trailingLetters : List Text :=
  ["", "G", "GG", "GS", "N", "NJ", "NH", "D", "L", "LG", "LM", "LB", "LS", "LT", "LP", "LH", "M",
   "B", "BS", "S", "SS", "NG", "J", "C", "K", "T", "P", "H"].map String.toList

/-- The number of a letter group in its row, and the text after it. -/
structure LetterGroup where
  /-- The number of the group. -/
  number : Nat
  /-- How many letters it has. -/
  size : Nat
deriving DecidableEq, Repr

/-- The longest group of a row that a text starts with, the first of several. -/
def longest? (row : List Text) (t : Text) : Option LetterGroup :=
  (row.zipIdx.filter fun group => List.isPrefixOf group.1 t).foldl (fun best group =>
    match best with
    | some found =>
      if group.1.length ≤ found.size then best else some ⟨group.2, group.1.length⟩
    | none => some ⟨group.2, group.1.length⟩) none

/-- The code point of a syllable by the letters of its name. -/
def syllable? (letters : Text) : Option Nat := do
  let leading ← longest? leadingLetters letters
  let letters := letters.drop leading.size
  let vowel ← longest? vowelLetters letters
  let letters := letters.drop vowel.size
  let trailing ← longest? trailingLetters letters
  if (letters.drop trailing.size).isEmpty then
    return 0xAC00 + (leading.number * 21 + vowel.number) * 28 + trailing.number
  else none

/-- The code points of the unified ideographs. -/
def ideographs : Ranges :=
  [(0x3400, 0x4DBF), (0x4E00, 0x9FFF), (0x20000, 0x2A6DF), (0x2A700, 0x2B738), (0x2B740, 0x2B81D),
   (0x2B820, 0x2CEA1), (0x2CEB0, 0x2EBE0), (0x30000, 0x3134A)]

/-- The code point of a unified ideograph by the digits of its name. -/
def ideograph? (digits : Text) : Option Nat :=
  if (digits.length == 4 || digits.length == 5) && digits.all (!·.isLower) then
    match Text.hexNumber? digits.length digits with
    | some code => if ideographs.contains code then some code else none
    | none => none
  else none

/-- The code point of the character with a name. -/
def find? (name : Text) : Option Nat :=
  match List.isPrefixOf? "HANGUL SYLLABLE ".toList name with
  | some letters => syllable? letters
  | none =>
    match List.isPrefixOf? "CJK UNIFIED IDEOGRAPH-".toList name with
    | some digits => ideograph? digits
    | none => code? (List.splitOn ' ' (name.map Char.toUpper))

end Haml.CharacterName
