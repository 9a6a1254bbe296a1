/-!
# Text

A text is the list of its characters, so that scanners are recursions over a list and laws about
them are laws about lists. This module holds the operations that every other module shares:
sets of characters given by ranges, replacing runs, the order of texts.
-/

namespace Haml

/-- A text is the list of its characters. -/
abbrev Text := List Char

/-- A set of code points given by inclusive ranges. -/
abbrev Ranges := List (Nat × Nat)

/-- Whether a code point lies in one of the ranges. -/
def Ranges.contains (ranges : Ranges) (n : Nat) : Bool :=
  ranges.any fun range => range.1 ≤ n && n ≤ range.2

namespace Text

/-- `n` copies of a text, one after the other. -/
def times (n : Nat) (t : Text) : Text := (List.replicate n t).flatten

/-- Each maximal run of characters of a class becomes one `mark`. -/
def replaceRuns (inRun : Char → Bool) (mark : Char) : Text → Text
  | [] => []
  | c :: rest =>
    if inRun c then
      match replaceRuns inRun mark rest, rest with
      | replaced, d :: _ => if inRun d then replaced else mark :: replaced
      | replaced, [] => mark :: replaced
    else c :: replaceRuns inRun mark rest

/-- The decimal digits of a natural number. -/
def ofNat (n : Nat) : Text := Nat.toDigits 10 n

/-- The decimal digits of an integer, with a minus sign before a negative one. -/
def ofInt : Int → Text
  | .ofNat n => ofNat n
  | .negSucc n => '-' :: ofNat (n + 1)

/-- The order of texts by code points, a proper prefix first. -/
def before : Text → Text → Bool
  | [], _ => true
  | _ :: _, [] => false
  | c :: s, d :: t => c.toNat < d.toNat || (c == d && before s t)

/-- The texts in code point order. -/
def sort (texts : List Text) : List Text := texts.mergeSort before

/-- The lower case letter of an ASCII capital; the Kelvin sign, the one other character whose
lower case is an ASCII letter, gives `k`. Other characters stand for themselves, so the result
equals an ASCII word exactly when the full lower case does. -/
def foldChar (c : Char) : Char := if c.toNat = 0x212A then 'k' else c.toLower

/-- A text with its letters folded for comparison with lower case ASCII words. -/
def fold (t : Text) : Text := t.map foldChar

/-- Dropping from the left never lengthens a text. -/
theorem length_dropWhile_le (p : Char → Bool) (t : Text) :
    (t.dropWhile p).length ≤ t.length :=
  (List.dropWhile_suffix p).length_le

end Text

end Haml
