import Haml.Text.Basic

/-!
# Forms of the small letters

The small letters of the Latin alphabet have further forms: wide ones, those of the mathematical
alphabets, raised and lowered ones and a few single signs. Two names that differ in the forms of
their letters only are the same name.
-/

namespace Haml.Text

/-- The single signs that stand for a small letter, each with its letter. -/
def letterSigns : List (Nat × Char) :=
  [(0xAA, 'a'), (0xBA, 'o'), (0x17F, 's'), (0x2B0, 'h'), (0x2B2, 'j'), (0x2B3, 'r'), (0x2B7, 'w'),
   (0x2B8, 'y'), (0x2E1, 'l'), (0x2E2, 's'), (0x2E3, 'x'), (0x1D43, 'a'), (0x1D47, 'b'),
   (0x1D48, 'd'), (0x1D49, 'e'), (0x1D4D, 'g'), (0x1D4F, 'k'), (0x1D50, 'm'), (0x1D52, 'o'),
   (0x1D56, 'p'), (0x1D57, 't'), (0x1D58, 'u'), (0x1D5B, 'v'), (0x1D62, 'i'), (0x1D63, 'r'),
   (0x1D64, 'u'), (0x1D65, 'v'), (0x1D9C, 'c'), (0x1DA0, 'f'), (0x1DBB, 'z'), (0x2071, 'i'),
   (0x207F, 'n'), (0x2090, 'a'), (0x2091, 'e'), (0x2092, 'o'), (0x2093, 'x'), (0x2095, 'h'),
   (0x2096, 'k'), (0x2097, 'l'), (0x2098, 'm'), (0x2099, 'n'), (0x209A, 'p'), (0x209B, 's'),
   (0x209C, 't'), (0x210A, 'g'), (0x210E, 'h'), (0x2113, 'l'), (0x212F, 'e'), (0x2134, 'o'),
   (0x2139, 'i'), (0x2146, 'd'), (0x2147, 'e'), (0x2148, 'i'), (0x2149, 'j'), (0x2170, 'i'),
   (0x2174, 'v'), (0x2179, 'x'), (0x217C, 'l'), (0x217D, 'c'), (0x217E, 'd'), (0x217F, 'm'),
   (0x2C7C, 'j'), (0x107A5, 'q')]

/-- The small letter with a place in the alphabet, which counts from zero. -/
def smallLetter (place : Nat) : Char := Char.ofNat ('a'.toNat + place)

/-- The plain form of a small letter; other characters stay. Each mathematical alphabet has its
capital letters before its small ones. -/
def plainLetter (c : Char) : Char :=
  let n := c.toNat
  if 0xFF41 ≤ n ∧ n ≤ 0xFF5A then smallLetter (n - 0xFF41)
  else if 0x1D400 ≤ n ∧ n ≤ 0x1D6A3 ∧ 26 ≤ (n - 0x1D400) % 52 then
    smallLetter ((n - 0x1D400) % 52 - 26)
  else (letterSigns.lookup n).getD c

end Haml.Text
