import Haml.CharacterName.BasicPlane
import Haml.CharacterName.OtherPlanes
import Haml.CharacterName.Words
import Haml.Text.Basic

/-!
# The table of character names

A table is a row of signs, each with the digits that belong to it. It gives names in the order of
their code points, each by what it has in common with the name before it: how many words they share
at the start and at the end, and the numbers of the words between. Runs of names whose last word is
counted upwards, or ends in the code point itself, take one sign. `search` walks through a table
until it meets a name.
-/

namespace Haml.CharacterName

/-- The digits of the tables, in the order of their values. -/
def digits : Text :=
  "!$%&()*+,.0123456789:;<=>?ABCDEFGHIJKLMNOPQRSTUVWXZ[]^_bcdfghjklmnpqrstvwxz|~".toList

/-- The base of the numbers in the tables. -/
def base : Nat := digits.length

/-- The value of each digit at the place of its code. -/
def digitValues : Array Nat :=
  (Array.range 128).map fun n => digits.idxOf (Char.ofNat n)

/-- The value of a digit. -/
def digitValue (c : Char) : Nat := digitValues.getD c.toNat 0

/-- What a sign of a table says. -/
inductive Sign where
  /-- A name begins, with the first `n` words of the one before. -/
  | keep (n : Nat)
  /-- The name ends with the last `n` words of the one before. -/
  | ending (n : Nat)
  /-- One digit follows: so many further names, the last word of each counted up by one. -/
  | count
  /-- One digit follows: so many further names with the same words. -/
  | again
  /-- Four digits follow: the code point of the next name. -/
  | jump
  /-- One digit follows: a common word of the page. -/
  | common (page : Nat)
  /-- Two digits follow: a rare word of the page. -/
  | rare (page : Nat)

/-- The signs before names, each with the number of words that it keeps. -/
def keepSigns : Text := "0123456789:;".toList

/-- The signs for words at the end of a name, from one word on. -/
def endSigns : Text := "!$%&(".toList

/-- The signs for pages of rare words. -/
def rareSigns : Text := "z|".toList

/-- The signs for pages of common words: all digits without another use. -/
def commonSigns : Text :=
  digits.filter fun c => !(keepSigns ++ endSigns ++ rareSigns ++ "+=~".toList).contains c

/-- What a character says as a sign. -/
def Sign.ofChar (c : Char) : Sign :=
  if c == '+' then .count
  else if c == '=' then .again
  else if c == '~' then .jump
  else if keepSigns.contains c then .keep (keepSigns.idxOf c)
  else if endSigns.contains c then .ending (endSigns.idxOf c + 1)
  else if rareSigns.contains c then .rare (rareSigns.idxOf c)
  else .common (commonSigns.idxOf c)

/-- What each character says, at the place of its code. -/
def signs : Array Sign := (Array.range 128).map fun n => Sign.ofChar (Char.ofNat n)

/-- The words of a sorted list in which each says how much it shares with the one before: `shared`
of `last` are kept, and `fresh` holds the characters after them in reverse order. -/
def expandWords (last : Text) (shared : Nat) (fresh : Text) (done : Array Text) :
    Text → Array Text
  | [] => done.push (last.take shared ++ fresh.reverse)
  | c :: rest =>
    if c.isLower then
      let word := last.take shared ++ fresh.reverse
      expandWords word (c.toNat - 97) [] (done.push word) rest
    else expandWords last shared (c :: fresh) done rest

/-- The characters of a table, blanks and line ends left out. -/
def signsOf (table : String) : Text := table.toList.filter (!·.isWhitespace)

/-- The common words by their numbers, after an empty one. -/
def commonList : Array Text := expandWords [] 0 [] #[] (signsOf commonWords)

/-- The rare words by their numbers, after an empty one. -/
def rareList : Array Text := expandWords [] 0 [] #[] (signsOf rareWords)

/-- A name while its words are read. -/
structure Draft where
  /-- The code point of the name. -/
  code : Nat
  /-- The code point of the next name. -/
  next : Nat
  /-- The words of the name before. -/
  last : List Text
  /-- The first words, taken from the name before. -/
  start : List Text
  /-- The words after them, the last one first. -/
  fresh : List Text
  /-- The last words, taken from the name before. -/
  ending : List Text

namespace Draft

/-- Nothing before the first name. -/
def empty : Draft := ⟨0, 0, [], [], [], []⟩

/-- The words of the name as far as they have been read. -/
def words (draft : Draft) : List Text := draft.start ++ draft.fresh.reverse ++ draft.ending

/-- The next name begins. -/
def begin (draft : Draft) (kept : Nat) : Draft :=
  ⟨draft.next, draft.next + 1, draft.words, draft.words.take kept, [], []⟩

/-- The name with one more word. -/
def add (draft : Draft) (word : Text) : Draft := { draft with fresh := word :: draft.fresh }

/-- The name with its last words taken from the name before. -/
def endWith (draft : Draft) (kept : Nat) : Draft :=
  { draft with ending := draft.last.drop (draft.last.length - kept) }

/-- The next name has the same words. -/
def again (draft : Draft) : Draft := { draft with code := draft.next, next := draft.next + 1 }

end Draft

/-- A word written backwards, counted up by one. -/
def countUp : Text → Text
  | [] => []
  | c :: rest => if c == '9' then '0' :: countUp rest else Char.ofNat (c.toNat + 1) :: rest

/-- The words with the last one counted up by one. -/
def countLast (words : List Text) : List Text :=
  words.dropLast ++ (words.getLast?.map fun word => (countUp word.reverse).reverse).toList

/-- The next name, its last word counted up by one. -/
def Draft.count (draft : Draft) : Draft :=
  ⟨draft.next, draft.next + 1, draft.last, countLast draft.words, [], []⟩

/-- The upper case hexadecimal digits of a code point. -/
def hexCode (code : Nat) : Text := (Nat.toDigits 16 code).map Char.toUpper

/-- Whether words spell a name: a hyphen at the end of them is followed by the code point. -/
def spells (code : Nat) : List Text → List Text → Bool
  | [], [] => true
  | [word], [asked] =>
    asked == if word.getLast? == some '-' then word ++ hexCode code else word
  | word :: words, asked :: more => word == asked && spells code words more
  | _, _ => false

/-- Whether the name is the one asked for. -/
def Draft.isName (draft : Draft) (asked : List Text) : Bool := spells draft.code draft.words asked

/-- The name asked for among a name and the `n` names after it, each made from the one before by
`next`; or else the last of them. -/
def advance (asked : List Text) (next : Draft → Draft) : Nat → Draft → Nat ⊕ Draft
  | 0, draft => if draft.isName asked then .inl draft.code else .inr draft
  | n + 1, draft =>
    if draft.isName asked then .inl draft.code else advance asked next n (next draft)

/-- The number that digits write. -/
def number (digits : Text) : Nat := digits.foldl (fun n c => n * base + digitValue c) 0

/-- The code point of the name asked for in a table. -/
def search (asked : List Text) (draft : Draft) : Text → Option Nat
  | [] => if draft.isName asked then some draft.code else none
  | c :: rest =>
    match signs[c.toNat]?, rest with
    | some (.keep n), rest =>
      if draft.isName asked then some draft.code else search asked (draft.begin n) rest
    | some (.ending n), rest => search asked (draft.endWith n) rest
    | some (.common page), a :: rest =>
      search asked (draft.add (commonList.getD (page * base + digitValue a + 1) [])) rest
    | some (.rare page), a :: b :: rest =>
      search asked (draft.add (rareList.getD (page * base * base + number [a, b] + 1) [])) rest
    | some .count, a :: rest =>
      match advance asked Draft.count (digitValue a + 1) draft with
      | .inl code => some code
      | .inr last => search asked last rest
    | some .again, a :: rest =>
      match advance asked Draft.again (digitValue a + 1) draft with
      | .inl code => some code
      | .inr last => search asked last rest
    | some .jump, a :: b :: c :: d :: rest =>
      if draft.isName asked then some draft.code
      else search asked { draft with next := number [a, b, c, d] } rest
    | _, _ => none

/-- The code point of a name that a table gives, by its words in capital letters. -/
def code? (words : List Text) : Option Nat :=
  match search words .empty (signsOf basicPlane) with
  | some code => some code
  | none =>
    match search words .empty (signsOf otherPlanes) with
    | some code => some code
    | none => search words .empty (signsOf furtherNames)

end Haml.CharacterName
