import Haml.CharacterName.Lookup
import Haml.Text.Quoted

/-!
# Escapes

The inside of a quoted form: every backslash starts an escape that stands for one or more code
points, or for none. In text an escape can name a character or give its number; in bytes it gives
the number of a byte.
-/

namespace Haml.Text

/-- One escape, read after its backslash: the code points it stands for and the number of further
characters that belong to it after the first. -/
structure Escape where
  /-- The code points that the escape stands for. -/
  codes : List Nat
  /-- The characters it takes after the one that follows the backslash. -/
  extra : Nat

/-- The escape of a character by its name in braces, read after the letter that introduces it. -/
def namedEscape? (rest : Text) : Option Escape :=
  match rest with
  | '\x7b' :: more =>
    let name := more.takeWhile (· != '\x7d')
    if name.length < more.length then
      (CharacterName.find? name).map fun code => ⟨[code], name.length + 2⟩
    else none
  | _ => none

/-- The escape whose first character after the backslash is `c`. Code points above a byte are
written only in text, not in bytes. An unknown escape stands for its two characters. -/
def escape? (wide : Bool) (c : Char) (rest : Text) : Option Escape :=
  match c with
  | '\n' => some ⟨[], 0⟩
  | '\\' | '\'' | '"' => some ⟨[c.toNat], 0⟩
  | 'a' => some ⟨[7], 0⟩
  | 'b' => some ⟨[8], 0⟩
  | 'f' => some ⟨[12], 0⟩
  | 'n' => some ⟨[10], 0⟩
  | 'r' => some ⟨[13], 0⟩
  | 't' => some ⟨[9], 0⟩
  | 'v' => some ⟨[11], 0⟩
  | 'x' => (hexNumber? 2 rest).map fun n => ⟨[n], 2⟩
  | _ =>
    if isOctal c then
      let digits := c :: (rest.take 2).takeWhile isOctal
      some ⟨[digits.foldl (fun n d => 8 * n + (d.toNat - 48)) 0], digits.length - 1⟩
    else if wide && c == 'u' then (hexNumber? 4 rest).map fun n => ⟨[n], 4⟩
    else if wide && c == 'U' then (hexNumber? 8 rest).map fun n => ⟨[n], 8⟩
    else if wide && c == 'N' then namedEscape? rest
    else some ⟨[92, c.toNat], 0⟩

/-- The code points that the inside of a quoted form stands for, or nothing when an escape is
malformed. A backslash at the end stands for itself. -/
def unescape? (wide : Bool) : Text → Option (List Nat)
  | [] => some []
  | '\\' :: c :: rest =>
    match escape? wide c rest with
    | none => none
    | some escape => (unescape? wide (rest.drop escape.extra)).map (escape.codes ++ ·)
  | c :: rest => (unescape? wide rest).map (c.toNat :: ·)
termination_by t => t.length
decreasing_by all_goals simp only [List.length_cons, List.length_drop]; omega

end Haml.Text
