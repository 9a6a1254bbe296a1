import Haml.Data.Basic
import Haml.Text.Blank

/-!
# JSON text

Reading and writing of data in JSON notation. Integers are of any size, a number with a point or an
exponent is a floating-point number, and of a repeated key the last value counts. In documents that
are read as configuration a number with an exponent needs a point before it and a sign in it as
well; without them it is a text.
-/

namespace Haml.Data

open Haml.Number (Double Magnitude)

/-- How numbers are read. -/
structure Dialect where
  /-- Whether an exponent counts only after a point and with a sign. -/
  strictExponent : Bool

/-- JSON as it is exchanged. -/
def Dialect.json : Dialect := ⟨false⟩

/-- The flow notation of configuration files. -/
def Dialect.config : Dialect := ⟨true⟩

/-- Data read off the start of a text, and the text after it. -/
structure Parsed (α : Type) where
  /-- What was read. -/
  found : α
  /-- The text after it. -/
  rest : Text

/-- A text without the blanks that JSON allows between its parts. -/
def skipSpace (t : Text) : Text :=
  t.dropWhile fun c => c == ' ' || c == '\t' || c == '\n' || c == '\r'

/-- The character of a pair of surrogate codes. -/
def joinSurrogates (high low : Nat) : Char :=
  Char.ofNat (0x10000 + (high - 0xD800) * 0x400 + (low - 0xDC00))

/-- The escape after a backslash in a JSON string: its character and how many characters it takes
after the first. -/
def stringEscape? (c : Char) (rest : Text) : Option (Char × Nat) :=
  match c with
  | '"' | '\\' | '/' => some (c, 0)
  | 'b' => some ('\x08', 0)
  | 'f' => some ('\x0c', 0)
  | 'n' => some ('\n', 0)
  | 'r' => some ('\r', 0)
  | 't' => some ('\t', 0)
  | 'u' =>
    match Text.hexNumber? 4 rest with
    | none => none
    | some high =>
      if 0xD800 ≤ high ∧ high < 0xDC00 then
        match rest.drop 4 with
        | '\\' :: 'u' :: more =>
          match Text.hexNumber? 4 more with
          | some low =>
            if 0xDC00 ≤ low ∧ low < 0xE000 then some (joinSurrogates high low, 10) else none
          | none => none
        | _ => none
      else if high.isValidChar then some (Char.ofNat high, 4)
      else none
  | _ => none

/-- The characters of a JSON string up to its closing quote. -/
def stringBody? (t : Text) : Option (Parsed Text) :=
  match t with
  | [] => none
  | '"' :: rest => some ⟨[], rest⟩
  | '\\' :: c :: rest =>
    match stringEscape? c rest with
    | none => none
    | some (d, extra) =>
      (stringBody? (rest.drop extra)).map fun body => ⟨d :: body.found, body.rest⟩
  | c :: rest => (stringBody? rest).map fun body => ⟨c :: body.found, body.rest⟩
termination_by t.length
decreasing_by all_goals simp only [List.length_cons, List.length_drop]; omega

/-- The number that decimal digits denote. -/
def decimalValue (digits : Text) : Nat := digits.foldl (fun n c => 10 * n + (c.toNat - 48)) 0

/-- The fraction digits after a point. -/
def fractionPart (t : Text) : Parsed (Option Text) :=
  match t with
  | '.' :: rest => ⟨some (rest.takeWhile Char.isDigit), rest.dropWhile Char.isDigit⟩
  | _ => ⟨none, t⟩

/-- The exponent after its mark. -/
def exponentPart (t : Text) : Parsed (Option Int) :=
  let digits (negative : Bool) (rest : Text) : Parsed (Option Int) :=
    let size : Int := decimalValue (rest.takeWhile Char.isDigit)
    ⟨some (if negative then -size else size), rest.dropWhile Char.isDigit⟩
  match t with
  | c :: rest =>
    if c == 'e' || c == 'E' then
      match rest with
      | '-' :: more => digits true more
      | '+' :: more => digits false more
      | more => digits false more
    else ⟨none, t⟩
  | [] => ⟨none, []⟩

/-- Whether an exponent is written with a sign. -/
def hasSignedExponent (t : Text) : Bool :=
  match t with
  | _ :: c :: _ => c == '+' || c == '-'
  | _ => false

/-- Whether a number with this fraction and exponent is a text in a dialect. -/
def Dialect.isText (dialect : Dialect) (fraction : Parsed (Option Text))
    (exponent : Parsed (Option Int)) : Bool :=
  dialect.strictExponent && exponent.found.isSome &&
    (fraction.found.isNone || !hasSignedExponent fraction.rest)

/-- A number. -/
def number? (dialect : Dialect) (t : Text) : Option (Parsed Data) :=
  let negative := t.head? == some '-'
  let start := if negative then t.drop 1 else t
  let whole := start.takeWhile Char.isDigit
  let fraction := fractionPart (start.dropWhile Char.isDigit)
  let exponent := exponentPart fraction.rest
  if whole.isEmpty then none
  else
    let data :=
      match fraction.found, exponent.found with
      | none, none =>
        let n : Int := decimalValue whole
        Data.int (if negative then -n else n)
      | fractionDigits, power =>
        if dialect.isText fraction exponent then
          Data.text (t.take (t.length - exponent.rest.length))
        else
          let places := fractionDigits.getD []
          Data.float ⟨negative,
            .ofDecimal (decimalValue (whole ++ places)) (power.getD 0 - places.length)⟩
    some ⟨data, exponent.rest⟩

/-- A word that stands for a value. -/
def constant? (t : Text) : Option (Parsed Data) :=
  match List.isPrefixOf? "null".toList t with
  | some rest => some ⟨.null, rest⟩
  | none =>
    match List.isPrefixOf? "true".toList t with
    | some rest => some ⟨.bool true, rest⟩
    | none => (List.isPrefixOf? "false".toList t).map fun rest => ⟨.bool false, rest⟩

mutual

/-- A value. The fuel bounds the number of values and of members read. -/
def value? (dialect : Dialect) (fuel : Nat) (t : Text) : Option (Parsed Data) :=
  match fuel with
  | 0 => none
  | fuel + 1 =>
    match skipSpace t with
    | '"' :: rest => (stringBody? rest).map fun body => ⟨.text body.found, body.rest⟩
    | '[' :: rest =>
      match skipSpace rest with
      | ']' :: rest => some ⟨.list [], rest⟩
      | rest => (items? dialect fuel rest).map fun items => ⟨.list items.found, items.rest⟩
    | '\x7b' :: rest =>
      match skipSpace rest with
      | '\x7d' :: rest => some ⟨.mapping [], rest⟩
      | rest =>
        (members? dialect fuel rest).map fun members =>
          ⟨.mapping (members.found.foldl (fun entries (k, v) => insertEntry k v entries) []),
            members.rest⟩
    | rest =>
      match constant? rest with
      | some parsed => some parsed
      | none => number? dialect rest

/-- The items of a list up to its closing bracket. -/
def items? (dialect : Dialect) (fuel : Nat) (t : Text) : Option (Parsed (List Data)) :=
  match fuel with
  | 0 => none
  | fuel + 1 =>
    match value? dialect fuel t with
    | none => none
    | some item =>
      match skipSpace item.rest with
      | ']' :: rest => some ⟨[item.found], rest⟩
      | ',' :: rest =>
        (items? dialect fuel rest).map fun items => ⟨item.found :: items.found, items.rest⟩
      | _ => none

/-- The members of a mapping up to its closing brace. -/
def members? (dialect : Dialect) (fuel : Nat) (t : Text) : Option (Parsed (List (Text × Data))) :=
  match fuel with
  | 0 => none
  | fuel + 1 =>
    match skipSpace t with
    | '"' :: rest =>
      match stringBody? rest with
      | none => none
      | some key =>
        match skipSpace key.rest with
        | ':' :: rest =>
          match value? dialect fuel rest with
          | none => none
          | some value =>
            match skipSpace value.rest with
            | '\x7d' :: rest => some ⟨[(key.found, value.found)], rest⟩
            | ',' :: rest =>
              (members? dialect fuel rest).map fun members =>
                ⟨(key.found, value.found) :: members.found, members.rest⟩
            | _ => none
        | _ => none
    | _ => none

end

/-- The data of a whole JSON text. -/
def ofJson? (dialect : Dialect) (t : Text) : Option Data :=
  match value? dialect (2 * t.length + 2) t with
  | some parsed => if (skipSpace parsed.rest).isEmpty then some parsed.found else none
  | none => none

/-- The data of a configuration file: nothing for an empty one, and a text for one that is not in
JSON notation. -/
def ofConfigFile (t : Text) : Data :=
  if Text.isAllBlank t then .null else (ofJson? .config t).getD (.text (Text.trim t))

/-- A character inside a JSON string. -/
def stringChar (c : Char) : Text :=
  match c with
  | '"' => ['\\', '"']
  | '\\' => ['\\', '\\']
  | '\n' => ['\\', 'n']
  | '\r' => ['\\', 'r']
  | '\t' => ['\\', 't']
  | '\x08' => ['\\', 'b']
  | '\x0c' => ['\\', 'f']
  | c => if c.toNat < 0x20 then '\\' :: 'u' :: Text.hex 4 c.toNat else [c]

/-- A JSON string. -/
def jsonString (t : Text) : Text := '"' :: t.flatMap stringChar ++ ['"']

/-- A floating-point number in JSON. -/
def jsonFloat (x : Double) : Text :=
  match x.magnitude with
  | .infinite => if x.negative then "-Infinity".toList else "Infinity".toList
  | .finite _ _ => x.text

mutual

/-- JSON text with a space after each comma and colon. -/
def toJson : Data → Text
  | null => "null".toList
  | bool b => if b then "true".toList else "false".toList
  | int n => Text.ofInt n
  | float x => jsonFloat x
  | text t => jsonString t
  | list items => '[' :: itemsToJson items ++ [']']
  | mapping entries => '\x7b' :: entriesToJson entries ++ ['\x7d']

/-- The items of a list with commas between them. -/
def itemsToJson : List Data → Text
  | [] => []
  | [item] => toJson item
  | item :: items => toJson item ++ ',' :: ' ' :: itemsToJson items

/-- The members of a mapping with commas between them. -/
def entriesToJson : List (Text × Data) → Text
  | [] => []
  | [(key, value)] => jsonString key ++ ':' :: ' ' :: toJson value
  | (key, value) :: entries =>
    jsonString key ++ ':' :: ' ' :: toJson value ++ ',' :: ' ' :: entriesToJson entries

end

end Haml.Data
