import Haml.Literal.Grammar
import Haml.Text.Blank
import Haml.Text.Letter

/-!
# Reading literals

A text is a literal when it is an expression and its tokens form a number, a sum of a real and an
imaginary number, quoted texts or bytes in a row, a constant, or a tuple, list, set or dictionary of
such. Anything else is no literal. Some expressions are refused with an error of their own: those
that nest too deep, a container with an unhashable key or element, and a sum whose integer is out of
range.
-/

namespace Haml.Literal

open Haml.Number (Double)

/-- Why the evaluation of a literal fails although its form is right. -/
inductive Fault where
  /-- A list, set or dictionary as a dictionary key or set element. -/
  | unhashable
  /-- An integer beyond the floating-point range in a sum with an imaginary number. -/
  | overflow
  /-- An integer with too many digits to be written in decimal. -/
  | tooManyDigits
  /-- An expression that nests too deep to be read. -/
  | tooNested
  /-- An expression that is too deep to be evaluated. -/
  | tooDeep
deriving DecidableEq, Repr

/-- The text of a fault. -/
def Fault.message : Fault → String
  | .unhashable => "unhashable type"
  | .overflow => "int too large to convert to float"
  | .tooManyDigits =>
    "Exceeds the limit (4300 digits) for integer string conversion; " ++
      "use sys.set_int_max_str_digits() to increase the limit"
  | .tooNested => ""
  | .tooDeep => "maximum recursion depth exceeded during ast construction"

/-- Why a text has no literal value. -/
inductive Reason where
  | notLiteral
  | fault (f : Fault)
deriving DecidableEq, Repr

/-- Which sums and signs an operand may take part in. -/
inductive Form where
  /-- A number without a sign. -/
  | number
  /-- A number with a sign. -/
  | signed
  | other
deriving DecidableEq

/-- A part of an expression that has been read. -/
structure Operand where
  /-- Its role in sums. -/
  form : Form
  /-- Its value. -/
  value : Except Reason Value

/-- A part that is no literal. -/
def Operand.refused : Operand := ⟨.other, .error .notLiteral⟩

/-- An item of an expression with its brackets evaluated. -/
inductive Atom where
  | operand (o : Operand)
  | text (t : CodeText)
  | bytes (b : List UInt8)
  | sign (minus : Bool)
  | comma
  | colon
  /-- The name of the empty set's constructor. -/
  | setName
  /-- A pair of parentheses with nothing inside. -/
  | parentheses
  | other

/-- A number with a sign before it. -/
def signed (minus : Bool) : Value → Value
  | .int n => .int (if minus then -n else n)
  | .float x => .float (if minus then x.neg else x)
  | .complex re im => if minus then .complex re.neg im.neg else .complex re im
  | v => v

/-- The floating-point number that a real number is. -/
def realPart : Value → Except Reason Double
  | .int n =>
    let x := Double.ofInt n
    if x.magnitude == .infinite then .error (.fault .overflow) else .ok x
  | .float x => .ok x
  | _ => .error .notLiteral

/-- The sum or difference of a real number and an imaginary one. There is none of other numbers,
however large they are. -/
def sum (minus : Bool) (left right : Value) : Except Reason Value :=
  match right with
  | .complex _ im => do
    let real ← realPart left
    return if minus then .complex real im.fromZero else .complex real.addZero im.addZero
  | _ => .error .notLiteral

/-- The operand `left ± right`. -/
def sumOperand (left : Operand) (minus : Bool) (right : Operand) : Operand :=
  if left.form != .other && right.form == .number then
    ⟨.other, do sum minus (← left.value) (← right.value)⟩
  else .refused

/-- The operand with a sign before it. -/
def signedOperand (minus : Bool) (operand : Operand) : Operand :=
  if operand.form == .number then ⟨.signed, operand.value.map (signed minus)⟩ else .refused

/-- Quoted texts in a row. -/
def texts? : List Atom → Option CodeText
  | [] => some []
  | .text t :: rest => (texts? rest).map (t ++ ·)
  | _ => none

/-- Quoted bytes in a row. -/
def byteStrings? : List Atom → Option (List UInt8)
  | [] => some []
  | .bytes b :: rest => (byteStrings? rest).map (b ++ ·)
  | _ => none

/-- The operand that atoms without commas and colons form. -/
def expression (atoms : List Atom) : Operand :=
  match atoms with
  | [.operand o] => o
  | [.parentheses] => ⟨.other, .ok (.tuple [])⟩
  | [.setName, .parentheses] => ⟨.other, .ok (.set [])⟩
  | [.sign minus, .operand o] => signedOperand minus o
  | [.operand a, .sign minus, .operand b] => sumOperand a minus b
  | [.sign s, .operand a, .sign minus, .operand b] => sumOperand (signedOperand s a) minus b
  | .text t :: rest =>
    match texts? rest with
    | some more => ⟨.other, .ok (.text (t ++ more))⟩
    | none => .refused
  | .bytes b :: rest =>
    match byteStrings? rest with
    | some more => ⟨.other, .ok (.bytes (b ++ more))⟩
    | none => .refused
  | _ => .refused

/-- Whether an atom is a comma. -/
def Atom.isComma : Atom → Bool
  | .comma => true
  | _ => false

/-- Whether an atom is a colon. -/
def Atom.isColon : Atom → Bool
  | .colon => true
  | _ => false

/-- The atoms between commas. There is always at least one part. -/
def parts : List Atom → List (List Atom)
  | [] => [[]]
  | atom :: rest =>
    if atom.isComma then [] :: parts rest
    else
      match parts rest with
      | [] => [[atom]]
      | part :: more => (atom :: part) :: more

/-- The parts of a bracket without the empty one that a comma at the end leaves. -/
def elements (atoms : List Atom) : List (List Atom) :=
  match atoms, (parts atoms).reverse with
  | [], _ => []
  | _, [] :: rest => rest.reverse
  | _, all => all.reverse

/-- The values of the elements of a bracket, from left to right. -/
def values (atoms : List Atom) : Except Reason (List Value) :=
  (elements atoms).mapM fun part => (expression part).value

/-- A dictionary key or set element that is known to be hashable. -/
def hashable (v : Value) : Except Reason Value :=
  if v.isHashable then .ok v else .error (.fault .unhashable)

/-- The set of the elements of a bracket. -/
def setValue (atoms : List Atom) : Except Reason Value := do
  let items ← (elements atoms).foldlM (fun items part => do
    let item ← hashable (← (expression part).value)
    return Value.insertElement item items) []
  return .set items

/-- The dictionary of the entries of a bracket. Each key and its value are evaluated before the
entry is inserted. -/
def dictValue (atoms : List Atom) : Except Reason Value := do
  let entries ← (elements atoms).foldlM (fun entries part => do
    let key ← (expression (part.takeWhile (!·.isColon))).value
    match part.dropWhile (!·.isColon) with
    | [] => throw .notLiteral
    | _ :: rest =>
      let value ← (expression rest).value
      return Value.insertEntry (← hashable key) value entries) []
  return .dict entries

/-- Atoms that stand alone: one expression, or a tuple when a comma follows it. -/
def tupleOrSingle (atoms : List Atom) : Operand :=
  if atoms.any Atom.isComma then ⟨.other, do return .tuple (← values atoms)⟩ else expression atoms

/-- A pair of brackets with the atoms inside. -/
def bracketAtom (bracket : Char) (atoms : List Atom) : Atom :=
  if bracket == '(' then
    match atoms with
    | [] => .parentheses
    | [.setName] => .setName
    | _ => .operand (tupleOrSingle atoms)
  else if bracket == '[' then .operand ⟨.other, do return .list (← values atoms)⟩
  else
    match atoms with
    | [] => .operand ⟨.other, .ok (.dict [])⟩
    | _ =>
      .operand ⟨.other,
        if ((parts atoms).headD []).any Atom.isColon then dictValue atoms else setValue atoms⟩

/-- A constant. -/
def constantAtom (v : Value) : Atom := .operand ⟨.other, .ok v⟩

/-- The atom of a token. -/
def Token.atom : Token → Atom
  | .number v => .operand ⟨.number, .ok v⟩
  | .text t => .text t
  | .bytes b => .bytes b
  | .formatted _ => .other
  | .name word =>
    if word == "None".toList then constantAtom .none
    else if word == "True".toList then constantAtom (.bool true)
    else if word == "False".toList then constantAtom (.bool false)
    else if word.map Text.plainLetter == "set".toList then .setName
    else .other
  | .mark symbol =>
    if symbol == [','] then .comma
    else if symbol == [':'] then .colon
    else if symbol == ['+'] then .sign false
    else if symbol == ['-'] then .sign true
    else if symbol == "...".toList then constantAtom .ellipsis
    else .other
  | .newline => .other

mutual

/-- The atom of an item, inner brackets first. -/
def Item.atom : Item → Atom
  | .token t => t.atom
  | .group bracket items => bracketAtom bracket (atoms items)
  | .formatted _ => .other

/-- The atoms of a list of items. -/
def atoms : List Item → List Atom
  | [] => []
  | item :: items => item.atom :: atoms items

end

/-- The value of an expression, or nothing when it is no literal. -/
def evaluate (items : List Item) : Except Fault (Option Value) :=
  match (tupleOrSingle (atoms items)).value with
  | .ok v => .ok (some v)
  | .error .notLiteral => .ok none
  | .error (.fault f) => .error f

/-- The value of the literal that a text is, blanks around it aside; nothing when it is none. -/
def read (t : Text) : Except Fault (Option Value) :=
  match items? (Text.trim t) with
  | none => .ok none
  | some items =>
    match Shape.ofItems items with
    | .expression => evaluate items
    | .malformed => .ok none
    | .tooNested => .error .tooNested
    | .tooDeep => .error .tooDeep

/-- The text of a literal's value, with sets listed in an order. -/
def shown (order : SetOrder) (v : Value) : Except Fault CodeText :=
  if v.isWritable then .ok (v.display order) else .error .tooManyDigits

end Haml.Literal
