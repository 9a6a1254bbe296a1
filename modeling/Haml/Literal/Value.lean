import Haml.Number.Shortest
import Haml.Text.CodePoint

/-!
# Values of literal expressions

Attribute values that are plain literals of the target language are evaluated at compile time. This
module holds their values, which of them count as true, when two of them are the same dictionary
key, and their text. The elements of a set have no order of their own: the text of one lists them in
an order that is given from outside.
-/

namespace Haml.Literal

open Haml.Number (Double)

/-- The value of a literal expression. Dictionaries keep the order of insertion; sets are kept in
it. -/
inductive Value where
  | none
  | ellipsis
  | bool (b : Bool)
  | int (n : Int)
  | float (x : Double)
  | complex (re im : Double)
  | text (t : CodeText)
  | bytes (b : List UInt8)
  | tuple (items : List Value)
  | list (items : List Value)
  | set (items : List Value)
  | dict (entries : List (Value × Value))

namespace Value

/-- Zero, the empty containers, `None` and `False` count as false, all else as true. -/
def truthy : Value → Bool
  | none => false
  | ellipsis => true
  | bool b => b
  | int n => n != 0
  | float x => !x.isZero
  | complex re im => !(re.isZero && im.isZero)
  | text t => !t.isEmpty
  | bytes b => !b.isEmpty
  | tuple items | list items | set items => !items.isEmpty
  | dict entries => !entries.isEmpty

/-- The name of a value's type in the target language. -/
def typeName : Value → String
  | none => "NoneType"
  | ellipsis => "ellipsis"
  | bool _ => "bool"
  | int _ => "int"
  | float _ => "float"
  | complex _ _ => "complex"
  | text _ => "str"
  | bytes _ => "bytes"
  | tuple _ => "tuple"
  | list _ => "list"
  | set _ => "set"
  | dict _ => "dict"

mutual

/-- Whether a value can be a dictionary key or a set element: lists, sets and dictionaries cannot,
nor can a tuple that holds one. -/
def isHashable : Value → Bool
  | list _ | set _ | dict _ => false
  | tuple items => allHashable items
  | _ => true

/-- Whether all values of a list are hashable. -/
def allHashable : List Value → Bool
  | [] => true
  | item :: items => isHashable item && allHashable items

end

/-- The integer that a truth value or an integer is. -/
def asInt? : Value → Option Int
  | bool b => some (if b then 1 else 0)
  | int n => some n
  | _ => Option.none

mutual

/-- Equality of hashable values, across the kinds of numbers. -/
def sameKey : Value → Value → Bool
  | none, none => true
  | ellipsis, ellipsis => true
  | text s, text t => s == t
  | bytes a, bytes b => a == b
  | tuple a, tuple b => sameKeys a b
  | complex re im, complex re' im' => re.same re' && im.same im'
  | complex re im, float x | float x, complex re im => im.isZero && re.same x
  | float x, float y => x.same y
  | complex re im, v =>
    match v.asInt? with
    | some n => im.isZero && re.sameInt n
    | Option.none => false
  | float x, v =>
    match v.asInt? with
    | some n => x.sameInt n
    | Option.none => false
  | v, complex re im =>
    match v.asInt? with
    | some n => im.isZero && re.sameInt n
    | Option.none => false
  | v, float x =>
    match v.asInt? with
    | some n => x.sameInt n
    | Option.none => false
  | v, w =>
    match v.asInt?, w.asInt? with
    | some m, some n => m == n
    | _, _ => false

/-- Equality of lists of hashable values. -/
def sameKeys : List Value → List Value → Bool
  | [], [] => true
  | v :: vs, w :: ws => sameKey v w && sameKeys vs ws
  | _, _ => false

end

/-- A dictionary with one more entry. An equal key keeps its place and its first form, and takes
the new value. -/
def insertEntry (key value : Value) : List (Value × Value) → List (Value × Value)
  | [] => [(key, value)]
  | (k, v) :: rest =>
    if sameKey k key then (k, value) :: rest else (k, v) :: insertEntry key value rest

/-- A set with one more element. An equal element keeps its place and its first form. -/
def insertElement (item : Value) (items : List Value) : List Value :=
  if items.any (sameKey · item) then items else items ++ [item]

/-- The text of a complex number: a positive zero real part is left out. -/
def complexText (re im : Double) : Text :=
  if re.isZero && !re.negative then im.partText ++ ['j']
  else '(' :: re.partText ++ im.signedPartText ++ ['j', ')']

end Value

/-- In which order the elements of sets are listed. The order of the same elements, inserted in the
same order, is always the same. -/
structure SetOrder where
  /-- The positions of the elements of a set, in the order in which they are listed. -/
  positions : List Value → List Nat
  /-- Each element is listed once. -/
  perm : ∀ items, (positions items).Perm (List.range items.length)

namespace SetOrder

/-- The order of insertion. -/
def insertion : SetOrder := ⟨fun items => List.range items.length, fun _ => .refl _⟩

/-- What belongs to the elements of a set, in the order in which they are listed. -/
def arrange (order : SetOrder) (items : List Value) (given : List Text) : List Text :=
  (order.positions items).filterMap fun i => given[i]?

/-- All that belongs to the elements is there, once for each. -/
theorem arrange_perm (order : SetOrder) {items : List Value} {given : List Text}
    (h : given.length = items.length) : (order.arrange items given).Perm given := by
  have hrange : (List.range given.length).filterMap (fun i => given[i]?) = given := by
    clear h
    induction given with
    | nil => rfl
    | cons text rest ih =>
      rw [List.length_cons, List.range_succ_eq_map, List.filterMap_cons]
      simpa [List.filterMap_map, Function.comp_def] using ih
  rw [arrange]
  refine ((order.perm items).filterMap _).trans ?_
  rw [← h, hrange]

end SetOrder

namespace Value

/-- Texts with commas between them. -/
def commas (texts : List Text) : Text := List.intercalate ", ".toList texts

mutual

/-- The text of a value inside a container: texts are quoted. -/
def repr (order : SetOrder) : Value → Text
  | none => "None".toList
  | ellipsis => "Ellipsis".toList
  | bool b => if b then "True".toList else "False".toList
  | int n => Text.ofInt n
  | float x => x.text
  | complex re im => complexText re im
  | text t => t.quote
  | bytes b => Text.quoteBytes b
  | tuple [item] => '(' :: repr order item ++ [',', ')']
  | tuple items => '(' :: commas (reprs order items) ++ [')']
  | list items => '[' :: commas (reprs order items) ++ [']']
  | set [] => "set()".toList
  | set items => '\x7b' :: commas (order.arrange items (reprs order items)) ++ ['\x7d']
  | dict entries => '\x7b' :: commas (reprEntries order entries) ++ ['\x7d']

/-- The texts of several values. -/
def reprs (order : SetOrder) : List Value → List Text
  | [] => []
  | item :: items => repr order item :: reprs order items

/-- The texts of dictionary entries. -/
def reprEntries (order : SetOrder) : List (Value × Value) → List Text
  | [] => []
  | (key, value) :: entries =>
    (repr order key ++ ':' :: ' ' :: repr order value) :: reprEntries order entries

end

/-- There is a text for each value. -/
theorem length_reprs (order : SetOrder) (items : List Value) :
    (reprs order items).length = items.length := by
  induction items with
  | nil => rfl
  | cons item items ih => simp [reprs, ih]

/-- The text of a value: a text stands for itself, all else as inside a container. -/
def display (order : SetOrder) : Value → CodeText
  | text t => t
  | v => Text.codes (repr order v)

/-- A set is written as its elements, each of them once. -/
theorem exists_display_set (order : SetOrder) {items : List Value} (h : items ≠ []) :
    ∃ shown, shown.Perm (reprs order items) ∧
      (set items).display order = Text.codes ('\x7b' :: commas shown ++ ['\x7d']) := by
  refine ⟨order.arrange items (reprs order items),
    order.arrange_perm (length_reprs order items), ?_⟩
  cases items with
  | nil => exact absurd rfl h
  | cons item items => rfl

/-- The greatest number of decimal digits that an integer may have to be written or read in
decimal. -/
def maxDigits : Nat := 4300

mutual

/-- Whether every integer of a value has few enough digits to be written. -/
def isWritable : Value → Bool
  | int n => (Nat.toDigits 10 n.natAbs).length ≤ maxDigits
  | tuple items | list items | set items => allWritable items
  | dict entries => allEntriesWritable entries
  | _ => true

/-- Whether all values of a list are writable. -/
def allWritable : List Value → Bool
  | [] => true
  | item :: items => isWritable item && allWritable items

/-- Whether all keys and values of a dictionary are writable. -/
def allEntriesWritable : List (Value × Value) → Bool
  | [] => true
  | (key, value) :: entries => isWritable key && isWritable value && allEntriesWritable entries

end

end Value

end Haml.Literal
