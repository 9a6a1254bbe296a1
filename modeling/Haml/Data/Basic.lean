import Haml.Literal.Value

/-!
# Structured data

The values that configuration documents hold: nothing, truth values, numbers, texts, lists and
mappings from texts, which keep the order of their keys.
-/

namespace Haml

open Haml.Number (Double)

/-- A value of a configuration document. -/
inductive Data where
  | null
  | bool (b : Bool)
  | int (n : Int)
  | float (x : Double)
  | text (t : Text)
  | list (items : List Data)
  | mapping (entries : List (Text × Data))

namespace Data

/-- Zero, nothing and empty values count as absent. -/
def isPresent : Data → Bool
  | null => false
  | bool b => b
  | int n => n != 0
  | float x => !x.isZero
  | text t => !t.isEmpty
  | list items => !items.isEmpty
  | mapping entries => !entries.isEmpty

mutual

/-- The data as a literal value of the target language. -/
def toValue : Data → Literal.Value
  | null => .none
  | bool b => .bool b
  | int n => .int n
  | float x => .float x
  | text t => .text (Text.codes t)
  | list items => .list (toValues items)
  | mapping entries => .dict (toEntries entries)

/-- The items of a list as literal values. -/
def toValues : List Data → List Literal.Value
  | [] => []
  | item :: items => toValue item :: toValues items

/-- The entries of a mapping as dictionary entries. -/
def toEntries : List (Text × Data) → List (Literal.Value × Literal.Value)
  | [] => []
  | (key, value) :: entries => (.text (Text.codes key), toValue value) :: toEntries entries

end

/-- The text of data as the literal that it is. There are no sets in data, so their order does not
matter. -/
def repr (data : Data) : Text := data.toValue.repr .insertion

/-- The text of data: a text stands for itself, all else as the literal that it is. -/
def display : Data → Text
  | text t => t
  | data => data.repr

/-- The value of a key. -/
def get? (entries : List (Text × Data)) (key : Text) : Option Data := entries.lookup key

/-- A mapping with one more entry. A key that is already there keeps its place and takes the new
value. -/
def insertEntry (key : Text) (value : Data) : List (Text × Data) → List (Text × Data)
  | [] => [(key, value)]
  | (k, v) :: rest => if k == key then (k, value) :: rest else (k, v) :: insertEntry key value rest

end Data

end Haml
