import Haml.Data.Basic

/-!
# Registered values

Looking up a dotted name: the first segment among the global names, each further one among the
members of what was found before. Containers have the members they were given; numbers have their
parts.
-/

namespace Haml.Registry

open Haml.Number (Double)

/-- Why a name is not found. -/
inductive Error where
  /-- No global has the first segment as its name. -/
  | noGlobal
  /-- A value lacks the member. -/
  | noMember
deriving DecidableEq, Repr

/-- The parts of an integer as a complex number and as a fraction. -/
def integerParts (n : Int) : List (Text × Data) :=
  [("real".toList, .int n), ("imag".toList, .int 0), ("numerator".toList, .int n),
   ("denominator".toList, .int 1)]

/-- The parts of a floating-point number as a complex number. -/
def floatParts (x : Double) : List (Text × Data) :=
  [("real".toList, .float x), ("imag".toList, .float .zero)]

/-- The members of a value. A truth value has the parts of the integer that it stands for. -/
def members : Data → List (Text × Data)
  | .mapping members => members
  | .int n => integerParts n
  | .bool b => integerParts (if b then 1 else 0)
  | .float x => floatParts x
  | _ => []

/-- The member of a value. -/
def member (value : Data) (name : Text) : Except Error Data :=
  match Data.get? (members value) name with
  | some found => .ok found
  | none => .error .noMember

/-- The value of a dotted name. -/
def resolve (globals : List (Text × Data)) (name : Text) : Except Error Data :=
  match List.splitOn '.' name with
  | [] => .error .noGlobal
  | first :: rest =>
    match Data.get? globals first with
    | none => .error .noGlobal
    | some value => rest.foldlM member value

end Haml.Registry
