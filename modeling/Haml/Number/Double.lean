import Haml.Text.Basic

/-!
# Double-precision numbers

A finite number is a sign and an exact magnitude `mantissa * 2 ^ exponent` in the range of the
64-bit binary format; beyond that range stands infinity. Rounding a quotient of natural numbers is
exact integer arithmetic, a half going to the even mantissa. There is no not-a-number: no literal
denotes one.
-/

namespace Haml.Number

/-- The size of a double-precision number. A finite magnitude is `mantissa * 2 ^ exponent` with
`mantissa < 2 ^ 53`, and `mantissa ≥ 2 ^ 52` unless the exponent is the least one, `-1074`. -/
inductive Magnitude where
  | finite (mantissa : Nat) (exponent : Int)
  | infinite
deriving DecidableEq, Repr

/-- The least exponent of the format. -/
def Magnitude.leastExponent : Int := -1074

/-- The greatest exponent of the format. -/
def Magnitude.greatestExponent : Int := 971

/-- The magnitude zero. -/
def Magnitude.zero : Magnitude := .finite 0 leastExponent

/-- Whether the magnitude is zero. -/
def Magnitude.isZero : Magnitude → Bool
  | .finite mantissa _ => mantissa == 0
  | .infinite => false

/-- `num / den` rounded to a natural number, a half going to the even neighbour. -/
def roundHalfEven (num den : Nat) : Nat :=
  let floor := num / den
  let twice := 2 * (num % den)
  if twice > den || (twice == den && floor % 2 == 1) then floor + 1 else floor

/-- The magnitude nearest to `num / den`. -/
def Magnitude.ofQuotient (num den : Nat) : Magnitude :=
  if num == 0 then .zero
  else
    let scaled (exponent : Int) : Nat × Nat :=
      (num * Nat.pow 2 (-exponent).toNat, den * Nat.pow 2 exponent.toNat)
    let guess : Int := (num.log2 : Int) - (den.log2 : Int) - 52
    let (n, d) := scaled guess
    let exponent := max leastExponent (if n / d < Nat.pow 2 52 then guess - 1 else guess)
    let (n, d) := scaled exponent
    let mantissa := roundHalfEven n d
    let (mantissa, exponent) :=
      if mantissa == Nat.pow 2 53 then (Nat.pow 2 52, exponent + 1) else (mantissa, exponent)
    if exponent > greatestExponent then .infinite else .finite mantissa exponent

/-- The magnitude nearest to `digits * 10 ^ exponent`. Values far outside the range of the format
are settled before any power is computed. -/
def Magnitude.ofDecimal (digits : Nat) (exponent : Int) : Magnitude :=
  let size : Int := exponent + (Nat.toDigits 10 digits).length
  if digits == 0 then .zero
  else if size > 310 then .infinite
  else if size < -330 then .zero
  else .ofQuotient (digits * Nat.pow 10 exponent.toNat) (Nat.pow 10 (-exponent).toNat)

/-- A double-precision number: a sign and a magnitude. -/
structure Double where
  /-- Whether the sign is minus; zero has both signs. -/
  negative : Bool
  /-- The size. -/
  magnitude : Magnitude
deriving DecidableEq, Repr

namespace Double

/-- Positive zero. -/
def zero : Double := ⟨false, .zero⟩

/-- Whether the number is a zero of either sign. -/
def isZero (x : Double) : Bool := x.magnitude.isZero

/-- The number with the other sign. -/
def neg (x : Double) : Double := { x with negative := !x.negative }

/-- The sum with positive zero. Only a negative zero changes, to positive zero. -/
def addZero (x : Double) : Double := if x.isZero then zero else x

/-- The difference from positive zero, `0 - x`. A zero of either sign gives positive zero. -/
def fromZero (x : Double) : Double := if x.isZero then zero else x.neg

/-- The number nearest to an integer. -/
def ofInt (n : Int) : Double := ⟨decide (n < 0), .ofQuotient n.natAbs 1⟩

/-- Numerical equality: the two zeros are equal. -/
def same (x y : Double) : Bool := (x.isZero && y.isZero) || x == y

/-- Numerical equality with an integer. -/
def sameInt (x : Double) (n : Int) : Bool :=
  match x.magnitude with
  | .infinite => false
  | .finite mantissa exponent =>
    let signed : Int := if x.negative then -(mantissa : Int) else mantissa
    signed * Nat.pow 2 exponent.toNat == n * Nat.pow 2 (-exponent).toNat

end Double

end Haml.Number
