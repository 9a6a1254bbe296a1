import Haml.Number.Double

/-!
# Shortest decimal text of a double-precision number

Of all decimals that round to the number, the one with the fewest digits is written, and of those
the nearest. Numbers with a decimal point position from `-3` to `16` are written positionally, all
others with an exponent of at least two digits.
-/

namespace Haml.Number

/-- A decimal `digits * 10 ^ exponent`. -/
structure Decimal where
  /-- The digits read as a natural number. -/
  digits : Nat
  /-- The power of ten they are multiplied by. -/
  exponent : Int
deriving DecidableEq, Repr

/-- The reals that round to one double, scaled so that the ends are natural numbers: `low / den`
and `high / den` around `value / den`. -/
structure RoundingInterval where
  /-- Scaled lower end. -/
  low : Nat
  /-- Scaled value. -/
  value : Nat
  /-- Scaled upper end. -/
  high : Nat
  /-- Common denominator. -/
  den : Nat
  /-- Whether the ends themselves round to the number. -/
  closed : Bool

/-- The rounding interval of `mantissa * 2 ^ exponent`. The gap below a power of two is half the
gap above it, except at the least exponent. -/
def RoundingInterval.of (mantissa : Nat) (exponent : Int) : RoundingInterval :=
  let unit := Nat.pow 2 exponent.toNat
  let value := 4 * mantissa * unit
  let below :=
    if mantissa == Nat.pow 2 52 && exponent > Magnitude.leastExponent then unit else 2 * unit
  { low := value - below, value := value, high := value + 2 * unit,
    den := 4 * Nat.pow 2 (-exponent).toNat, closed := mantissa % 2 == 0 }

/-- Whether `digits * 10 ^ exponent` lies in the interval. -/
def RoundingInterval.holds (interval : RoundingInterval) (digits : Nat) (exponent : Int) : Bool :=
  let point := digits * Nat.pow 10 exponent.toNat * interval.den
  let low := interval.low * Nat.pow 10 (-exponent).toNat
  let high := interval.high * Nat.pow 10 (-exponent).toNat
  (low < point && point < high) || (interval.closed && (point == low || point == high))

/-- The position of the decimal point: the least `p` with `value < 10 ^ p`. The logarithm to base
two gives it up to one. -/
def RoundingInterval.point (interval : RoundingInterval) : Int :=
  let lower (p : Int) : Bool :=
    interval.value * Nat.pow 10 (-p).toNat < Nat.pow 10 p.toNat * interval.den
  let guess := (((interval.value.log2 : Int) - (interval.den.log2 : Int)) * 30103) / 100000
  if lower (guess - 1) then guess - 1
  else if lower guess then guess
  else if lower (guess + 1) then guess + 1
  else guess + 2

/-- The decimal with `count` digits that lies in the interval and is nearest to the value. -/
def RoundingInterval.withDigits? (interval : RoundingInterval) (count : Nat) : Option Decimal :=
  let exponent := interval.point - count
  let num := interval.value * Nat.pow 10 (-exponent).toNat
  let den := interval.den * Nat.pow 10 exponent.toNat
  let floor := num / den
  let twice := 2 * (num % den)
  let useFloor := floor != 0 && interval.holds floor exponent
  let useCeiling := interval.holds (floor + 1) exponent
  match useFloor, useCeiling with
  | true, true =>
    let up := twice > den || (twice == den && floor % 2 == 1)
    some ⟨if up then floor + 1 else floor, exponent⟩
  | true, false => some ⟨floor, exponent⟩
  | false, true => some ⟨floor + 1, exponent⟩
  | false, false => none

/-- The shortest decimal that rounds to `mantissa * 2 ^ exponent`. Seventeen digits always
suffice. -/
def Decimal.shortest (mantissa : Nat) (exponent : Int) : Decimal :=
  let interval := RoundingInterval.of mantissa exponent
  match (List.range 17).findSome? fun n => interval.withDigits? (n + 1) with
  | some decimal => decimal
  | none => ⟨mantissa, exponent⟩

/-- The digits without trailing zeros, and the position of the decimal point before them: the
decimal is `0.d₁d₂… * 10 ^ point`. -/
def Decimal.normal (decimal : Decimal) : Text × Int :=
  let digits := Nat.toDigits 10 decimal.digits
  let kept := (digits.reverse.dropWhile (· == '0')).reverse
  (if kept.isEmpty then ['0'] else kept, digits.length + decimal.exponent)

/-- How a finite number is written. -/
structure DecimalStyle where
  /-- Whether a whole number in positional form ends in `.0`. -/
  pointZero : Bool

/-- The digits with a decimal point, or with an exponent when the point lies far off. -/
def DecimalStyle.layout (style : DecimalStyle) (digits : Text) (point : Int) : Text :=
  if -4 < point && point ≤ 16 then
    if point ≤ 0 then '0' :: '.' :: (List.replicate (-point).toNat '0' ++ digits)
    else
      let whole := point.toNat
      if digits.length ≤ whole then
        digits ++ List.replicate (whole - digits.length) '0' ++
          (if style.pointZero then ['.', '0'] else [])
      else digits.take whole ++ '.' :: digits.drop whole
  else
    let power := point - 1
    let size := Text.ofNat power.natAbs
    let padded := if size.length < 2 then '0' :: size else size
    let mantissa :=
      match digits with
      | d :: e :: rest => d :: '.' :: e :: rest
      | short => short
    mantissa ++ 'e' :: (if power < 0 then '-' else '+') :: padded

/-- The magnitude in a style. -/
def Magnitude.text (style : DecimalStyle) : Magnitude → Text
  | .infinite => ['i', 'n', 'f']
  | .finite mantissa exponent =>
    if mantissa == 0 then '0' :: (if style.pointZero then ['.', '0'] else [])
    else
      let (digits, point) := (Decimal.shortest mantissa exponent).normal
      style.layout digits point

namespace Double

/-- The number as a value of its own: a whole number keeps `.0`. -/
def text (x : Double) : Text :=
  (if x.negative then ['-'] else []) ++ x.magnitude.text ⟨true⟩

/-- The number as a part of a complex number: a whole number has no point. -/
def partText (x : Double) : Text :=
  (if x.negative then ['-'] else []) ++ x.magnitude.text ⟨false⟩

/-- The number as the second part of a complex number, its sign always written. -/
def signedPartText (x : Double) : Text :=
  (if x.negative then '-' else '+') :: x.magnitude.text ⟨false⟩

end Double

end Haml.Number
