import Likeness.Number.Whole

/-!
# Double-precision numbers, exactly

A number in the 64-bit binary format is a sign, a whole mantissa below `2 ^ 53` and a power of two.
Reading a decimal, dividing and comparing are done on whole numbers and rounded once, to the nearest
number of the format and to the even mantissa when two are equally near.
-/

namespace Likeness

/-- A number of the 64-bit binary format; a finite one is `± mantissa * 2 ^ exponent`. -/
inductive Binary64 where
  | nan
  | infinite (negative : Bool)
  | finite (negative : Bool) (mantissa : Nat) (exponent : Int)
deriving DecidableEq, Repr

namespace Binary64

/-- The number of bits in a mantissa. -/
def precision : Nat := 53

/-- The exponent of the smallest numbers. -/
def leastExponent : Int := -1074

/-- The exponent of the largest numbers. -/
def greatestExponent : Int := 971

/-- The number zero with a sign. -/
def zero (negative : Bool) : Binary64 := .finite negative 0 leastExponent

/-- The quotient of two whole numbers, to the nearest whole number and to the even one when two are
equally near. -/
def roundQuotient (numerator denominator : Nat) : Nat :=
  let quotient := numerator / denominator
  let twice := 2 * (numerator % denominator)
  if twice < denominator then quotient
  else if denominator < twice then quotient + 1
  else quotient + quotient % 2

/-- The ratio `numerator / denominator / 2 ^ exponent` as a ratio of whole numbers. -/
def scaled (numerator denominator : Nat) (exponent : Int) : Nat × Nat :=
  (numerator * Whole.twoTo (-exponent).toNat, denominator * Whole.twoTo exponent.toNat)

/-- The exponent at which the ratio of two positive numbers has a mantissa of full length, or the
least exponent if that is larger. -/
def exponentOf (numerator denominator : Nat) : Int :=
  let guess : Int := (numerator.log2 : Int) - denominator.log2 - (precision - 1 : Nat)
  let (top, bottom) := scaled numerator denominator guess
  max leastExponent (if top / bottom < Whole.twoTo (precision - 1) then guess - 1 else guess)

/-- The number nearest to the ratio of two whole numbers. -/
def ofRatio (negative : Bool) (numerator denominator : Nat) : Binary64 :=
  if numerator = 0 then zero negative
  else
    let exponent := exponentOf numerator denominator
    let (top, bottom) := scaled numerator denominator exponent
    let mantissa := roundQuotient top bottom
    let (mantissa, exponent) :=
      if mantissa = Whole.twoTo precision then (Whole.twoTo (precision - 1), exponent + 1)
      else (mantissa, exponent)
    if greatestExponent < exponent then .infinite negative else .finite negative mantissa exponent

/-- The number nearest to a natural number. -/
def ofNat (number : Nat) : Binary64 := ofRatio false number 1

/-- The number nearest to an integer. -/
def ofInt (number : Int) : Binary64 := ofRatio (number < 0) number.natAbs 1

/-- The number nearest to `± digits * 10 ^ exponent`. A decimal far outside the range of the format
is settled by its size alone. -/
def ofDecimal (negative : Bool) (digits : Nat) (exponent : Int) : Binary64 :=
  if digits = 0 then zero negative
  else
    let size := exponent + (Nat.toDigits 10 digits).length
    if 400 < size then .infinite negative
    else if size < -400 then zero negative
    else ofRatio negative (digits * Whole.tenTo exponent.toNat) (Whole.tenTo (-exponent).toNat)

/-- The number, counted in units of the smallest positive one. -/
def units (negative : Bool) (mantissa : Nat) (exponent : Int) : Int :=
  let size : Int := (mantissa * Whole.twoTo (exponent - leastExponent).toNat : Nat)
  if negative then -size else size

/-- Numbers of equal value; the two zeros are equal and a value that is no number equals nothing. -/
def same : Binary64 → Binary64 → Bool
  | .finite negative mantissa exponent, .finite negative' mantissa' exponent' =>
    units negative mantissa exponent == units negative' mantissa' exponent'
  | .infinite negative, .infinite negative' => negative == negative'
  | _, _ => false

/-- The left number is at least as large as the right one. -/
def atLeast : Binary64 → Binary64 → Bool
  | .nan, _ => false
  | _, .nan => false
  | .infinite false, _ => true
  | _, .infinite true => true
  | .infinite true, _ => false
  | _, .infinite false => false
  | .finite negative mantissa exponent, .finite negative' mantissa' exponent' =>
    decide (units negative' mantissa' exponent' ≤ units negative mantissa exponent)

/-- The quotient of two natural numbers that are rounded to the format first; one where both are
zero. -/
def ratio (numerator denominator : Nat) : Binary64 :=
  if denominator = 0 then ofNat 1
  else
    match ofNat numerator, ofNat denominator with
    | .finite _ mantissa exponent, .finite _ mantissa' exponent' =>
      let shift := exponent - exponent'
      ofRatio false (mantissa * Whole.twoTo shift.toNat) (mantissa' * Whole.twoTo (-shift).toNat)
    | .finite .., _ => zero false
    | _, .finite .. => .infinite false
    | _, _ => .nan

/-- The nearest whole number, a half going away from zero, held between zero and `limit`. -/
def toNatClamped (limit : Nat) : Binary64 → Nat
  | .finite false mantissa exponent =>
    let top := mantissa * Whole.twoTo exponent.toNat
    let bottom := Whole.twoTo (-exponent).toNat
    min limit ((2 * top + bottom) / (2 * bottom))
  | .infinite false => limit
  | _ => 0

end Binary64

end Likeness
