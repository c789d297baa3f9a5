import Likeness.Number.Binary64

/-!
# Decimal texts of double-precision numbers

A number is written with the fewest digits that read back as the same number and, of those, with the
digits nearest to it. How the digits are laid out is up to the place that writes them, and is given
by a `Decimal.Layout`.
-/

namespace Likeness.Decimal

/-- Which of two equally near decimals is taken. -/
inductive Tie where
  | larger
  | even
deriving DecidableEq, Repr

/-- The decimals that read back as a positive number: all those between `low` and `high`, over a
common denominator, with the ends if `closed`. -/
structure Interval where
  low : Nat
  value : Nat
  high : Nat
  denominator : Nat
  closed : Bool
deriving DecidableEq, Repr

namespace Interval

/-- The interval of `mantissa * 2 ^ exponent`: half a step of the format to either side. Below the
first mantissa of full length the step is half as long. The ends round to the even mantissa. -/
def ofFinite (mantissa : Nat) (exponent : Int) : Interval :=
  let below :=
    if mantissa = Whole.twoTo (Binary64.precision - 1) && Binary64.leastExponent < exponent then 1
    else 2
  let scale := Whole.twoTo (exponent - 2).toNat
  { low := (4 * mantissa - below) * scale
    value := 4 * mantissa * scale
    high := (4 * mantissa + 2) * scale
    denominator := Whole.twoTo (2 - exponent).toNat
    closed := mantissa % 2 = 0 }

/-- The decimal `digits * 10 ^ exponent` reads back as the number of the interval. -/
def holds (interval : Interval) (digits : Nat) (exponent : Int) : Bool :=
  let decimal := digits * Whole.tenTo exponent.toNat * interval.denominator
  let low := interval.low * Whole.tenTo (-exponent).toNat
  let high := interval.high * Whole.tenTo (-exponent).toNat
  if interval.closed then low ≤ decimal && decimal ≤ high else low < decimal && decimal < high

/-- The value lies below `10 ^ exponent`. -/
def below (interval : Interval) (exponent : Int) : Bool :=
  interval.value * Whole.tenTo (-exponent).toNat < Whole.tenTo exponent.toNat * interval.denominator

/-- The least of `exponent`, `exponent + 1`, … whose power of ten is above the value, trying
`attempts` of them. -/
def ceilingFrom (interval : Interval) : Nat → Int → Int
  | 0, exponent => exponent
  | attempts + 1, exponent =>
    if interval.below exponent then exponent else interval.ceilingFrom attempts (exponent + 1)

/-- The least exponent whose power of ten is above the value. The binary length of the value gives a
guess that is at most three too small. -/
def ceiling (interval : Interval) : Int :=
  let length : Int := (interval.value.log2 : Int) - interval.denominator.log2
  interval.ceilingFrom 5 (((length - 1) * 30103).fdiv 100000)

/-- The decimal with the given exponent that reads back as the number and is nearest to it. -/
def onGrid (interval : Interval) (tie : Tie) (exponent : Int) : Option Nat :=
  let top := interval.value * Whole.tenTo (-exponent).toNat
  let bottom := interval.denominator * Whole.tenTo exponent.toNat
  let lower := top / bottom
  let twice := 2 * (top % bottom)
  let upperNearer : Bool :=
    match tie with
    | .larger => bottom ≤ twice
    | .even => bottom < twice || (bottom = twice && lower % 2 = 1)
  match interval.holds lower exponent, interval.holds (lower + 1) exponent with
  | true, true => some (if upperNearer then lower + 1 else lower)
  | true, false => some lower
  | false, true => some (lower + 1)
  | false, false => none

/-- The first of the grids with `count`, `count + 1`, … digits that holds a decimal, trying
`attempts` of them. -/
def firstGrid (interval : Interval) (tie : Tie) (ceiling : Int) : Nat → Nat → Nat × Int
  | 0, _ => (0, 0)
  | attempts + 1, count =>
    let exponent := ceiling - count
    match interval.onGrid tie exponent with
    | some digits => (digits, exponent)
    | none => interval.firstGrid tie ceiling attempts (count + 1)

/-- The shortest decimal of the interval. Seventeen digits tell all numbers of the format apart. -/
def shortest (interval : Interval) (tie : Tie) : Nat × Int :=
  interval.firstGrid tie interval.ceiling 17 1

end Interval

/-- How the digits of a number are laid out. A number is written out in full when its leading digit
stands at a power of ten from `leastPower` on and below `powerLimit`, where they are given. -/
structure Layout where
  tie : Tie
  leastPower : Option Int
  powerLimit : Option Int
  /-- Whole numbers written out in full end in `.0`. -/
  fractionOfWhole : Bool
  /-- Positive powers carry a plus sign. -/
  plusSign : Bool
deriving DecidableEq, Repr

/-- The layout writes a number in full whose leading digit stands at `power`. -/
def Layout.inFull (layout : Layout) (power : Int) : Bool :=
  layout.leastPower.all (· ≤ power) && layout.powerLimit.all (power < ·)

/-- Drop the zeros at the end of a list of digits. -/
def dropZeroEnd (digits : List Char) : List Char := (digits.reverse.dropWhile (· = '0')).reverse

/-- A run of zeros. -/
def zeros (count : Nat) : List Char := List.replicate count '0'

/-- Digits written out in full, where the leading one stands at `power`. -/
def fullText (layout : Layout) (digits : List Char) (power : Int) : List Char :=
  if power < 0 then '0' :: '.' :: (zeros (-power - 1).toNat ++ digits)
  else
    let wholeLength := power.toNat + 1
    let whole := digits.take wholeLength ++ zeros (wholeLength - digits.length)
    match digits.drop wholeLength with
    | [] => if layout.fractionOfWhole then whole ++ ['.', '0'] else whole
    | fraction => whole ++ '.' :: fraction

/-- Digits with a power of ten behind them. -/
def powerText (layout : Layout) (digits : List Char) (power : Int) : List Char :=
  let leading :=
    match digits with
    | first :: second :: rest => first :: '.' :: second :: rest
    | short => short
  let sign := if power < 0 then ['-'] else if layout.plusSign then ['+'] else []
  leading ++ 'e' :: (sign ++ Nat.toDigits 10 power.natAbs)

/-- The text of a finite number without its sign. -/
def magnitudeText (layout : Layout) (mantissa : Nat) (exponent : Int) : List Char :=
  if mantissa = 0 then if layout.fractionOfWhole then ['0', '.', '0'] else ['0']
  else
    let (digits, lastPower) := (Interval.ofFinite mantissa exponent).shortest layout.tie
    let written := Nat.toDigits 10 digits
    let power := lastPower + written.length - 1
    let digits := dropZeroEnd written
    if layout.inFull power then fullText layout digits power else powerText layout digits power

/-- The text of a number. -/
def Layout.render (layout : Layout) : Binary64 → String
  | .nan => "NaN"
  | .infinite negative => if negative then "-inf" else "inf"
  | .finite negative mantissa exponent =>
    String.ofList ((if negative then ['-'] else []) ++ magnitudeText layout mantissa exponent)

/-- The value of a run of digits. -/
def natOfDigits (digits : List Char) : Nat :=
  digits.foldl (fun value digit => 10 * value + (digit.toNat - '0'.toNat)) 0

/-- The sign that a text starts with and the rest of it. -/
def splitSign : List Char → Bool × List Char
  | '-' :: rest => (true, rest)
  | '+' :: rest => (false, rest)
  | text => (false, text)

/-- An exponent part: nothing, or a mark, an optional sign and digits up to the end. -/
def readExponent : List Char → Option Int
  | [] => some 0
  | mark :: rest =>
    let (negative, digits) := splitSign rest
    if (mark = 'e' || mark = 'E') && !digits.isEmpty && digits.all Char.isDigit then
      some (if negative then -(natOfDigits digits : Int) else natOfDigits digits)
    else none

/-- Read an unsigned decimal: digits with at most one point among them, at least one digit, and an
optional exponent. The result is a whole number and a power of ten. -/
def readMagnitude (text : List Char) : Option (Nat × Int) :=
  let whole := text.takeWhile Char.isDigit
  let rest := text.dropWhile Char.isDigit
  let (fraction, rest) :=
    match rest with
    | '.' :: rest => (rest.takeWhile Char.isDigit, rest.dropWhile Char.isDigit)
    | rest => ([], rest)
  if whole.isEmpty && fraction.isEmpty then none
  else (readExponent rest).map fun exponent =>
    (natOfDigits (whole ++ fraction), exponent - fraction.length)

/-- Read a number: a signed decimal, or one of the words for infinity and for no number. -/
def read (text : String) : Option Binary64 :=
  let (negative, rest) := splitSign text.toList
  match readMagnitude rest with
  | some (digits, exponent) => some (.ofDecimal negative digits exponent)
  | none =>
    match String.ofList (rest.map Char.toLower) with
    | "inf" | "infinity" => some (.infinite negative)
    | "nan" => some .nan
    | _ => none

end Likeness.Decimal
