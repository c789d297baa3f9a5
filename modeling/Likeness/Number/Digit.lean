/-!
# Digits

The values of digits in bases up to sixteen, where letters of either case go on after nine.
-/

namespace Likeness.Digit

/-- The value of a digit. -/
def value? (char : Char) : Option Nat :=
  if char.isDigit then some (char.toNat - '0'.toNat)
  else if 'a' ≤ char && char ≤ 'f' then some (char.toNat - 'a'.toNat + 10)
  else if 'A' ≤ char && char ≤ 'F' then some (char.toNat - 'A'.toNat + 10)
  else none

/-- The character is a digit of a base. -/
def isIn (base : Nat) (char : Char) : Bool := (value? char).any (· < base)

/-- The value of a run of digits that follow a number, if all of them are in the base. -/
def readFrom (base : Nat) : Nat → List Char → Option Nat
  | number, [] => some number
  | number, char :: rest => do
    let digit ← value? char
    if digit < base then readFrom base (base * number + digit) rest else none

/-- The value of a run of digits, if all of them are in the base. -/
def read (base : Nat) (digits : List Char) : Option Nat := readFrom base 0 digits

/-- A run of digits has a value exactly when all of them are in the base. -/
theorem isSome_readFrom (base number : Nat) (digits : List Char) :
    (readFrom base number digits).isSome = digits.all (isIn base) := by
  induction digits generalizing number with
  | nil => rfl
  | cons char rest ih =>
    rw [readFrom, List.all_cons, isIn]
    cases value? char with
    | none => rfl
    | some digit => by_cases inBase : digit < base <;> simp [inBase, ih]

end Likeness.Digit
