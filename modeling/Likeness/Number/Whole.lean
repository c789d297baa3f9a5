/-!
# Whole numbers

Sums of weights, the powers that scale binary and decimal numbers, and the ranges of integers of a
fixed width.
-/

namespace Likeness.Whole

/-- The sum of several numbers. -/
def sum : List Nat → Nat
  | [] => 0
  | number :: rest => number + sum rest

@[simp] theorem sum_nil : sum [] = 0 := rfl

@[simp] theorem sum_cons (number : Nat) (rest : List Nat) :
    sum (number :: rest) = number + sum rest := rfl

/-- Numbers in two lists sum to the sums of both. -/
@[simp] theorem sum_append (left right : List Nat) :
    sum (left ++ right) = sum left + sum right := by
  induction left with
  | nil => simp
  | cons number rest ih => simp [ih, Nat.add_assoc]

/-- The power of two with a natural exponent. -/
def twoTo (exponent : Nat) : Nat := Nat.pow 2 exponent

/-- The power of ten with a natural exponent. -/
def tenTo (exponent : Nat) : Nat := Nat.pow 10 exponent

theorem twoTo_pos (exponent : Nat) : 0 < twoTo exponent := Nat.pow_pos (by decide)

theorem tenTo_pos (exponent : Nat) : 0 < tenTo exponent := Nat.pow_pos (by decide)

/-- The integer is one of 64 bits with a sign. -/
def isSigned64 (value : Int) : Bool := -(twoTo 63 : Int) ≤ value && value < twoTo 63

/-- The largest number of 64 bits without a sign. -/
def greatest64 : Nat := twoTo 64 - 1

end Likeness.Whole
