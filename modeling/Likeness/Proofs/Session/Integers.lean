import Likeness.Proofs.Grammar.Literals
import Likeness.Proofs.Session.Reach

/-!
# Integers up to their limits

A `Numeral` is an integer as it is written: a minus sign or none, digits, as many as one likes, and a
letter for a long number or none. Where nothing goes on with it, it is cut as one or two tokens, and
building a literal there gives the integer if it fits in 64 bits with a sign. One that does not fit
is refused, although all of its tokens have been taken by then, and the cursor stays in front of it.
-/

namespace Likeness

/-! ## Values -/

namespace Decimal

/-- What digits are worth by their places: each one counts for the power of ten with as many zeros as
there are digits behind it. -/
def placeValue : List Char → Nat
  | [] => 0
  | digit :: rest => (digit.toNat - '0'.toNat) * Whole.tenTo rest.length + placeValue rest

/-- One more digit behind a number makes it ten times as much, and adds the digit. -/
theorem foldl_eq_placeValue (digits : List Char) (before : Nat) :
    digits.foldl (fun value digit => 10 * value + (digit.toNat - '0'.toNat)) before =
      before * Whole.tenTo digits.length + placeValue digits := by
  induction digits generalizing before with
  | nil => simp [placeValue, Whole.tenTo]
  | cons digit digits ih =>
    have power : Whole.tenTo (digits.length + 1) = 10 * Whole.tenTo digits.length :=
      Nat.pow_succ'
    rw [List.foldl_cons, ih, List.length_cons, power, placeValue, Nat.add_mul, Nat.add_assoc,
      Nat.mul_comm 10 before, Nat.mul_assoc]

theorem natOfDigits_eq_placeValue (digits : List Char) : natOfDigits digits = placeValue digits := by
  rw [natOfDigits, foldl_eq_placeValue, Nat.zero_mul, Nat.zero_add]

end Decimal

/-- The integers of 64 bits with a sign, by their limits. -/
theorem Whole.isSigned64_iff (value : Int) : isSigned64 value ↔
    -9223372036854775808 ≤ value ∧ value ≤ 9223372036854775807 := by
  have limit : (twoTo 63 : Int) = 9223372036854775808 := rfl
  rw [isSigned64, Bool.and_eq_true, decide_eq_true_iff, decide_eq_true_iff, limit]
  omega

/-! ## Numerals -/

/-- An integer as it is written. -/
structure Numeral where
  negative : Bool
  digits : List Char
  suffix : Option Char
  nonempty : digits ≠ []
  decimal : ∀ char ∈ digits, char.isDigit
  long : ∀ char ∈ suffix, char = 'l' ∨ char = 'L'

namespace Numeral

/-- The characters behind the sign. -/
def unsigned (numeral : Numeral) : List Char := numeral.digits ++ numeral.suffix.toList

/-- All characters of a numeral. -/
def text (numeral : Numeral) : List Char :=
  (if numeral.negative then ['-'] else []) ++ numeral.unsigned

/-- The integer that is written. -/
def value (numeral : Numeral) : Int :=
  if numeral.negative then -(Decimal.placeValue numeral.digits : Int)
  else Decimal.placeValue numeral.digits

/-- The numeral is an integer of 64 bits with a sign. -/
def Fits (numeral : Numeral) : Prop :=
  -9223372036854775808 ≤ numeral.value ∧ numeral.value ≤ 9223372036854775807

instance (numeral : Numeral) : Decidable numeral.Fits := inferInstanceAs (Decidable (_ ∧ _))

/-- Text that can stand behind a numeral: nothing goes on with its digits, makes a fraction of them or
is a letter for a type. -/
def Ends (after : List Char) : Prop :=
  ∀ next ∈ after.head?,
    next.isDigit = false ∧ next ∉ ['.', 'e', 'E', 'l', 'L', 'f', 'F', 'd', 'D']

/-- The characters behind the sign are cut as one number. -/
theorem cuts_unsigned (numeral : Numeral) {after : List Char} (ends : Ends after) :
    (Mark.number numeral.unsigned).Cuts after := by
  refine Mark.cuts_digits numeral.nonempty numeral.decimal ?_ ?_
  · intro char member
    rcases numeral.long char member with rfl | rfl <;> rfl
  · intro next member
    obtain ⟨digit, other⟩ := ends next member
    simp only [List.mem_cons, List.not_mem_nil, or_false, not_or] at other
    simp [digit, other, Lexeme.isNumberSuffix]

/-- The value of a numeral, if it fits. -/
theorem ofNumber?_unsigned (numeral : Numeral) :
    Literal.ofNumber? numeral.negative (String.ofList numeral.unsigned) =
      if numeral.Fits then some (.integer numeral.value numeral.suffix.isSome) else none := by
  have value : numeral.value = if numeral.negative then
      -(Decimal.natOfDigits numeral.digits : Int) else Decimal.natOfDigits numeral.digits := by
    rw [Decimal.natOfDigits_eq_placeValue]
    rfl
  rw [unsigned, Literal.ofNumber?_integer numeral.decimal numeral.negative numeral.long value]
  exact if_congr (Whole.isSigned64_iff _) rfl rfl

end Numeral

namespace Parser

/-- A literal that starts like a number is one. -/
theorem run_literal_of_number {piece : Piece} (starts : piece.lexeme.startsNumber)
    (rest : List Piece) : run literal (piece :: rest) = run number (piece :: rest) := by
  have other (first : Lexeme) (different : first.startsNumber = false) : piece.lexeme ≠ first := by
    rintro rfl
    exact Bool.false_ne_true (different.symm.trans starts)
  simp [literal, contents, other .doubleQuote rfl, other .singleQuote rfl, other .trueKeyword rfl,
    other .falseKeyword rfl, other .nullKeyword rfl]

/-- A number without a sign. -/
theorem run_literal_unsigned (text : String) (glued : Bool) (rest : List Piece) :
    run literal (⟨.number, .number, text, glued⟩ :: rest) =
      (Literal.ofNumber? false text).map (·, rest) := by
  have sign : run sign (⟨.number, .number, text, glued⟩ :: rest) =
    some (false, ⟨.number, .number, text, glued⟩ :: rest) := rfl
  rw [run_literal_of_number rfl]
  simp [number, sign]

/-- A number directly behind a minus sign. -/
theorem run_literal_negative (text : String) (glued : Bool) (rest : List Piece) :
    run literal (⟨.symbol, .minus, "-", true⟩ :: ⟨.number, .number, text, glued⟩ :: rest) =
      (Literal.ofNumber? true text).map (·, rest) := by
  have sign : run sign (⟨.symbol, .minus, "-", true⟩ :: ⟨.number, .number, text, glued⟩ :: rest) =
    some (true, ⟨.number, .number, text, glued⟩ :: rest) := rfl
  rw [run_literal_of_number rfl]
  simp [number, sign]

end Parser

namespace Numeral

open Likeness.Cursor Likeness.Parser

/-- A numeral is passed as one token, or as two if it has a sign, together with the trivia behind it,
and the parser of literals takes these tokens just when there is a value. -/
theorem exists_passes (numeral : Numeral) {cursor : Cursor} {after : List Char}
    (shape : cursor.rest = numeral.text ++ after) (ends : Ends after) :
    ∃ front, Passes .skip cursor front (cursor.skip numeral.text.length).skipTrivia ∧
      ∀ rest, run literal (front.map Spot.piece ++ rest) =
        (Literal.ofNumber? numeral.negative (String.ofList numeral.unsigned)).map (·, rest) := by
  have cuts := numeral.cuts_unsigned ends
  rw [text] at shape ⊢
  cases negative : numeral.negative with
  | false =>
    simp only [negative, Bool.false_eq_true, if_false, List.nil_append] at shape ⊢
    have number := scan_of_cuts cuts shape .skip
    exact ⟨[_], .cut number (.stay _), run_literal_unsigned _ _⟩
  | true =>
    simp only [negative, if_true, List.cons_append, List.nil_append, List.length_cons] at shape ⊢
    have minus : (Mark.symbol .minus).Cuts (numeral.unsigned ++ after) := by
      obtain ⟨digit, digits, first⟩ := List.exists_cons_of_ne_nil numeral.nonempty
      rw [unsigned, first]
      exact Mark.cuts_minus (numeral.decimal digit (first ▸ .head _)) _
    have sign : cursor.scan .skip = some (cursor.spot .skip .symbol .minus ['-']) :=
      scan_of_cuts minus shape .skip
    -- No trivia stands between the sign and the digits, so the sign is glued to them.
    have behind : (cursor.skip 1).rest = numeral.unsigned ++ after := by simp [shape]
    have glued : (cursor.skip 1).skipTrivia = cursor.skip 1 :=
      skipTrivia_eq_self (behind ▸ cuts.1)
    have next : (cursor.spot .skip .symbol .minus ['-']).next = cursor.skip 1 := glued
    have piece : (cursor.spot .skip .symbol .minus ['-']).piece = ⟨.symbol, .minus, "-", true⟩ := by
      simp [Spot.piece, spot, settle, glued]
    have number := scan_of_cuts cuts behind .skip
    rw [← next] at number
    refine ⟨[_, _], .cut sign (.cut number ?_), fun rest => ?_⟩
    · rw [Nat.add_comm, skip_add, next]
      exact .stay _
    · rw [List.map_cons, piece]
      exact run_literal_negative _ _ rest

/-- Building a literal in front of a numeral gives its value and the place behind it and its trivia,
or nothing. -/
theorem result_build (numeral : Numeral) {cursor : Cursor} {after : List Char}
    (shape : cursor.rest = numeral.text ++ after) (ends : Ends after) :
    (cursor.build (Part.parser .literal)).result =
      if numeral.Fits then
        some (.literal (.integer numeral.value numeral.suffix.isSome),
          (cursor.skip numeral.text.length).skipTrivia)
      else none := by
  obtain ⟨front, passes, taken⟩ := numeral.exists_passes shape ends
  rw [numeral.ofNumber?_unsigned] at taken
  split
  · rename_i fits
    rw [if_pos fits] at taken
    refine build_of_passes passes rfl ?_
    rw [List.map_append, Part.parser, run_map, taken]
    rfl
  · rename_i large
    rw [if_neg large] at taken
    have all := (passes.append (passes_spots .skip _)).spots_eq (scan_spots_eq_none _ .skip)
    rw [build_eq_none_iff, all, List.map_append, Part.parser, run_map, taken]
    rfl

end Numeral

/-- Where a numeral stands at the top cursor of a session and nothing goes on with it, building a
literal gives the integer that is written, long just when it has a letter behind it, if that is an
integer of 64 bits with a sign. The top cursor then moves past the numeral and the trivia behind it.
Otherwise nothing is built and the top cursor stays. In both cases all else stays as it is, but for
the place that is noted. -/
theorem build_integer_up_to_limits (numeral : Numeral) (session : Session) (after : List Char)
    (shape : session.top.rest = numeral.text ++ after) (ends : Numeral.Ends after) :
    ∃ reach, session.build .literal =
      if numeral.Fits then
        (some (.literal (.integer numeral.value numeral.suffix.isSome)),
          { session with
            top := (session.top.skip numeral.text.length).skipTrivia
            reach })
      else (none, { session with reach }) := by
  have built := numeral.result_build shape ends
  refine ⟨(session.build .literal).2.reach, ?_⟩
  by_cases fits : numeral.Fits
  · rw [if_pos fits] at built ⊢
    simp only [Session.build_eq, built, Option.map_some, Option.getD_some]
  · rw [if_neg fits] at built ⊢
    simp only [Session.build_eq, built, Option.map_none, Option.getD_none]

/-- The least integer of 64 bits, with zeros in front, is built, and the comment behind it is passed.
Without its sign it is one more than the largest, and is refused. -/
theorem build_integer_at_limits :
    (∃ reach, (Session.start "-009223372036854775808L /* least */;" true).build .literal =
      (some (.literal (.integer (-9223372036854775808) true)),
        { Session.start "-009223372036854775808L /* least */;" true with
          top := ⟨[';'], 35, ⟨0, 35⟩⟩
          reach })) ∧
    ∃ reach, (Session.start "9223372036854775808" true).build .literal =
      (none, { Session.start "9223372036854775808" true with reach }) := by
  constructor
  · exact build_integer_up_to_limits
      ⟨true, "009223372036854775808".toList, some 'L', by decide, List.all_eq_true.1 (by decide),
        by rintro _ ⟨⟩; exact .inr rfl⟩
      (Session.start "-009223372036854775808L /* least */;" true) " /* least */;".toList
      (by decide) (by rintro _ ⟨⟩; decide)
  · exact build_integer_up_to_limits
      ⟨false, "9223372036854775808".toList, none, by decide, List.all_eq_true.1 (by decide), nofun⟩
      (Session.start "9223372036854775808" true) [] (by decide) nofun

end Likeness
