import Likeness.Proofs.Grammar.Names

/-!
# Literals are read back

The label of a literal is spelled by one mark, or by a minus sign and a number directly behind it,
and the parser of literals reads it as the same literal. Other literals are tried first, so each
alternative is shown to start with its own lexemes only.
-/

namespace Likeness

open Mark

/-! ## Numbers -/

/-- A digit is neither a letter that closes a number nor one that makes it a fraction. -/
theorem Lexeme.not_suffix_of_isDigit {char : Char} (digit : char.isDigit) :
    isNumberSuffix char = false ∧ (char = '.' || char = 'e' || char = 'E') = false := by
  constructor
  · rw [Bool.eq_false_iff]
    intro isSuffix
    simp only [isNumberSuffix, Bool.or_eq_true, decide_eq_true_iff] at isSuffix
    rcases isSuffix with ((((rfl | rfl) | rfl) | rfl) | rfl) | rfl <;> contradiction
  · rw [Bool.eq_false_iff]
    intro fractional
    simp only [Bool.or_eq_true, decide_eq_true_iff] at fractional
    rcases fractional with (rfl | rfl) | rfl <;> contradiction

/-- Digits, and perhaps a letter for a long number, are an integer if it fits and nothing otherwise. -/
theorem Literal.ofNumber?_integer {digits : List Char} (all : ∀ char ∈ digits, char.isDigit)
    (negative : Bool) {suffix : Option Char} (letter : ∀ char ∈ suffix, char = 'l' ∨ char = 'L')
    {value : Int} (same : value = if negative then -(Decimal.natOfDigits digits : Int)
      else Decimal.natOfDigits digits) :
    ofNumber? negative (String.ofList (digits ++ suffix.toList)) =
      if Whole.isSigned64 value then some (.integer value suffix.isSome) else none := by
  have whole : (digits.any fun char => char = '.' || char = 'e' || char = 'E') = false := by
    rw [List.any_eq_false]
    intro char member
    rw [(Lexeme.not_suffix_of_isDigit (all char member)).2]
    exact Bool.false_ne_true
  cases suffix with
  | none =>
    have noSuffix : digits.getLast?.filter Lexeme.isNumberSuffix = none := by
      rw [Option.filter_eq_none_iff]
      intro char last
      rw [(Lexeme.not_suffix_of_isDigit (all char (List.mem_of_getLast? last))).1]
      exact Bool.false_ne_true
    simp only [ofNumber?, String.toList_ofList, Option.toList_none, List.append_nil, noSuffix,
      Option.isSome_none, Bool.false_eq_true, if_false, whole, ← same]
    rfl
  | some char =>
    have isLetter : Lexeme.isNumberSuffix char := by
      rcases letter char rfl with rfl | rfl <;> rfl
    have suffix : (digits ++ [char]).getLast?.filter Lexeme.isNumberSuffix = some char := by
      rw [List.getLast?_concat, Option.filter_some, if_pos isLetter]
    simp only [ofNumber?, String.toList_ofList, Option.toList_some, suffix, Option.isSome_some,
      if_true, List.dropLast_concat, whole, ← same]
    rcases letter char rfl with rfl | rfl <;> rfl

/-- Digits, and perhaps the letter for a long number, are an integer if it fits. -/
theorem Literal.ofNumber?_digits {digits : List Char} (all : ∀ char ∈ digits, char.isDigit)
    (negative long : Bool) {value : Int}
    (same : value = if negative then -(Decimal.natOfDigits digits : Int)
      else Decimal.natOfDigits digits)
    (fits : Whole.isSigned64 value) :
    ofNumber? negative (String.ofList (digits ++ if long then ['L'] else [])) =
      some (.integer value long) := by
  cases long with
  | true =>
    have letter : ∀ char ∈ some 'L', char = 'l' ∨ char = 'L' := by
      rintro _ ⟨⟩
      exact .inr rfl
    exact (ofNumber?_integer all negative letter same).trans (if_pos fits)
  | false =>
    have letter : ∀ char ∈ (none : Option Char), char = 'l' ∨ char = 'L' := nofun
    exact (ofNumber?_integer all negative letter same).trans (if_pos fits)

theorem Decimal.natOfDigits_toDigits (number : Nat) :
    natOfDigits (Nat.toDigits 10 number) = number := by
  rw [natOfDigits, ← Nat.ofDigitChars_eq_foldl, Nat.ofDigitChars_ten_toDigits]

/-- An integer is written with a sign, if it is negative, and digits. -/
theorem Decimal.toList_toString (value : Int) : (toString value).toList =
    (if decide (value < 0) then ['-'] else []) ++ Nat.toDigits 10 value.natAbs := by
  rw [Int.toString_eq_repr, Int.repr_eq_if]
  split
  · rename_i nonnegative
    have size : value.toNat = value.natAbs := by omega
    rw [Nat.toList_repr, decide_eq_false (by omega), size]
    rfl
  · rename_i negative
    have size : (-value).toNat = value.natAbs := by omega
    rw [String.toList_append, Nat.toList_repr, decide_eq_true (by omega), size]
    rfl

theorem Decimal.isDigit_toDigits (number : Nat) : ∀ char ∈ Nat.toDigits 10 number, char.isDigit :=
  fun _ member => Nat.isDigit_of_mem_toDigits (by decide) (by decide) member

/-- The marks of a number: its sign, if it has one, and its digits. -/
def Mark.signed (negative : Bool) (text : List Char) : List Mark :=
  if negative then [symbol .minus, number text] else [number text]

/-- The marks of an integer write its label and are cut as they are. -/
theorem Mark.spells_signed (negative : Bool) (size : Nat) (long : Bool) :
    Spells (signed negative (Nat.toDigits 10 size ++ if long then ['L'] else []))
      ((if negative then ['-'] else []) ++ Nat.toDigits 10 size ++
        if long then ['L'] else []) := by
  have isDigit := Decimal.isDigit_toDigits size
  have cut : ∀ after, Closed after →
      (number (Nat.toDigits 10 size ++ if long then ['L'] else [])).Cuts after := by
    intro after closed
    refine cuts_number Nat.toDigits_ne_nil isDigit long fun next member => ?_
    have closing := closed next member
    simp only [closes, Bool.and_eq_true, Bool.not_eq_true', decide_eq_true_iff] at closing
    exact closing.1
  cases shape : Nat.toDigits 10 size with
  | nil => exact absurd shape Nat.toDigits_ne_nil
  | cons first digits =>
    rw [shape] at isDigit cut
    have digit := isDigit first (.head _)
    cases negative with
    | true =>
      refine ⟨?_, ⟨'-', rfl, by decide⟩, fun after closed => ⟨?_, cut after closed, trivial⟩⟩
      · simp [signed, symbol, number, Lexeme.spelling, Lexeme.symbols]
      · exact cuts_minus digit _
    | false =>
      refine ⟨?_, ⟨first, rfl, ?_⟩, fun after closed => ⟨cut after closed, trivial⟩⟩
      · simp [signed, number]
      · rintro rfl
        contradiction

/-- The marks of an integer are read as the integer. -/
theorem Mark.reads_signed {negative : Bool} {text : List Char} {value : Literal}
    (found : Literal.ofNumber? negative (String.ofList text) = some value) (bound : Nat) :
    Reads bound Parser.number (fun _ => True) (signed negative text) value := by
  have read : Reads bound (do
      let text ← Parser.accept fun piece => if piece.lexeme = .number then some piece.text else none
      Parser.ofOption (Literal.ofNumber? negative text)) (fun _ => True) [number text] value := by
    intro rest _ _
    simp [number, pieces, found]
  cases negative with
  | true =>
    -- The sign is glued to the number, so it is read where no gap stands between the two.
    have sign (rest : List Mark) : Parser.run Parser.sign
        (pieces (symbol .minus :: number text :: rest)) = some (true, pieces (number text :: rest)) :=
      rfl
    intro rest short follows
    have shorter : (pieces (number text :: rest)).length ≤ bound := Nat.le_of_succ_le short
    show Parser.run Parser.number (pieces (symbol .minus :: number text :: rest)) = _
    rw [Parser.number, Parser.run_bind, sign, Option.bind_some]
    exact read rest shorter follows
  | false =>
    have sign (rest : List Mark) : Parser.run Parser.sign (pieces (number text :: rest)) =
        some (false, pieces (number text :: rest)) := rfl
    intro rest short follows
    show Parser.run Parser.number (pieces (number text :: rest)) = _
    rw [Parser.number, Parser.run_bind, sign, Option.bind_some]
    exact read rest short follows

/-! ## Literals -/

/-- A lexeme that a number can start with. -/
def Lexeme.startsNumber (lexeme : Lexeme) : Bool := lexeme = .minus || lexeme = .number

/-- A number starts with its sign or a digit. -/
theorem Parser.opens_number : Opens number Lexeme.startsNumber := by
  intro input other
  cases input with
  | nil => rfl
  | cons piece rest =>
    obtain ⟨noSign, noDigit⟩ := Bool.or_eq_false_iff.1 other
    have sign : run sign (piece :: rest) = some (false, piece :: rest) := by
      rw [run, Parser.sign, if_neg (of_decide_eq_false noSign)]
    simp [number, sign, of_decide_eq_false noDigit]

theorem Parser.opens_contents (quote : Lexeme) : Opens (contents quote) (· = quote) := by
  refine opens_accept fun piece other => ?_
  simp [of_decide_eq_false other]

/-- A lexeme that a literal can start with. -/
def Lexeme.startsLiteral : Lexeme → Bool
  | .doubleQuote | .singleQuote | .trueKeyword | .falseKeyword | .nullKeyword | .minus
  | .number => true
  | _ => false

/-- A literal starts with a quote, a reserved word for a value, a sign or a digit. -/
theorem Parser.opens_literal : Opens literal Lexeme.startsLiteral := by
  have opens : Opens literal _ :=
    ((opens_contents .doubleQuote).map _).orElse (((opens_contents .singleQuote).map _).orElse
      (((opens_lexeme .trueKeyword).map _).orElse (((opens_lexeme .falseKeyword).map _).orElse
        (((opens_lexeme .nullKeyword).map _).orElse opens_number))))
  refine opens.mono fun lexeme => ?_
  cases lexeme <;> decide

/-- A closed literal is read as its contents. -/
theorem Mark.reads_quoted {quote : Lexeme} (single : quote.spelling.length = 1) (contents : String)
    (bound : Nat) : Reads bound (Parser.contents quote) (fun _ => True) [quoted quote contents]
      contents := by
  intro rest _ _
  obtain ⟨delimiter, spelling⟩ := List.length_eq_one_iff.1 single
  simp [Parser.contents, quoted, pieces, spelling]

/-- A quote that stands around contents which it closes is a phrase. -/
theorem Mark.spells_quoted {quote : Lexeme} {delimiter : Char} {contents : String}
    (shape : quote = .doubleQuote ∧ delimiter = '"' ∨ quote = .singleQuote ∧ delimiter = '\'')
    (quotable : IsQuotable delimiter contents) :
    Spells [quoted quote contents] (delimiter :: contents.toList ++ [delimiter]) where
  written := by
    rcases shape with ⟨rfl, rfl⟩ | ⟨rfl, rfl⟩ <;> simp [quoted, Lexeme.spelling, Lexeme.symbols]
  opens := ⟨delimiter, rfl, by rcases shape with ⟨_, rfl⟩ | ⟨_, rfl⟩ <;> decide⟩
  lexes := fun after _ => ⟨cuts_quoted shape quotable _, trivial⟩

/-- A literal without quotes. -/
def Parser.bareLiteral : Parser Literal :=
  ((fun _ => Literal.boolean true) <$> lexeme .trueKeyword)
    <|> ((fun _ => Literal.boolean false) <$> lexeme .falseKeyword)
    <|> ((fun _ => Literal.null) <$> lexeme .nullKeyword)
    <|> number

/-- A literal without quotes is a literal. -/
theorem Mark.Reads.bareLiteral {bound : Nat} {follow : Option Lexeme → Prop} {marks : List Mark}
    {value : Literal} (reads : Reads bound Parser.bareLiteral follow marks value) {lexeme : Lexeme}
    (start : next? marks = some lexeme) (bare : lexeme ≠ .doubleQuote ∧ lexeme ≠ .singleQuote) :
    Reads bound Parser.literal follow marks value := by
  refine Reads.otherwise ?_ ((Parser.opens_contents .doubleQuote).map _) start ?_
  · refine Reads.otherwise reads ((Parser.opens_contents .singleQuote).map _) start ?_
    exact decide_eq_false bare.2
  · exact decide_eq_false bare.1

theorem Mark.next?_signed (negative : Bool) (text : List Char) :
    next? (signed negative text) = some (if negative then .minus else .number) := by
  cases negative <;> rfl

/-- A literal is spelled by marks that are read as the same literal. -/
theorem Literal.WellFormed.exists_marks {value : Literal} (writable : value.WellFormed) :
    ∃ marks, Spells marks value.label.toList ∧
      (∃ lexeme, next? marks = some lexeme ∧ lexeme.startsLiteral) ∧
      ∀ bound, Reads bound Parser.literal (fun _ => True) marks value := by
  cases writable with
  | @string contents quotable =>
    refine ⟨[quoted .doubleQuote contents], ?_, ⟨_, rfl, rfl⟩, fun bound => ?_⟩
    · simpa [Literal.label] using spells_quoted (.inl ⟨rfl, rfl⟩) quotable
    · exact ((reads_quoted rfl contents bound).map _).orElse _
  | @char contents quotable =>
    refine ⟨[quoted .singleQuote contents], ?_, ⟨_, rfl, rfl⟩, fun bound => ?_⟩
    · simpa [Literal.label] using spells_quoted (.inr ⟨rfl, rfl⟩) quotable
    · refine Reads.otherwise ?_ ((Parser.opens_contents .doubleQuote).map _) rfl rfl
      exact ((reads_quoted rfl contents bound).map _).orElse _
  | null =>
    refine ⟨[word "null"], spells_word _ (by decide), ⟨_, rfl, by decide⟩, fun bound => ?_⟩
    refine Reads.bareLiteral ?_ rfl (by decide)
    refine Reads.otherwise ?_ ((Parser.opens_lexeme .trueKeyword).map _) rfl (by decide)
    refine Reads.otherwise ?_ ((Parser.opens_lexeme .falseKeyword).map _) rfl (by decide)
    exact ((reads_keyword (by decide)).map _).orElse _
  | boolean value =>
    cases value with
    | true =>
      refine ⟨[word "true"], spells_word _ (by decide), ⟨_, rfl, by decide⟩, fun bound => ?_⟩
      refine Reads.bareLiteral ?_ rfl (by decide)
      exact ((reads_keyword (by decide)).map _).orElse _
    | false =>
      refine ⟨[word "false"], spells_word _ (by decide), ⟨_, rfl, by decide⟩, fun bound => ?_⟩
      refine Reads.bareLiteral ?_ rfl (by decide)
      refine Reads.otherwise ?_ ((Parser.opens_lexeme .trueKeyword).map _) rfl (by decide)
      exact ((reads_keyword (by decide)).map _).orElse _
  | @integer value fits long =>
    have size : value = if decide (value < 0) then -(Decimal.natOfDigits
        (Nat.toDigits 10 value.natAbs) : Int)
        else Decimal.natOfDigits (Nat.toDigits 10 value.natAbs) := by
      simp only [Decimal.natOfDigits_toDigits, decide_eq_true_iff]
      split <;> omega
    have found := Literal.ofNumber?_digits (Decimal.isDigit_toDigits value.natAbs)
      (decide (value < 0)) long size fits
    have spells := spells_signed (decide (value < 0)) value.natAbs long
    have start := next?_signed (decide (value < 0))
      (Nat.toDigits 10 value.natAbs ++ if long then ['L'] else [])
    refine ⟨_, ?_, ⟨_, start, ?_⟩, fun bound => ?_⟩
    · rw [Literal.label, String.toList_append, Decimal.toList_toString]
      cases long <;> exact spells
    · split <;> rfl
    · refine Reads.bareLiteral ?_ start (by split <;> decide)
      refine Reads.otherwise ?_ ((Parser.opens_lexeme .trueKeyword).map _) start (by split <;> rfl)
      refine Reads.otherwise ?_ ((Parser.opens_lexeme .falseKeyword).map _) start (by split <;> rfl)
      refine Reads.otherwise ?_ ((Parser.opens_lexeme .nullKeyword).map _) start (by split <;> rfl)
      exact reads_signed found bound

end Likeness
