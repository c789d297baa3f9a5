import Likeness.Proofs.Grammar.Literals
import Likeness.Proofs.Token.Spelling

/-!
# The leaves of a tree

A tree keeps the identifiers, qualifiers and literals of its text. Walked in source order they are
its leaves. `Leaf.Written` tells how a leaf is written as a token: a number has no sign, since a
minus in front of it is a token of its own, and an identifier inside a type or a dotted name is a
run of the characters that words are made of.
-/

namespace Likeness

/-- What a tree keeps of a single token. -/
inductive Leaf where
  | word (name : String)
  | qualifier (value : Qualifier)
  | literal (value : Literal)
deriving DecidableEq, Repr

/-- The words in a text: the longest runs of characters that words are made of. -/
def Lexeme.words (text : List Char) : List String :=
  ((text.splitOnP fun char => !continuesWord char).filter (!·.isEmpty)).map String.ofList

/-- The leaves of a name that may have dots, type arguments and array brackets. -/
def Leaf.ofName (name : String) : List Leaf := (Lexeme.words name.toList).map Leaf.word

namespace Statement

mutual

/-- The leaves of a statement. -/
def leaves : Statement → List Leaf
  | .unary _ operand => operand.leaves
  | .binary _ left right => left.leaves ++ right.leaves
  | .literal value => [.literal value]
  | .reference name => Leaf.ofName name
  | .group items => leavesOfAll items

/-- The leaves of several statements. -/
def leavesOfAll : List Statement → List Leaf
  | [] => []
  | statement :: rest => statement.leaves ++ leavesOfAll rest

end

end Statement

/-- The leaves of a declaration. -/
def Declaration.leaves (declared : Declaration) : List Leaf :=
  declared.qualifiers.map Leaf.qualifier ++ Leaf.ofName declared.typeText
    ++ [Leaf.word declared.name] ++ (declared.initializer.map Statement.leaves).getD []

mutual

/-- The leaves of an expression. -/
def Expression.leaves : Expression → List Leaf
  | .empty => []
  | .declaration declared => declared.leaves
  | .block inner => inner.leaves
  | .statement value => value.leaves

/-- The leaves of a block. The condition of a `do` stands behind its body. -/
def Block.leaves : Block → List Leaf
  | .branch condition thenBody elseBody =>
    condition.leaves ++ Expression.leavesOfAll thenBody ++ Expression.leavesOfAll elseBody
  | .whileLoop condition body => condition.leaves ++ Expression.leavesOfAll body
  | .doWhileLoop condition body => Expression.leavesOfAll body ++ condition.leaves
  | .forLoop init condition iteration body =>
    init.leaves ++ condition.leaves ++ iteration.leaves ++ Expression.leavesOfAll body
  | .guarded resources body handlers cleanup =>
    resources.flatMap Declaration.leaves ++ Expression.leavesOfAll body
      ++ CatchClause.leavesOfAll handlers ++ Expression.leavesOfOptional cleanup

/-- The leaves of a catch clause. -/
def CatchClause.leaves : CatchClause → List Leaf
  | ⟨exceptionTypes, binder, body⟩ =>
    exceptionTypes.flatMap (fun type => Leaf.ofName type.name) ++ [.word binder]
      ++ Expression.leavesOfAll body

/-- The leaves of several expressions. -/
def Expression.leavesOfAll : List Expression → List Leaf
  | [] => []
  | expression :: rest => expression.leaves ++ Expression.leavesOfAll rest

/-- The leaves of several catch clauses. -/
def CatchClause.leavesOfAll : List CatchClause → List Leaf
  | [] => []
  | clause :: rest => clause.leaves ++ CatchClause.leavesOfAll rest

/-- The leaves of a body that may be missing. -/
def Expression.leavesOfOptional : Option (List Expression) → List Leaf
  | none => []
  | some body => Expression.leavesOfAll body

end

/-- The leaves of a whole tree, in source order. -/
def SyntaxTree.leaves (tree : SyntaxTree) : List Leaf := Expression.leavesOfAll tree.expressions

/-- The leaves of several statements are those of each of them. -/
theorem Statement.leavesOfAll_eq (items : List Statement) :
    Statement.leavesOfAll items = items.flatMap Statement.leaves := by
  induction items with
  | nil => rfl
  | cons item items ih => rw [Statement.leavesOfAll, ih, List.flatMap_cons]

/-- The leaves of several expressions are those of each of them. -/
theorem Expression.leavesOfAll_eq (items : List Expression) :
    Expression.leavesOfAll items = items.flatMap Expression.leaves := by
  induction items with
  | nil => rfl
  | cons item items ih => rw [Expression.leavesOfAll, ih, List.flatMap_cons]

/-- The leaves of several catch clauses are those of each of them. -/
theorem CatchClause.leavesOfAll_eq (items : List CatchClause) :
    CatchClause.leavesOfAll items = items.flatMap CatchClause.leaves := by
  induction items with
  | nil => rfl
  | cons item items ih => rw [CatchClause.leavesOfAll, ih, List.flatMap_cons]

/-! ## Names -/

namespace Lexeme

/-- A text that is made of word characters is one word. -/
theorem words_of_all {text : List Char} (some : text ≠ [])
    (all : ∀ char ∈ text, continuesWord char) : words text = [String.ofList text] := by
  have whole : (text.splitOnP fun char => !continuesWord char) = [text] :=
    List.splitOnP_eq_singleton (by simpa using all)
  simp [words, whole, some]

/-- A character that no word goes on with stands between words. -/
theorem words_append_cons (left right : List Char) {mark : Char}
    (other : continuesWord mark = false) :
    words (left ++ mark :: right) = words left ++ words right := by
  have parts := List.splitOnP_append_cons left right (p := fun char => !continuesWord char)
    (show (!continuesWord mark) = true by simp [other])
  simp [words, parts]

/-- What no word goes on with stands between words. -/
theorem words_append_gap (left right : List Char) {gap : List Char} (some : gap ≠ [])
    (none : gap.any continuesWord = false) :
    words (left ++ (gap ++ right)) = words left ++ words right := by
  induction gap generalizing left with
  | nil => contradiction
  | cons mark gap ih =>
    rw [List.any_cons, Bool.or_eq_false_iff] at none
    obtain ⟨other, others⟩ := none
    rw [List.cons_append, words_append_cons left _ other]
    cases gap with
    | nil => rfl
    | cons => exact congrArg _ (ih [] (List.cons_ne_nil _ _) others)

/-- What no word goes on with may stand behind the last one. -/
theorem words_append_end (left : List Char) {gap : List Char}
    (none : gap.any continuesWord = false) : words (left ++ gap) = words left := by
  cases gap with
  | nil => rw [List.append_nil]
  | cons mark gap =>
    have ended := words_append_gap left [] (List.cons_ne_nil mark gap) none
    rw [List.append_nil] at ended
    exact ended.trans (List.append_nil _)

/-- Parts with something between them that no word goes on with have the words of each part. -/
theorem words_intercalate {gap : List Char} (some : gap ≠ [])
    (none : gap.any continuesWord = false) (parts : List (List Char)) :
    words (gap.intercalate parts) = parts.flatMap words := by
  induction parts with
  | nil => rfl
  | cons part parts ih =>
    cases parts with
    | nil => simp [List.intercalate]
    | cons other parts =>
      rw [List.intercalate_cons_cons, List.append_assoc, words_append_gap _ _ some none, ih]
      rfl

end Lexeme

namespace Leaf

theorem ofName_of_all {name : String} (some : name.toList ≠ [])
    (all : ∀ char ∈ name.toList, Lexeme.continuesWord char) : ofName name = [.word name] := by
  simp [ofName, Lexeme.words_of_all some all]

/-- Names with something between them that no word goes on with have the leaves of each name. -/
theorem ofName_intercalate {gap : String} (some : gap.toList ≠ [])
    (none : gap.toList.any Lexeme.continuesWord = false) (names : List String) :
    ofName (String.intercalate gap names) = names.flatMap ofName := by
  rw [ofName, String.toList_intercalate, Lexeme.words_intercalate some none, List.flatMap_map,
    List.map_flatMap]
  rfl

/-- A type has the leaves of its name and of its arguments. -/
theorem ofName_typeText (name : String) (arguments : Option (List String)) (arrays : Nat) :
    ofName (Parser.typeText name arguments arrays) =
      ofName name ++ (arguments.getD []).flatMap ofName := by
  have brackets : (String.join (List.replicate arrays "[]")).toList.any Lexeme.continuesWord =
      false := by
    have both : "[]".toList.any Lexeme.continuesWord = false := by decide
    refine List.any_eq_false.2 fun char member => ?_
    obtain ⟨part, isPart, member⟩ := List.mem_flatMap.1 (String.toList_join ▸ member)
    rw [List.eq_of_mem_replicate isPart] at member
    exact List.any_eq_false.1 both char member
  simp only [ofName, Parser.typeText, String.toList_append]
  rw [Lexeme.words_append_end _ brackets]
  cases arguments with
  | none => simp
  | some arguments =>
    have opened : "<".toList = ['<'] := rfl
    have closed : ">".toList = ['>'] := rfl
    simp only [String.toList_append, opened, closed, List.append_assoc]
    rw [Lexeme.words_append_gap name.toList _ (List.cons_ne_nil '<' []) (by decide),
      Lexeme.words_append_end _ (by decide), List.map_append]
    exact congrArg _ (ofName_intercalate (by decide) (by decide) arguments)

end Leaf

/-! ## Numbers -/

namespace Lexeme

/-- A text whose last character is a digit. -/
def EndsInDigit (text : List Char) : Prop := ∀ char ∈ text.getLast?, char.isDigit

/-- A text ends in a digit if digits stand behind it. -/
theorem endsInDigit_append (front : List Char) {digits : List Char} (some : digits ≠ [])
    (all : ∀ char ∈ digits, char.isDigit) : EndsInDigit (front ++ digits) := by
  intro char last
  rw [List.getLast?_append_of_ne_nil _ some] at last
  exact all char (List.mem_of_getLast? last)

/-- A character that makes a number a fraction. -/
def isFractional (char : Char) : Bool := char = '.' || char = 'e' || char = 'E'

/-- Nothing is added to a number, or a part with a point or an exponent that ends in a digit. -/
def Extends (part : List Char) : Prop :=
  part = [] ∨ part.any isFractional ∧ ∀ front, EndsInDigit (front ++ part)

theorem isDigit_of_mem_takeWhile (text : List Char) :
    ∀ char ∈ text.takeWhile Char.isDigit, char.isDigit :=
  List.all_eq_true.1 List.all_takeWhile

/-- A fraction is nothing or has a point. -/
theorem extends_fraction (text : List Char) : Extends (fraction text) := by
  fun_cases fraction text with
  | case1 => exact .inl rfl
  | case2 rest digits some =>
    refine .inr ⟨rfl, fun front => ?_⟩
    rw [List.append_cons]
    exact endsInDigit_append _ (by simpa using some) (isDigit_of_mem_takeWhile rest)
  | case3 => exact .inl rfl

/-- An exponent is nothing or has its mark. -/
theorem extends_exponent (text : List Char) : Extends (exponent text) := by
  fun_cases exponent text with
  | case1 => exact .inl rfl
  | case2 mark rest marked sign digits some =>
    refine .inr ⟨?_, fun front => ?_⟩
    · simp only [Bool.or_eq_true, decide_eq_true_iff] at marked
      rcases marked with rfl | rfl <;> rfl
    · rw [List.append_cons, ← List.append_assoc]
      exact endsInDigit_append _ (by simpa using some) (isDigit_of_mem_takeWhile _)
  | case3 => exact .inl rfl
  | case4 => exact .inl rfl

/-- A text that ends in a digit does so with a fraction or an exponent behind it. -/
theorem EndsInDigit.append {front part : List Char} (ends : EndsInDigit front)
    (extension : Extends part) : EndsInDigit (front ++ part) := by
  rcases extension with rfl | ⟨_, last⟩
  · rwa [List.append_nil]
  · exact last front

/-- A number is a run of digits, what makes it a fraction, and perhaps a letter. -/
theorem numberText_cases (text : List Char) (some : text.takeWhile Char.isDigit ≠ []) :
    ∃ middle suffix, numberText text = text.takeWhile Char.isDigit ++ middle ++ suffix ∧
      (middle = [] ∨ middle.any isFractional) ∧
      EndsInDigit (text.takeWhile Char.isDigit ++ middle) ∧
      (suffix = [] ∨ ∃ letter, suffix = [letter] ∧ isNumberSuffix letter) := by
  let whole := text.takeWhile Char.isDigit
  let point := fraction (text.drop whole.length)
  let power := exponent (text.drop (whole ++ point).length)
  have pointed : Extends point := extends_fraction _
  have powered : Extends power := extends_exponent _
  have digits : EndsInDigit whole := endsInDigit_append [] some (isDigit_of_mem_takeWhile text)
  refine ⟨point ++ power, ((text.drop (whole ++ point ++ power).length).take 1).filter
    isNumberSuffix, by rw [← List.append_assoc]; rfl, ?_, ?_, ?_⟩
  · rcases pointed with none | ⟨marked, _⟩
    · rcases powered with none' | ⟨marked', _⟩
      · exact .inl (by rw [none, none']; rfl)
      · exact .inr (by rw [List.any_append, marked', Bool.or_true])
    · exact .inr (by rw [List.any_append, marked, Bool.true_or])
  · rw [← List.append_assoc]
    exact (digits.append pointed).append powered
  · cases text.drop (whole ++ point ++ power).length with
    | nil => exact .inl rfl
    | cons next rest =>
      cases letter : isNumberSuffix next with
      | true => exact .inr ⟨next, by simp [letter], letter⟩
      | false => exact .inl (by simp [letter])

end Lexeme

namespace Literal

/-- A number is a double or an integer. -/
theorem ofNumber?_cases {text : String} {negative : Bool} {value : Literal}
    (read : ofNumber? negative text = some value) :
    (∃ number wide, value = .double number wide) ∨ ∃ number long, value = .integer number long := by
  rw [ofNumber?, ite_eq_iff] at read
  rcases read with ⟨_, read⟩ | ⟨_, read⟩
  · obtain ⟨_, _, rfl⟩ := Option.map_eq_some_iff.1 read
    exact .inl ⟨_, _, rfl⟩
  · rw [Option.ite_none_right_eq_some] at read
    obtain ⟨_, same⟩ := read
    cases same
    exact .inr ⟨_, _, rfl⟩

/-- A number that is an integer has no point and no exponent, and no letter but the one for a long
number. -/
theorem integer_of_ofNumber? {text : String} {negative long : Bool} {value : Int}
    {suffix : Option Char} {digits : List Char}
    (letter : text.toList.getLast?.filter Lexeme.isNumberSuffix = suffix)
    (others : (if suffix.isSome then text.toList.dropLast else text.toList) = digits)
    (read : ofNumber? negative text = some (.integer value long)) :
    digits.any Lexeme.isFractional = false ∧ Decimal.natOfDigits digits = value.natAbs ∧
      suffix.toList ∈ if long then [['l'], ['L']] else [[]] := by
  simp only [ofNumber?, letter, others] at read
  split at read
  · obtain ⟨_, _, same⟩ := Option.map_eq_some_iff.1 read
    cases same
  · rename_i whole
    simp only [Bool.or_eq_true, decide_eq_true_iff, not_or] at whole
    obtain ⟨⟨⟨⟨narrow, narrow'⟩, wide⟩, wide'⟩, whole⟩ := whole
    rw [Option.ite_none_right_eq_some] at read
    obtain ⟨_, same⟩ := read
    simp only [Option.some.injEq, integer.injEq] at same
    obtain ⟨rfl, rfl⟩ := same
    refine ⟨Bool.eq_false_iff.2 whole, ?_, ?_⟩
    · cases negative <;> simp
    · cases suffix with
      | none => decide
      | some char =>
        have isLetter := (Option.filter_eq_some_iff.1 letter).2
        simp only [Lexeme.isNumberSuffix, Bool.or_eq_true, decide_eq_true_iff] at isLetter
        simp only [Option.some.injEq] at narrow narrow' wide wide'
        have long : char = 'l' ∨ char = 'L' := by
          simpa [narrow, narrow', wide, wide'] using isLetter
        rcases long with rfl | rfl <;> decide

/-- An integer is written with the digits of its size, and a letter if it is long. -/
theorem exists_digits_of_numberText {text : List Char} {negative long : Bool} {value : Int}
    (some : text.takeWhile Char.isDigit ≠ [])
    (read : ofNumber? negative (String.ofList (Lexeme.numberText text)) =
      Option.some (.integer value long)) :
    ∃ digits suffix, Lexeme.numberText text = digits ++ suffix ∧ digits ≠ [] ∧
      (∀ char ∈ digits, char.isDigit) ∧ Decimal.natOfDigits digits = value.natAbs ∧
      suffix ∈ if long then [['l'], ['L']] else [[]] := by
  obtain ⟨middle, suffix, shape, marked, ends, letters⟩ := Lexeme.numberText_cases text some
  have parts : (String.ofList (Lexeme.numberText text)).toList.getLast?.filter
        Lexeme.isNumberSuffix = suffix.head? ∧
      (if suffix.head?.isSome then (String.ofList (Lexeme.numberText text)).toList.dropLast
        else (String.ofList (Lexeme.numberText text)).toList) =
        text.takeWhile Char.isDigit ++ middle ∧ suffix.head?.toList = suffix := by
    rw [String.toList_ofList, shape]
    rcases letters with rfl | ⟨letter, rfl, isLetter⟩
    · refine ⟨?_, by simp, rfl⟩
      rw [List.append_nil, List.head?_nil, Option.filter_eq_none_iff]
      intro char last
      rw [(Lexeme.not_suffix_of_isDigit (ends char last)).1]
      exact Bool.false_ne_true
    · refine ⟨?_, by simp, rfl⟩
      rw [List.getLast?_concat]
      simp [isLetter]
  obtain ⟨letter, others, same⟩ := parts
  obtain ⟨whole, size, long⟩ := integer_of_ofNumber? letter others read
  have none : middle = [] := by
    refine marked.resolve_right fun marked => ?_
    rw [List.any_append, marked, Bool.or_true] at whole
    cases whole
  rw [none, List.append_nil] at shape size
  exact ⟨_, suffix, shape, some, Lexeme.isDigit_of_mem_takeWhile text, size, same ▸ long⟩

end Literal

/-! ## How leaves are written -/

/-- How a leaf is written as a token. -/
inductive Leaf.Written : Leaf → Kind → Lexeme → String → Prop where
  | word (name : String) : Written (.word name) .word .word name
  | qualifier {value lexeme} (stands : Qualifier.ofLexeme? lexeme = some value) :
      Written (.qualifier value) .word lexeme value.spelling
  | string (contents : String) :
      Written (.literal (.string contents)) .text .doubleQuote ("\"" ++ contents ++ "\"")
  | char (contents : String) :
      Written (.literal (.char contents)) .text .singleQuote ("'" ++ contents ++ "'")
  | trueWord : Written (.literal (.boolean true)) .word .trueKeyword "true"
  | falseWord : Written (.literal (.boolean false)) .word .falseKeyword "false"
  | null : Written (.literal .null) .word .nullKeyword "null"
  | integer {value long digits suffix} (some : digits ≠ [])
      (all : ∀ char ∈ digits, char.isDigit) (size : Decimal.natOfDigits digits = value.natAbs)
      (letter : suffix ∈ if long then [['l'], ['L']] else [[]]) :
      Written (.literal (.integer value long)) .number .number (String.ofList (digits ++ suffix))
  | double {value wide negative text}
      (read : Literal.ofNumber? negative text = some (.double value wide)) :
      Written (.literal (.double value wide)) .number .number text

/-- A token that a tree keeps: an identifier, a qualifier, a closed string or character, a reserved
word for a value or a number. -/
def Lexeme.isLeaf (lexeme : Lexeme) (kind : Kind) : Bool :=
  kind = .text || lexeme = .word || lexeme.isQualifier || lexeme = .trueKeyword
    || lexeme = .falseKeyword || lexeme = .nullKeyword || lexeme = .number

/-- A number is written as what it is read as. -/
theorem Leaf.written_number {piece : Piece} (cut : piece.Cut) (isNumber : piece.lexeme = .number)
    {negative : Bool} {value : Literal}
    (read : Literal.ofNumber? negative piece.text = some value) :
    (Leaf.literal value).Written piece.kind piece.lexeme piece.text := by
  obtain ⟨kind, text, spelled, digits⟩ := cut.number isNumber
  rw [kind, isNumber]
  rcases Literal.ofNumber?_cases read with ⟨number, wide, rfl⟩ | ⟨number, long, rfl⟩
  · exact .double read
  · have whole : piece.text = String.ofList (Lexeme.numberText text) :=
      String.toList_injective (by rw [spelled, String.toList_ofList])
    rw [whole] at read ⊢
    obtain ⟨digits, suffix, shape, some, all, size, letter⟩ :=
      Literal.exists_digits_of_numberText digits read
    rw [shape]
    exact .integer some all size letter

end Likeness
