import Likeness.Proofs.Token.Cutting

/-!
# What tokens are spelled like

A lexeme is a blank, a number, a word or a symbol, and says how the text that it takes is spelled.
Therefore a token determines how it is opened, whatever follows it, and what a parser sees of it,
`Piece.Cut`, tells words, reserved words, closed literals and numbers by their texts.
-/

namespace Likeness

namespace Lexeme

/-- What a recognised lexeme takes is blank, a number, a word or the spelling of a symbol. -/
theorem recognize_cases {text opening : List Char} {lexeme : Lexeme}
    (recognized : recognize text = some (lexeme, opening)) :
    lexeme.isBlank ∨
      (lexeme = .number ∧ opening = numberText text ∧ text.takeWhile Char.isDigit ≠ []) ∨
      (lexeme = ofWord (String.ofList opening) ∧ ∀ char ∈ opening, continuesWord char) ∨
      (opening, lexeme) ∈ symbols := by
  unfold recognize at recognized
  split at recognized
  · contradiction
  split at recognized
  · cases recognized
    exact .inl rfl
  split at recognized
  · cases recognized
    exact .inl rfl
  split at recognized
  · rename_i digit
    cases recognized
    exact .inr (.inl ⟨rfl, rfl, by simp [digit]⟩)
  split at recognized
  · cases recognized
    refine .inr (.inr (.inl ⟨rfl, fun char member => ?_⟩))
    exact List.all_eq_true.1 List.all_takeWhile char member
  · obtain ⟨symbol, found, same⟩ := Option.map_eq_some_iff.1 recognized
    cases same
    exact .inr (.inr (.inr (List.mem_of_find?_eq_some found)))

theorem symbols_spelling : ∀ symbol ∈ symbols, ∀ symbol' ∈ symbols,
    symbol.2 = symbol'.2 → symbol.1 = symbol'.1 := by decide +kernel

/-- What is recognised and is neither blank nor extends beyond its own text is a symbol. -/
theorem mem_symbols_of_recognize {text opening : List Char} {lexeme : Lexeme}
    (recognized : recognize text = some (lexeme, opening)) (blank : lexeme.isBlank = false)
    (extended : lexeme.isPlain = false) : (opening, lexeme) ∈ symbols := by
  rcases recognize_cases recognized with isBlank | ⟨rfl, _⟩ | ⟨rfl, _⟩ | member
  · simp [blank] at isBlank
  · contradiction
  · rw [(isPlain_ofWord _).1] at extended
    contradiction
  · exact member

/-- The whole text of a token and its lexeme tell what it is opened with. -/
theorem opening_eq {text text' opening opening' after after' : List Char} {lexeme : Lexeme}
    (recognized : recognize text = some (lexeme, opening))
    (recognized' : recognize text' = some (lexeme, opening'))
    (same : (lexeme.extent opening after).2 = (lexeme.extent opening' after').2) :
    opening = opening' := by
  cases plain : lexeme.isPlain with
  | true =>
    rw [extent_of_isPlain plain, extent_of_isPlain plain] at same
    exact same
  | false =>
    cases blank : lexeme.isBlank with
    | true =>
      simp only [isBlank, Bool.or_eq_true, decide_eq_true_iff] at blank
      rcases blank with rfl | rfl
      · exact same
      · exact same
    | false =>
      have symbol := mem_symbols_of_recognize recognized blank plain
      have symbol' := mem_symbols_of_recognize recognized' blank plain
      exact symbols_spelling _ symbol _ symbol' rfl

theorem keywords_spelling : ∀ keyword ∈ keywords, ∀ keyword' ∈ keywords,
    keyword.2 = keyword'.2 → keyword.1 = keyword'.1 := by decide +kernel

/-- The lexeme of a word is its own only if it is reserved. -/
theorem mem_keywords_of_ofWord {text : String} (reserved : ofWord text ≠ .word) :
    (text, ofWord text) ∈ keywords := by
  rw [ofWord] at reserved ⊢
  cases found : keywords.lookup text with
  | none => simp [found] at reserved
  | some lexeme =>
    obtain ⟨before, behind, shape, _⟩ := List.lookup_eq_some_iff.1 found
    simp [shape]

/-- Only quotes open text, and they close it where the search for them ends. -/
theorem extent_eq_text {lexeme : Lexeme} {opening after whole : List Char}
    (extended : lexeme.extent opening after = (.text, whole)) :
    ∃ delimiter contents, whole = opening ++ contents ++ [delimiter] ∧
      literalContents delimiter after = some contents ∧
      (lexeme = .doubleQuote ∧ delimiter = '"' ∨ lexeme = .singleQuote ∧ delimiter = '\'') := by
  have closed {delimiter : Char} (extended : literal delimiter opening after = (.text, whole)) :
      ∃ contents, whole = opening ++ contents ++ [delimiter] ∧
        literalContents delimiter after = some contents := by
    rw [literal] at extended
    split at extended
    · rename_i contents found
      cases extended
      exact ⟨contents, rfl, found⟩
    · cases extended
  cases lexeme with
  | doubleQuote =>
    obtain ⟨contents, shape, found⟩ := closed extended
    exact ⟨_, contents, shape, found, .inl ⟨rfl, rfl⟩⟩
  | singleQuote =>
    obtain ⟨contents, shape, found⟩ := closed extended
    exact ⟨_, contents, shape, found, .inr ⟨rfl, rfl⟩⟩
  | _ => cases extended

end Lexeme

/-! ## What a parser sees -/

namespace Piece

/-- A piece that is cut off the front of some text. -/
def Cut (piece : Piece) : Prop :=
  ∃ text opening, Lexeme.recognize text = some (piece.lexeme, opening) ∧
    piece.lexeme.extent opening (text.drop opening.length) = (piece.kind, piece.text.toList)

variable {piece : Piece}

/-- A word is made of the characters that words are made of, and its text tells its lexeme. -/
theorem Cut.word (cut : piece.Cut) (isWord : piece.lexeme.kind = .word) :
    piece.kind = .word ∧ Lexeme.ofWord piece.text = piece.lexeme ∧ piece.text.toList ≠ [] ∧
      ∀ char ∈ piece.text.toList, Lexeme.continuesWord char := by
  have noSymbol : ∀ symbol ∈ Lexeme.symbols, symbol.2.kind ≠ .word := by decide
  obtain ⟨text, opening, recognized, extended⟩ := cut
  rcases Lexeme.recognize_cases recognized with blank | ⟨number, _⟩ | ⟨lexeme, all⟩ | symbol
  · simp only [Lexeme.isBlank, Bool.or_eq_true, decide_eq_true_iff] at blank
    rcases blank with blank | blank <;> simp [blank, Lexeme.kind] at isWord
  · simp [number, Lexeme.kind] at isWord
  · have plain : piece.lexeme.isPlain := lexeme ▸ (Lexeme.isPlain_ofWord _).1
    rw [Lexeme.extent_of_isPlain plain, Prod.mk.injEq] at extended
    obtain ⟨kind, rfl⟩ := extended
    refine ⟨kind.symm.trans isWord, ?_, Lexeme.recognize_ne_nil recognized, all⟩
    rw [String.ofList_toList] at lexeme
    exact lexeme.symm
  · exact absurd isWord (noSymbol _ symbol)

/-- A reserved word is spelled like itself. -/
theorem Cut.keyword (cut : piece.Cut) {text : String}
    (reserved : (text, piece.lexeme) ∈ Lexeme.keywords) :
    piece.kind = .word ∧ piece.text = text := by
  have kinds : ∀ entry ∈ Lexeme.keywords, entry.2.kind = .word ∧ entry.2 ≠ .word := by decide
  obtain ⟨isWord, other⟩ := kinds _ reserved
  obtain ⟨kind, lexeme, _⟩ := cut.word isWord
  have member := Lexeme.mem_keywords_of_ofWord (lexeme ▸ other)
  rw [lexeme] at member
  exact ⟨kind, Lexeme.keywords_spelling _ member _ reserved rfl⟩

/-- A symbol that does not extend beyond its own text is spelled like itself. -/
theorem Cut.symbol (cut : piece.Cut) {text : List Char}
    (spelled : (text, piece.lexeme) ∈ Lexeme.symbols) (plain : piece.lexeme.isPlain) :
    piece.text.toList = text := by
  have others : ∀ symbol ∈ Lexeme.symbols, symbol.2.isBlank = false ∧ symbol.2 ≠ .number ∧
      symbol.2.kind ≠ .word := by decide
  obtain ⟨noBlank, noNumber, noWord⟩ := others _ spelled
  obtain ⟨whole, opening, recognized, extended⟩ := cut
  rw [Lexeme.extent_of_isPlain plain, Prod.mk.injEq] at extended
  obtain ⟨_, rfl⟩ := extended
  rcases Lexeme.recognize_cases recognized with blank | ⟨number, _⟩ | ⟨word, _⟩ | symbol
  · simp [noBlank] at blank
  · exact absurd number noNumber
  · exact absurd (word ▸ (Lexeme.isPlain_ofWord _).2) noWord
  · exact Lexeme.symbols_spelling _ symbol _ spelled rfl

/-- Text is a delimiter, contents that it closes, and the delimiter again. -/
theorem Cut.quoted (cut : piece.Cut) (isText : piece.kind = .text) :
    ∃ delimiter contents after, piece.text.toList = delimiter :: (contents ++ [delimiter]) ∧
      Lexeme.literalContents delimiter after = some contents ∧
      (piece.lexeme = .doubleQuote ∧ delimiter = '"' ∨
        piece.lexeme = .singleQuote ∧ delimiter = '\'') := by
  obtain ⟨text, opening, recognized, extended⟩ := cut
  rw [isText] at extended
  obtain ⟨delimiter, contents, whole, closed, quote⟩ := Lexeme.extent_eq_text extended
  have spelled : ∀ symbol ∈ Lexeme.symbols, (symbol.2 = .doubleQuote → symbol.1 = ['"']) ∧
      (symbol.2 = .singleQuote → symbol.1 = ['\'']) := by decide
  have symbol : (opening, piece.lexeme) ∈ Lexeme.symbols := by
    refine Lexeme.mem_symbols_of_recognize recognized ?_ ?_ <;>
      rcases quote with ⟨quote, _⟩ | ⟨quote, _⟩ <;> rw [quote] <;> rfl
  have opened : opening = [delimiter] := by
    rcases quote with ⟨quote, rfl⟩ | ⟨quote, rfl⟩
    · exact (spelled _ symbol).1 quote
    · exact (spelled _ symbol).2 quote
  rw [opened, List.singleton_append, List.cons_append] at whole
  exact ⟨delimiter, contents, _, whole, closed, quote⟩

/-- Text stands between two quotes. -/
theorem Cut.text (cut : piece.Cut) (isText : piece.kind = .text) :
    ∃ contents, (piece.lexeme = .doubleQuote ∧ piece.text = "\"" ++ contents ++ "\"") ∨
      (piece.lexeme = .singleQuote ∧ piece.text = "'" ++ contents ++ "'") := by
  obtain ⟨delimiter, contents, after, whole, closed, quote⟩ := cut.quoted isText
  refine ⟨String.ofList contents, ?_⟩
  rcases quote with ⟨quote, rfl⟩ | ⟨quote, rfl⟩
  · refine .inl ⟨quote, String.toList_injective ?_⟩
    simp [whole]
  · refine .inr ⟨quote, String.toList_injective ?_⟩
    simp [whole]

/-- A number is the longest one that some text with a digit in front starts with. -/
theorem Cut.number (cut : piece.Cut) (isNumber : piece.lexeme = .number) :
    piece.kind = .number ∧ ∃ text, piece.text.toList = Lexeme.numberText text ∧
      text.takeWhile Char.isDigit ≠ [] := by
  obtain ⟨text, opening, recognized, extended⟩ := cut
  rw [isNumber] at recognized extended
  obtain ⟨kind, rfl⟩ := Prod.mk.inj extended
  rcases Lexeme.recognize_cases recognized with blank | ⟨_, whole, digits⟩ | ⟨word, _⟩ | symbol
  · contradiction
  · exact ⟨kind.symm, text, whole, digits⟩
  · have isWord := (Lexeme.isPlain_ofWord (String.ofList piece.text.toList)).2
    rw [← word] at isWord
    contradiction
  · have noNumber : ∀ symbol ∈ Lexeme.symbols, symbol.2 ≠ .number := by decide
    exact absurd rfl (noNumber _ symbol)

end Piece

/-- A token that is cut off is seen as such. -/
theorem Cursor.cut_of_scan {cursor : Cursor} {trivia : Trivia} {spot : Spot}
    (cut : cursor.scan trivia = some spot) : spot.piece.Cut := by
  obtain ⟨⟨lexeme, opening⟩, recognized, rfl⟩ := Option.map_eq_some_iff.1 cut
  exact ⟨cursor.rest, opening, recognized, by simp [Spot.piece, spot]⟩

/-- All tokens that are passed are cut off. -/
theorem Cursor.Passes.cut_of_mem {trivia : Trivia} {cursor stop : Cursor} {spots : List Spot}
    (passes : Passes trivia cursor spots stop) : ∀ spot ∈ spots, spot.piece.Cut := by
  induction passes with
  | stay => exact List.forall_mem_nil _
  | cut cut _ ih => exact List.forall_mem_cons.2 ⟨cut_of_scan cut, ih⟩

end Likeness
