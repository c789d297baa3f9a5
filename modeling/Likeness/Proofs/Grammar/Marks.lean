import Likeness.Grammar.Parser
import Likeness.Token.Progress

/-!
# Texts that are cut as they were put together

A text can be put together from marks: tokens with their characters, and gaps between them. Cutting
the text gives the tokens back if each of them is what the longest match finds in front of whatever
follows it. `Lexes` states this mark by mark, so that it can be proved phrase by phrase, and
`Cursor.build_write` is what a parser makes of a whole text.
-/

namespace Likeness

/-- A token with its characters, or a blank between tokens. -/
inductive Mark where
  | gap (char : Char)
  | token (kind : Kind) (lexeme : Lexeme) (text : List Char)
deriving DecidableEq, Repr

namespace Mark

/-- The characters of a mark. -/
def text : Mark → List Char
  | .gap char => [char]
  | .token _ _ text => text

@[simp] theorem text_gap (char : Char) : (gap char).text = [char] := rfl

@[simp] theorem text_token (kind : Kind) (lexeme : Lexeme) (characters : List Char) :
    (token kind lexeme characters).text = characters := rfl

/-- A mark stands between tokens. -/
def isGap : Mark → Bool
  | .gap _ => true
  | .token .. => false

/-- The text that marks put together. -/
def write (marks : List Mark) : List Char := marks.flatMap text

@[simp] theorem write_nil : write [] = [] := rfl

@[simp] theorem write_cons (mark : Mark) (marks : List Mark) :
    write (mark :: marks) = mark.text ++ write marks := rfl

@[simp] theorem write_append (first second : List Mark) :
    write (first ++ second) = write first ++ write second := by
  simp [write]

/-- What a parser sees of marks: the tokens, each with whether a gap stands behind it. -/
def pieces : List Mark → List Piece
  | [] => []
  | .gap _ :: marks => pieces marks
  | .token kind lexeme text :: marks =>
    ⟨kind, lexeme, String.ofList text, !(marks.head?.any isGap)⟩ :: pieces marks

@[simp] theorem pieces_nil : pieces [] = [] := rfl

@[simp] theorem pieces_gap (char : Char) (marks : List Mark) :
    pieces (.gap char :: marks) = pieces marks := rfl

/-- A token that is cut as it is in front of a text, and a gap that is one. -/
def Cuts : Mark → List Char → Prop
  | .gap char, _ => Lexeme.isSpace char || char = '\n'
  | .token kind lexeme text, after =>
    triviaLength .between (text ++ after) = 0 ∧ ∃ opening,
      Lexeme.recognize (text ++ after) = some (lexeme, opening) ∧
        lexeme.extent opening ((text ++ after).drop opening.length) = (kind, text)

/-- Marks that are all cut as they are when a text follows them. -/
def Lexes : List Mark → List Char → Prop
  | [], _ => True
  | mark :: marks, after => mark.Cuts (write marks ++ after) ∧ Lexes marks after

/-- Marks are cut one after the other. -/
theorem lexes_append {first second : List Mark} {after : List Char} :
    Lexes (first ++ second) after ↔ Lexes first (write second ++ after) ∧ Lexes second after := by
  induction first with
  | nil => simp [Lexes]
  | cons mark marks ih => simp [Lexes, ih, and_assoc]

end Mark

/-! ## Cutting -/

/-- A blank is trivia, whatever follows it. -/
theorem triviaLength_blank {char : Char} (blank : Lexeme.isSpace char || char = '\n')
    (rest : List Char) :
    triviaLength .between (char :: rest) = triviaLength .between rest + 1 := by
  have slash : char ≠ '/' := by
    rintro rfl
    exact absurd blank (by decide)
  rw [triviaLength]
  · rw [if_pos blank]
  · simp [slash]
  · simp [slash]

namespace Cursor

theorem skipTrivia_eq_self {cursor : Cursor} (settled : triviaLength .between cursor.rest = 0) :
    cursor.skipTrivia = cursor := by
  rw [skipTrivia, settled, skip_zero]

/-- Passing over trivia passes over a blank first. -/
theorem skipTrivia_of_blank {cursor : Cursor} {char : Char} {rest : List Char}
    (shape : cursor.rest = char :: rest) (blank : Lexeme.isSpace char || char = '\n') :
    cursor.skipTrivia = (cursor.skip 1).skipTrivia := by
  rw [skipTrivia, shape, triviaLength_blank blank, Nat.add_comm, skip_add, skipTrivia, rest_skip,
    shape, List.drop_one, List.tail_cons]

/-- Marks that are cut as they are have trivia in front only if they start with a gap. -/
theorem triviaLength_write {marks : List Mark} (lexes : Mark.Lexes marks [])
    (start : marks.head?.any Mark.isGap = false) :
    triviaLength .between (Mark.write marks) = 0 := by
  cases marks with
  | nil => rfl
  | cons mark marks =>
    cases mark with
    | gap char => contradiction
    | token kind lexeme text => simpa using lexes.1.1

/-- The place behind a token is the place behind its trivia just when no gap follows. -/
theorem glued_iff {cursor : Cursor} {marks : List Mark} (shape : cursor.rest = Mark.write marks)
    (lexes : Mark.Lexes marks []) :
    (cursor.offset == cursor.skipTrivia.offset) = !(marks.head?.any Mark.isGap) := by
  cases start : marks.head?.any Mark.isGap with
  | false => simp [skipTrivia_eq_self (shape ▸ triviaLength_write lexes start)]
  | true =>
    cases marks with
    | nil => contradiction
    | cons mark marks =>
      cases mark with
      | token => contradiction
      | gap char =>
        have further := offset_le_offset_skip (cursor.skip 1)
          (triviaLength .between (cursor.skip 1).rest)
        have passed : (cursor.skip 1).offset = cursor.offset + char.utf8Size := by
          rw [offset_skip, shape]
          rfl
        have size := char.utf8Size_pos
        rw [skipTrivia_of_blank shape lexes.1, skipTrivia]
        simp only [Bool.not_true, beq_eq_false_iff_ne]
        omega

/-- A token that is cut as it is comes off the front of a text. -/
theorem scan_of_cuts {cursor : Cursor} {kind : Kind} {lexeme : Lexeme} {text after : List Char}
    (cuts : (Mark.token kind lexeme text).Cuts after) (shape : cursor.rest = text ++ after)
    (trivia : Trivia) : cursor.scan trivia = some (cursor.spot trivia kind lexeme text) := by
  obtain ⟨_, opening, recognized, whole⟩ := cuts
  rw [← shape] at recognized whole
  simp only [scan, recognized, Option.map_some, whole]

/-- Cutting a text that was put together from marks gives their pieces and reaches the end. -/
theorem scanUpTo_write {marks : List Mark} (lexes : Mark.Lexes marks []) {cursor : Cursor}
    {count : Nat} (shape : cursor.rest = Mark.write marks)
    (enough : cursor.skipTrivia.rest.length ≤ count) :
    (scanUpTo .skip count cursor.skipTrivia).1.map Spot.piece = Mark.pieces marks ∧
      (scanUpTo .skip count cursor.skipTrivia).2.rest = [] := by
  induction marks generalizing cursor count with
  | nil =>
    have ended : cursor.skipTrivia.rest = [] := by simp [skipTrivia, shape]
    cases count with
    | zero => exact ⟨rfl, ended⟩
    | succ count =>
      rw [scanUpTo, scan_eq_none_of_rest_eq_nil _ ended]
      exact ⟨rfl, ended⟩
  | cons mark marks ih =>
    cases mark with
    | gap char =>
      rw [skipTrivia_of_blank shape lexes.1] at enough ⊢
      exact ih lexes.2 (by simp [shape]) enough
    | token kind lexeme text =>
      obtain ⟨cuts, lexes⟩ := lexes
      rw [Mark.write_cons, Mark.text_token] at shape
      rw [List.append_nil] at cuts
      rw [skipTrivia_eq_self (shape ▸ cuts.1)] at enough ⊢
      have cut := scan_of_cuts cuts shape .skip
      have shorter := length_rest_scan_lt cut
      have after : (cursor.skip text.length).rest = Mark.write marks := by simp [shape]
      cases count with
      | zero => omega
      | succ count =>
        have remaining : (cursor.skip text.length).skipTrivia.rest.length ≤ count :=
          Nat.le_of_lt_succ (Nat.lt_of_lt_of_le shorter enough)
        obtain ⟨pieces, ended⟩ := ih lexes after remaining
        rw [scanUpTo, cut]
        refine ⟨?_, ended⟩
        rw [List.map_cons, Mark.pieces, ← glued_iff after lexes]
        exact congrArg _ pieces

/-- The last token cut off stands before the place that cutting reaches. -/
theorem getLast?_scanUpTo (trivia : Trivia) (count : Nat) (cursor : Cursor) :
    ((scanUpTo trivia count cursor).1.getLast?.map Spot.next).getD cursor =
      (scanUpTo trivia count cursor).2 := by
  induction count generalizing cursor with
  | zero => rfl
  | succ count ih =>
    rw [scanUpTo]
    cases cursor.scan trivia with
    | none => rfl
    | some spot =>
      show (((spot :: (scanUpTo trivia count spot.next).1).getLast?).map Spot.next).getD cursor =
        (scanUpTo trivia count spot.next).2
      rw [← ih spot.next, List.getLast?_cons]
      cases (scanUpTo trivia count spot.next).1.getLast? <;> rfl

/-- A text that was put together from marks, and that a parser reads to its end, is built whole. -/
theorem build_write {α : Type} {marks : List Mark} (lexes : Mark.Lexes marks []) {cursor : Cursor}
    (shape : cursor.rest = Mark.write marks) {parser : Parser α} {value : α}
    (reads : (parser (Mark.pieces marks)).result = some (value, [])) :
    ∃ stop : Cursor, (cursor.skipTrivia.build parser).result = some (value, stop) ∧
      stop.rest = [] := by
  obtain ⟨pieces, ended⟩ := scanUpTo_write lexes shape (Nat.le_refl _)
  rw [← getLast?_scanUpTo] at ended
  refine ⟨_, ?_, ended⟩
  rw [build, spots, pieces, reads]
  simp only [Option.map_some, placeOf, List.length_nil, Nat.mul_zero, Nat.zero_div, Nat.sub_zero,
    List.take_length]
  cases (scanUpTo .skip cursor.skipTrivia.rest.length cursor.skipTrivia).1.getLast? <;> rfl

end Cursor

/-! ## Tokens that are cut as they are -/

namespace Lexeme

/-- A lexeme that is a token by itself: no blank, no comment and no quote. -/
def isPlain (lexeme : Lexeme) : Bool :=
  !(lexeme.isBlank || lexeme.opensComment || lexeme = .doubleQuote || lexeme = .singleQuote)

/-- A plain lexeme does not extend beyond its own text. -/
theorem extent_of_isPlain {lexeme : Lexeme} (plain : lexeme.isPlain) (opening after : List Char) :
    lexeme.extent opening after = (lexeme.kind, opening) := by
  revert plain
  cases lexeme <;> simp [isPlain, isBlank, opensComment, extent]

/-- No trivia stands where a token is recognised. -/
theorem triviaLength_eq_zero {text opening : List Char} {lexeme : Lexeme}
    (recognized : recognize text = some (lexeme, opening)) (blank : lexeme.isBlank = false)
    (comment : lexeme.opensComment = false) : triviaLength .between text = 0 := by
  unfold triviaLength
  split
  · rfl
  · cases recognized
    contradiction
  · cases recognized
    contradiction
  · rename_i char rest _ _ _
    split
    · rename_i isTrivia
      simp only [recognize] at recognized
      split at recognized
      · cases recognized
        contradiction
      · rename_i notFeed
        rw [if_pos (by simpa [notFeed] using isTrivia)] at recognized
        cases recognized
        contradiction
    · rfl
  all_goals contradiction

/-- How a symbol is written. -/
def spelling (lexeme : Lexeme) : List Char :=
  ((symbols.find? fun symbol => symbol.2 = lexeme).map Prod.fst).getD []

/-- The lexeme of a word is a plain one, and of the kind of words. -/
theorem isPlain_ofWord (text : String) : (ofWord text).isPlain ∧ (ofWord text).kind = .word := by
  have keyword : ∀ entry ∈ keywords, entry.2.isPlain ∧ entry.2.kind = .word := by decide
  rw [ofWord]
  cases found : keywords.lookup text with
  | none => decide
  | some lexeme =>
    obtain ⟨before, behind, shape, _⟩ := List.lookup_eq_some_iff.1 found
    exact keyword (text, lexeme) (by simp [shape])

/-- The characters that a word may begin with, by number. -/
theorem startsWord_iff (char : Char) :
    startsWord char ↔ (65 ≤ char.toNat ∧ char.toNat ≤ 90 ∨ 97 ≤ char.toNat ∧ char.toNat ≤ 122) ∨
      char = '_' ∨ char = '$' := by
  show ((decide (char.val ≥ 'A'.val ∧ char.val ≤ 'Z'.val)
    || (decide (char.val ≥ 'a'.val) && decide (char.val ≤ 'z'.val)))
    || decide (char = '_') || decide (char = '$')) = true ↔ _
  simp only [Bool.or_eq_true, decide_eq_true_iff, Bool.and_eq_true, UInt32.le_iff_toNat_le,
    ge_iff_le, or_assoc]
  rfl

/-- No word begins with a digit. -/
theorem isDigit_of_startsWord {char : Char} (starts : startsWord char) : char.isDigit = false := by
  rw [startsWord_iff] at starts
  rw [Bool.eq_false_iff, ne_eq, Char.isDigit_iff_toNat]
  rcases starts with range | rfl | rfl
  · have nine : '9'.toNat = 57 := rfl
    omega
  · decide
  · decide

/-- Neither words nor numbers begin with a blank. -/
theorem not_blank_of_continuesWord {char : Char} (continues : continuesWord char) :
    isSpace char = false ∧ char ≠ '\n' := by
  constructor
  · rw [Bool.eq_false_iff]
    intro space
    simp only [isSpace, Bool.or_eq_true, decide_eq_true_iff] at space
    rcases space with ((rfl | rfl) | rfl) | rfl <;> exact absurd continues (by decide)
  · rintro rfl
    exact absurd continues (by decide)

/-- Characters that make a word, reserved or not. -/
def spellWord : List Char → Bool
  | [] => false
  | first :: rest => startsWord first && rest.all continuesWord

/-- What passes a test is taken up to the first character that does not. -/
theorem takeWhile_append {test : Char → Bool} {taken after : List Char}
    (all : ∀ char ∈ taken, test char) (stop : ∀ next ∈ after.head?, test next = false) :
    (taken ++ after).takeWhile test = taken := by
  rw [List.takeWhile_append_of_pos all]
  cases after with
  | nil => simp
  | cons next after => simp [stop next rfl]

/-- A word is recognised up to the first character that cannot go on with it. -/
theorem recognize_word {text after : List Char} (word : spellWord text)
    (stop : ∀ next ∈ after.head?, continuesWord next = false) :
    recognize (text ++ after) = some (ofWord (String.ofList text), text) := by
  cases text with
  | nil => contradiction
  | cons first rest =>
    simp only [spellWord, Bool.and_eq_true, List.all_eq_true] at word
    obtain ⟨starts, continues⟩ := word
    have digit := isDigit_of_startsWord starts
    have goesOn : continuesWord first := by simp [continuesWord, starts]
    obtain ⟨space, feed⟩ := not_blank_of_continuesWord goesOn
    have taken : (first :: rest ++ after).takeWhile continuesWord = first :: rest := by
      refine takeWhile_append ?_ stop
      rintro char (_ | ⟨_, member⟩)
      · exact goesOn
      · exact continues char member
    rw [List.cons_append] at taken
    simp only [recognize, List.cons_append, if_neg feed, space, digit, starts, taken, if_true,
      Bool.false_eq_true, if_false]

/-- A number without point and exponent is its digits and perhaps one letter. -/
theorem numberText_append {digits after : List Char} (all : ∀ char ∈ digits, char.isDigit)
    (stop : ∀ next ∈ after.head?,
      next.isDigit = false ∧ next ≠ '.' ∧ next ≠ 'e' ∧ next ≠ 'E') :
    numberText (digits ++ after) = digits ++ (after.take 1).filter isNumberSuffix := by
  have whole := takeWhile_append all fun next member => (stop next member).1
  have noFraction : fraction after = [] := by
    cases after with
    | nil => rfl
    | cons next after =>
      rw [fraction]
      rintro rest ⟨⟩
      exact (stop '.' rfl).2.1 rfl
  have noExponent : exponent after = [] := by
    cases after with
    | nil => rfl
    | cons next after =>
      obtain ⟨_, _, lower, upper⟩ := stop next rfl
      simp [exponent, lower, upper]
  simp [numberText, whole, noFraction, noExponent]

/-- The letters that may close a number can also go on with a word. -/
theorem isNumberSuffix_of_not_continuesWord {char : Char} (other : continuesWord char = false) :
    isNumberSuffix char = false := by
  rw [Bool.eq_false_iff]
  intro isSuffix
  simp only [isNumberSuffix, Bool.or_eq_true, decide_eq_true_iff] at isSuffix
  rcases isSuffix with ((((rfl | rfl) | rfl) | rfl) | rfl) | rfl <;> contradiction

/-- Digits, and perhaps a letter for a type behind them, are a whole number in front of anything that
cannot go on with one. -/
theorem numberText_digits {digits after : List Char} {suffix : Option Char}
    (all : ∀ char ∈ digits, char.isDigit) (letter : ∀ char ∈ suffix, isNumberSuffix char)
    (stop : ∀ next ∈ after.head?, next.isDigit = false ∧ next ≠ '.' ∧ next ≠ 'e' ∧ next ≠ 'E' ∧
      isNumberSuffix next = false) :
    numberText (digits ++ (suffix.toList ++ after)) = digits ++ suffix.toList := by
  cases suffix with
  | none =>
    have noSuffix : (after.take 1).filter isNumberSuffix = [] := by
      cases after with
      | nil => rfl
      | cons next after => simp [(stop next rfl).2.2.2.2]
    rw [Option.toList_none, List.nil_append, numberText_append all ?_, noSuffix]
    intro next member
    obtain ⟨digit, point, lower, upper, _⟩ := stop next member
    exact ⟨digit, point, lower, upper⟩
  | some char =>
    have isLetter := letter char rfl
    rw [numberText_append all ?_]
    · simp [isLetter]
    · rintro _ ⟨⟩
      simp only [isNumberSuffix, Bool.or_eq_true, decide_eq_true_iff] at isLetter
      rcases isLetter with ((((rfl | rfl) | rfl) | rfl) | rfl) | rfl <;> decide

/-- A number is recognised by its first digit. -/
theorem recognize_number {first : Char} (digit : first.isDigit) (rest : List Char) :
    recognize (first :: rest) = some (.number, numberText (first :: rest)) := by
  have goesOn : continuesWord first := by simp [continuesWord, digit]
  obtain ⟨space, feed⟩ := not_blank_of_continuesWord goesOn
  simp only [recognize, if_neg feed, space, digit, if_true, Bool.false_eq_true, if_false]

/-- A character that escapes nothing closes a literal, leaves it open or belongs to it. -/
theorem literalContents_cons {char : Char} (plain : char ≠ '\\') (delimiter : Char)
    (rest : List Char) :
    literalContents delimiter (char :: rest) =
      if char = '\n' then none
      else if char = delimiter then some []
      else (literalContents delimiter rest).map (char :: ·) := by
  rw [literalContents]
  · rintro ⟨⟩
    contradiction
  · rintro _ _ ⟨⟩
    contradiction

/-- A literal that is closed by the quote behind it is closed there, whatever follows. -/
theorem literalContents_append {delimiter : Char} (plain : delimiter ≠ '\\') {contents : List Char}
    (closed : literalContents delimiter (contents ++ [delimiter]) = some contents)
    (after : List Char) :
    literalContents delimiter (contents ++ delimiter :: after) = some contents := by
  fun_induction literalContents delimiter contents with
  | case1 =>
    rw [List.nil_append, literalContents_cons plain, if_pos rfl] at closed ⊢
    exact closed
  | case2 => contradiction
  | case3 char rest ih =>
    obtain ⟨inner, found, same⟩ := Option.map_eq_some_iff.1 closed
    cases same
    rw [List.cons_append, List.cons_append, literalContents, ih found, Option.map_some]
  | case4 =>
    rw [List.cons_append, literalContents_cons (by decide), if_pos rfl] at closed
    contradiction
  | case5 rest _ _ feed =>
    rw [List.cons_append, literalContents_cons plain, if_neg feed, if_pos rfl] at closed
    cases closed
  | case6 char rest alone paired feed other ih =>
    have escape : char ≠ '\\' := by
      cases rest with
      | nil => exact fun same => alone same rfl
      | cons next rest => exact fun same => paired next rest same rfl
    rw [List.cons_append, literalContents_cons escape, if_neg feed, if_neg other] at closed ⊢
    obtain ⟨inner, found, same⟩ := Option.map_eq_some_iff.1 closed
    cases same
    rw [ih found, Option.map_some]

end Lexeme

namespace Mark

/-- The mark of a symbol. -/
def symbol (lexeme : Lexeme) : Mark := .token lexeme.kind lexeme lexeme.spelling

/-- The mark of a word, reserved or not. -/
def word (text : String) : Mark := .token .word (Lexeme.ofWord text) text.toList

/-- The mark of a number without its sign. -/
def number (text : List Char) : Mark := .token .number .number text

/-- The mark of a closed literal. -/
def quoted (quote : Lexeme) (contents : String) : Mark :=
  .token .text quote (quote.spelling ++ contents.toList ++ quote.spelling)

/-- A plain lexeme is cut as it is where it is recognised. -/
theorem cuts_of_recognize {lexeme : Lexeme} {text after : List Char} (plain : lexeme.isPlain)
    (recognized : Lexeme.recognize (text ++ after) = some (lexeme, text)) :
    (token lexeme.kind lexeme text).Cuts after := by
  refine ⟨?_, text, recognized, lexeme.extent_of_isPlain plain text _⟩
  simp only [Lexeme.isPlain, Bool.not_eq_true', Bool.or_eq_false_iff] at plain
  exact Lexeme.triviaLength_eq_zero recognized plain.1.1.1 plain.1.1.2

/-- A symbol is cut as it is where it is recognised. -/
theorem cuts_symbol {lexeme : Lexeme} {after : List Char} (plain : lexeme.isPlain)
    (recognized : Lexeme.recognize (lexeme.spelling ++ after) = some (lexeme, lexeme.spelling)) :
    (symbol lexeme).Cuts after :=
  cuts_of_recognize plain recognized

/-- A word is cut as it is in front of anything that cannot go on with it. -/
theorem cuts_word {text : String} (spelled : Lexeme.spellWord text.toList) {after : List Char}
    (stop : ∀ next ∈ after.head?, Lexeme.continuesWord next = false) : (word text).Cuts after := by
  obtain ⟨plain, kind⟩ := Lexeme.isPlain_ofWord text
  have recognized := Lexeme.recognize_word spelled stop
  rw [String.ofList_toList] at recognized
  rw [word, ← kind]
  exact cuts_of_recognize plain recognized

/-- Digits, and perhaps a letter for a type behind them, are cut as they are in front of anything that
cannot go on with a number. -/
theorem cuts_digits {digits : List Char} (nonempty : digits ≠ [])
    (all : ∀ char ∈ digits, char.isDigit) {suffix : Option Char}
    (letter : ∀ char ∈ suffix, Lexeme.isNumberSuffix char) {after : List Char}
    (stop : ∀ next ∈ after.head?, next.isDigit = false ∧ next ≠ '.' ∧ next ≠ 'e' ∧ next ≠ 'E' ∧
      Lexeme.isNumberSuffix next = false) : (number (digits ++ suffix.toList)).Cuts after := by
  have text := Lexeme.numberText_digits all letter stop
  cases digits with
  | nil => contradiction
  | cons first digits =>
    refine cuts_of_recognize (by decide) ?_
    rw [List.append_assoc, ← text]
    exact Lexeme.recognize_number (all first (.head _)) _

/-- A number of digits, and perhaps the letter for a long one, is cut as it is in front of anything
that can neither go on with a word nor be a point. -/
theorem cuts_number {digits : List Char} (nonempty : digits ≠ [])
    (all : ∀ char ∈ digits, char.isDigit) (long : Bool) {after : List Char}
    (stop : ∀ next ∈ after.head?, Lexeme.continuesWord next = false ∧ next ≠ '.') :
    (number (digits ++ if long then ['L'] else [])).Cuts after := by
  have ends : ∀ next ∈ after.head?, next.isDigit = false ∧ next ≠ '.' ∧ next ≠ 'e' ∧ next ≠ 'E' ∧
      Lexeme.isNumberSuffix next = false := by
    intro next member
    obtain ⟨other, point⟩ := stop next member
    exact ⟨(Bool.or_eq_false_iff.1 other).2, point, by rintro rfl; contradiction,
      by rintro rfl; contradiction, Lexeme.isNumberSuffix_of_not_continuesWord other⟩
  cases long with
  | true =>
    have letter : ∀ char ∈ some 'L', Lexeme.isNumberSuffix char := by
      rintro _ ⟨⟩
      decide
    exact cuts_digits nonempty all letter ends
  | false =>
    have letter : ∀ char ∈ (none : Option Char), Lexeme.isNumberSuffix char := nofun
    exact cuts_digits nonempty all letter ends

/-- A closed literal is cut as it is, whatever follows. -/
theorem cuts_quoted {quote : Lexeme} {delimiter : Char} {contents : String}
    (shape : quote = .doubleQuote ∧ delimiter = '"' ∨ quote = .singleQuote ∧ delimiter = '\'')
    (closed : Lexeme.literalContents delimiter (contents.toList ++ [delimiter]) =
      some contents.toList)
    (after : List Char) : (quoted quote contents).Cuts after := by
  have whole : Lexeme.literal delimiter [delimiter] (contents.toList ++ [delimiter] ++ after) =
      (.text, [delimiter] ++ contents.toList ++ [delimiter]) := by
    have plain : delimiter ≠ '\\' := by
      rcases shape with ⟨_, rfl⟩ | ⟨_, rfl⟩ <;> decide
    rw [Lexeme.literal, List.append_assoc, List.singleton_append,
      Lexeme.literalContents_append plain closed after]
  rcases shape with ⟨rfl, rfl⟩ | ⟨rfl, rfl⟩
  · exact ⟨Lexeme.triviaLength_eq_zero rfl rfl rfl, ['"'], rfl, whole⟩
  · exact ⟨Lexeme.triviaLength_eq_zero rfl rfl rfl, ['\''], rfl, whole⟩

end Mark

end Likeness
