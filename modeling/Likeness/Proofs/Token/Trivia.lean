import Likeness.Proofs.Grammar.Marks

/-!
# Trivia as tokens and as a gap

A run of trivia can be cut off token by token or passed over at once. Where trivia stands, the token
that is cut off there is trivia, and the rest of the run is passed over behind it; where none stands,
the token is none.
-/

namespace Likeness

/-! ## The length of a run -/

/-- Blanks in front of a text are passed over one by one. -/
theorem triviaLength_takeWhile_isSpace (text : List Char) :
    triviaLength .between text = (text.takeWhile Lexeme.isSpace).length
      + triviaLength .between (text.drop (text.takeWhile Lexeme.isSpace).length) := by
  induction text with
  | nil => rfl
  | cons char text ih =>
    by_cases space : Lexeme.isSpace char
    · rw [triviaLength_blank (by simp [space]), ih]
      simp [space]
      omega
    · simp [space]

/-- A line comment ends in front of its line feed, which is trivia itself. -/
theorem triviaLength_inLineComment (text : List Char) :
    triviaLength .inLineComment text = (text.takeWhile (· ≠ '\n')).length
      + triviaLength .between (text.drop (text.takeWhile (· ≠ '\n')).length) := by
  induction text with
  | nil => rfl
  | cons char text ih =>
    by_cases feed : char = '\n'
    · subst feed
      rw [triviaLength, if_pos rfl]
      simp [triviaLength_blank]
    · rw [triviaLength, if_neg feed, ih]
      simp [feed]
      omega

/-- A block comment ends with its closing mark, or with the text. -/
theorem triviaLength_inBlockComment (text : List Char) :
    triviaLength .inBlockComment text = (Lexeme.blockCommentText text).length
      + triviaLength .between (text.drop (Lexeme.blockCommentText text).length) := by
  fun_induction Lexeme.blockCommentText text with
  | case1 => rfl
  | case2 rest => simp [triviaLength]; omega
  | case3 char rest other ih =>
    rw [triviaLength, ih]
    · simp
      omega
    · exact other

/-- Behind a run of trivia there is no more of it. -/
theorem triviaLength_drop (state : TriviaState) (text : List Char) :
    triviaLength .between (text.drop (triviaLength state text)) = 0 := by
  fun_induction triviaLength state text with
  | case1 => simp [triviaLength]
  | case2 rest ih => simpa using ih
  | case3 rest ih => simpa using ih
  | case4 char rest line block blank ih => simpa using ih
  | case5 char rest line block other =>
    rw [List.drop_zero, triviaLength]
    · rw [if_neg other]
    · exact line
    · exact block
  | case6 rest ih => simpa using ih
  | case7 char rest other ih => simpa using ih
  | case8 rest ih => simpa using ih
  | case9 char rest other ih => simpa using ih

/-! ## The token at a run -/

/-- Where trivia stands, the token cut off there is trivia and the run goes on behind it. -/
theorem exists_trivia_token {text : List Char} (present : triviaLength .between text ≠ 0) :
    ∃ lexeme opening kind taken, Lexeme.recognize text = some (lexeme, opening) ∧
      lexeme.extent opening (text.drop opening.length) = (kind, taken) ∧ kind.isTrivia ∧
        triviaLength .between text =
          taken.length + triviaLength .between (text.drop taken.length) := by
  unfold triviaLength at present
  split at present
  · contradiction
  · refine ⟨.lineComment, ['/', '/'], .comment, _, rfl, rfl, rfl, ?_⟩
    rw [triviaLength, triviaLength_inLineComment]
    simp
    omega
  · refine ⟨.blockCommentOpen, ['/', '*'], .comment, _, rfl, rfl, rfl, ?_⟩
    rw [triviaLength, triviaLength_inBlockComment]
    simp
    omega
  · rename_i char rest _ _ _
    split at present
    · rename_i blank
      by_cases feed : char = '\n'
      · subst feed
        refine ⟨.lineFeed, ['\n'], .lineFeed, ['\n'], rfl, rfl, rfl, ?_⟩
        rw [triviaLength_blank blank]
        simp
        omega
      · have space : Lexeme.isSpace char := by simpa [feed] using blank
        refine ⟨.whitespace, (char :: rest).takeWhile Lexeme.isSpace, .whitespace, _, ?_, rfl, rfl,
          triviaLength_takeWhile_isSpace _⟩
        simp [Lexeme.recognize, feed, space]
    · contradiction
  all_goals contradiction

theorem Lexeme.symbols_trivia : ∀ symbol ∈ symbols, symbol.2.isBlank = false ∧
    (symbol.2.opensComment → symbol.1 = ['/', '/'] ∨ symbol.1 = ['/', '*']) := by decide

/-- Where no trivia stands, no blank and no comment is recognised. -/
theorem Lexeme.not_trivia_of_recognize {text opening : List Char} {lexeme : Lexeme}
    (settled : triviaLength .between text = 0)
    (recognized : recognize text = some (lexeme, opening)) :
    lexeme.isBlank = false ∧ lexeme.opensComment = false := by
  unfold recognize at recognized
  split at recognized
  · contradiction
  · rename_i first rest
    have blank : ¬(isSpace first || first = '\n') := by
      intro blank
      rw [triviaLength_blank blank] at settled
      omega
    simp only [Bool.or_eq_true, decide_eq_true_iff, not_or] at blank
    rw [if_neg blank.2, if_neg blank.1] at recognized
    split at recognized
    · cases recognized
      decide
    · split at recognized
      · cases recognized
        obtain ⟨plain, _⟩ := isPlain_ofWord (String.ofList (List.takeWhile continuesWord (first :: rest)))
        simp only [isPlain, Bool.not_eq_true', Bool.or_eq_false_iff] at plain
        exact plain.1.1
      · obtain ⟨symbol, found, same⟩ := Option.map_eq_some_iff.1 recognized
        cases same
        obtain ⟨noBlank, comment⟩ := symbols_trivia _ (List.mem_of_find?_eq_some found)
        refine ⟨noBlank, Bool.eq_false_iff.2 fun opens => ?_⟩
        have start := List.find?_some found
        obtain ⟨behind, shape⟩ := List.isPrefixOf_iff_prefix.1 start
        rw [← shape] at settled
        rcases comment opens with spelled | spelled <;>
          simp [spelled, triviaLength] at settled

/-- A lexeme that is neither blank nor opens a comment opens no trivia. -/
theorem Lexeme.isTrivia_extent {lexeme : Lexeme} (blank : lexeme.isBlank = false)
    (comment : lexeme.opensComment = false) (opening after : List Char) :
    (lexeme.extent opening after).1.isTrivia = false := by
  have quoted (delimiter : Char) : (literal delimiter opening after).1.isTrivia = false := by
    unfold literal
    split <;> rfl
  cases lexeme with
  | doubleQuote => exact quoted _
  | singleQuote => exact quoted _
  | whitespace => contradiction
  | lineFeed => contradiction
  | lineComment => contradiction
  | blockCommentOpen => contradiction
  | _ => rfl

namespace Cursor

/-- The place behind a run of trivia is not followed by more. -/
theorem triviaLength_skipTrivia (cursor : Cursor) :
    triviaLength .between cursor.skipTrivia.rest = 0 := by
  rw [skipTrivia, rest_skip]
  exact triviaLength_drop .between cursor.rest

/-- Where trivia stands, the token cut off there is trivia, and the rest of the run is passed over
behind it. -/
theorem exists_scan_of_trivia {cursor : Cursor} (present : triviaLength .between cursor.rest ≠ 0) :
    ∃ spot, cursor.scan .keep = some spot ∧ spot.token.kind.isTrivia ∧
      spot.after.skipTrivia = cursor.skipTrivia := by
  obtain ⟨lexeme, opening, kind, taken, recognized, whole, isTrivia, run⟩ :=
    exists_trivia_token present
  refine ⟨cursor.spot .keep kind lexeme taken, ?_, isTrivia, ?_⟩
  · simp only [scan, recognized, Option.map_some, whole]
  · have passed : cursor.skipTrivia = (cursor.skip taken.length).skipTrivia := by
      rw [skipTrivia, run, skip_add, skipTrivia, rest_skip]
    exact passed.symm

/-- Where no trivia stands, the token cut off there is none. -/
theorem isTrivia_of_scan {cursor : Cursor} {trivia : Trivia} {spot : Spot}
    (settled : triviaLength .between cursor.rest = 0) (cut : cursor.scan trivia = some spot) :
    spot.token.kind.isTrivia = false := by
  obtain ⟨⟨lexeme, opening⟩, recognized, rfl⟩ := Option.map_eq_some_iff.1 cut
  obtain ⟨blank, comment⟩ := Lexeme.not_trivia_of_recognize settled recognized
  exact Lexeme.isTrivia_extent blank comment _ _

end Cursor

end Likeness
