import Likeness.Token

/-!
# Progress of cutting tokens

Every lexeme, and every token it opens, is a non-empty beginning of the text at its cursor. So a cut
leaves less to read, and cutting as often as there are characters comes to the end of the text or to
a character that no token starts with.
-/

namespace Likeness

namespace Lexeme

/-- A beginning of a text and a beginning of what follows it make a longer beginning. -/
theorem append_isPrefix {taken more text : List Char} (first : taken <+: text)
    (second : more <+: text.drop taken.length) : taken ++ more <+: text := by
  obtain ⟨rest, rfl⟩ := first
  simpa using second

/-- A fraction is a beginning of its text. -/
theorem fraction_isPrefix (text : List Char) : fraction text <+: text := by
  fun_cases fraction text with
  | case1 => simp
  | case2 => exact List.cons_prefix_cons.2 ⟨rfl, List.takeWhile_prefix _⟩
  | case3 => simp

theorem sign_isPrefix (text : List Char) : sign text <+: text := by
  fun_cases sign text <;> simp

/-- An exponent is a beginning of its text. -/
theorem exponent_isPrefix (text : List Char) : exponent text <+: text := by
  fun_cases exponent text with
  | case1 => simp
  | case2 =>
    exact List.cons_prefix_cons.2
      ⟨rfl, append_isPrefix (sign_isPrefix _) (List.takeWhile_prefix _)⟩
  | case3 => simp
  | case4 => simp

/-- A number is a beginning of its text. -/
theorem numberText_isPrefix (text : List Char) : numberText text <+: text := by
  refine append_isPrefix (append_isPrefix (append_isPrefix
    (List.takeWhile_prefix _) (fraction_isPrefix _)) (exponent_isPrefix _)) ?_
  generalize List.drop _ text = rest
  cases rest with
  | nil => simp
  | cons first rest => by_cases suffix : isNumberSuffix first <;> simp [suffix]

theorem symbols_ne_nil : ∀ symbol ∈ symbols, symbol.1 ≠ [] := by decide

/-- A lexeme is a beginning of the text it is recognised in. -/
theorem recognize_isPrefix {text taken : List Char} {lexeme : Lexeme}
    (recognized : recognize text = some (lexeme, taken)) : taken <+: text := by
  unfold recognize at recognized
  split at recognized
  · contradiction
  · split at recognized
    · cases recognized
      simp
    · split at recognized
      · cases recognized
        exact List.takeWhile_prefix _
      · split at recognized
        · cases recognized
          exact numberText_isPrefix _
        · split at recognized
          · cases recognized
            exact List.takeWhile_prefix _
          · obtain ⟨symbol, found, same⟩ := Option.map_eq_some_iff.1 recognized
            cases same
            simpa using List.find?_some found

/-- A lexeme takes at least one character. -/
theorem recognize_ne_nil {text taken : List Char} {lexeme : Lexeme}
    (recognized : recognize text = some (lexeme, taken)) : taken ≠ [] := by
  unfold recognize at recognized
  split at recognized
  · contradiction
  · split at recognized
    · cases recognized
      simp
    · split at recognized
      · cases recognized
        simp_all
      · split at recognized
        · cases recognized
          simp_all [numberText]
        · split at recognized
          · cases recognized
            simp_all [continuesWord]
          · obtain ⟨symbol, found, same⟩ := Option.map_eq_some_iff.1 recognized
            cases same
            exact symbols_ne_nil _ (List.mem_of_find?_eq_some found)

/-- The text of a block comment is a beginning of what follows its opening. -/
theorem blockCommentText_isPrefix (text : List Char) : blockCommentText text <+: text := by
  fun_induction blockCommentText text with
  | case1 => simp
  | case2 => simp
  | case3 _ _ _ ih => exact List.cons_prefix_cons.2 ⟨rfl, ih⟩

/-- The contents of a closed literal and its closing quote are a beginning of what follows its
opening. -/
theorem literalContents_isPrefix {delimiter : Char} {text contents : List Char}
    (closed : literalContents delimiter text = some contents) :
    contents ++ [delimiter] <+: text := by
  fun_induction literalContents delimiter text generalizing contents with
  | case1 => contradiction
  | case2 => contradiction
  | case3 char rest ih =>
    obtain ⟨inner, closedRest, rfl⟩ := Option.map_eq_some_iff.1 closed
    simpa using ih closedRest
  | case4 => contradiction
  | case5 => cases closed; simp
  | case6 _ _ _ _ _ _ ih =>
    obtain ⟨inner, closedRest, rfl⟩ := Option.map_eq_some_iff.1 closed
    simpa using ih closedRest

/-- A literal stays within the text from its opening quote on. -/
theorem literal_isPrefix (delimiter : Char) (opening after : List Char) :
    (literal delimiter opening after).2 <+: opening ++ after := by
  unfold literal
  split
  · simpa using literalContents_isPrefix ‹_›
  · simp

/-- A token stays within the text from its opening on. -/
theorem extent_isPrefix (lexeme : Lexeme) (opening after : List Char) :
    (lexeme.extent opening after).2 <+: opening ++ after := by
  fun_cases extent lexeme opening after with
  | case1 => simp [List.takeWhile_prefix]
  | case2 => simp [blockCommentText_isPrefix]
  | case3 => exact literal_isPrefix _ _ _
  | case4 => exact literal_isPrefix _ _ _
  | case5 => simp

/-- A token starts with the text of its lexeme. -/
theorem isPrefix_extent (lexeme : Lexeme) (opening after : List Char) :
    opening <+: (lexeme.extent opening after).2 := by
  fun_cases extent lexeme opening after with
  | case1 => simp
  | case2 => simp
  | case3 => unfold literal; split <;> simp [List.append_assoc]
  | case4 => unfold literal; split <;> simp [List.append_assoc]
  | case5 => simp

theorem extent_ne_nil (lexeme : Lexeme) {opening : List Char} (after : List Char)
    (nonempty : opening ≠ []) : (lexeme.extent opening after).2 ≠ [] := fun empty =>
  nonempty (List.prefix_nil.1 (empty ▸ lexeme.isPrefix_extent opening after))

end Lexeme

namespace Cursor

theorem length_rest_settle_le (cursor : Cursor) (trivia : Trivia) :
    (cursor.settle trivia).rest.length ≤ cursor.rest.length := by
  cases trivia <;> simp [settle, skipTrivia]

/-- A token that takes some of the text leaves less to read. -/
theorem length_rest_spot_lt (cursor : Cursor) (trivia : Trivia) (kind : Kind) (lexeme : Lexeme)
    {text : List Char} (nonempty : text ≠ []) (beginning : text <+: cursor.rest) :
    (cursor.spot trivia kind lexeme text).next.rest.length < cursor.rest.length := by
  have short := length_rest_settle_le (cursor.skip text.length) trivia
  have positive := List.length_pos_iff.2 nonempty
  have bounded := beginning.length_le
  simp only [rest_skip, List.length_drop] at short
  simp only [spot]
  omega

/-- Cutting a lexeme off the front leaves less to read. -/
theorem length_rest_next_lt {cursor : Cursor} {trivia : Trivia} {spot : Spot}
    (cut : cursor.next trivia = some spot) : spot.next.rest.length < cursor.rest.length := by
  obtain ⟨⟨lexeme, text⟩, recognized, rfl⟩ := Option.map_eq_some_iff.1 cut
  exact length_rest_spot_lt _ _ _ _ (Lexeme.recognize_ne_nil recognized)
    (Lexeme.recognize_isPrefix recognized)

/-- Cutting a token off the front leaves less to read. -/
theorem length_rest_scan_lt {cursor : Cursor} {trivia : Trivia} {spot : Spot}
    (cut : cursor.scan trivia = some spot) : spot.next.rest.length < cursor.rest.length := by
  obtain ⟨⟨lexeme, opening⟩, recognized, rfl⟩ := Option.map_eq_some_iff.1 cut
  have whole : opening ++ cursor.rest.drop opening.length = cursor.rest := by
    obtain ⟨rest, split⟩ := Lexeme.recognize_isPrefix recognized
    simp [← split]
  have beginning := lexeme.extent_isPrefix opening (cursor.rest.drop opening.length)
  rw [whole] at beginning
  exact length_rest_spot_lt _ _ _ _
    (Lexeme.extent_ne_nil _ _ (Lexeme.recognize_ne_nil recognized)) beginning

theorem scan_eq_none_of_rest_eq_nil {cursor : Cursor} (trivia : Trivia) (empty : cursor.rest = []) :
    cursor.scan trivia = none := by
  simp [scan, empty, Lexeme.recognize]

theorem next_eq_none_of_rest_eq_nil {cursor : Cursor} (trivia : Trivia) (empty : cursor.rest = []) :
    cursor.next trivia = none := by
  simp [next, empty, Lexeme.recognize]

/-- With as many cuts as there are characters, cutting stops only where no token starts. -/
theorem scan_scanUpTo_eq_none (trivia : Trivia) {count : Nat} {cursor : Cursor}
    (enough : cursor.rest.length ≤ count) :
    (scanUpTo trivia count cursor).2.scan trivia = none := by
  induction count generalizing cursor with
  | zero => exact scan_eq_none_of_rest_eq_nil _ (by simpa [scanUpTo] using enough)
  | succ count ih =>
    rw [scanUpTo]
    split
    · assumption
    · rename_i spot cut
      have shorter := length_rest_scan_lt cut
      exact ih (by omega)

/-- With as many cuts as there are characters, cutting stops only where no lexeme starts. -/
theorem next_nextUpTo_eq_none (trivia : Trivia) {count : Nat} {cursor : Cursor}
    (enough : cursor.rest.length ≤ count) :
    (nextUpTo trivia count cursor).2.next trivia = none := by
  induction count generalizing cursor with
  | zero => exact next_eq_none_of_rest_eq_nil _ (by simpa [nextUpTo] using enough)
  | succ count ih =>
    rw [nextUpTo]
    split
    · assumption
    · rename_i spot cut
      have shorter := length_rest_next_lt cut
      exact ih (by omega)

theorem scan_spots_eq_none (cursor : Cursor) (trivia : Trivia) :
    (cursor.spots trivia).2.scan trivia = none :=
  scan_scanUpTo_eq_none trivia (Nat.le_refl _)

theorem next_lexemes_eq_none (cursor : Cursor) (trivia : Trivia) :
    (cursor.lexemes trivia).2.next trivia = none :=
  next_nextUpTo_eq_none trivia (Nat.le_refl _)

end Cursor

end Likeness
