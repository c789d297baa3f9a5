import Likeness.Proofs.Token.Spelling
import Mathlib.Data.List.Find

/-!
# Texts in front of other texts

The tokens of a text stay the same when another text is put behind it, and those of a longer text
stay the same when it is cut short, as long as no token goes on across the seam. Where the second
text starts with a character that nothing goes on with, that is so for blanks, numbers, words and
symbols. Comments and literals are looked at on their own, since they run over any character: cutting
short does not change those that stand before the seam, and a text behind does not change those that
are closed.
-/

namespace Likeness

namespace Lexeme

/-! ## Where lexemes end -/

/-- A character that no blank, number, word or symbol goes on with. -/
def isBreak (char : Char) : Bool :=
  !isSpace char && !continuesWord char && symbols.all fun symbol => !symbol.1.contains char

theorem isBreak_lineFeed : isBreak '\n' := by decide

/-- The symbols with two characters are made of symbols with one. -/
theorem symbols_singletons : ∀ symbol ∈ symbols, ∀ char ∈ symbol.1,
    ∃ symbol' ∈ symbols, symbol'.1 = [char] := by
  -- The test is run over the table, as characters are too many to be run over.
  have all : symbols.all fun symbol => symbol.1.all fun char =>
      symbols.any fun symbol' => symbol'.1 == [char] := by decide
  simpa only [List.all_eq_true, List.any_eq_true, beq_iff_eq] using all

section Breaks

variable {char : Char}

theorem isSpace_of_isBreak (breaks : isBreak char) : isSpace char = false := by
  simp only [isBreak, Bool.and_eq_true, Bool.not_eq_true'] at breaks
  exact breaks.1.1

theorem continuesWord_of_isBreak (breaks : isBreak char) : continuesWord char = false := by
  simp only [isBreak, Bool.and_eq_true, Bool.not_eq_true'] at breaks
  exact breaks.1.2

theorem isDigit_of_isBreak (breaks : isBreak char) : char.isDigit = false :=
  (Bool.or_eq_false_iff.1 (continuesWord_of_isBreak breaks)).2

/-- What breaks is in no symbol. -/
theorem not_mem_of_isBreak (breaks : isBreak char) {symbol : List Char × Lexeme}
    (member : symbol ∈ symbols) : char ∉ symbol.1 := by
  simp only [isBreak, Bool.and_eq_true, List.all_eq_true] at breaks
  simpa using breaks.2 symbol member

/-- A character breaks if no lexeme starts with it. -/
theorem isBreak_of_recognize_eq_none {rest : List Char} (none : recognize (char :: rest) = none) :
    isBreak char := by
  unfold recognize at none
  split at none
  · contradiction
  · rename_i first _ shape
    cases shape
    split at none
    · contradiction
    split at none
    · contradiction
    split at none
    · contradiction
    split at none
    · contradiction
    rename_i feed space digit word
    rw [Option.map_eq_none_iff, List.find?_eq_none] at none
    simp only [isBreak, continuesWord, Bool.and_eq_true, Bool.not_eq_true', Bool.or_eq_false_iff,
      List.all_eq_true]
    refine ⟨⟨by simpa using space, by simpa using word, by simpa using digit⟩, fun symbol member => ?_⟩
    -- A symbol that holds the character would make it a symbol by itself.
    rw [Bool.eq_false_iff, ne_eq, List.contains_iff_mem]
    intro inside
    obtain ⟨symbol', member', single⟩ := symbols_singletons symbol member char inside
    refine none symbol' member' ?_
    rw [single]
    simp

end Breaks

section Recognition

variable {char : Char} (breaks : isBreak char) (text behind : List Char)

omit breaks in
/-- What passes a test is taken up to a character that does not. -/
theorem takeWhile_append_cons {test : Char → Bool} (stop : test char = false) :
    (text ++ char :: behind).takeWhile test = text.takeWhile test := by
  rw [List.takeWhile_append, List.takeWhile_cons_of_neg (by simp [stop]), List.append_nil]
  split
  · rename_i all
    exact ((List.takeWhile_prefix test).eq_of_length all).symm
  · rfl

include breaks

/-- A fraction ends in front of a break. -/
theorem fraction_append : fraction (text ++ char :: behind) = fraction text := by
  have point : char ≠ '.' := by
    rintro rfl
    exact absurd breaks (by decide)
  cases text with
  | nil =>
    rw [List.nil_append, fraction]
    · rfl
    · rintro _ ⟨⟩
      contradiction
  | cons first text =>
    by_cases same : first = '.'
    · subst same
      rw [List.cons_append, fraction, fraction,
        takeWhile_append_cons text behind (isDigit_of_isBreak breaks)]
    · rw [List.cons_append, fraction, fraction]
      · rintro _ ⟨⟩
        contradiction
      · rintro _ ⟨⟩
        contradiction

/-- A sign is no break. -/
theorem sign_append : sign (text ++ char :: behind) = sign text := by
  cases text with
  | nil =>
    rw [List.nil_append, sign]
    · rfl
    · rintro _ ⟨⟩
      exact absurd breaks (by decide)
    · rintro _ ⟨⟩
      exact absurd breaks (by decide)
  | cons first text =>
    by_cases plus : first = '+'
    · subst plus
      rfl
    by_cases minus : first = '-'
    · subst minus
      rfl
    rw [List.cons_append, sign, sign]
    all_goals
      rintro _ ⟨⟩
      contradiction

/-- An exponent ends in front of a break. -/
theorem exponent_append : exponent (text ++ char :: behind) = exponent text := by
  cases text with
  | nil =>
    have lower : char ≠ 'e' := by
      rintro rfl
      exact absurd breaks (by decide)
    have upper : char ≠ 'E' := by
      rintro rfl
      exact absurd breaks (by decide)
    simp [exponent, lower, upper]
  | cons mark text =>
    have within := (sign_isPrefix text).length_le
    have digits := takeWhile_append_cons (text.drop (sign text).length) behind
      (isDigit_of_isBreak breaks)
    rw [← List.drop_append_of_le_length within] at digits
    simp only [List.cons_append, exponent, sign_append breaks, digits]

/-- A number ends in front of a break. -/
theorem numberText_append_cons : numberText (text ++ char :: behind) = numberText text := by
  have digits := takeWhile_append_cons text behind (isDigit_of_isBreak breaks)
  have first := List.takeWhile_prefix (l := text) Char.isDigit
  have second := append_isPrefix first (fraction_isPrefix _)
  have third := append_isPrefix second (exponent_isPrefix _)
  have suffix (rest : List Char) : ((rest ++ char :: behind).take 1).filter isNumberSuffix =
      (rest.take 1).filter isNumberSuffix := by
    cases rest with
    | nil =>
      simp [isNumberSuffix_of_not_continuesWord (continuesWord_of_isBreak breaks)]
    | cons => rfl
  simp only [numberText]
  rw [digits, List.drop_append_of_le_length first.length_le, fraction_append breaks,
    List.drop_append_of_le_length second.length_le, exponent_append breaks,
    List.drop_append_of_le_length third.length_le, suffix]

/-- A symbol stands in front of a break as if nothing followed. -/
theorem isPrefixOf_append_cons {symbol : List Char × Lexeme} (member : symbol ∈ symbols) :
    symbol.1.isPrefixOf (text ++ char :: behind) = symbol.1.isPrefixOf text := by
  rw [Bool.eq_iff_iff, List.isPrefixOf_iff_prefix, List.isPrefixOf_iff_prefix]
  constructor
  · intro start
    by_cases short : symbol.1.length ≤ text.length
    · exact List.prefix_of_prefix_length_le start (List.prefix_append _ _) short
    · -- A longer symbol would hold the break.
      have whole : text ++ [char] <+: text ++ char :: behind := by simp
      have inside : text ++ [char] <+: symbol.1 :=
        List.prefix_of_prefix_length_le whole start (by simp; omega)
      exact absurd (inside.subset (by simp)) (not_mem_of_isBreak breaks member)
  · exact fun start => start.trans (List.prefix_append _ _)

/-- The same lexeme is recognised in front of a break as in front of nothing. -/
theorem recognize_append_cons (nonempty : text ≠ []) :
    recognize (text ++ char :: behind) = recognize text := by
  have spaces := takeWhile_append_cons text behind (isSpace_of_isBreak breaks)
  have words := takeWhile_append_cons text behind (continuesWord_of_isBreak breaks)
  have numbers := numberText_append_cons breaks text behind
  have found : (symbols.find? fun symbol => symbol.1.isPrefixOf (text ++ char :: behind)) =
      symbols.find? fun symbol => symbol.1.isPrefixOf text := by
    refine List.find?_congr fun symbol member => ?_
    exact isPrefixOf_append_cons breaks text behind member
  obtain ⟨first, rest, rfl⟩ := List.exists_cons_of_ne_nil nonempty
  rw [List.cons_append] at spaces words numbers found ⊢
  simp only [recognize, spaces, words, numbers, found]

end Recognition

/-! ## Where comments and literals end -/

/-- A token is a beginning of the text that it is found in. -/
theorem extent_isPrefix_of_recognize {text opening : List Char} {lexeme : Lexeme}
    (recognized : recognize text = some (lexeme, opening)) :
    (lexeme.extent opening (text.drop opening.length)).2 <+: text := by
  obtain ⟨rest, rfl⟩ := recognize_isPrefix recognized
  rw [List.drop_left]
  exact lexeme.extent_isPrefix opening rest

section Extents

/-- What passes a test in front of the seam is taken from the first text alone. -/
theorem takeWhile_of_length_le {test : Char → Bool} {text behind : List Char}
    (short : ((text ++ behind).takeWhile test).length ≤ text.length) :
    text.takeWhile test = (text ++ behind).takeWhile test := by
  rw [List.takeWhile_append] at short ⊢
  split
  · rename_i all
    rw [if_pos all, List.length_append] at short
    have none : behind.takeWhile test = [] := List.length_eq_zero_iff.1 (by omega)
    rw [none, List.append_nil]
    exact (List.takeWhile_prefix test).eq_of_length all
  · rfl

/-- A block comment goes on past a character that does not close it. -/
theorem blockCommentText_cons {char : Char} {rest : List Char}
    (other : ∀ tail, char = '*' → rest = '/' :: tail → False) :
    blockCommentText (char :: rest) = char :: blockCommentText rest := by
  rw [blockCommentText]
  exact other

/-- What does not close a comment in front of the seam closes it at the seam or not at all. -/
theorem eq_nil_of_closes {char : Char} {rest behind tail : List Char}
    (other : ∀ tail, char = '*' → rest = '/' :: tail → False) (star : char = '*')
    (shape : rest ++ behind = '/' :: tail) : rest = [] := by
  cases rest with
  | nil => rfl
  | cons first rest =>
    cases shape
    exact (other rest star rfl).elim

/-- A block comment that ends in front of the seam is read from the first text alone. -/
theorem blockCommentText_of_length_le {text behind : List Char}
    (short : (blockCommentText (text ++ behind)).length ≤ text.length) :
    blockCommentText text = blockCommentText (text ++ behind) := by
  fun_induction blockCommentText text with
  | case1 => exact (List.length_eq_zero_iff.1 (Nat.le_zero.1 short)).symm
  | case2 rest => rfl
  | case3 char rest other ih =>
    rw [List.cons_append] at short ⊢
    have open' : ∀ tail, char = '*' → rest ++ behind = '/' :: tail → False := by
      rintro tail rfl shape
      obtain rfl := eq_nil_of_closes other rfl shape
      rw [shape] at short
      simp [blockCommentText] at short
    rw [blockCommentText_cons open', List.length_cons, List.length_cons] at short
    rw [blockCommentText_cons open', ih (Nat.le_of_succ_le_succ short)]

/-- A closed block comment is closed whatever follows. -/
theorem blockCommentText_append {text inside : List Char}
    (closed : blockCommentText text = inside ++ ['*', '/']) (behind : List Char) :
    blockCommentText (text ++ behind) = blockCommentText text := by
  fun_induction blockCommentText text generalizing inside with
  | case1 => simp at closed
  | case2 rest => rfl
  | case3 char rest other ih =>
    -- What closes the comment stands behind the character, or the character would be part of it.
    have onward : ∃ inside', blockCommentText rest = inside' ++ ['*', '/'] := by
      cases inside with
      | cons first inside => exact ⟨inside, (List.cons.inj closed).2⟩
      | nil =>
        obtain ⟨star, slash⟩ := List.cons.inj closed
        obtain ⟨tail, shape⟩ := blockCommentText_isPrefix rest
        rw [slash] at shape
        exact (other tail star shape.symm).elim
    obtain ⟨inside', closed'⟩ := onward
    rw [List.cons_append, blockCommentText_cons, ih closed']
    rintro tail star shape
    obtain rfl := eq_nil_of_closes other star shape
    simp [blockCommentText] at closed'

/-- A character that is neither a last backslash nor one in front of another character is none. -/
theorem ne_backslash {char : Char} {rest : List Char} (alone : char = '\\' → rest = [] → False)
    (paired : ∀ next tail, char = '\\' → rest = next :: tail → False) : char ≠ '\\' := by
  cases rest with
  | nil => exact fun same => alone same rfl
  | cons next tail => exact fun same => paired next tail same rfl

/-- A closed literal is closed whatever follows. -/
theorem literalContents_append_of_some {delimiter : Char} {text contents : List Char}
    (closed : literalContents delimiter text = some contents) (behind : List Char) :
    literalContents delimiter (text ++ behind) = some contents := by
  fun_induction literalContents delimiter text generalizing contents with
  | case1 => contradiction
  | case2 => contradiction
  | case3 char rest ih =>
    obtain ⟨inner, found, rfl⟩ := Option.map_eq_some_iff.1 closed
    rw [List.cons_append, List.cons_append, literalContents, ih found, Option.map_some]
  | case4 => contradiction
  | case5 rest alone paired feed =>
    have escape := ne_backslash alone paired
    rw [List.cons_append, literalContents_cons escape, if_neg feed, if_pos rfl, closed]
  | case6 char rest alone paired feed other ih =>
    obtain ⟨inner, found, rfl⟩ := Option.map_eq_some_iff.1 closed
    have escape := ne_backslash alone paired
    rw [List.cons_append, literalContents_cons escape, if_neg feed, if_neg other, ih found,
      Option.map_some]

/-- A literal that is closed in front of the seam is closed in the first text alone. -/
theorem literalContents_of_length_lt {delimiter : Char} {text behind contents : List Char}
    (closed : literalContents delimiter (text ++ behind) = some contents)
    (short : contents.length < text.length) : literalContents delimiter text = some contents := by
  fun_induction literalContents delimiter text generalizing contents with
  | case1 => simp at short
  | case2 =>
    cases behind with
    | nil => contradiction
    | cons next behind =>
      obtain ⟨inner, _, rfl⟩ := Option.map_eq_some_iff.1 closed
      simp at short
  | case3 char rest ih =>
    obtain ⟨inner, found, rfl⟩ := Option.map_eq_some_iff.1 closed
    rw [ih found (by simpa using short), Option.map_some]
  | case4 rest alone paired =>
    rw [List.cons_append, literalContents_cons (by decide), if_pos rfl] at closed
    contradiction
  | case5 rest alone paired feed =>
    have escape := ne_backslash alone paired
    rw [List.cons_append, literalContents_cons escape, if_neg feed, if_pos rfl] at closed
    exact closed
  | case6 char rest alone paired feed other ih =>
    have escape := ne_backslash alone paired
    rw [List.cons_append, literalContents_cons escape, if_neg feed, if_neg other] at closed
    obtain ⟨inner, found, rfl⟩ := Option.map_eq_some_iff.1 closed
    rw [ih found (by simpa using short), Option.map_some]

/-- A literal in front of the seam is the same in the first text alone. -/
theorem literal_of_length_le {delimiter : Char} {opening text behind : List Char}
    (short : (literal delimiter opening (text ++ behind)).2.length ≤
      opening.length + text.length) :
    literal delimiter opening text = literal delimiter opening (text ++ behind) := by
  cases closed : literalContents delimiter (text ++ behind) with
  | some contents =>
    rw [literal, closed] at short
    have inside := literalContents_of_length_lt closed (by simp at short; omega)
    rw [literal, literal, closed, inside]
  | none =>
    have isOpen : literalContents delimiter text = none := by
      cases found : literalContents delimiter text with
      | none => rfl
      | some contents =>
        rw [literalContents_append_of_some found behind] at closed
        contradiction
    rw [literal, literal, closed, isOpen]

/-- A token that ends in front of the seam is the same in the first text alone. -/
theorem extent_of_length_le {lexeme : Lexeme} {opening text behind : List Char}
    (short : (lexeme.extent opening (text ++ behind)).2.length ≤ opening.length + text.length) :
    lexeme.extent opening text = lexeme.extent opening (text ++ behind) := by
  cases lexeme with
  | lineComment =>
    rw [extent, List.length_append] at short
    rw [extent, extent, takeWhile_of_length_le (Nat.le_of_add_le_add_left short)]
  | blockCommentOpen =>
    rw [extent, List.length_append] at short
    rw [extent, extent, blockCommentText_of_length_le (Nat.le_of_add_le_add_left short)]
  | doubleQuote => exact literal_of_length_le short
  | singleQuote => exact literal_of_length_le short
  | _ => rfl

/-- A block comment opens with its mark. -/
theorem opening_of_blockComment {lexeme : Lexeme} {text opening : List Char}
    (recognized : recognize text = some (lexeme, opening)) (isComment : lexeme = .blockCommentOpen) :
    opening = ['/', '*'] := by
  subst isComment
  have symbol := mem_symbols_of_recognize recognized rfl rfl
  exact symbols_spelling _ symbol (['/', '*'], .blockCommentOpen) (by decide) rfl

/-- A token whose quote or block comment is closed is the same in front of a line feed. -/
theorem extent_append_lineFeed {lexeme : Lexeme} {opening text : List Char}
    (quoted : lexeme = .doubleQuote ∨ lexeme = .singleQuote → (lexeme.extent opening text).1 = .text)
    (commented : lexeme = .blockCommentOpen →
      ∃ inside, (lexeme.extent opening text).2 = opening ++ inside ++ ['*', '/'])
    (behind : List Char) :
    lexeme.extent opening (text ++ '\n' :: behind) = lexeme.extent opening text := by
  have literal_append (delimiter : Char) (closed : (literal delimiter opening text).1 = .text) :
      literal delimiter opening (text ++ '\n' :: behind) = literal delimiter opening text := by
    cases found : literalContents delimiter text with
    | none =>
      rw [literal, found] at closed
      contradiction
    | some contents => rw [literal, literal, literalContents_append_of_some found, found]
  cases lexeme with
  | lineComment => rw [extent, extent, takeWhile_append_cons _ _ (by decide)]
  | blockCommentOpen =>
    obtain ⟨inside, closed⟩ := commented rfl
    rw [extent, List.append_assoc] at closed
    rw [extent, extent, blockCommentText_append (List.append_cancel_left closed)]
  | doubleQuote => exact literal_append _ (quoted (.inl rfl))
  | singleQuote => exact literal_append _ (quoted (.inr rfl))
  | _ => rfl

end Extents

end Lexeme

/-! ## Cutting in front of a seam -/

/-- A token that nothing behind it can change, a line feed put in front: what it opens is closed. -/
structure Token.IsSealed (token : Token) : Prop where
  quoted : token.lexeme = .doubleQuote ∨ token.lexeme = .singleQuote → token.kind = .text
  commented : token.lexeme = .blockCommentOpen → ∃ inside, token.text = "/*" ++ inside ++ "*/"

namespace Cursor

/-- The same place with more text behind. -/
def extend (cursor : Cursor) (behind : List Char) : Cursor :=
  { cursor with rest := cursor.rest ++ behind }

@[simp] theorem rest_extend (cursor : Cursor) (behind : List Char) :
    (cursor.extend behind).rest = cursor.rest ++ behind := rfl

/-- Moving on in front of the seam does not depend on what is behind it. -/
theorem skip_extend (cursor : Cursor) {count : Nat} (short : count ≤ cursor.rest.length)
    (behind : List Char) : (cursor.extend behind).skip count = (cursor.skip count).extend behind := by
  fun_induction skip cursor count with
  | case1 => rw [skip_zero]
  | case2 count cursor empty positive =>
    rw [empty] at short
    exact (positive (Nat.le_zero.1 short)).elim
  | case3 cursor count char rest shape ih =>
    rw [shape] at short
    rw [skip_succ count (by rw [rest_extend, shape, List.cons_append])]
    exact ih (Nat.le_of_succ_le_succ short)

end Cursor

/-- The same token with more text behind. -/
def Spot.extend (behind : List Char) (spot : Spot) : Spot :=
  { spot with after := spot.after.extend behind, next := spot.next.extend behind }

namespace Cursor

variable {cursor stop longer : Cursor} {spots : List Spot} {behind : List Char} {char : Char}

/-- Where the same token is found with more text behind, it is cut off alike. -/
theorem scan_extend (recognized : Lexeme.recognize (cursor.rest ++ behind) =
      Lexeme.recognize cursor.rest)
    (same : ∀ lexeme opening, Lexeme.recognize cursor.rest = some (lexeme, opening) →
      lexeme.extent opening (cursor.rest.drop opening.length ++ behind) =
        lexeme.extent opening (cursor.rest.drop opening.length)) :
    (cursor.extend behind).scan .keep = (cursor.scan .keep).map (Spot.extend behind) := by
  rw [scan, scan, rest_extend, recognized]
  cases found : Lexeme.recognize cursor.rest with
  | none => rfl
  | some pair =>
    obtain ⟨lexeme, opening⟩ := pair
    have within := (Lexeme.recognize_isPrefix found).length_le
    have whole := (Lexeme.extent_isPrefix_of_recognize found).length_le
    simp only [Option.map_some, List.drop_append_of_le_length within, same lexeme opening found,
      spot, Spot.extend, settle, skip_extend cursor whole behind]
    rfl

/-- A token that is cut off is a beginning of the text, and its place is behind it. -/
theorem text_of_scan {trivia : Trivia} {spot : Spot} (cut : cursor.scan trivia = some spot) :
    spot.token.text.toList ≠ [] ∧ spot.token.text.toList <+: cursor.rest ∧
      spot.after = cursor.skip spot.token.text.toList.length := by
  obtain ⟨⟨lexeme, opening⟩, recognized, rfl⟩ := Option.map_eq_some_iff.1 cut
  simp only [spot, String.toList_ofList, and_true]
  exact ⟨lexeme.extent_ne_nil _ (Lexeme.recognize_ne_nil recognized),
    Lexeme.extent_isPrefix_of_recognize recognized⟩

/-- Cutting leaves no more to come than there was. -/
theorem Passes.length_rest_le {trivia : Trivia} (passes : Passes trivia cursor spots stop) :
    stop.rest.length ≤ cursor.rest.length := by
  induction passes with
  | stay => exact Nat.le_refl _
  | cut cut _ ih => exact Nat.le_trans ih (Nat.le_of_lt (length_rest_scan_lt cut))

/-- A token in front of a break is cut off as if nothing followed the text before the break. -/
theorem scan_extend_of_before {spot : Spot} (breaks : Lexeme.isBreak char)
    (cut : (cursor.extend (char :: behind)).scan .keep = some spot)
    (before : spot.token.text.toList.length ≤ cursor.rest.length) :
    ∃ spot', cursor.scan .keep = some spot' ∧ spot = spot'.extend (char :: behind) := by
  obtain ⟨nonempty, _, _⟩ := text_of_scan cut
  have more : cursor.rest ≠ [] := by
    intro empty
    rw [empty, List.length_nil, Nat.le_zero, List.length_eq_zero_iff] at before
    exact nonempty before
  have recognized := Lexeme.recognize_append_cons breaks cursor.rest behind more
  have same := scan_extend recognized fun lexeme opening found => by
    have within := (Lexeme.recognize_isPrefix found).length_le
    refine (Lexeme.extent_of_length_le ?_).symm
    simp only [scan, rest_extend, recognized, found, Option.map_some, Option.some.injEq,
      List.drop_append_of_le_length within] at cut
    subst cut
    rw [List.length_drop, Nat.add_sub_cancel' within]
    simpa [spot] using before
  rw [cut] at same
  obtain ⟨spot', cut', extended⟩ := Option.map_eq_some_iff.1 same.symm
  exact ⟨spot', cut', extended.symm⟩

/-- The tokens up to a break are those of the text before it. -/
theorem Passes.shorten (breaks : Lexeme.isBreak char) (passes : Passes .keep longer spots stop)
    (ended : stop.rest = char :: behind) :
    ∀ cursor, longer = cursor.extend (char :: behind) →
      ∃ spots' stop', Passes .keep cursor spots' stop' ∧ stop'.rest = [] ∧
        spots'.map Spot.token = spots.map Spot.token := by
  induction passes with
  | stay longer =>
    rintro cursor rfl
    exact ⟨[], cursor, .stay cursor, List.append_left_eq_self.1 ended, rfl⟩
  | @cut longer spot spots stop cut rest ih =>
    rintro cursor rfl
    -- The break is still to come behind the token.
    have before : spot.token.text.toList.length ≤ cursor.rest.length := by
      have fewer := rest.length_rest_le
      rw [(spot_of_scan cut).2, ended, settle, (text_of_scan cut).2.2, rest_skip, rest_extend,
        List.length_drop, List.length_append] at fewer
      rw [List.length_cons] at fewer
      omega
    obtain ⟨spot', cut', rfl⟩ := scan_extend_of_before breaks cut before
    obtain ⟨spots', stop', passes', ended', same⟩ := ih ended spot'.next rfl
    refine ⟨spot' :: spots', stop', .cut cut' passes', ended', ?_⟩
    rw [List.map_cons, List.map_cons, same]
    rfl

/-- Tokens that are closed are cut off alike when a line feed and more text follow. -/
theorem Passes.extend (passes : Passes .keep cursor spots stop)
    (closed : ∀ spot ∈ spots, spot.token.IsSealed) (behind : List Char) :
    Passes .keep (cursor.extend ('\n' :: behind)) (spots.map (Spot.extend ('\n' :: behind)))
      (stop.extend ('\n' :: behind)) := by
  induction passes with
  | stay cursor => exact .stay _
  | @cut cursor spot spots stop cut rest ih =>
    obtain ⟨⟨quoted, commented⟩, others⟩ := List.forall_mem_cons.1 closed
    refine .cut ?_ (ih others)
    have more : cursor.rest ≠ [] := by
      intro empty
      rw [scan_eq_none_of_rest_eq_nil .keep empty] at cut
      contradiction
    have recognized := Lexeme.recognize_append_cons Lexeme.isBreak_lineFeed cursor.rest behind more
    rw [scan_extend recognized, cut, Option.map_some]
    intro lexeme opening found
    simp only [scan, found, Option.map_some, Option.some.injEq] at cut
    subst cut
    refine Lexeme.extent_append_lineFeed quoted (fun isComment => ?_) behind
    obtain ⟨inside, closed⟩ := commented isComment
    have spelled := Lexeme.opening_of_blockComment found isComment
    refine ⟨inside.toList, ?_⟩
    simpa [spot, spelled, ← String.toList_inj] using closed

end Cursor

end Likeness
