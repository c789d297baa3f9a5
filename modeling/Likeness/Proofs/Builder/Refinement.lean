import Likeness.Proofs.Builder.Parts
import Likeness.Proofs.Builder.Productions
import Likeness.Proofs.Token.Spelling

/-!
# Builders read what parsers read

A builder never sees a list of tokens. It takes single lexemes off the text at its cursor, searches
the ends of literals by hand, passes over the trivia behind each token, but not behind a sign, and
starts over from the same place for every alternative. A parser is given the tokens of the whole
text, with literals closed and trivia gone, as they are when a text is cut up at once.

`Builder.Refines` states that at every cursor, and whatever was noted before, a builder does what a
parser makes of the tokens that are cut off from there on: it builds the same value, stops at the
same place or leaves the cursor alone, and marks the same furthest place. Single tokens, literals and
numbers are read alike, and `refines_congruence` carries that through all productions. So
`parse_of_outcome` tells the tree of a text, or its failure, by its tokens.

The loop of a builder also stops at an item that moves nowhere. Items that take a token never do, so
that it is the loop of a parser, `Parser.many`, which has no such guard.
-/

namespace Likeness

/-! ## Single tokens -/

namespace Cursor

variable {cursor : Cursor} {trivia : Trivia} {spot : Spot}

theorem pieces_of_scan_none (stuck : cursor.scan .skip = none) : cursor.pieces = [] := by
  rw [pieces, (Passes.stay cursor).spots_eq stuck]
  rfl

theorem spots_of_scan (cut : cursor.scan .skip = some spot) :
    cursor.spots .skip = (spot :: (spot.next.spots .skip).1, (spot.next.spots .skip).2) :=
  (Passes.cut cut (passes_spots .skip spot.next)).spots_eq (scan_spots_eq_none spot.next .skip)

theorem pieces_of_scan (cut : cursor.scan .skip = some spot) :
    cursor.pieces = spot.piece :: spot.next.pieces := by
  rw [pieces, spots_of_scan cut]
  rfl

/-- Behind the first token stands the place where the next one is cut off. -/
theorem placeAt_next (cut : cursor.scan .skip = some spot) :
    cursor.placeAt (2 * spot.next.pieces.length) = spot.next := by
  rw [placeAt, spots_of_scan cut, pieces, List.length_map]
  exact (Passes.cut cut (.stay spot.next)).placeOf_eq _

/-- In front of the trivia behind the first token it ends. -/
theorem placeAt_after (cut : cursor.scan .skip = some spot) :
    cursor.placeAt (2 * spot.next.pieces.length + 1) = spot.after := by
  rw [placeAt, spots_of_scan cut, pieces, List.length_map, placeOf]
  have first : (spot :: (spot.next.spots .skip).1).length -
      (2 * (spot.next.spots .skip).1.length + 1) / 2 = 1 := by
    rw [List.length_cons]
    omega
  rw [first]
  exact if_pos (by omega)

/-- What is built where the first token is refused. -/
theorem build_accept_none {α : Type} {choose : Piece → Option α} (cut : cursor.scan .skip = some spot)
    (refused : choose spot.piece = none) :
    cursor.build (Parser.accept choose) = ⟨none, none⟩ := by
  have outcome : Parser.accept choose cursor.pieces = ⟨none, none⟩ := by
    rw [pieces_of_scan cut, Parser.accept, refused]
  exact build_of_none outcome

/-- What is built where the first token is accepted. -/
theorem build_accept_some {α : Type} {choose : Piece → Option α} {value : α}
    (cut : cursor.scan .skip = some spot) (chosen : choose spot.piece = some value) :
    cursor.build (Parser.accept choose) = ⟨some (value, spot.next), some spot.next⟩ := by
  have outcome : Parser.accept choose cursor.pieces =
      ⟨some (2 * spot.next.pieces.length), some (value, spot.next.pieces)⟩ := by
    rw [pieces_of_scan cut, Parser.accept, chosen]
  rw [build_of_some outcome, Option.map_some, placeAt_next cut]

/-- There is no sign where no minus stands. -/
theorem build_sign_none (other : ∀ spot, cursor.scan .skip = some spot → spot.token.lexeme ≠ .minus) :
    cursor.build Parser.sign = ⟨some (false, cursor), none⟩ := by
  have outcome : Parser.sign cursor.pieces = ⟨none, some (false, cursor.pieces)⟩ := by
    cases cut : cursor.scan .skip with
    | none =>
      rw [pieces_of_scan_none cut]
      rfl
    | some spot =>
      have other : spot.piece.lexeme ≠ .minus := other spot cut
      rw [pieces_of_scan cut, Parser.sign, if_neg other]
  rw [build_of_some outcome, placeAt_length]
  rfl

/-- A minus is a sign if the next token stands directly behind it. -/
theorem build_sign_glued (cut : cursor.scan .skip = some spot)
    (minus : spot.piece.lexeme = .minus) (glued : spot.piece.glued) :
    cursor.build Parser.sign = ⟨some (true, spot.next), some spot.next⟩ := by
  have outcome : Parser.sign cursor.pieces =
      ⟨some (2 * spot.next.pieces.length), some (true, spot.next.pieces)⟩ := by
    rw [pieces_of_scan cut, Parser.sign, if_pos minus, if_pos glued]
  rw [build_of_some outcome, Option.map_some, placeAt_next cut]

/-- A minus with trivia behind it is no sign, but its end is marked. -/
theorem build_sign_apart (cut : cursor.scan .skip = some spot)
    (minus : spot.piece.lexeme = .minus) (apart : ¬spot.piece.glued) :
    cursor.build Parser.sign = ⟨none, some spot.after⟩ := by
  have outcome : Parser.sign cursor.pieces = ⟨some (2 * spot.next.pieces.length + 1), none⟩ := by
    rw [pieces_of_scan cut, Parser.sign, if_pos minus, if_neg apart]
  rw [build_of_none outcome, Option.map_some, placeAt_after cut]

theorem byteLength_concat (front : List Char) (char : Char) :
    byteLength (front ++ [char]) = byteLength front + char.utf8Size := by
  induction front with
  | nil => simp [byteLength]
  | cons first front ih => simp [byteLength, ih, Nat.add_assoc]

/-- The bytes of some characters are covered by them. -/
theorem charactersCovering_byteLength (front back : List Char) :
    charactersCovering (byteLength front) (front ++ back) = front.length := by
  induction front with
  | nil => rw [byteLength, charactersCovering]; rfl
  | cons char front ih =>
    obtain ⟨size, positive⟩ := Nat.exists_eq_succ_of_ne_zero (Nat.ne_of_gt char.utf8Size_pos)
    have more : byteLength (char :: front) = size + byteLength front + 1 := by
      rw [byteLength, positive]
      omega
    have left : size + byteLength front + 1 - char.utf8Size = byteLength front := by omega
    rw [more, List.cons_append, charactersCovering, left, ih, List.length_cons]

theorem advance_byteLength {front back : List Char} (shape : cursor.rest = front ++ back) :
    cursor.advance (byteLength front) = cursor.skip front.length := by
  rw [advance, shape, charactersCovering_byteLength]

/-- No lexeme is taken where no token is cut off. -/
theorem next_of_scan_none (stuck : cursor.scan .skip = none) : cursor.next trivia = none := by
  rw [scan, Option.map_eq_none_iff] at stuck
  rw [next, stuck]
  rfl

/-- The lexeme that is taken is that of the token that is cut off, and all of it if it does not
extend beyond its own text. -/
theorem exists_next_of_scan (cut : cursor.scan .skip = some spot) (trivia : Trivia) :
    ∃ found, cursor.next trivia = some found ∧ found.token.lexeme = spot.token.lexeme ∧
      (spot.token.lexeme.isPlain →
        found = { spot with next := spot.after.settle trivia }) := by
  obtain ⟨⟨lexeme, opening⟩, recognized, rfl⟩ := Option.map_eq_some_iff.1 cut
  refine ⟨cursor.spot trivia lexeme.kind lexeme opening, ?_, rfl, fun plain => ?_⟩
  · rw [next, recognized]
    rfl
  · have plain : lexeme.isPlain := plain
    simp only [Lexeme.extent_of_isPlain plain]
    rfl

end Cursor

/-! ## Builders and parsers -/

namespace Builder

open Likeness.Cursor

variable {α β : Type} {taken taken' : Nat} {builder first second : Builder α}
  {parser first' second' : Parser α}

/-- A builder that does at every cursor what a parser makes of the tokens from there on. -/
structure Refines (taken : Nat) (builder : Builder α) (parser : Parser α) : Prop where
  steady : Parser.Steady taken parser
  runs : ∀ cursor : Cursor, Runs builder cursor (cursor.build parser)

theorem Refines.branch (refines : Refines taken builder parser) :
    Refines taken (branch builder) parser :=
  ⟨refines.steady, fun cursor => (refines.runs cursor).branch⟩

theorem refines_pure (value : α) : Refines 0 (pure value) (pure value) where
  steady := Parser.steady_pure value
  runs cursor := by
    rw [build_pure]
    exact runs_pure value cursor

theorem refines_fail : Refines taken (fail : Builder α) Parser.fail :=
  ⟨Parser.steady_fail, runs_fail⟩

theorem Refines.bind {continuation : α → Builder β} {continuation' : α → Parser β}
    (refines : Refines taken (Builder.branch builder) parser)
    (behind : ∀ value, Refines taken' (Builder.branch (continuation value)) (continuation' value)) :
    Refines (taken + taken') (Builder.branch (builder >>= continuation))
      (parser >>= continuation') where
  steady := refines.steady.bind fun value => (behind value).steady
  runs cursor := by
    have start := refines.runs cursor
    rcases built : cursor.build parser with ⟨_ | ⟨value, middle⟩, place⟩
    · rw [built] at start
      rw [build_bind_none built]
      exact start.bind_none
    · rw [built] at start
      rw [build_bind_some refines.steady (behind value).steady built]
      exact start.bind_some ((behind value).runs middle)

theorem Refines.orElse (refines : Refines taken first first')
    (refines' : Refines taken second second') :
    Refines taken (first <|> second) (first' <|> second') where
  steady := refines.steady.orElse refines'.steady
  runs cursor := by
    have start := refines.runs cursor
    rcases built : cursor.build first' with ⟨_ | ⟨value, stop⟩, place⟩
    · rw [built] at start
      rw [build_orElse_none built]
      exact start.orElse_none (refines'.runs cursor)
    · rw [built] at start
      rw [build_orElse_some built]
      exact start.orElse_some

theorem Refines.map (refines : Refines taken builder parser) (change : α → β) :
    Refines taken (change <$> builder) (change <$> parser) where
  steady := refines.steady.map change
  runs cursor := by
    rw [build_map]
    exact (refines.runs cursor).map change

/-- A builder that comes back to itself is turned more often than its parser, which makes no
difference to that. -/
theorem refines_fix {step : Builder α → Builder α} {step' : Parser α → Parser α}
    (deep : ∀ {depth : Nat} {input : List Piece}, input.length < depth →
      Parser.unroll step' depth input = Parser.fix step' input)
    (turn : ∀ {inner inner'}, Refines taken inner inner' →
      Refines taken (step inner) (step' inner')) :
    Refines taken (fix step) (Parser.fix step') := by
  have turns (depth : Nat) : Refines taken (unroll step depth) (Parser.unroll step' depth) := by
    induction depth with
    | zero => exact refines_fail
    | succ depth ih => exact turn ih
  refine ⟨⟨fun accepted => (turns _).steady.suffix accepted,
    fun member => (turns _).steady.within member⟩, fun cursor noted => ?_⟩
  have enough : cursor.build (Parser.unroll step' (cursor.rest.length + 1)) =
      cursor.build (Parser.fix step') :=
    build_congr (deep (Nat.lt_succ_of_le (length_pieces_le cursor)))
  exact enough ▸ (turns (cursor.rest.length + 1)).runs cursor noted

/-- A loop makes a value of its items one by one, a parser of all of them. As many steps as there
are tokens are enough. -/
theorem runs_stepsUpTo {step : β → Builder β} {change : β → α → β}
    (refines : ∀ value, Refines 1 (step value) (change value <$> parser))
    (steady : Parser.Steady 1 parser) {count : Nat} (value : β) (cursor : Cursor)
    (enough : cursor.pieces.length ≤ count) :
    Runs (stepsUpTo step count value) cursor
      (cursor.build (List.foldl change value <$> Parser.many parser)) := by
  induction count generalizing value cursor with
  | zero =>
    have built := build_of_pieces_eq_nil steady (List.length_eq_zero_iff.1 (Nat.le_zero.1 enough))
    rw [build_map, build_many_none steady built]
    exact runs_stepsUpTo_zero step value cursor
  | succ count ih =>
    have start := (refines value).runs cursor
    rw [build_map] at start
    rcases built : cursor.build parser with ⟨_ | ⟨item, middle⟩, place⟩
    · rw [built] at start
      rw [build_map, build_many_none steady built]
      exact start.stepsUpTo_none
    · rw [built] at start
      have fewer := length_pieces_of_build steady built
      have behind := ih (change value item) middle (by omega)
      obtain ⟨items, stop, place', others⟩ := exists_build_many middle parser
      rw [build_map, others] at behind
      rw [build_map, build_many_some steady built others]
      exact start.stepsUpTo_some behind

/-- There are no more tokens than characters, so a loop has enough steps for all of them. -/
theorem refines_steps {step : β → Builder β} {change : β → α → β}
    (refines : ∀ value, Refines 1 (step value) (change value <$> parser)) (value : β) :
    Refines 0 (steps step value) (List.foldl change value <$> Parser.many parser) := by
  have steady := (refines value).steady.of_map
  refine ⟨steady.many.map _, fun cursor noted => ?_⟩
  exact runs_stepsUpTo refines steady value cursor (length_pieces_le cursor) noted

/-- What takes a token moves on. -/
theorem Refines.moving (refines : Refines 1 builder parser) :
    Refines 1 (moving builder) parser where
  steady := refines.steady
  runs cursor := by
    have start := refines.runs cursor
    rcases built : cursor.build parser with ⟨_ | ⟨value, stop⟩, place⟩
    · rw [built] at start
      exact start.moving_none
    · rw [built] at start
      exact start.moving_some (offset_lt_of_steady refines.steady built)

/-! ## Tokens -/

/-- A token is taken for what is found in it, if that is never one that extends beyond its own
lexeme. -/
theorem taking_of_scan {choose : Lexeme → String → Option α} {cursor : Cursor} {spot : Spot}
    (plain : ∀ lexeme text, (choose lexeme text).isSome → lexeme.isPlain)
    (cut : cursor.scan .skip = some spot) (trivia : Trivia) (noted : Option Cursor) :
    taking trivia choose ⟨cursor, noted⟩ =
      match choose spot.token.lexeme spot.token.text with
      | none => (none, ⟨cursor, noted⟩)
      | some value => (some value, Stance.mark ⟨spot.after.settle trivia, noted⟩) := by
  obtain ⟨found, next, same, whole⟩ := exists_next_of_scan cut trivia
  rw [taking, next]
  by_cases isPlain : spot.token.lexeme.isPlain
  · obtain rfl := whole isPlain
    rfl
  · have refused (text : String) : choose spot.token.lexeme text = none :=
      Option.not_isSome_iff_eq_none.1 fun found => isPlain (plain _ _ found)
    simp only [same, refused]

/-- A token in which nothing is found is left alone, and so is the end of the text. -/
theorem runs_taking_none {choose : Lexeme → String → Option α} {cursor : Cursor}
    (plain : ∀ lexeme text, (choose lexeme text).isSome → lexeme.isPlain) (trivia : Trivia)
    (refused : ∀ spot, cursor.scan .skip = some spot →
      choose spot.token.lexeme spot.token.text = none) :
    Runs (taking trivia choose) cursor ⟨none, none⟩ := by
  refine runs_none.2 fun noted => ?_
  rw [noting_none]
  cases cut : cursor.scan .skip with
  | none => rw [taking, next_of_scan_none cut]
  | some spot => rw [taking_of_scan plain cut, refused spot cut]

/-- A token in which something is found is passed, and the place behind it is marked. -/
theorem runs_taking_some {choose : Lexeme → String → Option α} {cursor : Cursor} {spot : Spot}
    {value : α} (plain : ∀ lexeme text, (choose lexeme text).isSome → lexeme.isPlain)
    (trivia : Trivia) (cut : cursor.scan .skip = some spot)
    (chosen : choose spot.token.lexeme spot.token.text = some value) :
    Runs (taking trivia choose) cursor
      ⟨some (value, spot.after.settle trivia), some (spot.after.settle trivia)⟩ := by
  refine runs_some.2 fun noted => ?_
  rw [taking_of_scan plain cut, chosen]
  rfl

/-- A token is taken where it is cut off. -/
theorem refines_taking {choose : Lexeme → String → Option α}
    (plain : ∀ lexeme text, (choose lexeme text).isSome → lexeme.isPlain) :
    Refines 1 (taking .skip choose)
      (Parser.accept fun piece => choose piece.lexeme piece.text) where
  steady := Parser.steady_accept _
  runs cursor := by
    cases cut : cursor.scan .skip with
    | none =>
      rw [build_of_pieces_eq_nil (Parser.steady_accept _) (pieces_of_scan_none cut)]
      refine runs_taking_none plain .skip fun spot found => ?_
      cases cut.symm.trans found
    | some spot =>
      cases chosen : choose spot.token.lexeme spot.token.text with
      | none =>
        rw [build_accept_none cut chosen]
        refine runs_taking_none plain .skip fun spot' found => ?_
        cases cut.symm.trans found
        exact chosen
      | some value =>
        rw [build_accept_some cut chosen, (spot_of_scan cut).2]
        exact runs_taking_some plain .skip cut chosen

/-! ## Literals -/

/-- What a literal in quotes is made of. -/
theorem quoted_apply (delimiter : Char) (stance : Stance) :
    quoted delimiter stance =
      if stance.cursor.rest.head? = some delimiter then
        let inside := stance.cursor.advance delimiter.utf8Size
        match Lexeme.literalContents delimiter inside.rest with
        | none => (none, stance)
        | some contents =>
          let behind := inside.advance (byteLength contents + delimiter.utf8Size)
          (some (String.ofList contents), { stance with cursor := behind.skipTrivia }.mark)
      else (none, stance) := by
  show andThen (branch (andThen here fun opening =>
    andThen (ensure (opening.rest.head? = some delimiter)) fun _ =>
      andThen (move fun cursor => cursor.advance delimiter.utf8Size) fun _ =>
        andThen here fun inside =>
          andThen (ofOption (Lexeme.literalContents delimiter inside.rest)) fun contents =>
            andThen (move fun cursor =>
              cursor.advance (byteLength contents + delimiter.utf8Size)) fun _ =>
                andThen (move Cursor.skipTrivia) fun _ => pure (String.ofList contents)))
    (fun contents => andThen mark fun _ => pure contents) stance = _
  by_cases opens : stance.cursor.rest.head? = some delimiter
  · rw [if_pos opens]
    simp only [andThen, branch, here, move, ensure, opens, decide_true, if_true, succeed]
    cases Lexeme.literalContents delimiter (stance.cursor.advance delimiter.utf8Size).rest <;> rfl
  · rw [if_neg opens]
    simp only [andThen, branch, here, ensure, opens, decide_false, Bool.false_eq_true, if_false]
    rfl

/-- Behind an opening quote, the literal is passed up to its closing one. -/
theorem quoted_of_opened {delimiter : Char} {rest : List Char} {cursor : Cursor}
    (shape : cursor.rest = delimiter :: rest) (noted : Option Cursor) :
    quoted delimiter ⟨cursor, noted⟩ =
      match Lexeme.literalContents delimiter rest with
      | none => (none, ⟨cursor, noted⟩)
      | some contents =>
        (some (String.ofList contents),
          Stance.mark ⟨(cursor.skip (contents.length + 2)).skipTrivia, noted⟩) := by
  have inside : cursor.advance delimiter.utf8Size = cursor.skip 1 := by
    have one := advance_byteLength (show cursor.rest = [delimiter] ++ rest from shape)
    rwa [byteLength, byteLength, Nat.add_zero] at one
  have left : (cursor.skip 1).rest = rest := by
    rw [rest_skip, shape]
    rfl
  simp only [quoted_apply, inside, left, shape, List.head?_cons, if_true]
  cases closed : Lexeme.literalContents delimiter rest with
  | none => rfl
  | some contents =>
    obtain ⟨back, split⟩ := Lexeme.literalContents_isPrefix closed
    have behind := advance_byteLength (left.trans split.symm)
    rw [byteLength_concat, List.length_append, ← skip_add, List.length_singleton,
      Nat.add_comm 1] at behind
    simp only [behind]

/-- A literal in quotes is found by hand where it is cut off as one token. -/
theorem refines_quoted {delimiter : Char} {quote : Lexeme}
    (opens : ∀ text opening, Lexeme.recognize text = some (quote, opening) ↔
      text.head? = some delimiter ∧ opening = [delimiter])
    (whole : ∀ opening after, quote.extent opening after = Lexeme.literal delimiter opening after) :
    Refines 1 (quoted delimiter) (Parser.contents quote) where
  steady := Parser.steady_accept _
  runs cursor := by
    by_cases opened : cursor.rest.head? = some delimiter
    · obtain ⟨rest, shape⟩ := List.head?_eq_some_iff.1 opened
      have cut : cursor.scan .skip = some (cursor.spot .skip
          (Lexeme.literal delimiter [delimiter] rest).1 quote
          (Lexeme.literal delimiter [delimiter] rest).2) := by
        rw [scan, (opens _ _).2 ⟨opened, rfl⟩, shape]
        simp only [Option.map_some, whole]
        rfl
      have same := quoted_of_opened shape
      cases closed : Lexeme.literalContents delimiter rest with
      | none =>
        rw [Lexeme.literal, closed] at cut
        rw [Parser.contents, build_accept_none cut rfl]
        refine runs_none.2 fun noted => ?_
        rw [same, closed, noting_none]
      | some contents =>
        rw [Lexeme.literal, closed] at cut
        have chosen : (if Kind.text = .text && quote = quote then
            some (String.ofList ((String.ofList ([delimiter] ++ contents ++ [delimiter])).toList.drop
              1).dropLast) else none) = some (String.ofList contents) := by
          simp
        rw [Parser.contents, build_accept_some cut chosen]
        refine runs_some.2 fun noted => ?_
        rw [same, closed]
        have length : ([delimiter] ++ contents ++ [delimiter]).length = contents.length + 2 := by
          simp
        simp only [spot, length]
        rfl
    · have none : Runs (quoted delimiter) cursor ⟨none, none⟩ := by
        refine runs_none.2 fun noted => ?_
        rw [quoted_apply, if_neg opened, noting_none]
      cases cut : cursor.scan .skip with
      | none =>
        rwa [Parser.contents,
          build_of_pieces_eq_nil (Parser.steady_accept _) (pieces_of_scan_none cut)]
      | some spot =>
        have other : spot.token.lexeme ≠ quote := by
          obtain ⟨⟨lexeme, opening⟩, recognized, rfl⟩ := Option.map_eq_some_iff.1 cut
          rintro rfl
          exact opened ((opens _ _).1 recognized).1
        rwa [Parser.contents, build_accept_none cut (by simp [Spot.piece, other])]

/-- A quote is recognised where its character stands, and nowhere else. -/
theorem recognize_quote {delimiter : Char} {quote : Lexeme}
    (spelled : ([delimiter], quote) ∈ Lexeme.symbols) (extended : quote.isPlain = false)
    (first : ∀ rest, Lexeme.recognize (delimiter :: rest) = some (quote, [delimiter]))
    (text opening : List Char) :
    Lexeme.recognize text = some (quote, opening) ↔
      text.head? = some delimiter ∧ opening = [delimiter] := by
  constructor
  · intro recognized
    have blank : quote.isBlank = false := (Lexeme.symbols_trivia _ spelled).1
    have member := Lexeme.mem_symbols_of_recognize recognized blank extended
    obtain rfl : opening = [delimiter] := Lexeme.symbols_spelling _ member _ spelled rfl
    obtain ⟨rest, rfl⟩ := Lexeme.recognize_isPrefix recognized
    exact ⟨rfl, rfl⟩
  · rintro ⟨opened, rfl⟩
    obtain ⟨rest, rfl⟩ := List.head?_eq_some_iff.1 opened
    exact first rest

theorem refines_string : Refines 1 (quoted '"') (Parser.contents .doubleQuote) :=
  refines_quoted (recognize_quote (by decide) rfl fun _ => rfl) fun _ _ => rfl

theorem refines_char : Refines 1 (quoted '\'') (Parser.contents .singleQuote) :=
  refines_quoted (recognize_quote (by decide) rfl fun _ => rfl) fun _ _ => rfl

/-! ## Numbers -/

/-- The value of the digits that stand next, with a given sign. -/
def digits (negative : Bool) : Builder Literal := do
  let text ← Token.text <$> matching .skip fun token => token.lexeme = .number
  ofOption (Literal.ofNumber? negative text)

theorem digits_eq (negative : Bool) :
    digits negative = (do
      let text ← taking .skip fun lexeme text => if lexeme = .number then some text else none
      ofOption (Literal.ofNumber? negative text)) :=
  congrArg (· >>= fun text => ofOption (Literal.ofNumber? negative text))
    (map_matching .skip .number fun text => text)

theorem refines_digits (negative : Bool) :
    Refines 1 (branch (digits negative)) (do
      let text ← Parser.accept fun piece =>
        if piece.lexeme = .number then some piece.text else none
      Parser.ofOption (Literal.ofNumber? negative text)) := by
  have number := refines_taking (isPlain_of_isSome (rfl : Lexeme.number.isPlain) fun text => text)
  have value (text : String) : Refines 0 (branch (ofOption (Literal.ofNumber? negative text)))
      (Parser.ofOption (Literal.ofNumber? negative text)) := by
    cases Literal.ofNumber? negative text with
    | none => exact refines_fail.branch
    | some value => exact (refines_pure value).branch
  rw [digits_eq]
  exact number.branch.bind value

/-- No digits stand where there is trivia. -/
theorem runs_digits_of_trivia (negative : Bool) {cursor : Cursor}
    (present : triviaLength .between cursor.rest ≠ 0) :
    Runs (branch (digits negative)) cursor ⟨none, none⟩ := by
  rw [digits_eq]
  refine Runs.bind_none (Runs.branch (runs_taking_none
    (isPlain_of_isSome (rfl : Lexeme.number.isPlain) fun text => text) .skip fun spot cut => ?_))
  refine if_neg fun isNumber => ?_
  obtain ⟨lexeme, opening, kind, taken, recognized, whole, isTrivia, _⟩ :=
    exists_trivia_token present
  rw [scan, recognized] at cut
  cases cut
  subst isNumber
  cases whole
  cases isTrivia

theorem runs_sign_some {cursor : Cursor} {spot : Spot} (cut : cursor.scan .skip = some spot)
    (minus : spot.token.lexeme = .minus) :
    Runs (attempt (lexemeExact .minus)) cursor ⟨some (some (), spot.after), some spot.after⟩ := by
  rw [lexemeExact, map_matching .keep .minus fun _ => ()]
  exact ((runs_taking_some (isPlain_of_isSome rfl _) .keep cut (if_pos minus)).map some).orElse_some

theorem runs_sign_none {cursor : Cursor}
    (other : ∀ spot, cursor.scan .skip = some spot → spot.token.lexeme ≠ .minus) :
    Runs (attempt (lexemeExact .minus)) cursor ⟨some (none, cursor), none⟩ := by
  rw [lexemeExact, map_matching .keep .minus fun _ => ()]
  have refused := runs_taking_none (isPlain_of_isSome (rfl : Lexeme.minus.isPlain) fun _ => ()) .keep
    fun spot cut => if_neg (other spot cut)
  exact (refused.map some).orElse_none (runs_pure none cursor)

/-- A number is read alike. A minus is taken without the trivia behind it, so that no digits are
found where there is some. -/
theorem refines_number : Refines 1 number Parser.number where
  steady := Parser.steady_number
  runs cursor := by
    have same : number = branch (attempt (lexemeExact .minus) >>= fun sign => digits sign.isSome) :=
      rfl
    rw [same, Parser.number]
    by_cases signed : ∃ spot, cursor.scan .skip = some spot ∧ spot.token.lexeme = .minus
    · obtain ⟨spot, cut, minus⟩ := signed
      have sign := (runs_sign_some cut minus).branch
      have behind := (spot_of_scan cut).2
      by_cases glued : spot.piece.glued
      · have standing : spot.after = spot.next := by
          have offsets : spot.after.offset = spot.next.offset := beq_iff_eq.1 glued
          rw [behind] at offsets ⊢
          exact (skip_eq_self offsets.symm).symm
        rw [build_bind_some Parser.steady_sign (refines_digits true).steady
          (build_sign_glued cut minus glued)]
        rw [standing] at sign
        exact sign.bind_some ((refines_digits true).runs spot.next)
      · have present : triviaLength .between spot.after.rest ≠ 0 := fun none => glued (by
          rw [Spot.piece, behind, settle, skipTrivia, none, skip_zero]
          exact beq_self_eq_true _)
        rw [build_bind_none (build_sign_apart cut minus glued)]
        have whole : Runs (branch (attempt (lexemeExact .minus) >>= fun sign => digits sign.isSome))
            cursor ⟨none, (some spot.after).merge Cursor.further none⟩ :=
          sign.bind_some (runs_digits_of_trivia true present)
        rwa [Option.merge_none_right] at whole
    · have other (spot : Spot) (cut : cursor.scan .skip = some spot) :
          spot.token.lexeme ≠ .minus := fun minus => signed ⟨spot, cut, minus⟩
      rw [build_bind_some Parser.steady_sign (refines_digits false).steady (build_sign_none other)]
      exact (runs_sign_none other).branch.bind_some ((refines_digits false).runs cursor)

/-! ## Productions -/

/-- Every way to put builders together reads what the same way to put parsers together does. -/
theorem refines_congruence : Congruence Refines where
  any refines := ⟨refines.steady.any, refines.runs⟩
  branch := Refines.branch
  fail _ := refines_fail
  pure := refines_pure
  bind := Refines.bind
  map change refines := refines.map change
  orElse := Refines.orElse
  fix := refines_fix
  steps := refines_steps
  moving := Refines.moving
  taking := refines_taking
  string := refines_string
  char := refines_char
  number := refines_number

theorem runs_part (kind : PartKind) (cursor : Cursor) :
    Runs (Part.builder kind) cursor (cursor.build (Part.parser kind)) :=
  (refines_congruence.part kind).runs cursor

theorem runs_expressions (cursor : Cursor) :
    Runs (repeated expression) cursor (cursor.build (Parser.many Parser.expression)) :=
  (refines_congruence.repeated refines_congruence.expression).runs cursor

end Builder

/-! ## What is made of a text -/

namespace Cursor

/-- A place that is not past another one does not matter for the furthest. -/
theorem further_further {cursor place stop : Cursor} (before : place.offset ≤ stop.offset) :
    stop.further (place.further cursor) = stop.further cursor := by
  unfold further
  grind

/-- What is built does not end in front of its start. -/
theorem offset_le_of_build {α : Type} {parser : Parser α} {cursor stop : Cursor} {value : α}
    (built : (cursor.build parser).result = some (value, stop)) : cursor.offset ≤ stop.offset := by
  obtain ⟨_, _, same⟩ := Option.map_eq_some_iff.1 built
  cases same
  exact offset_le_placeOf (passes_spots .skip cursor) _

end Cursor

section Source

variable {source : String} {expressions : List Expression}

/-- A source text has a tree if its expressions end where it does, and fails otherwise, not in front
of their end. -/
theorem parse_of_build {stop : Cursor}
    (built : ((sourceStart source).build (Parser.many Parser.expression)).result =
      some (expressions, stop)) :
    parse source = if stop.atEnd then .ok ⟨expressions⟩ else .error (.ofCursor (stop.further
      (((sourceStart source).build (Parser.many Parser.expression)).reached.getD stop))) := by
  -- The start of the text and its first token are noted before anything is built.
  have noted : Builder.expressions ⟨.ofSource source, some (.ofSource source)⟩ =
      Builder.repeated Builder.expression
        ⟨sourceStart source, some ((Cursor.ofSource source).further (sourceStart source))⟩ := rfl
  have before : ((Cursor.ofSource source).further (sourceStart source)).offset ≤ stop.offset := by
    have first : (Cursor.ofSource source).offset ≤ (sourceStart source).offset :=
      Cursor.offset_le_offset_skip _ _
    rw [Cursor.offset_further, Nat.max_eq_right first]
    exact Cursor.offset_le_of_build built
  have furthest (place : Option Cursor) :
      stop.further ((place.map (((Cursor.ofSource source).further (sourceStart source)).further)).getD
        ((Cursor.ofSource source).further (sourceStart source))) =
      stop.further (place.getD stop) := by
    cases place with
    | none => rw [Option.map_none, Option.getD_none, Option.getD_none, Cursor.further,
        if_neg (Nat.not_lt.2 before), Cursor.further, ite_self]
    | some place => exact Cursor.further_further before
  simp only [parse, noted, Builder.runs_expressions _ _, built, Option.map_some, Option.getD_some,
    Cursor.noting_some, Stance.furthest, furthest]

/-- A text has a tree if the expressions at its front reach its end, and fails at the furthest place
otherwise. -/
theorem parse_of_outcome {reach : Option Nat} {rest : List Piece}
    (outcome : Parser.many Parser.expression ((sourceSpots source).map Spot.piece) =
      ⟨reach, some (expressions, rest)⟩) :
    parse source =
      let placeOf := (sourceStart source).placeOf (sourceSpots source)
      let stop := placeOf (2 * rest.length)
      if stop.atEnd then .ok ⟨expressions⟩
      else .error (.ofCursor (stop.further ((reach.map placeOf).getD stop))) := by
  have built := Cursor.build_of_some outcome
  rw [parse_of_build (congrArg Cursor.Built.result built), built]
  rfl

end Source

end Likeness
