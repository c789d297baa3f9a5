import Likeness.Proofs.Session.Invariant

/-!
# Reports of failures

A failed parse reports a place and what stands there. The place is in the text, with its line and its
column, and not in front of the end of the expressions that were built. It is behind the trivia that
follows a token, but for one case: a minus with trivia behind it is no sign of a number, and an
attempt to read one stops between the two. `Parser.stopping` traces this case through all productions,
as a correspondence of each input with itself.
-/

namespace Likeness

namespace Parser

/-! ## Stopping in front of trivia -/

/-- An attempt that stops in front of trivia stops behind a minus. -/
def StopsBehindMinus (whole : List Piece) (reach : Option Nat) : Prop :=
  ∀ count ∈ reach, count % 2 = 1 → ∃ front minus back, whole = front ++ minus :: back ∧
    minus.lexeme = .minus ∧ back.length = count / 2

variable {whole : List Piece}

/-- Of two attempts the further one stops in front of trivia only behind a minus, if both do. -/
theorem StopsBehindMinus.further {first second : Option Nat} (one : StopsBehindMinus whole first)
    (other : StopsBehindMinus whole second) : StopsBehindMinus whole (further first second) := by
  cases first with
  | none => rwa [further_none_left]
  | some first =>
    cases second with
    | none => rwa [further_none_right]
    | some second =>
      intro count member
      cases member
      rcases Nat.le_total first second with less | less
      · rw [Nat.min_eq_left less]
        exact one first rfl
      · rw [Nat.min_eq_right less]
        exact other second rfl

/-- An end of `whole` corresponds to itself, and attempts stop in front of trivia only behind a minus
of `whole`. -/
def stopping (whole : List Piece) : Correspondence where
  related shared input input' := shared = input.length ∧ input' = input ∧ input <:+ whole
  within _ := True
  reached reach _ := StopsBehindMinus whole reach
  shared_le := by
    rintro _ _ _ ⟨rfl, rfl, _⟩
    exact ⟨Nat.le_refl _, Nat.le_refl _⟩
  within_further := fun _ => ⟨trivial, trivial⟩
  reached_none := nofun
  reached_further := StopsBehindMinus.further

/-- The place behind a piece and its trivia is not in front of trivia. -/
theorem stopsBehindMinus_even (count : Nat) : StopsBehindMinus whole (some (2 * count)) := by
  intro reach member odd
  cases member
  omega

/-- A piece is taken with the trivia behind it. -/
theorem simulates_stopping_accept {α : Type} {choose : Piece → Option α} (bound : Nat) :
    Simulates (stopping whole) 1 bound (accept choose) (accept choose) := by
  rintro _ _ input _ ⟨rfl, rfl, suffix⟩ _
  cases input with
  | nil => exact .failed nofun
  | cons piece rest =>
    rw [accept]
    cases choose piece with
    | none => exact .failed nofun
    | some value =>
      exact .accepted value (stopsBehindMinus_even _) (Nat.le_refl _)
        ⟨rfl, rfl, (List.suffix_cons piece rest).trans suffix⟩

/-- A sign is the one thing that is taken without the trivia behind it, and it is a minus. -/
theorem simulates_stopping_sign (bound : Nat) :
    Simulates (stopping whole) 0 bound sign sign := by
  rintro _ _ input _ ⟨rfl, rfl, suffix⟩ _
  cases input with
  | nil => exact .accepted false nofun (Nat.le_refl _) ⟨rfl, rfl, suffix⟩
  | cons piece rest =>
    rw [sign]
    by_cases minus : piece.lexeme = .minus
    · rw [if_pos minus]
      cases piece.glued with
      | true =>
        exact .accepted true (stopsBehindMinus_even _) (Nat.le_succ _)
          ⟨rfl, rfl, (List.suffix_cons piece rest).trans suffix⟩
      | false =>
        obtain ⟨front, rfl⟩ := suffix
        refine .failed fun count member _ => ⟨front, piece, rest, rfl, minus, ?_⟩
        cases member
        omega
    · rw [if_neg minus]
      exact .accepted false nofun (Nat.le_refl _) ⟨rfl, rfl, suffix⟩

/-- All productions stop in front of trivia only behind a minus. -/
theorem respected_stopping : (stopping whole).Respected 2 where
  accept _ _ := simulates_stopping_accept
  number bound := by
    refine (simulates_stopping_sign bound).next fun negative => ?_
    refine (simulates_stopping_accept bound).before fun text => ?_
    exact simulates_ofOption _

/-- The expressions of an input come to the front of trivia only behind a minus. -/
theorem exists_minus_of_furthest {rest : List Piece} {reach : Option Nat}
    {expressions : List Expression}
    (outcome : many expression whole = ⟨reach, some (expressions, rest)⟩)
    (odd : furthest reach rest % 2 = 1) :
    ∃ front minus back, whole = front ++ minus :: back ∧ minus.lexeme = .minus ∧
      back.length = furthest reach rest / 2 := by
  have respected : (stopping whole).Respected 2 := respected_stopping
  have agree := simulates_expressions respected _ _ _ _ (Nat.lt_succ_self _)
    ⟨rfl, rfl, List.suffix_rfl⟩ trivial
  rw [outcome] at agree
  cases agree with
  | accepted _ stops =>
    cases reach with
    | none =>
      simp only [furthest, Option.elim_none] at odd
      omega
    | some count =>
      simp only [furthest, Option.elim_some] at odd ⊢
      rcases Nat.le_total (2 * rest.length) count with less | less
      · rw [Nat.min_eq_left less] at odd
        omega
      · rw [Nat.min_eq_right less] at odd ⊢
        exact stops count rfl odd

end Parser

namespace Cursor

variable {source : String} {cursor stop : Cursor} {spots : List Spot} {spot : Spot}

/-! ## Places and trivia -/

/-- Cutting with trivia passed over comes to places where no trivia stands. -/
theorem Passes.settled (passes : Passes .skip cursor spots stop)
    (settled : triviaLength .between cursor.rest = 0) : triviaLength .between stop.rest = 0 := by
  induction passes with
  | stay => exact settled
  | @cut _ spot _ _ cut _ ih =>
    have next : spot.next = spot.after.skipTrivia := (spot_of_scan cut).2
    exact ih (next ▸ triviaLength_skipTrivia spot.after)

/-- Trivia stands at a place only if it is the place behind a token. -/
theorem placeOf_of_trivia (passes : Passes .skip cursor spots stop)
    (settled : triviaLength .between cursor.rest = 0) {reach : Nat}
    (present : triviaLength .between (cursor.placeOf spots reach).rest ≠ 0) :
    reach % 2 = 1 ∧ ∃ front spot rest middle, spots = front ++ spot :: rest ∧
      rest.length = reach / 2 ∧ Passes .skip cursor front middle ∧
      middle.scan .skip = some spot ∧ cursor.placeOf spots reach = spot.after := by
  rcases placeOf_cases passes reach with
    ⟨_, same⟩ | ⟨front, spot, rest, middle, shape, length, passesFront, cut, _, same⟩
  · rw [same] at present
    exact absurd settled present
  · by_cases odd : reach % 2 = 1
    · rw [if_pos odd] at same
      exact ⟨odd, front, spot, rest, middle, shape, length, passesFront, cut, same⟩
    · rw [if_neg odd, (spot_of_scan cut).2] at same
      rw [same] at present
      exact absurd (triviaLength_skipTrivia spot.after) present

/-- A minus has one spelling. -/
theorem text_eq_minus {trivia : Trivia} (cut : cursor.scan trivia = some spot)
    (minus : spot.piece.lexeme = .minus) : spot.token.text = "-" := by
  have spelled : (['-'], spot.piece.lexeme) ∈ Lexeme.symbols := by
    rw [minus]
    decide
  have plain : spot.piece.lexeme.isPlain := by
    rw [minus]
    rfl
  exact String.toList_injective ((cut_of_scan cut).symbol spelled plain)

/-- The place behind a token of a text has the text up to the token, and the token, in front of it. -/
theorem StandsIn.exists_after_eq {trivia : Trivia} (stands : cursor.StandsIn source)
    (cut : cursor.scan trivia = some spot) :
    ∃ before behind, source = before ++ spot.token.text ++ behind ∧
      spot.after = ⟨behind.toList, (before ++ spot.token.text).utf8ByteSize,
        .behind (before ++ spot.token.text)⟩ := by
  obtain ⟨before, rest, rfl, rfl⟩ := stands
  obtain ⟨_, ⟨behind, shape⟩, after⟩ := text_of_scan cut
  have split : rest = spot.token.text ++ String.ofList behind := by
    rw [← String.toList_inj, String.toList_append, String.toList_ofList]
    exact shape.symm
  have whole : before ++ rest = before ++ spot.token.text ++ String.ofList behind := by
    rw [split, String.append_assoc]
  refine ⟨before, String.ofList behind, whole, ?_⟩
  rw [after, ← skip_ofSource before rest, ← skip_add, ← List.length_append, ← String.toList_append,
    whole, skip_ofSource]

end Cursor

open Likeness.Parser

/-- The furthest place in a text stands between two parts of it, and trivia stands there only behind a
minus. -/
theorem exists_sourcePlace_eq {source : String} {reach : Option Nat} {expressions : List Expression}
    {rest : List Piece}
    (outcome : many expression ((sourceSpots source).map Spot.piece) =
      ⟨reach, some (expressions, rest)⟩) :
    ∃ before behind, source = before ++ behind ∧
      sourcePlace source (furthest reach rest) =
        ⟨behind.toList, before.utf8ByteSize, .behind before⟩ ∧
      (triviaLength .between behind.toList ≠ 0 → ∃ front, before = front ++ "-") := by
  have passes := passes_source source
  have settled := Cursor.triviaLength_skipTrivia (Cursor.ofSource source)
  have start : (sourceStart source).StandsIn source :=
    (Cursor.standsIn_ofSource source).of_leadsTo ⟨_, rfl⟩
  by_cases present : triviaLength .between (sourcePlace source (furthest reach rest)).rest = 0
  · obtain ⟨before, behind, whole, place⟩ :=
      start.of_leadsTo (Cursor.leadsTo_placeOf (sourceStart source) (furthest reach rest))
    refine ⟨before, behind, whole, place, fun some => absurd ?_ some⟩
    rw [sourcePlace, sourceSpots, place] at present
    exact present
  · obtain ⟨odd, front, spot, others, middle, shape, length, passesFront, cut, place⟩ :=
      Cursor.placeOf_of_trivia passes settled present
    obtain ⟨pieces, minus, back, split, isMinus, length'⟩ := exists_minus_of_furthest outcome odd
    -- The piece that is a minus is the token in front of the place.
    have same : spot.piece = minus := by
      rw [shape, List.map_append, List.map_cons] at split
      obtain ⟨_, tail⟩ := List.append_inj' split (by simp [length, length'])
      exact (List.cons.inj tail).1
    have text : spot.token.text = "-" := Cursor.text_eq_minus cut (same ▸ isMinus)
    have stands := start.of_leadsTo passesFront.exists_skip
    obtain ⟨before, behind, whole, after⟩ := stands.exists_after_eq cut
    rw [text] at whole after
    exact ⟨before ++ "-", behind, whole, place.trans after, fun _ => ⟨before, rfl⟩⟩

/-! ## What is reported -/

namespace ParseFailure

/-- What a failure says of the text behind its place: that there is none, which token is recognised
in front of it, or that none is and which character is the first. -/
inductive Shows : ParseFailure → List Char → Prop where
  | ended {position offset} : Shows (.unexpectedEnd position offset) []
  | token {position offset lexeme found behind}
      (recognized : Lexeme.recognize behind = some (lexeme, found))
      (nonempty : String.ofList found ≠ "") :
      Shows (.unexpectedToken position offset (String.ofList found)) behind
  | character {position offset found behind}
      (unrecognized : Lexeme.recognize (found :: behind) = none) :
      Shows (.unrecognizedCharacter position offset found) (found :: behind)

/-- A failure has the position of its cursor. -/
theorem position_ofCursor (cursor : Cursor) : (ofCursor cursor).position = cursor.position := by
  rw [ofCursor]
  split
  · rfl
  · split <;> rfl

/-- A failure shows what stands at its cursor. -/
theorem shows_ofCursor (cursor : Cursor) : (ofCursor cursor).Shows cursor.rest := by
  rw [ofCursor]
  split
  · rename_i empty
    rw [empty]
    exact .ended
  · rename_i first behind shape
    split
    · rename_i lexeme found recognized
      refine .token recognized fun empty => Lexeme.recognize_ne_nil recognized ?_
      exact String.ofList_eq_empty_iff.1 empty
    · rename_i unrecognized
      rw [shape] at unrecognized ⊢
      exact .character unrecognized

/-- A failure that shows a text is one at an end just when the text is at its end. -/
theorem Shows.unexpectedEnd_iff {failure : ParseFailure} {behind : List Char}
    (shows : failure.Shows behind) :
    failure = .unexpectedEnd failure.position failure.offset ↔ behind = [] := by
  cases shows with
  | ended => exact iff_of_true rfl rfl
  | token recognized =>
    refine iff_of_false nofun fun empty => ?_
    rw [empty] at recognized
    cases recognized
  | character => exact iff_of_false nofun (List.cons_ne_nil _ _)

/-- A failure at a token shows the text of the lexeme that is recognised there. -/
theorem Shows.recognized {position : Position} {offset : Nat} {found : String} {behind : List Char}
    (shows : (unexpectedToken position offset found).Shows behind) :
    ∃ lexeme, Lexeme.recognize behind = some (lexeme, found.toList) := by
  generalize same : unexpectedToken position offset found = failure at shows
  cases shows with
  | ended => cases same
  | @token _ _ lexeme _ _ recognized =>
    cases same
    exact ⟨lexeme, by rwa [String.toList_ofList]⟩
  | character => cases same

end ParseFailure

theorem Lexeme.isTrivia_kind (lexeme : Lexeme) :
    lexeme.kind.isTrivia = (lexeme.isBlank || lexeme.opensComment) := by
  cases lexeme <;> rfl

/-- A text that fails has its expressions built up to a place behind all trivia, and fails there or
later. -/
theorem exists_repeats_of_error {source : String} {failure : ParseFailure}
    (failed : parse source = .error failure) :
    ∃ expressions stop, (sourceStart source).Repeats expression expressions stop ∧
      triviaLength .between stop.rest = 0 ∧ stop.offset ≤ failure.offset := by
  have uniform := Production.expression.uniform
  obtain ⟨expressions, stop, built, repeats⟩ := Cursor.exists_repeats uniform (sourceStart source)
  obtain ⟨_, _, _, _, _, passes, _⟩ := Cursor.exists_passes_of_build uniform.many built
  refine ⟨expressions, stop, repeats, passes.settled (Cursor.triviaLength_skipTrivia _), ?_⟩
  rw [parse_of_build built] at failed
  split at failed
  · cases failed
  · rw [← Except.error.inj failed, ParseFailure.offset_ofCursor, Cursor.offset_further]
    exact Nat.le_max_left _ _

/-- A failed parse reports a place between two parts of the text, with the bytes, the line and the
column that the first part comes to. It is not in front of the end of the expressions that are built
one behind the other from the start of the text on, trivia behind the last one included. What is
reported is what stands there, and that is trivia only directly behind a minus. -/
theorem failure_shows_its_place {source : String} {failure : ParseFailure}
    (failed : parse source = .error failure) :
    ∃ before behind, source = before ++ behind ∧
      failure.offset = before.utf8ByteSize ∧ failure.position = .behind before ∧
      (∃ expressions stop, (sourceStart source).Repeats expression expressions stop ∧
        triviaLength .between stop.rest = 0 ∧ stop.offset ≤ failure.offset ∧
        failure.offset ≤ source.utf8ByteSize) ∧
      failure.Shows behind.toList ∧
      (failure = .unexpectedEnd failure.position failure.offset ↔
        failure.offset = source.utf8ByteSize) ∧
      ∀ lexeme text, Lexeme.recognize behind.toList = some (lexeme, text) →
        lexeme.kind.isTrivia → ∃ front, before = front ++ "-" := by
  obtain ⟨reach, _, rest, outcome⟩ := exists_many expression ((sourceSpots source).map Spot.piece)
  obtain ⟨before, behind, whole, place, afterMinus⟩ := exists_sourcePlace_eq outcome
  obtain ⟨expressions, stop, repeats, settled, notBefore⟩ := exists_repeats_of_error failed
  have shown : failure = .ofCursor ⟨behind.toList, before.utf8ByteSize, .behind before⟩ := by
    rw [parse_eq_error outcome, place] at failed
    split at failed
    · cases failed
    · exact (Except.error.inj failed).symm
  have offset : failure.offset = before.utf8ByteSize := by
    rw [shown, ParseFailure.offset_ofCursor]
  have shows : failure.Shows behind.toList := by
    rw [shown]
    exact ParseFailure.shows_ofCursor _
  have length : source.utf8ByteSize = failure.offset + behind.utf8ByteSize := by
    rw [whole, String.utf8ByteSize_append, offset]
  refine ⟨before, behind, whole, offset, ?_, ⟨expressions, stop, repeats, settled, notBefore, ?_⟩,
    shows, ?_, ?_⟩
  · rw [shown, ParseFailure.position_ofCursor]
  · omega
  · rw [shows.unexpectedEnd_iff, length, String.toList_eq_nil_iff, ← String.utf8ByteSize_eq_zero_iff]
    omega
  · intro lexeme text recognized isTrivia
    refine afterMinus fun none => ?_
    obtain ⟨noBlank, noComment⟩ := Lexeme.not_trivia_of_recognize none recognized
    rw [Lexeme.isTrivia_kind, noBlank, noComment] at isTrivia
    cases isTrivia

/-- Behind a comment with a letter of two bytes and a statement on a line of its own, the blank behind
a minus is reported on the second line, directly behind the minus. -/
theorem failure_shows_blank_behind_minus :
    parse "/*é*/ x;\n(- 1)" = .error (.unexpectedToken ⟨1, 2⟩ 12 " ") ∧
      ∃ before behind, "/*é*/ x;\n(- 1)" = before ++ behind ∧ before.utf8ByteSize = 12 ∧
        Position.behind before = ⟨1, 2⟩ ∧ ∃ front, before = front ++ "-" := by
  have failed : parse "/*é*/ x;\n(- 1)" = .error (.unexpectedToken ⟨1, 2⟩ 12 " ") := by
    have shown : (match parse "/*é*/ x;\n(- 1)" with
        | .ok _ => none
        | .error failure => some failure) = some (.unexpectedToken ⟨1, 2⟩ 12 " ") := by
      decide +kernel
    split at shown
    · cases shown
    · rename_i failure parsed
      rw [parsed, Option.some.inj shown]
  obtain ⟨before, behind, whole, offset, position, _, shows, _, afterMinus⟩ :=
    failure_shows_its_place failed
  refine ⟨failed, before, behind, whole, offset.symm, position.symm, ?_⟩
  obtain ⟨lexeme, recognized⟩ := shows.recognized
  obtain ⟨rest, shape⟩ := Lexeme.recognize_isPrefix recognized
  refine afterMinus _ _ recognized ?_
  rw [← shape] at recognized
  have isBlank : some Lexeme.whitespace = some lexeme := congrArg (Option.map Prod.fst) recognized
  rw [← Option.some.inj isBlank]
  rfl

end Likeness
