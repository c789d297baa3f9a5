import Likeness.Proofs.Token.Trivia

/-!
# Cutting with and without trivia

`Cursor.Passes` relates a place, the tokens cut off there and the place behind them. Every place that
is come to while trivia is passed over is also come to when trivia is cut off as tokens, and the
tokens of the first way are those of the second that are no trivia. So both ways make the same of a
text, as `Cursor.tokenize_skip_eq_map_keep` says, and what a parser sees of it can be read off its
tokens: `Token.pieces` keeps the tokens that are no trivia, each with whether trivia follows it.
-/

namespace Likeness

namespace Cursor

/-- Cutting tokens off from one place on comes to another. -/
inductive Passes (trivia : Trivia) : Cursor → List Spot → Cursor → Prop where
  | stay (cursor : Cursor) : Passes trivia cursor [] cursor
  | cut {cursor spot spots stop} (first : cursor.scan trivia = some spot)
      (rest : Passes trivia spot.next spots stop) : Passes trivia cursor (spot :: spots) stop

variable {trivia : Trivia} {cursor middle stop : Cursor} {spot : Spot} {first second spots : List Spot}

/-- Cutting goes on where it stopped. -/
theorem Passes.append (front : Passes trivia cursor first middle)
    (back : Passes trivia middle second stop) : Passes trivia cursor (first ++ second) stop := by
  induction front with
  | stay => exact back
  | cut cut _ ih => exact .cut cut (ih back)

/-- Tokens that are cut off are cut off one part after the other. -/
theorem Passes.split (passes : Passes trivia cursor (first ++ second) stop) :
    ∃ middle, Passes trivia cursor first middle ∧ Passes trivia middle second stop := by
  induction first generalizing cursor with
  | nil => exact ⟨cursor, .stay cursor, passes⟩
  | cons spot first ih =>
    cases passes with
    | cut cut rest =>
      obtain ⟨middle, front, back⟩ := ih rest
      exact ⟨middle, .cut cut front, back⟩

/-- Cutting as often as asked for passes the tokens that are cut. -/
theorem passes_scanUpTo (trivia : Trivia) (count : Nat) (cursor : Cursor) :
    Passes trivia cursor (scanUpTo trivia count cursor).1 (scanUpTo trivia count cursor).2 := by
  induction count generalizing cursor with
  | zero => exact .stay cursor
  | succ count ih =>
    rw [scanUpTo]
    split
    · exact .stay cursor
    · exact .cut ‹_› (ih _)

theorem passes_spots (trivia : Trivia) (cursor : Cursor) :
    Passes trivia cursor (cursor.spots trivia).1 (cursor.spots trivia).2 :=
  passes_scanUpTo trivia _ cursor

/-- The tokens that are passed up to where no more can be cut are all of them. -/
theorem Passes.spots_eq (passes : Passes trivia cursor spots stop)
    (final : stop.scan trivia = none) : cursor.spots trivia = (spots, stop) := by
  have enough (count : Nat) (many : cursor.rest.length ≤ count) :
      scanUpTo trivia count cursor = (spots, stop) := by
    induction passes generalizing count with
    | stay cursor =>
      cases count with
      | zero => rfl
      | succ count => simp [scanUpTo, final]
    | @cut cursor spot spots stop cut rest ih =>
      have shorter := length_rest_scan_lt cut
      cases count with
      | zero => omega
      | succ count => simp [scanUpTo, cut, ih final count (by omega)]
  exact enough _ (Nat.le_refl _)

/-! ## Offsets -/

/-- A token stands between its place and the place behind it, and what follows it is trivia or
nothing. -/
theorem spot_of_scan (cut : cursor.scan trivia = some spot) :
    spot.token.location = cursor.locationTo spot.after ∧ spot.next = spot.after.settle trivia := by
  obtain ⟨⟨lexeme, opening⟩, _, rfl⟩ := Option.map_eq_some_iff.1 cut
  exact ⟨rfl, rfl⟩

/-- Moving past a character goes on. -/
theorem offset_lt_offset_skip {count : Nat} (positive : 0 < count) (more : cursor.rest ≠ []) :
    cursor.offset < (cursor.skip count).offset := by
  obtain ⟨count, rfl⟩ := Nat.exists_eq_add_of_lt positive
  obtain ⟨char, rest, shape⟩ := List.exists_cons_of_ne_nil more
  have size := char.utf8Size_pos
  rw [offset_skip, shape, List.take_succ_cons, byteLength]
  omega

/-- A token has at least one byte. -/
theorem offset_lt_of_scan (cut : cursor.scan trivia = some spot) :
    cursor.offset < spot.after.offset := by
  have more : cursor.rest ≠ [] := fun empty => by
    rw [scan_eq_none_of_rest_eq_nil trivia empty] at cut
    contradiction
  obtain ⟨⟨lexeme, opening⟩, recognized, rfl⟩ := Option.map_eq_some_iff.1 cut
  have nonempty := lexeme.extent_ne_nil (cursor.rest.drop opening.length)
    (Lexeme.recognize_ne_nil recognized)
  exact offset_lt_offset_skip (List.length_pos_iff.2 nonempty) more

/-- Passing over trivia does not go back. -/
theorem offset_le_settle (cursor : Cursor) (trivia : Trivia) :
    cursor.offset ≤ (cursor.settle trivia).offset := by
  cases trivia with
  | keep => exact Nat.le_refl _
  | skip => exact offset_le_offset_skip cursor _

/-- Cutting a token off goes on. -/
theorem offset_lt_next_of_scan (cut : cursor.scan trivia = some spot) :
    cursor.offset < spot.next.offset := by
  rw [(spot_of_scan cut).2]
  exact Nat.lt_of_lt_of_le (offset_lt_of_scan cut) (offset_le_settle _ _)

/-- Cutting does not go back, and goes on if there is a token. -/
theorem Passes.offset_le (passes : Passes trivia cursor spots stop) :
    cursor.offset ≤ stop.offset ∧ (spots ≠ [] → cursor.offset < stop.offset) := by
  induction passes with
  | stay => exact ⟨Nat.le_refl _, fun some => absurd rfl some⟩
  | cut cut _ ih =>
    have less := offset_lt_next_of_scan cut
    exact ⟨by omega, fun _ => by omega⟩

/-- The tokens that are passed stand between the two places. -/
theorem Passes.location_of_mem (passes : Passes trivia cursor spots stop) (member : spot ∈ spots) :
    cursor.offset ≤ spot.token.location.first ∧ spot.token.location.first < stop.offset := by
  induction passes with
  | stay => contradiction
  | @cut cursor head spots stop cut rest ih =>
    have less := offset_lt_next_of_scan cut
    have more := rest.offset_le.1
    rcases List.mem_cons.1 member with rfl | member
    · rw [(spot_of_scan cut).1]
      exact ⟨Nat.le_refl _, Nat.lt_of_lt_of_le less more⟩
    · obtain ⟨behind, before⟩ := ih member
      exact ⟨by omega, before⟩

/-! ## Trivia as tokens -/

/-- The same token is cut off when trivia is kept, and nothing behind it is passed over. -/
theorem scan_keep_of_skip (cut : cursor.scan .skip = some spot) :
    cursor.scan .keep = some { spot with next := spot.after } := by
  obtain ⟨⟨lexeme, opening⟩, recognized, rfl⟩ := Option.map_eq_some_iff.1 cut
  rw [scan, recognized]
  rfl

/-- No token is cut off in either way where none is recognised. -/
theorem scan_keep_eq_none (final : cursor.scan .skip = none) : cursor.scan .keep = none := by
  rw [scan, Option.map_eq_none_iff] at final
  rw [scan, final]
  rfl

/-- A run of trivia is passed token by token. -/
theorem exists_passes_skipTrivia (cursor : Cursor) :
    ∃ spots, Passes .keep cursor spots cursor.skipTrivia ∧
      ∀ spot ∈ spots, spot.token.kind.isTrivia := by
  induction size : cursor.rest.length using Nat.strongRecOn generalizing cursor with
  | ind size ih =>
    by_cases settled : triviaLength .between cursor.rest = 0
    · rw [skipTrivia_eq_self settled]
      exact ⟨[], .stay cursor, List.forall_mem_nil _⟩
    · obtain ⟨spot, cut, isTrivia, passed⟩ := exists_scan_of_trivia settled
      have next : spot.next = spot.after := (spot_of_scan cut).2
      have shorter := length_rest_scan_lt cut
      rw [next, size] at shorter
      obtain ⟨spots, passes, allTrivia⟩ := ih _ shorter spot.after rfl
      rw [passed] at passes
      exact ⟨spot :: spots, .cut cut (next ▸ passes), List.forall_mem_cons.2 ⟨isTrivia, allTrivia⟩⟩

end Cursor

/-- What a parser sees of tokens: those that are no trivia, each with whether the next one follows
without trivia in between. -/
def Token.pieces : List Token → List Piece
  | [] => []
  | token :: rest =>
    if token.kind.isTrivia then pieces rest
    else ⟨token.kind, token.lexeme, token.text, !(rest.head?.any fun next => next.kind.isTrivia)⟩
      :: pieces rest

/-- Trivia in front is not seen. -/
theorem Token.pieces_append_of_trivia {front : List Token}
    (allTrivia : ∀ token ∈ front, token.kind.isTrivia) (rest : List Token) :
    pieces (front ++ rest) = pieces rest := by
  induction front with
  | nil => rfl
  | cons token front ih =>
    obtain ⟨isTrivia, others⟩ := List.forall_mem_cons.1 allTrivia
    rw [List.cons_append, pieces, if_pos isTrivia, ih others]

/-- The tokens that are no trivia. -/
def Token.significant (tokens : List Token) : List Token :=
  tokens.filter fun token => !token.kind.isTrivia

theorem Token.significant_append (front rest : List Token) :
    significant (front ++ rest) = significant front ++ significant rest :=
  List.filter_append ..

theorem Token.significant_cons {token : Token} (visible : token.kind.isTrivia = false)
    (rest : List Token) : significant (token :: rest) = token :: significant rest := by
  simp [significant, visible]

/-- Trivia in front is left out. -/
theorem Token.significant_append_of_trivia {front : List Token}
    (allTrivia : ∀ token ∈ front, token.kind.isTrivia) (rest : List Token) :
    significant (front ++ rest) = significant rest := by
  have none : significant front = [] := by simpa [significant] using allTrivia
  rw [significant_append, none, List.nil_append]

namespace Cursor

variable {cursor stop : Cursor} {spots : List Spot}

/-- Where no trivia stands, the first token is none. -/
theorem Passes.head?_of_settled {trivia : Trivia} (passes : Passes trivia cursor spots stop)
    (settled : triviaLength .between cursor.rest = 0) :
    ((spots.map Spot.token).head?.any fun next => next.kind.isTrivia) = false := by
  cases passes with
  | stay => rfl
  | cut cut _ => exact isTrivia_of_scan settled cut

/-- A token is followed directly just when no trivia is cut off behind it. -/
theorem Passes.glued_eq {gap kept : List Spot} {middle : Cursor}
    (through : Passes .keep cursor gap middle) (allTrivia : ∀ spot ∈ gap, spot.token.kind.isTrivia)
    (passes : Passes .keep middle kept stop) (settled : triviaLength .between middle.rest = 0) :
    (!(((gap ++ kept).map Spot.token).head?.any fun next => next.kind.isTrivia)) =
      (cursor.offset == middle.offset) := by
  cases gap with
  | nil =>
    cases through
    rw [List.nil_append, passes.head?_of_settled settled]
    simp
  | cons spot gap =>
    have further := through.offset_le.2 (List.cons_ne_nil _ _)
    have isTrivia := allTrivia spot (.head _)
    simp only [List.cons_append, List.map_cons, List.head?_cons, Option.any_some, isTrivia,
      Bool.not_true]
    exact (beq_eq_false_iff_ne.2 (Nat.ne_of_lt further)).symm

/-- The tokens that are cut off while trivia is passed over are those that are no trivia when it is
kept, and both ways come to the same place. -/
theorem Passes.exists_keep (passes : Passes .skip cursor spots stop)
    (settled : triviaLength .between cursor.rest = 0) :
    ∃ kept, Passes .keep cursor kept stop ∧
      Token.pieces (kept.map Spot.token) = spots.map Spot.piece ∧
      Token.significant (kept.map Spot.token) = spots.map Spot.token := by
  induction passes with
  | stay cursor => exact ⟨[], .stay cursor, rfl, rfl⟩
  | @cut cursor spot spots stop cut rest ih =>
    obtain ⟨_, next⟩ := spot_of_scan cut
    have next : spot.next = spot.after.skipTrivia := next
    obtain ⟨gap, through, allTrivia⟩ := exists_passes_skipTrivia spot.after
    rw [← next] at through
    have settledNext := next ▸ triviaLength_skipTrivia spot.after
    have significantSpot := isTrivia_of_scan settled cut
    obtain ⟨kept, passesKept, pieces, significant⟩ := ih settledNext
    have gapTrivia : ∀ token ∈ gap.map Spot.token, token.kind.isTrivia := by
      simpa using allTrivia
    refine ⟨{ spot with next := spot.after } :: (gap ++ kept),
      .cut (scan_keep_of_skip cut) (through.append passesKept), ?_, ?_⟩
    · have glued := through.glued_eq allTrivia passesKept settledNext
      rw [List.map_cons, Token.pieces, if_neg (by simp [significantSpot]), glued, List.map_append,
        Token.pieces_append_of_trivia gapTrivia, pieces]
      rfl
    · have behind := (Token.significant_append_of_trivia gapTrivia _).trans significant
      rw [← List.map_append] at behind
      rw [List.map_cons, Token.significant_cons significantSpot, behind, List.map_cons]

/-- Cutting all tokens of a text in both ways comes to the same place. -/
theorem exists_spots_keep (cursor : Cursor) :
    ∃ kept, cursor.spots .keep = (kept, (cursor.skipTrivia.spots .skip).2) ∧
      Token.pieces (kept.map Spot.token) = (cursor.skipTrivia.spots .skip).1.map Spot.piece ∧
      Token.significant (kept.map Spot.token) =
        (cursor.skipTrivia.spots .skip).1.map Spot.token := by
  obtain ⟨gap, through, allTrivia⟩ := exists_passes_skipTrivia cursor
  obtain ⟨kept, passes, pieces, significant⟩ :=
    (passes_spots .skip cursor.skipTrivia).exists_keep (triviaLength_skipTrivia cursor)
  have final := scan_keep_eq_none (scan_spots_eq_none cursor.skipTrivia .skip)
  have gapTrivia : ∀ token ∈ gap.map Spot.token, token.kind.isTrivia := by simpa using allTrivia
  refine ⟨gap ++ kept, (through.append passes).spots_eq final, ?_, ?_⟩
  · rw [List.map_append, Token.pieces_append_of_trivia gapTrivia, pieces]
  · rw [List.map_append, Token.significant_append_of_trivia gapTrivia, significant]

/-- Passing over trivia makes the same of a text as keeping it, but that the tokens which are trivia
are left out: the others are the same in all they say, both ways come to the same place, and where
one way is stuck so is the other, with the same error. -/
theorem tokenize_skip_eq_map_keep (cursor : Cursor) :
    cursor.tokenize .skip = (cursor.tokenize .keep).map fun (tokens, stop) =>
      (tokens.filter fun token => !token.kind.isTrivia, stop) := by
  obtain ⟨kept, all, _, significant⟩ := exists_spots_keep cursor
  simp only [tokenize, settle, all]
  split
  · rw [← significant]
    rfl
  · rfl

end Cursor

/-- A text has tokens just when cutting comes to its end. -/
theorem tokenize_eq_ok_iff {source : String} {tokens : List Token} :
    tokenize source = .ok tokens ↔
      ((Cursor.ofSource source).spots .keep).2.rest = [] ∧
        tokens = ((Cursor.ofSource source).spots .keep).1.map Spot.token := by
  simp only [tokenize, Cursor.tokenize, Cursor.settle]
  cases ((Cursor.ofSource source).spots .keep).2.rest with
  | nil => simp [Except.map, eq_comm]
  | cons => simp [Except.map]

end Likeness
