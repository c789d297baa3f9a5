import Likeness.Proofs.Token.Seam
import Mathlib.Data.List.Induction

/-!
# Cutting loses nothing

The tokens of a text are its parts one behind the other: put together again they are the text, and
each one says where it stands, in bytes and by line and column. Where a text cannot be cut to its
end, all of it up to the character that is in the way can. Cutting comes to the end of a text whether
trivia is kept or passed over.
-/

namespace Likeness

/-! ## Places -/

/-- The part of a text that follows its last line feed. -/
def lastLine (text : String) : String :=
  String.ofList (text.toList.reverse.takeWhile (· ≠ '\n')).reverse

/-- The line and the byte column that a text comes to: how many line feeds it has, and the bytes that
follow the last one. -/
def Position.behind (text : String) : Position :=
  ⟨text.toList.count '\n', (lastLine text).utf8ByteSize⟩

/-- Where a text stands behind another one. -/
def Location.behind (before text : String) : Location :=
  ⟨before.utf8ByteSize, (before ++ text).utf8ByteSize, .behind before, .behind (before ++ text)⟩

/-- The text that tokens are cut off. -/
def Token.source (tokens : List Token) : String := String.join (tokens.map Token.text)

theorem Token.source_cons (token : Token) (tokens : List Token) :
    source (token :: tokens) = token.text ++ source tokens := by
  simp [source]

theorem Token.source_append_singleton (tokens : List Token) (token : Token) :
    source (tokens ++ [token]) = source tokens ++ token.text := by
  simp [source]

/-- The bytes of a text are those of its characters. -/
theorem utf8ByteSize_ofList (text : List Char) : (String.ofList text).utf8ByteSize = byteLength text := by
  induction text with
  | nil => rfl
  | cons char text ih =>
    rw [String.ofList_cons, String.utf8ByteSize_append, String.utf8ByteSize_singleton, ih, byteLength]

/-- One more character moves the position past it. -/
theorem Position.behind_append_singleton (text : List Char) (char : Char) :
    Position.behind (String.ofList (text ++ [char])) =
      (Position.behind (String.ofList text)).after char := by
  by_cases feed : char = '\n'
  · subst feed
    simp [Position.behind, Position.after, lastLine]
  · simp [Position.behind, Position.after, lastLine, feed]

/-- Moving past all characters of a text comes to the position behind it. -/
theorem Position.foldl_after (text : List Char) :
    text.foldl Position.after .start = .behind (String.ofList text) := by
  induction text using List.reverseRecOn with
  | nil => rfl
  | append_singleton text char ih =>
    rw [List.foldl_append, ih, Position.behind_append_singleton]
    rfl

namespace Cursor

/-- The position moves past the characters that are passed. -/
theorem position_skip (cursor : Cursor) (count : Nat) :
    (cursor.skip count).position = (cursor.rest.take count).foldl Position.after cursor.position := by
  fun_induction skip cursor count with
  | case1 => simp
  | case2 _ _ empty => simp [empty]
  | case3 cursor count char rest shape ih => simp [shape, ih]

/-- The place behind the first part of a text. -/
theorem skip_ofSource (before behind : String) :
    (ofSource (before ++ behind)).skip before.toList.length =
      ⟨behind.toList, before.utf8ByteSize, .behind before⟩ := by
  have passed : (ofSource (before ++ behind)).rest.take before.toList.length = before.toList := by
    simp [ofSource]
  have remaining : ((ofSource (before ++ behind)).skip before.toList.length).rest = behind.toList := by
    simp [ofSource]
  have offset := offset_skip (ofSource (before ++ behind)) before.toList.length
  rw [passed, ← utf8ByteSize_ofList, String.ofList_toList] at offset
  have position := position_skip (ofSource (before ++ behind)) before.toList.length
  rw [passed, ofSource, Position.foldl_after, String.ofList_toList] at position
  rw [← remaining, ← position]
  simp only [ofSource, Nat.zero_add] at offset ⊢
  rw [← offset]

variable {cursor stop : Cursor} {trivia : Trivia} {spots : List Spot}

/-- Passing over trivia moves on. -/
theorem exists_settle_eq (cursor : Cursor) (trivia : Trivia) :
    ∃ count, cursor.settle trivia = cursor.skip count := by
  cases trivia with
  | keep => exact ⟨0, (skip_zero cursor).symm⟩
  | skip => exact ⟨_, rfl⟩

/-- Cutting tokens off moves on. -/
theorem Passes.exists_skip (passes : Passes trivia cursor spots stop) :
    ∃ count, stop = cursor.skip count := by
  induction passes with
  | stay cursor => exact ⟨0, (skip_zero cursor).symm⟩
  | @cut cursor spot spots stop cut _ ih =>
    obtain ⟨count, rfl⟩ := ih
    obtain ⟨settled, equal⟩ := exists_settle_eq spot.after trivia
    rw [(spot_of_scan cut).2, equal, (text_of_scan cut).2.2, ← skip_add, ← skip_add]
    exact ⟨_, rfl⟩

/-- Moving on until nothing is left comes to the end. -/
theorem skip_eq_end {count : Nat} (ended : (cursor.skip count).rest = []) :
    cursor.skip count = cursor.skip cursor.rest.length := by
  rw [rest_skip, List.drop_eq_nil_iff] at ended
  obtain ⟨more, rfl⟩ := Nat.exists_eq_add_of_le ended
  rw [skip_add, skip_of_rest_eq_nil more (by simp)]

/-- The tokens that are cut off, trivia included, are the text up to where cutting comes to. -/
theorem Passes.source_eq (passes : Passes .keep cursor spots stop) :
    cursor.rest = (Token.source (spots.map Spot.token)).toList ++ stop.rest ∧
      stop = cursor.skip (Token.source (spots.map Spot.token)).toList.length := by
  induction passes with
  | stay cursor => exact ⟨rfl, (skip_zero cursor).symm⟩
  | @cut cursor spot spots stop cut _ ih =>
    obtain ⟨remaining, place⟩ := ih
    obtain ⟨_, ⟨rest, shape⟩, after⟩ := text_of_scan cut
    have next : spot.next = cursor.skip spot.token.text.toList.length :=
      (spot_of_scan cut).2.trans after
    rw [next] at remaining place
    rw [rest_skip, ← shape, List.drop_left] at remaining
    rw [List.map_cons, Token.source_cons, String.toList_append, List.length_append, skip_add,
      ← place, List.append_assoc, ← remaining, shape]
    exact ⟨rfl, rfl⟩

/-- Cutting a text from its start comes to the place behind the tokens that are cut off. -/
theorem Passes.place_eq {source : String} (passes : Passes .keep (ofSource source) spots stop) :
    source = Token.source (spots.map Spot.token) ++ String.ofList stop.rest ∧
      stop.offset = (Token.source (spots.map Spot.token)).utf8ByteSize ∧
      stop.position = .behind (Token.source (spots.map Spot.token)) := by
  obtain ⟨remaining, place⟩ := passes.source_eq
  have whole : source = Token.source (spots.map Spot.token) ++ String.ofList stop.rest := by
    rw [← String.toList_inj, String.toList_append, String.toList_ofList, ← remaining]
    rfl
  rw [whole, skip_ofSource] at place
  rw [place] at whole ⊢
  exact ⟨whole, rfl, rfl⟩

end Cursor

/-! ## Tokens and errors -/

/-- A token of a text stands behind the tokens before it. -/
theorem location_of_tokenize {source : String} {before behind : List Token} {token : Token}
    (cut : tokenize source = .ok (before ++ token :: behind)) :
    token.text ≠ "" ∧ token.location = .behind (Token.source before) token.text := by
  obtain ⟨_, tokens⟩ := tokenize_eq_ok_iff.1 cut
  obtain ⟨spots, others, all, rfl, shape⟩ := List.map_eq_append_iff.1 tokens.symm
  obtain ⟨spot, rest, rfl, rfl, rfl⟩ := List.map_eq_cons_iff.1 shape
  have passes := Cursor.passes_spots .keep (Cursor.ofSource source)
  rw [all] at passes
  obtain ⟨middle, front, _ | ⟨first, _⟩⟩ := passes.split
  have through := front.append (.cut first (.stay _))
  obtain ⟨location, next⟩ := Cursor.spot_of_scan first
  obtain ⟨_, offset, position⟩ := front.place_eq
  obtain ⟨_, offset', position'⟩ := through.place_eq
  rw [List.map_append, List.map_singleton, Token.source_append_singleton, next] at offset' position'
  refine ⟨fun empty => (Cursor.text_of_scan first).1 (by rw [empty]; rfl), ?_⟩
  rw [location, Cursor.locationTo, Location.behind, offset, position, ← offset', ← position']
  rfl

/-- The tokens of a text put together are the text. -/
theorem source_of_tokenize {source : String} {tokens : List Token}
    (cut : tokenize source = .ok tokens) : Token.source tokens = source := by
  obtain ⟨ended, rfl⟩ := tokenize_eq_ok_iff.1 cut
  obtain ⟨whole, _⟩ := (Cursor.passes_spots .keep (Cursor.ofSource source)).place_eq
  rw [ended, String.ofList_nil, String.append_empty] at whole
  exact whole.symm

/-- Where a text cannot be cut, the tokens up to there are those of the text before. -/
theorem before_of_tokenize {source : String} {error : TokenizeError}
    (stuck : tokenize source = .error error) :
    ∃ before behind, source = before ++ String.singleton error.found ++ behind ∧
      error.offset = before.utf8ByteSize ∧ error.position = .behind before ∧
      Lexeme.recognize (error.found :: behind.toList) = none ∧
      ∃ tokens, tokenize before = .ok tokens := by
  have passes := Cursor.passes_spots .keep (Cursor.ofSource source)
  have final := Cursor.scan_spots_eq_none (Cursor.ofSource source) .keep
  obtain ⟨whole, offset, position⟩ := passes.place_eq
  simp only [tokenize, Cursor.tokenize, Cursor.settle] at stuck
  generalize (Cursor.ofSource source).spots .keep = cut at *
  obtain ⟨spots, stop⟩ := cut
  cases shape : stop.rest with
  | nil =>
    simp only [shape, Except.map] at stuck
    cases stuck
  | cons found behind =>
    simp only [shape, Except.map, Except.error.injEq] at stuck
    subst stuck
    rw [Cursor.scan, Option.map_eq_none_iff, shape] at final
    have breaks := Lexeme.isBreak_of_recognize_eq_none final
    generalize Token.source (spots.map Spot.token) = before at *
    have start : Cursor.ofSource source = (Cursor.ofSource before).extend (found :: behind) := by
      rw [whole, shape]
      simp [Cursor.ofSource, Cursor.extend]
    obtain ⟨spots', stop', passes', ended, _⟩ := passes.shorten breaks shape _ start
    have all := passes'.spots_eq (Cursor.scan_eq_none_of_rest_eq_nil .keep ended)
    refine ⟨before, String.ofList behind, ?_, offset, position, ?_, spots'.map Spot.token, ?_⟩
    · rw [whole, shape, String.ofList_cons, String.append_assoc]
    · rwa [String.toList_ofList]
    · exact tokenize_eq_ok_iff.2 (by rw [all]; exact ⟨ended, rfl⟩)

/-- Cutting what is left of a text comes to its end, whether trivia is kept or not. -/
theorem Cursor.tokenize_stop {cursor stop : Cursor} {trivia : Trivia} {tokens : List Token}
    (cut : cursor.tokenize trivia = .ok (tokens, stop)) :
    stop = cursor.skip cursor.rest.length ∧ stop.rest = [] := by
  obtain ⟨settled, equal⟩ := exists_settle_eq cursor trivia
  obtain ⟨count, place⟩ := (passes_spots trivia (cursor.settle trivia)).exists_skip
  rw [equal, ← skip_add] at place
  rw [tokenize] at cut
  rw [equal] at cut
  simp only at cut
  split at cut
  · rename_i ended
    cases cut
    rw [place] at ended ⊢
    exact ⟨skip_eq_end ended, ended⟩
  · cases cut

/-- Cutting a text loses nothing. The tokens of a text are not empty and make it up one behind the
other, and each has its place, in bytes and as lines and columns, where the one before ends. A text
that has no tokens can be cut up to a character that no lexeme starts with: there the error is, and
the text before it has tokens. In either way to treat trivia, cutting comes to the end of a text. -/
theorem tokenize_lossless :
    (∀ source tokens, tokenize source = .ok tokens →
      Token.source tokens = source ∧ (∀ token ∈ tokens, token.text ≠ "") ∧
      (∀ before token behind, tokens = before ++ token :: behind →
        token.location = .behind (Token.source before) token.text) ∧
      ∀ before first second behind, tokens = before ++ first :: second :: behind →
        second.location.first = first.location.stop ∧
          second.location.start = first.location.finish) ∧
    (∀ source error, tokenize source = .error error →
      error.offset < source.utf8ByteSize ∧
      ∃ before behind, source = before ++ String.singleton error.found ++ behind ∧
        error.offset = before.utf8ByteSize ∧ error.position = .behind before ∧
        Lexeme.recognize (error.found :: behind.toList) = none ∧
        ∃ tokens, tokenize before = .ok tokens) ∧
    ∀ (cursor stop : Cursor) trivia tokens, cursor.tokenize trivia = .ok (tokens, stop) →
      stop = cursor.skip cursor.rest.length ∧ stop.rest = [] := by
  refine ⟨fun source tokens cut => ⟨source_of_tokenize cut, ?_, ?_, ?_⟩, ?_,
    fun cursor stop trivia tokens => Cursor.tokenize_stop⟩
  · intro token member
    obtain ⟨before, behind, rfl⟩ := List.append_of_mem member
    exact (location_of_tokenize cut).1
  · rintro before token behind rfl
    exact (location_of_tokenize cut).2
  · rintro before first second behind rfl
    have one := (location_of_tokenize cut).2
    rw [List.append_cons] at cut
    have other := (location_of_tokenize cut).2
    rw [one, other, Token.source_append_singleton]
    exact ⟨rfl, rfl⟩
  · intro source error stuck
    obtain ⟨before, behind, whole, offset, others⟩ := before_of_tokenize stuck
    refine ⟨?_, before, behind, whole, offset, others⟩
    have size := error.found.utf8Size_pos
    rw [whole, offset, String.utf8ByteSize_append, String.utf8ByteSize_append,
      String.utf8ByteSize_singleton]
    omega

/-- A comment that nothing closes and a letter of two bytes are kept in the tokens. With a mark that
is none behind a comment, the error is on the line behind it, and the comment can still be cut. -/
theorem lossless_comments :
    (∃ tokens, tokenize "x /*é\n" = .ok tokens ∧ Token.source tokens = "x /*é\n" ∧
      tokens.map Token.location = [⟨0, 1, ⟨0, 0⟩, ⟨0, 1⟩⟩, ⟨1, 2, ⟨0, 1⟩, ⟨0, 2⟩⟩,
        ⟨2, 7, ⟨0, 2⟩, ⟨1, 0⟩⟩]) ∧
    (∃ before behind, "/*é*/\n#" = before ++ "#" ++ behind ∧ before.utf8ByteSize = 7 ∧
      Position.behind before = ⟨1, 0⟩ ∧ ∃ tokens, tokenize before = .ok tokens) ∧
    ∃ tokens stop, (Cursor.ofSource "x /*é\n").tokenize .skip = .ok (tokens, stop) ∧
      stop.rest = [] := by
  obtain ⟨cuts, errors, ends⟩ := tokenize_lossless
  have cut := tokenize_eq_ok_iff.2 ⟨(by decide +kernel :
    ((Cursor.ofSource "x /*é\n").spots .keep).2.rest = []), rfl⟩
  have stuck : tokenize "/*é*/\n#" = .error ⟨⟨1, 0⟩, 7, '#'⟩ := by decide +kernel
  obtain ⟨_, before, behind, whole, offset, position, _, found⟩ := errors _ _ stuck
  refine ⟨⟨_, cut, (cuts _ _ cut).1, by decide +kernel⟩, ?_, ?_⟩
  · exact ⟨before, behind, whole, offset.symm, position.symm, found⟩
  · have skipped : ((Cursor.ofSource "x /*é\n").tokenize .skip).toOption.isSome := by decide +kernel
    cases found : (Cursor.ofSource "x /*é\n").tokenize .skip with
    | error error =>
      rw [found] at skipped
      cases skipped
    | ok pair => exact ⟨pair.1, pair.2, rfl, (ends _ _ _ _ found).2⟩

end Likeness
