import Likeness.Proofs.Grammar.Spacing
import Likeness.Proofs.Token.Spelling

/-!
# Failures do not depend on what follows them

A failed parse points at the furthest place that any attempt got to. Attempts see no token behind
that place but the first one, and that one only to turn it down, so that any other text behind it
leads to the same failure.
-/

namespace Likeness

namespace Parser

/-! ## Inputs that differ behind a piece -/

/-- Inputs that are the same up to a piece which is the same token in both, and that piece is not
accepted on the left side: what is left behind any attempt is `margin` past the pieces behind it at
least. A margin of one leaves room for a minus that is no sign. -/
def upTo (piece piece' : Piece) (back back' : List Piece) (margin : Nat) : Correspondence where
  related shared input input' :=
    ∃ front, front.length = shared ∧ input = front ++ piece :: back ∧
      input' = front ++ piece' :: back'
  within reach := ∀ count ∈ reach, 2 * back.length + margin ≤ count
  reached reach reach' :=
    reach' = reach.map fun count => count - 2 * back.length + 2 * back'.length
  shared_le := by
    rintro _ _ _ ⟨front, rfl, rfl, rfl⟩
    simp
  within_further := by
    intro first second within
    cases first with
    | none => exact ⟨nofun, by simpa using within⟩
    | some first =>
      cases second with
      | none => exact ⟨within, nofun⟩
      | some second =>
        have both : 2 * back.length + margin ≤ min first second := within _ rfl
        simp only [Option.mem_some_iff, forall_eq']
        omega
  reached_none := rfl
  reached_further := by
    rintro first _ second _ rfl rfl
    cases first with
    | none => simp
    | some first =>
      cases second with
      | none => simp
      | some second =>
        simp only [further, Option.map_some, Option.some.injEq]
        omega

variable {piece piece' : Piece} {back back' : List Piece} {margin : Nat}

/-- The piece behind which inputs differ is turned down on both sides. -/
theorem simulates_upTo_accept {α : Type} {choose : Piece → Option α} (same : piece.SameToken piece')
    (positive : 0 < margin)
    (blind : ∀ piece piece', piece.SameToken piece' → choose piece = choose piece') (bound : Nat) :
    Simulates (upTo piece piece' back back' margin) 1 bound (accept choose) (accept choose) := by
  rintro shared input input' _ ⟨front, rfl, rfl, rfl⟩ within
  cases front with
  | nil =>
    rw [List.nil_append, accept] at within ⊢
    rw [List.nil_append, accept, ← blind _ _ same]
    cases chosen : choose piece with
    | none => exact .failed rfl
    | some value =>
      simp only [chosen] at within
      have := within _ rfl
      omega
  | cons head front =>
    rw [List.cons_append, List.cons_append, accept, accept]
    cases choose head with
    | none => exact .failed rfl
    | some value =>
      refine .accepted value ?_ (Nat.le_refl _) ⟨front, rfl, rfl, rfl⟩
      simp only [upTo, Option.map_some, List.length_append, List.length_cons, Option.some.injEq]
      omega

/-- The piece behind which inputs differ is no sign on both sides. -/
theorem simulates_upTo_sign (same : piece.SameToken piece') (positive : 0 < margin)
    (glued : margin = 1 → piece.glued = piece'.glued) (bound : Nat) :
    Simulates (upTo piece piece' back back' margin) 0 bound sign sign := by
  rintro shared input input' _ ⟨front, rfl, rfl, rfl⟩ within
  cases front with
  | nil =>
    rw [List.nil_append, sign] at within ⊢
    rw [List.nil_append, sign, ← same.lexeme]
    by_cases minus : piece.lexeme = .minus
    · rw [if_pos minus] at within ⊢
      rw [if_pos minus]
      cases followed : piece.glued with
      | true =>
        simp only [followed] at within
        have := within _ rfl
        omega
      | false =>
        simp only [followed] at within
        have room : 2 * back.length + margin ≤ 2 * back.length + 1 := within _ rfl
        rw [← glued (by omega), followed]
        refine .failed ?_
        simp only [upTo, Option.map_some, Option.some.injEq]
        omega
    · rw [if_neg minus, if_neg minus]
      exact .accepted false rfl (Nat.le_refl _) ⟨[], rfl, rfl, rfl⟩
  | cons head front =>
    rw [List.cons_append, List.cons_append, sign, sign]
    by_cases minus : head.lexeme = .minus
    · rw [if_pos minus, if_pos minus]
      cases head.glued with
      | true =>
        refine .accepted true ?_ (Nat.le_succ _) ⟨front, rfl, rfl, rfl⟩
        simp only [upTo, Option.map_some, List.length_append, List.length_cons, Option.some.injEq]
        omega
      | false =>
        refine .failed ?_
        simp only [upTo, Option.map_some, List.length_append, List.length_cons, Option.some.injEq]
        omega
    · rw [if_neg minus, if_neg minus]
      exact .accepted false rfl (Nat.le_refl _) ⟨head :: front, rfl, rfl, rfl⟩

/-- All productions do the same on inputs that differ only behind a piece that is not accepted. -/
theorem respected_upTo (same : piece.SameToken piece') (positive : 0 < margin)
    (glued : margin = 1 → piece.glued = piece'.glued) :
    (upTo piece piece' back back' margin).Respected 2 where
  accept blind _ := simulates_upTo_accept same positive blind
  number bound := by
    refine (simulates_upTo_sign same positive glued bound).next fun negative => ?_
    refine (simulates_upTo_accept same positive (fun _ _ same => ?_) bound).before fun text => ?_
    · rw [same.lexeme, same.text]
    · exact simulates_ofOption _

/-- How far any attempt got, with the pieces that are left in the end. -/
def furthest (reach : Option Nat) (rest : List Piece) : Nat :=
  reach.elim (2 * rest.length) (min (2 * rest.length))

/-- No less is reached than what is read. -/
theorem furthest_le (reach : Option Nat) (rest : List Piece) :
    furthest reach rest ≤ 2 * rest.length := by
  cases reach with
  | none => exact Nat.le_refl _
  | some reach => exact Nat.min_le_left _ _

variable (back') in
/-- What is made of an input does not depend on what stands behind a piece that is not accepted. -/
theorem many_expression_upTo {front rest : List Piece} {reach : Option Nat}
    {expressions : List Expression} (same : piece.SameToken piece') (positive : 0 < margin)
    (glued : margin = 1 → piece.glued = piece'.glued)
    (outcome : many expression (front ++ piece :: back) = ⟨reach, some (expressions, rest)⟩)
    (room : 2 * back.length + margin ≤ furthest reach rest) :
    ∃ reach' rest', many expression (front ++ piece' :: back') =
        ⟨reach', some (expressions, rest')⟩ ∧ rest' ≠ [] ∧
      furthest reach' rest' = furthest reach rest - 2 * back.length + 2 * back'.length := by
  have within : ∀ count ∈ reach, 2 * back.length + margin ≤ count := by
    rintro count rfl
    simp only [furthest, Option.elim_some] at room
    omega
  have respected : (upTo piece piece' back back' margin).Respected 2 :=
    respected_upTo same positive glued
  have agree := simulates_expressions respected (front.length + 1) _ _ _ (Nat.lt_succ_self _)
    ⟨front, rfl, rfl, rfl⟩ (by rw [outcome]; exact within)
  rw [outcome] at agree
  generalize many expression (front ++ piece' :: back') = outcome' at agree ⊢
  cases agree with
  | @accepted _ _ fewer _ _ _ reached _ related =>
    obtain ⟨left, rfl, rfl, rfl⟩ := related
    refine ⟨_, _, rfl, by simp, ?_⟩
    cases reached
    cases reach with
    | none =>
      simp only [furthest, Option.map_none, Option.elim_none, List.length_append, List.length_cons]
      omega
    | some reach =>
      have := within reach rfl
      simp only [furthest, Option.map_some, Option.elim_some, List.length_append, List.length_cons]
      omega

end Parser

/-! ## Tokens around a place -/

/-- What a parser sees of the tokens in front of another one depends on that one only, and is read
like those tokens alone. -/
theorem Token.exists_pieces_append (before : List Token) (token : Token) :
    ∃ front, SpacedAlike (pieces before) front ∧
      ∀ behind, pieces (before ++ token :: behind) = front ++ pieces (token :: behind) := by
  induction before with
  | nil => exact ⟨[], .nil, fun _ => rfl⟩
  | cons first before ih =>
    obtain ⟨front, alike, shape⟩ := ih
    cases isTrivia : first.kind.isTrivia with
    | true =>
      refine ⟨front, ?_, fun behind => ?_⟩
      · rwa [pieces, if_pos isTrivia]
      · rw [List.cons_append, pieces, if_pos isTrivia, shape]
    | false =>
      have next (behind : List Token) :
          (before ++ token :: behind).head? = (before ++ [token]).head? := by
        cases before <;> rfl
      refine ⟨⟨first.kind, first.lexeme, first.text,
        !((before ++ [token]).head?.any fun next => next.kind.isTrivia)⟩ :: front, ?_,
        fun behind => ?_⟩
      · rw [pieces, if_neg (by simp [isTrivia])]
        -- A minus that a number follows is not the last of the tokens.
        refine .cons ⟨rfl, rfl, rfl⟩ (fun _ followed => ?_) alike
        cases before with
        | nil => cases followed
        | cons => rfl
      · rw [List.cons_append, pieces, if_neg (by simp [isTrivia]), shape, next, List.cons_append]

/-- As many pieces are seen as there are tokens that are no trivia. -/
theorem Token.length_pieces (tokens : List Token) :
    (pieces tokens).length = (significant tokens).length := by
  have shapes := congrArg List.length (map_shape_pieces tokens)
  simpa using shapes

namespace Cursor

variable {trivia : Trivia} {cursor stop place : Cursor} {spots front back : List Spot}
  {before behind : List Token} {token : Token}

/-- The tokens that are passed start one behind the other. -/
theorem Passes.first_lt (passes : Passes trivia cursor spots stop)
    (shape : spots.map Spot.token = before ++ token :: behind) :
    (∀ other ∈ before, other.location.first < token.location.first) ∧
      ∀ other ∈ behind, token.location.first < other.location.first := by
  obtain ⟨front, back, rfl, rfl, tail⟩ := List.map_eq_append_iff.1 shape
  obtain ⟨spot, rest, rfl, rfl, rfl⟩ := List.map_eq_cons_iff.1 tail
  obtain ⟨middle, passesFront, passesBack⟩ := passes.split
  cases passesBack with
  | cut cut passesRest =>
    have first : spot.token.location.first = middle.offset := by rw [(spot_of_scan cut).1]; rfl
    rw [first, List.forall_mem_map, List.forall_mem_map]
    exact ⟨fun other member => (passesFront.location_of_mem member).2, fun other member =>
      Nat.lt_of_lt_of_le (offset_lt_next_of_scan cut) (passesRest.location_of_mem member).1⟩

/-- The token that starts at a place is cut off there. -/
theorem Passes.exists_scan (passesFront : Passes trivia cursor front place)
    (passesBack : Passes trivia place back stop)
    (among : token ∈ (front ++ back).map Spot.token)
    (first : token.location.first = place.offset) :
    ∃ spot, place.scan trivia = some spot ∧ spot.token = token := by
  obtain ⟨spot, member, rfl⟩ := List.mem_map.1 among
  rcases List.mem_append.1 member with member | member
  · have := (passesFront.location_of_mem member).2
    omega
  · cases passesBack with
    | stay => contradiction
    | @cut _ head _ _ cut rest =>
      rcases List.mem_cons.1 member with rfl | member
      · exact ⟨spot, cut, rfl⟩
      · have := (rest.location_of_mem member).1
        have := offset_lt_next_of_scan cut
        omega

end Cursor

/-- A failure is where its cursor is. -/
theorem ParseFailure.offset_ofCursor (cursor : Cursor) :
    (ofCursor cursor).offset = cursor.offset := by
  rw [ofCursor]
  split
  · rfl
  · split <;> rfl

/-- A text that fails at a token is not at its end there. -/
theorem ParseFailure.unexpectedToken_of_ofCursor {cursor : Cursor} {position : Position}
    {offset : Nat} {found : String}
    (shown : ofCursor cursor = .unexpectedToken position offset found) :
    cursor.rest ≠ [] ∧ cursor.offset = offset := by
  refine ⟨fun empty => ?_, ?_⟩
  · rw [ofCursor, empty] at shown
    cases shown
  · rw [← offset_ofCursor, shown]
    rfl

/-- What stands at a place is told by the token that is cut off there. -/
theorem ParseFailure.ofCursor_eq {cursor cursor' : Cursor} {trivia : Trivia} {spot spot' : Spot}
    (cut : cursor.scan trivia = some spot) (cut' : cursor'.scan trivia = some spot')
    (same : spot.token = spot'.token) : ofCursor cursor = ofCursor cursor' := by
  have located := (Cursor.spot_of_scan cut).1.symm.trans
    ((congrArg Token.location same).trans (Cursor.spot_of_scan cut').1)
  simp only [Cursor.locationTo, Location.mk.injEq] at located
  obtain ⟨offset, _, position, _⟩ := located
  obtain ⟨⟨lexeme, opening⟩, recognized, rfl⟩ := Option.map_eq_some_iff.1 cut
  obtain ⟨⟨lexeme', opening'⟩, recognized', rfl⟩ := Option.map_eq_some_iff.1 cut'
  simp only [Cursor.spot, Token.mk.injEq] at same
  obtain ⟨_, rfl, text, _⟩ := same
  cases Lexeme.opening_eq recognized recognized' (String.ofList_injective text)
  have shown {cursor : Cursor}
      (recognized : Lexeme.recognize cursor.rest = some (lexeme, opening)) :
      ofCursor cursor =
        .unexpectedToken cursor.position cursor.offset (String.ofList opening) := by
    rw [ofCursor]
    split
    · rename_i empty
      rw [empty] at recognized
      contradiction
    · rw [recognized]
  rw [shown recognized, shown recognized', position, offset]

/-! ## Places in a text with tokens -/

/-- The place in a text that a reach stands for. -/
def sourcePlace (source : String) (reach : Nat) : Cursor :=
  (sourceStart source).placeOf (sourceSpots source) reach

section Source

variable {source source' : String} {tokens tokens' : List Token}

/-- Every place is come to while a text is cut into its tokens. -/
theorem exists_passes_sourcePlace (cut : tokenize source = .ok tokens) (reach : Nat) :
    ∃ front back, Cursor.Passes .keep (Cursor.ofSource source) front (sourcePlace source reach) ∧
      Cursor.Passes .keep (sourcePlace source reach) back (sourceStop source) ∧
      tokens = (front ++ back).map Spot.token := by
  obtain ⟨gap, through, _⟩ := Cursor.exists_passes_skipTrivia (Cursor.ofSource source)
  obtain ⟨front, back, passesFront, passesBack⟩ := Cursor.exists_passes_placeOf
    (passes_source source) (Cursor.triviaLength_skipTrivia _) reach
  have final := Cursor.scan_keep_eq_none (Cursor.scan_spots_eq_none (sourceStart source) .skip)
  have upTo := through.append passesFront
  have all := (upTo.append passesBack).spots_eq final
  refine ⟨gap ++ front, back, upTo, passesBack, ?_⟩
  rw [(tokenize_eq_ok_iff.1 cut).2, all]

/-- A token of a text is cut off at the place where it starts. -/
theorem exists_scan_sourcePlace (cut : tokenize source = .ok tokens) {token : Token} {reach : Nat}
    (member : token ∈ tokens) (first : token.location.first = (sourcePlace source reach).offset) :
    ∃ spot, (sourcePlace source reach).scan .keep = some spot ∧ spot.token = token := by
  obtain ⟨front, back, passesFront, passesBack, rfl⟩ := exists_passes_sourcePlace cut reach
  exact passesFront.exists_scan passesBack member first

/-- At each place but the last a token starts. -/
theorem exists_mem_first_eq (cut : tokenize source = .ok tokens) {reach : Nat}
    (more : (sourcePlace source reach).rest ≠ []) :
    ∃ token ∈ tokens, token.location.first = (sourcePlace source reach).offset := by
  obtain ⟨front, back, passesFront, passesBack, rfl⟩ := exists_passes_sourcePlace cut reach
  have ended := (tokenize_eq_ok cut).1
  generalize sourcePlace source reach = place at passesBack more ⊢
  generalize sourceStop source = stop at passesBack ended
  cases passesBack with
  | stay => exact absurd ended more
  | @cut _ spot _ _ scanned _ =>
    refine ⟨spot.token, by simp, ?_⟩
    rw [(Cursor.spot_of_scan scanned).1]
    rfl

/-- The tokens that are no trivia tell where a place is: where one starts or where one ends. -/
theorem offset_sourcePlace (cut : tokenize source = .ok tokens) {before behind : List Token}
    {token : Token} (shape : Token.significant tokens = before ++ token :: behind) :
    (sourcePlace source (2 * behind.length + 2)).offset = token.location.first ∧
      (sourcePlace source (2 * behind.length + 1)).offset = token.location.stop := by
  rw [(tokenize_eq_ok cut).2.2] at shape
  obtain ⟨front, back, split, rfl, tail⟩ := List.map_eq_append_iff.1 shape
  obtain ⟨spot, rest, rfl, rfl, rfl⟩ := List.map_eq_cons_iff.1 tail
  have passes := passes_source source
  rw [split] at passes
  rw [sourcePlace, sourcePlace, split, List.length_map]
  exact ⟨Cursor.offset_placeOf_even passes, Cursor.offset_placeOf_odd passes⟩

/-- A text whose expressions leave something fails at the furthest place. -/
theorem parse_eq_error {reach : Option Nat} {expressions : List Expression} {rest : List Piece}
    (outcome : Parser.many Parser.expression ((sourceSpots source).map Spot.piece) =
      ⟨reach, some (expressions, rest)⟩) :
    parse source = if (sourcePlace source (2 * rest.length)).atEnd then .ok ⟨expressions⟩
      else .error (.ofCursor (sourcePlace source (Parser.furthest reach rest))) := by
  rw [parse_of_outcome outcome]
  cases reach with
  | none =>
    have here (cursor : Cursor) : cursor.further cursor = cursor := if_neg (Nat.lt_irrefl _)
    simp only [Option.map_none, Option.getD_none, here]
    rfl
  | some reach =>
    simp only [Option.map_some, Option.getD_some,
      Cursor.further_placeOf (passes_source source)]
    rfl

/-- Two texts whose tokens are the same up to one at the furthest place fail alike, if their pieces
are the same up to one that is not accepted. -/
theorem parse_eq_of_upTo {token : Token} {front back back' rest : List Piece}
    {piece piece' : Piece} {reach : Option Nat} {expressions : List Expression} (margin : Nat)
    (cut : tokenize source = .ok tokens) (cut' : tokenize source' = .ok tokens')
    (pieces : Token.pieces tokens = front ++ piece :: back)
    (pieces' : Token.pieces tokens' = front ++ piece' :: back')
    (outcome : Parser.many Parser.expression (Token.pieces tokens) =
      ⟨reach, some (expressions, rest)⟩)
    (same : piece.SameToken piece') (positive : 0 < margin)
    (glued : margin = 1 → piece.glued = piece'.glued)
    (room : 2 * back.length + margin ≤ Parser.furthest reach rest)
    (member : token ∈ tokens) (member' : token ∈ tokens')
    (first : token.location.first = (sourcePlace source (Parser.furthest reach rest)).offset)
    (first' : token.location.first = (sourcePlace source'
      (Parser.furthest reach rest - 2 * back.length + 2 * back'.length)).offset) :
    parse source' = .error (.ofCursor (sourcePlace source (Parser.furthest reach rest))) := by
  rw [pieces] at outcome
  obtain ⟨reach', rest', outcome', more, moved⟩ :=
    Parser.many_expression_upTo back' same positive glued outcome room
  rw [← pieces', (tokenize_eq_ok cut').2.1] at outcome'
  have fewer := Parser.length_rest_le outcome'
  rw [List.length_map] at fewer
  have unfinished : ¬(sourcePlace source' (2 * rest'.length)).atEnd := fun ended =>
    more (List.length_eq_zero_iff.1
      (Cursor.placeOf_atEnd (passes_source source') fewer (List.isEmpty_iff.1 ended)))
  obtain ⟨spot, scanned, isToken⟩ := exists_scan_sourcePlace cut member first
  obtain ⟨spot', scanned', isToken'⟩ := exists_scan_sourcePlace cut' member' first'
  rw [parse_eq_error outcome', if_neg unfinished, moved,
    ParseFailure.ofCursor_eq scanned scanned' (isToken.trans isToken'.symm)]

/-- The tokens in front of a place that are no trivia are those that are not left there. -/
theorem length_significant_before {before behind : List Token} {token : Token} {reach : Nat}
    (cut : tokenize source = .ok (before ++ token :: behind))
    (first : token.location.first = (sourcePlace source reach).offset) :
    (Token.significant before).length = (sourceSpots source).length - reach / 2 := by
  have counted := Cursor.countP_placeOf (passes_source source) reach
  obtain ⟨front, back, passesFront, passesBack, shape⟩ := exists_passes_sourcePlace cut 0
  obtain ⟨less, more⟩ := (passesFront.append passesBack).first_lt shape.symm
  rw [← (tokenize_eq_ok cut).2.2] at counted
  rw [← counted, Token.significant, Token.significant, List.filter_append, List.countP_append,
    List.countP_eq_length.2, List.countP_eq_zero.2, Nat.add_zero]
  · intro other member
    rw [← sourcePlace, ← first]
    rcases List.mem_cons.1 (List.mem_filter.1 member).1 with rfl | member
    · simp
    · simpa using Nat.le_of_lt (more other member)
  · intro other member
    rw [← sourcePlace, ← first]
    simpa using less other (List.mem_filter.1 member).1

/-- A token that starts at a place in front of other tokens is the first of them, so that it is no
trivia. -/
theorem isTrivia_eq_false {before behind : List Token} {token : Token} {count : Nat}
    (cut : tokenize source = .ok (before ++ token :: behind))
    (left : (Token.significant (token :: behind)).length = count + 1)
    (first : token.location.first = (sourcePlace source (2 * count + 2)).offset) :
    token.kind.isTrivia = false := by
  refine Bool.eq_false_iff.2 fun isTrivia => ?_
  obtain ⟨front, back, passesFront, passesBack, shape⟩ := exists_passes_sourcePlace cut 0
  obtain ⟨_, more⟩ := (passesFront.append passesBack).first_lt shape.symm
  have hidden : Token.significant (token :: behind) = Token.significant behind := by
    simp [Token.significant, isTrivia]
  rw [hidden] at left
  obtain ⟨next, others, split⟩ := List.exists_cons_of_length_eq_add_one left
  have whole : Token.significant (before ++ token :: behind) =
      Token.significant before ++ next :: others := by
    rw [← split, ← hidden]
    exact List.filter_append ..
  have same := (offset_sourcePlace cut whole).1
  have length : others.length = count := by simpa [split] using left
  have member : next ∈ behind := (List.mem_filter.1 (split ▸ List.mem_cons_self)).1
  have behind := more next member
  rw [length] at same
  omega

/-- Texts fail alike at a token that is accepted nowhere, if their tokens agree up to it. -/
theorem parse_failure_at {before behind behind' : List Token} {token : Token}
    {reach : Option Nat} {expressions : List Expression} {rest : List Piece} {count : Nat}
    (cut : tokenize source = .ok (before ++ token :: behind))
    (cut' : tokenize source' = .ok (before ++ token :: behind'))
    (outcome : Parser.many Parser.expression (Token.pieces (before ++ token :: behind)) =
      ⟨reach, some (expressions, rest)⟩)
    (reached : Parser.furthest reach rest = 2 * count + 2)
    (left : (Token.significant (token :: behind)).length = count + 1)
    (first : token.location.first = (sourcePlace source (Parser.furthest reach rest)).offset) :
    parse source' = .error (.ofCursor (sourcePlace source (Parser.furthest reach rest))) := by
  have visible := isTrivia_eq_false cut left (reached ▸ first)
  obtain ⟨front, _, shape⟩ := Token.exists_pieces_append before token
  have seen (behind : List Token) : Token.pieces (before ++ token :: behind) =
      front ++ ⟨token.kind, token.lexeme, token.text,
        !(behind.head?.any fun next => next.kind.isTrivia)⟩ :: Token.pieces behind := by
    rw [shape, Token.pieces, if_neg (by simp [visible])]
  have place : (sourcePlace source' (2 * (Token.pieces behind').length + 2)).offset =
      token.location.first := by
    have whole := Token.significant_append before (token :: behind')
    rw [Token.significant_cons visible] at whole
    rw [Token.length_pieces]
    exact (offset_sourcePlace cut' whole).1
  have length : (Token.pieces behind).length = count := by
    rw [Token.significant_cons visible, List.length_cons] at left
    rw [Token.length_pieces]
    omega
  refine parse_eq_of_upTo 2 cut cut' (seen behind) (seen behind') outcome ⟨rfl, rfl, rfl⟩
    (by omega) (by omega) (by omega) (by simp) (by simp) first ?_
  rw [← place]
  congr 2
  omega

/-- Texts fail alike behind a minus that is no sign, if their tokens agree up to the one there. -/
theorem parse_failure_behind {before behind behind' : List Token} {token : Token}
    {reach : Option Nat} {expressions : List Expression} {rest : List Piece} {count : Nat}
    (cut : tokenize source = .ok (before ++ token :: behind))
    (cut' : tokenize source' = .ok (before ++ token :: behind'))
    (outcome : Parser.many Parser.expression (Token.pieces (before ++ token :: behind)) =
      ⟨reach, some (expressions, rest)⟩)
    (reached : Parser.furthest reach rest = 2 * count + 1)
    (left : (Token.significant (token :: behind)).length = count)
    (taken : Token.significant before ≠ [])
    (first : token.location.first = (sourcePlace source (Parser.furthest reach rest)).offset) :
    parse source' = .error (.ofCursor (sourcePlace source (Parser.furthest reach rest))) := by
  obtain ⟨front, alike, shape⟩ := Token.exists_pieces_append before token
  have some : front ≠ [] := fun none => by
    have length := alike.length_eq
    rw [none, Token.length_pieces] at length
    exact taken (List.length_eq_zero_iff.1 length)
  have seen (behind : List Token) : Token.pieces (before ++ token :: behind) =
      front.dropLast ++ front.getLast some :: Token.pieces (token :: behind) := by
    rw [shape, List.append_cons, List.dropLast_concat_getLast]
  have place {source : String} {behind : List Token}
      (cut : tokenize source = .ok (before ++ token :: behind)) :
      (sourcePlace source (2 * (Token.pieces (token :: behind)).length + 1)).offset =
        ((Token.significant before).getLast taken).location.stop := by
    have whole := Token.significant_append before (token :: behind)
    rw [← List.dropLast_concat_getLast taken, ← List.append_cons] at whole
    rw [Token.length_pieces]
    exact (offset_sourcePlace cut whole).2
  have length : (Token.pieces (token :: behind)).length = count := by
    rw [Token.length_pieces, left]
  refine parse_eq_of_upTo 1 cut cut' (seen behind) (seen behind') outcome ⟨rfl, rfl, rfl⟩
    (by omega) (fun _ => rfl) (by omega) (by simp) (by simp) first ?_
  rw [first, reached, ← length, place cut, ← place cut']
  congr 2
  omega

/-- A failure at a token is the same for every text whose tokens agree up to that one. -/
theorem parse_failure_upTo {before behind behind' : List Token} {token : Token}
    {failure : ParseFailure} (cut : tokenize source = .ok (before ++ token :: behind))
    (cut' : tokenize source' = .ok (before ++ token :: behind'))
    (failed : parse source = .error failure) (first : token.location.first = failure.offset) :
    parse source' = .error failure := by
  obtain ⟨reach, expressions, rest, outcome⟩ := Parser.exists_many Parser.expression
    ((sourceSpots source).map Spot.piece)
  have fewer := Parser.length_rest_le outcome
  rw [List.length_map] at fewer
  have bound := Nat.le_trans (Parser.furthest_le reach rest) (Nat.mul_le_mul_left 2 fewer)
  rw [parse_eq_error outcome] at failed
  split at failed
  · cases failed
  cases failed
  rw [ParseFailure.offset_ofCursor] at first
  rw [← (tokenize_eq_ok cut).2.1] at outcome
  have taken := length_significant_before cut first
  have all : (Token.significant before).length + (Token.significant (token :: behind)).length =
      (sourceSpots source).length := by
    rw [← List.length_append, ← Token.significant_append, (tokenize_eq_ok cut).2.2, List.length_map]
  -- An even reach is where a token starts, an odd one where a minus ends that is no sign.
  rcases Nat.mod_two_eq_zero_or_one (Parser.furthest reach rest) with even | odd
  · have positive : Parser.furthest reach rest ≠ 0 := fun none => by
      obtain ⟨spot, scanned, _⟩ := exists_scan_sourcePlace cut (by simp) first
      have more := Cursor.rest_ne_nil_of_scan scanned
      rw [none, sourcePlace, Cursor.placeOf_zero (passes_source source)] at more
      exact more (tokenize_eq_ok cut).1
    obtain ⟨count, reached⟩ : ∃ count, Parser.furthest reach rest = 2 * count + 2 :=
      ⟨Parser.furthest reach rest / 2 - 1, by omega⟩
    exact parse_failure_at cut cut' outcome reached (by omega) first
  · obtain ⟨count, reached⟩ : ∃ count, Parser.furthest reach rest = 2 * count + 1 :=
      ⟨Parser.furthest reach rest / 2, by omega⟩
    refine parse_failure_behind cut cut' outcome reached (by omega) ?_ first
    refine List.ne_nil_of_length_pos ?_
    omega

end Source

/-- Where a text that has tokens fails at a token, one starts there, and every text whose tokens
agree up to that one, trivia included, fails in the same way, whatever follows. -/
theorem failure_independent_of_rest {source : String} {tokens : List Token} {position : Position}
    {offset : Nat} {found : String} (cut : tokenize source = .ok tokens)
    (failed : parse source = .error (.unexpectedToken position offset found)) :
    (∃ token ∈ tokens, token.location.first = offset) ∧
      ∀ (before : List Token) (token : Token) (behind : List Token),
        tokens = before ++ token :: behind → token.location.first = offset →
        ∀ source' behind', tokenize source' = .ok (before ++ token :: behind') →
          parse source' = .error (.unexpectedToken position offset found) := by
  constructor
  · obtain ⟨reach, expressions, rest, outcome⟩ := Parser.exists_many Parser.expression
      ((sourceSpots source).map Spot.piece)
    rw [parse_eq_error outcome] at failed
    split at failed
    · cases failed
    · obtain ⟨more, rfl⟩ := ParseFailure.unexpectedToken_of_ofCursor (Except.error.inj failed)
      exact exists_mem_first_eq cut more
  · rintro before token behind rfl first source' behind' cut'
    exact parse_failure_upTo cut cut' failed first

/-- A minus with a blank behind it fails at the blank, whatever follows. -/
theorem failure_behind_minus :
    parse "(- 1)" = .error (.unexpectedToken ⟨0, 2⟩ 2 " ") ∧
      parse "(- x;" = .error (.unexpectedToken ⟨0, 2⟩ 2 " ") := by
  have failed : parse "(- 1)" = .error (.unexpectedToken ⟨0, 2⟩ 2 " ") := rfl
  let token (lexeme : Lexeme) (text : String) (column : Nat) : Token :=
    ⟨lexeme.kind, lexeme, text, ⟨column, column + 1, ⟨0, column⟩, ⟨0, column + 1⟩⟩⟩
  let before := [token .openParen "(" 0, token .minus "-" 1]
  let blank := token .whitespace " " 2
  let behind := [token .number "1" 3, token .closeParen ")" 4]
  let behind' := [token .word "x" 3, token .semicolon ";" 4]
  have cut : tokenize "(- 1)" = .ok (before ++ blank :: behind) := rfl
  have cut' : tokenize "(- x;" = .ok (before ++ blank :: behind') := rfl
  refine ⟨failed, ?_⟩
  exact (failure_independent_of_rest cut failed).2 before blank behind rfl rfl _ behind' cut'

end Likeness
