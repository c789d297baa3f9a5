import Likeness.Proofs.Builder.Refinement
import Likeness.Proofs.Grammar.Simulation

/-!
# Trees do not depend on trivia

A parser sees the tokens of a text that are no trivia, and asks in one place only whether trivia
stands behind one of them: a minus is the sign of a number if the number follows it directly. Two
texts whose tokens agree up to trivia, and up to whether trivia stands between such a minus and its
number, have the same tree or both have none.
-/

namespace Likeness

/-! ## Pieces that are read alike -/

/-- Pieces of the same tokens, where a minus in front of a number is glued to it on both sides or on
none. -/
inductive SpacedAlike : List Piece → List Piece → Prop where
  | nil : SpacedAlike [] []
  | cons {piece piece' rest rest'} (same : piece.SameToken piece')
      (sign : piece.lexeme = .minus → (rest.head?.any fun next => next.lexeme = .number) →
        piece.glued = piece'.glued)
      (others : SpacedAlike rest rest') : SpacedAlike (piece :: rest) (piece' :: rest')

/-- Pieces are read alike to themselves. -/
theorem SpacedAlike.refl (pieces : List Piece) : SpacedAlike pieces pieces := by
  induction pieces with
  | nil => exact .nil
  | cons piece rest ih => exact .cons ⟨rfl, rfl, rfl⟩ (fun _ _ => rfl) ih

/-- Pieces that are read alike are as many. -/
theorem SpacedAlike.length_eq {pieces pieces' : List Piece} (alike : SpacedAlike pieces pieces') :
    pieces.length = pieces'.length := by
  induction alike with
  | nil => rfl
  | cons _ _ _ ih => rw [List.length_cons, List.length_cons, ih]

/-- Pieces that are read alike both start with a number or none does. -/
theorem SpacedAlike.followed_eq {pieces pieces' : List Piece}
    (alike : SpacedAlike pieces pieces') :
    (pieces.head?.any fun next => next.lexeme = .number) =
      pieces'.head?.any fun next => next.lexeme = .number := by
  cases alike with
  | nil => rfl
  | cons same _ _ => simp [same.lexeme]

namespace Parser

/-- Inputs that are read alike, however far they are read. -/
def spacing : Correspondence where
  related shared input input' := shared = input.length ∧ SpacedAlike input input'
  within _ := True
  reached _ _ := True
  shared_le := by
    rintro shared input input' ⟨rfl, alike⟩
    exact ⟨Nat.le_refl _, Nat.le_of_eq alike.length_eq⟩
  within_further := fun _ => ⟨trivial, trivial⟩
  reached_none := trivial
  reached_further := fun _ _ => trivial

/-- Outcomes without a value agree, however far they reach. -/
theorem agree_of_failed {α : Type} {shared taken : Nat} {first second : Outcome α}
    (failed : first.result = none) (failed' : second.result = none) :
    Agree spacing shared taken first second := by
  obtain ⟨reach, result⟩ := first
  obtain ⟨reach', result'⟩ := second
  cases failed
  cases failed'
  exact .failed trivial

/-- What a piece is read as does not depend on what follows it. -/
theorem simulates_spacing_accept {α : Type} {choose : Piece → Option α}
    (blind : ∀ piece piece', piece.SameToken piece' → choose piece = choose piece') (bound : Nat) :
    Simulates spacing 1 bound (accept choose) (accept choose) := by
  rintro shared input input' _ ⟨rfl, alike⟩ _
  cases alike with
  | nil => exact .failed trivial
  | @cons piece piece' rest rest' same _ others =>
    rw [accept, accept, ← blind piece piece' same]
    cases choose piece with
    | none => exact .failed trivial
    | some value => exact .accepted value trivial (Nat.le_refl _) ⟨rfl, others⟩

/-- The digits of a number, given its sign. -/
def magnitude (negative : Bool) : Parser Literal := do
  let text ← accept fun piece => if piece.lexeme = .number then some piece.text else none
  ofOption (Literal.ofNumber? negative text)

/-- The digits of a number are read alike. -/
theorem simulates_magnitude (negative : Bool) (bound : Nat) :
    Simulates spacing 1 bound (magnitude negative) (magnitude negative) := by
  refine (simulates_spacing_accept (fun _ _ same => ?_) bound).before fun text => ?_
  · rw [same.lexeme, same.text]
  · exact simulates_ofOption _

/-- Behind a minus that is glued to what follows, digits are read. -/
theorem number_of_glued {piece : Piece} {rest : List Piece} (minus : piece.lexeme = .minus)
    (glued : piece.glued = true) :
    number (piece :: rest) = ⟨further (some (2 * rest.length)) (magnitude true rest).reach,
      (magnitude true rest).result⟩ := by
  show andThen sign magnitude (piece :: rest) = _
  simp [andThen, sign, minus, glued]

/-- Without a minus in front, digits are read. -/
theorem number_of_unsigned {piece : Piece} {rest : List Piece} (unsigned : piece.lexeme ≠ .minus) :
    number (piece :: rest) = magnitude false (piece :: rest) := by
  show andThen sign magnitude (piece :: rest) = _
  simp [andThen, sign, unsigned]

/-- A minus with trivia behind it is no sign. -/
theorem number_of_apart {piece : Piece} {rest : List Piece} (minus : piece.lexeme = .minus)
    (apart : piece.glued = false) : (number (piece :: rest)).result = none := by
  show (andThen sign magnitude (piece :: rest)).result = none
  simp [andThen, sign, minus, apart]

/-- A minus that no number follows is no sign. -/
theorem number_of_unfollowed {piece : Piece} {rest : List Piece} (minus : piece.lexeme = .minus)
    (unfollowed : (rest.head?.any fun next => next.lexeme = .number) = false) :
    (number (piece :: rest)).result = none := by
  cases glued : piece.glued with
  | false => exact number_of_apart minus glued
  | true =>
    rw [number_of_glued minus glued]
    show (andThen (accept _) _ rest).result = none
    cases rest with
    | nil => rfl
    | cons next rest =>
      have other : next.lexeme ≠ .number := by simpa using unfollowed
      simp [andThen, accept, other]

/-- A number is read alike: a minus is its sign on both sides or on none. -/
theorem simulates_spacing_number (bound : Nat) : Simulates spacing 1 bound number number := by
  rintro shared input input' small ⟨rfl, alike⟩ _
  cases alike with
  | nil => exact .failed trivial
  | @cons piece piece' rest rest' same sign others =>
    by_cases minus : piece.lexeme = .minus
    · have minus' : piece'.lexeme = .minus := same.lexeme ▸ minus
      cases followed : rest.head?.any fun next => next.lexeme = .number with
      | false =>
        exact agree_of_failed (number_of_unfollowed minus followed)
          (number_of_unfollowed minus' (others.followed_eq ▸ followed))
      | true =>
        have agreed := sign minus followed
        cases glued : piece.glued with
        | false =>
          exact agree_of_failed (number_of_apart minus glued)
            (number_of_apart minus' (agreed ▸ glued))
        | true =>
          have digits := simulates_magnitude true bound _ _ _ (Nat.lt_of_succ_lt small)
            ⟨rfl, others⟩ trivial
          rw [number_of_glued minus glued, number_of_glued minus' (agreed ▸ glued)]
          exact digits.behind trivial fun _ enough => Nat.le_succ_of_le enough
    · have unsigned : piece'.lexeme ≠ .minus := same.lexeme ▸ minus
      rw [number_of_unsigned minus, number_of_unsigned unsigned]
      exact simulates_magnitude false bound _ _ _ small ⟨rfl, .cons same sign others⟩ trivial

theorem respected_spacing : spacing.Respected 2 where
  accept blind _ := simulates_spacing_accept blind
  number := simulates_spacing_number

end Parser

/-! ## Tokens that agree up to trivia -/

namespace Token

/-- A token apart from its place. -/
def shape (token : Token) : Kind × Lexeme × String := (token.kind, token.lexeme, token.text)

/-- For each minus that a number follows, trivia apart: whether trivia stands between the two. -/
def detachedSigns : List Token → List Bool
  | [] => []
  | token :: rest =>
    if token.kind.isTrivia then detachedSigns rest
    else if token.lexeme = .minus &&
        ((rest.find? fun next => !next.kind.isTrivia).any fun next => next.lexeme = .number) then
      (rest.head?.any fun next => next.kind.isTrivia) :: detachedSigns rest
    else detachedSigns rest

end Token

namespace Piece

/-- A piece apart from what follows it. -/
def shape (piece : Piece) : Kind × Lexeme × String := (piece.kind, piece.lexeme, piece.text)

/-- For each minus that a number follows: whether it follows directly. -/
def gluedSigns : List Piece → List Bool
  | [] => []
  | piece :: rest =>
    if piece.lexeme = .minus && (rest.head?.any fun next => next.lexeme = .number) then
      piece.glued :: gluedSigns rest
    else gluedSigns rest

/-- Pieces of the same shapes are the same tokens. -/
theorem sameToken_of_shape_eq {piece piece' : Piece} (equal : piece.shape = piece'.shape) :
    piece.SameToken piece' := by
  simp only [shape, Prod.mk.injEq] at equal
  exact ⟨equal.1, equal.2.1, equal.2.2⟩

/-- Pieces of the same shapes both start with a number or none does. -/
theorem followed_eq {pieces pieces' : List Piece} (shapes : pieces.map shape = pieces'.map shape) :
    (pieces.head?.any fun next => next.lexeme = .number) =
      pieces'.head?.any fun next => next.lexeme = .number := by
  cases pieces with
  | nil =>
    cases pieces' with
    | nil => rfl
    | cons => contradiction
  | cons piece rest =>
    cases pieces' with
    | nil => contradiction
    | cons piece' rest' =>
      have same := sameToken_of_shape_eq (List.cons_eq_cons.1 shapes).1
      simp [same.lexeme]

/-- Pieces of the same shapes whose signs are glued alike are read alike. -/
theorem spacedAlike {pieces pieces' : List Piece} (shapes : pieces.map shape = pieces'.map shape)
    (signs : gluedSigns pieces = gluedSigns pieces') : SpacedAlike pieces pieces' := by
  induction pieces generalizing pieces' with
  | nil =>
    cases pieces' with
    | nil => exact .nil
    | cons => contradiction
  | cons piece rest ih =>
    cases pieces' with
    | nil => contradiction
    | cons piece' rest' =>
      obtain ⟨head, tail⟩ := List.cons_eq_cons.1 shapes
      have same := sameToken_of_shape_eq head
      rw [gluedSigns, gluedSigns, ← same.lexeme, ← followed_eq tail] at signs
      split at signs
      · obtain ⟨glued, others⟩ := List.cons_eq_cons.1 signs
        exact .cons same (fun _ _ => glued) (ih tail others)
      · rename_i unsigned
        simp only [Bool.and_eq_true, decide_eq_true_iff, not_and] at unsigned
        exact .cons same (fun minus followed => absurd followed (unsigned minus)) (ih tail signs)

end Piece

namespace Token

/-- The first piece is the first token that is no trivia. -/
theorem head?_pieces (tokens : List Token) (test : Lexeme → Bool) :
    ((pieces tokens).head?.any fun piece => test piece.lexeme) =
      (tokens.find? fun next => !next.kind.isTrivia).any fun next => test next.lexeme := by
  induction tokens with
  | nil => rfl
  | cons token rest ih =>
    rw [pieces]
    cases isTrivia : token.kind.isTrivia with
    | true => simpa [isTrivia] using ih
    | false => simp [isTrivia]

/-- Pieces have the shapes of the tokens that are no trivia. -/
theorem map_shape_pieces (tokens : List Token) :
    (pieces tokens).map Piece.shape = (significant tokens).map shape := by
  induction tokens with
  | nil => rfl
  | cons token rest ih =>
    rw [significant] at ih ⊢
    rw [pieces]
    cases isTrivia : token.kind.isTrivia with
    | true => simpa [isTrivia] using ih
    | false => simpa [isTrivia] using ⟨rfl, ih⟩

/-- A sign is glued to its number where no trivia stands between them. -/
theorem gluedSigns_pieces (tokens : List Token) :
    Piece.gluedSigns (pieces tokens) = (detachedSigns tokens).map (!·) := by
  induction tokens with
  | nil => rfl
  | cons token rest ih =>
    rw [pieces, detachedSigns]
    cases isTrivia : token.kind.isTrivia with
    | true => simpa [isTrivia] using ih
    | false =>
      simp only [Bool.false_eq_true, if_false, Piece.gluedSigns,
        head?_pieces rest fun lexeme => lexeme = .number, ih]
      split <;> simp

end Token

/-! ## Trees -/

/-- What is left of an input is no longer than the input. -/
theorem Parser.length_rest_le {input rest : List Piece} {reach : Option Nat}
    {expressions : List Expression}
    (outcome : many expression input = ⟨reach, some (expressions, rest)⟩) :
    rest.length ≤ input.length := by
  have agree := simulates_expressions respected_spacing (input.length + 1) _ _ _
    (Nat.lt_succ_self _) ⟨rfl, SpacedAlike.refl input⟩ trivial
  rw [outcome] at agree
  cases agree with
  | accepted _ _ enough related => exact related.1 ▸ enough

/-- A text has a tree just when its tokens reach its end and all of them are the expressions of the
tree. -/
theorem parse_eq_ok_iff {source : String} {tree : SyntaxTree} :
    parse source = .ok tree ↔ (sourceStop source).rest = [] ∧
      (Parser.many Parser.expression ((sourceSpots source).map Spot.piece)).result =
        some (tree.expressions, []) := by
  obtain ⟨reach, expressions, rest, outcome⟩ := Parser.exists_many Parser.expression
    ((sourceSpots source).map Spot.piece)
  have fewer := Parser.length_rest_le outcome
  rw [List.length_map] at fewer
  rw [parse_of_outcome outcome, outcome]
  constructor
  · intro accepted
    simp only at accepted
    split at accepted
    · rename_i ended
      have ended := List.isEmpty_iff.1 ended
      cases List.length_eq_zero_iff.1 (Cursor.placeOf_atEnd (passes_source source) fewer ended)
      cases accepted
      refine ⟨?_, rfl⟩
      rw [List.length_nil, Nat.mul_zero, Cursor.placeOf_zero (passes_source source)] at ended
      exact ended
    · cases accepted
  · rintro ⟨ended, all⟩
    cases all
    have atEnd : (sourceStop source).atEnd := List.isEmpty_iff.2 ended
    simp only [List.length_nil, Nat.mul_zero, Cursor.placeOf_zero (passes_source source), atEnd,
      if_true]

/-- Pieces that are read alike are all of the same expressions or not all of any. -/
theorem SpacedAlike.result_eq {pieces pieces' : List Piece} (alike : SpacedAlike pieces pieces')
    (expressions : List Expression) :
    (Parser.many Parser.expression pieces).result = some (expressions, []) ↔
      (Parser.many Parser.expression pieces').result = some (expressions, []) := by
  have agree := Parser.simulates_expressions Parser.respected_spacing (pieces.length + 1) _ _ _
    (Nat.lt_succ_self _) ⟨rfl, alike⟩ trivial
  generalize Parser.many Parser.expression pieces = outcome at agree ⊢
  generalize Parser.many Parser.expression pieces' = outcome' at agree ⊢
  cases agree with
  | failed => simp
  | @accepted _ _ _ rest rest' value _ _ related =>
    have length := related.2.length_eq
    have ended : rest = [] ↔ rest' = [] := by
      rw [← List.length_eq_zero_iff, ← List.length_eq_zero_iff, length]
    simp [ended]

/-- A text with a tree has tokens. Two texts with tokens that agree up to trivia, and up to whether
trivia stands between a minus and the number behind it, have the same tree or both have none. -/
theorem parse_factors_through_tokenize :
    (∀ source tree, parse source = .ok tree → ∃ tokens, tokenize source = .ok tokens) ∧
      ∀ source source' tokens tokens', tokenize source = .ok tokens →
        tokenize source' = .ok tokens' →
        (Token.significant tokens).map Token.shape = (Token.significant tokens').map Token.shape →
        Token.detachedSigns tokens = Token.detachedSigns tokens' →
        (∃ tree, parse source = .ok tree ∧ parse source' = .ok tree) ∨
          ∃ failure failure', parse source = .error failure ∧ parse source' = .error failure' := by
  refine ⟨fun source tree parsed => exists_tokenize (parse_eq_ok_iff.1 parsed).1, ?_⟩
  intro source source' tokens tokens' cut cut' shapes signs
  obtain ⟨ended, pieces, _⟩ := tokenize_eq_ok cut
  obtain ⟨ended', pieces', _⟩ := tokenize_eq_ok cut'
  have alike : SpacedAlike (Token.pieces tokens) (Token.pieces tokens') := by
    refine Piece.spacedAlike ?_ ?_
    · rw [Token.map_shape_pieces, Token.map_shape_pieces, shapes]
    · rw [Token.gluedSigns_pieces, Token.gluedSigns_pieces, signs]
  rw [pieces, pieces'] at alike
  have same (tree : SyntaxTree) : parse source = .ok tree ↔ parse source' = .ok tree := by
    rw [parse_eq_ok_iff, parse_eq_ok_iff, alike.result_eq]
    simp [ended, ended']
  cases parsed : parse source with
  | ok tree => exact .inl ⟨tree, rfl, (same tree).1 parsed⟩
  | error failure =>
    cases parsed' : parse source' with
    | ok tree =>
      cases ((same tree).2 parsed').symm.trans parsed
    | error failure' => exact .inr ⟨failure, failure', rfl, rfl⟩

/-- Blanks and comments around the tokens of an assignment do not change its tree. -/
theorem parse_spaced_assignment :
    ∃ tree, parse "x = -1;" = .ok tree ∧ parse "x /* y */ =-1 ; // z" = .ok tree := by
  have cut (source : String) (ended : ((Cursor.ofSource source).spots .keep).2.rest = []) :=
    tokenize_eq_ok_iff.2 ⟨ended, rfl⟩
  rcases parse_factors_through_tokenize.2 _ _ _ _ (cut "x = -1;" (by decide +kernel))
    (cut "x /* y */ =-1 ; // z" (by decide +kernel)) (by decide +kernel) (by decide +kernel) with
    same | ⟨failure, _, failed, _⟩
  · exact same
  · have accepted : (parse "x = -1;").toOption.isSome := by decide +kernel
    rw [failed] at accepted
    cases accepted

-- A blank behind the minus is another matter.
example : (parse "x = - 1;").toOption.isSome = false := by decide +kernel

end Likeness
