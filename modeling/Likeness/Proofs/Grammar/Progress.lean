import Likeness.Proofs.Builder.Refinement
import Likeness.Proofs.Grammar.Extension

/-!
# Every production moves on and ends

A production that accepts something has taken at least one token, so that the cursor behind it is
further on. It follows that parsers which come back to themselves do so on fewer and fewer tokens,
which is what `Parser.Ends` states. A loop takes its items one behind the other and stops where an
item is refused, never because an item took nothing; `Cursor.Repeats` is such a run.

All of this is read off one fact about the productions, `Parser.Uniform`: they respect every
correspondence of inputs that single tokens and numbers respect, and they take a token.
-/

namespace Likeness

namespace Parser

variable {α β : Type} {parser : Parser α} {input rest : List Piece} {value : α} {taken : Nat}

/-- A parser that makes the same of corresponding inputs, whatever the correspondence is, and takes
at least some number of pieces. -/
def Uniform (taken : Nat) (parser : Parser α) : Prop :=
  ∀ corr : Correspondence, corr.Respected 2 → ∀ bound, Simulates corr taken bound parser parser

namespace Uniform

theorem suffix (uniform : Uniform taken parser) (accepted : run parser input = some (value, rest)) :
    rest.length + taken ≤ input.length ∧ rest <:+ input :=
  Simulates.suffix (uniform _ respected_extension) accepted

theorem progresses (uniform : Uniform 1 parser) : Progresses parser :=
  fun _ _ _ accepted => (uniform.suffix accepted).1

theorem map (uniform : Uniform taken parser) (change : α → β) : Uniform taken (change <$> parser) :=
  fun corr respected bound => (uniform corr respected bound).map change

/-- A parser may stand behind a lexeme. -/
theorem behind (uniform : Uniform taken parser) {expected : Lexeme}
    (inside : expected.isWithin 2) : Uniform 1 (do lexeme expected; parser) :=
  fun corr respected bound =>
    (simulates_lexeme respected bound inside).before fun _ => (uniform corr respected bound).any

theorem many (uniform : Uniform 1 parser) : Uniform 0 (Parser.many parser) :=
  fun corr respected bound => (uniform corr respected bound).many

end Uniform

/-! ## Productions -/

/-- The productions of the grammar: those that can be asked for, and those inside of them that a
source text is taken apart by. -/
inductive Production : {α : Type} → Parser α → Prop where
  | expression : Production Parser.expression
  | statement : Production Parser.statement
  | block : Production Parser.block
  | declaration : Production Parser.declaration
  | literal : Production Parser.literal
  | parameters : Production Parser.parameters
  | reference : Production dottedName
  | body : Production (Parser.body Parser.expression)
  | bracedBody : Production (Parser.bracedBody Parser.expression)
  | condition : Production Parser.condition
  | clause : Production (forClause .semicolon)
  | lastClause : Production (forClause .closeParen)
  | resources : Production Parser.resources
  | resource : Production openDeclaration
  | handler : Production (catchClause Parser.expression)
  | cleanup : Production (Parser.cleanup Parser.expression)
  | typeName : Production Parser.typeName

/-- Every production takes a piece. -/
theorem Production.uniform (production : Production parser) : Uniform 1 parser := by
  intro corr respected bound
  have inside := respected.inside (Nat.zero_le 2)
  have items := simulates_expression respected bound
  cases production with
  | expression => exact items
  | statement => exact simulates_statement inside bound
  | block => exact (simulates_blockWith respected items).below (Nat.le_succ bound)
  | declaration => exact simulates_declaration respected bound
  | literal => exact simulates_literal inside bound
  | parameters =>
    exact (simulates_group inside (simulates_statement inside bound)).below (Nat.le_succ bound)
  | reference => exact simulates_dottedName inside bound
  | body => exact simulates_body respected items
  | bracedBody => exact simulates_bracedBody respected items
  | condition => exact simulates_condition inside bound
  | clause => exact simulates_forClause respected bound rfl
  | lastClause => exact simulates_forClause respected bound rfl
  | resources => exact simulates_resources (respected.inside (Nat.le_succ 1)) bound
  | resource => exact simulates_openDeclaration inside bound
  | handler => exact simulates_catchClause respected items
  | cleanup =>
    exact (simulates_lexeme respected bound rfl).next fun _ => simulates_bracedBody respected items
  | typeName => exact simulates_typeName inside bound

/-- The items of the loops of the grammar: expressions of a source text and of a body, the handlers
of a `try`, qualifiers, array brackets, the items behind a separator, and the operations of each of
the five levels between operands. -/
inductive Repeated : {α : Type} → Parser α → Prop where
  | expression : Repeated Parser.expression
  | handler : Repeated (catchClause Parser.expression)
  | qualifier : Repeated Parser.qualifier
  | brackets : Repeated (delimited .openBracket .closeBracket (pure ()))
  | name : Repeated (do lexeme .dot; word)
  | argument : Repeated (do lexeme .comma; typeName)
  | item : Repeated (do lexeme .comma; statement)
  | resource : Repeated (do lexeme .semicolon; openDeclaration)
  | exceptionType : Repeated (do lexeme .pipe; typeName)
  | operation (depth : Nat) : Repeated (operations (tier statement (depth + 1)) depth)

/-- Every item of a loop takes a piece. -/
theorem Repeated.uniform (repeated : Repeated parser) : Uniform 1 parser := by
  cases repeated with
  | expression => exact Production.expression.uniform
  | handler => exact Production.handler.uniform
  | qualifier => exact fun _ respected bound => simulates_qualifier respected bound
  | brackets =>
    intro corr respected bound
    have nothing : Simulates corr 0 bound (pure ()) (pure ()) := simulates_pure ()
    exact (nothing.delimited respected rfl rfl).below (Nat.le_succ bound)
  | name =>
    have word : Uniform 1 word := fun _ respected bound => simulates_word respected bound
    exact word.behind rfl
  | argument => exact Production.typeName.uniform.behind rfl
  | item => exact Production.statement.uniform.behind rfl
  | resource => exact Production.resource.uniform.behind rfl
  | exceptionType => exact Production.typeName.uniform.behind rfl
  | operation depth =>
    intro corr respected bound
    have inside := respected.inside (Nat.zero_le 2)
    have statement := simulates_statement inside bound
    have operand := simulates_tier inside statement (Nat.le_add_left 1 depth)
    exact (simulates_operations inside operand depth).below (Nat.le_succ bound)

end Parser

/-! ## Places -/

namespace Cursor

open Likeness.Parser

variable {α : Type} {parser item : Parser α} {cursor next stop middle : Cursor} {value : α}
  {front back : List Spot}

/-- What a parser accepts stands in front of the tokens that it leaves, and these are what is cut
off from there on. -/
theorem exists_passes_of_build {taken : Nat} (uniform : Uniform taken parser)
    (built : (cursor.build parser).result = some (value, stop)) :
    ∃ front back, cursor.spots .skip = (front ++ back, (cursor.spots .skip).2) ∧
      run parser ((front ++ back).map Spot.piece) = some (value, back.map Spot.piece) ∧
      back.length + taken ≤ (front ++ back).length ∧ Passes .skip cursor front stop ∧
      stop.spots .skip = (back, (cursor.spots .skip).2) := by
  have passes := passes_spots .skip cursor
  have final := scan_spots_eq_none cursor .skip
  obtain ⟨⟨found, rest⟩, accepted, same⟩ := Option.map_eq_some_iff.1 built
  obtain ⟨fewer, before, shape⟩ := uniform.suffix accepted
  obtain ⟨front, back, split, rfl, rfl⟩ := List.map_eq_append_iff.1 shape.symm
  simp only [Prod.mk.injEq, List.length_map] at same fewer
  obtain ⟨rfl, place⟩ := same
  generalize cursor.spots .skip = cut at passes final accepted split place fewer ⊢
  obtain ⟨spots, last⟩ := cut
  simp only at passes final accepted split place fewer
  subst split
  obtain ⟨middle, passesFront, passesBack⟩ := passes.split
  rw [passesFront.placeOf_eq back] at place
  subst place
  exact ⟨front, back, rfl, accepted, fewer, passesFront, passesBack.spots_eq final⟩

/-- A parser that accepts all tokens up to a place builds something up to there. -/
theorem build_of_passes (passes : Passes .skip cursor front stop)
    (left : (stop.spots .skip).1 = back)
    (accepted : run parser ((front ++ back).map Spot.piece) = some (value, back.map Spot.piece)) :
    (cursor.build parser).result = some (value, stop) := by
  have all := (passes.append (passes_spots .skip stop)).spots_eq (scan_spots_eq_none stop .skip)
  rw [left] at all
  have outcome : (parser ((front ++ back).map Spot.piece)).result =
      some (value, back.map Spot.piece) := accepted
  simp only [build, all, outcome, Option.map_some, List.length_map, passes.placeOf_eq back]

/-- A parser that accepts nothing of the tokens that are left builds nothing. -/
theorem build_eq_none_iff :
    (cursor.build parser).result = none ↔
      run parser ((cursor.spots .skip).1.map Spot.piece) = none :=
  Option.map_eq_none_iff

/-- A parser that takes a piece moves on. -/
theorem offset_lt_of_build (uniform : Uniform 1 parser)
    (built : (cursor.build parser).result = some (value, stop)) : cursor.offset < stop.offset := by
  obtain ⟨front, back, _, _, fewer, passes, _⟩ := exists_passes_of_build uniform built
  apply passes.offset_le.2
  rintro rfl
  exact absurd fewer (Nat.not_succ_le_self _)

/-- Items that are built one behind the other from a place on, each of which moves on, up to a place
where there is none. -/
inductive Repeats (item : Parser α) : Cursor → List α → Cursor → Prop where
  | stop {cursor : Cursor} (refused : (cursor.build item).result = none) :
      Repeats item cursor [] cursor
  | turn {cursor next stop : Cursor} {first : α} {others : List α}
      (built : (cursor.build item).result = some (first, next))
      (further : cursor.offset < next.offset) (rest : Repeats item next others stop) :
      Repeats item cursor (first :: others) stop

/-- Zero or more items are built one behind the other until one is refused. -/
theorem exists_repeats (uniform : Uniform 1 item) (cursor : Cursor) :
    ∃ items stop, (cursor.build (many item)).result = some (items, stop) ∧
      Repeats item cursor items stop := by
  -- The tokens that are left get fewer with each item.
  induction size : (cursor.spots .skip).1.length using Nat.strongRecOn generalizing cursor with
  | ind size ih =>
    subst size
    cases built : (cursor.build item).result with
    | none =>
      have none := run_many_nil (build_eq_none_iff.1 built)
      exact ⟨[], cursor, build_of_passes (.stay cursor) rfl none, .stop built⟩
    | some pair =>
      obtain ⟨first, next⟩ := pair
      obtain ⟨front, back, all, accepted, fewer, passes, left⟩ :=
        exists_passes_of_build uniform built
      have shorter : (next.spots .skip).1.length < (cursor.spots .skip).1.length := by
        rw [left, all]
        exact fewer
      obtain ⟨others, stop, builtOthers, repeats⟩ := ih _ shorter next rfl
      obtain ⟨front', back', all', accepted', _, passes', left'⟩ :=
        exists_passes_of_build uniform.many builtOthers
      have shape : back = front' ++ back' := congrArg Prod.fst (left.symm.trans all')
      subst shape
      have more := run_many_cons uniform.progresses accepted
      rw [accepted', ← List.append_assoc] at more
      refine ⟨first :: others, stop, ?_, .turn built (offset_lt_of_build uniform built) repeats⟩
      exact build_of_passes (passes.append passes') (congrArg Prod.fst left') more

end Cursor

open Likeness.Parser

end Likeness
