import Likeness.Proofs.Grammar.Blocks
import Likeness.Proofs.Grammar.Shape
import Likeness.Proofs.Grammar.Turns

/-!
# Inputs that go on

What stands behind an input can only matter to a parser that comes to the end of it. A statement
takes neither semicolons nor braces, so it makes the same of all inputs that are the same up to one
of these; so do the resources of a `try` up to a brace. `extension` is the correspondence of an
input and a longer one that says so for all productions up to a rank.

With nothing behind, it is the correspondence of an input with itself. Then it tells that a parser
leaves an end of its input, that expressions take at least one piece, and that the parser of
expressions is a turn of itself.

`Seamless` states of what a semicolon ends that more input changes nothing, and `Spends` that a
parser takes a piece above a rank, so that one is to come for whatever runs in front of it.
-/

namespace Likeness.Parser

variable {α β : Type} {whole behind input rest : List Piece} {rank taken bound : Nat}

/-- There is a piece above a rank, which no production up to that rank takes. -/
def Bars (rank : Nat) (input : List Piece) : Prop := ∃ piece ∈ input, rank < piece.lexeme.rank

theorem Bars.of_suffix (bars : Bars rank rest) (suffix : rest <:+ input) : Bars rank input := by
  obtain ⟨piece, member, above⟩ := bars
  exact ⟨piece, suffix.mem member, above⟩

/-- A piece that is not above a rank does not stop a parser up to that rank. -/
theorem Bars.tail {piece : Piece} (bars : Bars rank (piece :: rest))
    (inner : piece.lexeme.rank ≤ rank) : Bars rank rest := by
  obtain ⟨other, member, above⟩ := bars
  rcases List.mem_cons.1 member with rfl | member
  · exact absurd above (Nat.not_lt.2 inner)
  · exact ⟨other, member, above⟩

theorem not_bars_nil : ¬Bars rank [] := fun ⟨_, member, _⟩ => List.not_mem_nil member

/-- The right input goes on where the left one ends, which is a rest of `whole`. Unless nothing
follows, a piece above the rank is still to come on the left. -/
def extension (whole behind : List Piece) (rank : Nat) : Correspondence where
  related shared input input' :=
    shared = input.length ∧ input' = input ++ behind ∧ input <:+ whole ∧
      (behind = [] ∨ Bars rank input)
  within _ := True
  reached _ _ := True
  shared_le := by
    rintro _ _ _ ⟨rfl, rfl, _⟩
    simp
  within_further := fun _ => ⟨trivial, trivial⟩
  reached_none := trivial
  reached_further := fun _ _ => trivial

/-- A piece that is not above the rank is read alike. -/
theorem simulates_extension_accept {choose : Piece → Option α}
    (inner : ∀ piece, (choose piece).isSome → piece.lexeme.rank ≤ rank) (bound : Nat) :
    Simulates (extension whole behind rank) 1 bound (accept choose) (accept choose) := by
  rintro shared input input' _ ⟨rfl, rfl, suffix, bars⟩ _
  cases input with
  | nil =>
    rw [bars.resolve_right not_bars_nil]
    exact .failed trivial
  | cons piece rest =>
    rw [List.cons_append, accept, accept]
    cases chosen : choose piece with
    | none => exact .failed trivial
    | some value =>
      have inner := inner piece (by rw [chosen]; rfl)
      exact .accepted value trivial (Nat.le_refl _) ⟨rfl, rfl,
        (List.suffix_cons piece rest).trans suffix, bars.imp_right (·.tail inner)⟩

/-- A sign is read alike. -/
theorem simulates_extension_sign (bound : Nat) :
    Simulates (extension whole behind rank) 0 bound sign sign := by
  rintro shared input input' _ ⟨rfl, rfl, suffix, bars⟩ _
  cases input with
  | nil =>
    rw [bars.resolve_right not_bars_nil]
    exact .accepted false trivial (Nat.le_refl _) ⟨rfl, rfl, suffix, .inl rfl⟩
  | cons piece rest =>
    rw [List.cons_append, sign, sign]
    by_cases minus : piece.lexeme = .minus
    · rw [if_pos minus, if_pos minus]
      have inner : piece.lexeme.rank ≤ rank := by
        rw [minus]
        exact Nat.zero_le rank
      cases piece.glued with
      | true =>
        exact .accepted true trivial (Nat.le_succ _) ⟨rfl, rfl,
          (List.suffix_cons piece rest).trans suffix, bars.imp_right (·.tail inner)⟩
      | false => exact .failed trivial
    · rw [if_neg minus, if_neg minus]
      exact .accepted false trivial (Nat.le_refl _) ⟨rfl, rfl, suffix, bars⟩

/-- All productions up to a rank do the same in front of a piece above it. -/
theorem respected_extension : (extension whole behind rank).Respected rank where
  accept _ inner := simulates_extension_accept inner
  number bound := by
    refine (simulates_extension_sign bound).next fun negative => ?_
    refine (simulates_extension_accept (fun piece found => ?_) bound).before fun text => ?_
    · rw [Option.isSome_ite.1 found]
      exact Nat.zero_le _
    · exact simulates_ofOption _

/-! ## Results -/

section Results

variable {parser : Parser α} {value : α}

/-- A parser that is stopped by a piece above the rank makes the same of an input that goes on, and
what stopped it is still to come. -/
theorem Simulates.run_append
    (simulates : ∀ bound, Simulates (extension input behind rank) taken bound parser parser)
    (bars : behind = [] ∨ Bars rank input) :
    run parser input = none ∧ run parser (input ++ behind) = none ∨
      ∃ value rest, run parser input = some (value, rest) ∧
        run parser (input ++ behind) = some (value, rest ++ behind) ∧
        rest.length + taken ≤ input.length ∧ rest <:+ input ∧ (behind = [] ∨ Bars rank rest) := by
  have agree := simulates _ _ _ _ (Nat.lt_succ_self _) ⟨rfl, rfl, List.suffix_rfl, bars⟩ trivial
  rw [run, run]
  generalize parser input = outcome at agree ⊢
  generalize parser (input ++ behind) = outcome' at agree ⊢
  cases agree with
  | failed => exact .inl ⟨rfl, rfl⟩
  | accepted value _ enough related =>
    obtain ⟨rfl, rfl, suffix, still⟩ := related
    exact .inr ⟨value, _, rfl, rfl, enough, suffix, still⟩

/-- A parser leaves an end of its input, without what it takes at least. -/
theorem Simulates.suffix
    (simulates : ∀ bound, Simulates (extension input [] rank) taken bound parser parser)
    (accepted : run parser input = some (value, rest)) :
    rest.length + taken ≤ input.length ∧ rest <:+ input := by
  obtain ⟨failed, _⟩ | ⟨_, _, accepted', _, fewer, suffix, _⟩ := run_append simulates (.inl rfl)
  · rw [failed] at accepted
    cases accepted
  · rw [accepted'] at accepted
    cases accepted
    exact ⟨fewer, suffix⟩

end Results

/-! ## Turns -/

/-- The parser of expressions is a turn of itself. -/
theorem run_expression (input : List Piece) :
    run expression input = run (expressionStep expression) input := by
  have known : Simulates (extension input [] 2) 1 input.length
      (unroll expressionStep input.length) expression :=
    simulates_unroll_fix fun _ _ _ => simulates_expressionStep respected_extension
  have agree := simulates_expressionStep respected_extension known _ _ _ (Nat.lt_succ_self _)
    ⟨rfl, (List.append_nil input).symm, List.suffix_rfl, .inl rfl⟩ trivial
  show (expressionStep (unroll expressionStep input.length) input).result =
    (expressionStep expression input).result
  generalize expressionStep (unroll expressionStep input.length) input = outcome at agree ⊢
  generalize expressionStep expression input = outcome' at agree ⊢
  cases agree with
  | failed => rfl
  | accepted value _ _ related => rw [related.2.1, List.append_nil]

theorem progresses_expression : Progresses expression := fun _ _ _ accepted =>
  (Simulates.suffix (simulates_expression respected_extension) accepted).1

theorem progresses_catchClause : Progresses (catchClause expression) := fun _ _ _ accepted =>
  (Simulates.suffix (fun bound => simulates_catchClause respected_extension
    (simulates_expression respected_extension bound)) accepted).1

section Repetition

variable {item : Parser α} {first : α}

/-- A repetition comes to its result as soon as it is turned more often than there are pieces, if
each item takes one. -/
theorem settles_many (progress : Progresses item) (input : List Piece) :
    Settles (repetition item) input (run (many item) input) := by
  induction size : input.length using Nat.strongRecOn generalizing input with
  | ind size ih =>
    subst size
    cases accepted : run item input with
    | none =>
      rw [run_many_nil accepted]
      exact settles_repetition_nil accepted
    | some pair =>
      obtain ⟨first, rest⟩ := pair
      have shorter := progress _ _ _ accepted
      have others := ih _ shorter rest rfl
      obtain ⟨reach, items, stop, outcome⟩ := exists_many item rest
      rw [run, outcome] at others
      have settles := settles_repetition_cons accepted shorter others
      rwa [← settles.run_fix] at settles

/-- A repetition goes on behind its first item. -/
theorem run_many_cons (progress : Progresses item)
    (accepted : run item input = some (first, rest)) : run (many item) input =
      (run (many item) rest).map fun (items, stop) => (first :: items, stop) := by
  have others := settles_many progress rest
  obtain ⟨reach, items, stop, outcome⟩ := exists_many item rest
  rw [run, outcome] at others
  rw [run, run, outcome]
  exact (settles_repetition_cons accepted (progress _ _ _ accepted) others).run_fix

end Repetition

/-! ## In front of a semicolon or a brace -/

/-- A parser that makes the same of an input that goes on, if a semicolon or a brace is to come. -/
def Seamless (behind : List Piece) (parser : Parser α) : Prop :=
  ∀ input, Bars 0 input → run parser (input ++ behind) =
    (run parser input).map fun (value, rest) => (value, rest ++ behind)

/-- What takes no semicolon and no brace may be ended by one. -/
theorem seamless_terminated {parser : Parser α}
    (simulates : ∀ whole bound, Simulates (extension whole behind 0) taken bound parser parser)
    (ending : Lexeme) (change : α → β) :
    Seamless behind (do let value ← parser; lexeme ending; pure (change value)) := by
  intro input bars
  rw [run_bind, run_bind]
  obtain ⟨failed, failed'⟩ | ⟨value, rest, accepted, accepted', _, _, still⟩ :=
    Simulates.run_append (simulates input) (.inr bars)
  · rw [failed, failed']
    rfl
  · rw [accepted, accepted']
    cases rest with
    | nil =>
      rw [still.resolve_right not_bars_nil]
      rfl
    | cons piece rest =>
      simp only [Option.bind_some, List.cons_append, run_bind, run_lexeme_cons]
      split <;> rfl

/-- Changing values makes no seam. -/
theorem Seamless.map {parser : Parser α} (seamless : Seamless behind parser) (change : α → β) :
    Seamless behind (change <$> parser) := by
  intro input bars
  rw [run_map, run_map, seamless input bars]
  cases run parser input <;> rfl

/-- Alternatives make no seam. -/
theorem Seamless.orElse {first second : Parser α} (one : Seamless behind first)
    (other : Seamless behind second) : Seamless behind (first <|> second) := by
  intro input bars
  rw [run_orElse, run_orElse, one input bars, other input bars, Option.map_or]

/-- A lexeme is one piece. -/
theorem seamless_lexeme (expected : Lexeme) : Seamless behind (lexeme expected) := by
  intro input bars
  cases input with
  | nil => exact absurd bars not_bars_nil
  | cons piece input =>
    rw [List.cons_append, run_lexeme_cons, run_lexeme_cons]
    split <;> rfl

theorem seamless_declaration : Seamless behind declaration :=
  seamless_terminated (fun _ => simulates_openDeclaration respected_extension) _ id

theorem seamless_terminatedStatement : Seamless behind terminatedStatement :=
  seamless_terminated (fun _ => simulates_statement respected_extension) _ id

theorem seamless_forClause (ending : Lexeme) : Seamless behind (forClause ending) :=
  seamless_terminated (fun _ bound => (simulates_statement respected_extension bound).optional) _ _

/-! ## Parsers that take a semicolon or a brace -/

/-- A parser that takes a piece above a rank. -/
def Spends (rank : Nat) (parser : Parser α) : Prop :=
  ∀ input value rest, run parser input = some (value, rest) → Bars rank input

section Spends

variable {parser first second : Parser α} {continuation : α → Parser β} {shape : α → Prop}

/-- A lexeme above the rank is such a piece. -/
theorem spends_lexeme {expected : Lexeme} (above : expected.isWithin rank = false) :
    Spends rank (lexeme expected) := by
  intro input value rest accepted
  cases input with
  | nil => cases accepted
  | cons piece input =>
    rw [run_lexeme_cons] at accepted
    obtain ⟨rfl, _⟩ := Option.ite_none_right_eq_some.1 accepted
    exact ⟨piece, List.mem_cons_self, Nat.not_le.1 (of_decide_eq_false above)⟩

/-- What is taken first is taken, whatever runs behind. -/
theorem Spends.bind (spends : Spends rank parser) (continuation : α → Parser β) :
    Spends rank (parser >>= continuation) := by
  intro input value rest accepted
  rw [run_bind, Option.bind_eq_some_iff] at accepted
  obtain ⟨⟨found, middle⟩, accepted, _⟩ := accepted
  exact spends _ _ _ accepted

/-- What is taken behind another parser is taken. -/
theorem Spends.after (spends : ∀ value, Spends rank (continuation value))
    (yields : Yields parser shape) : Spends rank (parser >>= continuation) := by
  intro input value rest accepted
  rw [run_bind, Option.bind_eq_some_iff] at accepted
  obtain ⟨⟨found, middle⟩, accepted, accepted'⟩ := accepted
  obtain ⟨_, taken, rfl, _⟩ := yields _ _ _ accepted
  exact (spends _ _ _ _ accepted').of_suffix (List.suffix_append taken middle)

theorem Spends.map (spends : Spends rank parser) (change : α → β) :
    Spends rank (change <$> parser) :=
  spends.bind fun value => pure (change value)

/-- Alternatives take such a piece if each of them does. -/
theorem Spends.orElse (one : Spends rank first) (other : Spends rank second) :
    Spends rank (first <|> second) := by
  intro input value rest accepted
  rw [run_orElse, Option.or_eq_some_iff] at accepted
  rcases accepted with accepted | ⟨_, accepted⟩
  · exact one _ _ _ accepted
  · exact other _ _ _ accepted

/-- A parser that comes back to itself takes such a piece, if a turn of it does. -/
theorem spends_fix {step : Parser α → Parser α}
    (turn : ∀ inner, Spends rank inner → Spends rank (step inner)) : Spends rank (fix step) := by
  have none : Spends rank (fail : Parser α) := fun _ _ _ accepted => nomatch accepted
  exact fun _ _ _ accepted => unroll_induction none turn _ _ _ _ accepted

end Spends

theorem spends_declaration : Spends 0 declaration :=
  .after (fun _ => (spends_lexeme rfl).bind _) yields_openDeclaration

theorem spends_terminatedStatement : Spends 0 terminatedStatement :=
  .after (fun _ => (spends_lexeme rfl).bind _) yields_statement

theorem spends_forClause : Spends 0 (forClause .semicolon) :=
  .after (fun _ => (spends_lexeme rfl).bind _) yields_statement.optional

theorem spends_bracedBody (inner : Parser Expression)
    (above : Lexeme.openBrace.isWithin rank = false) : Spends rank (bracedBody inner) :=
  (spends_lexeme above).bind _

section Expressions

variable {inner : Parser Expression}

theorem spends_body (spends : Spends 0 inner) : Spends 0 (body inner) :=
  (spends_bracedBody inner rfl).orElse (spends.map _)

/-- A block takes a semicolon or a brace. -/
theorem spends_blockWith (spends : Spends 0 inner) : Spends 0 (blockWith inner) := by
  have body := spends_body spends
  have header {expected : Lexeme} (plain : expected.isPlain) {continuation : Unit → Parser Block}
      (others : Spends 0 (continuation ())) : Spends 0 (lexeme expected >>= continuation) :=
    .after (fun _ => others) (yields_lexeme plain)
  refine Spends.orElse (header rfl (.after (fun _ => body.bind _) yields_condition)) ?_
  refine Spends.orElse (header rfl (.after (fun _ => body.bind _) yields_condition)) ?_
  refine Spends.orElse (header rfl (body.bind _)) (Spends.orElse (header rfl (header rfl ?_)) ?_)
  · exact ((spends_declaration.map _).orElse spends_forClause).bind _
  · exact header rfl (.after (fun _ => (spends_bracedBody inner rfl).bind _)
      yields_resources.optional)

end Expressions

/-- An expression takes a semicolon or a brace. -/
theorem spends_expression : Spends 0 expression := by
  refine spends_fix fun inner known => ((spends_blockWith known).map _).orElse ?_
  refine (spends_declaration.map _).orElse ((spends_terminatedStatement.map _).orElse ?_)
  exact (spends_lexeme rfl).map _

end Likeness.Parser
