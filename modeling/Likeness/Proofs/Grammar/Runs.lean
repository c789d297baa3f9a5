import Likeness.Proofs.Grammar.Marks
import Mathlib.Data.List.Forall2

/-!
# What parsers make of marks

The result of a parser does not depend on how far its attempts got, so `Parser.run` drops the reach
and each combinator has one equation. A parser that comes back to itself is turned as often as there
are pieces; `Settles` states that a number of turns above that makes no difference, and is proved one
turn at a time, with the parser itself known on all shorter inputs.

`Opens` states which lexemes a parser can start with, and `Reads` that it reads marks as a value in
front of any token that may follow. Both are kept by the combinators, so that a production is
followed from its parts.
-/

namespace Likeness.Parser

variable {α β : Type}

/-- What a parser accepts, apart from its reach. -/
def run (parser : Parser α) (input : List Piece) : Option (α × List Piece) := (parser input).result

@[simp] theorem run_pure (value : α) (input : List Piece) :
    run (pure value) input = some (value, input) := rfl

/-- One parser runs where the other stopped. -/
@[simp] theorem run_bind (parser : Parser α) (continuation : α → Parser β) (input : List Piece) :
    run (parser >>= continuation) input =
      (run parser input).bind fun (value, rest) => run (continuation value) rest := by
  show (andThen parser continuation input).result = _
  rw [andThen, run]
  cases parser input with
  | mk reach result => cases result <;> rfl

/-- A value is changed where there is one. -/
@[simp] theorem run_map (change : α → β) (parser : Parser α) (input : List Piece) :
    run (change <$> parser) input =
      (run parser input).map fun (value, rest) => (change value, rest) := by
  show run (parser >>= fun value => pure (change value)) input = _
  rw [run_bind]
  cases run parser input <;> rfl

/-- The second parser runs where the first one accepts nothing. -/
@[simp] theorem run_orElse (first second : Parser α) (input : List Piece) :
    run (first <|> second) input = (run first input).or (run second input) := by
  show (otherwise first second input).result = _
  rw [otherwise, run]
  cases first input with
  | mk reach result => cases result <;> rfl

theorem run_optional_none {parser : Parser α} {input : List Piece} (fails : run parser input = none) :
    run (optional parser) input = some (none, input) := by
  simp [optional, fails]

@[simp] theorem run_ofOption (value : Option α) (input : List Piece) :
    run (ofOption value) input = value.map (·, input) := by
  cases value <;> rfl

@[simp] theorem run_ensure_true (input : List Piece) : run (ensure true) input = some ((), input) :=
  rfl

@[simp] theorem run_ensure_false (input : List Piece) : run (ensure false) input = none := rfl

@[simp] theorem run_accept_cons (choose : Piece → Option α) (piece : Piece) (rest : List Piece) :
    run (accept choose) (piece :: rest) = (choose piece).map (·, rest) := by
  rw [run, accept]
  cases choose piece <;> rfl

/-- A lexeme is read if it is the next one. -/
@[simp] theorem run_lexeme_cons (expected : Lexeme) (piece : Piece) (rest : List Piece) :
    run (lexeme expected) (piece :: rest) =
      if piece.lexeme = expected then some ((), rest) else none := by
  rw [lexeme, run_accept_cons]
  split <;> rfl

/-! ## Parsers that come back to themselves -/

/-- The result of a step on an input, as soon as it is turned more often than there are pieces. -/
def Settles (step : Parser α → Parser α) (input : List Piece) (result : Option (α × List Piece)) :
    Prop :=
  ∀ depth, input.length < depth → run (unroll step depth) input = result

/-- A parser that is known to give the settled results of a step on inputs below a length. -/
def Knows (step : Parser α → Parser α) (inner : Parser α) (bound : Nat) : Prop :=
  ∀ input result, input.length < bound → Settles step input result → run inner input = result

variable {step : Parser α → Parser α} {input : List Piece} {result : Option (α × List Piece)}

theorem Settles.run_fix (settles : Settles step input result) : run (fix step) input = result :=
  settles _ (Nat.lt_succ_self _)

theorem knows_fix (step : Parser α → Parser α) (bound : Nat) : Knows step (fix step) bound :=
  fun _ _ _ settles => settles.run_fix

/-- A result settles if one turn gives it with whatever knows the results on shorter inputs. -/
theorem settles_of_turn
    (turn : ∀ inner, Knows step inner input.length → run (step inner) input = result) :
    Settles step input result := by
  intro depth enough
  cases depth with
  | zero => omega
  | succ depth =>
    refine turn (unroll step depth) fun shorter settled less settles => ?_
    exact settles depth (by omega)

/-- What holds where nothing is accepted and is kept by a turn holds after all turns. -/
theorem unroll_induction {property : Parser α → Prop} (start : property fail)
    (turn : ∀ inner, property inner → property (step inner)) (depth : Nat) :
    property (unroll step depth) := by
  induction depth with
  | zero => exact start
  | succ depth ih => exact turn _ ih

/-! ## Repetition -/

/-- One turn of a repetition. -/
def repetition (item : Parser α) (more : Parser (List α)) : Parser (List α) :=
  (do let first ← item; let rest ← more; pure (first :: rest)) <|> pure []

/-- A repetition ends where no item matches. -/
theorem settles_repetition_nil {item : Parser α} (fails : run item input = none) :
    Settles (repetition item) input (some ([], input)) := by
  refine settles_of_turn fun inner _ => ?_
  simp [repetition, fails]

/-- A repetition goes on behind an item that takes something. -/
theorem settles_repetition_cons {item : Parser α} {first : α} {items : List α}
    {rest stop : List Piece} (reads : run item input = some (first, rest))
    (shorter : rest.length < input.length)
    (others : Settles (repetition item) rest (some (items, stop))) :
    Settles (repetition item) input (some (first :: items, stop)) := by
  refine settles_of_turn fun inner knows => ?_
  simp [repetition, reads, knows rest _ shorter others]

theorem run_many_nil {item : Parser α} (fails : run item input = none) :
    run (many item) input = some ([], input) :=
  (settles_repetition_nil fails).run_fix

/-! ## How parsers start -/

/-- The lexeme of the next token. -/
def next? (input : List Piece) : Option Lexeme := input.head?.map Piece.lexeme

/-- A token is none of one lexeme if it is another one. -/
theorem any_eq_false {next : Option Lexeme} {expected : Lexeme} (other : next ≠ some expected) :
    next.any (fun lexeme => decide (lexeme = expected)) = false := by
  cases next with
  | none => rfl
  | some lexeme => exact decide_eq_false fun same => other (congrArg some same)

/-- A token is of neither of two kinds if it is of none of both. -/
theorem any_or_eq_false {next : Option Lexeme} {first first' : Lexeme → Bool}
    (other : next.any (fun lexeme => first lexeme || first' lexeme) = false) :
    next.any first = false ∧ next.any first' = false := by
  cases next with
  | none => exact ⟨rfl, rfl⟩
  | some lexeme => exact Bool.or_eq_false_iff.1 other

/-- A parser that accepts nothing unless the next token is one of the first ones. -/
def Opens (parser : Parser α) (first : Lexeme → Bool) : Prop :=
  ∀ input, (next? input).any first = false → run parser input = none

/-- A piece is accepted only if there is a value in it. -/
theorem opens_accept {choose : Piece → Option α} {first : Lexeme → Bool}
    (refused : ∀ piece, first piece.lexeme = false → choose piece = none) :
    Opens (accept choose) first := by
  intro input other
  cases input with
  | nil => rfl
  | cons piece rest => rw [run_accept_cons, refused piece other, Option.map_none]

theorem opens_lexeme (expected : Lexeme) : Opens (lexeme expected) (· = expected) :=
  opens_accept fun _ other => if_neg (of_decide_eq_false other)

theorem opens_word : Opens word (· = .word) :=
  opens_accept fun _ other => if_neg (of_decide_eq_false other)

/-- A parser may start with more than it has to. -/
theorem Opens.mono {parser : Parser α} {first first' : Lexeme → Bool} (opens : Opens parser first)
    (more : ∀ lexeme, first lexeme → first' lexeme) : Opens parser first' := by
  intro input other
  refine opens input ?_
  cases next : Parser.next? input with
  | none => rfl
  | some lexeme =>
    rw [next] at other
    exact Bool.eq_false_iff.2 fun starts => Bool.eq_false_iff.1 other (more lexeme starts)

/-- One parser before another starts like the first. -/
theorem Opens.bind {parser : Parser α} {first : Lexeme → Bool} (opens : Opens parser first)
    (continuation : α → Parser β) : Opens (parser >>= continuation) first := by
  intro input other
  rw [run_bind, opens input other, Option.bind_none]

/-- Changing values changes nothing at the start. -/
theorem Opens.map {parser : Parser α} {first : Lexeme → Bool} (opens : Opens parser first)
    (change : α → β) : Opens (change <$> parser) first := by
  intro input other
  rw [run_map, opens input other, Option.map_none]

/-- Alternatives start like one of them. -/
theorem Opens.orElse {parser parser' : Parser α} {first first' : Lexeme → Bool}
    (opens : Opens parser first) (opens' : Opens parser' first') :
    Opens (parser <|> parser') fun lexeme => first lexeme || first' lexeme := by
  intro input other
  have neither := any_or_eq_false other
  rw [run_orElse, opens input neither.1, opens' input neither.2, Option.or_none]

theorem opens_fix {first : Lexeme → Bool} (opens : ∀ inner, Opens (step inner) first) :
    Opens (fix step) first := fun input other => opens _ input other

end Likeness.Parser

/-! ## Marks -/

namespace Likeness.Mark

open Likeness.Parser

/-- Each mark gives its own pieces. -/
theorem length_pieces_append (first second : List Mark) :
    (pieces (first ++ second)).length = (pieces first).length + (pieces second).length := by
  induction first with
  | nil => simp
  | cons mark marks ih =>
    cases mark with
    | gap char => simpa using ih
    | token kind lexeme text =>
      simp only [List.cons_append, pieces, List.length_cons, ih]
      omega

/-- The lexeme of the first token among marks. -/
def next? (marks : List Mark) : Option Lexeme := Parser.next? (pieces marks)

variable {marks rest : List Mark}

@[simp] theorem next?_symbol (lexeme : Lexeme) : next? (symbol lexeme :: marks) = some lexeme := rfl

@[simp] theorem next?_word (text : String) :
    next? (word text :: marks) = some (Lexeme.ofWord text) := rfl

/-- Marks with a token among them have the first token of all. -/
theorem next?_append_of_some {lexeme : Lexeme} (found : next? marks = some lexeme)
    (rest : List Mark) : next? (marks ++ rest) = some lexeme := by
  induction marks with
  | nil => contradiction
  | cons mark marks ih =>
    cases mark with
    | gap char => exact ih found
    | token kind lexeme text => exact found

/-- Marks with a token among them give a piece. -/
theorem length_pieces_pos {lexeme : Lexeme} (found : next? marks = some lexeme) :
    0 < (pieces marks).length := by
  rw [next?, Parser.next?] at found
  cases shape : pieces marks with
  | nil => rw [shape] at found; contradiction
  | cons piece rest => simp

@[simp] theorem run_lexeme_symbol (expected found : Lexeme) :
    run (lexeme expected) (pieces (symbol found :: marks)) =
      if found = expected then some ((), pieces marks) else none := by
  rw [symbol, pieces, run_lexeme_cons]

@[simp] theorem run_lexeme_word (expected : Lexeme) (text : String) :
    run (lexeme expected) (pieces (word text :: marks)) =
      if Lexeme.ofWord text = expected then some ((), pieces marks) else none := by
  rw [word, pieces, run_lexeme_cons]

/-- An identifier is read where it stands. -/
theorem run_word {text : String} (identifier : Lexeme.ofWord text = .word) :
    run Parser.word (pieces (word text :: marks)) = some (text, pieces marks) := by
  rw [word, pieces, Parser.word, run_accept_cons, if_pos identifier, String.ofList_toList,
    Option.map_some]

/-! ## Reading -/

variable {α β : Type} {bound : Nat} {parser : Parser α} {follow : Option Lexeme → Prop}
  {value : α}

/-- Marks that a parser reads as a value in front of any token that may follow, as long as all of
the input has at most `bound` pieces. -/
def Reads (bound : Nat) (parser : Parser α) (follow : Option Lexeme → Prop) (marks : List Mark)
    (value : α) : Prop :=
  ∀ rest, (pieces (marks ++ rest)).length ≤ bound → follow (next? rest) →
    run parser (pieces (marks ++ rest)) = some (value, pieces rest)

theorem Reads.mono {follow' : Option Lexeme → Prop} (reads : Reads bound parser follow marks value)
    (fewer : ∀ next, follow' next → follow next) : Reads bound parser follow' marks value :=
  fun rest short follows => reads rest short (fewer _ follows)

theorem Reads.shorten {bound' : Nat} (reads : Reads bound parser follow marks value)
    (fewer : bound' ≤ bound) : Reads bound' parser follow marks value :=
  fun rest short follows => reads rest (Nat.le_trans short fewer) follows

theorem Reads.gap (reads : Reads bound parser follow marks value) (char : Char) :
    Reads bound parser follow (.gap char :: marks) value := reads

/-- A gap behind is passed over. -/
theorem Reads.append_gap (reads : Reads bound parser follow marks value) (char : Char) :
    Reads bound parser follow (marks ++ [Mark.gap char]) value := by
  intro rest short follows
  rw [List.append_assoc] at short ⊢
  exact reads (.gap char :: rest) short follows

/-- Marks that a step comes to read as a value in front of any token that may follow. -/
def Settled (step : Parser α → Parser α) (follow : Option Lexeme → Prop) (marks : List Mark)
    (value : α) : Prop :=
  ∀ rest, follow (next? rest) → Settles step (pieces (marks ++ rest)) (some (value, pieces rest))

/-- Marks are read in the end if one turn reads them. -/
theorem settled_of_reads {step : Parser α → Parser α}
    (turn : ∀ bound inner, Knows step inner bound → Reads bound (step inner) follow marks value) :
    Settled step follow marks value := by
  intro rest follows
  refine settles_of_turn fun inner knows => ?_
  exact turn _ inner knows rest (Nat.le_refl _) follows

theorem Settled.reads_fix {step : Parser α → Parser α} (settled : Settled step follow marks value)
    (bound : Nat) : Reads bound (fix step) follow marks value :=
  fun rest _ follows => (settled rest follows).run_fix

/-- What is read in the end is read by whatever knows the results of the step. -/
theorem Settled.reads {step : Parser α → Parser α} {inner : Parser α}
    (settled : Settled step follow marks value) (knows : Knows step inner (bound + 1)) :
    Reads bound inner follow marks value :=
  fun rest short follows => knows _ _ (Nat.lt_succ_of_le short) (settled rest follows)

/-- No marks with a token among them are read when no piece may be. -/
theorem reads_zero {lexeme : Lexeme} (start : next? marks = some lexeme) :
    Reads 0 parser follow marks value := by
  intro rest short _
  have positive := length_pieces_pos start
  rw [length_pieces_append] at short
  omega

/-- A symbol is read. -/
theorem reads_symbol (expected : Lexeme) :
    Reads bound (lexeme expected) follow [symbol expected] () := by
  intro rest _ _
  rw [List.singleton_append, run_lexeme_symbol, if_pos rfl]

/-- A reserved word is read. -/
theorem reads_keyword {expected : Lexeme} {text : String}
    (reserved : Lexeme.ofWord text = expected) :
    Reads bound (lexeme expected) follow [word text] () := by
  intro rest _ _
  rw [List.singleton_append, run_lexeme_word, if_pos reserved]

/-- An identifier is read. -/
theorem reads_word {text : String} (identifier : Lexeme.ofWord text = .word) :
    Reads bound Parser.word follow [word text] text := by
  intro rest _ _
  rw [List.singleton_append, run_word identifier]

/-- One parser reads behind another. -/
theorem Reads.bind {continuation : α → Parser β} {follow' : Option Lexeme → Prop}
    {marks' : List Mark} {value' : β} (reads : Reads bound parser follow marks value)
    (reads' : Reads bound (continuation value) follow' marks' value')
    (between : ∀ rest, follow' (next? rest) → follow (next? (marks' ++ rest))) :
    Reads bound (parser >>= continuation) follow' (marks ++ marks') value' := by
  intro rest short follows
  rw [List.append_assoc] at short ⊢
  have shorter := short
  rw [length_pieces_append] at shorter
  rw [run_bind, reads _ short (between rest follows), Option.bind_some]
  exact reads' rest (by omega) follows

/-- One parser reads behind another that does not mind what follows. -/
theorem Reads.andThen {continuation : α → Parser β} {follow' : Option Lexeme → Prop}
    {marks' : List Mark} {value' : β} (reads : Reads bound parser (fun _ => True) marks value)
    (reads' : Reads bound (continuation value) follow' marks' value') :
    Reads bound (parser >>= continuation) follow' (marks ++ marks') value' :=
  reads.bind reads' fun _ _ => trivial

/-- One parser reads behind another that takes a piece. -/
theorem Reads.bind_succ {continuation : α → Parser β} {follow' : Option Lexeme → Prop}
    {marks' : List Mark} {value' : β} (reads : Reads (bound + 1) parser follow marks value)
    {lexeme : Lexeme} (start : next? marks = some lexeme)
    (reads' : Reads bound (continuation value) follow' marks' value')
    (between : ∀ rest, follow' (next? rest) → follow (next? (marks' ++ rest))) :
    Reads (bound + 1) (parser >>= continuation) follow' (marks ++ marks') value' := by
  intro rest short follows
  rw [List.append_assoc] at short ⊢
  have shorter := short
  have positive := length_pieces_pos start
  rw [length_pieces_append] at shorter
  rw [run_bind, reads _ short (between rest follows), Option.bind_some]
  exact reads' rest (by omega) follows

/-- Changing the value changes nothing else. -/
theorem Reads.map (reads : Reads bound parser follow marks value) (change : α → β) :
    Reads bound (change <$> parser) follow marks (change value) := by
  intro rest short follows
  rw [run_map, reads rest short follows, Option.map_some]

/-- Succeeding with a changed value changes nothing else. -/
theorem Reads.thenPure (reads : Reads bound parser follow marks value) (change : α → β) :
    Reads bound (do let value ← parser; pure (change value)) follow marks (change value) := by
  intro rest short follows
  rw [run_bind, reads rest short follows]
  rfl

/-- A condition that holds of the value changes nothing else. -/
theorem Reads.ensured {condition : α → Bool} (reads : Reads bound parser follow marks value)
    (holds : condition value) (change : α → β) :
    Reads bound (do
      let value ← parser
      ensure (condition value)
      pure (change value)) follow marks (change value) := by
  intro rest short follows
  simp [reads rest short follows, holds]

/-- What the first alternative reads is read. -/
theorem Reads.orElse (reads : Reads bound parser follow marks value) (other : Parser α) :
    Reads bound (parser <|> other) follow marks value := by
  intro rest short follows
  rw [run_orElse, reads rest short follows, Option.some_or]

/-- Marks on which a parser fails, whatever follows of what may follow. -/
def Fails (bound : Nat) (parser : Parser α) (follow : Option Lexeme → Prop) (marks : List Mark) :
    Prop :=
  ∀ rest, (pieces (marks ++ rest)).length ≤ bound → follow (next? rest) →
    run parser (pieces (marks ++ rest)) = none

/-- What only the second alternative reads is read. -/
theorem Fails.orElse {other : Parser α} (fails : Fails bound parser follow marks)
    (reads : Reads bound other follow marks value) :
    Reads bound (parser <|> other) follow marks value := by
  intro rest short follows
  rw [run_orElse, fails rest short follows, Option.none_or, reads rest short follows]

/-- A parser fails on marks that it cannot start with. -/
theorem fails_of_opens {first : Lexeme → Bool} (opens : Opens parser first) {lexeme : Lexeme}
    (start : next? marks = some lexeme) (other : first lexeme = false) :
    Fails bound parser follow marks := by
  intro rest _ _
  refine opens _ ?_
  have found := next?_append_of_some start rest
  rw [next?] at found
  rw [found]
  exact other

/-- What the first alternative cannot start with is left to the second. -/
theorem Reads.otherwise {other : Parser α} (reads : Reads bound other follow marks value)
    {first : Lexeme → Bool} (opens : Opens parser first) {lexeme : Lexeme}
    (start : next? marks = some lexeme) (different : first lexeme = false) :
    Reads bound (parser <|> other) follow marks value :=
  (fails_of_opens opens start different).orElse reads

/-- What starts with another lexeme than the first alternative is left to the second. -/
theorem Reads.unless {expected : Lexeme} {continuation : Unit → Parser α} {other : Parser α}
    (reads : Reads bound other follow marks value) {found : Lexeme}
    (start : next? marks = some found) (different : found ≠ expected) :
    Reads bound ((lexeme expected >>= continuation) <|> other) follow marks value :=
  reads.otherwise ((opens_lexeme expected).bind _) start (decide_eq_false different)

theorem Reads.optional (reads : Reads bound parser follow marks value) :
    Reads bound (Parser.optional parser) follow marks (some value) :=
  (reads.map some).orElse _

theorem fails_nil {first : Lexeme → Bool} (opens : Opens parser first) :
    Fails bound parser (fun next => next.any first = false) [] :=
  fun _ _ other => opens _ other

/-- Whatever knows the results of a step fails in front of what no turn of it can start with. -/
theorem fails_of_knows {step : Parser α → Parser α} {inner : Parser α} {first : Lexeme → Bool}
    (knows : Knows step inner (bound + 1)) (opens : ∀ inner, Opens (step inner) first) :
    Fails bound inner (fun next => next.any first = false) [] :=
  fun _ short other => knows _ none (Nat.lt_succ_of_le short)
    (settles_of_turn fun inner _ => opens inner _ other)

/-- Marks on which a parser fails may be followed by others that may follow. -/
theorem Fails.append {marks' : List Mark} (fails : Fails bound parser follow marks)
    (between : ∀ rest, follow (next? (marks' ++ rest))) (follow' : Option Lexeme → Prop) :
    Fails bound parser follow' (marks ++ marks') := by
  intro rest short _
  rw [List.append_assoc] at short ⊢
  exact fails _ short (between rest)

/-- What fails makes all that stands behind it fail. -/
theorem Fails.bind (fails : Fails bound parser follow marks) (continuation : α → Parser β) :
    Fails bound (parser >>= continuation) follow marks := by
  intro rest short follows
  rw [run_bind, fails rest short follows, Option.bind_none]

theorem Fails.optional (fails : Fails bound parser follow []) :
    Reads bound (Parser.optional parser) follow [] none :=
  fun rest short follows => run_optional_none (fails rest short follows)

/-- Items that are spelled one after the other are read one after the other, up to what ends the
last of them and is no item. -/
theorem reads_many {item : Parser α} {ends : Option Lexeme → Prop} {items : List α}
    {spelled : List (List Mark)} (fails : Fails bound item ends [])
    (reads : List.Forall₂ (fun value marks => (∃ lexeme, next? marks = some lexeme ∧
      follow (some lexeme)) ∧ Reads bound item follow marks value) items spelled) :
    Reads bound (many item) (fun next => follow next ∧ ends next) spelled.flatten items := by
  intro rest short stops
  show run (fix (repetition item)) _ = _
  refine Settles.run_fix ?_
  induction reads with
  | nil => exact settles_repetition_nil (fails rest short stops.2)
  | @cons value marks items spelled head tail ih =>
    obtain ⟨⟨lexeme, start, _⟩, read⟩ := head
    -- Behind an item stands the next one, or what ends the list.
    have follows : follow (next? (spelled.flatten ++ rest)) := by
      cases tail with
      | nil => exact stops.1
      | cons other _ =>
        obtain ⟨⟨lexeme, start, starts⟩, _⟩ := other
        rw [List.flatten_cons, List.append_assoc, next?_append_of_some start]
        exact starts
    have positive := length_pieces_pos start
    rw [List.flatten_cons, List.append_assoc] at short ⊢
    have shorter := short
    rw [length_pieces_append marks] at shorter
    refine settles_repetition_cons (read _ short follows) ?_ (ih (by omega))
    rw [length_pieces_append marks]
    omega

/-- What stands between the items of a list is written in front of all but the first. -/
theorem intercalate_cons (glue marks : List Mark) (spelled : List (List Mark)) :
    glue.intercalate (marks :: spelled) = marks ++ (spelled.map (glue ++ ·)).flatten := by
  induction spelled generalizing marks with
  | nil => simp [List.intercalate]
  | cons other spelled ih =>
    rw [List.map_cons, List.flatten_cons, List.append_assoc, ← ih other]
    simp [List.intercalate]

/-- Items with separators between them are read, up to what ends the last of them and is no
separator. -/
theorem reads_separated {separator : Lexeme} {item : Parser α} {items : List α}
    {spelled : List (List Mark)} {glue : List Mark}
    (splits : Reads bound (lexeme separator) (fun _ => True) glue ())
    (start : next? glue = some separator) (between : follow (some separator))
    (reads : List.Forall₂ (fun value marks => Reads bound item follow marks value) items spelled)
    (nonempty : items ≠ []) :
    Reads bound (separated separator item) (fun next => follow next ∧ next ≠ some separator)
      (glue.intercalate spelled) items := by
  cases reads with
  | nil => contradiction
  | @cons value marks items spelled head tail =>
    have others : List.Forall₂ (fun value marks => (∃ lexeme, next? marks = some lexeme ∧
        follow (some lexeme)) ∧ Reads bound (do lexeme separator; item) follow marks value) items
        (spelled.map (glue ++ ·)) := by
      rw [List.forall₂_map_right_iff]
      refine tail.imp fun value marks reads => ?_
      exact ⟨⟨separator, next?_append_of_some start marks, between⟩,
        splits.andThen reads⟩
    have repeated := reads_many (fails_nil ((opens_lexeme separator).bind fun _ => item)) others
    have ended : Reads bound (many do lexeme separator; item)
        (fun next => follow next ∧ next ≠ some separator) (spelled.map (glue ++ ·)).flatten items :=
      repeated.mono fun next follows => ⟨follows.1, any_eq_false follows.2⟩
    rw [intercalate_cons]
    refine head.bind (ended.thenPure (value :: ·)) fun rest follows => ?_
    cases spelled with
    | nil => exact follows.1
    | cons marks spelled =>
      rw [List.map_cons, List.flatten_cons, List.append_assoc, List.append_assoc,
        next?_append_of_some start]
      exact between

/-- An item between delimiters is read; the opening one leaves one piece less. -/
theorem Reads.delimited {opening closing : Lexeme} (reads : Reads bound parser follow marks value)
    (closes : follow (some closing)) (follow' : Option Lexeme → Prop) :
    Reads (bound + 1) (Parser.delimited opening closing parser) follow'
      (symbol opening :: marks ++ [symbol closing]) value := by
  intro rest short _
  rw [List.cons_append, List.cons_append, List.append_assoc, List.singleton_append] at short ⊢
  have less : (pieces (marks ++ symbol closing :: rest)).length ≤ bound := by
    simpa [symbol, pieces] using short
  simp [Parser.delimited, reads _ less closes]

end Likeness.Mark
