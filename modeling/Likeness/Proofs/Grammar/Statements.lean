import Likeness.Proofs.Grammar.Levels

/-!
# Statements are read back

`Statement.Written` states what marks of a statement are good for: they write its label, they start
like a statement and not like a declaration, and they are read as the statement at every level that
it is tight enough for. Every well-formed statement has such marks, by induction on how it is built.
-/

namespace Likeness

open Mark

/-- A token that neither goes on with a type nor is the name behind it. -/
def EndsName (next : Option Lexeme) : Prop := next ≠ some .word ∧ EndsType next
deriving Decidable

/-- Marks that stand for a statement. -/
structure Statement.Written (value : Statement) (marks : List Mark) : Prop where
  spells : Spells marks value.label.toList
  starts : ∃ lexeme, next? marks = some lexeme ∧ lexeme.startsStatement
  undeclared : ∀ (bound : Nat) {α : Type} (continuation : String → String → Parser α),
    Fails bound (do
      let type ← Parser.typeName
      let name ← Parser.word
      continuation type name) EndsName marks
  stands : ∀ bound inner, Parser.Knows Parser.statementStep inner bound →
    ∀ depth ≤ value.level, Stands bound inner marks value depth

/-- Marks that stand for a statement come to be read as it. -/
theorem Statement.Written.settled {value : Statement} {marks : List Mark}
    (written : value.Written marks) : Settled Parser.statementStep (Loose 0) marks value :=
  settled_of_reads fun bound inner knows =>
    (written.stands bound inner knows 0 (Nat.zero_le _)).reads

/-- What starts with no word is no declaration. -/
theorem Mark.undeclared_of_next? {marks : List Mark} {lexeme : Lexeme}
    (start : next? marks = some lexeme) (other : lexeme ≠ .word) (bound : Nat) {α : Type}
    (continuation : String → String → Parser α) :
    Fails bound (do
      let type ← Parser.typeName
      let name ← Parser.word
      continuation type name) EndsName marks := by
  have opens : Parser.Opens Parser.typeName (· = .word) :=
    Parser.opens_fix fun _ => Parser.opens_dottedName.bind _
  exact fails_of_opens (opens.bind _) start (decide_eq_false other)

/-- A variable is written by its name. -/
theorem IsDottedName.exists_written {name : String} (dotted : IsDottedName name) :
    ∃ marks, (Statement.reference name).Written marks := by
  obtain ⟨marks, spells, start, read⟩ := dotted.exists_marks
  refine ⟨marks, spells, ⟨_, start, rfl⟩, ?_, ?_⟩
  · intro bound α continuation rest short ends
    have type := (settled_name read).reads_fix bound rest short ends.2
    have noName : Parser.run Parser.word (pieces rest) = none :=
      Parser.opens_word _ (Parser.any_eq_false ends.1)
    show Parser.run (Parser.fix Parser.typeStep >>= _) _ = none
    simp [type, noName]
  · intro bound inner _ depth looser
    refine stands_of_primary ?_ start (by decide) looser
    refine Reads.otherwise ?_ (((Parser.opens_lexeme .openParen).bind _).map _) start rfl
    refine Reads.otherwise ?_ (Parser.opens_literal.map _) start rfl
    refine ((read bound).map _).mono fun next loose => ?_
    rintro rfl
    contradiction

/-- A literal is written by its label. -/
theorem Literal.WellFormed.exists_written {value : Literal} (writable : value.WellFormed) :
    ∃ marks, (Statement.literal value).Written marks := by
  obtain ⟨marks, spells, ⟨lexeme, start, starts⟩, read⟩ := writable.exists_marks
  have other {lexeme' : Lexeme} (different : lexeme'.startsLiteral = false) : lexeme ≠ lexeme' := by
    rintro rfl
    rw [different] at starts
    contradiction
  refine ⟨marks, spells, ⟨lexeme, start, ?_⟩, undeclared_of_next? start (other rfl), ?_⟩
  · simp [Lexeme.startsStatement, starts]
  · intro bound inner _ depth looser
    refine stands_of_primary ?_ start ⟨other rfl, other rfl⟩ looser
    refine Reads.otherwise ?_ (((Parser.opens_lexeme .openParen).bind _).map _) start
      (decide_eq_false (other rfl))
    exact (((read bound).map _).mono fun _ _ => trivial).orElse _

/-! ## Parentheses -/

/-- Marks in parentheses. -/
def Mark.parens (marks : List Mark) : List Mark :=
  symbol .openParen :: marks ++ [symbol .closeParen]

/-- Marks in parentheses are a phrase. -/
theorem Mark.spells_parens {marks : List Mark} {text : List Char} (written : write marks = text)
    (lexes : ∀ after, Closed after → Lexes marks after) :
    Spells (parens marks) ('(' :: text ++ [')']) where
  written := by
    rw [parens, List.cons_append, write_cons, write_append, written]
    rfl
  opens := ⟨'(', rfl, by decide⟩
  lexes := by
    intro after _
    rw [parens, List.cons_append, Lexes, lexes_append]
    exact ⟨cuts_alone rfl _, lexes _ (closed_cons rfl _), cuts_alone rfl _, trivial⟩

/-- The labels of several statements are those of each. -/
theorem Statement.labels_eq_map (items : List Statement) : labels items = items.map label := by
  induction items with
  | nil => rfl
  | cons item items ih => rw [labels, ih, List.map_cons]

/-- The items of a list in parentheses are read, none or more. -/
theorem Mark.reads_items {bound : Nat} {inner : Parser Statement} {items : List Statement}
    {spelled : List (List Mark)} (knows : Parser.Knows Parser.statementStep inner (bound + 1))
    (each : List.Forall₂ Statement.Written items spelled) :
    Reads bound (do
      let items ← Parser.optional (Parser.separated .comma inner)
      pure (items.getD [])) (· = some .closeParen) (comma.intercalate spelled) items := by
  cases each with
  | nil =>
    have fails := (fails_of_knows knows Parser.opens_statementStep).bind fun first => do
      let rest ← Parser.many (do Parser.lexeme .comma; inner)
      pure (first :: rest)
    refine (fails.optional.thenPure fun items => items.getD []).mono ?_
    rintro _ rfl
    rfl
  | @cons item marks items spelled head tail =>
    have all : List.Forall₂ (fun item marks => Reads bound inner (Loose 0) marks item)
        (item :: items) (marks :: spelled) :=
      (List.Forall₂.cons head tail).imp fun _ _ written => written.settled.reads knows
    have read := reads_separated (reads_spaced bound .comma) rfl (by decide) all (by simp)
    refine (read.optional.thenPure fun items => items.getD []).mono ?_
    rintro _ rfl
    decide

/-- Items with commas between them write their labels and are cut as they are. -/
theorem Mark.spells_items {items : List Statement} {spelled : List (List Mark)}
    (each : List.Forall₂ Statement.Written items spelled) :
    write (comma.intercalate spelled) =
        (String.intercalate ", " (Statement.labels items)).toList ∧
      ∀ after, Closed after → Lexes (comma.intercalate spelled) after := by
  by_cases empty : items = []
  · subst empty
    cases each
    exact ⟨rfl, fun _ _ => trivial⟩
  · have joined := spells_intercalate (each.imp fun _ _ written => written.spells) empty
      comma_between
    refine ⟨?_, joined.lexes⟩
    rw [joined.written, String.toList_intercalate, Statement.labels_eq_map, List.map_map]
    rfl

/-- A list in parentheses is written by its items. -/
theorem Statement.exists_written_group {items : List Statement}
    (each : ∀ item ∈ items, ∃ marks, item.Written marks) :
    ∃ marks, (Statement.group items).Written marks := by
  obtain ⟨spelled, all⟩ := exists_forall₂ each
  obtain ⟨written, lexes⟩ := spells_items all
  refine ⟨parens (comma.intercalate spelled), ?_, ⟨_, rfl, rfl⟩,
    undeclared_of_next? (next?_symbol .openParen) (by decide), ?_⟩
  · have spells := spells_parens written lexes
    simpa [label] using spells
  · intro bound inner knows depth looser
    refine stands_of_primary (Reads.orElse (Reads.map ?_ _) _) (next?_symbol .openParen) (by decide)
      looser
    cases bound with
    | zero => exact reads_zero rfl
    | succ bound => exact (reads_items knows all).delimited rfl _

/-! ## Operators -/

/-- An operator in front of its operand is read. -/
theorem Mark.reads_prefixed {bound : Nat} {operand : Parser Statement}
    {follow : Option Lexeme → Prop} {marks : List Mark} {value : Statement} {unary : UnarySymbol}
    (reads : Reads bound operand follow marks value) (accepted : unary.accepts value)
    (token : Lexeme) :
    Reads bound (Parser.prefixed token unary operand) follow (symbol token :: marks)
      (.unary unary value) := by
  intro rest short follows
  have shorter : (pieces (marks ++ rest)).length ≤ bound := Nat.le_of_succ_le short
  rw [List.cons_append]
  simp [Parser.prefixed, reads rest shorter follows, Statement.unary?, accepted]

/-- A negation is written by its operand. -/
theorem Statement.Written.negation {operand : Statement} {marks : List Mark}
    (written : operand.Written marks) (tight : 6 ≤ operand.level) :
    (Statement.unary .not operand).Written (symbol .bang :: marks) where
  spells := by
    refine ⟨?_, ⟨'!', ?_, by decide⟩, fun after closed => ⟨?_, written.spells.lexes _ closed⟩⟩
    · rw [write_cons, written.spells.written, label, String.toList_append]
      rfl
    · rw [label, String.toList_append]
      rfl
    · rw [written.spells.written]
      exact cuts_meetsEquals rfl (written.spells.head?_ne _)
  starts := ⟨_, rfl, rfl⟩
  undeclared := undeclared_of_next? (next?_symbol .bang) (by decide)
  stands := by
    intro bound inner knows depth looser
    refine stands_of_unary ?_ looser
    rw [Parser.unary_eq]
    exact (reads_prefixed (written.stands bound inner knows 6 tight).reads rfl .bang).orElse _

/-- An increment is written by its variable. -/
theorem Statement.Written.increment {name : String} {marks : List Mark}
    (written : (Statement.reference name).Written marks) :
    (Statement.unary .preIncrement (.reference name)).Written (symbol .increment :: marks) where
  spells := by
    refine ⟨?_, ⟨'+', ?_, by decide⟩, fun after closed =>
      ⟨cuts_alone rfl _, written.spells.lexes _ closed⟩⟩
    · rw [write_cons, written.spells.written, label, String.toList_append]
      rfl
    · rw [label, String.toList_append]
      rfl
  starts := ⟨_, rfl, rfl⟩
  undeclared := undeclared_of_next? (next?_symbol .increment) (by decide)
  stands := by
    intro bound inner knows depth looser
    refine stands_of_unary ?_ looser
    rw [Parser.unary_eq]
    refine Reads.unless ?_ (next?_symbol .increment) (by decide)
    exact (reads_prefixed (written.stands bound inner knows 6 (Nat.le_succ 6)).reads rfl _).orElse _

section

variable {binary : BinarySymbol} {left right : Statement} {marks marks' : List Mark}

/-- Statements with an operator between them are a phrase. -/
theorem Statement.Written.spells_binary (first : left.Written marks) (second : right.Written marks') :
    Spells (marks ++ (operator binary ++ marks')) (Statement.binary binary left right).label.toList := by
  have shape : (Statement.binary binary left right).label.toList =
      left.label.toList ++ (' ' :: binary.spelling.toList ++ [' '] ++ right.label.toList) := by
    simp [label]
  rw [shape]
  exact first.spells.operator binary second.spells

/-- An operator ends what could be a declaration. -/
theorem Statement.Written.undeclared_binary (first : left.Written marks) (bound : Nat) {α : Type}
    (continuation : String → String → Parser α) :
    Fails bound (do
      let type ← Parser.typeName
      let name ← Parser.word
      continuation type name) EndsName (marks ++ (operator binary ++ marks')) := by
  refine (first.undeclared bound continuation).append (fun rest => ?_) _
  rw [List.append_assoc, next?_operator]
  cases binary <;> decide

/-- An operation is written by its operands. -/
theorem Statement.Written.operation (first : left.Written marks) (second : right.Written marks')
    (between : binary ≠ .assign) (onLeft : binary.level ≤ left.level)
    (onRight : binary.level < right.level) :
    (Statement.binary binary left right).Written (marks ++ (operator binary ++ marks')) where
  spells := first.spells_binary second
  starts := by
    obtain ⟨lexeme, start, starts⟩ := first.starts
    exact ⟨lexeme, next?_append_of_some start _, starts⟩
  undeclared := first.undeclared_binary
  stands := by
    intro bound inner knows depth looser
    have levels := BinarySymbol.level_between between
    have chain := (first.stands bound inner knows _ onLeft).chains levels.1 levels.2
    have read := reads_operations between (second.stands bound inner knows _ onRight).reads
    have chain' := chain.step read (next?_operator binary marks') binary.loose_lexeme
    exact (chain'.stands levels.1 levels.2).below (Nat.le_succ_of_le levels.2) looser

/-- An assignment is written by its variable and its value. -/
theorem Statement.Written.assignment {name : String}
    (first : (Statement.reference name).Written marks) (second : right.Written marks') :
    (Statement.binary .assign (.reference name) right).Written
      (marks ++ (operator .assign ++ marks')) where
  spells := first.spells_binary second
  starts := by
    obtain ⟨lexeme, start, starts⟩ := first.starts
    exact ⟨lexeme, next?_append_of_some start _, starts⟩
  undeclared := first.undeclared_binary
  stands := by
    intro bound inner knows depth looser
    obtain ⟨lexeme, start, _⟩ := first.starts
    cases Nat.le_zero.1 looser
    refine ⟨?_, fun positive => absurd positive (by decide)⟩
    cases bound with
    | zero => exact reads_zero (next?_append_of_some start _)
    | succ bound =>
      -- The variable takes a piece, so the parser is known on all that stands behind it.
      have target := (first.stands (bound + 1) inner knows 1 (Nat.succ_pos 6)).reads
      have stored := second.settled.reads knows
      have sign : Reads bound (Parser.lexeme .assign) (fun _ => True) (operator .assign) () :=
        (reads_spaced bound .assign).gap ' '
      have read : Reads bound (Parser.assigned inner (.reference name)) (Loose 0)
          (operator .assign ++ marks') (.binary .assign (.reference name) right) :=
        sign.andThen (stored.thenPure _)
      refine target.bind_succ start (read.orElse _) fun rest _ => ?_
      rw [List.append_assoc, next?_operator]
      exact BinarySymbol.loose_lexeme .assign

end

/-- Every well-formed statement is written by some marks. -/
theorem Statement.WellFormed.exists_written {value : Statement} (wellFormed : value.WellFormed) :
    ∃ marks, value.Written marks := by
  induction wellFormed with
  | negation tight _ ih =>
    obtain ⟨marks, written⟩ := ih
    exact ⟨_, written.negation tight⟩
  | increment target =>
    obtain ⟨marks, written⟩ := target.exists_written
    exact ⟨_, written.increment⟩
  | assignment target _ ih =>
    obtain ⟨marks, first⟩ := target.exists_written
    obtain ⟨marks', second⟩ := ih
    exact ⟨_, first.assignment second⟩
  | operation operator onLeft onRight _ _ ihLeft ihRight =>
    obtain ⟨marks, first⟩ := ihLeft
    obtain ⟨marks', second⟩ := ihRight
    exact ⟨_, first.operation second operator onLeft onRight⟩
  | literal writable => exact writable.exists_written
  | reference dotted => exact dotted.exists_written
  | group _ ih => exact exists_written_group ih

end Likeness
