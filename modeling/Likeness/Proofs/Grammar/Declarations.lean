import Likeness.Proofs.Grammar.Statements

/-!
# Declarations are read back

A declaration is written as its qualifiers, its type, its name and its initial value, and read as the
same declaration. The parser of declarations is tried before that of statements, so it is shown to
fail on what a statement is written by.
-/

namespace Likeness

open Mark

/-! ## Phrases with blanks between them -/

namespace Mark

variable {marks marks' : List Mark} {text text' : List Char}

/-- Phrases with a blank between them are a phrase. -/
theorem Spells.spaced (first : Spells marks text) (second : Spells marks' text') :
    Spells (marks ++ .gap ' ' :: marks') (text ++ ' ' :: text') := by
  refine first.append ?_ fun after closed => ⟨closed_cons rfl _, rfl, second.lexes after closed⟩
  rw [write_cons, second.written]
  rfl

/-- A symbol that is part of no longer one is a phrase. -/
theorem spells_alone (lexeme : Lexeme) (alone : standsAlone lexeme) :
    Spells [symbol lexeme] lexeme.spelling where
  written := List.append_nil _
  opens := by cases lexeme <;> cases alone <;> exact ⟨_, rfl, by decide⟩
  lexes := fun after _ => ⟨cuts_alone alone _, trivial⟩

theorem Spells.semicolon (spells : Spells marks text) :
    Spells (marks ++ [symbol .semicolon]) (text ++ [';']) :=
  spells.append rfl fun _ _ => ⟨closed_cons rfl _, cuts_alone rfl _, trivial⟩

end Mark

/-! ## Qualifiers -/

/-- Only the lexemes of qualifiers stand for one. -/
theorem Qualifier.ofLexeme?_eq_none {lexeme : Lexeme} (other : lexeme.isQualifier = false) :
    ofLexeme? lexeme = none := by
  revert other
  cases lexeme <;> decide

theorem Parser.opens_qualifier : Opens qualifier Lexeme.isQualifier :=
  opens_accept fun _ other => Qualifier.ofLexeme?_eq_none other

/-- The marks of qualifiers. -/
def Mark.qualified (qualifiers : List Qualifier) : List Mark :=
  (qualifiers.map fun qualifier => [word qualifier.spelling, .gap ' ']).flatten

/-- The word of a qualifier is a reserved one that stands for it. -/
theorem Qualifier.ofLexeme?_ofWord (qualifier : Qualifier) :
    Lexeme.spellWord qualifier.spelling.toList ∧
      ofLexeme? (Lexeme.ofWord qualifier.spelling) = some qualifier := by
  cases qualifier <;> decide

/-- Qualifiers in front of a phrase make a phrase. -/
theorem Mark.Spells.qualified {marks : List Mark} {text : List Char} (spells : Spells marks text)
    (qualifiers : List Qualifier) :
    Spells (Mark.qualified qualifiers ++ marks)
      ((String.join (qualifiers.map fun qualifier => qualifier.spelling ++ " ")).toList ++ text) := by
  induction qualifiers with
  | nil => exact spells
  | cons qualifier qualifiers ih =>
    have shape := (spells_word _ qualifier.ofLexeme?_ofWord.1).spaced ih
    simpa [Mark.qualified, String.join_cons] using shape

/-- Qualifiers are read in front of anything else. -/
theorem Mark.reads_qualified (bound : Nat) (qualifiers : List Qualifier) :
    Reads bound (Parser.many Parser.qualifier) (fun next => next.any Lexeme.isQualifier = false)
      (Mark.qualified qualifiers) qualifiers := by
  have each : List.Forall₂ (fun qualifier marks => (∃ lexeme, next? marks = some lexeme ∧ True) ∧
      Reads bound Parser.qualifier (fun _ => True) marks qualifier) qualifiers
      (qualifiers.map fun qualifier => [word qualifier.spelling, .gap ' ']) := by
    rw [List.forall₂_map_right_iff, List.forall₂_same]
    intro qualifier _
    refine ⟨⟨_, rfl, trivial⟩, fun rest _ _ => ?_⟩
    simp [word, pieces, Parser.qualifier, qualifier.ofLexeme?_ofWord.2]
  exact (reads_many (fails_nil Parser.opens_qualifier) each).mono fun next other => ⟨trivial, other⟩

/-! ## Declarations -/

/-- A lexeme that a declaration can start with. -/
def Lexeme.startsDeclaration (lexeme : Lexeme) : Bool := lexeme.isQualifier || lexeme = .word

/-- Marks that stand for a declaration without its semicolon. -/
structure Declaration.Written (declared : Declaration) (marks : List Mark) : Prop where
  spells : Spells marks declared.label.toList
  starts : ∃ lexeme, next? marks = some lexeme ∧ lexeme.startsDeclaration
  reads : ∀ bound, Reads bound Parser.openDeclaration (Loose 0) marks declared

/-- The parser of an initial value. -/
def Parser.initializer : Parser (Option Statement) := optional do lexeme .assign; statement

/-- How an initial value is written. -/
def Declaration.initializerLabel : Option Statement → String
  | some value => " = " ++ value.label
  | none => ""

/-- The label of a declaration, part by part. -/
theorem Declaration.toList_label (declared : Declaration) : declared.label.toList =
    (String.join (declared.qualifiers.map fun qualifier => qualifier.spelling ++ " ")).toList ++
      (declared.typeText.toList ++
        ' ' :: (declared.name.toList ++ (initializerLabel declared.initializer).toList)) := by
  rw [label]
  cases declared.initializer <;> simp [initializerLabel]

/-- A name is written with its initial value behind it, if it has one. -/
theorem Declaration.exists_marks_initializer {name : String} (identifier : IsIdentifier name)
    {initializer : Option Statement} (wellFormed : ∀ value ∈ initializer, value.WellFormed) :
    ∃ marks, Spells (word name :: marks)
        (name.toList ++ (initializerLabel initializer).toList) ∧
      ∀ bound, Reads bound Parser.initializer (Loose 0) marks initializer := by
  cases initializer with
  | none =>
    refine ⟨[], by simpa [initializerLabel] using spells_word name identifier.1, fun bound => ?_⟩
    refine Reads.mono (Fails.optional (fails_nil ((Parser.opens_lexeme .assign).bind _))) ?_
    intro next loose
    refine Parser.any_eq_false ?_
    rintro rfl
    contradiction
  | some value =>
    obtain ⟨marks, written⟩ := (wellFormed value rfl).exists_written
    refine ⟨operator .assign ++ marks, ?_, fun bound => ?_⟩
    · simpa [initializerLabel, BinarySymbol.spelling] using
        (spells_word name identifier.1).operator .assign written.spells
    · have sign : Reads bound (Parser.lexeme .assign) (fun _ => True) (operator .assign) () :=
        (reads_spaced bound .assign).gap ' '
      exact (sign.andThen (written.settled.reads_fix bound)).optional

/-- Every well-formed declaration is written by some marks. -/
theorem Declaration.WellFormed.exists_written {declared : Declaration}
    (wellFormed : declared.WellFormed) : ∃ marks, declared.Written marks := by
  obtain ⟨marks, spells, start, settled⟩ := wellFormed.typeText.exists_marks
  obtain ⟨marks', spells', reads⟩ := exists_marks_initializer wellFormed.name
    wellFormed.initializer
  refine ⟨qualified declared.qualifiers ++ (marks ++ .gap ' ' :: word declared.name :: marks'),
    ?_, ?_, fun bound => ?_⟩
  · rw [toList_label]
    exact (spells.spaced spells').qualified declared.qualifiers
  · cases declared.qualifiers with
    | nil => exact ⟨.word, next?_append_of_some start _, rfl⟩
    | cons qualifier qualifiers =>
      refine ⟨Lexeme.ofWord qualifier.spelling, rfl, ?_⟩
      cases qualifier <;> decide
  · have name : Reads bound Parser.word (fun _ => True) [.gap ' ', word declared.name] declared.name :=
      (reads_word wellFormed.name.2).gap ' '
    refine (reads_qualified bound declared.qualifiers).bind ((settled.reads_fix bound).bind
      (name.andThen ((reads bound).thenPure _)) fun rest _ => ?_) fun rest _ => ?_
    · show EndsType (some (Lexeme.ofWord declared.name))
      rw [wellFormed.name.2]
      decide
    · rw [List.append_assoc, next?_append_of_some start]
      rfl

/-- A declaration with its semicolon is read. -/
theorem Declaration.Written.reads_closed {declared : Declaration} {marks : List Mark}
    (written : declared.Written marks) (bound : Nat) (follow : Option Lexeme → Prop) :
    Reads bound Parser.declaration follow (marks ++ [symbol .semicolon]) declared :=
  (written.reads bound).bind ((reads_symbol .semicolon).thenPure fun _ => declared) fun _ _ => rfl

/-- A declaration starts with a qualifier or a word. -/
theorem Parser.opens_openDeclaration : Opens openDeclaration Lexeme.startsDeclaration := by
  intro input other
  have neither := any_or_eq_false other
  have noType : run typeName input = none :=
    opens_fix (fun _ => opens_dottedName.bind _) input neither.2
  simp [openDeclaration, run_many_nil (opens_qualifier input neither.1), noType]

/-- What a statement is written by is no declaration. -/
theorem Statement.Written.fails_openDeclaration {value : Statement} {marks : List Mark}
    (written : value.Written marks) (bound : Nat) :
    Fails bound Parser.openDeclaration EndsName marks := by
  intro rest short ends
  obtain ⟨lexeme, start, starts⟩ := written.starts
  have noQualifier : lexeme.isQualifier = false := by
    revert starts
    cases lexeme <;> decide
  have next : (next? (marks ++ rest)).any Lexeme.isQualifier = false := by
    rw [next?_append_of_some start]
    exact noQualifier
  have unqualified : Parser.run (Parser.many Parser.qualifier) (pieces (marks ++ rest)) =
      some ([], pieces (marks ++ rest)) := reads_qualified bound [] _ short next
  rw [Parser.openDeclaration, Parser.run_bind, unqualified, Option.bind_some]
  exact written.undeclared bound _ rest short ends

end Likeness
