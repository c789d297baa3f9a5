import Likeness.Proofs.Grammar.Canonical
import Likeness.Proofs.Grammar.Runs

/-!
# Names and types are read back

`Mark.Spells` states that marks write a text and are cut as they are in front of anything that ends a
phrase: a blank, a bracket, a comma or a semicolon. Dotted names and types in normal form are spelled
by marks that the parsers of names and types read as the same text.
-/

namespace Likeness

namespace Mark

/-! ## Phrases -/

/-- A character that can stand behind a phrase: it goes on with no word, number or symbol. -/
def closes (char : Char) : Bool := !Lexeme.continuesWord char && char ≠ '.' && char ≠ '='

/-- A text that can stand behind a phrase. -/
def Closed (after : List Char) : Prop := ∀ next ∈ after.head?, closes next

/-- Marks that write a text and are cut as they are, whatever phrase they stand in. -/
structure Spells (marks : List Mark) (text : List Char) : Prop where
  written : write marks = text
  opens : ∃ first, text.head? = some first ∧ first ≠ '='
  lexes : ∀ after, Closed after → Lexes marks after

/-- A phrase is not empty. -/
theorem Spells.ne_nil {marks : List Mark} {text : List Char} (spells : Spells marks text) :
    text ≠ [] := by
  obtain ⟨first, found, _⟩ := spells.opens
  rintro rfl
  contradiction

/-- A phrase does not begin with an equals sign, whatever follows. -/
theorem Spells.head?_ne {marks : List Mark} {text : List Char} (spells : Spells marks text)
    (after : List Char) : (text ++ after).head? ≠ some '=' := by
  obtain ⟨first, found, other⟩ := spells.opens
  rw [List.head?_append_of_ne_nil _ spells.ne_nil, found]
  rintro ⟨⟩
  contradiction

/-- A text that begins with a closing character can stand behind a phrase. -/
theorem closed_cons {char : Char} (closing : closes char) (rest : List Char) :
    Closed (char :: rest) := by
  rintro _ ⟨⟩
  exact closing

/-- A text that can stand behind a word. -/
def EndsWord (after : List Char) : Prop := ∀ next ∈ after.head?, Lexeme.continuesWord next = false

/-- What can stand behind a phrase can stand behind a word. -/
theorem Closed.endsWord {after : List Char} (closed : Closed after) : EndsWord after := by
  intro next member
  have closing := closed next member
  simp only [closes, Bool.and_eq_true, Bool.not_eq_true'] at closing
  exact closing.1.1

/-- Symbols that are part of no longer one. -/
def standsAlone : Lexeme → Bool
  | .openParen | .closeParen | .openBrace | .closeBrace | .openBracket | .closeBracket | .semicolon
  | .comma | .dot | .increment => true
  | _ => false

theorem cuts_alone {lexeme : Lexeme} (alone : standsAlone lexeme) (after : List Char) :
    (symbol lexeme).Cuts after := by
  cases lexeme <;> cases alone <;> exact cuts_symbol (by decide) rfl

/-- The symbols that operators are written with. -/
def isOperator : Lexeme → Bool
  | .assign | .orOr | .andAnd | .equalEqual | .notEqual | .plus | .minus | .star | .slash
  | .pipe => true
  | _ => false

theorem cuts_operator {lexeme : Lexeme} (operator : isOperator lexeme) (after : List Char) :
    (symbol lexeme).Cuts (' ' :: after) := by
  cases lexeme <;> cases operator <;> exact cuts_symbol (by decide) rfl

/-- Symbols that an equals sign would make another one of. -/
def meetsEquals : Lexeme → Bool
  | .bang | .openChevron | .closeChevron => true
  | _ => false

/-- A symbol that is longer with an equals sign is cut as it is in front of anything else. -/
theorem cuts_meetsEquals {lexeme : Lexeme} (meets : meetsEquals lexeme) {after : List Char}
    (other : after.head? ≠ some '=') : (symbol lexeme).Cuts after := by
  refine cuts_symbol (by cases lexeme <;> cases meets <;> rfl) ?_
  cases after with
  | nil => cases lexeme <;> cases meets <;> rfl
  | cons next after =>
    have different : ('=' == next) = false := by
      rw [beq_eq_false_iff_ne]
      exact fun same => other (by rw [same]; rfl)
    cases lexeme <;> cases meets <;>
      simp [Lexeme.recognize, Lexeme.spelling, Lexeme.symbols, Lexeme.isSpace, Lexeme.startsWord,
        List.isPrefixOf, different]

/-- A minus sign is cut as it is in front of a digit. -/
theorem cuts_minus {digit : Char} (isDigit : digit.isDigit) (after : List Char) :
    (symbol .minus).Cuts (digit :: after) := by
  have different : ('-' == digit) = false := by
    rw [beq_eq_false_iff_ne]
    rintro rfl
    contradiction
  refine cuts_symbol (by decide) ?_
  simp [Lexeme.recognize, Lexeme.spelling, Lexeme.symbols, Lexeme.isSpace, Lexeme.startsWord,
    List.isPrefixOf, different]

/-- A phrase can be followed by marks whose text can stand behind it. -/
theorem Spells.append {first second : List Mark} {text text' : List Char}
    (spells : Spells first text) (written : write second = text')
    (lexes : ∀ after, Closed after → Closed (text' ++ after) ∧ Lexes second after) :
    Spells (first ++ second) (text ++ text') where
  written := by rw [write_append, spells.written, written]
  opens := by
    rw [List.head?_append_of_ne_nil _ spells.ne_nil]
    exact spells.opens
  lexes := by
    intro after closed
    obtain ⟨closed', lexes⟩ := lexes after closed
    rw [lexes_append, written]
    exact ⟨spells.lexes _ closed', lexes⟩

/-! ## Lists of phrases -/

/-- Texts are written with what stands between the marks between them. -/
theorem write_intercalate (glue : List Mark) (spelled : List (List Mark)) :
    write (glue.intercalate spelled) = (write glue).intercalate (spelled.map write) := by
  cases spelled with
  | nil => rfl
  | cons marks spelled =>
    induction spelled generalizing marks with
    | nil => simp [List.intercalate]
    | cons other spelled ih =>
      have rest := ih other
      simp only [List.intercalate, List.intersperse, List.map_cons, List.flatten_cons,
        write_append] at rest ⊢
      rw [rest]

/-- Phrases are cut as they are, if what stands between them can stand behind each. -/
theorem lexes_intercalate {condition : List Char → Prop} {glue : List Mark}
    {spelled : List (List Mark)}
    (each : ∀ marks ∈ spelled, ∀ after, condition after → Lexes marks after)
    (between : ∀ after, condition (write glue ++ after) ∧ Lexes glue after) {after : List Char}
    (ends : condition after) : Lexes (glue.intercalate spelled) after := by
  cases spelled with
  | nil => trivial
  | cons marks spelled =>
    induction spelled generalizing marks with
    | nil => simpa [List.intercalate] using each marks (.head _) after ends
    | cons other spelled ih =>
      have rest := ih other fun marks member => each marks (.tail _ member)
      rw [intercalate_cons, List.map_cons, List.flatten_cons, List.append_assoc,
        ← intercalate_cons, lexes_append, lexes_append, write_append, List.append_assoc]
      exact ⟨each marks (.head _) _ (between _).1, (between _).2, rest⟩

end Mark

/-- A joined text begins like the first of its parts. -/
theorem head?_intercalate {α : Type} (glue : List α) {first : List α} (nonempty : first ≠ [])
    (rest : List (List α)) : (glue.intercalate (first :: rest)).head? = first.head? := by
  cases rest with
  | nil => simp [List.intercalate]
  | cons other rest => simp [List.intercalate, List.head?_append_of_ne_nil _ nonempty]

/-- Phrases with something between them that can stand behind each are a phrase. -/
theorem Mark.spells_intercalate {α : Type} {label : α → List Char} {items : List α}
    {spelled : List (List Mark)} {glue : List Mark}
    (each : List.Forall₂ (fun item marks => Spells marks (label item)) items spelled)
    (nonempty : items ≠ [])
    (between : ∀ after, Closed (write glue ++ after) ∧ Lexes glue after) :
    Spells (glue.intercalate spelled) ((write glue).intercalate (items.map label)) where
  written := by
    have written : spelled.map write = items.map label := by
      clear nonempty
      induction each with
      | nil => rfl
      | cons head _ ih => rw [List.map_cons, List.map_cons, head.written, ih]
    rw [write_intercalate, written]
  opens := by
    cases each with
    | nil => contradiction
    | cons head _ =>
      rw [List.map_cons, head?_intercalate _ head.ne_nil]
      exact head.opens
  lexes := by
    intro after closed
    refine lexes_intercalate (fun marks member => ?_) between closed
    clear nonempty
    induction each with
    | nil => contradiction
    | cons head _ ih =>
      cases member with
      | head => exact head.lexes
      | tail _ member => exact ih member

/-- What can be spelled item by item can be spelled as a list. -/
theorem exists_forall₂ {α β : Type} {relation : α → β → Prop} {items : List α}
    (each : ∀ item ∈ items, ∃ other, relation item other) :
    ∃ others, List.Forall₂ relation items others := by
  induction items with
  | nil => exact ⟨[], .nil⟩
  | cons item items ih =>
    obtain ⟨other, related⟩ := each item (.head _)
    obtain ⟨others, all⟩ := ih fun item member => each item (.tail _ member)
    exact ⟨other :: others, .cons related all⟩

/-! ## Names -/

open Mark

/-- A word is a phrase, reserved or not. -/
theorem Mark.spells_word (text : String) (spelled : Lexeme.spellWord text.toList) :
    Spells [word text] text.toList where
  written := List.append_nil _
  opens := by
    cases shape : text.toList with
    | nil => rw [shape] at spelled; contradiction
    | cons first rest =>
      rw [shape, Lexeme.spellWord, Bool.and_eq_true] at spelled
      refine ⟨first, rfl, ?_⟩
      rintro rfl
      exact absurd spelled.1 (by decide)
  lexes := fun _ closed => ⟨cuts_word spelled closed.endsWord, trivial⟩

/-- A dotted name is spelled by marks that are read as one name. -/
theorem IsDottedName.exists_marks {name : String} (dotted : IsDottedName name) :
    ∃ marks, Spells marks name.toList ∧ next? marks = some .word ∧
      ∀ bound, Reads bound Parser.dottedName (· ≠ some .dot) marks name := by
  obtain ⟨words, nonempty, identifiers, rfl⟩ := dotted
  refine ⟨[symbol .dot].intercalate (words.map fun name => [word name]), ⟨?_, ?_, ?_⟩, ?_, ?_⟩
  · have each : (write ∘ fun name => [word name]) = String.toList :=
      funext fun name => List.append_nil _
    rw [write_intercalate, String.toList_intercalate, List.map_map, each]
    rfl
  · cases words with
    | nil => contradiction
    | cons head words =>
      have spells := spells_word head (identifiers head (.head _)).1
      rw [String.toList_intercalate, List.map_cons, head?_intercalate _ spells.ne_nil]
      exact spells.opens
  · intro after closed
    have each : ∀ marks ∈ words.map fun name => [word name], ∀ after, EndsWord after →
        Lexes marks after := by
      intro marks member after ends
      obtain ⟨name, listed, rfl⟩ := List.mem_map.1 member
      exact ⟨cuts_word (identifiers name listed).1 ends, trivial⟩
    have between : ∀ after, EndsWord (write [symbol .dot] ++ after) ∧ Lexes [symbol .dot] after := by
      intro after
      refine ⟨?_, cuts_alone rfl _, trivial⟩
      rintro _ ⟨⟩
      rfl
    exact lexes_intercalate each between closed.endsWord
  · cases words with
    | nil => contradiction
    | cons head words =>
      rw [List.map_cons, intercalate_cons, List.singleton_append, next?_word,
        (identifiers head (.head _)).2]
  · intro bound
    have each : List.Forall₂ (fun value marks => Reads bound Parser.word (fun _ => True) marks value)
        words (words.map fun name => [word name]) := by
      rw [List.forall₂_map_right_iff, List.forall₂_same]
      exact fun name member => reads_word (identifiers name member).2
    have read := reads_separated (reads_symbol .dot) rfl trivial each nonempty
    exact (read.map (String.intercalate ".")).mono fun next other => ⟨trivial, other⟩

/-! ## Types -/

/-- The parser of the arguments of a type. -/
def Parser.typeArguments (typeName : Parser String) : Parser (List String) :=
  delimited .openChevron .closeChevron (separated .comma typeName)

/-- One turn of the parser of types. -/
def Parser.typeStep (typeName : Parser String) : Parser String := do
  let name ← dottedName
  let arguments ← optional (typeArguments typeName)
  let arrays ← many (delimited .openBracket .closeBracket (pure ()))
  pure (typeText name arguments arrays.length)

/-- A token that does not go on with a type. -/
def EndsType (next : Option Lexeme) : Prop :=
  next ≠ some .dot ∧ next ≠ some .openChevron ∧ next ≠ some .openBracket
deriving Decidable

/-- The marks of array brackets. -/
def Mark.brackets (arrays : Nat) : List Mark :=
  (List.replicate arrays [symbol .openBracket, symbol .closeBracket]).flatten

/-- Array brackets write themselves and are cut as they are. -/
theorem Mark.spells_brackets (arrays : Nat) :
    write (brackets arrays) = (String.join (List.replicate arrays "[]")).toList ∧
      ∀ after, Closed after → Closed (write (brackets arrays) ++ after) ∧
        Lexes (brackets arrays) after := by
  induction arrays with
  | zero => exact ⟨rfl, fun after closed => ⟨closed, trivial⟩⟩
  | succ arrays ih =>
    obtain ⟨written, lexes⟩ := ih
    have shape : brackets (arrays + 1) =
        symbol .openBracket :: symbol .closeBracket :: brackets arrays := rfl
    constructor
    · rw [shape, write_cons, write_cons, written, List.replicate_succ, String.join_cons,
        String.toList_append]
      rfl
    · intro after closed
      exact ⟨closed_cons rfl _, cuts_alone rfl _, cuts_alone rfl _, (lexes after closed).2⟩

/-- Array brackets bring no other token than an opening one to the front. -/
theorem Mark.next?_brackets (arrays : Nat) {rest : List Mark} {lexeme : Lexeme}
    (other : lexeme ≠ .openBracket) (ends : next? rest ≠ some lexeme) :
    next? (brackets arrays ++ rest) ≠ some lexeme := by
  cases arrays with
  | zero => exact ends
  | succ arrays =>
    rintro ⟨⟩
    exact other rfl

/-- Array brackets are counted. -/
theorem Mark.reads_brackets (bound arrays : Nat) :
    Reads bound (Parser.many (Parser.delimited .openBracket .closeBracket (pure ())))
      (· ≠ some .openBracket) (brackets arrays) (List.replicate arrays ()) := by
  have opens : Parser.Opens (Parser.delimited .openBracket .closeBracket (pure ()))
      (· = .openBracket) := (Parser.opens_lexeme .openBracket).bind _
  have each : List.Forall₂ (fun value marks => (∃ lexeme, next? marks = some lexeme ∧ True) ∧
      Reads bound (Parser.delimited .openBracket .closeBracket (pure ())) (fun _ => True) marks value)
      (List.replicate arrays ())
      (List.replicate arrays [symbol .openBracket, symbol .closeBracket]) := by
    induction arrays with
    | zero => exact .nil
    | succ arrays ih =>
      refine .cons ⟨⟨.openBracket, rfl, trivial⟩, fun rest _ _ => ?_⟩ ih
      simp [Parser.delimited]
  exact (reads_many (fails_nil opens) each).mono fun next other => ⟨trivial, Parser.any_eq_false other⟩

section

variable {name : String} {arguments : Option (List String)} {marks middle : List Mark}

/-- A name is read as a type, given how its arguments are read. -/
theorem Mark.settled_type
    (read : ∀ bound, Reads bound Parser.dottedName (· ≠ some .dot) marks name)
    (start : ∀ rest, next? rest ≠ some .dot → next? (middle ++ rest) ≠ some .dot)
    (reads : ∀ bound inner, Parser.Knows Parser.typeStep inner bound → Reads bound
      (Parser.optional (Parser.typeArguments inner)) (· ≠ some .openChevron) middle arguments)
    (arrays : Nat) :
    Settled Parser.typeStep EndsType (marks ++ (middle ++ brackets arrays))
      (Parser.typeText name arguments arrays) := by
  refine settled_of_reads fun bound inner knows => ?_
  have counted := (reads_brackets bound arrays).thenPure fun arrays =>
    Parser.typeText name arguments arrays.length
  rw [List.length_replicate] at counted
  refine (read bound).bind ((reads bound inner knows).bind
    (counted.mono fun next (ends : EndsType next) => ends.2.2) ?_) ?_
  · exact fun rest ends => next?_brackets arrays (by decide) ends.2.1
  · intro rest ends
    rw [List.append_assoc]
    exact start _ (next?_brackets arrays (by decide) ends.1)

/-- No arguments are read where none stand. -/
theorem Mark.reads_noArguments (bound : Nat) (inner : Parser String) : Reads bound
    (Parser.optional (Parser.typeArguments inner)) (· ≠ some .openChevron) [] none :=
  (fails_nil ((Parser.opens_lexeme .openChevron).bind _)).optional.mono fun _ other =>
    Parser.any_eq_false other

/-- A dotted name is read as a type. -/
theorem Mark.settled_name
    (read : ∀ bound, Reads bound Parser.dottedName (· ≠ some .dot) marks name) :
    Settled Parser.typeStep EndsType marks name := by
  have start (rest : List Mark) (other : next? rest ≠ some .dot) : next? ([] ++ rest) ≠ some .dot :=
    other
  have settled := settled_type read start (fun bound inner _ => reads_noArguments bound inner) 0
  simpa [brackets, Parser.typeText] using settled

/-- The marks of a type, given those of its arguments. -/
theorem IsDottedName.exists_type (dotted : IsDottedName name) {text : List Char}
    (written : write middle = text)
    (lexes : ∀ after, Closed after → Closed (text ++ after) ∧ Lexes middle after)
    (start : ∀ rest, next? rest ≠ some .dot → next? (middle ++ rest) ≠ some .dot)
    (reads : ∀ bound inner, Parser.Knows Parser.typeStep inner bound → Reads bound
      (Parser.optional (Parser.typeArguments inner)) (· ≠ some .openChevron) middle arguments)
    (arrays : Nat) (shape : (Parser.typeText name arguments arrays).toList =
      name.toList ++ (text ++ (String.join (List.replicate arrays "[]")).toList)) :
    ∃ marks, Spells marks (Parser.typeText name arguments arrays).toList ∧
      next? marks = some .word ∧
      Settled Parser.typeStep EndsType marks (Parser.typeText name arguments arrays) := by
  obtain ⟨marks, spells, next, read⟩ := dotted.exists_marks
  obtain ⟨writtenBrackets, lexesBrackets⟩ := spells_brackets arrays
  refine ⟨marks ++ (middle ++ brackets arrays), ?_, next?_append_of_some next _,
    settled_type read start reads arrays⟩
  rw [shape]
  refine spells.append ?_ fun after closed => ?_
  · rw [write_append, written, writtenBrackets]
  · obtain ⟨closed', lexes'⟩ := lexesBrackets after closed
    rw [← writtenBrackets, List.append_assoc, lexes_append]
    exact ⟨(lexes _ closed').1, (lexes _ closed').2, lexes'⟩

end

/-- What separates the items of a list in parentheses or chevrons. -/
def Mark.comma : List Mark := [symbol .comma, .gap ' ']

theorem Mark.comma_between (after : List Char) :
    Closed (write comma ++ after) ∧ Lexes comma after :=
  ⟨closed_cons rfl _, cuts_alone rfl _, rfl, trivial⟩

theorem Mark.reads_spaced (bound : Nat) (lexeme : Lexeme) :
    Reads bound (Parser.lexeme lexeme) (fun _ => True) [symbol lexeme, .gap ' '] () :=
  (reads_symbol lexeme).append_gap ' '

/-- A type in normal form is spelled by marks that are read as the same type. -/
theorem IsTypeName.exists_marks {text : String} (type : IsTypeName text) :
    ∃ marks, Spells marks text.toList ∧ next? marks = some .word ∧
      Settled Parser.typeStep EndsType marks text := by
  induction type with
  | @plain name dotted arrays =>
    refine dotted.exists_type write_nil (fun after closed => ⟨closed, trivial⟩)
      (fun rest other => other) (fun bound inner _ => reads_noArguments bound inner) arrays ?_
    simp [Parser.typeText]
  | @generic name arguments dotted nonempty each arrays ih =>
    obtain ⟨spelled, all⟩ := exists_forall₂ ih
    have joined := spells_intercalate (all.imp fun _ _ spelled => spelled.1) nonempty comma_between
    have written : write (symbol .openChevron :: comma.intercalate spelled ++ [symbol .closeChevron])
        = '<' :: (String.intercalate ", " arguments).toList ++ ['>'] := by
      rw [List.cons_append, write_cons, write_append, joined.written, String.toList_intercalate]
      rfl
    refine dotted.exists_type written (fun after closed => ⟨closed_cons rfl _, ?_⟩) ?_ ?_ arrays ?_
    · -- No equals sign closes a phrase, so none makes another symbol of the last chevron.
      have ended : (symbol .closeChevron).Cuts after :=
        cuts_meetsEquals rfl fun found => absurd (closed _ found) (by decide)
      rw [List.cons_append, Lexes, lexes_append, write_append, joined.written, List.append_assoc]
      exact ⟨cuts_meetsEquals rfl (joined.head?_ne _), joined.lexes _ (closed_cons rfl _), ended,
        trivial⟩
    · rintro rest _ ⟨⟩
    · intro bound inner knows
      cases bound with
      | zero => exact reads_zero rfl
      | succ bound =>
        have items := all.imp fun _ _ spelled => spelled.2.2.reads knows
        have read := reads_separated (reads_spaced bound .comma) rfl (by decide) items nonempty
        exact (read.delimited (by decide) _).optional
    · simp [Parser.typeText]

end Likeness
