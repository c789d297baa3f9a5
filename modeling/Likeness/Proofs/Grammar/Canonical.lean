import Likeness.Grammar.Expression
import Likeness.Grammar.Parse
import Likeness.Proofs.Grammar.Marks

/-!
# Canonical texts

A tree is written in one canonical way: statements and declarations by their labels, every body in
braces, and a missing `else`, `catch` or `finally` not at all. `WellFormed` describes the trees whose
parts can be written so and mean what they say: names are identifiers, types are in normal form,
contents of quotes are closed where they end, and operators nest as their levels allow. Numbers with
a fraction are left out, since their labels are rounded.
-/

namespace Likeness

/-! ## Names and types -/

/-- A word that is not reserved. -/
def IsIdentifier (name : String) : Prop :=
  Lexeme.spellWord name.toList ∧ Lexeme.ofWord name = .word
deriving Decidable

/-- Identifiers with dots between them. -/
def IsDottedName (name : String) : Prop :=
  ∃ words : List String, words ≠ [] ∧ (∀ word ∈ words, IsIdentifier word) ∧
    name = String.intercalate "." words

/-- A type in normal form: a dotted name, perhaps with types as its arguments, and any number of
array brackets. -/
inductive IsTypeName : String → Prop where
  | plain {name : String} (dotted : IsDottedName name) (arrays : Nat) :
      IsTypeName (Parser.typeText name none arrays)
  | generic {name : String} {arguments : List String} (dotted : IsDottedName name)
      (nonempty : arguments ≠ []) (each : ∀ argument ∈ arguments, IsTypeName argument)
      (arrays : Nat) : IsTypeName (Parser.typeText name (some arguments) arrays)

/-! ## Statements -/

/-- How tightly an operator binds, from assignments to products. -/
def BinarySymbol.level : BinarySymbol → Nat
  | .assign => 0
  | .or => 1
  | .and => 2
  | .equals => 3
  | .different => 3
  | .add => 4
  | .subtract => 4
  | .multiply => 5
  | .divide => 5

/-- How tightly a statement holds together: operators in front bind tighter than those between, and
what stands on its own binds tightest. -/
def Statement.level : Statement → Nat
  | .unary .. => 6
  | .binary symbol .. => symbol.level
  | _ => 7

/-- Contents that are closed by the quote behind them, and not before. -/
def IsQuotable (delimiter : Char) (contents : String) : Prop :=
  Lexeme.literalContents delimiter (contents.toList ++ [delimiter]) = some contents.toList

/-- A literal whose label stands for it. -/
inductive Literal.WellFormed : Literal → Prop where
  | string {contents : String} (quotable : IsQuotable '"' contents) : WellFormed (.string contents)
  | char {contents : String} (quotable : IsQuotable '\'' contents) : WellFormed (.char contents)
  | null : WellFormed .null
  | boolean (value : Bool) : WellFormed (.boolean value)
  | integer {value : Int} (fits : Whole.isSigned64 value) (long : Bool) :
      WellFormed (.integer value long)

/-- A statement whose operators nest as their levels allow: operators of one level group to the
left, and an assignment has a variable on its left and stands at the root of a statement or on the
right of another assignment. -/
inductive Statement.WellFormed : Statement → Prop where
  | negation {operand : Statement} (tight : 6 ≤ operand.level) (inner : WellFormed operand) :
      WellFormed (.unary .not operand)
  | increment {name : String} (target : IsDottedName name) :
      WellFormed (.unary .preIncrement (.reference name))
  | assignment {name : String} {value : Statement} (target : IsDottedName name)
      (inner : WellFormed value) : WellFormed (.binary .assign (.reference name) value)
  | operation {symbol : BinarySymbol} {left right : Statement} (operator : symbol ≠ .assign)
      (onLeft : symbol.level ≤ left.level) (onRight : symbol.level < right.level)
      (first : WellFormed left) (second : WellFormed right) :
      WellFormed (.binary symbol left right)
  | literal {value : Literal} (writable : value.WellFormed) : WellFormed (.literal value)
  | reference {name : String} (dotted : IsDottedName name) : WellFormed (.reference name)
  | group {items : List Statement} (each : ∀ item ∈ items, WellFormed item) :
      WellFormed (.group items)

/-- A declaration of an identifier, with a type in normal form and an initial value that can be
written. -/
structure Declaration.WellFormed (declared : Declaration) : Prop where
  typeText : IsTypeName declared.typeText
  name : IsIdentifier declared.name
  initializer : ∀ value ∈ declared.initializer, value.WellFormed

/-! ## Expressions -/

/-- What may be the first clause of a `for`. -/
def Expression.isInit : Expression → Bool
  | .block _ => false
  | _ => true

/-- What may be the second or the third clause of a `for`. -/
def Expression.isClause : Expression → Bool
  | .empty => true
  | .statement _ => true
  | _ => false

mutual

/-- An expression whose parts can be written. -/
inductive Expression.WellFormed : Expression → Prop where
  | empty : Expression.WellFormed .empty
  | declaration {declared : Declaration} (inner : declared.WellFormed) :
      Expression.WellFormed (.declaration declared)
  | statement {value : Statement} (inner : value.WellFormed) :
      Expression.WellFormed (.statement value)
  | block {inner : Block} (parts : Block.WellFormed inner) : Expression.WellFormed (.block inner)

/-- A block whose parts can be written. The clauses of a `for` are of the kinds that fit there, and a
`try` has at least one of resources, a `catch` and a `finally`. -/
inductive Block.WellFormed : Block → Prop where
  | branch {condition : Statement} {thenBody elseBody : List Expression}
      (test : condition.WellFormed) (onThen : ∀ item ∈ thenBody, Expression.WellFormed item)
      (onElse : ∀ item ∈ elseBody, Expression.WellFormed item) :
      Block.WellFormed (.branch condition thenBody elseBody)
  | whileLoop {condition : Statement} {body : List Expression} (test : condition.WellFormed)
      (inner : ∀ item ∈ body, Expression.WellFormed item) :
      Block.WellFormed (.whileLoop condition body)
  | doWhileLoop {condition : Statement} {body : List Expression} (test : condition.WellFormed)
      (inner : ∀ item ∈ body, Expression.WellFormed item) :
      Block.WellFormed (.doWhileLoop condition body)
  | forLoop {init condition iteration : Expression} {body : List Expression} (isInit : init.isInit)
      (isCondition : condition.isClause) (isIteration : iteration.isClause)
      (first : Expression.WellFormed init) (second : Expression.WellFormed condition)
      (third : Expression.WellFormed iteration)
      (inner : ∀ item ∈ body, Expression.WellFormed item) :
      Block.WellFormed (.forLoop init condition iteration body)
  | guarded {resources : List Declaration} {body : List Expression} {handlers : List CatchClause}
      {cleanup : Option (List Expression)} (opened : ∀ declared ∈ resources, declared.WellFormed)
      (inner : ∀ item ∈ body, Expression.WellFormed item)
      (clauses : ∀ clause ∈ handlers, CatchClause.WellFormed clause)
      (last : ∀ item ∈ cleanup.getD [], Expression.WellFormed item)
      (present : resources ≠ [] ∨ handlers ≠ [] ∨ cleanup.isSome) :
      Block.WellFormed (.guarded resources body handlers cleanup)

/-- A catch clause for at least one type, whose parts can be written. -/
inductive CatchClause.WellFormed : CatchClause → Prop where
  | clause {exceptionTypes : List Identifier} {binder : String} {body : List Expression}
      (nonempty : exceptionTypes ≠ []) (types : ∀ type ∈ exceptionTypes, IsTypeName type.name)
      (binds : IsIdentifier binder) (inner : ∀ item ∈ body, Expression.WellFormed item) :
      CatchClause.WellFormed ⟨exceptionTypes, binder, body⟩

end

/-- A tree whose expressions can be written. -/
def SyntaxTree.WellFormed (tree : SyntaxTree) : Prop :=
  ∀ item ∈ tree.expressions, item.WellFormed

/-! ## Writing -/

/-- A body in braces, given its expressions with a blank in front of each. -/
def inBraces (body : String) : String := "\x7b" ++ body ++ " \x7d"

/-- The third clause of a `for`, which no semicolon ends. -/
def Expression.lastClause : Expression → String
  | .statement value => value.label
  | _ => ""

mutual

/-- An expression in canonical form. -/
def Expression.canonical : Expression → String
  | .empty => ";"
  | .declaration declared => declared.label ++ ";"
  | .block inner => inner.canonical
  | .statement value => value.label ++ ";"

/-- A block in canonical form, with all bodies in braces. -/
def Block.canonical : Block → String
  | .branch condition thenBody elseBody =>
    "if (" ++ condition.label ++ ") " ++ inBraces (Expression.canonicalOfAll thenBody)
      ++ (if elseBody.isEmpty then "" else " else " ++ inBraces (Expression.canonicalOfAll elseBody))
  | .whileLoop condition body =>
    "while (" ++ condition.label ++ ") " ++ inBraces (Expression.canonicalOfAll body)
  | .doWhileLoop condition body =>
    "do " ++ inBraces (Expression.canonicalOfAll body) ++ " while (" ++ condition.label ++ ");"
  | .forLoop init condition iteration body =>
    "for (" ++ init.canonical ++ " " ++ condition.canonical ++ " " ++ iteration.lastClause ++ ") "
      ++ inBraces (Expression.canonicalOfAll body)
  | .guarded resources body handlers cleanup =>
    "try "
      ++ (if resources.isEmpty then ""
          else "(" ++ String.intercalate "; " (resources.map Declaration.label) ++ ") ")
      ++ inBraces (Expression.canonicalOfAll body) ++ CatchClause.canonicalOfAll handlers
      ++ Expression.canonicalCleanup cleanup

/-- A catch clause in canonical form. -/
def CatchClause.canonical : CatchClause → String
  | ⟨exceptionTypes, binder, body⟩ =>
    "catch (" ++ String.intercalate " | " (exceptionTypes.map Identifier.name) ++ " " ++ binder
      ++ ") " ++ inBraces (Expression.canonicalOfAll body)

/-- Expressions with a blank in front of each. -/
def Expression.canonicalOfAll : List Expression → String
  | [] => ""
  | expression :: rest => " " ++ expression.canonical ++ Expression.canonicalOfAll rest

/-- Catch clauses with a blank in front of each. -/
def CatchClause.canonicalOfAll : List CatchClause → String
  | [] => ""
  | clause :: rest => " " ++ clause.canonical ++ CatchClause.canonicalOfAll rest

/-- The cleanup of a `try`, if it has one. -/
def Expression.canonicalCleanup : Option (List Expression) → String
  | none => ""
  | some body => " finally " ++ inBraces (Expression.canonicalOfAll body)

end

/-- A tree in canonical form: one line for each of its expressions. -/
def SyntaxTree.canonical (tree : SyntaxTree) : String :=
  String.intercalate "\n" (tree.expressions.map Expression.canonical)

end Likeness
