import Likeness.Grammar.Literal
import Likeness.Syntax.Statement

/-!
# Reading statements

From loosest to tightest: assignment, which is right associative and needs a variable on its left;
`||`; `&&`; `==` and `!=`; `+` and `-`; `*` and `/`, which are left associative; `!` and `++`; and
parenthesised lists, literals and variables.
-/

namespace Likeness.Parser

/-- A parenthesised list of statements, possibly empty. -/
def group (statement : Parser Statement) : Parser (List Statement) :=
  delimited .openParen .closeParen do
    let items ← optional (separated .comma statement)
    pure (items.getD [])

/-- A statement without operators around it. -/
def primary (statement : Parser Statement) : Parser Statement :=
  (Statement.group <$> group statement)
    <|> (Statement.literal <$> literal)
    <|> (Statement.reference <$> dottedName)

/-- An operator in front of its operand. -/
def prefixed (token : Lexeme) (symbol : UnarySymbol) (operand : Parser Statement) :
    Parser Statement := do
  lexeme token
  let value ← operand
  ofOption (Statement.unary? symbol value)

/-- A primary statement with any number of operators in front of it. -/
def unary (statement : Parser Statement) : Parser Statement :=
  fix fun unary =>
    prefixed .bang .not unary <|> prefixed .increment .preIncrement unary <|> primary statement

/-- An operator and the operand behind it. -/
def operation (operand : Parser Statement) (token : Lexeme) (symbol : BinarySymbol) :
    Parser (BinarySymbol × Statement) := do
  lexeme token
  let value ← operand
  pure (symbol, value)

/-- Put operations on a first operand, from left to right. -/
def foldOperations (first : Statement) (operations : List (BinarySymbol × Statement)) : Statement :=
  operations.foldl (fun left (symbol, right) => .binary symbol left right) first

/-- Operands with operators of one level between them, grouped to the left. -/
def level (operand : Parser Statement) (operation : Parser (BinarySymbol × Statement)) :
    Parser Statement := do
  let first ← operand
  let operations ← many operation
  pure (foldOperations first operations)

/-- Products and quotients. -/
def multiplicative (statement : Parser Statement) : Parser Statement :=
  let operand := unary statement
  level operand (operation operand .star .multiply <|> operation operand .slash .divide)

/-- Sums and differences. -/
def additive (statement : Parser Statement) : Parser Statement :=
  let operand := multiplicative statement
  level operand (operation operand .plus .add <|> operation operand .minus .subtract)

/-- Comparisons. -/
def equality (statement : Parser Statement) : Parser Statement :=
  let operand := additive statement
  level operand
    (operation operand .equalEqual .equals <|> operation operand .notEqual .different)

/-- Conjunctions. -/
def conjunction (statement : Parser Statement) : Parser Statement :=
  let operand := equality statement
  level operand (operation operand .andAnd .and)

/-- Disjunctions. -/
def disjunction (statement : Parser Statement) : Parser Statement :=
  let operand := conjunction statement
  level operand (operation operand .orOr .or)

/-- The value that is stored into `target`, when it is followed by one. -/
def assigned (statement : Parser Statement) (target : Statement) : Parser Statement := do
  ensure target.isAssignable
  lexeme .assign
  let value ← statement
  pure (.binary .assign target value)

/-- A statement. -/
def statement : Parser Statement :=
  fix fun statement => do
    let target ← disjunction statement
    assigned statement target <|> pure target

/-- A parenthesised list of statements on its own. -/
def parameters : Parser (List Statement) := group statement

end Likeness.Parser
