import Likeness.Builder
import Likeness.Grammar.Literal
import Likeness.Syntax.Statement

/-!
# Building literals and statements

From loosest to tightest: assignment, which is right associative and needs a variable on its left;
`||`; `&&`; `==` and `!=`; `+` and `-`; `*` and `/`, which are left associative; `!` and `++`; and
parenthesised lists, literals and variables.
-/

namespace Likeness.Builder

/-- A number with its sign. The trivia behind a minus is not passed over, so that only a minus that
stands directly before the digits is their sign. -/
def number : Builder Literal := branch do
  let sign ← attempt (lexemeExact .minus)
  let text ← Token.text <$> matching .skip fun token => token.lexeme = .number
  ofOption (Literal.ofNumber? sign.isSome text)

/-- A literal of any kind. -/
def literal : Builder Literal :=
  (Literal.string <$> quoted '"')
    <|> (Literal.char <$> quoted '\'')
    <|> ((fun _ => Literal.boolean true) <$> lexeme .trueKeyword)
    <|> ((fun _ => Literal.boolean false) <$> lexeme .falseKeyword)
    <|> ((fun _ => Literal.null) <$> lexeme .nullKeyword)
    <|> number

/-- A parenthesised list of statements, possibly empty. -/
def group (statement : Builder Statement) : Builder (List Statement) :=
  delimited .openParen .closeParen do
    let items ← attempt (separated .comma statement)
    pure (items.getD [])

/-- A statement without operators around it. -/
def primary (statement : Builder Statement) : Builder Statement :=
  (Statement.group <$> group statement)
    <|> (Statement.literal <$> literal)
    <|> (Statement.reference <$> dottedName)

/-- An operator in front of its operand. -/
def prefixed (token : Lexeme) (symbol : UnarySymbol) (operand : Builder Statement) :
    Builder Statement := branch do
  lexeme token
  let value ← operand
  ofOption (Statement.unary? symbol value)

/-- A primary statement with any number of operators in front of it. -/
def unary (statement : Builder Statement) : Builder Statement :=
  fix fun unary =>
    prefixed .bang .not unary <|> prefixed .increment .preIncrement unary <|> primary statement

/-- An operator and the operand behind it. -/
def operation (operand : Builder Statement) (operator : Lexeme × BinarySymbol) :
    Builder (BinarySymbol × Statement) := branch do
  lexeme operator.1
  let right ← operand
  pure (operator.2, right)

/-- Operands with operators of one level between them, grouped to the left. -/
def level (operand : Builder Statement) (operators : List (Lexeme × BinarySymbol)) :
    Builder Statement := branch do
  let first ← operand
  let more (left : Statement) : Builder Statement :=
    (fun (symbol, right) => .binary symbol left right) <$> operators.firstM (operation operand)
  steps more first

/-- Products and quotients. -/
def multiplicative (statement : Builder Statement) : Builder Statement :=
  level (unary statement) [(.star, .multiply), (.slash, .divide)]

/-- Sums and differences. -/
def additive (statement : Builder Statement) : Builder Statement :=
  level (multiplicative statement) [(.plus, .add), (.minus, .subtract)]

/-- Comparisons. -/
def equality (statement : Builder Statement) : Builder Statement :=
  level (additive statement) [(.equalEqual, .equals), (.notEqual, .different)]

/-- Conjunctions. -/
def conjunction (statement : Builder Statement) : Builder Statement :=
  level (equality statement) [(.andAnd, .and)]

/-- Disjunctions. -/
def disjunction (statement : Builder Statement) : Builder Statement :=
  level (conjunction statement) [(.orOr, .or)]

/-- The value that is stored into `target`, when it is followed by one. -/
def assigned (statement : Builder Statement) (target : Statement) : Builder Statement := do
  ensure (BinarySymbol.accepts .assign target)
  branch do
    lexeme .assign
    statement

/-- A statement. -/
def statement : Builder Statement :=
  fix fun statement => branch do
    let target ← disjunction statement
    match ← attempt (assigned statement target) with
    | some value => ofOption (Statement.binary? .assign target value)
    | none => pure target

/-- A parenthesised list of statements on its own. -/
def parameters : Builder (List Statement) := group statement

end Likeness.Builder
