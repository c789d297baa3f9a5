import Likeness.Grammar.Declaration
import Likeness.Syntax.Expression

/-!
# Reading blocks and expressions

An expression is a block, a declaration, a statement with its semicolon or a lone semicolon, in this
order of preference. A body is a list of expressions in braces or a single expression, so that an
`else if` is an `if` block in the body of the `else`.
-/

namespace Likeness.Parser

/-- Expressions in braces. -/
def bracedBody (expression : Parser Expression) : Parser (List Expression) :=
  delimited .openBrace .closeBrace (many expression)

/-- Expressions in braces, or one expression. -/
def body (expression : Parser Expression) : Parser (List Expression) :=
  bracedBody expression <|> ((fun single => [single]) <$> expression)

/-- A statement in parentheses. -/
def condition : Parser Statement := delimited .openParen .closeParen statement

/-- An `if` with an optional `else`. -/
def branchBlock (expression : Parser Expression) : Parser Block := do
  lexeme .ifKeyword
  let condition ← condition
  let thenBody ← body expression
  let elseBody ← optional (do lexeme .elseKeyword; body expression)
  pure (.branch condition thenBody (elseBody.getD []))

/-- A `while` loop. -/
def whileBlock (expression : Parser Expression) : Parser Block := do
  lexeme .whileKeyword
  let condition ← condition
  let body ← body expression
  pure (.whileLoop condition body)

/-- A `do` loop with its condition behind the body. -/
def doWhileBlock (expression : Parser Expression) : Parser Block := do
  lexeme .doKeyword
  let body ← body expression
  lexeme .whileKeyword
  let condition ← condition
  lexeme .semicolon
  pure (.doWhileLoop condition body)

/-- A clause of a `for` header: a statement or nothing, and the lexeme that ends it. -/
def forClause (ending : Lexeme) : Parser Expression := do
  let statement ← optional statement
  lexeme ending
  pure ((statement.map Expression.statement).getD .empty)

/-- A `for` loop. -/
def forBlock (expression : Parser Expression) : Parser Block := do
  lexeme .forKeyword
  lexeme .openParen
  let init ← (Expression.declaration <$> declaration) <|> forClause .semicolon
  let condition ← forClause .semicolon
  let iteration ← forClause .closeParen
  let body ← body expression
  pure (.forLoop init condition iteration body)

/-- The resources of a `try`: declarations with semicolons between them and perhaps one more. -/
def resources : Parser (List Declaration) :=
  delimited .openParen .closeParen do
    let declarations ← separated .semicolon openDeclaration
    let _ ← optional (lexeme .semicolon)
    pure declarations

/-- What a `catch` catches: types with bars between them, and a variable. -/
def caught : Parser (List String × String) :=
  delimited .openParen .closeParen do
    let types ← separated .pipe typeName
    let name ← word
    pure (types, name)

/-- One `catch`. -/
def catchClause (expression : Parser Expression) : Parser CatchClause := do
  lexeme .catchKeyword
  let (types, name) ← caught
  let body ← bracedBody expression
  pure ⟨types.map Identifier.mk, name, body⟩

/-- The `finally` of a `try`. -/
def cleanup (expression : Parser Expression) : Parser (List Expression) := do
  lexeme .finallyKeyword
  bracedBody expression

/-- A `try` with at least one of resources, a `catch` and a `finally`. -/
def guardedBlock (expression : Parser Expression) : Parser Block := do
  lexeme .tryKeyword
  let resources ← optional resources
  let resources := resources.getD []
  let body ← bracedBody expression
  let handlers ← many (catchClause expression)
  let cleanup ← optional (cleanup expression)
  ensure (!resources.isEmpty || !handlers.isEmpty || cleanup.isSome)
  pure (.guarded resources body handlers cleanup)

/-- A block of any kind. -/
def blockWith (expression : Parser Expression) : Parser Block :=
  branchBlock expression <|> whileBlock expression <|> doWhileBlock expression
    <|> forBlock expression <|> guardedBlock expression

/-- A statement with its semicolon. -/
def terminatedStatement : Parser Statement := do
  let value ← statement
  lexeme .semicolon
  pure value

/-- An expression. -/
def expression : Parser Expression :=
  fix fun expression =>
    (Expression.block <$> blockWith expression)
      <|> (Expression.declaration <$> declaration)
      <|> (Expression.statement <$> terminatedStatement)
      <|> ((fun _ => Expression.empty) <$> lexeme .semicolon)

/-- A block. -/
def block : Parser Block := blockWith expression

end Likeness.Parser
