import Likeness.Builder.Statement
import Likeness.Syntax.Expression

/-!
# Building declarations, blocks and expressions

A declaration is a run of qualifiers, a type, a name and an optional initial value. An expression is
a block, a declaration, a statement with its semicolon or a lone semicolon, in this order of
preference. A body is a list of expressions in braces or a single expression, so that an `else if`
is an `if` block in the body of the `else`.
-/

namespace Likeness.Builder

/-! ## Declarations -/

/-- A type, in a normal form: arguments are separated by a comma and a blank. -/
def typeName : Builder String :=
  fix fun typeName => branch do
    let name ← dottedName
    let arguments ← attempt (delimited .openChevron .closeChevron (separated .comma typeName))
    let brackets (name : String) : Builder String :=
      (fun _ => name ++ "[]") <$> delimited .openBracket .closeBracket (pure ())
    match arguments with
    | some arguments => steps brackets (name ++ "<" ++ String.intercalate ", " arguments ++ ">")
    | none => steps brackets name

/-- A qualifier. -/
def qualifier : Builder Qualifier := do
  let token ← matching .skip fun token => (Qualifier.ofLexeme? token.lexeme).isSome
  ofOption (Qualifier.ofLexeme? token.lexeme)

/-- The initial value of a declaration. -/
def initializer : Builder Statement := branch do
  lexeme .assign
  statement

/-- A declaration without a semicolon behind it. -/
def openDeclaration : Builder Declaration := branch do
  let qualifiers ← repeated qualifier
  let type ← typeName
  let name ← word
  let initializer ← attempt initializer
  pure ⟨qualifiers, type, name, initializer⟩

/-- A declaration with its semicolon. -/
def declaration : Builder Declaration := branch do
  let declared ← openDeclaration
  lexeme .semicolon
  pure declared

/-! ## Blocks -/

/-- Expressions in braces. -/
def bracedBody (expression : Builder Expression) : Builder (List Expression) :=
  delimited .openBrace .closeBrace (repeated expression)

/-- Expressions in braces, or one expression. -/
def body (expression : Builder Expression) : Builder (List Expression) :=
  bracedBody expression <|> ((fun single => [single]) <$> expression)

/-- A statement in parentheses. -/
def condition : Builder Statement := delimited .openParen .closeParen statement

/-- The `else` of an `if`. -/
def alternative (expression : Builder Expression) : Builder (List Expression) := branch do
  lexeme .elseKeyword
  body expression

/-- An `if` with an optional `else`. -/
def branchBlock (expression : Builder Expression) : Builder Block := branch do
  lexeme .ifKeyword
  let condition ← condition
  let thenBody ← body expression
  let elseBody ← attempt (alternative expression)
  pure (.branch condition thenBody (elseBody.getD []))

/-- A `while` loop. -/
def whileBlock (expression : Builder Expression) : Builder Block := branch do
  lexeme .whileKeyword
  let condition ← condition
  let body ← body expression
  pure (.whileLoop condition body)

/-- A `do` loop with its condition behind the body. -/
def doWhileBlock (expression : Builder Expression) : Builder Block := branch do
  lexeme .doKeyword
  let body ← body expression
  lexeme .whileKeyword
  let condition ← condition
  lexeme .semicolon
  pure (.doWhileLoop condition body)

/-- A clause of a `for` header: a statement or nothing, and the lexeme that ends it. -/
def forClause (ending : Lexeme) : Builder Expression := branch do
  let statement ← attempt statement
  lexeme ending
  pure ((statement.map Expression.statement).getD .empty)

/-- A `for` loop. -/
def forBlock (expression : Builder Expression) : Builder Block := branch do
  lexeme .forKeyword
  lexeme .openParen
  let init ← (Expression.declaration <$> declaration) <|> forClause .semicolon
  let condition ← forClause .semicolon
  let iteration ← forClause .closeParen
  let body ← body expression
  pure (.forLoop init condition iteration body)

/-- The resources of a `try`: declarations with semicolons between them and perhaps one more. -/
def resources : Builder (List Declaration) :=
  delimited .openParen .closeParen do
    let declarations ← separated .semicolon openDeclaration
    let _ ← attempt (lexeme .semicolon)
    pure declarations

/-- What a `catch` catches: types with bars between them, and a variable. -/
def caught : Builder (List String × String) :=
  delimited .openParen .closeParen do
    let types ← separated .pipe typeName
    let name ← word
    pure (types, name)

/-- One `catch`. -/
def catchClause (expression : Builder Expression) : Builder CatchClause := branch do
  lexeme .catchKeyword
  let (types, name) ← caught
  let body ← bracedBody expression
  pure ⟨types.map Identifier.mk, name, body⟩

/-- The `finally` of a `try`. -/
def cleanup (expression : Builder Expression) : Builder (List Expression) := branch do
  lexeme .finallyKeyword
  bracedBody expression

/-- A `try` with at least one of resources, a `catch` and a `finally`. -/
def guardedBlock (expression : Builder Expression) : Builder Block := branch do
  lexeme .tryKeyword
  let resources ← attempt resources
  let resources := resources.getD []
  let body ← bracedBody expression
  let handlers ← repeated (catchClause expression)
  let cleanup ← attempt (cleanup expression)
  ensure (!resources.isEmpty || !handlers.isEmpty || cleanup.isSome)
  pure (.guarded resources body handlers cleanup)

/-- A block of any kind. -/
def blockWith (expression : Builder Expression) : Builder Block :=
  branchBlock expression <|> whileBlock expression <|> doWhileBlock expression
    <|> forBlock expression <|> guardedBlock expression

/-! ## Expressions -/

/-- A statement with its semicolon. -/
def terminatedStatement : Builder Statement := branch do
  let value ← statement
  lexeme .semicolon
  pure value

/-- An expression. -/
def expression : Builder Expression :=
  fix fun expression =>
    (Expression.block <$> blockWith expression)
      <|> (Expression.declaration <$> declaration)
      <|> (Expression.statement <$> terminatedStatement)
      <|> ((fun _ => Expression.empty) <$> lexeme .semicolon)

/-- A block. -/
def block : Builder Block := blockWith expression

/-- The expressions of a whole text, from its first token on. -/
def expressions : Builder (List Expression) := do
  move Cursor.skipTrivia
  mark
  repeated expression

end Likeness.Builder
