/-!
# Lexemes

The closed set of things that a source text is made of. Every lexeme belongs to one of the coarse
kinds that listings show; symbols and keywords have one spelling each, numbers, words and blanks
have many.
-/

namespace Likeness

/-- The coarse kinds of token. -/
inductive Kind where
  | word
  | number
  | symbol
  | whitespace
  | lineFeed
  | comment
  | text
deriving DecidableEq, Repr

/-- The name of a kind in listings. -/
def Kind.name : Kind → String
  | .word => "Word"
  | .number => "Number"
  | .symbol => "Symbol"
  | .whitespace => "Whitespace"
  | .lineFeed => "LineFeed"
  | .comment => "Comment"
  | .text => "Text"

/-- Every lexeme that a source text can hold. -/
inductive Lexeme where
  | whitespace
  | lineFeed
  | increment
  | decrement
  | equalEqual
  | notEqual
  | lessEqual
  | greaterEqual
  | andAnd
  | orOr
  | lineComment
  | blockCommentOpen
  | blockCommentClose
  | plus
  | minus
  | star
  | slash
  | percent
  | assign
  | bang
  | openChevron
  | closeChevron
  | openParen
  | closeParen
  | openBrace
  | closeBrace
  | openBracket
  | closeBracket
  | semicolon
  | comma
  | dot
  | ampersand
  | pipe
  | question
  | colon
  | caret
  | tilde
  | at
  | doubleQuote
  | singleQuote
  | backslash
  | ifKeyword
  | elseKeyword
  | whileKeyword
  | doKeyword
  | forKeyword
  | tryKeyword
  | catchKeyword
  | finallyKeyword
  | trueKeyword
  | falseKeyword
  | nullKeyword
  | classKeyword
  | finalKeyword
  | staticKeyword
  | publicKeyword
  | protectedKeyword
  | privateKeyword
  | transientKeyword
  | volatileKeyword
  | number
  | word
deriving DecidableEq, Repr

namespace Lexeme

/-- The name of a lexeme in listings. -/
def name : Lexeme → String
  | .whitespace => "Whitespace"
  | .lineFeed => "LineFeed"
  | .increment => "Increment"
  | .decrement => "Decrement"
  | .equalEqual => "EqualEqual"
  | .notEqual => "NotEqual"
  | .lessEqual => "LessEqual"
  | .greaterEqual => "GreaterEqual"
  | .andAnd => "AndAnd"
  | .orOr => "OrOr"
  | .lineComment => "LineComment"
  | .blockCommentOpen => "BlockCommentOpen"
  | .blockCommentClose => "BlockCommentClose"
  | .plus => "Plus"
  | .minus => "Minus"
  | .star => "Star"
  | .slash => "Slash"
  | .percent => "Percent"
  | .assign => "Assign"
  | .bang => "Bang"
  | .openChevron => "OpenChevron"
  | .closeChevron => "CloseChevron"
  | .openParen => "OpenParen"
  | .closeParen => "CloseParen"
  | .openBrace => "OpenBrace"
  | .closeBrace => "CloseBrace"
  | .openBracket => "OpenBracket"
  | .closeBracket => "CloseBracket"
  | .semicolon => "Semicolon"
  | .comma => "Comma"
  | .dot => "Dot"
  | .ampersand => "Ampersand"
  | .pipe => "Pipe"
  | .question => "Question"
  | .colon => "Colon"
  | .caret => "Caret"
  | .tilde => "Tilde"
  | .at => "At"
  | .doubleQuote => "DoubleQuote"
  | .singleQuote => "SingleQuote"
  | .backslash => "Backslash"
  | .ifKeyword => "If"
  | .elseKeyword => "Else"
  | .whileKeyword => "While"
  | .doKeyword => "Do"
  | .forKeyword => "For"
  | .tryKeyword => "Try"
  | .catchKeyword => "Catch"
  | .finallyKeyword => "Finally"
  | .trueKeyword => "True"
  | .falseKeyword => "False"
  | .nullKeyword => "Null"
  | .classKeyword => "Class"
  | .finalKeyword => "Final"
  | .staticKeyword => "Static"
  | .publicKeyword => "Public"
  | .protectedKeyword => "Protected"
  | .privateKeyword => "Private"
  | .transientKeyword => "Transient"
  | .volatileKeyword => "Volatile"
  | .number => "Number"
  | .word => "Word"

/-- Symbols with their spellings, those of two characters first, so that the first spelling that a
text starts with is also the longest. -/
def symbols : List (List Char × Lexeme) :=
  [ (['+', '+'], .increment), (['-', '-'], .decrement), (['=', '='], .equalEqual),
    (['!', '='], .notEqual), (['<', '='], .lessEqual), (['>', '='], .greaterEqual),
    (['&', '&'], .andAnd), (['|', '|'], .orOr), (['/', '/'], .lineComment),
    (['/', '*'], .blockCommentOpen), (['*', '/'], .blockCommentClose), (['+'], .plus),
    (['-'], .minus), (['*'], .star), (['/'], .slash), (['%'], .percent), (['='], .assign),
    (['!'], .bang), (['<'], .openChevron), (['>'], .closeChevron), (['('], .openParen),
    ([')'], .closeParen), (['\x7b'], .openBrace), (['\x7d'], .closeBrace),
    (['['], .openBracket), ([']'], .closeBracket), ([';'], .semicolon), ([','], .comma),
    (['.'], .dot), (['&'], .ampersand), (['|'], .pipe), (['?'], .question), ([':'], .colon),
    (['^'], .caret), (['~'], .tilde), (['@'], .at), (['"'], .doubleQuote),
    (['\''], .singleQuote), (['\\'], .backslash) ]

/-- Words that are reserved, with their lexemes. -/
def keywords : List (String × Lexeme) :=
  [ ("if", .ifKeyword), ("else", .elseKeyword), ("while", .whileKeyword), ("do", .doKeyword),
    ("for", .forKeyword), ("try", .tryKeyword), ("catch", .catchKeyword),
    ("finally", .finallyKeyword), ("true", .trueKeyword), ("false", .falseKeyword),
    ("null", .nullKeyword), ("class", .classKeyword), ("final", .finalKeyword),
    ("static", .staticKeyword), ("public", .publicKeyword), ("protected", .protectedKeyword),
    ("private", .privateKeyword), ("transient", .transientKeyword),
    ("volatile", .volatileKeyword) ]

/-- The lexeme of a whole word: its keyword if it is reserved. -/
def ofWord (text : String) : Lexeme := (keywords.lookup text).getD .word

/-- White space or a line feed. -/
def isBlank (lexeme : Lexeme) : Bool := lexeme = .whitespace || lexeme = .lineFeed

/-- The opening of a comment. -/
def opensComment (lexeme : Lexeme) : Bool := lexeme = .lineComment || lexeme = .blockCommentOpen

/-- A declaration modifier. -/
def isQualifier : Lexeme → Bool
  | .finalKeyword | .staticKeyword | .publicKeyword | .protectedKeyword | .privateKeyword
  | .transientKeyword | .volatileKeyword => true
  | _ => false

/-- A reserved word. -/
def isKeyword : Lexeme → Bool
  | .ifKeyword | .elseKeyword | .whileKeyword | .doKeyword | .forKeyword | .tryKeyword
  | .catchKeyword | .finallyKeyword | .trueKeyword | .falseKeyword | .nullKeyword
  | .classKeyword => true
  | lexeme => lexeme.isQualifier

/-- The coarse kind of a lexeme on its own. -/
def kind (lexeme : Lexeme) : Kind :=
  match lexeme with
  | .whitespace => .whitespace
  | .lineFeed => .lineFeed
  | .number => .number
  | .word => .word
  | _ =>
    if lexeme.opensComment then .comment else if lexeme.isKeyword then .word else .symbol

end Lexeme

end Likeness
