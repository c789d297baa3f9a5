import Likeness.Comparison.Compare
import Likeness.Directory
import Likeness.Format

/-!
# Working with files

Sources are read from a directory, and whatever goes wrong is reported with the path of the file.
-/

namespace Likeness

/-- Why a file is not processed. -/
inductive ProcessingError where
  | unreadable (path : String) (fault : FileFault)
  | unparsable (path : String) (failure : ParseFailure)
  | untokenizable (path : String) (failure : TokenizeError)
  | format (error : FormatError)
deriving DecidableEq, Repr

namespace ProcessingError

/-- What is wrong, in words. -/
def message : ProcessingError → String
  | .unreadable path fault => "cannot read " ++ path ++ ": " ++ fault.message
  | .unparsable path failure => "cannot parse " ++ path ++ ": " ++ failure.message
  | .untokenizable path failure => "cannot tokenize " ++ path ++ ": " ++ failure.message
  | .format error => error.message

/-- The cause on its own, where the message names one. -/
def cause : ProcessingError → Option String
  | .unreadable _ fault => some fault.message
  | .unparsable _ failure => some failure.message
  | .untokenizable _ failure => some failure.message
  | .format _ => none

end ProcessingError

namespace Workspace

/-- The text of a source file. -/
def readSource (directory : Directory) (path : String) : Except ProcessingError String :=
  (directory.readText path).mapError (.unreadable path)

/-- The tree of a source file. -/
def parseFile (directory : Directory) (path : String) : Except ProcessingError SyntaxTree := do
  let source ← readSource directory path
  (parse source).mapError (.unparsable path)

/-- The comparison of two source files; the left one is read first. -/
def compareFiles (directory : Directory) (left right : String) :
    Except ProcessingError Similarity := do
  let leftTree ← parseFile directory left
  let rightTree ← parseFile directory right
  return compare leftTree rightTree

/-- The tokens of a source file in a format. -/
def writeTokens (directory : Directory) (path : String) (format : OutputFormat) :
    Except ProcessingError String := do
  let source ← readSource directory path
  let tokens ← (tokenize source).mapError (.untokenizable path)
  (formatTokens tokens format).mapError .format

end Workspace

end Likeness
