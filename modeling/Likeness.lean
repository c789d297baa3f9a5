import Likeness.Builder
import Likeness.Builder.Expression
import Likeness.Builder.Statement
import Likeness.CommandLine
import Likeness.Comparison.Alignment
import Likeness.Comparison.Assignment
import Likeness.Comparison.Compare
import Likeness.Comparison.Similarity
import Likeness.Comparison.Traceback
import Likeness.Cursor
import Likeness.Directory
import Likeness.Document.Datum
import Likeness.Document.Json
import Likeness.Document.Result
import Likeness.Document.Tree
import Likeness.Document.Yaml
import Likeness.Format
import Likeness.Grammar.Declaration
import Likeness.Grammar.Expression
import Likeness.Grammar.Literal
import Likeness.Grammar.Parse
import Likeness.Grammar.Parser
import Likeness.Grammar.Part
import Likeness.Grammar.Statement
import Likeness.Lexeme
import Likeness.Listing
import Likeness.Main
import Likeness.Number.Binary64
import Likeness.Number.Decimal
import Likeness.Number.Digit
import Likeness.Number.Whole
import Likeness.Position
import Likeness.Session
import Likeness.Settings.Layers
import Likeness.Settings.Toml
import Likeness.Settings.Value
import Likeness.Syntax.Declaration
import Likeness.Syntax.Expression
import Likeness.Syntax.Literal
import Likeness.Syntax.Node
import Likeness.Syntax.Statement
import Likeness.Table
import Likeness.Text.Blank
import Likeness.Text.Cased
import Likeness.Text.Cut
import Likeness.Text.LowerCase
import Likeness.Text.Printable
import Likeness.Text.Quoted
import Likeness.Text.Ranges
import Likeness.Token
import Likeness.Token.Progress
import Likeness.Workspace
import Likeness.Proofs.Alignment
import Likeness.Proofs.Assignment.Optimality
import Likeness.Proofs.Alignment.Pairings
import Likeness.Proofs.Alignment.Gaps
import Likeness.Proofs.Alignment.Traceback
import Likeness.Proofs.Assignment.Phases
import Likeness.Proofs.Assignment.Loops
import Likeness.Proofs.Assignment.Bounds
import Likeness.Proofs.Comparison.Structure
import Likeness.Proofs.Comparison.Balance
import Likeness.Proofs.Comparison.Symmetry
import Likeness.Proofs.Comparison.Common
import Likeness.Proofs.Comparison.Alike
import Likeness.Proofs.Comparison.Identity
import Likeness.Proofs.Grammar.Marks
import Likeness.Proofs.Grammar.Runs
import Likeness.Proofs.Grammar.Canonical
import Likeness.Proofs.Grammar.Names
import Likeness.Proofs.Grammar.Literals
import Likeness.Proofs.Grammar.Levels
import Likeness.Proofs.Grammar.Statements
import Likeness.Proofs.Grammar.Declarations
import Likeness.Proofs.Grammar.Blocks
import Likeness.Proofs.Grammar.Completeness
import Likeness.Proofs.Grammar.Simulation
import Likeness.Proofs.Token.Trivia
import Likeness.Proofs.Token.Cutting
import Likeness.Proofs.Grammar.Places
import Likeness.Proofs.Grammar.Turns
import Likeness.Proofs.Builder.Runs
import Likeness.Proofs.Builder.Productions
import Likeness.Proofs.Builder.Parts
import Likeness.Proofs.Builder.Refinement
import Likeness.Proofs.Grammar.Spacing
import Likeness.Proofs.Grammar.Failure
import Likeness.Proofs.Grammar.Leaves
import Likeness.Proofs.Grammar.Collection
import Likeness.Proofs.Comparison.Insertion
import Likeness.Proofs.Comparison.Rearrangement
import Likeness.Proofs.Grammar.Shape
import Likeness.Proofs.Grammar.Extension
import Likeness.Proofs.Grammar.Composition
import Likeness.Proofs.Token.Seam
import Likeness.Proofs.Token.Lossless
import Likeness.Proofs.Grammar.Concatenation
import Likeness.Proofs.Grammar.Progress
import Likeness.Proofs.Session.Reach
import Likeness.Proofs.Session.Invariant
import Likeness.Proofs.Comparison.Listing
import Likeness.Proofs.Grammar.Reports
import Likeness.Proofs.Grammar.Quotes
import Likeness.Proofs.Comparison.Policies
import Likeness.Proofs.Comparison.Soundness
import Likeness.Proofs.Comparison.Rows
import Likeness.Proofs.Session.Integers
import Likeness.Proofs.Grammar.Weights
import Likeness.Proofs.Comparison.Width
import Likeness.Proofs.Listing
import Likeness.Proofs.Table
