import Likeness.Comparison.Similarity
import Likeness.Document.Datum
import Likeness.Token

/-!
# Results and tokens as documents
-/

namespace Likeness

namespace Similarity

mutual

/-- A result with all its parts as a document. -/
def document : Similarity → Datum
  | ⟨label, left, right, matched, total, children⟩ =>
    .record
      [ ("label", .text label), ("left", .optionalText left), ("right", .optionalText right),
        ("matched", .natural matched), ("total", .natural total),
        ("children", .list (documents children)) ]

/-- Several results as documents. -/
def documents : List Similarity → List Datum
  | [] => []
  | similarity :: rest => similarity.document :: documents rest

end

/-- A comparison with its summary as a document. -/
def reportDocument (similarity : Similarity) (threshold : Binary64) : Datum :=
  .record
    [ ("similarity", .ofBinary64 similarity.ratio),
      ("percentage", .natural similarity.percentage),
      ("verdict", .text (similarity.verdict threshold).name),
      ("root", similarity.document) ]

end Similarity

/-- A row of a listing as a document. -/
def Row.document (row : Row) : Datum :=
  .record
    [ ("depth", .natural row.depth), ("left", .text row.left),
      ("percentage", .natural row.percentage), ("right", .text row.right),
      ("kind", .text row.kind.name) ]

/-- A position as a document. -/
def Position.document (position : Position) : Datum :=
  .record [("line", .natural position.line), ("column", .natural position.column)]

/-- A location as a document. -/
def Location.document (location : Location) : Datum :=
  .record
    [ ("span", .record [("start", .natural location.first), ("end", .natural location.stop)]),
      ("start", location.start.document), ("end", location.finish.document) ]

/-- A token as a document. -/
def Token.document (token : Token) : Datum :=
  .record
    [ ("kind", .text token.kind.name), ("lexeme", .text token.lexeme.name),
      ("text", .text token.text), ("location", token.location.document) ]

end Likeness
