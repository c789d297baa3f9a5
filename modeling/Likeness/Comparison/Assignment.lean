import Likeness.Comparison.Similarity

/-!
# Pairing two lists without order

Qualifiers and the types of a catch clause are sets. They are compared through the one-to-one
assignment of greatest matched weight, which is found by successive cheapest paths: rows are
assigned one after the other, each along a path that keeps the costs of all assigned rows in balance
through potentials of rows and columns. Costs are weights with their signs turned.
-/

namespace Likeness

namespace Assignment

variable {rows columns : Nat}

/-- The rows assigned so far and the potentials that prove the assignment cheapest. A path starts in
a virtual column that belongs to the row being assigned. -/
structure State (rows columns : Nat) where
  rowPotential : Vector Int rows
  columnPotential : Vector Int columns
  virtualPotential : Int
  owner : Vector (Option (Fin rows)) columns
  previous : Vector (Option (Fin columns)) columns

/-- Nothing is assigned. -/
def State.start (rows columns : Nat) : State rows columns :=
  ⟨.replicate rows 0, .replicate columns 0, 0, .replicate columns none, .replicate columns none⟩

/-- A search for a free column: how much each column costs to reach, the columns visited, and the
one to visit next, where `none` is the virtual one. -/
structure Search (rows columns : Nat) extends State rows columns where
  slack : Vector (Option Int) columns
  visited : Vector Bool columns
  column : Option (Fin columns)

/-- A search that stands at the virtual column. -/
def Search.start (state : State rows columns) : Search rows columns :=
  { state with
    slack := .replicate columns none
    visited := .replicate columns false
    column := none }

/-- The column with the least slack among those not visited, the first one of several. -/
def cheapest (visited : Vector Bool columns) (slack : Vector (Option Int) columns) :
    Option (Fin columns × Int) :=
  (List.finRange columns).foldl (fun best column =>
    if visited[column] then best
    else
      match slack[column], best with
      | some cost, some (_, least) => if cost < least then some (column, cost) else best
      | some cost, none => some (column, cost)
      | none, _ => best) none

/-- Visit the column that the search stands at: lower the slack of the columns that its row reaches
more cheaply, move on to the cheapest one, and shift the potentials by its slack. -/
def Search.visit (weight : Fin rows → Fin columns → Nat) (row : Fin rows)
    (search : Search rows columns) : Search rows columns :=
  let visited :=
    match search.column with
    | none => search.visited
    | some column => search.visited.set column true
  let current := (search.column.bind fun column => search.owner[column]).getD row
  let reduced (column : Fin columns) : Int :=
    -(weight current column : Int) - search.rowPotential[current] - search.columnPotential[column]
  let lowers (column : Fin columns) : Bool :=
    !visited[column] && search.slack[column].all (reduced column < ·)
  let slack := Vector.ofFn fun column =>
    if lowers column then some (reduced column) else search.slack[column]
  let previous := Vector.ofFn fun column =>
    if lowers column then search.column else search.previous[column]
  match cheapest visited slack with
  | none => { search with visited, slack, previous }
  | some (next, delta) =>
    let onPath (other : Fin rows) : Bool :=
      other = row ||
        (List.finRange columns).any fun column =>
          visited[column] && search.owner[column] = some other
    { rowPotential := Vector.ofFn fun other =>
        search.rowPotential[other] + (if onPath other then delta else 0)
      columnPotential := Vector.ofFn fun column =>
        search.columnPotential[column] - (if visited[column] then delta else 0)
      virtualPotential := search.virtualPotential - delta
      owner := search.owner
      previous
      slack := Vector.ofFn fun column =>
        if visited[column] then slack[column] else slack[column].map (· - delta)
      visited
      column := some next }

/-- The search stands at a column that no row owns. -/
def Search.atFree (search : Search rows columns) : Bool :=
  search.column.any fun column => search.owner[column].isNone

/-- Visit columns until a free one is found, at most `steps` of them. -/
def Search.run (weight : Fin rows → Fin columns → Nat) (row : Fin rows) :
    Nat → Search rows columns → Search rows columns
  | 0, search => search
  | steps + 1, search =>
    let search := search.visit weight row
    if search.atFree then search else search.run weight row steps

/-- Hand columns on along the path that leads to `column`, back to the virtual column, in at most
`steps` steps. -/
def handOn (row : Fin rows) (previous : Vector (Option (Fin columns)) columns) :
    Nat → Fin columns → Vector (Option (Fin rows)) columns → Vector (Option (Fin rows)) columns
  | 0, _, owner => owner
  | steps + 1, column, owner =>
    match previous[column] with
    | none => owner.set column (some row)
    | some prior => handOn row previous steps prior (owner.set column owner[prior])

/-- Assign one more row. A search visits each column at most once, and so does a path. -/
def assignRow (weight : Fin rows → Fin columns → Nat) (state : State rows columns)
    (row : Fin rows) : State rows columns :=
  let search := (Search.start state).run weight row (columns + 1)
  match search.column with
  | none => search.toState
  | some column =>
    { search.toState with owner := handOn row search.previous columns column search.owner }

/-- Assign all rows. There are at least as many columns as rows. -/
def solve (weight : Fin rows → Fin columns → Nat) : State rows columns :=
  (List.finRange rows).foldl (assignRow weight) (State.start rows columns)

/-- The pairs of an assignment of greatest weight, by row. Every row has a column if there are
enough of them; otherwise every column has a row. -/
def best (weight : Fin rows → Fin columns → Nat) : List (Fin rows × Fin columns) :=
  if rows ≤ columns then
    let owner := (solve weight).owner
    (List.finRange rows).filterMap fun row =>
      ((List.finRange columns).find? fun column => owner[column] = some row).map (row, ·)
  else
    let owner := (solve fun column row => weight row column).owner
    (List.finRange rows).filterMap fun row => owner[row].map (row, ·)

variable {α β : Type} [Node α] [Node β]

/-- The weight of the items whose index is not among `used`. -/
def weightOfUnused (items : List α) (used : List (Fin items.length)) : Nat :=
  Whole.sum (((List.finRange items.length).filter fun index => !used.contains index).map
    fun index => Node.weight (items.get index))

/-- Compare two lists without order: pairs that match in something are listed, everything else only
counts. -/
def unordered (compare : α → β → Similarity) (label : String) (left : List α) (right : List β) :
    Similarity :=
  let table := Vector.ofFn fun row : Fin left.length =>
    Vector.ofFn fun column : Fin right.length => compare (left.get row) (right.get column)
  let pairs := (best fun row column => table[row][column].matched).filter
    fun (row, column) => 0 < table[row][column].matched
  let unused := weightOfUnused left (pairs.map (·.1)) + weightOfUnused right (pairs.map (·.2))
  (Similarity.add label (pairs.map fun (row, column) => table[row][column])).withUnmatched unused

end Assignment

end Likeness
