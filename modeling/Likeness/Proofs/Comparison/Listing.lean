import Likeness.Proofs.Comparison.Balance

/-!
# A listing loses nothing

Two lists of expressions are compared with their gaps, and each result stands for an expression of
the left list, of the right list or of both. `Labelled` states of a comparison of nodes that its
results are named after both of them, whichever of the nested comparisons made the result.
`Similarity.Lists` states of several results that they name the items of two lists in order, without
one that is missing, and that each has weight, so that a row is written for each of them. In the
rows of a comparison of two trees the first depth shows these results and nothing else.
-/

namespace Likeness

/-! ## Labels -/

/-- A comparison of nodes whose results carry the labels of both. -/
def Labelled {α : Type} [Node α] (against : α → α → Similarity) : Prop :=
  ∀ left right, (against left right).left = some (Node.label left) ∧
    (against left right).right = some (Node.label right)

/-- Literals are labelled, of one kind or not. -/
theorem Literal.labelled : Labelled Literal.against := by
  intro left right
  rw [Literal.against]
  split <;> exact ⟨rfl, rfl⟩

/-- Statements are labelled; a literal has the label of its value. -/
theorem Statement.labelled : Labelled Statement.against := by
  intro left right
  cases left with
  | unary symbol operand =>
    cases right with
    | unary symbol' operand' =>
      rw [Statement.against]
      split <;> exact ⟨rfl, rfl⟩
    | _ => exact ⟨rfl, rfl⟩
  | binary symbol first second =>
    cases right with
    | binary symbol' first' second' =>
      rw [Statement.against]
      split <;> exact ⟨rfl, rfl⟩
    | _ => exact ⟨rfl, rfl⟩
  | literal value =>
    cases right with
    | literal value' => exact Literal.labelled value value'
    | _ => exact ⟨rfl, rfl⟩
  | reference name => cases right <;> exact ⟨rfl, rfl⟩
  | group items => cases right <;> exact ⟨rfl, rfl⟩

theorem Declaration.labelled : Labelled Declaration.against := fun _ _ => ⟨rfl, rfl⟩

theorem Block.labelled : Labelled Block.against := by
  intro left right
  cases left <;> cases right <;> exact ⟨rfl, rfl⟩

/-- Expressions have the labels of what they hold. -/
theorem Expression.labelled : Labelled Expression.against := by
  intro left right
  cases left with
  | empty => cases right <;> exact ⟨rfl, rfl⟩
  | declaration declared =>
    cases right with
    | declaration declared' => exact Declaration.labelled declared declared'
    | _ => exact ⟨rfl, rfl⟩
  | block inner =>
    cases right with
    | block inner' => exact Block.labelled inner inner'
    | _ => exact ⟨rfl, rfl⟩
  | statement value =>
    cases right with
    | statement value' => exact Statement.labelled value value'
    | _ => exact ⟨rfl, rfl⟩

namespace Similarity

/-! ## Results of two lists -/

/-- Results that name the items of two lists, each list in order and all of it, and that weigh
something. -/
structure Lists (results : List Similarity) (lefts rights : List String) : Prop where
  left : (results.filter (·.kind ≠ .inserted)).map left = lefts.map some
  right : (results.filter (·.kind ≠ .removed)).map right = rights.map some
  weighs : ∀ result ∈ results, 0 < result.total

variable {result : Similarity} {results : List Similarity} {lefts rights : List String}
  {first second : String} {depth : Nat}

theorem lists_nil : Lists [] [] [] := ⟨rfl, rfl, nofun⟩

/-- One more result names an item of both lists. -/
theorem Lists.compared (rest : Lists results lefts rights) (named : result.left = some first)
    (named' : result.right = some second) (weighs : 0 < result.total) :
    Lists (result :: results) (first :: lefts) (second :: rights) := by
  have compared : result.kind = .compared := by rw [kind, named, named']
  constructor
  · simp [compared, named, ← rest.left]
  · simp [compared, named', ← rest.right]
  · exact List.forall_mem_cons.2 ⟨weighs, rest.weighs⟩

/-- One more result names an item of the left list. -/
theorem Lists.removed (rest : Lists results lefts rights) (named : result.left = some first)
    (unnamed : result.right = none) (weighs : 0 < result.total) :
    Lists (result :: results) (first :: lefts) rights := by
  have removed : result.kind = .removed := by rw [kind, named, unnamed]
  constructor
  · simp [removed, named, ← rest.left]
  · simp [removed, ← rest.right]
  · exact List.forall_mem_cons.2 ⟨weighs, rest.weighs⟩

/-- One more result names an item of the right list. -/
theorem Lists.inserted (rest : Lists results lefts rights) (unnamed : result.left = none)
    (named : result.right = some second) (weighs : 0 < result.total) :
    Lists (result :: results) lefts (second :: rights) := by
  have inserted : result.kind = .inserted := by rw [kind, unnamed, named]
  constructor
  · simp [inserted, ← rest.left]
  · simp [inserted, named, ← rest.right]
  · exact List.forall_mem_cons.2 ⟨weighs, rest.weighs⟩

/-- What accounts for the weight of a node weighs something if the node does. -/
theorem Balances.total_pos {left right : Nat} (balances : result.Balances left right)
    (positive : 0 < left) : 0 < result.total := by
  obtain ⟨account, within⟩ := balances
  omega

end Similarity

namespace Alignment

variable {α : Type} [Node α] {against : α → α → Similarity} {lefts rights : List α}
  {steps : List (AlignStep α α)}

/-- The steps of a walk name the items of both lists. -/
theorem Walk.lists (walk : Walk against lefts rights steps) (labelled : Labelled against)
    (conserves : Conserves against) (positive : ∀ item : α, 0 < Node.weight item) :
    Similarity.Lists (steps.map listed) (lefts.map Node.label) (rights.map Node.label) := by
  induction walk with
  | done => exact Similarity.lists_nil
  | pair left right _ ih =>
    obtain ⟨named, named'⟩ := labelled left right
    exact ih.compared named named' ((conserves left right).total_pos (positive left))
  | removed left _ ih => exact ih.removed rfl rfl (positive left)
  | inserted right _ ih => exact ih.inserted rfl rfl (positive right)

end Alignment

/-- Expressions that are compared with their gaps are all named. -/
theorem Expression.lists_gaps (label : String) (lefts rights : List Expression) :
    Similarity.Lists (Alignment.gaps Expression.against label lefts rights).children
      (lefts.map Expression.label) (rights.map Expression.label) :=
  (Alignment.optimal_align Expression.against lefts rights).walk.lists Expression.labelled
    hereditary_balances.expression Expression.weight_pos

/-! ## Rows -/

namespace Similarity

/-- What holds of a result when it holds of its parts holds of every result. -/
@[elab_as_elim]
theorem induction {motive : Similarity → Prop}
    (parts : ∀ similarity, (∀ child ∈ similarity.children, motive child) → motive similarity)
    (similarity : Similarity) : motive similarity :=
  @Similarity.rec motive (fun results => ∀ result ∈ results, motive result)
    (fun _ _ _ _ _ _ children => parts _ children) nofun
    (fun _ _ first rest => List.forall_mem_cons.2 ⟨first, rest⟩) similarity

/-- The rows of a result start with its own. -/
theorem rowsAt_eq (depth : Nat) (similarity : Similarity) :
    rowsAt depth similarity =
      similarity.row depth :: rowsOfAll (depth + 1) similarity.children := by
  cases similarity
  rfl

@[simp] theorem depth_row (similarity : Similarity) (depth : Nat) :
    (similarity.row depth).depth = depth := by
  rw [row]
  split <;> rfl

@[simp] theorem kind_row (similarity : Similarity) (depth : Nat) :
    (similarity.row depth).kind = similarity.kind := by
  rw [row]
  split <;> simp_all

theorem left_row {similarity : Similarity} {label : String} (named : similarity.left = some label)
    (depth : Nat) : (similarity.row depth).left = label := by
  cases other : similarity.right <;> simp [row, kind, named, other]

theorem right_row {similarity : Similarity} {label : String} (named : similarity.right = some label)
    (depth : Nat) : (similarity.row depth).right = label := by
  cases other : similarity.left <;> simp [row, kind, named, other]

/-- The rows of several results are no less deep than they are written, if those of each are. -/
theorem depth_le_of_mem_rowsOfAll {results : List Similarity} {depth : Nat}
    (each : ∀ result ∈ results, ∀ row ∈ rowsAt depth result, depth ≤ row.depth) :
    ∀ row ∈ rowsOfAll depth results, depth ≤ row.depth := by
  induction results with
  | nil => exact nofun
  | cons result results ih =>
    obtain ⟨first, others⟩ := List.forall_mem_cons.1 each
    rw [rowsOfAll]
    split
    · exact ih others
    · exact List.forall_mem_append.2 ⟨first, ih others⟩

/-- The rows of a result and of its parts are no less deep than they are written. -/
theorem depth_le_of_mem_rowsAt (similarity : Similarity) :
    ∀ depth, ∀ row ∈ rowsAt depth similarity, depth ≤ row.depth := by
  induction similarity using Similarity.induction with
  | parts similarity ih =>
    intro depth row member
    rw [rowsAt_eq] at member
    obtain rfl | member := List.mem_cons.1 member
    · exact Nat.le_of_eq (depth_row similarity depth).symm
    · have deeper := depth_le_of_mem_rowsOfAll fun child part => ih child part (depth + 1)
      exact Nat.le_of_succ_le (deeper row member)

/-- At the depth of a result stands no row but its own. -/
theorem filter_rowsAt (depth : Nat) (similarity : Similarity) :
    (rowsAt depth similarity).filter (·.depth = depth) = [similarity.row depth] := by
  have deeper : (rowsOfAll (depth + 1) similarity.children).filter (·.depth = depth) = [] := by
    apply List.filter_eq_nil_iff.2
    intro row member
    have below := depth_le_of_mem_rowsOfAll
      (fun child _ => depth_le_of_mem_rowsAt child (depth + 1)) row member
    simp only [decide_eq_true_eq]
    omega
  rw [rowsAt_eq, List.filter_cons, if_pos (by simp), deeper]

/-- Of several results that weigh something, one row each is written at their depth. -/
theorem filter_rowsOfAll {results : List Similarity} (depth : Nat)
    (weighs : ∀ result ∈ results, 0 < result.total) :
    (rowsOfAll depth results).filter (·.depth = depth) = results.map (·.row depth) := by
  induction results with
  | nil => rfl
  | cons result results ih =>
    obtain ⟨first, others⟩ := List.forall_mem_cons.1 weighs
    rw [rowsOfAll, if_neg (Nat.ne_of_gt first), List.filter_append, filter_rowsAt, ih others]
    rfl

/-- At the first depth a listing has one row for each part that weighs something. -/
theorem filter_rows {similarity : Similarity}
    (weighs : ∀ child ∈ similarity.children, 0 < child.total) :
    similarity.rows.filter (·.depth = 1) = similarity.children.map (·.row 1) := by
  rw [rows, rowsAt_eq, List.filter_cons, if_neg (by simp), filter_rowsOfAll 1 weighs]

/-- What shows the label of each result that has one shows the labels of all of them. -/
theorem map_eq_of_named {results : List Similarity} {labels : List String}
    {named : Similarity → Option String} {shown : Similarity → String}
    (all : results.map named = labels.map some)
    (shows : ∀ {result label}, named result = some label → shown result = label) :
    results.map shown = labels := by
  induction results generalizing labels with
  | nil => simpa using all
  | cons result results ih =>
    cases labels with
    | nil => cases all
    | cons label labels =>
      obtain ⟨first, rest⟩ := List.cons.inj all
      rw [List.map_cons, shows first, ih rest]

variable {results : List Similarity} {lefts rights : List String}

/-- The rows of results that name two lists show the left one in their left cells. -/
theorem Lists.left_cells (lists : Lists results lefts rights) (depth : Nat) :
    ((results.map (·.row depth)).filter (·.kind ≠ .inserted)).map Row.left = lefts := by
  simp only [List.filter_map, Function.comp_def, kind_row, List.map_map]
  exact map_eq_of_named lists.left fun named => left_row named depth

/-- The rows of results that name two lists show the right one in their right cells. -/
theorem Lists.right_cells (lists : Lists results lefts rights) (depth : Nat) :
    ((results.map (·.row depth)).filter (·.kind ≠ .removed)).map Row.right = rights := by
  simp only [List.filter_map, Function.comp_def, kind_row, List.map_map]
  exact map_eq_of_named lists.right fun named => right_row named depth

end Similarity

/-- No expression is lost where two lists of them are compared with their gaps: two bodies, one of
which may be missing, or the expressions of two trees. The results name both lists in order, and
each weighs something. In the rows of two trees there is one row for each result at the first depth,
in order, and the cells of these rows show the expressions of both trees. -/
theorem listing_loses_nothing :
    (∀ label lefts rights, Similarity.Lists
      (Alignment.gapsBy label (Expression.comparisons lefts rights) rights).children
      (lefts.map Expression.label) (rights.map Expression.label)) ∧
    (∀ label left rights, Similarity.Lists
      (Alignment.gapsBy label (Expression.optionalComparisons left rights) rights).children
      ((left.getD []).map Expression.label) (rights.map Expression.label)) ∧
    ∀ left right : SyntaxTree,
      let rows := (compare left right).rows.filter (·.depth = 1)
      Similarity.Lists (compare left right).children (left.expressions.map Expression.label)
          (right.expressions.map Expression.label) ∧
        rows = (compare left right).children.map (·.row 1) ∧
        (rows.filter (·.kind ≠ .inserted)).map Row.left = left.expressions.map Expression.label ∧
        (rows.filter (·.kind ≠ .removed)).map Row.right =
          right.expressions.map Expression.label := by
  refine ⟨?_, ?_, ?_⟩
  · intro label lefts rights
    rw [Expression.comparisons_eq]
    exact Expression.lists_gaps label lefts rights
  · intro label left rights
    rw [Expression.optionalComparisons_eq]
    exact Expression.lists_gaps label (left.getD []) rights
  · intro left right rows
    have lists : Similarity.Lists (compare left right).children _ _ :=
      Expression.lists_gaps "file" left.expressions right.expressions
    have first : rows = (compare left right).children.map (·.row 1) :=
      Similarity.filter_rows lists.weighs
    refine ⟨lists, first, ?_, ?_⟩
    · rw [first]
      exact lists.left_cells 1
    · rw [first]
      exact lists.right_cells 1

end Likeness
