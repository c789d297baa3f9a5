import Likeness.Listing
import Likeness.Proofs.Comparison.Structure
import Mathlib.Data.List.Lex

/-!
# A listing shows how its nodes are nested

A listed node has a place: the nodes that it is below, from the outermost one on, and itself, each
between its siblings. `Listing.places` walks a forest depth first, and a listing has one line for
each place, with a column for every ancestor and a connector for the node. A column starts with a
blank or a bar and a connector with a corner or a tee, so the depth of a node can be read off the
start of its line whatever its label is, and its type stands behind the connector up to the first
colon. Depths and types in depth-first order tell a forest apart from all others.
-/

namespace Likeness

/-! ## Nodes -/

namespace ListingNode

/-- The type of a node. -/
def typeName : ListingNode → String
  | .node typeName _ _ => typeName

/-- The label of a node before it is cut. -/
def label : ListingNode → String
  | .node _ label _ => label

/-- The nodes directly below a node. -/
def children : ListingNode → List ListingNode
  | .node _ _ children => children

mutual

/-- The same node and the same nodes below it, without labels. -/
def bare : ListingNode → ListingNode
  | .node typeName _ children => .node typeName "" (bareOfAll children)

/-- The same nodes without labels. -/
def bareOfAll : List ListingNode → List ListingNode
  | [] => []
  | first :: rest => first.bare :: bareOfAll rest

end

/-- A node without labels has its type and its children without labels. -/
theorem bare_eq (node : ListingNode) :
    node.bare = .node node.typeName "" (bareOfAll node.children) := by
  cases node
  rw [bare, typeName, children]

/-- What holds of a forest when it holds below each of its nodes holds of every forest. -/
@[elab_as_elim]
theorem forestInduction {motive : List ListingNode → Prop}
    (step : ∀ forest, (∀ node ∈ forest, motive node.children) → motive forest)
    (forest : List ListingNode) : motive forest := by
  refine step forest fun node _ => ?_
  exact @ListingNode.rec (fun node => motive node.children)
    (fun forest => ∀ node ∈ forest, motive node.children) (fun _ _ children below =>
      step children below) nofun (fun _ _ first rest => List.forall_mem_cons.2 ⟨first, rest⟩) node

/-- A property that a node has and all nodes below it have. -/
inductive All (property : ListingNode → Prop) : ListingNode → Prop where
  | node {listed : ListingNode} (own : property listed)
      (below : ∀ child ∈ listed.children, All property child) : All property listed

end ListingNode

namespace Listing

/-! ## Places -/

/-- A node between its siblings. -/
structure Sibling where
  before : List ListingNode
  node : ListingNode
  behind : List ListingNode

/-- A node of a listing and the nodes that it is below, from the outermost one on. -/
structure Place where
  ancestors : List Sibling
  own : Sibling

namespace Sibling

/-- The node and its siblings in order. -/
def all (sibling : Sibling) : List ListingNode :=
  sibling.before ++ sibling.node :: sibling.behind

/-- What stands for an ancestor in the lines below it: a bar if a sibling comes later. -/
def column (sibling : Sibling) : List Char :=
  if sibling.behind.isEmpty then [' ', ' '] else ['│', ' ']

/-- What connects a node to its siblings: a corner if none comes later. -/
def connector (sibling : Sibling) : List Char :=
  if sibling.behind.isEmpty then ['└', '─'] else ['├', '─']

end Sibling

/-- Each node is one of the children of the node before it, and the first one is in a forest. -/
def Leads (forest : List ListingNode) : List Sibling → Sibling → Prop
  | [], own => own.all = forest
  | first :: ancestors, own => first.all = forest ∧ Leads first.node.children ancestors own

namespace Place

/-- The place is one in a forest. -/
def StandsIn (forest : List ListingNode) (place : Place) : Prop :=
  Leads forest place.ancestors place.own

/-- How many nodes the node is below. -/
def depth (place : Place) : Nat := place.ancestors.length

/-- How many siblings stand in front of each ancestor and of the node itself. -/
def address (place : Place) : List Nat :=
  (place.ancestors ++ [place.own]).map fun sibling => sibling.before.length

/-- The place comes first in depth-first order: in front of what is below it, and of what is below
later siblings. -/
def Precedes (place later : Place) : Prop := List.Lex (· < ·) place.address later.address

/-- The line of a node: a column for each ancestor, a connector, its type and its label, which is
cut. -/
def line (place : Place) : List Char :=
  place.ancestors.flatMap Sibling.column ++ place.own.connector ++ ' ' ::
    (place.own.node.typeName.toList ++ ':' :: ' ' ::
      (Text.cutWithMark labelWidth "..." place.own.node.label).toList)

end Place

mutual

/-- The places below a node, depth first. -/
def placesBelow (ancestors : List Sibling) : ListingNode → List Place
  | .node _ _ children => placesFrom ancestors [] children

/-- The places of nodes behind their siblings `before`, and of what is below them, depth first. -/
def placesFrom (ancestors : List Sibling) (before : List ListingNode) :
    List ListingNode → List Place
  | [] => []
  | node :: rest =>
    ⟨ancestors, ⟨before, node, rest⟩⟩ ::
      (placesBelow (ancestors ++ [⟨before, node, rest⟩]) node
        ++ placesFrom ancestors (before ++ [node]) rest)

end

/-- The nodes that a tree is listed with. -/
def forest (tree : SyntaxTree) : List ListingNode := ofExpressions tree.expressions

/-- The places of a tree, depth first. -/
def places (tree : SyntaxTree) : List Place := placesFrom [] [] (forest tree)

variable {ancestors : List Sibling} {before nodes : List ListingNode} {own : Sibling}
  {place : Place}

/-- The places below a node are those of its children. -/
theorem placesBelow_eq (ancestors : List Sibling) (node : ListingNode) :
    placesBelow ancestors node = placesFrom ancestors [] node.children := by
  cases node
  rw [placesBelow, ListingNode.children]

/-- Nodes that stand behind others, each between its siblings. -/
def splitsFrom (before : List ListingNode) : List ListingNode → List Sibling
  | [] => []
  | node :: rest => ⟨before, node, rest⟩ :: splitsFrom (before ++ [node]) rest

/-- A node is split off where its siblings are those in front of it and those behind it. -/
theorem mem_splitsFrom : own ∈ splitsFrom before nodes ↔
    ∃ between, own.before = before ++ between ∧ nodes = between ++ own.node :: own.behind := by
  induction nodes generalizing before with
  | nil => simp [splitsFrom]
  | cons node rest ih =>
    rw [splitsFrom, List.mem_cons, ih]
    constructor
    · rintro (rfl | ⟨between, front, shape⟩)
      · exact ⟨[], (List.append_nil before).symm, rfl⟩
      · exact ⟨node :: between, by rw [front, List.append_assoc]; rfl, by rw [shape]; rfl⟩
    · rintro ⟨between, front, shape⟩
      cases between with
      | nil =>
        obtain ⟨rfl, rfl⟩ := List.cons.inj shape
        rw [List.append_nil] at front
        exact .inl (front ▸ rfl)
      | cons first between =>
        obtain ⟨rfl, rfl⟩ := List.cons.inj shape
        exact .inr ⟨between, by rw [front, List.append_assoc]; rfl, rfl⟩

/-- The nodes of a forest are split off between their siblings. -/
theorem mem_splits : own ∈ splitsFrom [] nodes ↔ own.all = nodes := by
  rw [mem_splitsFrom]
  constructor
  · rintro ⟨between, front, shape⟩
    rw [Sibling.all, front, shape, List.nil_append]
  · rintro rfl
    exact ⟨own.before, rfl, rfl⟩

/-- Nodes are split off in order. -/
theorem pairwise_splitsFrom (before nodes : List ListingNode) :
    (splitsFrom before nodes).Pairwise fun first second =>
      first.before.length < second.before.length := by
  induction nodes generalizing before with
  | nil => exact .nil
  | cons node rest ih =>
    refine .cons (fun later member => ?_) (ih (before ++ [node]))
    obtain ⟨between, front, _⟩ := mem_splitsFrom.1 member
    simp only [front, List.length_append, List.length_singleton]
    omega

/-- The places of a forest are those of each of its nodes with what is below it. -/
theorem placesFrom_eq (ancestors : List Sibling) (before nodes : List ListingNode) :
    placesFrom ancestors before nodes = (splitsFrom before nodes).flatMap fun own =>
      ⟨ancestors, own⟩ :: placesFrom (ancestors ++ [own]) [] own.node.children := by
  induction nodes generalizing before with
  | nil => rfl
  | cons node rest ih =>
    rw [placesFrom, placesBelow_eq, ih, splitsFrom, List.flatMap_cons, List.cons_append]

/-- The places of a forest are all that stand in it. -/
theorem mem_placesFrom (nodes : List ListingNode) :
    ∀ ancestors place, place ∈ placesFrom ancestors [] nodes ↔
      ∃ inner own, place = ⟨ancestors ++ inner, own⟩ ∧ Leads nodes inner own := by
  induction nodes using ListingNode.forestInduction with
  | step nodes ih =>
    intro ancestors place
    rw [placesFrom_eq]
    simp only [List.mem_flatMap, List.mem_cons, mem_splits]
    constructor
    · rintro ⟨own, rfl, rfl | below⟩
      · exact ⟨[], own, by rw [List.append_nil], rfl⟩
      · have child : own.node ∈ own.all := by simp [Sibling.all]
        obtain ⟨inner, last, rfl, leads⟩ := (ih _ child _ place).1 below
        exact ⟨own :: inner, last, by rw [List.append_assoc]; rfl, rfl, leads⟩
    · rintro ⟨inner, own, rfl, leads⟩
      cases inner with
      | nil => exact ⟨own, leads, .inl (by rw [List.append_nil])⟩
      | cons first inner =>
        obtain ⟨rfl, leads⟩ := leads
        have child : first.node ∈ first.all := by simp [Sibling.all]
        refine ⟨first, rfl, .inr ((ih _ child _ _).2 ⟨inner, own, ?_, leads⟩)⟩
        rw [List.append_assoc]
        rfl

/-- The places of a tree are all that stand in it. -/
theorem mem_places {tree : SyntaxTree} : place ∈ places tree ↔ place.StandsIn (forest tree) := by
  rw [places, mem_placesFrom]
  constructor
  · rintro ⟨inner, own, rfl, leads⟩
    exact leads
  · exact fun stands => ⟨place.ancestors, place.own, rfl, stands⟩

/-- The places of a forest are in depth-first order. -/
theorem pairwise_placesFrom (nodes : List ListingNode) :
    ∀ ancestors, (placesFrom ancestors [] nodes).Pairwise Place.Precedes := by
  induction nodes using ListingNode.forestInduction with
  | step nodes ih =>
    intro ancestors
    -- What is listed for a node has an address that starts with those of its ancestors and its own.
    have address (own : Sibling) (place : Place)
        (member : place ∈ placesFrom (ancestors ++ [own]) [] own.node.children) :
        ∃ inner, place.address =
          ancestors.map (·.before.length) ++ own.before.length :: inner ∧ inner ≠ [] := by
      obtain ⟨inner, last, rfl, _⟩ := (mem_placesFrom _ _ _).1 member
      exact ⟨(inner ++ [last]).map (·.before.length), by simp [Place.address], by simp⟩
    rw [placesFrom_eq, List.pairwise_flatMap]
    constructor
    · intro own member
      have child : own.node ∈ nodes := mem_splits.1 member ▸ by simp [Sibling.all]
      refine .cons (fun place below => ?_) (ih _ child _)
      obtain ⟨inner, shape, more⟩ := address own place below
      obtain ⟨first, rest, rfl⟩ := List.exists_cons_of_ne_nil more
      rw [Place.Precedes, shape, Place.address, List.map_append]
      exact List.Lex.append_left _ (.cons .nil) _
    · have starts (own : Sibling) (place : Place) (member : place ∈ (⟨ancestors, own⟩ : Place) ::
          placesFrom (ancestors ++ [own]) [] own.node.children) :
          ∃ inner, place.address =
            ancestors.map (·.before.length) ++ own.before.length :: inner := by
        rcases List.mem_cons.1 member with rfl | member
        · exact ⟨[], by simp [Place.address]⟩
        · obtain ⟨inner, shape, _⟩ := address own place member
          exact ⟨inner, shape⟩
      refine (pairwise_splitsFrom [] nodes).imp fun less place member later member' => ?_
      obtain ⟨inner, shape⟩ := starts _ place member
      obtain ⟨inner', shape'⟩ := starts _ later member'
      rw [Place.Precedes, shape, shape']
      exact List.Lex.append_left _ (.rel less) _

/-- What all nodes of a forest have the node at each of its places has. -/
theorem Leads.node {property : ListingNode → Prop} {ancestors : List Sibling}
    (all : ∀ node ∈ nodes, node.All property) (leads : Leads nodes ancestors own) :
    property own.node := by
  induction ancestors generalizing nodes with
  | nil =>
    subst leads
    cases all own.node (by simp [Sibling.all]) with
    | node here _ => exact here
  | cons first ancestors ih =>
    obtain ⟨rfl, leads⟩ := leads
    cases all first.node (by simp [Sibling.all]) with
    | node _ below => exact ih below leads

/-! ## Lines -/

/-- The lines of a forest are those of its places. -/
theorem toList_renderNodes (nodes : List ListingNode) :
    ∀ ancestors before margin, margin.toList = ancestors.flatMap Sibling.column →
      (renderNodes margin nodes).toList =
        (placesFrom ancestors before nodes).flatMap fun place => place.line ++ ['\n'] := by
  induction nodes using ListingNode.forestInduction with
  | step nodes ih =>
    intro ancestors before margin columns
    induction nodes generalizing before with
    | nil => rfl
    | cons node rest others =>
      obtain ⟨below, inOthers⟩ := List.forall_mem_cons.1 ih
      obtain ⟨typeName, label, children⟩ := node
      let own : Sibling := ⟨before, .node typeName label children, rest⟩
      have connector : (if rest.isEmpty then "└─" else "├─").toList = own.connector := by
        rw [apply_ite String.toList]
        rfl
      have column : (margin ++ if rest.isEmpty then "  " else "│ ").toList =
          (ancestors ++ [own]).flatMap Sibling.column := by
        rw [String.toList_append, columns, List.flatMap_append, List.flatMap_singleton,
          apply_ite String.toList]
        rfl
      have inside := below _ [] _ column
      rw [renderNodes, renderNode, placesFrom, placesBelow_eq, List.flatMap_cons,
        List.flatMap_append, ← inside, ← others inOthers]
      simp only [String.toList_append, columns, connector]
      simp [Place.line, own, ListingNode.typeName, ListingNode.label]
      rfl

/-- Lines that hold no line feed are what a text is split into at the line feeds behind them. -/
theorem splitOn_lines {lines : List (List Char)} (plain : ∀ line ∈ lines, '\n' ∉ line) :
    (lines.flatMap (· ++ ['\n'])).splitOn '\n' = lines ++ [[]] := by
  induction lines with
  | nil => rfl
  | cons line lines ih =>
    obtain ⟨here, others⟩ := List.forall_mem_cons.1 plain
    have alone : line.splitOnP (· == '\n') = [line] := by
      refine List.splitOnP_eq_singleton fun char member => ?_
      rw [beq_eq_false_iff_ne]
      rintro rfl
      exact here member
    have rest := ih others
    rw [List.splitOn_eq_splitOnP] at rest ⊢
    rw [List.flatMap_cons, List.append_assoc, List.singleton_append,
      List.splitOnP_append_cons _ _ (by decide), alone, rest]
    rfl

/-- Every type of node is named by letters. -/
def Named (node : ListingNode) : Prop := node.typeName.toList.all Char.isAlpha

/-- A node is named if its type is and all nodes below it are. -/
theorem all_named {typeName label : String} {children : List ListingNode}
    (letters : typeName.toList.all Char.isAlpha) (below : ∀ child ∈ children, child.All Named) :
    (ListingNode.node typeName label children).All Named :=
  .node letters below

/-- A statement is listed with named nodes. -/
theorem named_ofStatement (statement : Statement) : (ofStatement statement).All Named := by
  induction statement using Statement.induction with
  | unary symbol operand ih =>
    rw [ofStatement]
    refine all_named ?_ (List.forall_mem_singleton.2 ih)
    cases symbol <;> decide
  | binary symbol first second ihFirst ihSecond =>
    rw [ofStatement]
    refine all_named ?_ (List.forall_mem_cons.2 ⟨ihFirst, List.forall_mem_singleton.2 ihSecond⟩)
    cases symbol <;> decide
  | literal value =>
    rw [ofStatement]
    refine all_named ?_ nofun
    cases value <;> simp only [Literal.typeName] <;> decide
  | reference name =>
    rw [ofStatement]
    exact all_named (by decide) nofun
  | group items ih =>
    rw [ofStatement]
    refine all_named (by decide) ?_
    show ∀ child ∈ ofStatements items, _
    induction items with
    | nil => exact nofun
    | cons item items others =>
      obtain ⟨here, rest⟩ := List.forall_mem_cons.1 ih
      rw [ofStatements]
      exact List.forall_mem_cons.2 ⟨here, others rest⟩

/-- A declaration is listed with named nodes. -/
theorem named_ofDeclaration (declared : Declaration) : (ofDeclaration declared).All Named := by
  refine all_named (by decide) fun child member => ?_
  obtain ⟨value, _, rfl⟩ := List.mem_map.1 member
  exact named_ofStatement value

/-- Expressions are listed with named nodes, if each of them is. -/
theorem named_ofExpressions {items : List Expression}
    (each : ∀ item ∈ items, (ofExpression item).All Named) :
    ∀ node ∈ ofExpressions items, node.All Named := by
  induction items with
  | nil => exact nofun
  | cons item items ih =>
    obtain ⟨here, others⟩ := List.forall_mem_cons.1 each
    rw [ofExpressions]
    exact List.forall_mem_cons.2 ⟨here, ih others⟩

/-- A body is listed with named nodes, if its expressions are. -/
theorem named_body (part : String) {items : List Expression}
    (each : ∀ item ∈ items, (ofExpression item).All Named) :
    (ListingNode.node "Body" part (ofExpressions items)).All Named :=
  all_named (by decide) (named_ofExpressions each)

/-- Expressions, blocks and catch clauses are listed with named nodes. -/
theorem hereditary_named : Expression.Hereditary
    (fun expression => (ofExpression expression).All Named)
    (fun block => ∀ node ∈ ofBlock block, node.All Named)
    (fun clause => (ofClause clause).All Named) where
  empty := all_named (by decide) nofun
  declaration := by
    intro declared
    rw [ofExpression]
    exact named_ofDeclaration declared
  statement := by
    intro value
    rw [ofExpression]
    exact named_ofStatement value
  block := by
    intro inner parts
    rw [ofExpression]
    refine all_named ?_ parts
    cases inner <;> simp only [Block.typeName] <;> decide
  branch := by
    intro condition thenBody elseBody ihThen ihElse
    have alternative : ∀ node ∈ (if elseBody.isEmpty then [] else
        [ListingNode.node "Body" "else" (ofExpressions elseBody)]), node.All Named := by
      split
      · exact nofun
      · exact List.forall_mem_singleton.2 (named_body "else" ihElse)
    rw [ofBlock]
    refine List.forall_mem_append.2 ⟨?_, alternative⟩
    simp [named_ofStatement, named_body _ ihThen]
  whileLoop := by
    intro condition body ih
    rw [ofBlock]
    simp [named_ofStatement, named_body _ ih]
  doWhileLoop := by
    intro condition body ih
    rw [ofBlock]
    simp [named_ofStatement, named_body _ ih]
  forLoop := by
    intro init condition iteration body ihInit ihCondition ihIteration ih
    rw [ofBlock]
    simp [ihInit, ihCondition, ihIteration, named_body _ ih]
  guarded := by
    intro resources body handlers cleanup ihBody ihHandlers ihCleanup
    have clauses : ∀ node ∈ ofClauses handlers, node.All Named := by
      induction handlers with
      | nil => exact nofun
      | cons clause handlers others =>
        obtain ⟨here, rest⟩ := List.forall_mem_cons.1 ihHandlers
        rw [ofClauses]
        exact List.forall_mem_cons.2 ⟨here.1, others rest⟩
    have last : ∀ node ∈ ofCleanup cleanup, node.All Named := by
      cases cleanup with
      | none => exact nofun
      | some items => exact List.forall_mem_singleton.2 (named_body "finally" ihCleanup)
    rw [ofBlock]
    refine List.forall_mem_append.2 ⟨List.forall_mem_map.2 fun declared _ => ?_, ?_⟩
    · exact named_ofDeclaration declared
    · exact List.forall_mem_cons.2 ⟨named_body "try" ihBody,
        List.forall_mem_append.2 ⟨clauses, last⟩⟩
  clause := by
    intro exceptionTypes binder body ih
    rw [ofClause]
    exact all_named (by decide) (named_ofExpressions ih)

/-- All nodes of a tree are named. -/
theorem named_of_mem_places {tree : SyntaxTree} (member : place ∈ places tree) :
    Named place.own.node :=
  Leads.node (named_ofExpressions fun item _ => hereditary_named.expression item)
    (mem_places.1 member)

/-! ## Reading a listing -/

/-- The number of columns that a line starts with. -/
def depthOf : List Char → Nat
  | first :: _ :: rest => if first = ' ' || first = '│' then depthOf rest + 1 else 0
  | _ => 0

/-- The type of node that a line shows: what stands behind the columns, the connector and a blank,
up to the first colon. -/
def typeOf (line : List Char) : List Char :=
  (line.drop (2 * depthOf line + 3)).takeWhile (· ≠ ':')

/-- The depth of a node is that of its line. -/
theorem depthOf_line (place : Place) : depthOf place.line = place.depth := by
  obtain ⟨ancestors, own⟩ := place
  rw [Place.line, Place.depth, List.append_assoc]
  induction ancestors with
  | nil =>
    rw [List.flatMap_nil, List.nil_append, Sibling.connector]
    split <;> rfl
  | cons first ancestors ih =>
    rw [List.flatMap_cons, List.append_assoc, Sibling.column]
    split <;> exact congrArg (· + 1) ih

/-- The type of a named node is that of its line. -/
theorem typeOf_line (named : Named place.own.node) :
    typeOf place.line = place.own.node.typeName.toList := by
  have columns : (place.ancestors.flatMap Sibling.column).length = 2 * place.depth := by
    rw [Place.depth]
    induction place.ancestors with
    | nil => rfl
    | cons first ancestors ih =>
      have two : first.column.length = 2 := by
        rw [Sibling.column]
        split <;> rfl
      rw [List.flatMap_cons, List.length_append, ih, two, List.length_cons]
      omega
  have connector : place.own.connector.length = 2 := by
    rw [Sibling.connector]
    split <;> rfl
  have letters : ∀ char ∈ place.own.node.typeName.toList, decide (char ≠ ':') := by
    intro char member
    have letter := List.all_eq_true.1 named char member
    rw [decide_eq_true_iff]
    rintro rfl
    contradiction
  have behind : place.line.drop (2 * place.depth + 3) = place.own.node.typeName.toList ++
      ':' :: ' ' :: (Text.cutWithMark labelWidth "..." place.own.node.label).toList := by
    rw [Place.line, List.append_cons]
    refine List.drop_left' ?_
    simp only [List.length_append, columns, connector, List.length_singleton]
  rw [typeOf, depthOf_line, behind, List.takeWhile_append_of_pos letters]
  simp

/-- What a line tells of a node: its depth and its type. -/
def Place.entry (place : Place) : Nat × String := (place.depth, place.own.node.typeName)

/-- What comes next is not as deep as some depth. -/
def Shallow (depth : Nat) (entries : List (Nat × String)) : Prop :=
  ∀ entry ∈ entries.head?, entry.1 < depth

/-- Nodes come next at their depth, or else what stands behind them. -/
theorem shallow_entries {behind : List (Nat × String)} (shallow : Shallow ancestors.length behind) :
    Shallow (ancestors.length + 1)
      ((placesFrom ancestors before nodes).map Place.entry ++ behind) := by
  cases nodes with
  | nil => exact fun entry member => Nat.lt_succ_of_lt (shallow entry member)
  | cons node rest =>
    rintro _ ⟨⟩
    exact Nat.lt_succ_self _

/-- Depths and types in depth-first order tell a forest, up to where something less deep comes. -/
theorem bareOfAll_eq_of_entries (nodes : List ListingNode) :
    ∀ {nodes' : List ListingNode} {ancestors ancestors' : List Sibling}
      {before before' : List ListingNode} {behind behind' : List (Nat × String)},
      ancestors.length = ancestors'.length → Shallow ancestors.length behind →
      Shallow ancestors.length behind' →
      (placesFrom ancestors before nodes).map Place.entry ++ behind =
        (placesFrom ancestors' before' nodes').map Place.entry ++ behind' →
      ListingNode.bareOfAll nodes = ListingNode.bareOfAll nodes' ∧ behind = behind' := by
  induction nodes using ListingNode.forestInduction with
  | step nodes ih =>
    intro nodes' ancestors ancestors' before before' behind behind' level shallow shallow' same
    induction nodes generalizing nodes' before before' with
    | nil =>
      cases nodes' with
      | nil => exact ⟨rfl, same⟩
      | cons node' rest' =>
        -- The first node on the right would be deeper than what comes next on the left.
        have first := shallow (ancestors'.length, node'.typeName)
          (by rw [← List.nil_append behind]; exact same ▸ rfl)
        omega
    | cons node rest others =>
      cases nodes' with
      | nil =>
        have first := shallow' (ancestors.length, node.typeName)
          (by rw [← List.nil_append behind']; exact same ▸ rfl)
        omega
      | cons node' rest' =>
        obtain ⟨below, inOthers⟩ := List.forall_mem_cons.1 ih
        simp only [placesFrom, placesBelow_eq, List.map_cons, List.map_append, List.cons_append,
          List.append_assoc, List.cons.injEq] at same
        obtain ⟨head, tail⟩ := same
        have children := below (by simp [level]) (by simpa using shallow_entries shallow)
          (by simpa [level] using shallow_entries (level ▸ shallow')) tail
        obtain ⟨inside, tail⟩ := children
        obtain ⟨siblings, left⟩ := others inOthers tail
        refine ⟨?_, left⟩
        rw [ListingNode.bareOfAll, ListingNode.bareOfAll, ListingNode.bare_eq,
          ListingNode.bare_eq node', (Prod.mk.inj head).2, inside, siblings]

/-- A tree whose nodes are listed with labels on one line. -/
def OnLines (tree : SyntaxTree) : Prop := ∀ place ∈ places tree, '\n' ∉ place.own.node.label.toList

/-- A label is cut to what it starts with and perhaps a mark. -/
theorem mem_cutWithMark {width : Nat} {mark text : String} {char : Char}
    (member : char ∈ (Text.cutWithMark width mark text).toList) :
    char ∈ text.toList ∨ char ∈ mark.toList := by
  rw [Text.cutWithMark] at member
  split at member
  · exact .inl member
  · rw [String.toList_append, String.toList_ofList, List.mem_append] at member
    exact member.imp_left List.mem_of_mem_take

/-- A node with a label on one line has one line. -/
theorem lineFeed_not_mem_line (named : Named place.own.node)
    (plain : '\n' ∉ place.own.node.label.toList) : '\n' ∉ place.line := by
  have column (sibling : Sibling) : '\n' ∉ sibling.column := by
    rw [Sibling.column]
    split <;> decide
  have connector : '\n' ∉ place.own.connector := by
    rw [Sibling.connector]
    split <;> decide
  have typeName : '\n' ∉ place.own.node.typeName.toList := fun member => by
    have letter := List.all_eq_true.1 named _ member
    contradiction
  have label : '\n' ∉ (Text.cutWithMark labelWidth "..." place.own.node.label).toList :=
    fun member => (mem_cutWithMark member).elim plain (by decide)
  simp [Place.line, column, connector, typeName, label]

/-- The lines of a listing are those of its places. -/
theorem splitOn_render {tree : SyntaxTree} (plain : OnLines tree) :
    (render tree).toList.splitOn '\n' = (places tree).map Place.line ++ [[]] := by
  have alone : ∀ line ∈ (places tree).map Place.line, '\n' ∉ line := by
    refine List.forall_mem_map.2 fun place member => ?_
    exact lineFeed_not_mem_line (named_of_mem_places member) (plain place member)
  have split := splitOn_lines alone
  rw [List.flatMap_map] at split
  rw [render, ← forest, toList_renderNodes (forest tree) [] [] "" rfl]
  exact split

/-- Trees with the same listing have the same nodes, up to labels. -/
theorem bare_eq_of_render_eq {tree other : SyntaxTree} (plain : OnLines tree)
    (plain' : OnLines other) (same : render tree = render other) :
    ListingNode.bareOfAll (forest tree) = ListingNode.bareOfAll (forest other) := by
  have entries {tree : SyntaxTree} (plain : OnLines tree) :
      (places tree).map Place.entry = ((render tree).toList.splitOn '\n').dropLast.map fun line =>
        (depthOf line, String.ofList (typeOf line)) := by
    rw [splitOn_render plain, List.dropLast_concat, List.map_map]
    refine List.map_congr_left fun place member => ?_
    simp [Place.entry, depthOf_line, typeOf_line (named_of_mem_places member)]
  have alike : (places tree).map Place.entry = (places other).map Place.entry := by
    rw [entries plain, entries plain', same]
  have ended : Shallow ([] : List Sibling).length [] := fun _ member => nomatch member
  have whole : (places tree).map Place.entry ++ [] = (places other).map Place.entry ++ [] := by
    rw [alike]
  exact (bareOfAll_eq_of_entries (forest tree) rfl ended ended whole).1

end Listing

/-- A listing of a tree has one line for each place, in depth-first order, and nothing else: the
places are all that stand in the tree, and each line starts with a column for each ancestor, which is
a bar just when a sibling of the ancestor comes later, and a connector, which is a corner just when
no sibling of the node does. Trees with the same listing have the same nodes of the same types,
nested and ordered alike. -/
theorem listing_tells_nesting {tree : SyntaxTree} (plain : Listing.OnLines tree) :
    (Listing.render tree).toList.splitOn '\n' =
        (Listing.places tree).map Listing.Place.line ++ [[]] ∧
      (∀ place, place ∈ Listing.places tree ↔ place.StandsIn (Listing.forest tree)) ∧
      (Listing.places tree).Pairwise Listing.Place.Precedes ∧
      ∀ other, Listing.OnLines other → Listing.render tree = Listing.render other →
        ListingNode.bareOfAll (Listing.forest tree) =
          ListingNode.bareOfAll (Listing.forest other) :=
  ⟨Listing.splitOn_render plain, fun _ => Listing.mem_places,
    Listing.pairwise_placesFrom (Listing.forest tree) [],
    fun _ plain' => Listing.bare_eq_of_render_eq plain plain'⟩

/-- Two loops with conditions that are labelled alike up to the cut, by text that looks like lines of
a listing, have the same listing and so the same nodes. -/
theorem listing_of_boxes_in_labels :
    let loop (name : String) : SyntaxTree := ⟨[.block (.whileLoop (.reference name) [.empty])]⟩
    let first := loop "│ └─ If: │ ├─ For: └─ While: └─ a"
    let second := loop "│ └─ If: │ ├─ For: └─ While: └─ b"
    Listing.OnLines first ∧ Listing.OnLines second ∧
      Listing.render first = Listing.render second ∧
      ListingNode.bareOfAll (Listing.forest first) =
        ListingNode.bareOfAll (Listing.forest second) := by
  intro loop first second
  have plain : Listing.OnLines first := by
    unfold Listing.OnLines
    decide +kernel
  have plain' : Listing.OnLines second := by
    unfold Listing.OnLines
    decide +kernel
  have same : Listing.render first = Listing.render second := by decide +kernel
  exact ⟨plain, plain', same, (listing_tells_nesting plain).2.2.2 second plain' same⟩

end Likeness
