import ClusterQuery.Projection.Table
import ClusterQuery.Query.Batch
import ClusterQuery.Query.Bindings
import ClusterQuery.Query.Parser
import ClusterQuery.Query.Sort

/-!
Answering queries. `Engine.plan` settles what does not depend on the cluster: columns, order and condition.
A plan needs one listing of its source; `Plan.finish` filters, sorts and cuts what was listed and fills the
columns. A run can be cancelled before it lists, while it lists, and before each wave of its filter.
-/

namespace ClusterQuery

/-- The tables that queries are read with. -/
structure Engine where
  aliases : AliasTable
  projections : ProjectionTable
  /-- How many documents make a batch, if that is fixed. -/
  batchSize : Option Nat := none

/-- A row with a cell for every column; absent values leave a cell empty. -/
structure Row (columns : List SelectItem) where
  cells : List (Option Value)
  complete : cells.length = columns.length

/-- The row of a document, cell by cell up to the first that cannot be filled. -/
def Row.fill (doc : Document) : (columns : List SelectItem) → Except Reducer.Error (Row columns)
  | [] => .ok ⟨[], rfl⟩
  | c :: columns => do
    let cell ← c.field.value doc
    let row ← fill doc columns
    return ⟨cell :: row.cells, congrArg Nat.succ row.complete⟩

/-- An answer: its columns, and rows with a cell for every column. -/
structure QueryResult where
  columns : List SelectItem
  rows : List (List (Option Value))
  complete : ∀ row ∈ rows, row.length = columns.length

def QueryResult.ofRows {columns : List SelectItem} (rows : List (Row columns)) : QueryResult :=
  ⟨columns, rows.map Row.cells, List.forall_mem_map.mpr fun row _ => row.complete⟩

/-- When a run is found to be cancelled. -/
structure Cancellation where
  beforeListing : Bool
  /-- Looked at only where listing failed. -/
  afterListing : Bool
  beforeWave : Nat → Bool

namespace Cancellation

/-- A run that nobody cancels. -/
def never : Cancellation := ⟨false, false, fun _ => false⟩

end Cancellation

/-- Why a run gave no answer. Listing fails for causes of its own. -/
inductive RunError (ε : Type) where
  | query (e : QueryError)
  | fetch (resource : String) (cause : ε)
  | cancelled

def RunError.message {ε : Type} : RunError ε → String
  | .query e => e.message
  | .fetch resource _ => "failed to list " ++ resource
  | .cancelled => "query cancelled"

/-- A query that is ready to run. -/
structure Plan where
  source : Source
  columns : List SelectItem
  filter : Option (Predicate × Bindings)
  orderBy : List OrderItem
  limit : Option Nat

/-- The first title that occurred before. -/
def repeatedTitle? : List SelectItem → List String → Option String
  | [], _ => none
  | c :: cs, seen => if seen.contains c.title then some c.title else repeatedTitle? cs (seen ++ [c.title])

namespace Engine

/-- The column of a field of the table that a resource is shown with. -/
def tableColumn (e : Engine) (f : TableField) : Except QueryError SelectItem :=
  (Field.parse e.aliases f.expression.toList).map fun (field, _) => ⟨field, f.title, true⟩

/-- The columns of a query, whose titles are different. -/
def columns (e : Engine) (q : Query) : Except QueryError (List SelectItem) := do
  let columns ← match q.selection with
    | .all => (e.projections.columnsFor q.source.resource).mapM e.tableColumn
    | .only items => pure items
  match repeatedTitle? columns [] with
  | some title => malformed (.duplicateColumn title)
  | none => return columns

/-- The predicate of a condition, and what its identifiers stand for. -/
def condition (e : Engine) (q : Query) (text : String) : Except QueryError (Predicate × Bindings) := do
  let p ← (Predicate.parse text).mapError .predicate
  let b ← Bindings.resolve p q.selection.named e.aliases
  return (p, b)

/-- An item that was typed without `AS` orders by the column with its text as title, if there is one. -/
def rebind (columns : List SelectItem) (o : OrderItem) : OrderItem :=
  match columns.find? fun c => !o.item.explicit && c.title == o.item.title with
  | some c => { o with item := c }
  | none => o

/-- Settles what does not depend on the cluster. -/
def plan (e : Engine) (q : Query) : Except QueryError Plan := do
  let columns ← e.columns q
  let filter ← q.filter.mapM (e.condition q)
  return {
    source := q.source
    columns
    filter
    orderBy := q.orderBy.map (rebind columns)
    limit := q.limit }

/-- How many documents make a batch on a machine. -/
def batchSizeFor (e : Engine) (total cpus : Nat) : Nat := e.batchSize.getD (ClusterQuery.batchSize total cpus)

end Engine

namespace Plan

/-- The documents that satisfy the condition, if the run is not cancelled. Batches and processors are counted
    from one. -/
def keep (p : Plan) (size cpus : Nat) (c : Cancellation) (docs : List Document) : Option (List Document) :=
  match p.filter with
  | none => some docs
  | some (predicate, bindings) =>
    filterWaves (bindings.keeps predicate) (size - 1) (cpus - 1) c.beforeWave 0 docs

/-- The answer from documents that satisfy the condition. -/
def fill (p : Plan) (docs : List Document) : Except Reducer.Error QueryResult :=
  let sorted := sortDocuments p.orderBy docs
  let shown := match p.limit with
    | some n => sorted.take n
    | none => sorted
  (shown.mapM (Row.fill · p.columns)).map .ofRows

/-- The answer from what was listed. -/
def finish {ε : Type} (p : Plan) (size cpus : Nat) (c : Cancellation) (listed : Except ε (List Document)) :
    Except (RunError ε) QueryResult :=
  match listed with
  | .error cause => if c.afterListing then .error .cancelled else .error (.fetch p.source.resource cause)
  | .ok docs =>
    match p.keep size cpus c docs with
    | none => .error .cancelled
    | some kept => (p.fill kept).mapError fun e => .query (.reducer e)

end Plan

namespace Engine

/-- Runs a query on a machine with `cpus` processors; `list` lists the objects of a source. -/
def run {m : Type → Type} [Monad m] {ε : Type} (e : Engine) (cpus : Nat) (c : Cancellation)
    (list : Source → m (Except ε (List Document))) (q : Query) : m (Except (RunError ε) QueryResult) :=
  match e.plan q with
  | .error error => pure (.error (.query error))
  | .ok plan =>
    if c.beforeListing then pure (.error .cancelled)
    else do
      let listed ← list plan.source
      let total := match listed with
        | .ok docs => docs.length
        | .error _ => 0
      return plan.finish (e.batchSizeFor total cpus) cpus c listed

end Engine

end ClusterQuery
