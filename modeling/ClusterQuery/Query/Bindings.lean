import ClusterQuery.Dictionary
import ClusterQuery.Predicate.Basic
import ClusterQuery.Query.Basic

/-!
What the identifiers of a predicate stand for. All are resolved before any document is looked at: to the
selected item with the identifier as its title, and else like a field as typed.
-/

namespace ClusterQuery

structure Bindings where
  fields : Dictionary Field

namespace Bindings

/-- The field that an identifier stands for. -/
def fieldOf (aliases : AliasTable) (selected : List SelectItem) (name : String) : Except QueryError Field :=
  match selected.find? fun i => i.title == name with
  | some item => .ok item.field
  | none => (Field.parse aliases name.toList).map Prod.fst

/-- Binds names in order. -/
def ofNames (aliases : AliasTable) (selected : List SelectItem) (names : List String) : Except QueryError Bindings := do
  let fields ← names.mapM fun name => (fieldOf aliases selected name).map fun field => (name, field)
  return ⟨fields⟩

/-- Binds the identifiers of a predicate. -/
def resolve (p : Predicate) (selected : List SelectItem) (aliases : AliasTable) : Except QueryError Bindings :=
  ofNames aliases selected p.identifiers

/-- The value of an identifier in a document. -/
def lookup (b : Bindings) (doc : Document) (name : String) : Except Predicate.EvalError (Option Value) :=
  match b.fields.get? name with
  | none => .error (.lookup name "unbound identifier")
  | some field => (field.value doc).mapError fun e => .lookup name e.message

/-- Whether a predicate holds of a document. -/
def holds (b : Bindings) (p : Predicate) (doc : Document) : Except Predicate.EvalError Bool := p.holds (b.lookup doc)

/-- Whether a document is kept: one of which the predicate cannot be told is not. -/
def keeps (b : Bindings) (p : Predicate) (doc : Document) : Bool :=
  match b.holds p doc with
  | .ok kept => kept
  | .error _ => false

end Bindings

end ClusterQuery
