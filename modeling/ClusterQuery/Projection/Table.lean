import ClusterQuery.Projection.Builtin
import ClusterQuery.Dictionary

/-!
The columns that a query for everything shows. `columnsFor` looks a resource up as it is typed: as a kind, by
a known name of the resource, by a kind or its plural in any case, and else takes the fallback.
-/

namespace ClusterQuery

/-- The columns of each kind, and the fallback under a name of its own. -/
structure ProjectionTable where
  kinds : Dictionary (List TableField)

namespace ProjectionTable

/-- The name under which the fallback stands. -/
def fallbackName : String := "other"

def builtin : ProjectionTable where
  kinds := builtinKinds.map (fun k => (k.name, k.columns)) ++ [(fallbackName, fallbackColumns)]

/-- The table with more kinds; they replace those with the same name. -/
def extend (t : ProjectionTable) (kinds : List (String × List TableField)) : ProjectionTable :=
  ⟨t.kinds.insertAll kinds⟩

def get? (t : ProjectionTable) (kind : String) : Option (List TableField) := t.kinds.get? kind

/-- Whether a resource is a kind in any case, or a plural of it with `s` or `es`. -/
def answersTo (kind resource : String) : Bool :=
  let kind := lowerName kind
  let resource := lowerName resource
  resource == kind || resource == kind ++ "s" || resource == kind ++ "es"

/-- The columns of the first kind that a resource answers to. -/
def similar? (t : ProjectionTable) (resource : String) : Option (List TableField) :=
  (t.kinds.find? fun (kind, _) => kind != fallbackName && answersTo kind resource).map Prod.snd

/-- The columns of a resource as it is typed. -/
def columnsFor (t : ProjectionTable) (resource : String) : List TableField :=
  ((t.get? resource).or <|
    ((kindOfResource? resource).bind t.get?).or <|
      (t.similar? resource).or (t.get? fallbackName)).getD []

end ProjectionTable

end ClusterQuery
