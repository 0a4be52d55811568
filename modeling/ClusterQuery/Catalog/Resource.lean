import ClusterQuery.Text.Ascii

/-!
The kinds of objects that a cluster serves, and the names that each answers to.
-/

namespace ClusterQuery

/-- A kind of objects, served in one version of its group. The core group has the empty name. -/
structure Resource where
  group : String
  version : String
  kind : String
  /-- The name in paths. -/
  plural : String
  singular : String
  shortNames : List String
  /-- Whether its objects lie in namespaces. -/
  namespaced : Bool
deriving DecidableEq

namespace Resource

/-- The version with its group, as objects name it. -/
def apiVersion (r : Resource) : String := if r.group = "" then r.version else r.group ++ "/" ++ r.version

/-- Plural, singular and short names, in this order. -/
def names (r : Resource) : List String := r.plural :: r.singular :: r.shortNames

/-- The plural with its group. The core group has none. -/
def qualifiedName? (r : Resource) : Option String :=
  if r.group = "" then none else some (r.plural ++ "." ++ r.group)

/-- Whether a resource answers to a name: one of its names, its kind or its qualified name. The case of the
    name does not count. -/
def answersTo (r : Resource) (name : String) : Bool :=
  let name := lowerName name
  r.names.contains name || name == lowerName r.kind || r.qualifiedName? == some name

end Resource

end ClusterQuery
