import ClusterQuery.Json.Typed
import ClusterQuery.Time.Reader

/-!
The metadata of objects. Every field has its form; a field that is null is left out, times are written in
universal time, fields of other names are dropped, and so is the record of who manages which field.
-/

namespace ClusterQuery

namespace Metadata

open Json

def readText? (j : Json) : Option Json := (text? j).map .string

def readFlag? (j : Json) : Option Json := (flag? j).map .bool

def readInt64? (j : Json) : Option Json := (int64? j).map fun n => ofInt n.toInt

def readTexts? (j : Json) : Option Json := (items? readText? j).map .array

/-- Texts by key. -/
def readTextMap? (j : Json) : Option Json := do
  let fields ← fields? j
  let texts ← fields.mapM fun (key, value) => do return (key, ← readText? value)
  return .object texts

def readTime? (j : Json) : Option Json := do
  let time ← DateReader.readLooseTimestamp? (← text? j).toList
  return .string (String.ofList time.render)

/-- How a field is read, under its name. -/
abbrev Form := String × (Json → Option Json)

/-- The fields of these forms that are there, in the order of the forms. -/
def readForms? (forms : List Form) (fields : List (String × Json)) : Option (List (String × Json)) := do
  let found ← forms.mapM fun (name, read?) => do return (← optional? read? name fields).map fun value => (name, value)
  return found.filterMap id

/-- An object that owns another one. Its texts are written even where they are missing. -/
def readOwner? (j : Json) : Option Json := do
  let fields ← fields? j
  let texts ← ["apiVersion", "kind", "name", "uid"].mapM fun name => do return (name, .string (← textField? name fields))
  let flags ← readForms? [("blockOwnerDeletion", readFlag?), ("controller", readFlag?)] fields
  return .object (orderFields (texts ++ flags))

/-- Who manages which fields. -/
def readManager? (j : Json) : Option Json := do
  let fields ← readForms?
    [("apiVersion", readText?), ("fieldsType", readText?), ("fieldsV1", some), ("manager", readText?),
      ("operation", readText?), ("subresource", readText?), ("time", readTime?)] (← fields? j)
  return .object fields

/-- The fields of metadata, in the order of their names. -/
def forms : List Form :=
  [("annotations", readTextMap?), ("creationTimestamp", readTime?), ("deletionGracePeriodSeconds", readInt64?),
    ("deletionTimestamp", readTime?), ("finalizers", readTexts?), ("generateName", readText?),
    ("generation", readInt64?), ("labels", readTextMap?),
    ("managedFields", fun j => (items? readManager? j).map .array), ("name", readText?), ("namespace", readText?),
    ("ownerReferences", fun j => (items? readOwner? j).map .array), ("resourceVersion", readText?),
    ("selfLink", readText?), ("uid", readText?)]

/-- The metadata that a document shows. -/
def read? (j : Json) : Option Json := do
  let fields ← readForms? forms (← fields? j)
  return .object (fields.filter fun field => field.1 != "managedFields")

end Metadata

end ClusterQuery
