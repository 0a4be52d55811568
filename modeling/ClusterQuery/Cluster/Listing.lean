import ClusterQuery.Catalog.Resource
import ClusterQuery.Cluster.Metadata
import ClusterQuery.Json.Reader
import ClusterQuery.Path.Extract

/-!
Lists of objects. The items of a list become documents: they name their version and kind as they do
themselves, or else as their resource does.
-/

namespace ClusterQuery

namespace Listing

open Json

/-- What an item says of its type. -/
structure ItemType where
  /-- Version and kind, if it names both. -/
  named : Option (String × String)
  /-- The other fields. A kind stays among them where the version is no text. -/
  others : List (String × Json)

def itemType (fields : List (String × Json)) : ItemType :=
  let without (keys : List String) := fields.filter fun field => !keys.contains field.1
  match lookup "apiVersion" fields, lookup "kind" fields with
  | some (.string version), some (.string kind) => ⟨some (version, kind), without ["apiVersion", "kind"]⟩
  | some (.string _), _ | none, _ => ⟨none, without ["apiVersion", "kind"]⟩
  | some _, _ => ⟨none, without ["apiVersion"]⟩

/-- The document of an item. -/
def document? (r : Resource) (item : Json) : Option Document := do
  let type := itemType (← fields? item)
  let metadata ← match lookup "metadata" type.others with
    | some metadata => Metadata.read? metadata
    | none => some (.object [])
  let (version, kind) := type.named.getD (r.apiVersion, r.kind)
  return .object (orderFields
    ([("apiVersion", .string version), ("kind", .string kind)] ++ type.others ++ [("metadata", metadata)]))

/-- What a list says of itself. -/
def isListMetadata (j : Json) : Bool :=
  (fields? j).any fun fields =>
    (Metadata.readForms? [("continue", Metadata.readText?), ("remainingItemCount", Metadata.readInt64?),
      ("resourceVersion", Metadata.readText?), ("selfLink", Metadata.readText?)] fields).isSome

/-- The documents of a list of objects of a resource. A list without items says so with a null. -/
def documents? (r : Resource) (text : List Char) : Option (List Document) := do
  let fields ← fields? (← Json.parse? text)
  let items ← lookup "items" fields
  if (lookup "metadata" fields).all isListMetadata then
    match items with
    | .null => some []
    | _ => items? (document? r) items
  else none

end Listing

end ClusterQuery
