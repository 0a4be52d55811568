import ClusterQuery.Catalog.Basic
import ClusterQuery.Cluster.Failure
import ClusterQuery.Cluster.Server
import ClusterQuery.Json.Reader
import ClusterQuery.Json.Typed

/-!
Finding out what a cluster serves: the core versions, and each group in its preferred version, or else its
first. A resource counts if it can be listed and is no part of another. A group whose resources cannot be
read is left out; without the core versions, their resources or the list of groups nothing is found.
-/

namespace ClusterQuery

namespace Discovery

open Json

/-- The fields of an object of an API of the first version; it may leave out to say so. -/
def declared? (kind : String) (j : Json) : Option (List (String × Json)) := do
  let fields ← fields? j
  if agrees "apiVersion" "v1" fields && agrees "kind" kind fields then some fields else none

/-! ### Resources -/

/-- A resource as a version of a group lists it. -/
structure ListedResource where
  name : String
  kind : String
  singularName : String
  shortNames : List String
  namespaced : Bool
  verbs : List String
deriving DecidableEq

def readResource? (j : Json) : Option ListedResource := do
  let fields ← fields? j
  let _ ← ["group", "storageVersionHash", "version"].mapM fun name => textField? name fields
  let _ ← listField? text? "categories" fields
  return {
    name := ← textField? "name" fields
    kind := ← textField? "kind" fields
    singularName := ← textField? "singularName" fields
    shortNames := ← listField? text? "shortNames" fields
    namespaced := (← optional? flag? "namespaced" fields).getD false
    verbs := ← listField? text? "verbs" fields }

def readResources? (j : Json) : Option (List ListedResource) := do
  let fields ← declared? "APIResourceList" j
  let _ ← textField? "groupVersion" fields
  listField? readResource? "resources" fields

namespace ListedResource

/-- Whether a resource is no part of another and can be listed. -/
def isListable (r : ListedResource) : Bool := !r.name.toList.contains '/' && r.verbs.contains "list"

/-- The resource; a missing singular name is its kind in lower case. -/
def resource (r : ListedResource) (group version : String) : Resource :=
  { group, version
    kind := r.kind
    plural := r.name
    singular := if r.singularName = "" then lowerName r.kind else r.singularName
    shortNames := r.shortNames
    namespaced := r.namespaced }

end ListedResource

/-- The resources of a version of a group that can be listed, in their order. -/
def collect (group version : String) (listed : List ListedResource) : List Resource :=
  (listed.filter (·.isListable)).map fun r => r.resource group version

/-! ### Versions and groups -/

/-- An address of the server for a range of clients. -/
def readAddress? (j : Json) : Option Unit := do
  let fields ← fields? j
  let _ ← textField? "clientCIDR" fields
  let _ ← textField? "serverAddress" fields

def readVersions? (j : Json) : Option (List String) := do
  let fields ← declared? "APIVersions" j
  let _ ← listField? readAddress? "serverAddressByClientCIDRs" fields
  listField? text? "versions" fields

structure GroupVersion where
  /-- The version with its group. -/
  groupVersion : String
  version : String
deriving DecidableEq

def readGroupVersion? (j : Json) : Option GroupVersion := do
  let fields ← fields? j
  return ⟨← textField? "groupVersion" fields, ← textField? "version" fields⟩

structure Group where
  name : String
  preferred : Option GroupVersion
  versions : List GroupVersion
deriving DecidableEq

def readGroup? (j : Json) : Option Group := do
  let fields ← declared? "APIGroup" j
  let _ ← listField? readAddress? "serverAddressByClientCIDRs" fields
  return ⟨← textField? "name" fields, ← optional? readGroupVersion? "preferredVersion" fields,
    ← listField? readGroupVersion? "versions" fields⟩

def readGroups? (j : Json) : Option (List Group) := do
  listField? readGroup? "groups" (← declared? "APIGroupList" j)

/-- The version in which a group is looked at. -/
def Group.chosen? (g : Group) : Option GroupVersion := g.preferred <|> g.versions.head?

/-! ### Asking -/

variable {m : Type → Type} [Monad m]

/-- What is read from the body at a target, if there is one. -/
def read? {α : Type} (request : String → m Response) (form : Json → Option α) (target : String) : m (Option α) := do
  match ← Response.ask request target with
  | .body text => return (Json.parse? text).bind form
  | _ => return none

/-- The resources of the core versions. -/
def coreResources (request : String → m Response) : List String → m (Except Failure (List Resource))
  | [] => return .ok []
  | version :: versions => do
    match ← read? request readResources? ("/api/" ++ version) with
    | none => return .error (.coreResources version)
    | some listed =>
      let others ← coreResources request versions
      return others.map (collect "" version listed ++ ·)

/-- The resources of a group. -/
def groupResources (request : String → m Response) (g : Group) : m (List Resource) :=
  match g.chosen? with
  | none => return []
  | some chosen => do
    match ← read? request readResources? ("/apis/" ++ chosen.groupVersion) with
    | none => return []
    | some listed => return collect g.name chosen.version listed

/-- The resources of groups, in their order. -/
def groupsResources (request : String → m Response) : List Group → m (List Resource)
  | [] => return []
  | g :: groups => do
    let found ← groupResources request g
    let others ← groupsResources request groups
    return found ++ others

/-- What a cluster serves. -/
def catalog (request : String → m Response) : m (Except Failure Catalog) := do
  match ← read? request readVersions? "/api" with
  | none => return .error .coreVersions
  | some versions =>
    match ← coreResources request versions with
    | .error e => return .error e
    | .ok core =>
      match ← read? request readGroups? "/apis" with
      | none => return .error .groups
      | some groups =>
        let others ← groupsResources request groups
        return .ok (core ++ others)

end Discovery

end ClusterQuery
