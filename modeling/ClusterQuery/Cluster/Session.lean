import ClusterQuery.Cluster.Discovery
import ClusterQuery.Cluster.Listing
import ClusterQuery.Query.Engine

/-!
A session with a cluster. What the cluster serves is found out once, when it is first needed; a failed attempt
is made again.
-/

namespace ClusterQuery

structure Session where
  /-- The namespace in which objects are looked for if nothing else is said. -/
  current : String
  /-- What the cluster serves, once that is known. -/
  catalog : Option Catalog := none

/-- The target of the list of objects of a resource. -/
def Resource.listTarget (r : Resource) (scope : Scope) (current : String) : String :=
  let root := if r.group = "" then "/api/" else "/apis/"
  let place (name : String) := if r.namespaced then "namespaces/" ++ name ++ "/" else ""
  root ++ r.apiVersion ++ "/" ++
    (match scope with
      | .everywhere => ""
      | .namespace name => place name
      | .current => place current) ++ r.plural ++ "?"

namespace Session

variable {m : Type → Type} [Monad m]

/-- What the cluster serves. -/
def resources (request : String → m Response) : StateT Session m (Except Failure Catalog) := do
  match (← get).catalog with
  | some catalog => return .ok catalog
  | none =>
    match ← (Discovery.catalog request : m _) with
    | .ok catalog =>
      modify fun s => { s with catalog := some catalog }
      return .ok catalog
    | .error e => return .error e

/-- The resource that answers to a name. -/
def resolve (request : String → m Response) (name : String) : StateT Session m (Except Failure Resource) := do
  match ← resources request with
  | .error e => return .error e
  | .ok catalog => return (catalog.find name).mapError .unknownResource

/-- The documents of a list that was answered. -/
def documents (r : Resource) : Response → Except Failure (List Document)
  | .refused code => .error (.refused code)
  | .silence => .error .unreadable
  | .body text =>
    match Listing.documents? r text with
    | some docs => .ok docs
    | none => .error .unreadable

/-- The objects of a source. Nothing is asked for when that is cancelled. -/
def list (request : String → m Response) (cancelled : Bool) (source : Source) :
    StateT Session m (Except Failure (List Document)) :=
  if cancelled then return .error .cancelled
  else do
    match ← resolve request source.resource with
    | .error e => return .error e
    | .ok r =>
      let answer ← (Response.ask request (r.listTarget source.scope (← get).current) : m _)
      return documents r answer

/-- The answer to a query on a machine with `cpus` processors. -/
def answer (request : String → m Response) (engine : Engine) (cpus : Nat) (c : Cancellation) (q : Query) :
    StateT Session m (Except (RunError Failure) QueryResult) :=
  engine.run cpus c (list request false) q

/-- The version that a server tells. -/
def readVersion? (j : Json) : Option String := do
  let fields ← j.fields?
  let _ ← ["buildDate", "compiler", "gitCommit", "gitTreeState", "goVersion", "major", "minor", "platform"].mapM
    fun name => Json.textField? name fields
  Json.textField? "gitVersion" fields

/-- The version of the server. -/
def version (request : String → m Response) : StateT Session m (Except Failure String) := do
  match ← (Discovery.read? request readVersion? "/version" : m _) with
  | some version => return .ok version
  | none => return .error .serverVersion

end Session

end ClusterQuery
