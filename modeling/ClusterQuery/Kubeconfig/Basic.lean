import ClusterQuery.Cluster.Server
import ClusterQuery.Text.Split

/-!
Files that say how to reach clusters: named clusters and users, and contexts that join one of each. Of entries
with one name the first counts; files are put together one after the other.
-/

namespace ClusterQuery

/-- A name and what it stands for, if that is said. -/
structure NamedEntry (α : Type) where
  name : String
  value : Option α

/-- What a name stands for: the first entry decides. -/
def lookupEntry {α : Type} (name : String) (entries : List (NamedEntry α)) : Option α :=
  (entries.find? fun e => e.name == name).bind (·.value)

structure ClusterEntry where
  server : Option String

/-- A user is only known by name: signing in is not looked at. -/
abbrev UserEntry := Unit

structure ContextEntry where
  cluster : String
  user : String
  namespaceName : Option String

structure Kubeconfig where
  kind : Option String := none
  apiVersion : Option String := none
  clusters : List (NamedEntry ClusterEntry) := []
  users : List (NamedEntry UserEntry) := []
  contexts : List (NamedEntry ContextEntry) := []
  currentContext : Option String := none

/-- A cluster to connect to and the namespace to look in. -/
structure Connection where
  server : String
  namespaceName : Option String

namespace Kubeconfig

/-- Whether two things that may be left out do not contradict each other. -/
def compatible (a b : Option String) : Bool := a.isNone || b.isNone || a == b

/-- The entries of both, without those of the second whose names the first has. -/
def appendNew {α : Type} (a b : List (NamedEntry α)) : List (NamedEntry α) :=
  a ++ b.filter fun e => !a.any fun f => f.name == e.name

/-- Two files together; the first one wins. They are of one kind and version, as far as they say so. -/
def merge? (a b : Kubeconfig) : Option Kubeconfig :=
  if compatible a.kind b.kind && compatible a.apiVersion b.apiVersion then
    some {
      kind := a.kind <|> b.kind
      apiVersion := a.apiVersion <|> b.apiVersion
      clusters := appendNew a.clusters b.clusters
      users := appendNew a.users b.users
      contexts := appendNew a.contexts b.contexts
      currentContext := a.currentContext <|> b.currentContext }
  else none

/-- Files together, in their order. -/
def mergeAll? (files : List Kubeconfig) : Option Kubeconfig := files.foldlM merge? {}

/-- Whether a text can be the address of a server. -/
def isAddress (cs : List Char) : Bool :=
  !cs.isEmpty && !cs.any isUnsendable &&
    match splitFirst (· == '/') cs with
    | some (scheme, rest) => scheme.getLast? != some ':' || !(rest.drop 1).isEmpty
    | none => true

/-- What a context stands for: the one that is named, or else the current one. -/
def connection? (k : Kubeconfig) (context : Option String) : Option Connection := do
  let name ← context <|> k.currentContext
  let context ← lookupEntry name k.contexts
  let cluster ← lookupEntry context.cluster k.clusters
  let _ ← lookupEntry context.user k.users
  let server ← cluster.server
  if isAddress server.toList then some ⟨server, context.namespaceName⟩ else none

theorem lookupEntry_appendNew {α : Type} (name : String) (a b : List (NamedEntry α)) :
    lookupEntry name (appendNew a b) =
      if a.any fun e => e.name == name then lookupEntry name a else lookupEntry name b := by
  unfold lookupEntry appendNew
  rw [List.find?_append]
  cases ha : a.find? fun e => e.name == name with
  | some e =>
    have : (a.any fun e => e.name == name) = true :=
      List.any_eq_true.2 ⟨e, List.mem_of_find?_eq_some ha, by simpa using List.find?_some ha⟩
    simp [this]
  | none =>
    rw [List.find?_eq_none] at ha
    have hany : (a.any fun e => e.name == name) = false := by simpa using ha
    have hfind : (b.filter fun e => !a.any fun f => f.name == e.name).find? (fun e => e.name == name) =
        b.find? fun e => e.name == name := by
      rw [List.find?_filter]
      congr 1
      funext e
      by_cases he : e.name = name
      · simp [he, hany]
      · simp [he]
    simp [hany, hfind]

end Kubeconfig

end ClusterQuery
