import ClusterQuery.Kubeconfig.Basic
import ClusterQuery.Yaml.Node

/-!
Reading files that say how to reach clusters. Names are texts, what is null counts as left out, and entries of
other names are skipped.
-/

namespace ClusterQuery

namespace Kubeconfig

open Yaml Yaml.Node

def flag? : Node → Option Unit
  | .text cs true => if isBoolText cs then some () else none
  | _ => none

/-- Whether all of these entries are texts, as far as they are there. -/
def checkTexts? (keys : List String) (entries : List (List Char × Node)) : Option Unit :=
  keys.forM fun key => (optional? text? key entries).map fun _ => ()

def readCluster? (n : Node) : Option ClusterEntry := do
  let entries ← n.map?
  checkTexts? ["certificate-authority", "certificate-authority-data", "proxy-url", "tls-server-name"] entries
  let _ ← optional? flag? "insecure-skip-tls-verify" entries
  let _ ← optional? flag? "disable-compression" entries
  return ⟨← optional? text? "server" entries⟩

def readUser? (n : Node) : Option UserEntry := do
  let entries ← n.map?
  checkTexts? ["username", "password", "token", "tokenFile", "client-certificate", "client-certificate-data",
    "client-key", "client-key-data", "as"] entries
  let _ ← optional? (fun n => (list? n).bind fun items => items.mapM text?) "as-groups" entries

def readContext? (n : Node) : Option ContextEntry := do
  let entries ← n.map?
  return ⟨← (valueOf? "cluster" entries).bind text?, ← (valueOf? "user" entries).bind text?,
    ← optional? text? "namespace" entries⟩

def readNamed? {α : Type} (key : String) (read? : Node → Option α) (n : Node) : Option (NamedEntry α) := do
  let entries ← n.map?
  return ⟨← (valueOf? "name" entries).bind text?, ← optional? read? key entries⟩

/-- The named entries under a key. -/
def readEntries? {α : Type} (list key : String) (read? : Node → Option α) (entries : List (List Char × Node)) :
    Option (List (NamedEntry α)) :=
  (optional? (fun n => n.list?.bind fun items => items.mapM (readNamed? key read?)) list entries).map (·.getD [])

def ofNode? (n : Node) : Option Kubeconfig := do
  let entries ← n.map?
  let _ ← optional? map? "preferences" entries
  return {
    kind := ← optional? text? "kind" entries
    apiVersion := ← optional? text? "apiVersion" entries
    clusters := ← readEntries? "clusters" "cluster" readCluster? entries
    users := ← readEntries? "users" "user" readUser? entries
    contexts := ← readEntries? "contexts" "context" readContext? entries
    currentContext := ← optional? text? "current-context" entries }

/-- Reads a file. Its documents count as files of their own. -/
def parse? (cs : List Char) : Option Kubeconfig := do
  mergeAll? (← (← Yaml.documents? cs).mapM ofNode?)

end Kubeconfig

end ClusterQuery
