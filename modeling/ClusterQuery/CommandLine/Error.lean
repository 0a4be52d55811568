import ClusterQuery.Cluster.Failure
import ClusterQuery.Query.Engine

/-!
Why a command failed, and the line that says so. The line is the failure followed by its causes.
-/

namespace ClusterQuery

/-- What stands behind an error of a query: an error of its condition is told once more. -/
def QueryError.causes : QueryError → List String
  | .predicate (.invalidPattern _) => []
  | .predicate e => [e.message]
  | _ => []

/-- What stands behind a failed run. -/
def RunError.causes : RunError Failure → List String
  | .query e => e.causes
  | .fetch _ cause => cause.message?.toList
  | .cancelled => []

namespace CommandLine

inductive Error where
  | missingQuery
  | unreadableSettings (path : String)
  | malformedSettings (path : String)
  | unreadableKubeconfig (path : String)
  /-- The kubeconfig does not say how to reach the cluster. -/
  | unusableKubeconfig
  /-- No kubeconfig was named and none of the usual ones is of use. -/
  | noCluster
  | query (e : QueryError)
  | run (e : RunError Failure)

/-- The failure and its causes. -/
def Error.chain : Error → List String
  | .missingQuery => ["missing query, e.g. kubeql \"SELECT name FROM pods\""]
  | .unreadableSettings path => ["reading config " ++ path]
  | .malformedSettings path => ["parsing config " ++ path]
  | .unreadableKubeconfig path => ["reading kubeconfig " ++ path]
  | .unusableKubeconfig => ["loading kubeconfig"]
  | .noCluster => ["inferring cluster config"]
  | .query e => e.message :: e.causes
  | .run e => e.message :: e.causes

/-- The line that tells an error. -/
def Error.line (e : Error) : String := "error: " ++ ": ".intercalate e.chain

end CommandLine

end ClusterQuery
