import ClusterQuery.Catalog.Basic

/-!
Why a cluster did not answer.
-/

namespace ClusterQuery

inductive Failure where
  | coreVersions
  | coreResources (version : String)
  | groups
  | serverVersion
  | unknownResource (e : UnknownResource)
  | cancelled
  /-- A list of objects was refused. -/
  | refused (code : Nat)
  /-- A list of objects was not sent or cannot be read. -/
  | unreadable
deriving DecidableEq

namespace Failure

/-- What failed. For lists of objects there is no more to say than that they failed. -/
def message? : Failure → Option String
  | .coreVersions => some "listing core API versions"
  | .coreResources version => some ("listing core " ++ version ++ " resources")
  | .groups => some "listing API groups"
  | .serverVersion => some "querying server version"
  | .unknownResource e => some e.message
  | .cancelled => some "request cancelled"
  | .refused _ | .unreadable => none

end Failure

end ClusterQuery
