import ClusterQuery.Path.Basic
import ClusterQuery.Value.Scalar

/-!
Reading documents at paths. Without a wildcard a path reads one node. A wildcard reads the rest of the path at
every element of a list and joins what it finds: an absent part gives nothing, a list its elements, anything
else itself.
-/

namespace ClusterQuery

/-- One object of the cluster. -/
abbrev Document := Json

/-- What following steps led to. -/
inductive Reached where
  | absent
  | one (node : Json)
  | many (values : List Value)

/-- The elements that a branch of a wildcard adds to the joined list. -/
def Reached.elements : Reached → List Value
  | .absent => []
  | .many values => values
  | .one node =>
    match Value.ofJson? node with
    | none => []
    | some (.list values) => values
    | some v => [v]

/-- The part of a node that a step other than a wildcard leads to. -/
def Step.part? : Step → Json → Option Json
  | .key name, .object fields | .mapKey name, .object fields => Json.lookup name fields
  | .index place, .array items => items[place]?
  | .position 0, .array _ => none
  | .position (n + 1), .array items => items[n]?
  | .position n, .object fields => Json.lookup (String.ofList (Nat.toDigits 10 n)) fields
  | _, _ => none

/-- Follows steps from a node. Null is absent. -/
def follow : List Step → Json → Reached
  | [], node => .one node
  | .wildcard :: steps, .array items => .many (items.flatMap fun item => (follow steps item).elements)
  | step :: steps, node =>
    match step.part? node with
    | none | some .null => .absent
    | some part => follow steps part

/-- The value of a document at a path. An empty label or annotation reads as true. -/
def Path.extract (p : Path) (doc : Document) : Option Value :=
  match follow p.steps doc with
  | .absent => none
  | .many values => some (.list values)
  | .one (.string "") => if p.isMetadataEntry then some (.bool true) else Value.ofJson? (.string "")
  | .one node => Value.ofJson? node

end ClusterQuery
