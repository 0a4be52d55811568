import ClusterQuery.Alias
import ClusterQuery.Path.Extract
import ClusterQuery.Path.Parser
import ClusterQuery.Path.Printer
import ClusterQuery.Query.Error

/-!
Fields of documents: a path and maybe a reducer of what is found there. A field is written `path`,
`reducer(path)` or `reducer path`, and aliases stand for paths.
-/

namespace ClusterQuery

structure Field where
  path : Path
  reducer : Option Reducer := none
deriving DecidableEq

namespace Field

/-- The value of a field in a document. -/
def value (f : Field) (doc : Document) : Except Reducer.Error (Option Value) :=
  reduceWith f.reducer (f.path.extract doc)

/-- A call of a reducer, or its argument alone. -/
def callText (reducer : Option Reducer) (argument : List Char) : List Char :=
  match reducer with
  | none => argument
  | some r => r.name.toList ++ '(' :: argument ++ [')']

/-- The canonical text. -/
def render (f : Field) : List Char := callText f.reducer f.path.render

/-- The reducer that a call names. -/
def readReducer (name : List Char) : Except QueryError Reducer :=
  match Reducer.named? name with
  | some r => .ok r
  | none => .error (.unknownReducer (String.ofList name))

/-- The reducer and the argument of a field as typed. A first word counts as a reducer only if it is one. -/
def splitReducer (cs : List Char) : Except QueryError (Option Reducer × List Char) :=
  match splitCall cs with
  | some (name, argument) => (readReducer name).map fun r => (some r, trim argument)
  | none =>
    match splitFirst isBlank cs with
    | some (first, rest) =>
      match Reducer.named? first with
      | some r => .ok (some r, trim rest)
      | none => .ok (none, cs)
    | none => .ok (none, cs)

/-- Reads a field, and gives its text in normal form with it. An alias may stand for a call of a reducer. -/
def parse (aliases : AliasTable) (cs : List Char) : Except QueryError (Field × List Char) := do
  let text := trim cs
  if text.count '(' ≠ text.count ')' then malformed (.unbalancedParens (String.ofList text))
  let (reducer, argument) ← splitReducer text
  if argument.isEmpty then malformed (.missingField (String.ofList text))
  let resolved := aliases.resolve argument
  let (reducer, pathText) ← match splitCall resolved, reducer with
    | some (name, inner), none => (readReducer name).map fun r => (some r, inner)
    | _, _ => pure (reducer, resolved)
  match Path.parse pathText with
  | .ok path => return (⟨path, reducer⟩, callText reducer argument)
  | .error e => malformed (.invalidField (String.ofList argument) e)

end Field

end ClusterQuery
