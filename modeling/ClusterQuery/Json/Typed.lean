import ClusterQuery.Json.Basic
import ClusterQuery.Number.Bounded

/-!
Reading JSON values of an expected form. A field that is missing and one that is null are the same; a field of
another form is refused, and what is not asked for is skipped.
-/

namespace ClusterQuery.Json

/-- The fields of an object. -/
def fields? : Json → Option (List (String × Json))
  | .object fields => some fields
  | _ => none

def text? : Json → Option String
  | .string s => some s
  | _ => none

def flag? : Json → Option Bool
  | .bool b => some b
  | _ => none

/-- A whole number of 64 bits with a sign. -/
def int64? : Json → Option Int64
  | .number (.whole i) => toInt64? i
  | _ => none

/-- A list of items of one form. -/
def items? {α : Type} (read? : Json → Option α) : Json → Option (List α)
  | .array items => items.mapM read?
  | _ => none

/-- A field that may be missing. -/
def optional? {α : Type} (read? : Json → Option α) (key : String) (fields : List (String × Json)) :
    Option (Option α) :=
  match lookup key fields with
  | none | some .null => some none
  | some value => (read? value).map some

/-- A text that is empty where it is missing. -/
def textField? (key : String) (fields : List (String × Json)) : Option String :=
  (optional? text? key fields).map (·.getD "")

/-- A list that is empty where it is missing. -/
def listField? {α : Type} (read? : Json → Option α) (key : String) (fields : List (String × Json)) :
    Option (List α) :=
  (optional? (items? read?) key fields).map (·.getD [])

/-- Whether a field, where there is one, is this text. -/
def agrees (key text : String) (fields : List (String × Json)) : Bool :=
  match lookup key fields with
  | none => true
  | some (.string s) => s == text
  | some _ => false

end ClusterQuery.Json
