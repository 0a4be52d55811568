import ClusterQuery.Number.Binary64

/-!
JSON values. The fields of an object are kept in the order of their keys, one field a key, so that equal
objects have equal texts. `Json.field?` looks a key up and `insertField` keeps the order.
-/

namespace ClusterQuery

/-- A number is whole, of at most 64 bits with or without a sign, or binary floating-point. -/
inductive JsonNumber where
  | whole (i : Int)
  | float (x : Binary64)
deriving DecidableEq

inductive Json where
  | null
  | bool (b : Bool)
  | number (n : JsonNumber)
  | string (s : String)
  | array (items : List Json)
  | object (fields : List (String × Json))
deriving Inhabited

namespace Json

/-- The value bound to a key. -/
def lookup (key : String) (fields : List (String × Json)) : Option Json :=
  (fields.find? fun field => field.1 == key).map Prod.snd

/-- The field of an object; anything else has none. -/
def field? (key : String) : Json → Option Json
  | .object fields => lookup key fields
  | _ => none

/-- Binds a key in fields ordered by key; a binding it had is replaced. -/
def insertField (key : String) (value : Json) : List (String × Json) → List (String × Json)
  | [] => [(key, value)]
  | (k, v) :: fields =>
    if key < k then (key, value) :: (k, v) :: fields
    else if key = k then (key, value) :: fields
    else (k, v) :: insertField key value fields

/-- The fields in the order of their keys, the last of several with one key. -/
def orderFields (fields : List (String × Json)) : List (String × Json) :=
  fields.foldl (fun ordered (key, value) => insertField key value ordered) []

def ofInt (i : Int) : Json := .number (.whole i)

theorem lookup_insertField_self (key : String) (value : Json) (fields : List (String × Json)) :
    lookup key (insertField key value fields) = some value := by
  induction fields with
  | nil => simp [lookup, insertField]
  | cons field fields ih =>
    obtain ⟨k, v⟩ := field
    simp only [insertField]
    split
    · simp [lookup]
    · split
      · simp [lookup]
      · next hne =>
        have : (k == key) = false := by simpa using fun h => hne h.symm
        simpa [lookup, this] using ih

end Json

end ClusterQuery
