import ClusterQuery.Json.Printer
import ClusterQuery.Time.Instant

/-!
Typed values, which paths read from documents and predicates, sorting and reports work on. Absence is not a
value: what may be absent is an `Option Value`.
-/

namespace ClusterQuery

inductive Value where
  /-- A null that stands in a list. -/
  | null
  | bool (b : Bool)
  | int (i : Int64)
  | float (x : Binary64)
  | text (s : String)
  | date (d : Instant)
  | list (items : List Value)
  /-- The fields of an object, whose values are not typed. -/
  | map (fields : List (String × Json))
deriving Inhabited

namespace Value

/-- The name of a value's type in messages. -/
def typeName : Value → String
  | .null => "null"
  | .bool _ => "bool"
  | .int _ => "int"
  | .float _ => "float"
  | .text _ => "string"
  | .date _ => "date"
  | .list _ => "list"
  | .map _ => "map"

/-- The number that a value is, rounded if it is whole and large. -/
def number? : Value → Option Binary64
  | .int i => some (Binary64.ofInt i.toInt)
  | .float x => some x
  | _ => none

def isNumber (v : Value) : Bool := v.number?.isSome

def bool? : Value → Option Bool
  | .bool b => some b
  | _ => none

/-- The value, unless it is a null. -/
def present? : Value → Option Value
  | .null => none
  | v => some v

/-! ### Texts -/

/-- Floating-point numbers are shown without an exponent and without a point that is not needed. -/
def floatStyle : Binary64.FloatStyle :=
  { fixedFrom := none, fixedBelow := none, keepsPoint := false, signsExponent := false, tieUp := true }

mutual

/-- The value as JSON; numbers that no literal spells become null. -/
def toJson : Value → Json
  | .null => .null
  | .bool b => .bool b
  | .int i => .ofInt i.toInt
  | .float x => if x.isFinite then .number (.float x) else .null
  | .text s => .string s
  | .date d => .string (String.ofList d.render)
  | .list items => .array (itemsToJson items)
  | .map fields => .object fields

def itemsToJson : List Value → List Json
  | [] => []
  | item :: items => item.toJson :: itemsToJson items

end

/-- The text that a cell shows and that values of different types are compared by. -/
def display : Value → List Char
  | .null => []
  | .bool b => Json.boolText b
  | .int i => decimalText i.toInt
  | .float x => x.render floatStyle
  | .text s => s.toList
  | .date d => d.render
  | .list items => (toJson (.list items)).compact
  | .map fields => (toJson (.map fields)).compact

end Value

end ClusterQuery
