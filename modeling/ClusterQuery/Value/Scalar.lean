import ClusterQuery.Value.Basic
import ClusterQuery.Time.Reader

/-!
The type of a text. A text in a document, and a word in a predicate, is read as the first of these that it
spells: a whole number, a number, a boolean, a date, a quantity. Anything else stays a text.
-/

namespace ClusterQuery

namespace Scalar

/-- A text of digits, signs, points and exponent marks that has a digit and does not begin with an exponent
    mark. Names such as `inf` are not numbers. -/
def looksNumeric (cs : List Char) : Bool :=
  let starts (c : Char) : Bool := isDigit c || c == '.' || c == '-' || c == '+'
  cs.head?.any starts && cs.all (fun c => starts c || c == 'e' || c == 'E') && cs.any isDigit

def readFloat? (cs : List Char) : Option Binary64 := if looksNumeric cs then Binary64.read? cs else none

def readBool? (cs : List Char) : Option Bool :=
  match String.ofList cs with
  | "true" | "True" | "TRUE" => some true
  | "false" | "False" | "FALSE" => some false
  | _ => none

/-- The factor that a suffix stands for: powers of 1000, and of 1024 with an `i`. -/
def suffixFactor? : List Char → Option Nat
  | ['k'] | ['K'] => some 1000
  | ['M'] => some (Nat.pow 1000 2)
  | ['G'] => some (Nat.pow 1000 3)
  | ['T'] => some (Nat.pow 1000 4)
  | ['P'] => some (Nat.pow 1000 5)
  | ['K', 'i'] => some 1024
  | ['M', 'i'] => some (Nat.pow 1024 2)
  | ['G', 'i'] => some (Nat.pow 1024 3)
  | ['T', 'i'] => some (Nat.pow 1024 4)
  | ['P', 'i'] => some (Nat.pow 1024 5)
  | _ => none

/-- A number and a suffix. The product is whole if it fits, and otherwise rounded. -/
def readQuantity? (cs : List Char) : Option Value := do
  let number := cs.takeWhile (fun c => !isAsciiLetter c)
  let factor ← suffixFactor? (cs.dropWhile (fun c => !isAsciiLetter c))
  match (readInt64? number).bind (checkedScale · factor) with
  | some i => return .int i
  | none => (readFloat? number).map fun x => .float (x.mul (Binary64.ofNat factor))

/-- The most specific value that a text spells. -/
def read (s : String) : Value :=
  let cs := s.toList
  let found := ((readInt64? cs).map Value.int).or <|
    ((readFloat? cs).map Value.float).or <|
      ((readBool? cs).map Value.bool).or <|
        ((readDate? cs).map Value.date).or (readQuantity? cs)
  found.getD (.text s)

end Scalar

namespace Value

/-! ### Values of documents -/

/-- A number is whole if it fits 64 bits with a sign. -/
def ofNumber : JsonNumber → Value
  | .whole i =>
    match toInt64? i with
    | some i => .int i
    | none => .float (Binary64.ofInt i)
  | .float x => .float x

mutual

/-- The typed value of a part of a document; its texts are typed, also those in lists. -/
def ofJson : Json → Value
  | .null => .null
  | .bool b => .bool b
  | .number n => ofNumber n
  | .string s => Scalar.read s
  | .array items => .list (ofItems items)
  | .object fields => .map fields

def ofItems : List Json → List Value
  | [] => []
  | item :: items => ofJson item :: ofItems items

end

/-- The typed value of a part of a document, where null is absent. -/
def ofJson? : Json → Option Value
  | .null => none
  | json => some (ofJson json)

theorem ofItems_eq_map (items : List Json) : ofItems items = items.map ofJson := by
  induction items with
  | nil => rfl
  | cons item items ih => simp [ofItems, ih]

end Value

end ClusterQuery
