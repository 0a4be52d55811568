import ClusterQuery.Value.Scalar

/-!
The two orders on values. `Value.compare?` is the order of predicates: numbers by size, dates by time,
booleans with false first, and any other pair by their texts; texts are typed first. `SortKey` is the total
order that sorting needs: values of different classes are ordered by their class.
-/

namespace ClusterQuery

namespace Value

/-- The value with a text typed. -/
def typed : Value → Value
  | .text s => Scalar.read s
  | v => v

/-- The order of two numbers as predicates see them: exact if both are whole. -/
def compareNumbers? : Value → Value → Option (Option Ordering)
  | .int x, .int y => some (some (Ord.compare x.toInt y.toInt))
  | x, y =>
    match x.number?, y.number? with
    | some p, some q => some (p.compare? q)
    | _, _ => none

/-- The order of predicates. Pairs with NaN have none. -/
def compare? (a b : Value) : Option Ordering :=
  match a.typed, b.typed with
  | .date x, .date y => some (x.compare y)
  | .bool x, .bool y => some (Ord.compare x y)
  | x, y => (compareNumbers? x y).getD (some (Ord.compare a.display b.display))

/-- Equality in predicates. -/
def same (a b : Value) : Bool := compare? a b == some .eq

end Value

/-- What a value is sorted by. -/
inductive SortKey where
  | absent
  | null
  | bool (b : Bool)
  | number (x : Binary64)
  | date (d : Instant)
  | text (cs : List Char)
deriving DecidableEq

namespace SortKey

/-- The key of a value that may be absent. -/
def ofValue : Option Value → SortKey
  | none => .absent
  | some v =>
    match v.typed with
    | .null => .null
    | .bool b => .bool b
    | .int i => .number (Binary64.ofInt i.toInt)
    | .float x => .number x
    | .date d => .date d
    | other => .text other.display

/-- The place of a key's class among the classes. -/
def classRank : SortKey → Nat
  | .absent => 0
  | .null => 1
  | .bool _ => 2
  | .number _ => 3
  | .date _ => 4
  | .text _ => 5

/-- Keys of one class are ordered by what they hold, others by their classes. -/
def compare : SortKey → SortKey → Ordering
  | .bool a, .bool b => Ord.compare a b
  | .number a, .number b => a.totalCompare b
  | .date a, .date b => a.compare b
  | .text a, .text b => Ord.compare a b
  | a, b => Ord.compare a.classRank b.classRank

end SortKey

end ClusterQuery
