import ClusterQuery.Value.Basic
import ClusterQuery.Text.Quoted

/-!
Reducers, which turn a list into one value. A sum is whole while every number in the list is and no partial
sum leaves the range.
-/

namespace ClusterQuery

inductive Reducer where
  | len | sum | any | all
deriving DecidableEq, Inhabited

namespace Reducer

def name : Reducer → String
  | .len => "len"
  | .sum => "sum"
  | .any => "any"
  | .all => "all"

/-- The reducer with this name, in any case. -/
def named? (cs : List Char) : Option Reducer :=
  match String.ofList (lowerText cs) with
  | "len" => some .len
  | "sum" => some .sum
  | "any" => some .any
  | "all" => some .all
  | _ => none

inductive Error where
  | unknown (name : String)
  | notAList (reducer : Reducer) (found : String)
deriving DecidableEq

def Error.message : Error → String
  | .unknown name => "unknown reducer " ++ quoted name ++ ": must be one of 'len', 'sum', 'any', 'all'"
  | .notAList reducer found =>
    "reducer " ++ reducer.name ++ " can only be applied to list values, got " ++ found

def read (s : String) : Except Error Reducer :=
  match named? s.toList with
  | some r => .ok r
  | none => .error (.unknown s)

/-- The sums of the numbers read so far: exact while it is whole, and rounded. -/
structure Total where
  whole : Option Int64
  rounded : Binary64

/-- Adds an element; what is not a number counts for nothing. -/
def Total.add (t : Total) : Value → Total
  | .int i => ⟨t.whole.bind (checkedAdd · i), t.rounded.add (Binary64.ofInt i.toInt)⟩
  | .float x => ⟨none, t.rounded.add x⟩
  | _ => t

def sumOf (items : List Value) : Value :=
  let total := items.foldl Total.add ⟨some 0, .zero⟩
  match total.whole with
  | some i => .int i
  | none => .float total.rounded

def isTrue (v : Value) : Bool := v.bool? == some true

/-- The value of a list. `all` is false for the empty list. -/
def reduce (r : Reducer) (items : List Value) : Value :=
  match r with
  | .len => .int (Int64.ofNat items.length)
  | .sum => sumOf items
  | .any => .bool (items.any isTrue)
  | .all => .bool (!items.isEmpty && items.all isTrue)

/-- Reduces a value that may be absent, which it stays; anything else must be a list. -/
def apply (r : Reducer) : Option Value → Except Error (Option Value)
  | none => .ok none
  | some (.list items) => .ok (some (r.reduce items))
  | some v => .error (.notAList r v.typeName)

end Reducer

/-- Applies a reducer if there is one. -/
def reduceWith (r : Option Reducer) (v : Option Value) : Except Reducer.Error (Option Value) :=
  match r with
  | none => .ok v
  | some r => r.apply v

end ClusterQuery
