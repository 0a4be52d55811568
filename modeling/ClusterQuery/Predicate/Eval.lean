import ClusterQuery.Predicate.Expr
import ClusterQuery.Reducer
import ClusterQuery.Value.Order

/-!
The value of an expression where identifiers have values. An identifier may be absent. An operator whose left
operand is a list is applied to every element and gives the list of what holds of them.
-/

namespace ClusterQuery

namespace Predicate

inductive EvalError where
  | notBoolean (found : String)
  | badArgument (f : Function) (found : String)
  | lookup (name reason : String)
deriving DecidableEq

def EvalError.message : EvalError → String
  | .notBoolean found => "expected a boolean, got " ++ found
  | .badArgument f found => f.name ++ "() cannot be applied to " ++ found
  | .lookup name reason => "lookup of " ++ quoted name ++ " failed: " ++ reason

/-- The values of identifiers. -/
abbrev Environment := String → Except EvalError (Option Value)

/-- Whether a result counts as true: what is absent does not, and what is no boolean cannot. -/
def truthy : Option Value → Except EvalError Bool
  | none | some .null => .ok false
  | some (.bool b) => .ok b
  | some v => .error (.notBoolean v.typeName)

/-- A condition on every element of a list, or on anything else itself. -/
def broadcast (holds : Option Value → Bool) : Option Value → Value
  | some (.list items) => .list (items.map fun item => .bool (holds item.present?))
  | v => .bool (holds v)

/-- Whether two operands compare. What is absent or not comparable is different from everything. -/
def compareHolds (op : CompareOp) (a b : Option Value) : Bool :=
  match a.bind (·.present?), b.bind (·.present?) with
  | some a, some b =>
    match a.compare? b with
    | some o => op.holds o
    | none => op == .ne
  | _, _ => op == .ne

/-- Whether a value's text matches a pattern. -/
def patternHolds (pattern : Pattern) : Option Value → Bool
  | none => false
  | some v => pattern.isMatch v.display

/-- Whether a value equals one of several. -/
def memberHolds (members : List Value) : Option Value → Bool
  | none => false
  | some v => members.any (·.same v)

/-- Whether a value lies between two others. One that is absent lies outside and inside. -/
def betweenHolds (negated : Bool) (low high v : Option Value) : Bool :=
  if v.isNone then negated else (compareHolds .ge v low && compareHolds .le v high) != negated

/-- The members of a set: the elements of a list, or a value alone. -/
def membersOf : Option Value → List Value
  | some (.list items) => items
  | some v => [v]
  | none => []

/-- Whether a result is absent or null. -/
def isAbsent : Option Value → Bool
  | none | some .null => true
  | _ => false

/-- The value of a call. -/
def Function.apply : Function → Option Value → Except EvalError (Option Value)
  | .len, none => .ok none
  | .any, none | .all, none => .ok (some (.bool false))
  | .len, some (.list items) => .ok (some (.int (Int64.ofNat items.length)))
  | .len, some (.map fields) => .ok (some (.int (Int64.ofNat fields.length)))
  | .len, some (.text s) => .ok (some (.int (Int64.ofNat s.length)))
  | .any, some (.list items) => .ok (some (Reducer.any.reduce items))
  | .all, some (.list items) => .ok (some (Reducer.all.reduce items))
  | .any, some (.bool b) | .all, some (.bool b) => .ok (some (.bool b))
  | f, some v => .error (.badArgument f v.typeName)

namespace Expr

mutual

/-- The value of an expression. The right operand of a junction is evaluated only if the left one does not
    decide it. -/
def eval (env : Environment) : Expr → Except EvalError (Option Value)
  | .literal v => .ok (some v)
  | .null => .ok none
  | .ident name => env name
  | .list items => do
    let values ← evalAll env items
    return some (.list values)
  | .not e => do
    let b ← truthy (← e.eval env)
    return some (.bool !b)
  | .and a b => do
    if ← truthy (← a.eval env) then
      let b ← truthy (← b.eval env)
      return some (.bool b)
    else return some (.bool false)
  | .or a b => do
    if ← truthy (← a.eval env) then return some (.bool true)
    else
      let b ← truthy (← b.eval env)
      return some (.bool b)
  | .compare op a b => do
    let x ← a.eval env
    let y ← b.eval env
    return some (broadcast (compareHolds op · y) x)
  | .isLike e pattern negated => do
    let x ← e.eval env
    return some (broadcast (fun v => patternHolds pattern v != negated) x)
  | .isIn e set negated => do
    let x ← e.eval env
    let members := membersOf (← set.eval env)
    return some (broadcast (fun v => memberHolds members v != negated) x)
  | .between e low high negated => do
    let x ← e.eval env
    let lo ← low.eval env
    let hi ← high.eval env
    return some (broadcast (betweenHolds negated lo hi) x)
  | .isNull e negated => do
    let x ← e.eval env
    return some (.bool (isAbsent x != negated))
  | .call f argument => do f.apply (← argument.eval env)

/-- The values of several expressions; one that is absent is null. -/
def evalAll (env : Environment) : List Expr → Except EvalError (List Value)
  | [] => .ok []
  | e :: es => do
    let v ← e.eval env
    let vs ← evalAll env es
    return v.getD .null :: vs

end

end Expr

end Predicate

end ClusterQuery
