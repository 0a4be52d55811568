import ClusterQuery.Pattern.Basic
import ClusterQuery.Value.Basic

/-!
The expressions that predicates are made of, and the identifiers in them.
-/

namespace ClusterQuery

namespace Predicate

inductive CompareOp where
  | eq | ne | lt | le | gt | ge
deriving DecidableEq

namespace CompareOp

def text : CompareOp → String
  | .eq => "="
  | .ne => "!="
  | .lt => "<"
  | .le => "<="
  | .gt => ">"
  | .ge => ">="

/-- Whether the operator holds of operands in this order. -/
def holds (op : CompareOp) (o : Ordering) : Bool :=
  match op with
  | .eq => o == .eq
  | .ne => o != .eq
  | .lt => o == .lt
  | .le => o != .gt
  | .gt => o == .gt
  | .ge => o != .lt

end CompareOp

/-- The functions that predicates call. -/
inductive Function where
  | len | any | all
deriving DecidableEq

namespace Function

def name : Function → String
  | .len => "len"
  | .any => "any"
  | .all => "all"

/-- The function with this name, in any case. -/
def named? (name : String) : Option Function :=
  match lowerName name with
  | "len" => some .len
  | "any" => some .any
  | "all" => some .all
  | _ => none

end Function

inductive Expr where
  | literal (v : Value)
  | null
  | ident (name : String)
  | list (items : List Expr)
  | not (e : Expr)
  | and (a b : Expr)
  | or (a b : Expr)
  | compare (op : CompareOp) (a b : Expr)
  | isLike (e : Expr) (pattern : Pattern) (negated : Bool)
  | isIn (e set : Expr) (negated : Bool)
  | between (e low high : Expr) (negated : Bool)
  | isNull (e : Expr) (negated : Bool)
  | call (f : Function) (argument : Expr)

namespace Expr

mutual

/-- The identifiers in the order in which they occur, as often as they do. -/
def mentions : Expr → List String
  | .literal _ | .null => []
  | .ident name => [name]
  | .list items => mentionsOf items
  | .not e | .isLike e _ _ | .isNull e _ | .call _ e => e.mentions
  | .and a b | .or a b | .compare _ a b | .isIn a b _ => a.mentions ++ b.mentions
  | .between e low high _ => e.mentions ++ low.mentions ++ high.mentions

def mentionsOf : List Expr → List String
  | [] => []
  | e :: es => e.mentions ++ mentionsOf es

end

/-- The identifiers in the order in which they first occur. -/
def identifiers (e : Expr) : List String := e.mentions.eraseDups

end Expr

end Predicate

end ClusterQuery
