import ClusterQuery.Predicate.Eval
import ClusterQuery.Predicate.Parser

/-!
Predicates: conditions on documents, as text and as the expression that the text stands for.
-/

namespace ClusterQuery

structure Predicate where
  source : String
  expr : Predicate.Expr

namespace Predicate

/-- Reads a predicate. -/
def parse (source : String) : Except Error Predicate := do
  let ts ← tokens source.toList
  let expr ← parseAll ts
  return ⟨source, expr⟩

/-- The identifiers in the order in which they first occur. -/
def identifiers (p : Predicate) : List String := p.expr.identifiers

/-- The value of a predicate, which may be a list of what holds of the elements of a list. -/
def evaluate (p : Predicate) (env : Environment) : Except EvalError (Option Value) := p.expr.eval env

/-- Whether a predicate holds. -/
def holds (p : Predicate) (env : Environment) : Except EvalError Bool := do truthy (← p.evaluate env)

end Predicate

end ClusterQuery
