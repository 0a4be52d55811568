import ClusterQuery.Predicate.Basic

/-! Negation in predicates. What counts is whether an expression holds or with which error it fails, its truth. Negation
    passes through junctions, whose operands are still evaluated from left to right and only as far as needed, and turns
    every operator that has a negated form into that form. -/

namespace ClusterQuery

namespace Predicate

variable {env : Environment} {a b e : Expr} {x : Option Value} {holds : Option Value → Bool}

namespace Expr

/-- Whether an expression holds, or the error that its evaluation or the use of its value as a condition ends with. -/
def truth (env : Environment) (e : Expr) : Except EvalError Bool := do truthy (← e.eval env)

/-! ### Negation and junctions -/

theorem truth_not (env : Environment) (e : Expr) : (Expr.not e).truth env = (e.truth env).map (!·) := by
  rw [truth, truth, eval]
  cases e.eval env with
  | error err => rfl
  | ok v =>
    dsimp only [bind, Except.bind]
    cases truthy v <;> rfl

theorem truth_and (env : Environment) (a b : Expr) :
    (Expr.and a b).truth env = (do if ← a.truth env then b.truth env else return false) := by
  rw [truth, truth, truth, eval]
  cases a.eval env with
  | error err => rfl
  | ok v =>
    dsimp only [bind, Except.bind]
    rcases truthy v with err | (_ | _)
    · rfl
    · rfl
    · cases b.eval env with
      | error err => rfl
      | ok w =>
        dsimp only [bind, Except.bind]
        cases truthy w <;> rfl

theorem truth_or (env : Environment) (a b : Expr) :
    (Expr.or a b).truth env = (do if ← a.truth env then return true else b.truth env) := by
  rw [truth, truth, truth, eval]
  cases a.eval env with
  | error err => rfl
  | ok v =>
    dsimp only [bind, Except.bind]
    rcases truthy v with err | (_ | _)
    · rfl
    · cases b.eval env with
      | error err => rfl
      | ok w =>
        dsimp only [bind, Except.bind]
        cases truthy w <;> rfl
    · rfl

theorem truth_not_not (env : Environment) (a : Expr) : (Expr.not (.not a)).truth env = a.truth env := by
  rw [truth_not, truth_not]
  rcases a.truth env with err | (_ | _) <;> rfl

theorem truth_not_and (env : Environment) (a b : Expr) :
    (Expr.not (.and a b)).truth env = (Expr.or (.not a) (.not b)).truth env := by
  rw [truth_not, truth_and, truth_or, truth_not, truth_not]
  rcases a.truth env with err | (_ | _) <;> rfl

theorem truth_not_or (env : Environment) (a b : Expr) :
    (Expr.not (.or a b)).truth env = (Expr.and (.not a) (.not b)).truth env := by
  rw [truth_not, truth_or, truth_and, truth_not, truth_not]
  rcases a.truth env with err | (_ | _) <;> rfl

end Expr

/-! ### Operators -/

/-- An operator with all its operands but the left one, to every element of which it is applied if that is a list. -/
inductive Operator where
  | compare (op : CompareOp) (right : Expr)
  | isLike (pattern : Pattern) (negated : Bool)
  | isIn (set : Expr) (negated : Bool)
  | between (low high : Expr) (negated : Bool)

namespace Operator

variable {P Q : Operator}

/-- The operator with a left operand. -/
def on (e : Expr) : Operator → Expr
  | compare op right => .compare op e right
  | isLike pattern negated => .isLike e pattern negated
  | isIn set negated => .isIn e set negated
  | between low high negated => .between e low high negated

/-- The other operands. -/
def others : Operator → List Expr
  | compare _ right => [right]
  | isLike _ _ => []
  | isIn set _ => [set]
  | between low high _ => [low, high]

/-- What the operator says of one value, with the other operands evaluated. -/
def condition (env : Environment) : Operator → Except EvalError (Option Value → Bool)
  | compare op right => do
    let y ← right.eval env
    return (compareHolds op · y)
  | isLike pattern negated => return fun x => patternHolds pattern x != negated
  | isIn set negated => do
    let members := membersOf (← set.eval env)
    return fun x => memberHolds members x != negated
  | between low high negated => do
    let lo ← low.eval env
    let hi ← high.eval env
    return betweenHolds negated lo hi

/-- The operator that is written for the negation of this one, if there is one. -/
def negated? : Operator → Option Operator
  | compare .eq right => some (compare .ne right)
  | compare .ne right => some (compare .eq right)
  | compare _ _ => none
  | isLike pattern negated => some (isLike pattern !negated)
  | isIn set negated => some (isIn set !negated)
  | between low high negated => some (between low high !negated)

theorem eval_on (env : Environment) (e : Expr) (P : Operator) :
    (P.on e).eval env = (do
      let x ← e.eval env
      let holds ← P.condition env
      return some (broadcast holds x)) := by
  cases P with
  | compare op right =>
    rw [on, Expr.eval, condition]
    cases e.eval env <;> cases right.eval env <;> rfl
  | isLike pattern negated =>
    rw [on, Expr.eval, condition]
    cases e.eval env <;> rfl
  | isIn set negated =>
    rw [on, Expr.eval, condition]
    cases e.eval env <;> cases set.eval env <;> rfl
  | between low high negated =>
    rw [on, Expr.eval, condition]
    cases e.eval env <;> cases low.eval env <;> cases high.eval env <;> rfl

theorem compareHolds_ne (x y : Option Value) : compareHolds .ne x y = !compareHolds .eq x y := by
  unfold compareHolds
  split
  · split
    · rfl
    · rfl
  · rfl

theorem betweenHolds_not (negated : Bool) (low high x : Option Value) :
    betweenHolds (!negated) low high x = !betweenHolds negated low high x := by
  unfold betweenHolds
  split
  · rfl
  · cases negated <;> simp

/-- A negated operator says the opposite of every value, and its operands are the same. -/
theorem condition_negated? (h : P.negated? = some Q) :
    Q.condition env = (P.condition env).map fun holds x => !holds x := by
  cases P with
  | compare op right =>
    rw [condition]
    cases op <;> cases h <;> rw [condition] <;> cases right.eval env
    · rfl
    · exact congrArg Except.ok (funext fun x => compareHolds_ne x _)
    · rfl
    · exact congrArg Except.ok (funext fun x => (compareHolds_ne x _ ▸ Bool.not_not _).symm)
  | isLike pattern negated =>
    cases h
    exact congrArg Except.ok (funext fun x => by cases negated <;> simp)
  | isIn set negated =>
    cases h
    rw [condition, condition]
    cases set.eval env with
    | error err => rfl
    | ok y => exact congrArg Except.ok (funext fun x => by cases negated <;> simp)
  | between low high negated =>
    cases h
    rw [condition, condition]
    cases low.eval env with
    | error err => rfl
    | ok lo =>
      cases high.eval env with
      | error err => rfl
      | ok hi => exact congrArg Except.ok (funext fun x => betweenHolds_not negated lo hi x)

/-- The negation of a condition is that of its value, and a list of such values stays no condition. -/
theorem truthy_broadcast_not (holds : Option Value → Bool) (x : Option Value) :
    truthy (some (broadcast (fun v => !holds v) x)) = (truthy (some (broadcast holds x))).map (!·) := by
  unfold broadcast
  split <;> rfl

theorem truth_on (env : Environment) (e : Expr) (P : Operator) :
    (P.on e).truth env = (do
      let x ← e.eval env
      let holds ← P.condition env
      truthy (some (broadcast holds x))) := by
  rw [Expr.truth, eval_on]
  cases e.eval env <;> cases P.condition env <;> rfl

theorem truth_not_on (h : P.negated? = some Q) (e : Expr) : (Expr.not (P.on e)).truth env = (Q.on e).truth env := by
  rw [Expr.truth_not, truth_on, truth_on, condition_negated? h]
  cases e.eval env with
  | error err => rfl
  | ok x =>
    cases P.condition env with
    | error err => rfl
    | ok holds => exact (truthy_broadcast_not holds x).symm

end Operator

namespace Expr

theorem truth_not_isNull (env : Environment) (e : Expr) (negated : Bool) :
    (Expr.not (.isNull e negated)).truth env = (Expr.isNull e !negated).truth env := by
  rw [truth_not, truth, truth, eval, eval]
  cases e.eval env with
  | error err => rfl
  | ok x => exact congrArg Except.ok (by cases negated <;> simp)

/-- Negation in every environment, with the errors: de Morgan's laws, double negation, and the negated forms of all
    operators and of the test for null, whatever their left operand is. -/
theorem truth_negation (env : Environment) :
    (∀ a b, (Expr.not (.and a b)).truth env = (Expr.or (.not a) (.not b)).truth env) ∧
      (∀ a b, (Expr.not (.or a b)).truth env = (Expr.and (.not a) (.not b)).truth env) ∧
      (∀ a, (Expr.not (.not a)).truth env = a.truth env) ∧
      (∀ P Q : Operator, P.negated? = some Q → ∀ e, (Expr.not (P.on e)).truth env = (Q.on e).truth env) ∧
      ∀ e negated, (Expr.not (.isNull e negated)).truth env = (Expr.isNull e !negated).truth env :=
  ⟨truth_not_and env, truth_not_or env, truth_not_not env, fun _ _ h => Operator.truth_not_on h, truth_not_isNull env⟩

/-- A list is no condition, be it tested for membership or for its absence. -/
theorem truth_negation_of_list :
    let env : Environment := fun _ => .ok (some (.list [.text "nginx", .null]))
    let P : Operator := .isIn (.list [.literal (.text "nginx")]) false
    let Q : Operator := .isIn (.list [.literal (.text "nginx")]) true
    P.negated? = some Q ∧ (Expr.not (P.on (.ident "images"))).truth env = (Q.on (.ident "images")).truth env ∧
      (Q.on (.ident "images")).truth env = .error (.notBoolean "list") := by
  intro env P Q
  obtain ⟨-, -, -, hoperators, -⟩ := truth_negation env
  exact ⟨rfl, hoperators P Q rfl _, rfl⟩

end Expr

end Predicate

end ClusterQuery
