import ClusterQuery.Proofs.Predicate.Membership
import ClusterQuery.Proofs.Predicate.Negation

/-! The functions `any` and `all` as quantifiers. An operator on a list gives a list of what it says of the elements, and
    the two functions say whether it holds of some or of every one of them; on anything else they change nothing. -/

namespace ClusterQuery

namespace Predicate

variable {env : Environment} {holds : Option Value → Bool}

/-! ### Lists of conditions -/

theorem any_isTrue_map (holds : Option Value → Bool) (items : List Value) :
    (items.map fun item => Value.bool (holds item.present?)).any Reducer.isTrue = items.any fun item => holds item.present? := by
  rw [List.any_map]
  refine congrArg (items.any ·) (funext fun item => ?_)
  cases h : holds item.present? <;> simp [h, Reducer.isTrue, Value.bool?]

theorem all_isTrue_map (holds : Option Value → Bool) (items : List Value) :
    (items.map fun item => Value.bool (holds item.present?)).all Reducer.isTrue = items.all fun item => holds item.present? := by
  rw [List.all_map]
  refine congrArg (items.all ·) (funext fun item => ?_)
  cases h : holds item.present? <;> simp [h, Reducer.isTrue, Value.bool?]

theorem apply_any_broadcast (holds : Option Value → Bool) (items : List Value) :
    Function.any.apply (some (broadcast holds (some (.list items)))) =
      .ok (some (.bool (items.any fun item => holds item.present?))) := by
  rw [← any_isTrue_map]
  rfl

theorem apply_all_broadcast (holds : Option Value → Bool) (items : List Value) :
    Function.all.apply (some (broadcast holds (some (.list items)))) =
      .ok (some (.bool (!items.isEmpty && items.all fun item => holds item.present?))) := by
  rw [← all_isTrue_map, ← List.isEmpty_map]
  rfl

namespace Operator

variable {P Q : Operator} {e : Expr} {x : Option Value} {items : List Value} {name : String}

/-! ### Operators with their other operands evaluated -/

/-- An operator has a condition as soon as its other operands have values. -/
theorem exists_condition (h : ∀ e ∈ P.others, ∃ v, e.eval env = .ok v) : ∃ holds, P.condition env = .ok holds := by
  cases P with
  | compare op right =>
    obtain ⟨y, hy⟩ := List.forall_mem_singleton.mp h
    exact ⟨_, by rw [condition, hy]; rfl⟩
  | isLike pattern negated => exact ⟨_, rfl⟩
  | isIn set negated =>
    obtain ⟨y, hy⟩ := List.forall_mem_singleton.mp h
    exact ⟨_, by rw [condition, hy]; rfl⟩
  | between low high negated =>
    obtain ⟨⟨lo, hlo⟩, hhigh⟩ := List.forall_mem_cons.mp h
    obtain ⟨hi, hhi⟩ := List.forall_mem_singleton.mp hhigh
    exact ⟨_, by rw [condition, hlo, hhi]; rfl⟩

theorem condition_congr {env' : Environment} (h : ∀ e ∈ P.others, e.eval env' = e.eval env) :
    P.condition env' = P.condition env := by
  cases P with
  | compare op right => rw [condition, condition, List.forall_mem_singleton.mp h]
  | isLike pattern negated => rfl
  | isIn set negated => rw [condition, condition, List.forall_mem_singleton.mp h]
  | between low high negated =>
    obtain ⟨hlow, hhigh⟩ := List.forall_mem_cons.mp h
    rw [condition, condition, hlow, List.forall_mem_singleton.mp hhigh]

theorem eval_on_of_condition (he : e.eval env = .ok x) (hP : P.condition env = .ok holds) :
    (P.on e).eval env = .ok (some (broadcast holds x)) := by
  rw [eval_on, he, hP]
  rfl

theorem eval_call_on (f : Function) (he : e.eval env = .ok x) (hP : P.condition env = .ok holds) :
    (Expr.call f (P.on e)).eval env = f.apply (some (broadcast holds x)) := by
  rw [Expr.eval, eval_on_of_condition he hP]
  rfl

/-! ### Some and every element -/

theorem eval_any_on (he : e.eval env = .ok (some (.list items))) (hP : P.condition env = .ok holds) :
    (Expr.call .any (P.on e)).eval env = .ok (some (.bool (items.any fun item => holds item.present?))) := by
  rw [eval_call_on _ he hP, apply_any_broadcast]

theorem eval_all_on (he : e.eval env = .ok (some (.list items))) (hP : P.condition env = .ok holds) :
    (Expr.call .all (P.on e)).eval env =
      .ok (some (.bool (!items.isEmpty && items.all fun item => holds item.present?))) := by
  rw [eval_call_on _ he hP, apply_all_broadcast]

/-- Some element satisfies an operator if not every one satisfies its negated form, unless there is none. -/
theorem eval_any_on_of_negated? (he : e.eval env = .ok (some (.list items))) (hP : P.condition env = .ok holds)
    (hQ : P.negated? = some Q) (hne : items ≠ []) :
    (Expr.call .any (P.on e)).eval env = (Expr.not (.call .all (Q.on e))).eval env := by
  have hcondition : Q.condition env = .ok fun x => !holds x := by
    rw [condition_negated? hQ, hP]
    rfl
  have hnot : (!(!items.isEmpty && items.all fun item => !holds item.present?)) =
      items.any fun item => holds item.present? := by
    rw [List.isEmpty_eq_false_iff.mpr hne, Bool.not_false, Bool.true_and, List.not_all_eq_any_not]
    simp only [Bool.not_not]
  rw [eval_any_on he hP, Expr.eval, eval_all_on he hcondition, ← hnot]
  rfl

/-- What is no list is left as it is. -/
theorem eval_call_on_of_single {f : Function} (hf : f ≠ .len) (he : e.eval env = .ok x)
    (hx : ∀ items, x ≠ some (.list items)) (hP : P.condition env = .ok holds) :
    (Expr.call f (P.on e)).eval env = (P.on e).eval env := by
  rw [eval_call_on f he hP, eval_on_of_condition he hP, Expr.broadcast_of_single hx]
  cases f with
  | len => exact absurd rfl hf
  | any => rfl
  | all => rfl

/-- What an operator says of one value is what it gives for an identifier with this value, with the other operands as they
    were. -/
theorem eval_on_ident_of_single {env' : Environment} (hP : P.condition env = .ok holds) (hx : env' name = .ok x)
    (hsingle : ∀ items, x ≠ some (.list items)) (hothers : ∀ e ∈ P.others, e.eval env' = e.eval env) :
    (P.on (.ident name)).eval env' = .ok (some (.bool (holds x))) := by
  rw [eval_on_of_condition (e := .ident name) hx ((condition_congr hothers).trans hP), Expr.broadcast_of_single hsingle]

/-- Let the other operands of an operator have values. Of a list, `any` says whether the operator holds of some element and
    `all` whether there are elements and it holds of every one; each is the negation of the other for the negated
    operator. What the operator says of an element is what it gives where the identifier has the element as its value and a
    null has none. Of anything but a list both functions say what the operator says. -/
theorem any_all_on (hothers : ∀ e ∈ P.others, ∃ v, e.eval env = .ok v) :
    ∃ holds, P.condition env = .ok holds ∧
      (∀ items, env name = .ok (some (.list items)) →
        (∃ found every, (Expr.call .any (P.on (.ident name))).eval env = .ok (some (.bool found)) ∧
          (Expr.call .all (P.on (.ident name))).eval env = .ok (some (.bool every)) ∧
          (found = true ↔ ∃ item ∈ items, holds item.present? = true) ∧
          (every = true ↔ items ≠ [] ∧ ∀ item ∈ items, holds item.present? = true)) ∧
        ∀ Q, P.negated? = some Q → items ≠ [] →
          (Expr.call .any (P.on (.ident name))).eval env = (Expr.not (.call .all (Q.on (.ident name)))).eval env) ∧
      (∀ x env', (∀ items, x ≠ some (.list items)) → env' name = .ok x → (∀ e ∈ P.others, e.eval env' = e.eval env) →
        (P.on (.ident name)).eval env' = .ok (some (.bool (holds x)))) ∧
      ∀ x, (∀ items, x ≠ some (.list items)) → env name = .ok x →
        (Expr.call .any (P.on (.ident name))).eval env = (P.on (.ident name)).eval env ∧
        (Expr.call .all (P.on (.ident name))).eval env = (P.on (.ident name)).eval env := by
  obtain ⟨holds, hP⟩ := exists_condition hothers
  refine ⟨holds, hP, fun items hx => ⟨⟨_, _, eval_any_on hx hP, eval_all_on hx hP, ?_, ?_⟩, ?_⟩, ?_, ?_⟩
  · exact List.any_eq_true
  · rw [Bool.and_eq_true, Bool.not_eq_true', List.isEmpty_eq_false_iff, List.all_eq_true]
  · exact fun Q hQ hne => eval_any_on_of_negated? hx hP hQ hne
  · exact fun x env' hsingle hx' hsame => eval_on_ident_of_single hP hx' hsingle hsame
  · exact fun x hsingle hx => ⟨eval_call_on_of_single nofun hx hsingle hP, eval_call_on_of_single nofun hx hsingle hP⟩

/-- A null is different from a text, as what is absent is; a list with the text as its only element is different too. -/
theorem any_all_on_of_nested_list :
    let env : Environment := fun name =>
      .ok (if name = "images" then some (.list [.text "nginx", .null, .list [.text "nginx"]]) else none)
    let P : Operator := .compare .ne (.literal (.text "nginx"))
    (∀ e ∈ P.others, ∃ v, e.eval env = .ok v) ∧
      (Expr.call .any (P.on (.ident "images"))).eval env = .ok (some (.bool true)) ∧
      (Expr.call .all (P.on (.ident "images"))).eval env = .ok (some (.bool false)) := by
  intro env P
  have hothers : ∀ e ∈ P.others, ∃ v, e.eval env = .ok v := List.forall_mem_singleton.mpr ⟨_, rfl⟩
  obtain ⟨holds, hP, hlist, -⟩ := @any_all_on env P "images" hothers
  obtain ⟨⟨found, every, hany, hall, hfound, hevery⟩, -⟩ := hlist _ rfl
  cases hP
  have hsome : found = true := hfound.mpr ⟨.null, by simp, rfl⟩
  have hnot : every ≠ true := fun h => absurd ((hevery.mp h).2 (.text "nginx") List.mem_cons_self) (by decide +kernel)
  exact ⟨hothers, hsome ▸ hany, (Bool.not_eq_true _).mp hnot ▸ hall⟩

end Operator

end Predicate

end ClusterQuery
