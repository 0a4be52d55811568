import ClusterQuery.Proofs.Predicate.Membership
import ClusterQuery.Proofs.Predicate.Negation
import ClusterQuery.Proofs.Value.Display

/-! The laws of comparison. Predicates order every pair of values but those of a number and a NaN, and an operand that is
    absent or null with no other. Where there is an order the six operators say one thing about it, and where there is
    none only the operands' being different holds. -/

namespace ClusterQuery

theorem Binary64.compare?_eq_none_iff {x y : Binary64} : x.compare? y = none ↔ x.isNaN = true ∨ y.isNaN = true := by
  rw [← Bool.or_eq_true]
  unfold compare?
  split
  · next h => exact iff_of_true rfl h
  · next h => exact iff_of_false (Option.some_ne_none _) h

namespace Value

variable {v w : Value}

/-! ### Values without an order -/

/-- A floating-point value that is not a number. -/
def IsNaN (v : Value) : Prop := ∃ x : Binary64, v = .float x ∧ x.isNaN = true

/-- One of two values is not a number, and the other is one or is typed as one. -/
def Unordered (v w : Value) : Prop := v.IsNaN ∧ w.typed.isNumber = true ∨ w.IsNaN ∧ v.typed.isNumber = true

/-- No text is typed as NaN. -/
theorem isNaN_iff_typed : v.IsNaN ↔ ∃ x : Binary64, v.typed = .float x ∧ x.isNaN = true := by
  cases v with
  | text s =>
    refine iff_of_false (fun ⟨_, h, _⟩ => nomatch h) ?_
    rintro ⟨x, hread, hnan⟩
    rw [Scalar.isNaN_of_read hread] at hnan
    cases hnan
  | _ => exact Iff.rfl

/-- A number that a value is or is typed as is NaN only if the value is. -/
theorem isNaN_iff_of_number {x : Binary64} (h : v.typed.number? = some x) : v.IsNaN ↔ x.isNaN = true := by
  rw [isNaN_iff_typed]
  cases htyped : v.typed with
  | int i =>
    rw [htyped] at h
    obtain rfl := Option.some.inj h
    refine iff_of_false (fun ⟨_, h, _⟩ => nomatch h) (Bool.eq_false_iff.mp ?_)
    exact Binary64.isNaN_roundUnits _ _ _
  | float y =>
    rw [htyped] at h
    obtain rfl := Option.some.inj h
    simp
  | _ =>
    rw [htyped] at h
    cases h

theorem compare?_self_iff : v.compare? v = some .eq ↔ ¬v.IsNaN := by
  constructor
  · rintro hself ⟨x, rfl, hnan⟩
    have hnone : Value.compare? (.float x) (.float x) = none :=
      (compare?_of_number rfl rfl fun ⟨_, _, hi, _⟩ => nomatch hi).trans (Binary64.compare?_eq_none_iff.mpr (.inl hnan))
    exact Option.some_ne_none _ (hself.symm.trans hnone)
  · intro hnan
    refine beq_iff_eq.mp (same_self fun x hx => ?_)
    exact Bool.eq_false_iff.mpr fun h => hnan (isNaN_iff_typed.mpr ⟨x, hx, h⟩)

/-- What is not compared by size has an order. -/
theorem compare?_ne_none_of_not_number (h : v.typed.number? = none ∨ w.typed.number? = none) : v.compare? w ≠ none := by
  have hnumbers : compareNumbers? v.typed w.typed = none := by
    unfold compareNumbers?
    split
    · next hi hj =>
      rw [hi, hj] at h
      rcases h with h | h <;> cases h
    · rcases h with h | h
      · rw [h]
      · rw [h]
        cases v.typed.number? <;> rfl
  unfold compare?
  split
  · exact Option.some_ne_none _
  · exact Option.some_ne_none _
  · rw [hnumbers]
    exact Option.some_ne_none _

/-- The pairs without an order are those of a number and a NaN. -/
theorem compare?_eq_none_iff : v.compare? w = none ↔ v.Unordered w := by
  by_cases hnumbers : v.typed.number? = none ∨ w.typed.number? = none
  · refine iff_of_false (compare?_ne_none_of_not_number hnumbers) ?_
    have hnan : ∀ {u : Value}, u.IsNaN → u.typed.number? ≠ none := by
      rintro u ⟨x, rfl, -⟩
      exact Option.some_ne_none x
    rintro (⟨hv, hw⟩ | ⟨hw, hv⟩)
    · exact hnumbers.elim (hnan hv) (Option.isSome_iff_ne_none.mp hw)
    · exact hnumbers.elim (Option.isSome_iff_ne_none.mp hv) (hnan hw)
  obtain ⟨⟨x, hx⟩, y, hy⟩ := (not_or.mp hnumbers).imp Option.ne_none_iff_exists'.mp Option.ne_none_iff_exists'.mp
  have hiff : v.Unordered w ↔ x.isNaN = true ∨ y.isNaN = true := by
    rw [Unordered, isNaN_iff_of_number hx, isNaN_iff_of_number hy, isNumber, isNumber, hx, hy]
    simp
  rw [hiff]
  by_cases hwhole : ∃ i j, v.typed = .int i ∧ w.typed = .int j
  · obtain ⟨i, j, hi, hj⟩ := hwhole
    rw [hi] at hx
    rw [hj] at hy
    obtain rfl := Option.some.inj hx
    obtain rfl := Option.some.inj hy
    rw [compare?_of_whole hi hj, Binary64.ofInt, Binary64.ofInt, Binary64.ofRatio, Binary64.ofRatio,
      Binary64.isNaN_roundUnits, Binary64.isNaN_roundUnits]
    simp
  · rw [compare?_of_number hx hy hwhole, Binary64.compare?_eq_none_iff]

end Value

namespace Predicate

variable {env : Environment} {a b : Expr} {x y : Option Value}

/-! ### The operators -/

/-- The operator that says the same of two operands the other way round. -/
def CompareOp.converse : CompareOp → CompareOp
  | .eq => .eq
  | .ne => .ne
  | .lt => .gt
  | .le => .ge
  | .gt => .lt
  | .ge => .le

theorem CompareOp.holds_converse (op : CompareOp) (o : Ordering) : op.converse.holds o.swap = op.holds o := by
  cases op <;> cases o <;> rfl

theorem CompareOp.converse_beq_ne (op : CompareOp) : (op.converse == .ne) = (op == .ne) := by
  cases op <;> rfl

/-- The order of two operands, if both are present and they have one. -/
def order? (x y : Option Value) : Option Ordering :=
  (x.bind (·.present?)).bind fun v => (y.bind (·.present?)).bind fun w => v.compare? w

theorem compareHolds_eq (op : CompareOp) (x y : Option Value) :
    compareHolds op x y = ((order? x y).map op.holds).getD (op == .ne) := by
  unfold compareHolds order?
  cases x.bind (·.present?) with
  | none => rfl
  | some v =>
    cases y.bind (·.present?) with
    | none => rfl
    | some w =>
      rw [Option.bind_some, Option.bind_some]
      dsimp only
      cases v.compare? w <;> rfl

theorem order?_swap (x y : Option Value) : order? y x = (order? x y).map Ordering.swap := by
  unfold order?
  cases x.bind (·.present?) with
  | none => cases y.bind (·.present?) <;> rfl
  | some v =>
    cases y.bind (·.present?) with
    | none => rfl
    | some w => exact Value.compare?_swap v w

/-- Two operands have no order: one is absent or null, or they are a number and a NaN. -/
def Incomparable (x y : Option Value) : Prop :=
  isAbsent x = true ∨ isAbsent y = true ∨ ∃ v w, x = some v ∧ y = some w ∧ v.Unordered w

theorem bind_present? (h : isAbsent x = false) : x.bind (·.present?) = x := by
  rcases x with - | v
  · cases h
  · refine present?_of_ne_null ?_
    rintro rfl
    cases h

theorem bind_present?_of_absent (h : isAbsent x = true) : x.bind (·.present?) = none := by
  rcases isAbsent_iff.mp h with rfl | rfl <;> rfl

theorem order?_eq_none_iff : order? x y = none ↔ Incomparable x y := by
  unfold order? Incomparable
  cases hx : isAbsent x with
  | true =>
    rw [bind_present?_of_absent hx]
    exact iff_of_true rfl (.inl rfl)
  | false =>
    cases hy : isAbsent y with
    | true =>
      rw [bind_present?_of_absent hy]
      exact iff_of_true (by cases x.bind (·.present?) <;> rfl) (.inr (.inl rfl))
    | false =>
      rw [bind_present? hx, bind_present? hy]
      rcases x with - | v
      · cases hx
      rcases y with - | w
      · cases hy
      rw [Option.bind_some, Option.bind_some, Value.compare?_eq_none_iff]
      simp

theorem compareHolds_converse (op : CompareOp) (x y : Option Value) :
    compareHolds op.converse y x = compareHolds op x y := by
  rw [compareHolds_eq, compareHolds_eq, order?_swap, op.converse_beq_ne]
  cases order? x y with
  | none => rfl
  | some o => exact op.holds_converse o

theorem compareHolds_le (x y : Option Value) :
    compareHolds .le x y = (compareHolds .lt x y || compareHolds .eq x y) := by
  rw [compareHolds_eq, compareHolds_eq, compareHolds_eq]
  cases order? x y with
  | none => rfl
  | some o => cases o <;> rfl

/-- Of two operands without an order only their being different holds. -/
theorem compareHolds_of_incomparable (h : Incomparable x y) (op : CompareOp) : compareHolds op x y = (op == .ne) := by
  rw [compareHolds_eq, order?_eq_none_iff.mpr h]
  rfl

theorem exists_compareHolds (h : ¬Incomparable x y) : ∃ held ∈ [CompareOp.lt, .eq, .gt],
    ∀ op ∈ [CompareOp.lt, .eq, .gt], compareHolds op x y = (op == held) := by
  obtain ⟨o, ho⟩ := Option.ne_none_iff_exists'.mp (mt order?_eq_none_iff.mp h)
  simp only [compareHolds_eq, ho, Option.map_some, Option.getD_some]
  cases o with
  | lt => exact ⟨.lt, by decide, by decide⟩
  | eq => exact ⟨.eq, by decide, by decide⟩
  | gt => exact ⟨.gt, by decide, by decide⟩

namespace Expr

theorem eval_compare (op : CompareOp) (ha : a.eval env = .ok x) (hb : b.eval env = .ok y)
    (hx : ∀ items, x ≠ some (.list items)) :
    (Expr.compare op a b).eval env = .ok (some (.bool (compareHolds op x y))) := by
  rw [eval, ha, hb, ← broadcast_of_single hx fun v => compareHolds op v y]
  rfl

theorem eval_not_of_bool {c : Bool} (ha : a.eval env = .ok (some (.bool c))) :
    (Expr.not a).eval env = .ok (some (.bool !c)) := by
  rw [eval, ha]
  rfl

/-- The laws of comparison. The order of values is reversed with its operands, and a value equals itself unless it is NaN.
    In every environment, operands that are no lists compare as they do the other way round with the converse operator,
    `<=` is `<` or `=`, `!=` is the complement of `=`, and one of `<`, `=` and `>` holds, or only `!=` if the operands have
    no order. -/
theorem comparison_laws (env : Environment) :
    (∀ v w : Value, w.compare? v = (v.compare? w).map Ordering.swap) ∧
    (∀ v : Value, v.compare? v = some .eq ↔ ¬v.IsNaN) ∧
    ∀ (a b : Expr) (x y : Option Value), a.eval env = .ok x → b.eval env = .ok y →
      (∀ items, x ≠ some (.list items)) → (∀ items, y ≠ some (.list items)) →
      (∀ op, (Expr.compare op a b).eval env = (Expr.compare op.converse b a).eval env) ∧
      (Expr.compare .le a b).eval env = (Expr.or (.compare .lt a b) (.compare .eq a b)).eval env ∧
      (Expr.compare .ne a b).eval env = (Expr.not (.compare .eq a b)).eval env ∧
      (¬Incomparable x y → ∃ held ∈ [CompareOp.lt, .eq, .gt], ∀ op ∈ [CompareOp.lt, .eq, .gt],
        (Expr.compare op a b).eval env = .ok (some (.bool (op == held)))) ∧
      (Incomparable x y → ∀ op, (Expr.compare op a b).eval env = .ok (some (.bool (op == .ne)))) := by
  refine ⟨Value.compare?_swap, fun _ => Value.compare?_self_iff, fun a b x y ha hb hx hy => ⟨?_, ?_, ?_, ?_, ?_⟩⟩
  · intro op
    rw [eval_compare op ha hb hx, eval_compare _ hb ha hy, compareHolds_converse]
  · rw [eval_compare .le ha hb hx, compareHolds_le]
    exact (eval_or_of_bool (eval_compare .lt ha hb hx) (eval_compare .eq ha hb hx)).symm
  · rw [eval_compare .ne ha hb hx, Operator.compareHolds_ne]
    exact (eval_not_of_bool (eval_compare .eq ha hb hx)).symm
  · intro hordered
    obtain ⟨held, hheld, hholds⟩ := exists_compareHolds hordered
    exact ⟨held, hheld, fun op hop => by rw [eval_compare op ha hb hx, hholds op hop]⟩
  · intro hincomparable op
    rw [eval_compare op ha hb hx, compareHolds_of_incomparable hincomparable]

/-- A quantity against a number of the same size, and against NaN. -/
theorem comparison_laws_of_quantity :
    let env : Environment := fun _ => .ok (some (.text "1Ki"))
    let size : Expr := .literal (.int 1024)
    let nan : Expr := .literal (.float (.nan false))
    (Expr.compare .ge (.ident "memory") size).eval env = (Expr.compare .le size (.ident "memory")).eval env ∧
      (∃ held ∈ [CompareOp.lt, .eq, .gt], ∀ op ∈ [CompareOp.lt, .eq, .gt],
        (Expr.compare op (.ident "memory") size).eval env = .ok (some (.bool (op == held)))) ∧
      ∀ op, (Expr.compare op (.ident "memory") nan).eval env = .ok (some (.bool (op == .ne))) := by
  intro env size nan
  obtain ⟨-, -, hlaws⟩ := comparison_laws env
  obtain ⟨hconverse, -, -, hordered, -⟩ := hlaws (.ident "memory") size (some (.text "1Ki")) (some (.int 1024)) rfl rfl
    (fun _ h => nomatch h) (fun _ h => nomatch h)
  obtain ⟨-, -, -, -, hincomparable⟩ := hlaws (.ident "memory") nan (some (.text "1Ki")) (some (.float (.nan false))) rfl rfl
    (fun _ h => nomatch h) (fun _ h => nomatch h)
  refine ⟨hconverse .ge, hordered ?_, hincomparable ?_⟩
  · rintro (h | h | ⟨v, w, hv, hw, (⟨⟨x, hx, -⟩, -⟩ | ⟨⟨x, hx, -⟩, -⟩)⟩)
    · cases h
    · cases h
    · cases hv
      cases hx
    · cases hw
      cases hx
  · exact .inr (.inr ⟨_, _, rfl, rfl, .inr ⟨⟨_, rfl, by decide⟩, by decide +kernel⟩⟩)

end Expr

end Predicate

end ClusterQuery
