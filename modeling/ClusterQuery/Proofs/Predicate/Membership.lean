import ClusterQuery.Predicate.Basic
import ClusterQuery.Proofs.Value.Equality
import Mathlib.Data.List.Forall2

/-! Membership against the disjunction of equalities. A set lists an absent member as a null, and null equals the empty
    text: there, and only there, membership holds of a value that equals no member. -/

namespace ClusterQuery

namespace Predicate

variable {env : Environment} {e l : Expr} {es : List Expr} {x m : Option Value} {ms : List (Option Value)} {v : Value}

/-! ### Equality with one member -/

theorem isAbsent_iff : isAbsent m = true ↔ m = none ∨ m = some .null := by
  rcases m with - | v
  · exact iff_of_true rfl (.inl rfl)
  · cases v <;> simp [isAbsent]

theorem compareHolds_eq_of_absent (h : isAbsent m = true) (x : Option Value) : compareHolds .eq x m = false := by
  rcases isAbsent_iff.mp h with rfl | rfl <;> cases x.bind (·.present?) <;> simp [compareHolds, Value.present?]

theorem present?_of_ne_null (h : v ≠ .null) : v.present? = some v := by
  cases v <;> first | exact absurd rfl h | rfl

/-- Values that are not null are equal in both senses at once. -/
theorem compareHolds_eq_of_present {w : Value} (hv : v ≠ .null) (hw : w ≠ .null) :
    compareHolds .eq (some v) (some w) = w.same v := by
  unfold compareHolds
  rw [Option.bind_some, Option.bind_some, present?_of_ne_null hv, present?_of_ne_null hw, Value.same_comm]
  unfold Value.same
  dsimp only
  cases v.compare? w <;> rfl

theorem same_null_iff : Value.null.same v = true ↔ v = .null ∨ v = .text "" := by
  rw [Value.same_of_untyped (.inl rfl), eq_comm, ← Value.display_eq_nil_iff]
  rfl

/-- A value equals a member of a set if it equals the operand that the member comes from, or if it is the empty text and
    that operand is absent. -/
theorem same_member_iff (hv : v ≠ .null) (m : Option Value) :
    (m.getD .null).same v = true ↔ compareHolds .eq (some v) m = true ∨ v = .text "" ∧ isAbsent m = true := by
  by_cases habsent : isAbsent m = true
  · have hnull : m.getD .null = .null := by rcases isAbsent_iff.mp habsent with rfl | rfl <;> rfl
    rw [hnull, same_null_iff, compareHolds_eq_of_absent habsent, or_iff_right hv, and_iff_left habsent,
      or_iff_right Bool.false_ne_true]
  · obtain ⟨w, rfl⟩ : ∃ w, m = some w := Option.ne_none_iff_exists'.mp fun h => habsent (isAbsent_iff.mpr (.inl h))
    have hw : w ≠ .null := fun h => habsent (isAbsent_iff.mpr (.inr (congrArg some h)))
    rw [Option.getD_some, compareHolds_eq_of_present hv hw, or_iff_left fun h => habsent h.2]

theorem compareHolds_emptyText_iff : compareHolds .eq (some (.text "")) m = true ↔ m = some (.text "") := by
  by_cases habsent : isAbsent m = true
  · rw [compareHolds_eq_of_absent habsent]
    refine iff_of_false Bool.false_ne_true ?_
    rintro rfl
    cases habsent
  · obtain ⟨w, rfl⟩ : ∃ w, m = some w := Option.ne_none_iff_exists'.mp fun h => habsent (isAbsent_iff.mpr (.inl h))
    have hw : w ≠ .null := fun h => habsent (isAbsent_iff.mpr (.inr (congrArg some h)))
    have htyped : (Value.text "").typed = .text "" := rfl
    rw [compareHolds_eq_of_present Value.noConfusion hw, Value.same_comm, Value.same_of_untyped (.inr (by rw [htyped]; rfl)),
      eq_comm, show (Value.text "").display = [] from rfl, Value.display_eq_nil_iff, or_iff_right hw, Option.some.injEq]

/-! ### Sets and disjunctions -/

/-- The left operand equals one of the members. -/
def equalsAny (x : Option Value) (ms : List (Option Value)) : Bool := ms.any fun m => compareHolds .eq x m

/-- Membership holds though the left operand equals no member: it is the empty text and a member is absent, or it is a
    null and a member is shown as nothing. -/
def TakesAbsent (x : Option Value) (ms : List (Option Value)) : Prop :=
  x = some (.text "") ∧ some (.text "") ∉ ms ∧ (∃ m ∈ ms, isAbsent m = true) ∨
    x = some .null ∧ ∃ m ∈ ms, isAbsent m = true ∨ m = some (.text "")

theorem compareHolds_eq_of_absent_left (h : isAbsent x = true) (m : Option Value) : compareHolds .eq x m = false := by
  rcases isAbsent_iff.mp h with rfl | rfl <;> rfl

theorem memberHolds_iff : memberHolds (ms.map (·.getD .null)) x = true ↔ equalsAny x ms = true ∨ TakesAbsent x ms := by
  rcases x with - | v
  · refine iff_of_false Bool.false_ne_true ?_
    simp [equalsAny, TakesAbsent, compareHolds_eq_of_absent_left (x := none) rfl]
  have hany : memberHolds (ms.map (·.getD .null)) (some v) = true ↔ ∃ m ∈ ms, (m.getD .null).same v = true := by
    simp [memberHolds]
  rw [hany]
  -- A null and the empty text are what equals a member as a value without equalling the operand.
  by_cases hv : v = .null
  · subst hv
    have hnone : equalsAny (some .null) ms = false := by
      simp [equalsAny, compareHolds_eq_of_absent_left (x := some .null) rfl]
    have hmember : ∀ m : Option Value, (m.getD .null).same .null = true ↔ isAbsent m = true ∨ m = some (.text "") := by
      intro m
      rw [Value.same_comm, same_null_iff, isAbsent_iff]
      rcases m with - | w <;> simp
    rw [hnone, or_iff_right Bool.false_ne_true]
    simp [TakesAbsent, hmember]
  · simp only [same_member_iff hv, and_or_left, exists_or]
    have hequal : equalsAny (some v) ms = true ↔ ∃ m ∈ ms, compareHolds .eq (some v) m = true := by simp [equalsAny]
    rw [← hequal]
    by_cases htext : v = .text ""
    · subst htext
      have hempty : equalsAny (some (.text "")) ms = true ↔ some (.text "") ∈ ms := by
        rw [hequal]
        simp [compareHolds_emptyText_iff]
      simp only [TakesAbsent, true_and, hempty]
      simp
      tauto
    · simp [TakesAbsent, hv, htext]

/-- The operand that membership holds of in this way equals no member. -/
theorem equalsAny_of_takesAbsent (h : TakesAbsent x ms) : equalsAny x ms ≠ true := by
  intro hequal
  obtain ⟨m, hm, hholds⟩ := List.any_eq_true.mp hequal
  rcases h with ⟨rfl, hnot, -⟩ | ⟨rfl, -⟩
  · rw [compareHolds_emptyText_iff.mp hholds] at hm
    exact hnot hm
  · rw [compareHolds_eq_of_absent_left rfl] at hholds
    cases hholds

namespace Expr

/-- The disjunction of expressions from left to right; of none it is false. -/
def anyOf : List Expr → Expr
  | [] => .literal (.bool false)
  | e :: es => es.foldl .or e

/-- The disjunction of the equalities of an expression with others. -/
def anyEqual (l : Expr) (es : List Expr) : Expr := anyOf (es.map (Expr.compare .eq l))

theorem eval_or_of_bool {l r : Expr} {b c : Bool} (hl : l.eval env = .ok (some (.bool b)))
    (hr : r.eval env = .ok (some (.bool c))) : (Expr.or l r).eval env = .ok (some (.bool (b || c))) := by
  rw [eval, hl, hr]
  cases b <;> rfl

theorem eval_foldl_or {b : Bool} {bs : List Bool} (he : e.eval env = .ok (some (.bool b)))
    (hes : List.Forall₂ (fun e b => e.eval env = .ok (some (.bool b))) es bs) :
    (es.foldl .or e).eval env = .ok (some (.bool (b || bs.any id))) := by
  induction hes generalizing e b with
  | nil => simpa using he
  | cons hc hes ih =>
    rw [List.foldl_cons, List.any_cons, ← Bool.or_assoc]
    exact ih (eval_or_of_bool he hc)

theorem eval_anyOf {bs : List Bool} (h : List.Forall₂ (fun e b => e.eval env = .ok (some (.bool b))) es bs) :
    (anyOf es).eval env = .ok (some (.bool (bs.any id))) := by
  cases h with
  | nil => rfl
  | cons he hes => exact eval_foldl_or he hes

theorem evalAll_of_forall₂ (h : List.Forall₂ (fun e m => e.eval env = .ok m) es ms) :
    evalAll env es = .ok (ms.map (·.getD .null)) := by
  induction h with
  | nil => rfl
  | cons he _ ih =>
    rw [evalAll, he, ih]
    rfl

theorem broadcast_of_single (hx : ∀ items, x ≠ some (.list items)) (holds : Option Value → Bool) :
    broadcast holds x = .bool (holds x) := by
  unfold broadcast
  split
  · next items => exact absurd rfl (hx items)
  · rfl

theorem eval_anyEqual (hl : l.eval env = .ok x) (hx : ∀ items, x ≠ some (.list items))
    (hes : List.Forall₂ (fun e m => e.eval env = .ok m) es ms) :
    (anyEqual l es).eval env = .ok (some (.bool (equalsAny x ms))) := by
  have hequal : List.Forall₂ (fun e b => eval env e = .ok (some (.bool b))) (es.map (Expr.compare .eq l))
      (ms.map fun m => compareHolds .eq x m) := by
    rw [List.forall₂_map_left_iff, List.forall₂_map_right_iff]
    refine hes.imp fun e m he => ?_
    rw [eval, hl, he, ← broadcast_of_single hx fun v => compareHolds .eq v m]
    rfl
  rw [anyEqual, eval_anyOf hequal, List.any_map]
  rfl

theorem eval_isIn (hl : l.eval env = .ok x) (hx : ∀ items, x ≠ some (.list items))
    (hes : List.Forall₂ (fun e m => e.eval env = .ok m) es ms) (negated : Bool) :
    (Expr.isIn l (.list es) negated).eval env =
      .ok (some (.bool (memberHolds (ms.map (·.getD .null)) x != negated))) := by
  rw [eval, hl, eval, evalAll_of_forall₂ hes,
    ← broadcast_of_single hx fun v => memberHolds (ms.map (·.getD .null)) v != negated]
  rfl

/-- Membership of what is not a list, and its negation, are decided whenever the operands have values. Membership holds
    wherever the operand equals a member; it holds nowhere else, and so is the disjunction of the equalities, unless a
    member that is absent or null passes for the empty text. -/
theorem isIn_eq_anyEqual_iff (hl : l.eval env = .ok x) (hx : ∀ items, x ≠ some (.list items))
    (hes : List.Forall₂ (fun e m => e.eval env = .ok m) es ms) :
    ∃ member equal, (isIn l (.list es) false).eval env = .ok (some (.bool member)) ∧
      (isIn l (.list es) true).eval env = .ok (some (.bool !member)) ∧
      (anyEqual l es).eval env = .ok (some (.bool equal)) ∧ (equal = true → member = true) ∧
      (member = equal ↔ ¬TakesAbsent x ms) := by
  refine ⟨_, _, ?_, ?_, eval_anyEqual hl hx hes, fun h => memberHolds_iff.mpr (.inl h), ?_⟩
  · rw [eval_isIn hl hx hes, Bool.bne_false]
  · rw [eval_isIn hl hx hes, Bool.bne_true]
  · rw [Bool.eq_iff_iff, memberHolds_iff, or_iff_left_iff_imp]
    exact ⟨fun h htakes => equalsAny_of_takesAbsent htakes (h htakes), fun h htakes => absurd htakes h⟩

/-- A quantity is one of a text and two absent members, of which one names nothing and one is a null. -/
theorem isIn_eq_anyEqual_of_quantity :
    let env : Environment := fun name => .ok (if name = "memory" then some (.text "1Ki") else none)
    let es := [.ident "missing", .null, .literal (.int 1024)]
    let ms := [none, none, some (.int 1024)]
    (∀ items, (some (.text "1Ki") : Option Value) ≠ some (.list items)) ∧
      List.Forall₂ (fun e m => e.eval env = .ok m) es ms ∧ ¬TakesAbsent (some (.text "1Ki")) ms ∧
      (isIn (.ident "memory") (.list es) false).eval env = (anyEqual (.ident "memory") es).eval env := by
  intro env es ms
  have hx : ∀ items, (some (.text "1Ki") : Option Value) ≠ some (.list items) := fun _ h => nomatch h
  have hes : List.Forall₂ (fun e m => e.eval env = .ok m) es ms := .cons rfl (.cons rfl (.cons rfl .nil))
  have hnot : ¬TakesAbsent (some (.text "1Ki")) ms := by simp [TakesAbsent]
  obtain ⟨member, equal, hmember, -, hequal, -, hiff⟩ := isIn_eq_anyEqual_iff (l := .ident "memory") rfl hx hes
  exact ⟨hx, hes, hnot, by rw [hmember, hequal, hiff.mpr hnot]⟩

/-- The empty text is a member of a set whose only member is absent, though it does not equal that member. -/
theorem isIn_emptyText_of_missing :
    let env : Environment := fun _ => .ok none
    (parse "'' in (missing)").toOption.map (·.holds env) = some (.ok true) ∧
      (parse "'' = missing").toOption.map (·.holds env) = some (.ok false) := by
  decide +kernel

end Expr

end Predicate

end ClusterQuery
