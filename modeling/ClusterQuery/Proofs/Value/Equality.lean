import ClusterQuery.Proofs.Number.Decimal
import ClusterQuery.Proofs.Value.Agreement
import ClusterQuery.Proofs.Value.SortKey

/-! Equality in predicates. The order of predicates is reversed with its operands, so that equality is symmetric. What has
    no type is compared by its text: null and the empty text, which are shown as nothing, equal each other and no other
    value. -/

namespace ClusterQuery

theorem Binary64.compare?_swap (x y : Binary64) : y.compare? x = (x.compare? y).map Ordering.swap := by
  unfold compare?
  rw [Bool.or_comm]
  split
  · rfl
  · exact congrArg some Std.OrientedCmp.eq_swap

namespace Value

variable {a b v : Value}

/-! ### The operands the other way round -/

theorem compareNumbers?_swap (a b : Value) :
    compareNumbers? b a = (compareNumbers? a b).map (Option.map Ordering.swap) := by
  by_cases hwhole : ∃ i j, a = .int i ∧ b = .int j
  · obtain ⟨i, j, rfl, rfl⟩ := hwhole
    exact congrArg (fun o => some (some o)) Std.OrientedCmp.eq_swap
  · have hnumbers : ∀ {a b : Value}, (¬∃ i j, a = .int i ∧ b = .int j) → compareNumbers? a b =
        a.number?.bind fun p => b.number?.map fun q => p.compare? q := fun {a b} h => by
      unfold compareNumbers?
      split
      · next i j => exact (h ⟨i, j, rfl, rfl⟩).elim
      · cases a.number? <;> cases b.number? <;> rfl
    have hswapped : ¬∃ i j, b = .int i ∧ a = .int j := by
      rintro ⟨i, j, hi, hj⟩
      exact hwhole ⟨j, i, hj, hi⟩
    rw [hnumbers hwhole, hnumbers hswapped]
    cases a.number? <;> cases b.number? <;> first | rfl | exact congrArg some (Binary64.compare?_swap _ _)

theorem compare?_swap (a b : Value) : b.compare? a = (a.compare? b).map Ordering.swap := by
  have htexts : ∀ v w : Value, (compareNumbers? w v).getD (some (compare b.display a.display)) =
      ((compareNumbers? v w).getD (some (compare a.display b.display))).map Ordering.swap := fun v w => by
    rw [compareNumbers?_swap v w]
    cases compareNumbers? v w with
    | none => exact congrArg some Std.OrientedCmp.eq_swap
    | some o => rfl
  unfold compare?
  cases hv : a.typed <;> cases hw : b.typed <;>
    first | exact congrArg some Std.OrientedCmp.eq_swap | exact htexts _ _

theorem same_comm (a b : Value) : a.same b = b.same a := by
  unfold same
  rw [compare?_swap a b]
  cases a.compare? b with
  | none => rfl
  | some o => cases o <;> rfl

/-! ### Comparing by texts -/

/-- A value that is neither a boolean, a number nor a date is compared by its text with every other. -/
theorem compare?_of_untyped (h : a.typed = .null ∨ a.typed.isOther = true) (b : Value) :
    a.compare? b = some (compare a.display b.display) := by
  unfold compare?
  cases hv : a.typed <;> rw [hv] at h <;> rcases h with h | h <;> cases h <;> cases b.typed <;> rfl

theorem same_of_untyped (h : a.typed = .null ∨ a.typed.isOther = true) (b : Value) :
    a.same b = true ↔ a.display = b.display := by
  unfold same
  rw [compare?_of_untyped h, beq_iff_eq, Option.some.injEq]
  exact Std.LawfulEqCmp.compare_eq_iff_eq

/-! ### What is shown as nothing -/

theorem layoutFixed_ne_nil (keepsPoint : Bool) (digits : List Char) (point : Int) :
    Binary64.layoutFixed keepsPoint digits point ≠ [] := by
  unfold Binary64.layoutFixed
  split
  · exact List.cons_ne_nil _ _
  · next hpoint =>
    have hwhole : digits.take point.toNat ++ List.replicate (point.toNat - digits.length) '0' ≠ [] := by
      refine List.ne_nil_of_length_pos ?_
      rw [List.length_append, List.length_take, List.length_replicate]
      omega
    dsimp only
    split
    · split
      · exact List.append_ne_nil_of_left_ne_nil hwhole _
      · exact hwhole
    · exact List.append_ne_nil_of_left_ne_nil hwhole _

theorem render_ne_nil (x : Binary64) : x.render floatStyle ≠ [] := by
  unfold Binary64.render
  split
  · exact List.cons_ne_nil _ _
  · dsimp only
    split
    · exact List.append_ne_nil_of_right_ne_nil _ (List.cons_ne_nil _ _)
    · split
      · exact List.append_ne_nil_of_right_ne_nil _ (List.cons_ne_nil _ _)
      · rw [Binary64.layout_eq_layoutFixed rfl rfl]
        exact List.append_ne_nil_of_right_ne_nil _ (layoutFixed_ne_nil _ _ _)

theorem decimalText_ne_nil (i : Int) : decimalText i ≠ [] := by
  cases i with
  | ofNat n => exact Nat.toDigits_ne_nil
  | negSucc n => exact List.cons_ne_nil _ _

/-- Null and the empty text are shown as nothing. -/
theorem display_eq_nil_iff : v.display = [] ↔ v = .null ∨ v = .text "" := by
  cases v with
  | null => simp [display]
  | bool b => cases b <;> simp [display, Json.boolText]
  | int i => simp [display, decimalText_ne_nil]
  | float x => simpa [display] using render_ne_nil x
  | text s => simp [display]
  | date d => simp [display, Instant.render, Instant.renderWith]
  | list items => simp [display, toJson, Json.compact]
  | map fields => simp [display, toJson, Json.compact]

end Value

end ClusterQuery
