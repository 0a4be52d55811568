import ClusterQuery.Proofs.Number.Digits
import ClusterQuery.Reducer
import Mathlib.Algebra.Order.BigOperators.Group.List
import Mathlib.Algebra.Order.Ring.Int
import Mathlib.Data.List.Infix
import Mathlib.Data.List.Perm.Basic

/-! Sums of whole numbers. The running total is exact until it leaves the range of whole numbers or meets a floating-point
    number, and from then on the sum is the rounded one, even if the total would come back. So a sum is whole exactly if
    every partial sum is in range, which the order of the elements decides. -/

namespace ClusterQuery

namespace Reducer

variable {items xs ys : List Value} {t : Total} {a c : Int64} {n : Int} {v : Value}

/-! ### What is summed -/

/-- What a value adds to an exact sum. -/
def addend : Value → Int
  | .int i => i.toInt
  | _ => 0

/-- The mathematical sum of the whole numbers among values. -/
def exactSum (items : List Value) : Int := (items.map addend).sum

/-- The numbers among values, added one after the other and rounded each time. -/
def roundedSum (items : List Value) : Binary64 := (items.filterMap (·.number?)).foldl .add .zero

/-- No value is a floating-point number: the numbers among them are whole. -/
def NoFloat (items : List Value) : Prop := ∀ x, .float x ∉ items

/-- The exact sum stays in range all the way through a list, from what it starts with. -/
def PartialSumsFit (start : Int) (items : List Value) : Prop := ∀ part, part <+: items → Fits (start + exactSum part)

instance (start : Int) (items : List Value) : Decidable (PartialSumsFit start items) :=
  decidable_of_iff (∀ part ∈ items.inits, Fits (start + exactSum part)) (by simp only [List.mem_inits, PartialSumsFit])

theorem exactSum_cons (v : Value) (items : List Value) : exactSum (v :: items) = addend v + exactSum items :=
  List.sum_cons

theorem exactSum_append (xs ys : List Value) : exactSum (xs ++ ys) = exactSum xs + exactSum ys := by
  rw [exactSum, List.map_append, List.sum_append, exactSum, exactSum]

theorem PartialSumsFit.start (h : PartialSumsFit n items) : Fits n := by
  have hnil := h [] List.nil_prefix
  rwa [show n + exactSum [] = n from Int.add_zero n] at hnil

theorem partialSumsFit_nil_iff : PartialSumsFit n [] ↔ Fits n := by
  refine ⟨PartialSumsFit.start, fun h part hpart => ?_⟩
  rw [List.prefix_nil.mp hpart]
  rwa [show n + exactSum [] = n from Int.add_zero n]

theorem partialSumsFit_cons_iff :
    PartialSumsFit n (v :: items) ↔ Fits n ∧ PartialSumsFit (n + addend v) items := by
  constructor
  · intro h
    refine ⟨h.start, fun part hpart => ?_⟩
    rw [Int.add_assoc, ← exactSum_cons]
    exact h (v :: part) ((List.prefix_cons_inj v).mpr hpart)
  · rintro ⟨hstart, h⟩ part hpart
    rcases List.prefix_cons_iff.mp hpart with rfl | ⟨rest, rfl, hrest⟩
    · exact partialSumsFit_nil_iff.mpr hstart [] List.nil_prefix
    · rw [exactSum_cons, ← Int.add_assoc]
      exact h rest hrest

/-- A list is summed up from where the one before it ends. -/
theorem partialSumsFit_append_iff :
    PartialSumsFit n (xs ++ ys) ↔ PartialSumsFit n xs ∧ PartialSumsFit (n + exactSum xs) ys := by
  induction xs generalizing n with
  | nil =>
    rw [List.nil_append, partialSumsFit_nil_iff, show n + exactSum [] = n from Int.add_zero n]
    exact (and_iff_right_of_imp PartialSumsFit.start).symm
  | cons v xs ih =>
    rw [List.cons_append, partialSumsFit_cons_iff, ih, partialSumsFit_cons_iff, exactSum_cons, Int.add_assoc, and_assoc]

theorem noFloat_cons_iff : NoFloat (v :: items) ↔ (∀ x, v ≠ .float x) ∧ NoFloat items := by
  simp only [NoFloat, List.mem_cons, not_or, forall_and, ne_eq, eq_comm]

theorem noFloat_of_perm (h : ys.Perm items) (hfloat : NoFloat items) : NoFloat ys := fun x hx => hfloat x (h.mem_iff.mp hx)

theorem exactSum_of_perm (h : ys.Perm items) : exactSum ys = exactSum items := (h.map addend).sum_eq

/-! ### The total -/

theorem add_whole_of_none (h : t.whole = none) (v : Value) : (t.add v).whole = none := by
  cases v <;> simp [Total.add, h]

theorem foldl_add_whole_of_none (h : t.whole = none) : (items.foldl Total.add t).whole = none := by
  induction items generalizing t with
  | nil => exact h
  | cons v items ih => exact ih (add_whole_of_none h v)

/-- What one element does to an exact total. -/
theorem add_whole_eq_some_iff (h : t.whole = some a) :
    (t.add v).whole = some c ↔ (∀ x, v ≠ .float x) ∧ c.toInt = a.toInt + addend v := by
  cases v with
  | int i =>
    have hwhole : (t.add (.int i)).whole = checkedAdd a i := by simp [Total.add, h]
    rw [hwhole, checkedAdd, toInt64?_eq_some_iff]
    simp [addend]
  | float x => simp [Total.add]
  | _ => simp [Total.add, addend, h, eq_comm, ← Int64.toInt_inj]

/-- The total is exact to the end if no element is floating and the sum never leaves the range. -/
theorem foldl_add_whole_eq_some_iff (h : t.whole = some a) : (items.foldl Total.add t).whole = some c ↔
    NoFloat items ∧ c.toInt = a.toInt + exactSum items ∧ PartialSumsFit a.toInt items := by
  induction items generalizing t a with
  | nil =>
    rw [List.foldl_nil, h, partialSumsFit_nil_iff, exactSum, List.map_nil, List.sum_nil, Int.add_zero, Int64.toInt_inj,
      Option.some.injEq]
    exact ⟨fun hac => ⟨(fun _ hx => nomatch hx), hac.symm, fits_toInt a⟩, fun hac => hac.2.1.symm⟩
  | cons v items ih =>
    rw [List.foldl_cons, noFloat_cons_iff, exactSum_cons, partialSumsFit_cons_iff, ← Int.add_assoc]
    cases hv : (t.add v).whole with
    | none =>
      rw [foldl_add_whole_of_none hv]
      refine iff_of_false (Option.some_ne_none _).symm ?_
      rintro ⟨⟨hfloat, -⟩, -, -, hfits⟩
      obtain ⟨b, hb⟩ := exists_toInt_eq hfits.start
      rw [(add_whole_eq_some_iff h).mpr ⟨hfloat, hb⟩] at hv
      cases hv
    | some b =>
      obtain ⟨hfloat, hb⟩ := (add_whole_eq_some_iff h).mp hv
      rw [ih hv, hb, and_iff_right hfloat, and_iff_right (fits_toInt a)]

theorem foldl_add_rounded :
    (items.foldl Total.add t).rounded = (items.filterMap (·.number?)).foldl .add t.rounded := by
  induction items generalizing t with
  | nil => rfl
  | cons v items ih => cases v <;> exact ih

theorem sum_eq_int_iff : Reducer.sum.reduce items = .int c ↔
    NoFloat items ∧ c.toInt = exactSum items ∧ PartialSumsFit 0 items := by
  have hrun : (items.foldl Total.add ⟨some 0, .zero⟩).whole = some c ↔ _ := foldl_add_whole_eq_some_iff rfl
  rw [Int64.toInt_zero, Int.zero_add] at hrun
  rw [← hrun, reduce, sumOf]
  split
  · next i h => rw [h, Value.int.injEq, Option.some.injEq]
  · next h =>
    rw [h]
    exact iff_of_false Value.noConfusion (Option.some_ne_none _).symm

/-- A sum that is not exact is the rounded one. -/
theorem sum_eq_float (h : ∀ i, Reducer.sum.reduce items ≠ .int i) :
    Reducer.sum.reduce items = .float (roundedSum items) := by
  rw [reduce, sumOf] at h ⊢
  split
  · next i hi =>
    rw [hi] at h
    exact absurd rfl (h i)
  · rw [foldl_add_rounded]
    rfl

/-! ### The order of the elements -/

/-- The sum of the positive elements. -/
def gains (items : List Value) : Int := exactSum (items.filter (0 < addend ·))

/-- The sum of the elements that are not positive. -/
def losses (items : List Value) : Int := exactSum (items.filter (addend · ≤ 0))

theorem gains_append (xs ys : List Value) : gains (xs ++ ys) = gains xs + gains ys := by
  rw [gains, List.filter_append, exactSum_append, gains, gains]

theorem losses_append (xs ys : List Value) : losses (xs ++ ys) = losses xs + losses ys := by
  rw [losses, List.filter_append, exactSum_append, losses, losses]

theorem gains_nonneg (items : List Value) : 0 ≤ gains items := by
  refine List.sum_nonneg fun n hn => ?_
  obtain ⟨v, hv, rfl⟩ := List.mem_map.mp hn
  exact (of_decide_eq_true (List.mem_filter.mp hv).2).le

theorem losses_nonpos (items : List Value) : losses items ≤ 0 := by
  refine (List.sum_le_card_nsmul _ 0 fun n hn => ?_).trans_eq (nsmul_zero _)
  obtain ⟨v, hv, rfl⟩ := List.mem_map.mp hn
  exact of_decide_eq_true (List.mem_filter.mp hv).2

theorem filter_append_filter_perm (items : List Value) :
    (items.filter (0 < addend ·) ++ items.filter (addend · ≤ 0)).Perm items := by
  have hperm := List.filter_append_perm (fun v => decide (0 < addend v)) items
  simpa only [← decide_not, Int.not_lt] using hperm

theorem gains_add_losses (items : List Value) : gains items + losses items = exactSum items := by
  rw [gains, losses, ← exactSum_append]
  exact exactSum_of_perm (filter_append_filter_perm items)

/-- In any order the partial sums lie between the negative elements and the positive ones. -/
theorem partialSumsFit_of_perm (hgains : Fits (gains items)) (hlosses : Fits (losses items)) (h : ys.Perm items) :
    PartialSumsFit 0 ys := by
  rintro part ⟨rest, rfl⟩
  have hgain : gains (part ++ rest) = gains items := exactSum_of_perm (h.filter _)
  have hloss : losses (part ++ rest) = losses items := exactSum_of_perm (h.filter _)
  rw [gains_append] at hgain
  rw [losses_append] at hloss
  have hsum := gains_add_losses part
  have hnonneg := gains_nonneg rest
  have hnonneg' := gains_nonneg part
  have hnonpos := losses_nonpos rest
  have hnonpos' := losses_nonpos part
  unfold Fits at *
  omega

/-- The sum is exact in every order of the elements if the positive ones alone and the others alone have an exact sum. -/
theorem forall_perm_iff (hfloat : NoFloat items) :
    (∀ ys : List Value, ys.Perm items → ∃ i : Int64, Reducer.sum.reduce ys = .int i ∧ i.toInt = exactSum items) ↔
      Fits (gains items) ∧ Fits (losses items) := by
  constructor
  · intro h
    have hfits : ∀ part rest : List Value, (part ++ rest).Perm items → Fits (exactSum part) := by
      intro part rest hperm
      obtain ⟨i, hi, -⟩ := h _ hperm
      have hpart := (sum_eq_int_iff.mp hi).2.2 part (List.prefix_append _ _)
      rwa [Int.zero_add] at hpart
    have hperm := filter_append_filter_perm items
    exact ⟨hfits _ _ hperm, hfits _ _ (List.perm_append_comm.trans hperm)⟩
  · rintro ⟨hgains, hlosses⟩ ys hperm
    have hparts := partialSumsFit_of_perm hgains hlosses hperm
    obtain ⟨i, hi⟩ := exists_toInt_eq (hparts ys (List.prefix_refl ys))
    rw [Int.zero_add] at hi
    exact ⟨i, sum_eq_int_iff.mpr ⟨noFloat_of_perm hperm hfloat, hi, hparts⟩, hi.trans (exactSum_of_perm hperm)⟩

/-- The sum of two lists that have exact sums is the exact sum of these, if it is reached without leaving the range. -/
theorem sum_append_eq_int_iff {b : Int64} (hxs : Reducer.sum.reduce xs = .int a) (hys : Reducer.sum.reduce ys = .int b) :
    Reducer.sum.reduce (xs ++ ys) = .int c ↔ c.toInt = a.toInt + b.toInt ∧ PartialSumsFit a.toInt ys := by
  obtain ⟨hxfloat, ha, hxfits⟩ := sum_eq_int_iff.mp hxs
  obtain ⟨hyfloat, hb, -⟩ := sum_eq_int_iff.mp hys
  have hfloat : NoFloat (xs ++ ys) := fun x hx => (List.mem_append.mp hx).elim (hxfloat x) (hyfloat x)
  rw [sum_eq_int_iff, partialSumsFit_append_iff, exactSum_append, Int.zero_add, ← ha, ← hb, and_iff_right hfloat,
    and_iff_right hxfits]

/-- Two lists one after the other have the exact sum that they have the other way round, if that way the range is not
    left. -/
theorem sum_append_comm_iff (h : Reducer.sum.reduce (xs ++ ys) = .int c) :
    Reducer.sum.reduce (ys ++ xs) = .int c ↔ PartialSumsFit 0 (ys ++ xs) := by
  obtain ⟨hfloat, hc, -⟩ := sum_eq_int_iff.mp h
  rw [sum_eq_int_iff, and_iff_right (noFloat_of_perm List.perm_append_comm hfloat),
    and_iff_right (hc.trans (exactSum_of_perm List.perm_append_comm))]

/-- Sums of whole numbers, among which any other values but floating-point numbers may stand. A sum is the exact one if
    every partial sum is in range, else the rounded one; every order of the elements gives the exact sum only if the
    positive ones alone and the others alone have one. Exact sums of lists add up, and do not depend on the order of the
    lists, as long as the range is not left on the way. -/
theorem sum_laws (xs : List Value) (hfloat : NoFloat xs) :
    (∀ i : Int64, Reducer.sum.reduce xs = .int i ↔ i.toInt = exactSum xs ∧ PartialSumsFit 0 xs) ∧
    (¬PartialSumsFit 0 xs → Reducer.sum.reduce xs = .float (roundedSum xs)) ∧
    ((∀ ys : List Value, ys.Perm xs → ∃ i : Int64, Reducer.sum.reduce ys = .int i ∧ i.toInt = exactSum xs) ↔
      Fits (gains xs) ∧ Fits (losses xs)) ∧
    (∀ (ys : List Value) (a b c : Int64), Reducer.sum.reduce xs = .int a → Reducer.sum.reduce ys = .int b →
      (Reducer.sum.reduce (xs ++ ys) = .int c ↔ c.toInt = a.toInt + b.toInt ∧ PartialSumsFit a.toInt ys)) ∧
    ∀ (ys : List Value) (c : Int64), Reducer.sum.reduce (xs ++ ys) = .int c →
      (Reducer.sum.reduce (ys ++ xs) = .int c ↔ PartialSumsFit 0 (ys ++ xs)) := by
  refine ⟨fun i => ?_, fun hfits => ?_, forall_perm_iff hfloat, fun ys a b c hxs hys => sum_append_eq_int_iff hxs hys,
    fun ys c h => sum_append_comm_iff h⟩
  · rw [sum_eq_int_iff, and_iff_right hfloat]
  · exact sum_eq_float fun i hi => hfits (sum_eq_int_iff.mp hi).2.2

/-- The largest number, a text and two numbers that cancel out: their sum is exact, but not in every order. -/
theorem sum_laws_of_largest :
    let items : List Value := [.int (-1), .text "x", .int 9223372036854775807, .int 1]
    NoFloat items ∧ Reducer.sum.reduce items = .int 9223372036854775807 ∧
      Reducer.sum.reduce ([.int 9223372036854775807, .int 1] ++ [.int (-1), .text "x"]) ≠ .int 9223372036854775807 ∧
      ¬∀ ys : List Value, ys.Perm items → ∃ i : Int64, Reducer.sum.reduce ys = .int i ∧ i.toInt = exactSum items := by
  intro items
  have hfloat : NoFloat items := by simp [NoFloat, items]
  have hstart : NoFloat [.int (-1), .text "x"] := by simp [NoFloat]
  obtain ⟨hsum, -, horder, -⟩ := sum_laws items hfloat
  have hexact : Reducer.sum.reduce items = .int 9223372036854775807 := (hsum _).mpr (by decide +kernel)
  obtain ⟨-, -, -, -, hcomm⟩ := sum_laws [.int (-1), .text "x"] hstart
  refine ⟨hfloat, hexact, ?_, ?_⟩
  · rw [Ne, hcomm [.int 9223372036854775807, .int 1] _ hexact]
    decide +kernel
  · rw [horder]
    decide +kernel

/-- The sum of the largest number and two numbers whose sum is zero is rounded, though the exact one is in range and the
    two lists have exact sums; the other way round it is exact. -/
theorem sum_of_largest_and_zero :
    let largest : List Value := [.int 9223372036854775807]
    let cancelled : List Value := [.int 1, .int (-1)]
    NoFloat (largest ++ cancelled) ∧ Fits (exactSum (largest ++ cancelled)) ∧
      Reducer.sum.reduce largest = .int 9223372036854775807 ∧ Reducer.sum.reduce cancelled = .int 0 ∧
      Reducer.sum.reduce (largest ++ cancelled) = .float (.ofInt 9223372036854775808) ∧
      Reducer.sum.reduce (cancelled ++ largest) = .int 9223372036854775807 := by
  have hrounded : roundedSum [.int 9223372036854775807, .int 1, .int (-1)] = .ofInt 9223372036854775808 := by
    decide +kernel
  refine ⟨by simp [NoFloat], by decide +kernel, rfl, rfl, ?_, rfl⟩
  rw [← hrounded]
  exact sum_eq_float fun i hi => absurd (sum_eq_int_iff.mp hi).2.2 (by decide +kernel)

end Reducer

end ClusterQuery
