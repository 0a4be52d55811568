import ClusterQuery.Predicate.Eval
import ClusterQuery.Proofs.Number.Rounding
import ClusterQuery.Proofs.Value.Scalar

/-! How the order of sorting goes with the order of predicates. Keys of one class are compared by what predicates
    compare, but a key holds a binary number, which may be rounded, and the total order of these tells the two zeros
    apart. Elsewhere the orders are one, and nowhere is one the reverse of the other. -/

namespace ClusterQuery

/-! ### Binary numbers -/

namespace Binary64

variable {x y : Binary64} {o : Ordering}

/-- Zeros of different sign. -/
def OppositeZeros (x y : Binary64) : Prop := x.isZero = true ∧ y.isZero = true ∧ x.negative ≠ y.negative

theorem compare_eq_compare {p q r s : Int} (hlt : p < q ↔ r < s) (heq : p = q ↔ r = s) : compare p q = compare r s := by
  simp only [compare, compareOfLessAndEq, hlt, heq]

theorem rank_lt_iff_and_eq_iff (h : ¬OppositeZeros x y) :
    (x.rank < y.rank ↔ x.place < y.place) ∧ (x.rank = y.rank ↔ x.place = y.place) := by
  obtain ⟨sx, mx, hx⟩ := x
  obtain ⟨sy, my, hy⟩ := y
  have hzero : sx ≠ sy → ¬(mx = 0 ∧ my = 0) := fun hs hm => h ⟨by simpa [isZero] using hm.1, by simpa [isZero] using hm.2, hs⟩
  unfold rank place
  cases sx with
  | false =>
    cases sy with
    | false => exact ⟨Iff.rfl, Iff.rfl⟩
    | true =>
      have := hzero Bool.false_ne_true
      simp only [if_true, if_false, Bool.false_eq_true]
      omega
  | true =>
    cases sy with
    | false =>
      have := hzero (Ne.symm Bool.false_ne_true)
      simp only [if_true, if_false, Bool.false_eq_true]
      omega
    | true =>
      simp only [if_true]
      omega

theorem compare_place (h : x.compare? y = some o) : compare x.place y.place = o := by
  unfold compare? at h
  split at h
  · cases h
  · exact Option.some.inj h

theorem OppositeZeros.place_eq (h : OppositeZeros x y) : x.place = y.place := by
  simp only [place, beq_iff_eq.mp h.1, beq_iff_eq.mp h.2.1]
  split <;> split <;> rfl

/-- The total order is that of predicates, except for zeros of different sign. -/
theorem totalCompare_eq_iff (h : x.compare? y = some o) : x.totalCompare y = o ↔ ¬OppositeZeros x y := by
  have ho := compare_place h
  constructor
  · rintro htotal hzeros
    rw [← ho, Int.compare_eq_eq.mpr hzeros.place_eq] at htotal
    exact hzeros.2.2 (congrArg negative (rank_injective (Int.compare_eq_eq.mp htotal)))
  · intro hzeros
    obtain ⟨hlt, heq⟩ := rank_lt_iff_and_eq_iff hzeros
    exact (compare_eq_compare hlt heq).trans ho

/-- Keys of whole numbers are in their order, if they are not rounded to one number. -/
theorem totalCompare_ofInt_iff {i j : Int} : (ofInt i).totalCompare (ofInt j) = compare i j ↔ ¬(i ≠ j ∧ ofInt i = ofInt j) := by
  unfold totalCompare
  rcases Int.lt_trichotomy i j with hlt | rfl | hgt
  · have hle := rank_ofInt_mono hlt.le
    rw [Int.compare_eq_lt.mpr hlt, Int.compare_eq_lt]
    refine ⟨fun h heq => h.ne (congrArg rank heq.2), fun h => Int.lt_iff_le_and_ne.mpr ⟨hle, fun heq => ?_⟩⟩
    exact h ⟨hlt.ne, rank_injective heq⟩
  · rw [Int.compare_eq_eq.mpr rfl, Int.compare_eq_eq.mpr rfl]
    exact iff_of_true rfl fun h => h.1 rfl
  · have hle := rank_ofInt_mono hgt.le
    rw [Int.compare_eq_gt.mpr hgt, Int.compare_eq_gt]
    refine ⟨fun h heq => h.ne (congrArg rank heq.2).symm, fun h => Int.lt_iff_le_and_ne.mpr ⟨hle, fun heq => ?_⟩⟩
    exact h ⟨hgt.ne', rank_injective heq.symm⟩

end Binary64

/-! ### Values -/

open SortKey (ofValue)

namespace Value

variable {a b : Value} {o : Ordering}

/-- Different whole numbers that are rounded to one binary number. -/
def RoundedTogether (a b : Value) : Prop :=
  ∃ i j, a.typed = .int i ∧ b.typed = .int j ∧ i ≠ j ∧ Binary64.ofInt i.toInt = Binary64.ofInt j.toInt

/-- Zeros of different sign. -/
def ZerosApart (a b : Value) : Prop :=
  ∃ x y, a.typed.number? = some x ∧ b.typed.number? = some y ∧ Binary64.OppositeZeros x y

/-- Whether a value is neither null nor a boolean, a number or a date: its text is what it is compared by. -/
def isOther : Value → Bool
  | .text _ | .list _ | .map _ => true
  | _ => false

/-- The key of a value, by what the value is typed as. -/
inductive KeyedAs (v : Value) : SortKey → Prop
  | null (h : v.typed = .null) : KeyedAs v .null
  | bool {p : Bool} (h : v.typed = .bool p) : KeyedAs v (.bool p)
  | number {x : Binary64} (h : v.typed.number? = some x) : KeyedAs v (.number x)
  | date {d : Instant} (h : v.typed = .date d) : KeyedAs v (.date d)
  | text (h : v.typed.isOther = true) : KeyedAs v (.text v.display)

/-- What is typed as a text, a list or a map is that value. -/
theorem typed_eq_self {v : Value} (h : v.typed.isOther = true) : v.typed = v := by
  cases v with
  | text s =>
    change (Scalar.read s).isOther = true at h
    rcases Scalar.read_cases s with ⟨i, hs⟩ | ⟨x, hs⟩ | ⟨b, hs⟩ | ⟨d, hs⟩ | hs
    · rw [hs] at h
      cases h
    · rw [hs] at h
      cases h
    · rw [hs] at h
      cases h
    · rw [hs] at h
      cases h
    · exact hs
  | _ => rfl

theorem keyedAs_ofValue (v : Value) : KeyedAs v (ofValue (some v)) := by
  unfold ofValue
  dsimp only
  split
  · next h => exact .null h
  · next h => exact .bool h
  · next h => exact .number (by rw [h]; rfl)
  · next h => exact .number (by rw [h]; rfl)
  · next h => exact .date h
  · next hnull hbool hint hfloat hdate =>
    have hother : v.typed.isOther = true := by
      cases htyped : v.typed with
      | null => exact (hnull htyped).elim
      | bool p => exact (hbool p htyped).elim
      | int i => exact (hint i htyped).elim
      | float x => exact (hfloat x htyped).elim
      | date d => exact (hdate d htyped).elim
      | _ => rfl
    rw [typed_eq_self hother]
    exact .text hother

/-! ### What predicates compare -/

theorem compare?_of_null (ha : a.typed = .null) (hb : b.typed = .null) : a.compare? b = some .eq := by
  have hnull : ∀ v : Value, v.typed = .null → v = .null := by
    intro v hv
    cases v with
    | text s =>
      change Scalar.read s = .null at hv
      rcases Scalar.read_cases s with ⟨i, hs⟩ | ⟨x, hs⟩ | ⟨b, hs⟩ | ⟨d, hs⟩ | hs <;> rw [hs] at hv <;> cases hv
    | _ => exact hv
  rw [hnull a ha, hnull b hb]
  rfl

theorem compare?_of_bool {p q : Bool} (ha : a.typed = .bool p) (hb : b.typed = .bool q) :
    a.compare? b = some (compare p q) := by
  unfold compare?
  rw [ha, hb]

theorem compare?_of_date {d e : Instant} (ha : a.typed = .date d) (hb : b.typed = .date e) :
    a.compare? b = some (d.compare e) := by
  unfold compare?
  rw [ha, hb]

theorem compare?_of_whole {i j : Int64} (ha : a.typed = .int i) (hb : b.typed = .int j) :
    a.compare? b = some (compare i.toInt j.toInt) := by
  unfold compare?
  rw [ha, hb]
  dsimp only
  rw [compareNumbers?, Option.getD_some]

theorem compare?_of_number {x y : Binary64} (ha : a.typed.number? = some x) (hb : b.typed.number? = some y)
    (hwhole : ¬∃ i j, a.typed = .int i ∧ b.typed = .int j) : a.compare? b = x.compare? y := by
  have hnumbers : compareNumbers? a.typed b.typed = some (x.compare? y) := by
    unfold compareNumbers?
    split
    · next i j hi hj => exact (hwhole ⟨i, j, hi, hj⟩).elim
    · rw [ha, hb]
  unfold compare?
  split
  · next hdate _ =>
    rw [hdate] at ha
    cases ha
  · next hbool _ =>
    rw [hbool] at ha
    cases ha
  · rw [hnumbers, Option.getD_some]

theorem compare?_of_other (ha : a.typed.isOther = true) (hb : b.typed.isOther = true) :
    a.compare? b = some (compare a.display b.display) := by
  unfold compare?
  generalize a.typed = v at *
  generalize b.typed = w at *
  cases v <;> cases ha <;> cases w <;> cases hb <;> rfl

/-! ### Keys -/

theorem zerosApart_iff {x y : Binary64} (ha : a.typed.number? = some x) (hb : b.typed.number? = some y) :
    ZerosApart a b ↔ Binary64.OppositeZeros x y := by
  constructor
  · rintro ⟨x', y', ha', hb', h⟩
    obtain rfl := Option.some.inj (ha.symm.trans ha')
    obtain rfl := Option.some.inj (hb.symm.trans hb')
    exact h
  · exact fun h => ⟨x, y, ha, hb, h⟩

theorem not_roundedTogether (h : ¬∃ i j, a.typed = .int i ∧ b.typed = .int j) : ¬RoundedTogether a b :=
  fun ⟨i, j, hi, hj, _⟩ => h ⟨i, j, hi, hj⟩

theorem not_zerosApart (h : a.typed.number? = none) : ¬ZerosApart a b := fun ⟨x, _, hx, _⟩ => by
  rw [h] at hx
  cases hx

/-- The signs of whole numbers that are zero are the same. -/
theorem not_zerosApart_of_whole {i j : Int64} (ha : a.typed = .int i) (hb : b.typed = .int j) : ¬ZerosApart a b := by
  intro h
  obtain ⟨hx, hy, hsign⟩ := (zerosApart_iff (congrArg number? ha) (congrArg number? hb)).mp h
  rw [Binary64.isZero_ofInt hx, Binary64.isZero_ofInt hy] at hsign
  exact hsign rfl

theorem roundedTogether_iff {i j : Int64} (ha : a.typed = .int i) (hb : b.typed = .int j) :
    RoundedTogether a b ↔ i.toInt ≠ j.toInt ∧ Binary64.ofInt i.toInt = Binary64.ofInt j.toInt := by
  constructor
  · rintro ⟨i', j', ha', hb', hne, h⟩
    obtain rfl := Value.int.inj (ha.symm.trans ha')
    obtain rfl := Value.int.inj (hb.symm.trans hb')
    exact ⟨fun heq => hne (Int64.toInt_inj.mp heq), h⟩
  · rintro ⟨hne, h⟩
    exact ⟨i, j, ha, hb, fun heq => hne (congrArg _ heq), h⟩

/-- Whole numbers that are rounded together are beyond `2 ^ 53`. -/
theorem RoundedTogether.exists_large (h : RoundedTogether a b) :
    ∃ i, (a.typed = .int i ∨ b.typed = .int i) ∧ 2 ^ 53 < i.toInt.natAbs := by
  obtain ⟨i, j, ha, hb, hne, h⟩ := h
  by_contra hsmall
  have hi : i.toInt.natAbs ≤ 2 ^ 53 := Nat.le_of_not_lt fun hlt => hsmall ⟨i, .inl ha, hlt⟩
  have hj : j.toInt.natAbs ≤ 2 ^ 53 := Nat.le_of_not_lt fun hlt => hsmall ⟨j, .inr hb, hlt⟩
  exact hne (Int64.toInt_inj.mp (Binary64.ofInt_injOn hi hj h))

/-- The keys of numbers hold what is compared, but for what rounding and the signs of zeros do. -/
theorem totalCompare_number_iff {x y : Binary64} (ha : a.typed.number? = some x) (hb : b.typed.number? = some y)
    (h : a.compare? b = some o) : x.totalCompare y = o ↔ ¬RoundedTogether a b ∧ ¬ZerosApart a b := by
  by_cases hwhole : ∃ i j, a.typed = .int i ∧ b.typed = .int j
  · obtain ⟨i, j, hi, hj⟩ := hwhole
    rw [hi] at ha
    rw [hj] at hb
    obtain rfl := Option.some.inj ha
    obtain rfl := Option.some.inj hb
    rw [compare?_of_whole hi hj] at h
    rw [← Option.some.inj h, Binary64.totalCompare_ofInt_iff, roundedTogether_iff hi hj,
      and_iff_left (not_zerosApart_of_whole hi hj)]
  · rw [compare?_of_number ha hb hwhole] at h
    rw [Binary64.totalCompare_eq_iff h, zerosApart_iff ha hb, and_iff_right (not_roundedTogether hwhole)]

theorem compare_ofValue_eq_iff (hclass : (ofValue (some a)).classRank = (ofValue (some b)).classRank)
    (h : a.compare? b = some o) :
    (ofValue (some a)).compare (ofValue (some b)) = o ↔ ¬RoundedTogether a b ∧ ¬ZerosApart a b := by
  have ha := keyedAs_ofValue a
  have hb := keyedAs_ofValue b
  generalize ofValue (some a) = k at *
  generalize ofValue (some b) = l at *
  -- Without two numbers there is no exception, and the keys hold what is compared.
  have hsame (hk : a.typed.number? = none) (hkey : a.compare? b = some (k.compare l)) :
      k.compare l = o ↔ ¬RoundedTogether a b ∧ ¬ZerosApart a b := by
    refine iff_of_true (Option.some.inj (hkey.symm.trans h)) ⟨not_roundedTogether ?_, not_zerosApart hk⟩
    rintro ⟨i, j, hi, -⟩
    rw [hi] at hk
    cases hk
  cases ha with
  | null ha =>
    cases hb with
    | null hb => exact hsame (by rw [ha]; rfl) (compare?_of_null ha hb)
    | _ => cases hclass
  | bool ha =>
    cases hb with
    | bool hb => exact hsame (by rw [ha]; rfl) (compare?_of_bool ha hb)
    | _ => cases hclass
  | date ha =>
    cases hb with
    | date hb => exact hsame (by rw [ha]; rfl) (compare?_of_date ha hb)
    | _ => cases hclass
  | text ha =>
    cases hb with
    | text hb =>
      refine hsame ?_ (compare?_of_other ha hb)
      cases hv : a.typed <;> rw [hv] at ha <;> first | rfl | cases ha
    | _ => cases hclass
  | number ha =>
    cases hb with
    | number hb => exact totalCompare_number_iff ha hb h
    | _ => cases hclass

theorem ofValue_of_whole {i : Int64} (h : a.typed = .int i) : ofValue (some a) = .number (Binary64.ofInt i.toInt) := by
  unfold ofValue
  dsimp only
  rw [h]

theorem RoundedTogether.compare_ofValue (h : RoundedTogether a b) :
    (ofValue (some a)).compare (ofValue (some b)) = .eq := by
  obtain ⟨i, j, ha, hb, -, h⟩ := h
  rw [ofValue_of_whole ha, ofValue_of_whole hb, h]
  exact Int.compare_eq_eq.mpr rfl

theorem ZerosApart.eq_of_compare? (hzeros : ZerosApart a b) (h : a.compare? b = some o) : o = .eq := by
  obtain ⟨x, y, ha, hb, hxy⟩ := id hzeros
  have hwhole : ¬∃ i j, a.typed = .int i ∧ b.typed = .int j := fun ⟨_, _, hi, hj⟩ =>
    not_zerosApart_of_whole hi hj hzeros
  rw [compare?_of_number ha hb hwhole] at h
  rw [← Binary64.compare_place h]
  exact Int.compare_eq_eq.mpr hxy.place_eq

/-- Sorting may tie what predicates order and order what they tie, but it does not reverse their order. -/
theorem compare_ofValue_ne_swap (hclass : (ofValue (some a)).classRank = (ofValue (some b)).classRank)
    (h : a.compare? b = some o) (ho : o ≠ .eq) : (ofValue (some a)).compare (ofValue (some b)) ≠ o.swap := by
  have hswap : o ≠ o.swap := by cases o <;> first | exact fun _ => ho rfl | exact fun h => nomatch h
  by_cases hrounded : RoundedTogether a b
  · rw [hrounded.compare_ofValue]
    cases o <;> first | exact (ho rfl).elim | exact fun h => nomatch h
  · have hzeros : ¬ZerosApart a b := fun hzeros => ho (hzeros.eq_of_compare? h)
    rw [(compare_ofValue_eq_iff hclass h).mpr ⟨hrounded, hzeros⟩]
    exact hswap

theorem eq_of_present? {v w : Value} (h : v.present? = some w) : w = v := by
  cases v <;> first | exact (Option.some.inj h).symm | cases h

/-- What a condition says of two values it says of the order that predicates give them. -/
theorem holds_of_compareHolds {op : Predicate.CompareOp} (hop : op ≠ .ne)
    (hholds : Predicate.compareHolds op (some a) (some b) = true) (h : a.compare? b = some o) : op.holds o = true := by
  unfold Predicate.compareHolds at hholds
  split at hholds
  · next v w hv hw =>
    obtain rfl := eq_of_present? hv
    obtain rfl := eq_of_present? hw
    rwa [h] at hholds
  · exact (hop (beq_iff_eq.mp hholds)).elim

end Value

open Value Predicate in
/-- Values of one class that predicates order are sorted in this order exactly if they are neither whole numbers that
    are rounded to one number, one of them beyond `2 ^ 53`, nor zeros of different sign. Sorting never reverses the order
    of predicates, and where it agrees, what a condition says of two values it says of their places. -/
theorem SortKey.compare_agrees_iff {a b : Value} {o : Ordering}
    (hclass : (ofValue (some a)).classRank = (ofValue (some b)).classRank) (h : a.compare? b = some o) :
    ((ofValue (some a)).compare (ofValue (some b)) = o ↔ ¬RoundedTogether a b ∧ ¬ZerosApart a b) ∧
    (RoundedTogether a b → ∃ i, (a.typed = .int i ∨ b.typed = .int i) ∧ 2 ^ 53 < i.toInt.natAbs) ∧
    (o ≠ .eq → (ofValue (some a)).compare (ofValue (some b)) ≠ o.swap) ∧
    ((ofValue (some a)).compare (ofValue (some b)) = o → ∀ op, op ≠ .ne → compareHolds op (some a) (some b) = true →
      op.holds ((ofValue (some a)).compare (ofValue (some b))) = true) := by
  refine ⟨compare_ofValue_eq_iff hclass h, RoundedTogether.exists_large, compare_ofValue_ne_swap hclass h, ?_⟩
  intro hsame op hop hholds
  rw [hsame]
  exact holds_of_compareHolds hop hholds h

/-- A number is sorted before a text that spells a greater one, though the texts are the other way round. -/
theorem SortKey.compare_of_nine_and_ten :
    (ofValue (some (.int 9))).classRank = (ofValue (some (.text "10"))).classRank ∧
      Value.compare? (.int 9) (.text "10") = some .lt ∧ (ofValue (some (.int 9))).compare (ofValue (some (.text "10"))) ≠ .gt := by
  have hclass : (ofValue (some (.int 9))).classRank = (ofValue (some (.text "10"))).classRank := by decide +kernel
  have hcompare : Value.compare? (.int 9) (.text "10") = some .lt := by decide +kernel
  exact ⟨hclass, hcompare, (SortKey.compare_agrees_iff hclass hcompare).2.2.1 (by decide)⟩

/-- A whole number beyond `2 ^ 53` is greater than the one before it, and a zero equals the negative one, but they are not
    sorted so. -/
theorem SortKey.compare_of_neighbours :
    ((ofValue (some (.int 9007199254740993))).classRank = (ofValue (some (.int 9007199254740992))).classRank ∧
      Value.compare? (.int 9007199254740993) (.int 9007199254740992) = some .gt ∧
      (ofValue (some (.int 9007199254740993))).compare (ofValue (some (.int 9007199254740992))) = .eq) ∧
    ((ofValue (some (.float .zero))).classRank = (ofValue (some (.float Binary64.zero.neg))).classRank ∧
      Value.compare? (.float .zero) (.float Binary64.zero.neg) = some .eq ∧
      (ofValue (some (.float .zero))).compare (ofValue (some (.float Binary64.zero.neg))) = .gt) := by
  decide +kernel

end ClusterQuery
