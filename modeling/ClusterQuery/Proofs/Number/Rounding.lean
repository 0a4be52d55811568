import ClusterQuery.Number.Binary64
import Mathlib.Data.Nat.Log
import Mathlib.Tactic.Ring

/-! How whole numbers are rounded. Rounding keeps the order of what it rounds, so that a greater whole number never
    becomes a smaller binary one; up to `2 ^ 53` nothing is lost, and different numbers stay different. -/

namespace ClusterQuery

namespace Binary64

theorem binade_eq : binade = 2 ^ 52 := by decide

theorem unitsPerOne_eq : unitsPerOne = 2 ^ unitExponent := by
  delta unitsPerOne
  generalize unitExponent = k
  exact Nat.pow_eq

theorem unitsPerOne_pos : 0 < unitsPerOne := by
  rw [unitsPerOne_eq]
  exact Nat.two_pow_pos unitExponent

/-! ### Quotients -/

section Quotient

variable {a b c den : Nat}

theorem roundQuotient_mono (h : a ≤ b) : roundQuotient a den ≤ roundQuotient b den := by
  have hq : a / den ≤ b / den := Nat.div_le_div_right h
  have hr : a / den = b / den → a % den ≤ b % den := by
    intro hq
    have ha := Nat.div_add_mod a den
    have hb := Nat.div_add_mod b den
    rw [hq] at ha
    omega
  unfold roundQuotient
  dsimp only
  rcases Nat.lt_or_eq_of_le hq with hlt | heq
  · split_ifs <;> omega
  · have := hr heq
    rw [heq]
    split_ifs <;> omega

theorem roundQuotient_mul (hden : 0 < den) (c : Nat) : roundQuotient (c * den) den = c := by
  unfold roundQuotient
  dsimp only
  rw [Nat.mul_div_cancel c hden, Nat.mul_mod_left, if_pos (by omega)]

theorem roundQuotient_le (hden : 0 < den) (h : a ≤ c * den) : roundQuotient a den ≤ c :=
  (roundQuotient_mono h).trans_eq (roundQuotient_mul hden c)

theorem le_roundQuotient (hden : 0 < den) (h : c * den ≤ a) : c ≤ roundQuotient a den :=
  (roundQuotient_mul hden c).symm.trans_le (roundQuotient_mono h)

end Quotient

/-! ### Magnitudes -/

/-- The place of the last bit that a magnitude of these units keeps. -/
def shiftOf (units : Nat) : Nat := units.log2 - 52

theorem shiftOf_mono {n m : Nat} (h : n ≤ m) : shiftOf n ≤ shiftOf m := by
  unfold shiftOf
  rw [Nat.log2_eq_log_two, Nat.log2_eq_log_two]
  have := Nat.log_mono_right (b := 2) h
  omega

/-- Units of a magnitude fill 53 bits from the last one that is kept on, unless they are few. -/
theorem lt_of_shiftOf (units : Nat) : units < 2 ^ 53 * 2 ^ shiftOf units := by
  rw [← Nat.pow_add]
  rcases Nat.eq_zero_or_pos units with rfl | hpos
  · exact Nat.two_pow_pos _
  · refine Nat.lt_of_lt_of_le ((Nat.log2_lt hpos.ne').mp (Nat.lt_succ_self _)) (Nat.pow_le_pow_right (by decide) ?_)
    unfold shiftOf
    omega

theorem le_of_shiftOf_pos {units : Nat} (h : 0 < shiftOf units) : 2 ^ 52 * 2 ^ shiftOf units ≤ units := by
  unfold shiftOf at h ⊢
  have hne : units ≠ 0 := fun h0 => by rw [h0] at h; exact absurd h (by decide)
  rw [← Nat.pow_add]
  refine (Nat.le_log2 hne).mp ?_
  omega

theorem roundMagnitude_one (n : Nat) :
    roundMagnitude n 1 = min (shiftOf n * binade + roundQuotient n (2 ^ shiftOf n)) infiniteMagnitude := by
  unfold roundMagnitude
  dsimp only
  rw [Nat.div_one, Nat.one_mul]
  rfl

theorem roundMagnitude_mono {n m : Nat} (h : n ≤ m) : roundMagnitude n 1 ≤ roundMagnitude m 1 := by
  rw [roundMagnitude_one, roundMagnitude_one]
  refine min_le_min_right _ ?_
  rcases Nat.lt_or_eq_of_le (shiftOf_mono h) with hlt | heq
  · -- The lower one fills at most its binade, above which the higher one begins.
    have hlow : roundQuotient n (2 ^ shiftOf n) ≤ 2 ^ 53 :=
      roundQuotient_le (Nat.two_pow_pos _) (lt_of_shiftOf n).le
    have hhigh : 2 ^ 52 ≤ roundQuotient m (2 ^ shiftOf m) :=
      le_roundQuotient (Nat.two_pow_pos _) (le_of_shiftOf_pos (Nat.zero_lt_of_lt hlt))
    have hstep : (shiftOf n + 1) * 2 ^ 52 ≤ shiftOf m * 2 ^ 52 := Nat.mul_le_mul_right _ hlt
    rw [binade_eq]
    omega
  · rw [heq]
    exact Nat.add_le_add_left (roundQuotient_mono h) _

/-! ### Whole numbers -/

theorem magnitude_ofInt (i : Int) : (ofInt i).magnitude = roundMagnitude (i.natAbs * unitsPerOne) 1 := rfl

theorem negative_ofInt (i : Int) : (ofInt i).negative = decide (i < 0) := rfl

theorem magnitude_ofInt_mono {i j : Int} (h : i.natAbs ≤ j.natAbs) : (ofInt i).magnitude ≤ (ofInt j).magnitude :=
  roundMagnitude_mono (Nat.mul_le_mul_right _ h)

theorem rank_ofInt_mono {i j : Int} (h : i ≤ j) : (ofInt i).rank ≤ (ofInt j).rank := by
  unfold rank
  rw [negative_ofInt, negative_ofInt]
  by_cases hi : i < 0 <;> by_cases hj : j < 0
  · have := magnitude_ofInt_mono (i := j) (j := i) (by omega)
    simp only [hi, hj, decide_true, if_true]
    omega
  · simp only [hi, hj, decide_true, decide_false, if_true, Bool.false_eq_true, if_false]
    omega
  · omega
  · have := magnitude_ofInt_mono (i := i) (j := j) (by omega)
    simp only [hi, hj, decide_false, Bool.false_eq_true, if_false]
    omega

/-! ### Numbers that are kept -/

/-- Units of which no bit is dropped are those of their magnitude. -/
theorem unitsOf_roundMagnitude {n : Nat} (hdvd : 2 ^ shiftOf n ∣ n) (hbound : shiftOf n ≤ 2045) :
    unitsOf (roundMagnitude n 1) = n := by
  obtain ⟨c, hc⟩ := hdvd
  have hpos : 0 < 2 ^ shiftOf n := Nat.two_pow_pos _
  have hquotient : roundQuotient n (2 ^ shiftOf n) = c := by
    have h := roundQuotient_mul hpos c
    rwa [Nat.mul_comm, ← hc] at h
  have hlt : c < 2 ^ 53 := by
    refine Nat.lt_of_mul_lt_mul_left (a := 2 ^ shiftOf n) ?_
    rw [← hc, Nat.mul_comm]
    exact lt_of_shiftOf n
  have hmagnitude : roundMagnitude n 1 = shiftOf n * binade + c := by
    rw [roundMagnitude_one, hquotient]
    refine Nat.min_eq_left ?_
    have : (shiftOf n + 2) * 2 ^ 52 ≤ 2047 * 2 ^ 52 := Nat.mul_le_mul_right _ (by omega)
    rw [infiniteMagnitude, binade_eq]
    omega
  rw [hmagnitude, unitsOf, binade_eq]
  by_cases hsmall : c < 2 ^ 52
  · -- Few units, each of which has a magnitude of its own.
    have hzero : shiftOf n = 0 := by
      by_contra hne
      have hle := le_of_shiftOf_pos (Nat.pos_of_ne_zero hne)
      rw [Nat.mul_comm] at hle
      conv_rhs at hle => rw [hc]
      have := Nat.le_of_mul_le_mul_left hle hpos
      omega
    rw [hzero, Nat.pow_zero, Nat.one_mul] at hc
    rw [hzero, Nat.zero_mul, Nat.zero_add, Nat.div_eq_of_lt hsmall, if_pos rfl, hc]
  · have hdiv : (shiftOf n * 2 ^ 52 + c) / 2 ^ 52 = shiftOf n + 1 := by omega
    have hmod : (shiftOf n * 2 ^ 52 + c) % 2 ^ 52 + 2 ^ 52 = c := by omega
    rw [hdiv, hmod, if_neg (Nat.succ_ne_zero _), Nat.add_sub_cancel, Nat.mul_comm]
    exact hc.symm

/-- A whole number up to `2 ^ 53` keeps all of its units. -/
theorem units_ofInt {i : Int} (h : i.natAbs ≤ 2 ^ 53) : (ofInt i).units = i.natAbs * unitsPerOne := by
  have hexponent : unitExponent + 1 ≤ 2045 := by decide
  rw [units, magnitude_ofInt, unitsPerOne_eq]
  generalize unitExponent = k at hexponent
  generalize i.natAbs = a at h
  rcases Nat.lt_or_eq_of_le h with hlt | rfl
  · have hshift : shiftOf (a * 2 ^ k) ≤ k := by
      rcases Nat.eq_zero_or_pos a with rfl | hpos
      · rw [Nat.zero_mul]
        exact Nat.zero_le k
      · have hlog : (a * 2 ^ k).log2 < 53 + k := by
          refine (Nat.log2_lt (Nat.mul_pos hpos (Nat.two_pow_pos k)).ne').mpr ?_
          rw [Nat.pow_add]
          exact Nat.mul_lt_mul_of_pos_right hlt (Nat.two_pow_pos k)
        unfold shiftOf
        omega
    exact unitsOf_roundMagnitude ((Nat.pow_dvd_pow 2 hshift).mul_left a) (by omega)
  · have hshift : shiftOf (2 ^ 53 * 2 ^ k) = k + 1 := by
      unfold shiftOf
      rw [← Nat.pow_add, Nat.log2_two_pow]
      omega
    refine unitsOf_roundMagnitude ?_ (by omega)
    rw [hshift, ← Nat.pow_add]
    exact Nat.pow_dvd_pow 2 (by omega)

theorem isZero_ofInt {i : Int} (h : (ofInt i).isZero = true) : i = 0 := by
  by_contra hne
  have hone : (ofInt 1).magnitude ≠ 0 := by
    intro hzero
    have hunits := units_ofInt (i := 1) (by decide)
    rw [units, hzero, Int.natAbs_one, Nat.one_mul] at hunits
    exact unitsPerOne_pos.ne hunits
  have hle := magnitude_ofInt_mono (i := 1) (j := i) (by omega)
  exact hone (Nat.le_zero.mp (hle.trans_eq (beq_iff_eq.mp h)))

theorem ofInt_injOn {i j : Int} (hi : i.natAbs ≤ 2 ^ 53) (hj : j.natAbs ≤ 2 ^ 53) (h : ofInt i = ofInt j) : i = j := by
  have hunits := congrArg units h
  rw [units_ofInt hi, units_ofInt hj] at hunits
  have habs := Nat.eq_of_mul_eq_mul_right unitsPerOne_pos hunits
  have hsign := congrArg negative h
  rw [negative_ofInt, negative_ofInt, decide_eq_decide] at hsign
  omega

end Binary64

end ClusterQuery
