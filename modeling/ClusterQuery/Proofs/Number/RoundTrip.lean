import ClusterQuery.Proofs.Number.Decimal
import ClusterQuery.Proofs.Number.Rounding
import Mathlib.Data.Nat.Digits.Defs

/-! Numbers are read back from their texts. What a decimal is rounded to depends on its value only, and not on how many
    zeros its digits end with; so the digits that are chosen because they read back, laid out with a point and zeros, are
    read as the number. -/

namespace ClusterQuery

namespace Binary64

/-! ### Fractions of one value -/

section Fractions

variable {num den c : Nat}

theorem roundQuotient_mul_mul (hc : 0 < c) : roundQuotient (num * c) (den * c) = roundQuotient num den := by
  have hlt (a b : Nat) : 2 * (a * c) < b * c ↔ 2 * a < b := by
    rw [← Nat.mul_assoc]
    exact Nat.mul_lt_mul_right hc
  have hgt (a b : Nat) : b * c < 2 * (a * c) ↔ b < 2 * a := by
    rw [← Nat.mul_assoc]
    exact Nat.mul_lt_mul_right hc
  unfold roundQuotient
  dsimp only
  simp only [Nat.mul_div_mul_right num den hc, Nat.mul_mod_mul_right, hlt, hgt]

theorem roundMagnitude_mul_mul (hc : 0 < c) : roundMagnitude (num * c) (den * c) = roundMagnitude num den := by
  unfold roundMagnitude
  dsimp only
  rw [Nat.mul_div_mul_right num den hc, Nat.mul_right_comm den c, roundQuotient_mul_mul hc]

theorem roundUnits_mul_mul (negative : Bool) (num den : Nat) (hc : 0 < c) :
    roundUnits negative (num * c) (den * c) = roundUnits negative num den := by
  simp only [roundUnits, roundMagnitude_mul_mul hc]

theorem ofRatio_mul_mul (negative : Bool) (num den : Nat) (hc : 0 < c) :
    ofRatio negative (num * c) (den * c) = ofRatio negative num den := by
  unfold ofRatio
  rw [Nat.mul_right_comm, roundUnits_mul_mul negative _ _ hc]

end Fractions

/-! ### Decimals of one value -/

theorem length_toDigits_mul_ten {n : Nat} (h : n ≠ 0) : (Nat.toDigits 10 (n * 10)).length = (Nat.toDigits 10 n).length + 1 := by
  have := Nat.toDigits_append_toDigits (b := 10) (n := n) (d := 0) (by decide) (Nat.pos_of_ne_zero h) (by decide)
  rw [Nat.add_zero, Nat.mul_comm] at this
  rw [← this, List.length_append]
  rfl

theorem ofDecimal_zero (negative : Bool) (exponent : Int) : ofDecimal negative 0 exponent = ⟨negative, 0, by decide⟩ := by
  unfold ofDecimal
  rw [if_pos rfl]

theorem ofDecimal_mul_ten (negative : Bool) (digits : Nat) (exponent : Int) :
    ofDecimal negative (digits * 10) (exponent - 1) = ofDecimal negative digits exponent := by
  by_cases hzero : digits = 0
  · rw [hzero, Nat.zero_mul, ofDecimal_zero, ofDecimal_zero]
  have hsize : ((Nat.toDigits 10 (digits * 10)).length : Int) + (exponent - 1) = (Nat.toDigits 10 digits).length + exponent := by
    rw [length_toDigits_mul_ten hzero]
    omega
  unfold ofDecimal
  rw [if_neg hzero, if_neg (by omega)]
  dsimp only
  rw [hsize]
  split
  · rfl
  split
  · rfl
  -- The power of ten stands above the line or below it, and changes sides at zero.
  match exponent with
  | .ofNat (e + 1) =>
    have hexponent : Int.ofNat (e + 1) - 1 = .ofNat e := by simp
    have hpow : digits * 10 * Nat.pow 10 e = digits * Nat.pow 10 (e + 1) := by
      rw [Nat.mul_assoc]
      exact congrArg (digits * ·) (Nat.pow_succ' (n := e) (m := 10)).symm
    rw [hexponent]
    exact congrArg (ofRatio negative · 1) hpow
  | .ofNat 0 =>
    have hexponent : Int.ofNat 0 - 1 = .negSucc 0 := rfl
    have hpow : digits * Nat.pow 10 0 = digits := Nat.mul_one digits
    rw [hexponent]
    dsimp only
    rw [hpow]
    exact ofRatio_mul_mul negative digits 1 (by decide)
  | .negSucc e =>
    have hexponent : Int.negSucc e - 1 = .negSucc (e + 1) := by omega
    rw [hexponent]
    exact ofRatio_mul_mul negative digits (Nat.pow 10 (e + 1)) (by decide)

/-- Zeros at the end of the digits change nothing if the exponent makes up for them. -/
theorem ofDecimal_mul_pow (negative : Bool) (digits k : Nat) (exponent : Int) :
    ofDecimal negative (digits * 10 ^ k) (exponent - k) = ofDecimal negative digits exponent := by
  induction k with
  | zero => simp
  | succ k ih =>
    rw [← ih, ← ofDecimal_mul_ten negative (digits * 10 ^ k), Nat.pow_succ, Nat.mul_assoc]
    congr 1
    omega

theorem negative_ofDecimal (negative : Bool) (digits : Nat) (exponent : Int) :
    (ofDecimal negative digits exponent).negative = negative := by
  unfold ofDecimal
  dsimp only
  split
  · rfl
  split
  · rfl
  split
  · rfl
  split <;> rfl

theorem magnitude_ofDecimal (negative : Bool) (digits : Nat) (exponent : Int) :
    (ofDecimal negative digits exponent).magnitude = (ofDecimal false digits exponent).magnitude := by
  unfold ofDecimal
  dsimp only
  split
  · rfl
  split
  · rfl
  split
  · rfl
  split <;> rfl

/-! ### Units and magnitudes -/

/-- A finite magnitude is the one nearest to its own units. -/
theorem roundMagnitude_unitsOf {m : Nat} (h : m < infiniteMagnitude) : roundMagnitude (unitsOf m) 1 = m := by
  rw [roundMagnitude_one, unitsOf]
  have hdiv := Nat.div_add_mod m binade
  have hmod := Nat.mod_lt m (show 0 < binade by decide)
  rw [binade_eq] at *
  -- A small magnitude is its own units; any other has a leading bit that is not stored, and a shift.
  by_cases hsmall : m / 2 ^ 52 = 0
  · have hlog : m.log2 ≤ 52 := by
      rcases Nat.eq_zero_or_pos m with rfl | hpos
      · decide
      · exact Nat.le_of_lt ((Nat.log2_lt hpos.ne').mpr (by omega))
    have hround := @roundQuotient_mul 1 Nat.one_pos m
    rw [Nat.mul_one] at hround
    rw [if_pos hsmall, shiftOf, Nat.sub_eq_zero_of_le hlog, Nat.pow_zero, hround]
    omega
  · rw [if_neg hsmall]
    generalize hk : m / 2 ^ 52 - 1 = k
    generalize m % 2 ^ 52 = r at *
    have hshift : shiftOf ((r + 2 ^ 52) * 2 ^ k) = k := by
      have hne : (r + 2 ^ 52) * 2 ^ k ≠ 0 := (Nat.mul_pos (by omega) (Nat.two_pow_pos k)).ne'
      have hlog : ((r + 2 ^ 52) * 2 ^ k).log2 = 52 + k := by
        refine (Nat.log2_eq_iff hne).mpr ⟨?_, ?_⟩
        · rw [Nat.pow_add]
          exact Nat.mul_le_mul_right _ (by omega)
        · rw [Nat.add_right_comm, Nat.pow_add]
          exact Nat.mul_lt_mul_of_pos_right (by omega) (Nat.two_pow_pos k)
      rw [shiftOf, hlog, Nat.add_sub_cancel_left]
    rw [show Nat.pow 2 k = 2 ^ k from rfl, hshift, roundQuotient_mul (Nat.two_pow_pos k)]
    omega

theorem unitsOf_lt {m k : Nat} (h : m / binade ≤ k + 1) : unitsOf m < 2 ^ (53 + k) := by
  have hmod := Nat.mod_lt m (show 0 < binade by decide)
  have hdiv := Nat.div_add_mod m binade
  rw [unitsOf, Nat.pow_add]
  rw [binade_eq] at *
  split
  · next hzero =>
    rw [hzero] at hdiv
    exact Nat.lt_of_lt_of_le (show m < 2 ^ 53 by omega) (Nat.le_mul_of_pos_right _ (Nat.two_pow_pos k))
  · exact Nat.mul_lt_mul_of_lt_of_le (by omega) (Nat.pow_le_pow_right (by decide) (by omega)) (Nat.two_pow_pos k)

/-! ### The digits that are chosen -/

theorem lt_length_toDigits {n k : Nat} (h : 10 ^ k ≤ n) : k < (Nat.toDigits 10 n).length := by
  have hlt := digitsValue_lt fun c => isDigit_of_mem_toDigits (n := n) (c := c)
  rw [digitsValue_toDigits] at hlt
  exact (Nat.pow_lt_pow_iff_right (by decide)).mp (h.trans_lt hlt)

theorem ofDecimal_negSucc {negative : Bool} {digits e : Nat} (hne : digits ≠ 0)
    (hlow : -400 ≤ ((Nat.toDigits 10 digits).length : Int) + .negSucc e)
    (hhigh : ((Nat.toDigits 10 digits).length : Int) + .negSucc e ≤ 400) :
    ofDecimal negative digits (.negSucc e) = ofRatio negative digits (Nat.pow 10 (e + 1)) := by
  unfold ofDecimal
  rw [if_neg hne, if_neg (by omega), if_neg (by omega)]

/-- The digits of a finite number, as many as it has, are neither too many nor too few to be read. -/
theorem length_exactDigits {x : Binary64} (hfinite : x.isFinite = true) (hpos : 0 < x.units) :
    673 < (Nat.toDigits 10 (exactDigits x).digits).length ∧ (Nat.toDigits 10 (exactDigits x).digits).length ≤ 1474 := by
  have hm : x.magnitude < infiniteMagnitude := by simpa [isFinite] using hfinite
  have hexponent : x.magnitude / binade < 2047 := Nat.div_lt_of_lt_mul (hm.trans_eq (Nat.mul_comm _ _))
  have hunits := @unitsOf_lt x.magnitude 2045 (Nat.le_of_lt_succ hexponent)
  have hpow : 10 ^ 673 ≤ Nat.pow 5 unitExponent ∧ 0 < Nat.pow 5 unitExponent ∧
      2 ^ (53 + 2045) * Nat.pow 5 unitExponent ≤ 10 ^ 1474 := by decide +kernel
  obtain ⟨hlow, h5, hhigh⟩ := hpow
  constructor
  · exact lt_length_toDigits (hlow.trans (Nat.le_mul_of_pos_left _ hpos))
  · have hlt : x.units * Nat.pow 5 unitExponent < 10 ^ 1474 := by
      generalize Nat.pow 5 unitExponent = a at h5 hhigh ⊢
      generalize 2 ^ (53 + 2045) = b at hunits hhigh
      generalize 10 ^ 1474 = c at hhigh ⊢
      exact Nat.lt_of_lt_of_le (Nat.mul_lt_mul_of_pos_right hunits h5) hhigh
    exact Nat.toDigits_length 10 _ _ (by decide) hlt

theorem units_pos {x : Binary64} (hfinite : x.isFinite = true) (hzero : x.isZero = false) : 0 < x.units := by
  have hm : x.magnitude < infiniteMagnitude := by simpa [isFinite] using hfinite
  refine Nat.pos_of_ne_zero fun h => ?_
  have hback := roundMagnitude_unitsOf hm
  rw [show unitsOf x.magnitude = 0 from h] at hback
  rw [isZero, ← hback] at hzero
  exact absurd hzero (by decide)

theorem ofDecimal_exactDigits {x : Binary64} (hfinite : x.isFinite = true) (hzero : x.isZero = false) (negative : Bool) :
    ofDecimal negative (exactDigits x).digits (exactDigits x).exponent = x.withSign negative := by
  have hm : x.magnitude < infiniteMagnitude := by simpa [isFinite] using hfinite
  have hpos := units_pos hfinite hzero
  obtain ⟨hlow, hhigh⟩ := length_exactDigits hfinite hpos
  have hne : (exactDigits x).digits ≠ 0 := fun h => by
    rw [h] at hlow
    exact absurd hlow (by decide)
  have hexact (u k : Nat) : roundUnits negative (u * Nat.pow 5 k * Nat.pow 2 k) (Nat.pow 10 k) = roundUnits negative u 1 := by
    have h10 : Nat.pow 5 k * Nat.pow 2 k = Nat.pow 10 k := (Nat.mul_pow 5 2 k).symm
    have hscaled := roundUnits_mul_mul negative u 1 (Nat.pow_pos (n := k) (show 0 < 10 by decide))
    rw [Nat.one_mul] at hscaled
    rw [Nat.mul_assoc, h10]
    exact hscaled
  calc ofDecimal negative (exactDigits x).digits (.negSucc 1073)
      = ofRatio negative (exactDigits x).digits (Nat.pow 10 unitExponent) := by
        rw [ofDecimal_negSucc hne (by omega) (by omega), show 1073 + 1 = unitExponent from rfl]
    _ = roundUnits negative x.units 1 := by
        unfold ofRatio unitsPerOne exactDigits
        generalize unitExponent = k
        exact hexact x.units k
    _ = x.withSign negative := by
      simp only [roundUnits, withSign, Binary64.mk.injEq, true_and]
      exact roundMagnitude_unitsOf hm

theorem eq_withSign_iff {x y : Binary64} {negative : Bool} :
    y = x.withSign negative ↔ y.negative = negative ∧ y.magnitude = x.magnitude := by
  obtain ⟨sx, mx, hx⟩ := x
  obtain ⟨sy, my, hy⟩ := y
  simp [withSign]

theorem readsBack_of_digitsAt? {tieUp : Bool} {x : Binary64} {exponent : Int} {d : Digits}
    (h : digitsAt? tieUp x exponent = some d) : (ofDecimal false d.digits d.exponent).magnitude = x.magnitude := by
  unfold digitsAt? at h
  obtain ⟨digits, hfind, rfl⟩ := Option.map_eq_some_iff.mp h
  have hback := List.find?_some hfind
  exact beq_iff_eq.mp hback

theorem shortestDigits_cases (tieUp : Bool) (x : Binary64) :
    shortestDigits tieUp x = exactDigits x ∨ ∃ exponent, digitsAt? tieUp x exponent = some (shortestDigits tieUp x) := by
  unfold shortestDigits
  dsimp only
  generalize hfound : (List.range 17).findSome? _ = found
  cases found with
  | none => exact .inl rfl
  | some d =>
    obtain ⟨n, -, hd⟩ := List.exists_of_findSome?_eq_some hfound
    exact .inr ⟨_, hd⟩

/-- The digits that are written read back as the number, with either sign. -/
theorem ofDecimal_shortestDigits {x : Binary64} (hfinite : x.isFinite = true) (hzero : x.isZero = false) (tieUp negative : Bool) :
    ofDecimal negative (shortestDigits tieUp x).digits (shortestDigits tieUp x).exponent = x.withSign negative := by
  rcases shortestDigits_cases tieUp x with hd | ⟨exponent, hd⟩
  · rw [hd, ofDecimal_exactDigits hfinite hzero negative]
  · refine eq_withSign_iff.mpr ⟨negative_ofDecimal _ _ _, ?_⟩
    rw [magnitude_ofDecimal]
    exact readsBack_of_digitsAt? hd

/-! ### Laid out and read -/

variable {negative : Bool} {digits : List Char} {point : Int}

theorem layoutFixed_of_nonpos (h : point ≤ 0) :
    layoutFixed false digits point = ['0'] ++ '.' :: (List.replicate point.natAbs '0' ++ digits) := by
  unfold layoutFixed
  rw [if_pos h]
  rfl

theorem layoutFixed_of_le (hpoint : ¬point ≤ 0) (h : digits.length ≤ point.toNat) :
    layoutFixed false digits point = digits ++ List.replicate (point.toNat - digits.length) '0' := by
  unfold layoutFixed
  rw [if_neg hpoint, List.drop_of_length_le h, List.take_of_length_le h]
  rfl

theorem layoutFixed_of_lt (hpoint : ¬point ≤ 0) (h : point.toNat < digits.length) :
    layoutFixed false digits point = digits.take point.toNat ++ '.' :: digits.drop point.toNat := by
  obtain ⟨c, fraction, hdrop⟩ := List.exists_cons_of_ne_nil fun hnil => Nat.not_le_of_lt h (List.drop_eq_nil_iff.mp hnil)
  unfold layoutFixed
  rw [if_neg hpoint, hdrop, Nat.sub_eq_zero_of_le h.le, List.replicate_zero, List.append_nil]

/-- A layout is a decimal, which is read as the digits moved to the place of the point. -/
theorem exists_readPointed?_layoutFixed (negative : Bool) (hdigits : IsDigits digits) (point : Int) :
    IsDecimal (layoutFixed false digits point) ∧
      ∃ value places, readPointed? (layoutFixed false digits point) = some (value, places) ∧
        ofDecimal negative value (-(places : Int)) =
          ofDecimal negative (digitsValue 0 digits) (point - digits.length) := by
  -- The point stands in front of the digits, behind them or among them.
  by_cases hpoint : point ≤ 0
  · have hwhole : IsDigits ['0'] := by decide
    have hfraction : ∀ c ∈ List.replicate point.natAbs '0' ++ digits, isDigit c = true :=
      List.forall_mem_append.mpr ⟨isDigit_of_mem_zeros, hdigits.2⟩
    rw [layoutFixed_of_nonpos hpoint]
    refine ⟨⟨['0'], hwhole, .inr ⟨_, hfraction, rfl⟩⟩, _, _, readPointed?_of_point hwhole hfraction, ?_⟩
    have hvalue : digitsValue 0 (['0'] ++ (List.replicate point.natAbs '0' ++ digits)) = digitsValue 0 digits := by
      rw [digitsValue_append, digitsValue_append, digitsValue_zeros]
      exact congrArg (digitsValue · digits) (Nat.zero_mul _)
    rw [hvalue, List.length_append, List.length_replicate]
    congr 1
    omega
  by_cases hlength : digits.length ≤ point.toNat
  · have hwhole : IsDigits (digits ++ List.replicate (point.toNat - digits.length) '0') :=
      ⟨List.append_ne_nil_of_left_ne_nil hdigits.1 _, List.forall_mem_append.mpr ⟨hdigits.2, isDigit_of_mem_zeros⟩⟩
    rw [layoutFixed_of_le hpoint hlength]
    refine ⟨⟨_, hwhole, .inl rfl⟩, _, _, readPointed?_of_isDigits hwhole, ?_⟩
    rw [digitsValue_append, digitsValue_zeros,
      ← ofDecimal_mul_pow negative (digitsValue 0 digits) (point.toNat - digits.length)]
    congr 1
    omega
  · have hwhole : IsDigits (digits.take point.toNat) := by
      refine ⟨fun hnil => ?_, fun c hc => hdigits.2 c (List.mem_of_mem_take hc)⟩
      exact (List.take_eq_nil_iff.mp hnil).elim (by omega) hdigits.1
    have hfraction : ∀ c ∈ digits.drop point.toNat, isDigit c = true := fun c hc => hdigits.2 c (List.mem_of_mem_drop hc)
    rw [layoutFixed_of_lt hpoint (by omega)]
    refine ⟨⟨_, hwhole, .inr ⟨_, hfraction, rfl⟩⟩, _, _, readPointed?_of_point hwhole hfraction, ?_⟩
    rw [List.take_append_drop, List.length_drop]
    congr 1
    omega

theorem exists_dropEndWhile_zeros (cs : List Char) :
    ∃ k, cs = dropEndWhile (· == '0') cs ++ List.replicate k '0' := by
  refine ⟨_, (dropEndWhile_append_takeWhile (· == '0') cs).symm.trans (congrArg _ (List.eq_replicate_of_mem ?_))⟩
  intro c hc
  have hzero := List.mem_takeWhile_imp (List.mem_reverse.mp hc)
  exact beq_iff_eq.mp hzero

/-- The digits without the zeros at their end stand for the same number in the place of the point. -/
theorem ofDecimal_normal (negative : Bool) {d : Digits} (hd : d.digits ≠ 0) :
    IsDigits d.normal.1 ∧ ofDecimal negative (digitsValue 0 d.normal.1) (d.normal.2 - d.normal.1.length) =
      ofDecimal negative d.digits d.exponent := by
  obtain ⟨k, hsplit⟩ := exists_dropEndWhile_zeros (Nat.toDigits 10 d.digits)
  generalize hkept : dropEndWhile (· == '0') (Nat.toDigits 10 d.digits) = kept at hsplit
  have hshift : digitsValue 0 kept * 10 ^ k = d.digits := by
    rw [← digitsValue_zeros, ← digitsValue_append, ← hsplit, digitsValue_toDigits]
  have hne : kept ≠ [] := by
    rintro rfl
    exact hd (hshift.symm.trans (Nat.zero_mul _))
  have hnormal : d.normal = (kept, d.exponent + (Nat.toDigits 10 d.digits).length) := by
    show (if (dropEndWhile (· == '0') (Nat.toDigits 10 d.digits)).isEmpty then _ else _, _) = _
    rw [hkept, if_neg (by simpa using hne)]
    exact congrArg (·, _) hkept
  rw [hnormal]
  dsimp only
  refine ⟨⟨hne, fun c hc => isDigit_of_mem_toDigits (n := d.digits) ?_⟩, ?_⟩
  · rw [hsplit]
    exact List.mem_append_left _ hc
  · rw [← hshift, ← ofDecimal_mul_pow negative (digitsValue 0 kept) k, hshift, hsplit, List.length_append,
      List.length_replicate]
    congr 1
    omega

/-! ### Written and read -/

theorem read?_signed (negative : Bool) {cs : List Char} (h : IsDecimal cs) :
    read? ((if negative then ['-'] else []) ++ cs) = readUnsigned? negative cs := by
  cases negative with
  | true => rfl
  | false => exact read?_eq_readUnsigned? h.beginsWithDigit

theorem withSign_self (x : Binary64) : x.withSign x.negative = x := rfl

section Style

variable {x : Binary64} {style : FloatStyle} (hfrom : style.fixedFrom = none) (hbelow : style.fixedBelow = none)
  (hpoint : style.keepsPoint = false)
include hfrom hbelow hpoint

theorem render_of_isFinite (hfinite : x.isFinite = true) :
    x.render style = (if x.negative then ['-'] else []) ++ if x.isZero then ['0'] else
      layoutFixed false (shortestDigits style.tieUp x).normal.1 (shortestDigits style.tieUp x).normal.2 := by
  have hm : x.magnitude < infiniteMagnitude := by simpa [isFinite] using hfinite
  have hnan : x.isNaN = false := by simpa [isNaN] using hm.le
  have hinfinite : x.isInfinite = false := by simpa [isInfinite] using hm.ne
  unfold render
  rw [hnan, hinfinite, hpoint]
  dsimp only
  rw [layout_eq_layoutFixed hfrom hbelow, hpoint]
  simp only [Bool.false_eq_true, if_false]
  split
  · rfl
  · rfl

/-- A finite number, be it zero of either sign, is written as its sign and a decimal that reads back. -/
theorem exists_render (hfinite : x.isFinite = true) :
    ∃ text, x.render style = (if x.negative then ['-'] else []) ++ text ∧ IsDecimal text ∧
      readUnsigned? x.negative text = some x := by
  rw [render_of_isFinite hfrom hbelow hpoint hfinite]
  -- No digits are looked for in a zero, which is written on its own.
  cases hzero : x.isZero with
  | true =>
    have hdecimal : IsDecimal ['0'] := ⟨['0'], by decide, .inl rfl⟩
    rw [if_pos rfl]
    refine ⟨_, rfl, hdecimal, ?_⟩
    obtain ⟨negative, magnitude, hlt⟩ := x
    obtain rfl : magnitude = 0 := beq_iff_eq.mp hzero
    have hread := readPointed?_of_isDigits (show IsDigits ['0'] by decide)
    rw [show digitsValue 0 ['0'] = 0 from rfl] at hread
    rw [readUnsigned?_of_isDecimal negative hdecimal, hread, Option.map_some]
    dsimp only
    rw [ofDecimal_zero]
  | false =>
    have hback := ofDecimal_shortestDigits hfinite hzero style.tieUp x.negative
    rw [withSign_self] at hback
    have hne : (shortestDigits style.tieUp x).digits ≠ 0 := fun h => by
      rw [h, ofDecimal_zero] at hback
      rw [← hback] at hzero
      cases hzero
    obtain ⟨hdigits, hnormal⟩ := ofDecimal_normal x.negative hne
    obtain ⟨hdecimal, value, places, hread, hvalue⟩ := exists_readPointed?_layoutFixed x.negative hdigits
      (shortestDigits style.tieUp x).normal.2
    rw [if_neg Bool.false_ne_true]
    refine ⟨_, rfl, hdecimal, ?_⟩
    rw [readUnsigned?_of_isDecimal x.negative hdecimal, hread, Option.map_some]
    dsimp only
    rw [hvalue, hnormal, hback]

/-- A finite number is read back from its text. -/
theorem read?_render (hfinite : x.isFinite = true) : read? (x.render style) = some x := by
  obtain ⟨text, htext, hdecimal, hread⟩ := exists_render hfrom hbelow hpoint hfinite
  rw [htext, read?_signed x.negative hdecimal, hread]

end Style

/-! ### Whole numbers -/

theorem place_ofDecimal_zero {n : Nat} (h : n ≤ signedReach) (negative : Bool) :
    (ofDecimal negative n 0).place = (ofInt (if negative then -(n : Int) else n)).place := by
  by_cases hzero : n = 0
  · have hint : (if negative = true then -((0 : Nat) : Int) else ((0 : Nat) : Int)) = 0 := by cases negative <;> rfl
    rw [hzero, ofDecimal_zero, hint]
    unfold place
    rw [magnitude_ofInt, negative_ofInt, Int.natAbs_zero, Nat.zero_mul]
    cases negative <;> decide
  · have hlength : (Nat.toDigits 10 n).length ≤ 20 :=
      Nat.toDigits_length 10 n 20 (by decide) (Nat.lt_of_le_of_lt h (by decide))
    have hratio : ofDecimal negative n 0 = ofRatio negative n 1 := by
      unfold ofDecimal
      rw [if_neg hzero, if_neg (by omega), if_neg (by omega)]
      exact congrArg (ofRatio negative · 1) (Nat.mul_one n)
    have habs : (if negative = true then -(n : Int) else (n : Int)).natAbs = n := by
      cases negative <;> simp
    have hsign : decide ((if negative = true then -(n : Int) else (n : Int)) < 0) = negative := by
      cases negative
      · simp
      · simpa using Nat.pos_of_ne_zero hzero
    rw [hratio, ofInt, habs, hsign]

/-- A text that spells a whole number of 64 bits spells, as a decimal, the number nearest to it. -/
theorem exists_read?_of_readInt64? {cs : List Char} {i : Int64} (h : readInt64? cs = some i) :
    ∃ y, read? cs = some y ∧ y.place = (ofInt i.toInt).place := by
  obtain ⟨j, hj, hi⟩ := Option.bind_eq_some_iff.mp h
  have hrange := toInt64?_isSome_iff.mp (Option.isSome_iff_exists.mpr ⟨i, hi⟩)
  rw [toInt_of_toInt64? hi]
  -- Behind the sign, if there is one, stand digits.
  have hdigits {ds : List Char} {n : Nat} (hread : readDigits? ds = some n) (hn : n ≤ signedReach) (negative : Bool) :
      ∃ y, readUnsigned? negative ds = some y ∧ y.place = (ofInt (if negative then -(n : Int) else n)).place := by
    obtain ⟨hds, rfl⟩ := readDigits?_eq_some_iff.mp hread
    refine ⟨_, ?_, place_ofDecimal_zero hn negative⟩
    rw [readUnsigned?_of_isDecimal negative ⟨ds, hds, .inl rfl⟩, readPointed?_of_isDigits hds]
    rfl
  unfold readInteger? at hj
  split at hj
  · obtain ⟨m, hm, rfl⟩ := Option.map_eq_some_iff.mp hj
    obtain ⟨n, hread, hn⟩ := Option.bind_eq_some_iff.mp hm
    cases hn
    exact hdigits hread (by omega) true
  · obtain ⟨m, hm, rfl⟩ := Option.map_eq_some_iff.mp hj
    obtain ⟨n, hread, hn⟩ := Option.bind_eq_some_iff.mp hm
    cases hn
    exact hdigits hread (by omega) false
  · obtain ⟨m, hm, rfl⟩ := Option.map_eq_some_iff.mp hj
    obtain ⟨n, hread, hn⟩ := Option.bind_eq_some_iff.mp hm
    cases hn
    obtain ⟨hds, -⟩ := readDigits?_eq_some_iff.mp hread
    rw [read?_eq_readUnsigned? hds.beginsWithDigit]
    exact hdigits hread (by omega) false

end Binary64

end ClusterQuery
