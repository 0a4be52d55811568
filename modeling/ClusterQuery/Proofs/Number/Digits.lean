import ClusterQuery.Number.Bounded
import Mathlib.Algebra.Group.Nat.Defs
import Mathlib.Data.List.Basic
import Mathlib.Data.List.Induction

/-! Decimal digits, and the range of whole numbers. A number is read back from the digits it is written with, and digits
    are the ones that their number is written with unless zeros stand in front of them. -/

namespace ClusterQuery

theorem isDigit_of_mem_toDigits {n : Nat} {c : Char} (h : c ∈ Nat.toDigits 10 n) : isDigit c = true := by
  have := Nat.isDigit_of_mem_toDigits (by decide) (by decide) h
  simpa [isDigit, Char.isDigit, Char.le_def] using this

theorem digitsValue_eq_ofDigitChars (n : Nat) (cs : List Char) : digitsValue n cs = Nat.ofDigitChars 10 cs n := by
  rw [Nat.ofDigitChars_eq_foldl, digitsValue]
  congr 1
  funext m c
  rw [digitValue, Nat.mul_comm]

theorem digitsValue_toDigits (n : Nat) : digitsValue 0 (Nat.toDigits 10 n) = n := by
  rw [digitsValue_eq_ofDigitChars, Nat.ofDigitChars_ten_toDigits]

theorem digitsValue_append (m : Nat) (as bs : List Char) : digitsValue m (as ++ bs) = digitsValue (digitsValue m as) bs :=
  List.foldl_append

theorem digitsValue_zeros (m k : Nat) : digitsValue m (List.replicate k '0') = m * 10 ^ k := by
  induction k generalizing m with
  | zero => simp [digitsValue]
  | succ k ih =>
    show digitsValue (m * 10 + 0) (List.replicate k '0') = _
    rw [ih, Nat.add_zero, Nat.mul_assoc, Nat.pow_succ']

theorem isDigit_of_mem_zeros {k : Nat} : ∀ c ∈ List.replicate k '0', isDigit c = true := fun c hc => by
  rw [List.eq_of_mem_replicate hc]
  rfl

/-! ### The range of whole numbers -/

/-- In the range of whole numbers. -/
def Fits (n : Int) : Prop := -(signedReach : Int) ≤ n ∧ n < signedReach

instance (n : Int) : Decidable (Fits n) := inferInstanceAs (Decidable (_ ∧ _))

theorem fits_toInt (i : Int64) : Fits i.toInt := ⟨i.le_toInt, i.toInt_lt⟩

theorem toInt64?_eq_some_iff {n : Int} {i : Int64} : toInt64? n = some i ↔ i.toInt = n := by
  refine ⟨toInt_of_toInt64?, ?_⟩
  rintro rfl
  exact toInt64?_toInt i

theorem exists_toInt_eq {n : Int} (h : Fits n) : ∃ i : Int64, i.toInt = n :=
  (Option.isSome_iff_exists.mp (toInt64?_isSome_iff.mpr h)).imp fun _ => toInt_of_toInt64?

theorem toInt64?_eq_none_iff {n : Int} : toInt64? n = none ↔ ¬Fits n := by
  rw [← Option.not_isSome_iff_eq_none, toInt64?_isSome_iff]
  rfl

/-! ### Digits of a text -/

/-- Digits, and at least one. -/
def IsDigits (cs : List Char) : Prop := cs ≠ [] ∧ ∀ c ∈ cs, isDigit c = true

instance (cs : List Char) : Decidable (IsDigits cs) := inferInstanceAs (Decidable (cs ≠ [] ∧ ∀ c ∈ cs, isDigit c = true))

variable {cs : List Char} {c : Char}

theorem isDigits_toDigits (n : Nat) : IsDigits (Nat.toDigits 10 n) :=
  ⟨Nat.toDigits_ne_nil, fun _ => isDigit_of_mem_toDigits⟩

theorem readDigits?_eq_some_iff {n : Nat} : readDigits? cs = some n ↔ IsDigits cs ∧ n = digitsValue 0 cs := by
  have hiff : (!cs.isEmpty && cs.all isDigit) = true ↔ IsDigits cs := by
    rw [Bool.and_eq_true, Bool.not_eq_true', List.isEmpty_eq_false_iff, List.all_eq_true]
    rfl
  unfold readDigits?
  split
  · next h => exact ⟨fun he => ⟨hiff.mp h, (Option.some.inj he).symm⟩, fun he => congrArg some he.2.symm⟩
  · next h => exact ⟨(fun he => nomatch he), fun he => (h (hiff.mpr he.1)).elim⟩

theorem readDigits?_toDigits (n : Nat) : readDigits? (Nat.toDigits 10 n) = some n :=
  readDigits?_eq_some_iff.mpr ⟨isDigits_toDigits n, (digitsValue_toDigits n).symm⟩

theorem toNat_of_isDigit (h : isDigit c = true) : 48 ≤ c.toNat ∧ c.toNat ≤ 57 := by
  simpa [isDigit, Char.le_def, UInt32.le_iff_toNat_le] using h

theorem lowerAscii_of_isDigit (h : isDigit c = true) : lowerAscii c = c := by
  have := toNat_of_isDigit h
  unfold lowerAscii
  rw [if_neg]
  rintro ⟨hA, -⟩
  simp only [Char.le_def, UInt32.le_iff_toNat_le] at hA
  have h0 : 'A'.val.toNat = 65 := rfl
  have h1 : c.val.toNat = c.toNat := rfl
  omega

theorem digitChar_digitValue (h : isDigit c = true) : Nat.digitChar (digitValue c) = c := by
  obtain ⟨hlow, hhigh⟩ := toNat_of_isDigit h
  have hvalue : digitValue c = c.toNat - 48 := rfl
  refine Char.toNat_inj.mp ?_
  rw [Nat.toNat_digitChar_of_lt_ten (by omega), hvalue]
  omega

theorem digitValue_lt (h : isDigit c = true) : digitValue c < 10 := by
  have := toNat_of_isDigit h
  show c.toNat - 48 < 10
  omega

theorem digitsValue_concat (cs : List Char) (c : Char) : digitsValue 0 (cs ++ [c]) = digitsValue 0 cs * 10 + digitValue c := by
  rw [digitsValue, List.foldl_append]
  rfl

theorem digitsValue_lt {cs : List Char} (h : ∀ c ∈ cs, isDigit c = true) : digitsValue 0 cs < 10 ^ cs.length := by
  induction cs using List.reverseRecOn with
  | nil => exact Nat.one_pos
  | append_singleton front c ih =>
    have hfront := ih fun d hd => h d (List.mem_append_left _ hd)
    have hc := digitValue_lt (h c (List.mem_append_right _ List.mem_cons_self))
    rw [digitsValue_concat, List.length_append, List.length_singleton, Nat.pow_succ]
    omega

theorem head?_toDigits_ne_zero {n : Nat} (h : n ≠ 0) : (Nat.toDigits 10 n).head? ≠ some '0' := by
  induction n using Nat.strongRecOn with
  | _ n ih =>
    rw [Nat.toDigits_eq_if (by decide)]
    split
    · simpa using h
    · rw [List.head?_append_of_ne_nil _ Nat.toDigits_ne_nil]
      exact ih (n / 10) (by omega) (by omega)

/-- Digits are what their number is written with if no zero stands in front of other digits. -/
theorem toDigits_digitsValue_iff (h : IsDigits cs) :
    Nat.toDigits 10 (digitsValue 0 cs) = cs ↔ (cs.head? = some '0' → cs = ['0']) := by
  constructor
  · intro htext hhead
    by_cases hzero : digitsValue 0 cs = 0
    · rw [← htext, hzero, Nat.toDigits_zero]
    · rw [← htext] at hhead
      exact (head?_toDigits_ne_zero hzero hhead).elim
  · intro hlead
    induction cs using List.reverseRecOn with
    | nil => exact (h.1 rfl).elim
    | append_singleton front c ih =>
      have hc : isDigit c = true := h.2 c (List.mem_append_right _ List.mem_cons_self)
      have hlt := digitValue_lt hc
      rw [digitsValue_concat]
      cases front with
      | nil =>
        show Nat.toDigits 10 (0 * 10 + digitValue c) = _
        rw [Nat.zero_mul, Nat.zero_add, Nat.toDigits_of_lt_base hlt, digitChar_digitValue hc]
        rfl
      | cons first front =>
        have hfront : IsDigits (first :: front) :=
          ⟨List.cons_ne_nil _ _, fun d hd => h.2 d (List.mem_append_left _ hd)⟩
        -- The first digit is no zero, as other digits follow it.
        have hfirst : first ≠ '0' := fun he => by
          rw [he] at hlead
          simpa using hlead rfl
        have hback := ih hfront fun hhead => (hfirst (Option.some.inj hhead)).elim
        have hpos : 0 < digitsValue 0 (first :: front) := by
          refine Nat.pos_of_ne_zero fun hzero => ?_
          rw [hzero, Nat.toDigits_zero] at hback
          exact hfirst (List.cons.inj hback).1.symm
        rw [Nat.mul_comm, ← Nat.toDigits_append_toDigits (by decide) hpos hlt, hback, Nat.toDigits_of_lt_base hlt,
          digitChar_digitValue hc]

/-! ### Numbers of 64 bits -/

theorem readWord?_decimalText {n : Nat} (h : n < wordLimit) : readWord? (decimalText n) = some n := by
  show readWord? (Nat.toDigits 10 n) = some n
  have hread := readDigits?_toDigits n
  unfold readWord?
  split
  · next rest hrest =>
    -- A plus sign is no digit.
    have : isDigit '+' = true := isDigit_of_mem_toDigits (n := n) (by rw [hrest]; exact List.mem_cons_self)
    cases this
  · dsimp only
    rw [hread, Option.bind_some, if_pos h]

theorem lt_wordLimit_of_readWord? {cs : List Char} {n : Nat} (h : readWord? cs = some n) : n < wordLimit := by
  obtain ⟨m, -, hm⟩ := Option.bind_eq_some_iff.mp h
  split at hm
  · next hlt =>
    cases hm
    exact hlt
  · cases hm

end ClusterQuery
