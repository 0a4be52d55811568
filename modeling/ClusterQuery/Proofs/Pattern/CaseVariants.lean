import ClusterQuery.Pattern.CharSet
import Mathlib.Data.List.Chain
import Mathlib.Data.List.Pairwise

/-! The variants of a character are the characters that fold to the same one. The table of folding lists each code point
    once, and what a code point folds to folds to itself. -/

namespace ClusterQuery

namespace FoldRun

variable {r s : FoldRun} {code : Nat}

theorem contains_iff : r.contains code = true ↔ r.first ≤ code ∧ code ≤ r.last ∧ (code - r.first) % r.stride = 0 := by
  simp [contains, and_assoc]

/-- One run ends before the next begins. -/
def Precedes (r s : FoldRun) : Prop := r.last < s.first ∧ s.first ≤ s.last

instance (r s : FoldRun) : Decidable (r.Precedes s) := inferInstanceAs (Decidable (_ ∧ _))

instance : IsTrans FoldRun Precedes where
  trans _ _ _ h h' := ⟨Nat.lt_trans (Nat.lt_of_lt_of_le h.1 h.2) h'.1, h'.2⟩

/-- What a code point of a run folds to. -/
def target (r : FoldRun) (code : Nat) : Nat := ((code : Int) + r.shift).toNat

/-- Whether a run has none of the code points from `low` to `high` in strides. -/
def avoids (low high stride : Nat) (r : FoldRun) : Bool :=
  r.last.blt low || high.blt r.first ||
    ((low.beq high || stride.beq 2) && r.stride.beq 2 && ((low + r.first) % 2).beq 1)

/-- Code points of characters, and not of halves of them. -/
def AreChars (low high : Nat) : Prop := high < 0xD800 ∨ 0xDFFF < low ∧ high < 0x110000

/-- The code points of a run and what they fold to are those of characters. -/
def IsSound (r : FoldRun) : Prop :=
  0 < r.first ∧ 0 < (r.first : Int) + r.shift ∧ AreChars r.first r.last ∧ AreChars (r.target r.first) (r.target r.last)

instance (low high : Nat) : Decidable (AreChars low high) := inferInstanceAs (Decidable (_ ∨ _))

instance (r : FoldRun) : Decidable r.IsSound := inferInstanceAs (Decidable (_ ∧ _))

theorem not_contains_of_avoids (h : s.avoids (r.target r.first) (r.target r.last) r.stride = true) (hr : r.IsSound)
    (hcode : r.contains code = true) : s.contains (r.target code) ≠ true := by
  obtain ⟨hfirst, hlast, hstride⟩ := contains_iff.mp hcode
  have hpositive := hr.2.1
  simp only [avoids, target, Bool.or_eq_true, Bool.and_eq_true, Nat.blt_eq, Nat.beq_eq] at h
  intro hcontains
  obtain ⟨hfirst', hlast', hstride'⟩ := contains_iff.mp hcontains
  rw [target] at hfirst' hlast' hstride'
  rcases h with (h | h) | ⟨⟨h | h, hs⟩, hodd⟩
  · omega
  · omega
  · rw [hs] at hstride'
    omega
  · rw [h] at hstride
    rw [hs] at hstride'
    omega

end FoldRun

open FoldRun

variable {r : FoldRun} {code : Nat} {c d : Char}

/-! ### The table -/

theorem isChain_foldRuns : foldRuns.IsChain Precedes := by decide +kernel

theorem isSound_of_mem_foldRuns : ∀ r ∈ foldRuns, r.IsSound := by decide +kernel

/-- Every pair of runs, checked as numbers. -/
theorem avoids_foldRuns :
    (foldRuns.all fun r => foldRuns.all (avoids (r.target r.first) (r.target r.last) r.stride)) = true := by
  decide +kernel

theorem eq_of_contains {s : FoldRun} (hr : r ∈ foldRuns) (hs : s ∈ foldRuns) (hcode : r.contains code = true)
    (hcode' : s.contains code = true) : r = s := by
  have hpairwise : foldRuns.Pairwise fun r s => ∀ code, r.contains code = true → s.contains code = true → r = s := by
    refine (List.isChain_iff_pairwise.mp isChain_foldRuns).imp fun {r s} h code hcode hcode' => ?_
    have := (contains_iff.mp hcode).2.1
    have := (contains_iff.mp hcode').1
    have := h.1
    omega
  exact List.Pairwise.forall_of_forall_of_flip (fun _ _ _ _ _ => rfl) hpairwise
    (hpairwise.imp fun h code hcode hcode' => (h code hcode' hcode).symm) hr hs code hcode hcode'

/-! ### Folding -/

theorem foldCode_of_contains (hr : r ∈ foldRuns) (hcode : r.contains code = true) : foldCode code = r.target code := by
  obtain ⟨s, hfind⟩ := Option.isSome_iff_exists.mp (List.find?_isSome (p := fun r : FoldRun => r.contains code).mpr ⟨r, hr, hcode⟩)
  have hcode' : s.contains code = true := List.find?_some (p := fun r : FoldRun => r.contains code) hfind
  rw [foldCode, hfind, eq_of_contains (List.mem_of_find?_eq_some hfind) hr hcode' hcode]
  rfl

theorem foldCode_of_not_contains (h : ∀ r ∈ foldRuns, r.contains code ≠ true) : foldCode code = code := by
  rw [foldCode, List.find?_eq_none.mpr h]

theorem foldCode_foldCode (code : Nat) : foldCode (foldCode code) = foldCode code := by
  by_cases h : ∃ r ∈ foldRuns, r.contains code = true
  · obtain ⟨r, hr, hcode⟩ := h
    rw [foldCode_of_contains hr hcode]
    refine foldCode_of_not_contains fun s hs => ?_
    have havoids := List.all_eq_true.mp (List.all_eq_true.mp avoids_foldRuns r hr) s hs
    exact not_contains_of_avoids havoids (isSound_of_mem_foldRuns r hr) hcode
  · have hfold : foldCode code = code := foldCode_of_not_contains fun r hr hcode => h ⟨r, hr, hcode⟩
    rw [hfold, hfold]

/-- The code points that fold to one which folds to itself. -/
theorem mem_foldedTo_iff {target : Nat} (h : foldCode target = target) : code ∈ foldedTo target ↔ foldCode code = target := by
  rw [foldedTo, List.mem_cons, List.mem_filterMap]
  constructor
  · rintro (rfl | ⟨r, hr, hsource⟩)
    · exact h
    · simp only [Option.ite_none_right_eq_some, Option.some.injEq] at hsource
      obtain ⟨hcontains, rfl⟩ := hsource
      obtain ⟨hfirst, hpositive, -⟩ := isSound_of_mem_foldRuns r hr
      have := (contains_iff.mp hcontains).1
      rw [foldCode_of_contains hr hcontains, FoldRun.target]
      omega
  · intro hfold
    by_cases hcode : ∃ r ∈ foldRuns, r.contains code = true
    · obtain ⟨r, hr, hcontains⟩ := hcode
      obtain ⟨-, hpositive, -⟩ := isSound_of_mem_foldRuns r hr
      have := (contains_iff.mp hcontains).1
      have hsource : ((target : Int) - r.shift).toNat = code := by
        rw [← hfold, foldCode_of_contains hr hcontains, FoldRun.target]
        omega
      refine .inr ⟨r, hr, ?_⟩
      simp [hsource, hcontains]
    · rw [foldCode_of_not_contains fun r hr h => hcode ⟨r, hr, h⟩] at hfold
      exact .inl hfold

theorem isValidChar_of_areChars {low high : Nat} (h : AreChars low high) (hlow : low ≤ code) (hhigh : code ≤ high) :
    code.isValidChar := by
  unfold AreChars at h
  unfold Nat.isValidChar
  omega

theorem isValidChar_foldCode (c : Char) : (foldCode c.toNat).isValidChar := by
  by_cases h : ∃ r ∈ foldRuns, r.contains c.toNat = true
  · obtain ⟨r, hr, hcode⟩ := h
    obtain ⟨hfirst, hlast, -⟩ := contains_iff.mp hcode
    rw [foldCode_of_contains hr hcode]
    refine isValidChar_of_areChars (isSound_of_mem_foldRuns r hr).2.2.2 ?_ ?_ <;> unfold FoldRun.target <;> omega
  · rw [foldCode_of_not_contains fun r hr hcode => h ⟨r, hr, hcode⟩]
    exact c.valid

theorem isValidChar_of_mem_foldedTo (h : code ∈ foldedTo (foldCode d.toNat)) : code.isValidChar := by
  rw [foldedTo, List.mem_cons, List.mem_filterMap] at h
  rcases h with rfl | ⟨r, hr, hsource⟩
  · exact isValidChar_foldCode d
  · simp only [Option.ite_none_right_eq_some, Option.some.injEq] at hsource
    obtain ⟨hcontains, rfl⟩ := hsource
    obtain ⟨hfirst, hlast, -⟩ := contains_iff.mp hcontains
    exact isValidChar_of_areChars (isSound_of_mem_foldRuns r hr).2.2.1 hfirst hlast

/-- The variants of a character are the characters that fold to the same one. -/
theorem mem_caseVariants_iff : c ∈ caseVariants d ↔ foldCode c.toNat = foldCode d.toNat := by
  rw [← mem_foldedTo_iff (foldCode_foldCode _), caseVariants, List.mem_map]
  constructor
  · rintro ⟨code, hcode, rfl⟩
    have hvalid := isValidChar_of_mem_foldedTo hcode
    rwa [Char.ofNat, dif_pos hvalid, show (Char.ofNatAux code hvalid).toNat = code from rfl]
  · exact fun h => ⟨c.toNat, h, Char.ofNat_toNat c⟩

end ClusterQuery
