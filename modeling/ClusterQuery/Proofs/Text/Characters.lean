import ClusterQuery.Proofs.Text.Nesting
import ClusterQuery.Proofs.Text.Trim
import ClusterQuery.Text.Ascii

/-! What classes of characters have to do with each other: neither blanks nor the characters of titles are
    quotes or brackets, and no character of a title is a blank. -/

namespace ClusterQuery

/-- The characters of titles and of the names before calls. -/
def isTitleChar (c : Char) : Bool := isAsciiAlphanumeric c || c == '_'

variable {c : Char}

theorem isPlain_of_isBlank (h : isBlank c = true) :
    Brackets.ofWords.isPlain c = true ∧ Brackets.ofLists.isPlain c = true :=
  Brackets.isPlain_of_not_mem_marks (not_mem_of_all h (by decide))

theorem isPlain_of_isTitleChar (h : isTitleChar c = true) :
    Brackets.ofWords.isPlain c = true ∧ Brackets.ofLists.isPlain c = true :=
  Brackets.isPlain_of_not_mem_marks (not_mem_of_all h (by decide))

theorem toNat_of_isAsciiAlphanumeric (h : isAsciiAlphanumeric c = true) :
    (48 ≤ c.toNat ∧ c.toNat ≤ 57) ∨ (65 ≤ c.toNat ∧ c.toNat ≤ 90) ∨ (97 ≤ c.toNat ∧ c.toNat ≤ 122) := by
  simp only [isAsciiAlphanumeric, isAsciiLetter, isDigit, Bool.or_eq_true, Bool.and_eq_true, decide_eq_true_eq,
    Char.le_def, UInt32.le_iff_toNat_le] at h
  rcases h with (h | h) | h
  · exact .inr (.inr h)
  · exact .inr (.inl h)
  · exact .inl h

theorem isBlank_of_isTitleChar (h : isTitleChar c = true) : isBlank c = false := by
  refine Bool.eq_false_iff.mpr fun hb => ?_
  simp only [isBlank, Bool.or_eq_true, Bool.and_eq_true, decide_eq_true_eq, beq_iff_eq] at hb
  rcases Bool.or_eq_true_iff.mp h with h | h
  · have := toNat_of_isAsciiAlphanumeric h
    omega
  · obtain rfl := beq_iff_eq.mp h
    simp at hb

theorem isTitleChar_of_isAsciiLetter (h : isAsciiLetter c = true) : isTitleChar c = true := by
  rw [isTitleChar, isAsciiAlphanumeric, h]
  rfl

theorem isAsciiLetter_of_lowerAscii (h : isAsciiLetter (lowerAscii c) = true) : isAsciiLetter c = true := by
  unfold lowerAscii at h
  split at h
  · next hc =>
    have hupper : (decide ('A' ≤ c) && decide (c ≤ 'Z')) = true := by simpa using hc
    rw [isAsciiLetter, hupper, Bool.or_true]
  · exact h

/-- A text that spells a word of letters, in any case, consists of letters. -/
theorem isAsciiLetter_of_sameIgnoringCase {w keyword : List Char} (h : sameIgnoringCase w keyword = true)
    (hletters : ((lowerText keyword).all isAsciiLetter) = true) : ∀ c ∈ w, isAsciiLetter c = true := by
  intro c hc
  have hlower : lowerAscii c ∈ lowerText keyword := by
    rw [← beq_iff_eq.mp h]
    exact List.mem_map_of_mem hc
  exact isAsciiLetter_of_lowerAscii (List.all_eq_true.mp hletters _ hlower)

theorem isTitleChar_of_isDigit (h : isDigit c = true) : isTitleChar c = true := by
  rw [isTitleChar, isAsciiAlphanumeric, h, Bool.or_true, Bool.true_or]

theorem isBlank_of_isDigit (h : isDigit c = true) : isBlank c = false := isBlank_of_isTitleChar (isTitleChar_of_isDigit h)

theorem isAsciiLetter_of_isDigit (h : isDigit c = true) : isAsciiLetter c = false := by
  refine Bool.eq_false_iff.mpr fun hletter => ?_
  simp only [isDigit, isAsciiLetter, Bool.and_eq_true, Bool.or_eq_true, decide_eq_true_eq, Char.le_def,
    UInt32.le_iff_toNat_le] at h hletter
  have h0 : 'A'.val.toNat = 65 ∧ 'a'.val.toNat = 97 ∧ '9'.val.toNat = 57 := ⟨rfl, rfl, rfl⟩
  omega

end ClusterQuery
