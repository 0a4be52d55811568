import ClusterQuery.Proofs.Number.Decimal
import ClusterQuery.Proofs.Text.Characters
import ClusterQuery.Proofs.Time.Date
import ClusterQuery.Proofs.Value.Scalar

/-! Names of objects as values. A name is typed like any other text, and is shown as what it was typed as: names of
    digits as numbers, names that look like dates as instants. This file tells which names are shown as themselves. -/

namespace ClusterQuery

/-! ### Names -/

def isLowerAlphanumeric (c : Char) : Bool := ('a' ≤ c && c ≤ 'z') || isDigit c

/-- A label of a name: lower-case letters, digits and hyphens, and no hyphen at either end. -/
structure IsLabel (cs : List Char) : Prop where
  ne_nil : cs ≠ []
  chars : ∀ c ∈ cs, isLowerAlphanumeric c = true ∨ c = '-'
  head : ∀ c ∈ cs.head?, isLowerAlphanumeric c = true
  last : ∀ c ∈ cs.getLast?, isLowerAlphanumeric c = true

instance (cs : List Char) : Decidable (IsLabel cs) :=
  decidable_of_iff (cs ≠ [] ∧ (∀ c ∈ cs, isLowerAlphanumeric c = true ∨ c = '-') ∧
      (∀ c ∈ cs.head?, isLowerAlphanumeric c = true) ∧ ∀ c ∈ cs.getLast?, isLowerAlphanumeric c = true)
    ⟨fun h => ⟨h.1, h.2.1, h.2.2.1, h.2.2.2⟩, fun h => ⟨h.ne_nil, h.chars, h.head, h.last⟩⟩

/-- The name of an object: labels with points between them. -/
def IsObjectName (cs : List Char) : Prop := ∀ label ∈ splitOn '.' cs, IsLabel label

instance (cs : List Char) : Decidable (IsObjectName cs) := inferInstanceAs (Decidable (∀ label ∈ splitOn '.' cs, IsLabel label))

/-- A decimal and the suffix for a thousand. -/
def IsQuantity (cs : List Char) : Prop := ∃ number, IsDecimal number ∧ cs = number ++ ['k']

/-- The names that are shown as another text, since they spell a number or a date that is written differently. -/
inductive LosesText (cs : List Char) : Prop
  | leadingZero (h : IsDigits cs) (hlt : digitsValue 0 cs < signedReach) (hhead : cs.head? = some '0') (hne : cs ≠ ['0'])
  | large (h : IsDigits cs) (hle : signedReach ≤ digitsValue 0 cs)
      (hne : (Binary64.ofDecimal false (digitsValue 0 cs) 0).render Value.floatStyle ≠ cs)
  | pointed {whole fraction : List Char} (hwhole : IsDigits whole) (hfraction : ∀ c ∈ fraction, isDigit c = true)
      (heq : cs = whole ++ '.' :: fraction)
      (hne : (Binary64.ofDecimal false (digitsValue 0 (whole ++ fraction)) (-(fraction.length : Int))).render
        Value.floatStyle ≠ cs)
  | scientific (h : IsScientific cs)
  | quantity (h : IsQuantity cs)
  | date (h : IsCalendarDate cs)

/-- The characters of names. -/
def isNameChar (c : Char) : Bool := isLowerAlphanumeric c || c == '-' || c == '.'

variable {cs : List Char} {c : Char}

theorem IsObjectName.chars (h : IsObjectName cs) : ∀ c ∈ cs, isNameChar c = true := by
  intro c hc
  unfold isNameChar
  by_cases hdot : c = '.'
  · rw [hdot]
    rfl
  · obtain ⟨label, hlabel, hmem⟩ := mem_splitOn_of_mem hc hdot
    rcases (h label hlabel).chars c hmem with hc | rfl
    · rw [hc]
      rfl
    · rfl

theorem IsObjectName.exists_head (h : IsObjectName cs) : ∃ c ∈ cs.head?, isLowerAlphanumeric c = true := by
  cases cs with
  | nil => exact ((h [] List.mem_cons_self).ne_nil rfl).elim
  | cons c cs =>
    refine ⟨c, rfl, ?_⟩
    unfold IsObjectName at h
    rw [splitOn] at h
    split at h
    · exact ((h [] List.mem_cons_self).ne_nil rfl).elim
    · split at h
      · exact (h [c] List.mem_cons_self).head c rfl
      · exact (h _ List.mem_cons_self).head c rfl

theorem IsObjectName.ne_nil (h : IsObjectName cs) : cs ≠ [] := by
  obtain ⟨c, hc, -⟩ := h.exists_head
  exact List.ne_nil_of_mem (List.mem_of_mem_head? hc)

theorem IsObjectName.not_mem (h : IsObjectName cs) {ds : List Char} (hds : (ds.all fun d => !isNameChar d) = true) :
    ∀ d ∈ ds, d ∉ cs := fun d hd hmem => not_mem_of_all (h.chars d hmem) hds hd

theorem isTitleChar_of_isLowerAlphanumeric (h : isLowerAlphanumeric c = true) : isTitleChar c = true := by
  rcases Bool.or_eq_true_iff.mp h with h | h
  · refine isTitleChar_of_isAsciiLetter ?_
    rw [isAsciiLetter, h, Bool.true_or]
  · exact isTitleChar_of_isDigit h

theorem IsObjectName.not_blank (h : IsObjectName cs) : ∀ c ∈ cs, isBlank c = false := by
  intro c hc
  rcases Bool.or_eq_true_iff.mp (h.chars c hc) with hchar | hchar
  · rcases Bool.or_eq_true_iff.mp hchar with hchar | hchar
    · exact isBlank_of_isTitleChar (isTitleChar_of_isLowerAlphanumeric hchar)
    · rw [beq_iff_eq.mp hchar]
      rfl
  · rw [beq_iff_eq.mp hchar]
    rfl

theorem IsObjectName.not_sign (h : IsObjectName cs) : ∀ c ∈ cs.head?, c ≠ '-' ∧ c ≠ '+' := by
  intro c hc
  obtain ⟨d, hd, hchar⟩ := h.exists_head
  obtain rfl := Option.mem_unique hc hd
  have hnot : c ∉ ['-', '+'] := not_mem_of_all hchar (by decide)
  simpa using hnot

theorem IsObjectName.letter_or_digit (h : IsObjectName cs) :
    (∃ c ∈ cs.head?, isAsciiLetter c = true) ∨ BeginsWithDigit cs := by
  obtain ⟨c, hc, hchar⟩ := h.exists_head
  rcases Bool.or_eq_true_iff.mp hchar with hchar | hchar
  · exact .inl ⟨c, hc, by rw [isAsciiLetter, hchar, Bool.true_or]⟩
  · exact .inr ⟨c, hc, hchar⟩

theorem not_beginsWithDigit_of_letter (h : ∃ c ∈ cs.head?, isAsciiLetter c = true) : ¬BeginsWithDigit cs := by
  rintro ⟨d, hd, hdigit⟩
  obtain ⟨c, hc, hletter⟩ := h
  obtain rfl := Option.mem_unique hc hd
  rw [isAsciiLetter_of_isDigit hdigit] at hletter
  cases hletter

/-! ### Names that lose their text -/

theorem IsQuantity.beginsWithDigit (h : IsQuantity cs) : BeginsWithDigit cs := by
  obtain ⟨number, hnumber, rfl⟩ := h
  exact hnumber.beginsWithDigit.append

theorem IsCalendarDate.beginsWithDigit (h : IsCalendarDate cs) : BeginsWithDigit cs := by
  obtain ⟨year, month, day, hyear, -, -, rfl, -⟩ := h
  exact hyear.1.beginsWithDigit.append

theorem LosesText.beginsWithDigit (h : LosesText cs) : BeginsWithDigit cs := by
  cases h with
  | leadingZero h => exact h.beginsWithDigit
  | large h => exact h.beginsWithDigit
  | pointed hwhole _ heq =>
    rw [heq]
    exact hwhole.beginsWithDigit.append
  | scientific h => exact h.beginsWithDigit
  | quantity h => exact h.beginsWithDigit
  | date h => exact h.beginsWithDigit

theorem not_losesText_of_letter (h : ∃ c ∈ cs.head?, isAsciiLetter c = true) : ¬LosesText cs := fun hlost =>
  not_beginsWithDigit_of_letter h hlost.beginsWithDigit

/-! ### How names are read -/

namespace Scalar

theorem readInt64?_eq_some_iff (hsign : ∀ c ∈ cs.head?, c ≠ '-' ∧ c ≠ '+') {i : Int64} :
    readInt64? cs = some i ↔ IsDigits cs ∧ digitsValue 0 cs < signedReach ∧ i.toInt = (digitsValue 0 cs : Nat) := by
  have hread : readInteger? cs = (readDigits? cs).map fun n : Nat => (n : Int) := by
    unfold readInteger?
    split
    · exact ((hsign '-' rfl).1 rfl).elim
    · exact ((hsign '+' rfl).2 rfl).elim
    · cases readDigits? cs <;> rfl
  unfold readInt64?
  rw [hread]
  constructor
  · intro h
    obtain ⟨n, hn, hi⟩ := Option.bind_eq_some_iff.mp h
    obtain ⟨m, hm, rfl⟩ := Option.map_eq_some_iff.mp hn
    obtain ⟨hdigits, rfl⟩ := readDigits?_eq_some_iff.mp hm
    have hrange := toInt64?_isSome_iff.mp (Option.isSome_of_eq_some hi)
    exact ⟨hdigits, by omega, toInt_of_toInt64? hi⟩
  · rintro ⟨hdigits, hlt, hi⟩
    rw [readDigits?_eq_some_iff.mpr ⟨hdigits, rfl⟩, Option.map_some, Option.bind_some, ← hi]
    exact toInt64?_toInt i

theorem looksNumeric_of_beginsWithDigit (hdigit : BeginsWithDigit cs)
    (hchars : ∀ c ∈ cs, isDigit c = true ∨ c ∈ ['.', '-', 'e']) : looksNumeric cs = true := by
  obtain ⟨c, hc, hdigit⟩ := hdigit
  obtain ⟨rest, rfl⟩ := List.head?_eq_some_iff.mp hc
  have hall : ∀ d ∈ c :: rest,
      ((isDigit d || d == '.' || d == '-' || d == '+') || d == 'e' || d == 'E') = true := by
    intro d hd
    rcases hchars d hd with h | h
    · rw [h]
      rfl
    · exact List.all_eq_true.mp (show ['.', '-', 'e'].all (fun d =>
        (isDigit d || d == '.' || d == '-' || d == '+') || d == 'e' || d == 'E') = true from rfl) d h
  unfold looksNumeric
  dsimp only
  rw [List.head?_cons, Option.any_some, hdigit, List.all_eq_true.mpr hall, List.any_cons, hdigit]
  rfl

theorem looksNumeric_of_isDecimal (h : IsDecimal cs) : looksNumeric cs = true := by
  refine looksNumeric_of_beginsWithDigit h.beginsWithDigit fun c hc => (h.chars c hc).imp_right ?_
  rintro rfl
  exact List.mem_cons_self

theorem looksNumeric_of_isScientific (h : IsScientific cs) : looksNumeric cs = true :=
  looksNumeric_of_beginsWithDigit h.beginsWithDigit h.chars

theorem readFloat?_eq_none_of_letter (h : ∃ c ∈ cs.head?, isAsciiLetter c = true) : readFloat? cs = none := by
  obtain ⟨c, hc, hletter⟩ := h
  have hdigit : isDigit c = false := Bool.eq_false_iff.mpr fun hdigit => by
    rw [isAsciiLetter_of_isDigit hdigit] at hletter
    cases hletter
  have hsign : c ∉ ['.', '-', '+'] := not_mem_of_all hletter (by decide)
  have hlooks : looksNumeric cs = false := by
    simp only [List.mem_cons, List.not_mem_nil, or_false, not_or] at hsign
    simp [looksNumeric, Option.mem_def.mp hc, hdigit, hsign]
  rw [readFloat?, hlooks]
  rfl

/-- The names that are read as numbers. -/
theorem readFloat?_isSome_iff (h : IsObjectName cs) : (readFloat? cs).isSome = true ↔ IsDecimal cs ∨ IsScientific cs := by
  have hnot := h.not_mem (show ['+', 'E'].all (fun d => !isNameChar d) = true from rfl)
  have hread (hdigit : BeginsWithDigit cs) : (Binary64.read? cs).isSome = true ↔ IsDecimal cs ∨ IsScientific cs :=
    Binary64.read?_isSome_iff hdigit (hnot '+' (by decide)) (hnot 'E' (by decide))
  constructor
  · intro hsome
    rcases h.letter_or_digit with hletter | hdigit
    · rw [readFloat?_eq_none_of_letter hletter] at hsome
      cases hsome
    · unfold readFloat? at hsome
      split at hsome
      · exact (hread hdigit).mp hsome
      · cases hsome
  · rintro (hdecimal | hscientific)
    · rw [readFloat?, if_pos (looksNumeric_of_isDecimal hdecimal)]
      exact (hread hdecimal.beginsWithDigit).mpr (.inl hdecimal)
    · rw [readFloat?, if_pos (looksNumeric_of_isScientific hscientific)]
      exact (hread hscientific.beginsWithDigit).mpr (.inr hscientific)

theorem suffixFactor?_of_name (h : ∀ c ∈ cs, isNameChar c = true) {factor : Nat} (hfactor : suffixFactor? cs = some factor) :
    cs = ['k'] := by
  have hupper : ∀ d ∈ ['K', 'M', 'G', 'T', 'P'], d ∉ cs := fun d hd hmem =>
    not_mem_of_all (h d hmem) (show ['K', 'M', 'G', 'T', 'P'].all (fun d => !isNameChar d) = true from rfl) hd
  unfold suffixFactor? at hfactor
  split at hfactor
  · rfl
  all_goals first
    | exact (hupper _ (by decide) List.mem_cons_self).elim
    | cases hfactor

theorem isAsciiLetter_of_isDecimal (h : IsDecimal cs) : ∀ c ∈ cs, isAsciiLetter c = false := by
  intro c hc
  rcases h.chars c hc with hdigit | rfl
  · exact isAsciiLetter_of_isDigit hdigit
  · rfl

theorem readFloat?_of_isDecimal (h : IsDecimal cs) :
    readFloat? cs = (Binary64.readPointed? cs).map fun (digits, places) => Binary64.ofDecimal false digits (-(places : Int)) := by
  rw [readFloat?, if_pos (looksNumeric_of_isDecimal h), Binary64.read?_of_isDecimal h]

/-- A number without letters has no exponent. -/
theorem isDecimal_of_readFloat? (hdigit : BeginsWithDigit cs) (hletters : ∀ c ∈ cs, isAsciiLetter c = false) (hplus : '+' ∉ cs)
    {x : Binary64} (h : readFloat? cs = some x) : IsDecimal cs := by
  have hnot {c : Char} (hc : isAsciiLetter c = true) : c ∉ cs := fun hmem => by
    rw [hletters c hmem] at hc
    cases hc
  unfold readFloat? at h
  split at h
  · rcases (Binary64.read?_isSome_iff hdigit hplus (hnot rfl)).mp (Option.isSome_of_eq_some h) with
      hshape | ⟨mantissa, exponent, -, rfl, -⟩
    · exact hshape
    · exact (hnot (c := 'e') rfl (List.mem_append_right _ List.mem_cons_self)).elim
  · cases h

/-- A name that is read as a quantity has the suffix `k`, since the others are in upper case. -/
theorem isQuantity_of_readQuantity? (h : IsObjectName cs) {v : Value} (hv : readQuantity? cs = some v) : IsQuantity cs := by
  obtain ⟨factor, hfactor, hvalue⟩ := Option.bind_eq_some_iff.mp hv
  have hcs := (List.takeWhile_append_dropWhile (p := fun c => !isAsciiLetter c) (l := cs)).symm
  have hletters : ∀ c ∈ cs.takeWhile (fun c => !isAsciiLetter c), isAsciiLetter c = false := fun c hc => by
    simpa using List.mem_takeWhile_imp hc
  -- No other suffix can be part of a name.
  have hsuffix : cs.dropWhile (fun c => !isAsciiLetter c) = ['k'] :=
    suffixFactor?_of_name (fun c hc => h.chars c (List.dropWhile_subset _ hc)) hfactor
  rw [hsuffix] at hcs
  generalize cs.takeWhile (fun c => !isAsciiLetter c) = number at hcs hvalue hletters
  subst hcs
  refine ⟨number, ?_, rfl⟩
  cases number with
  | nil => cases hv
  | cons c number =>
    have hdigit : BeginsWithDigit (c :: number) := by
      rcases h.letter_or_digit with ⟨d, hd, hletter⟩ | ⟨d, hd, hdigit⟩
      · cases hd
        rw [hletters c List.mem_cons_self] at hletter
        cases hletter
      · exact ⟨d, hd, hdigit⟩
    split at hvalue
    · next hint =>
      have hsign : ∀ d ∈ (c :: number).head?, d ≠ '-' ∧ d ≠ '+' := fun d hd => h.not_sign d hd
      obtain ⟨i, hi, -⟩ := Option.bind_eq_some_iff.mp hint
      exact ⟨_, ((readInt64?_eq_some_iff hsign).mp hi).1, .inl rfl⟩
    · obtain ⟨x, hx, -⟩ := Option.map_eq_some_iff.mp hvalue
      exact isDecimal_of_readFloat? hdigit hletters
        (fun hmem => nomatch h.chars '+' (List.mem_append_left _ hmem)) hx

theorem isSome_readQuantity? (h : IsQuantity cs) : (readQuantity? cs).isSome = true := by
  obtain ⟨number, hnumber, rfl⟩ := h
  have hplain : ∀ c ∈ number, (!isAsciiLetter c) = true := fun c hc => by rw [isAsciiLetter_of_isDecimal hnumber c hc]; rfl
  have htake : (number ++ ['k']).takeWhile (fun c => !isAsciiLetter c) = number := by
    rw [List.takeWhile_append_of_pos hplain]
    exact List.append_nil number
  have hdrop : (number ++ ['k']).dropWhile (fun c => !isAsciiLetter c) = ['k'] := by
    rw [List.dropWhile_append_of_pos hplain]
    rfl
  unfold readQuantity?
  rw [htake, hdrop]
  simp only [suffixFactor?, Option.bind_eq_bind, Option.bind_some]
  split
  · rfl
  · rw [Option.isSome_map, readFloat?_of_isDecimal hnumber, Option.isSome_map]
    exact Binary64.isSome_readPointed? hnumber

/-- The names that are read as dates. -/
theorem readDate?_isSome_iff_of_name (h : IsObjectName cs) : (readDate? cs).isSome = true ↔ IsCalendarDate cs := by
  have hnot := h.not_mem (show [':', '/'].all (fun d => !isNameChar d) = true from rfl)
  exact readDate?_isSome_iff h.not_blank (hnot ':' (by decide)) (hnot '/' (by decide)) h.not_sign

/-! ### How names are shown -/

variable {s : String}

theorem read_eq_int {i : Int64} (h : readInt64? s.toList = some i) : read s = .int i := by
  unfold read
  dsimp only
  rw [h]
  rfl

theorem read_eq_float {x : Binary64} (hint : readInt64? s.toList = none) (h : readFloat? s.toList = some x) :
    read s = .float x := by
  unfold read
  dsimp only
  rw [hint, h]
  rfl

theorem read_eq_date {d : Instant} (hint : readInt64? s.toList = none) (hfloat : readFloat? s.toList = none)
    (hbool : readBool? s.toList = none) (h : readDate? s.toList = some d) : read s = .date d := by
  unfold read
  dsimp only
  rw [hint, hfloat, hbool, h]
  rfl

theorem display_int {i : Int64} {n : Nat} (h : i.toInt = n) : (Value.int i).display = Nat.toDigits 10 n := by
  show decimalText i.toInt = _
  rw [h]
  rfl

/-- Numbers are shown without letters, but for those that no digits spell. -/
theorem isNumberChar_of_mem_display {v : Value} (hv : (∃ i, v = .int i) ∨ ∃ x, v = .float x) (hc : c ∈ v.display) :
    Binary64.isNumberChar c = true := by
  rcases hv with ⟨i, rfl⟩ | ⟨x, rfl⟩
  · have hdigits {n : Nat} (h : c ∈ Nat.toDigits 10 n) : Binary64.isNumberChar c = true :=
      Binary64.isNumberChar_of_isDigit (isDigit_of_mem_toDigits h)
    change c ∈ decimalText i.toInt at hc
    unfold decimalText at hc
    split at hc
    · exact hdigits hc
    · rcases List.mem_cons.mp hc with rfl | hc
      · rfl
      · exact hdigits hc
  · exact Binary64.isNumberChar_of_mem_render rfl rfl hc

theorem readInt64?_eq_none (h : IsObjectName cs) (hnot : ¬(IsDigits cs ∧ digitsValue 0 cs < signedReach)) :
    readInt64? cs = none :=
  Option.eq_none_iff_forall_ne_some.mpr fun _ hi =>
    hnot ⟨((readInt64?_eq_some_iff h.not_sign).mp hi).1, ((readInt64?_eq_some_iff h.not_sign).mp hi).2.1⟩

theorem le_of_readInt64?_eq_none (h : IsObjectName cs) (hdigits : IsDigits cs) (hnone : readInt64? cs = none) :
    signedReach ≤ digitsValue 0 cs := by
  by_contra hlt
  have hrange : (toInt64? (digitsValue 0 cs : Nat)).isSome = true := toInt64?_isSome_iff.mpr ⟨by omega, by omega⟩
  obtain ⟨i, hi⟩ := Option.isSome_iff_exists.mp hrange
  rw [(readInt64?_eq_some_iff h.not_sign).mpr ⟨hdigits, by omega, toInt_of_toInt64? hi⟩] at hnone
  cases hnone

theorem readBool?_eq_none (hdigit : BeginsWithDigit cs) : readBool? cs = none := by
  have hne {text : String} (htext : ¬BeginsWithDigit text.toList) : String.ofList cs ≠ text := fun he => by
    rw [← he, String.toList_ofList] at htext
    exact htext hdigit
  unfold readBool?
  split
  all_goals first
    | next he => exact (hne (by decide) he).elim
    | rfl

theorem exists_read_of_isDigits (h : IsObjectName s.toList) (hdigits : IsDigits s.toList)
    (hlt : digitsValue 0 s.toList < signedReach) : ∃ i, read s = .int i ∧ i.toInt = (digitsValue 0 s.toList : Nat) := by
  obtain ⟨i, hi⟩ := Option.isSome_iff_exists.mp
    (toInt64?_isSome_iff (i := (digitsValue 0 s.toList : Nat)).mpr ⟨by omega, by omega⟩)
  have hvalue := toInt_of_toInt64? hi
  exact ⟨i, read_eq_int ((readInt64?_eq_some_iff h.not_sign).mpr ⟨hdigits, hlt, hvalue⟩), hvalue⟩

/-- Digits from `2 ^ 63` on are read as the number nearest to their value. -/
theorem read_of_large (h : IsObjectName s.toList) (hdigits : IsDigits s.toList)
    (hle : signedReach ≤ digitsValue 0 s.toList) :
    read s = .float (Binary64.ofDecimal false (digitsValue 0 s.toList) 0) := by
  refine read_eq_float (readInt64?_eq_none h fun hint => absurd hint.2 (by omega)) ?_
  rw [readFloat?_of_isDecimal ⟨_, hdigits, .inl rfl⟩, Binary64.readPointed?_of_isDigits hdigits]
  rfl

theorem read_of_pointed (h : IsObjectName s.toList) {whole fraction : List Char} (hwhole : IsDigits whole)
    (hfraction : ∀ c ∈ fraction, isDigit c = true) (heq : s.toList = whole ++ '.' :: fraction) :
    read s = .float (Binary64.ofDecimal false (digitsValue 0 (whole ++ fraction)) (-(fraction.length : Int))) := by
  have hpoint : '.' ∈ s.toList := by
    rw [heq]
    exact List.mem_append_right _ List.mem_cons_self
  refine read_eq_float (readInt64?_eq_none h fun hint => nomatch hint.1.2 '.' hpoint) ?_
  rw [readFloat?_of_isDecimal ⟨_, hwhole, .inr ⟨_, hfraction, heq⟩⟩, heq, Binary64.readPointed?_of_point hwhole hfraction]
  rfl

/-- A number is shown without the mark of an exponent. -/
theorem display_ne_of_isScientific (h : IsObjectName s.toList) (hshape : IsScientific s.toList) :
    (read s).display ≠ s.toList := by
  have hmark := hshape.mem_mark
  obtain ⟨x, hx⟩ := Option.isSome_iff_exists.mp ((readFloat?_isSome_iff h).mpr (.inr hshape))
  rw [read_eq_float (readInt64?_eq_none h fun hint => nomatch hint.1.2 'e' hmark) hx]
  intro htext
  cases isNumberChar_of_mem_display (.inr ⟨x, rfl⟩) (htext ▸ hmark)

/-- A quantity is shown without its suffix. -/
theorem display_ne_of_isQuantity (h : IsObjectName s.toList) (hshape : IsQuantity s.toList) :
    (read s).display ≠ s.toList := by
  have hsuffix : 'k' ∈ s.toList := by
    obtain ⟨number, -, heq⟩ := hshape
    rw [heq]
    exact List.mem_append_right _ List.mem_cons_self
  have number {v : Value} (hv : (∃ i, v = .int i) ∨ ∃ x, v = .float x) : v.display ≠ s.toList := fun htext => by
    cases isNumberChar_of_mem_display hv (htext ▸ hsuffix : 'k' ∈ v.display)
  have htyped := typedAs_read s
  generalize read s = v at htyped ⊢
  cases htyped with
  | int _ => exact number (.inl ⟨_, rfl⟩)
  | float _ _ => exact number (.inr ⟨_, rfl⟩)
  | bool _ _ hread => exact nomatch hread.symm.trans (readBool?_eq_none hshape.beginsWithDigit)
  | date _ _ _ hread =>
    have hdate := (readDate?_isSome_iff_of_name h).mp (Option.isSome_of_eq_some hread)
    rcases hdate.chars.2 'k' hsuffix with hchar | hchar <;> cases hchar
  | quantity _ _ _ _ hread => exact number (number_of_readQuantity? hread)
  | text _ _ _ _ hnone =>
    have hsome := isSome_readQuantity? hshape
    rw [hnone] at hsome
    cases hsome

/-- A date is shown with its time. -/
theorem display_ne_of_isCalendarDate (h : IsObjectName s.toList) (hshape : IsCalendarDate s.toList) :
    (read s).display ≠ s.toList := by
  have hsome := (readDate?_isSome_iff_of_name h).mpr hshape
  obtain ⟨hhyphen, hchars⟩ := hshape.chars
  have htyped := typedAs_read s
  generalize read s = v at htyped ⊢
  cases htyped with
  | int hread => exact nomatch ((readInt64?_eq_some_iff h.not_sign).mp hread).1.2 '-' hhyphen
  | float _ hread =>
    rcases (readFloat?_isSome_iff h).mp (Option.isSome_of_eq_some hread) with hdecimal | hscientific
    · rcases hdecimal.chars '-' hhyphen with hchar | hchar <;> cases hchar
    · rcases hchars 'e' hscientific.mem_mark with hchar | hchar <;> cases hchar
  | bool _ _ hread => exact nomatch hread.symm.trans (readBool?_eq_none hshape.beginsWithDigit)
  | @date d _ _ _ _ =>
    have hupper : 'T' ∉ s.toList := h.not_mem (show ['T'].all (fun d => !isNameChar d) = true from rfl) 'T' List.mem_cons_self
    exact fun htext => hupper (htext ▸ d.mem_render)
  | quantity _ _ _ hnone _ =>
    rw [hnone] at hsome
    cases hsome
  | text _ _ _ hnone _ =>
    rw [hnone] at hsome
    cases hsome

/-- A name that spells a number or a date otherwise than it is written is not shown as itself. -/
theorem display_ne_of_losesText (h : IsObjectName s.toList) (hlost : LosesText s.toList) : (read s).display ≠ s.toList := by
  cases hlost with
  | leadingZero hdigits hlt hhead hne =>
    obtain ⟨i, hread, hi⟩ := exists_read_of_isDigits h hdigits hlt
    rw [hread, display_int hi]
    exact fun htext => hne ((toDigits_digitsValue_iff hdigits).mp htext hhead)
  | large hdigits hle hne =>
    rw [read_of_large h hdigits hle]
    exact hne
  | pointed hwhole hfraction heq hne =>
    rw [read_of_pointed h hwhole hfraction heq]
    exact hne
  | scientific hshape => exact display_ne_of_isScientific h hshape
  | quantity hshape => exact display_ne_of_isQuantity h hshape
  | date hshape => exact display_ne_of_isCalendarDate h hshape

/-- The booleans in lower case are shown as they are written. -/
theorem display_of_readBool? {b : Bool} (h : IsObjectName s.toList) (hread : readBool? s.toList = some b) :
    (Value.bool b).display = s.toList := by
  have hupper := h.not_mem (show ['T', 'F'].all (fun d => !isNameChar d) = true from rfl)
  have hne {text : String} {d : Char} (hd : d ∈ ['T', 'F']) (htext : d ∈ text.toList) : s ≠ text := by
    rintro rfl
    exact hupper d hd htext
  unfold readBool? at hread
  rw [String.ofList_toList] at hread
  split at hread
  · cases hread
    rfl
  · exact (hne (d := 'T') (by decide) (by decide) rfl).elim
  · exact (hne (d := 'T') (by decide) (by decide) rfl).elim
  · cases hread
    rfl
  · exact (hne (d := 'F') (by decide) (by decide) rfl).elim
  · exact (hne (d := 'F') (by decide) (by decide) rfl).elim
  · cases hread

/-- A number with a fraction, or too large for a whole number, is shown as its name unless that loses its text. -/
theorem display_of_isDecimal (h : IsObjectName s.toList) (hkept : ¬LosesText s.toList) (hdecimal : IsDecimal s.toList)
    (hint : readInt64? s.toList = none) : (read s).display = s.toList := by
  by_contra hne
  obtain ⟨whole, hwhole, heq | ⟨fraction, hfraction, heq⟩⟩ := hdecimal
  · rw [← heq] at hwhole
    have hle := le_of_readInt64?_eq_none h hwhole hint
    rw [read_of_large h hwhole hle] at hne
    exact hkept (.large hwhole hle hne)
  · rw [read_of_pointed h hwhole hfraction heq] at hne
    exact hkept (.pointed hwhole hfraction heq hne)

/-- Any other name is shown as itself. -/
theorem display_eq_of_not_losesText (h : IsObjectName s.toList) (hkept : ¬LosesText s.toList) :
    (read s).display = s.toList := by
  have htyped := typedAs_read s
  generalize hvalue : read s = v at htyped ⊢
  cases htyped with
  | int hread =>
    obtain ⟨hdigits, hlt, hi⟩ := (readInt64?_eq_some_iff h.not_sign).mp hread
    rw [display_int hi]
    refine (toDigits_digitsValue_iff hdigits).mpr fun hhead => ?_
    by_contra hne
    exact hkept (.leadingZero hdigits hlt hhead hne)
  | float hint hread =>
    rcases (readFloat?_isSome_iff h).mp (Option.isSome_of_eq_some hread) with hdecimal | hscientific
    · rw [← hvalue]
      exact display_of_isDecimal h hkept hdecimal hint
    · exact (hkept (.scientific hscientific)).elim
  | bool _ _ hread => exact display_of_readBool? h hread
  | date _ _ _ hread =>
    exact (hkept (.date ((readDate?_isSome_iff_of_name h).mp (Option.isSome_of_eq_some hread)))).elim
  | quantity _ _ _ _ hread =>
    exact (hkept (.quantity (isQuantity_of_readQuantity? h hread))).elim
  | text _ _ _ _ _ => rfl

/-- A name is shown as itself if and only if it does not lose its text. -/
theorem display_eq_iff (h : IsObjectName s.toList) : (read s).display = s.toList ↔ ¬LosesText s.toList :=
  ⟨fun htext hlost => display_ne_of_losesText h hlost htext, display_eq_of_not_losesText h⟩

end Scalar

end ClusterQuery
