import ClusterQuery.Proofs.Value.Display

/-! Quantities: whole numbers with a suffix that multiplies them. Such a text is neither a number, a boolean nor a date, is
    parted before its first letter, and is typed as the exact product, or as the rounded one if the exact one is out of
    range. Predicates therefore order quantities by their size, whatever their suffixes and signs. -/

namespace ClusterQuery

variable {n : Int} {cs ds : List Char} {c : Char}

/-- The texts of a whole number: digits, with zeros before them or not, after a sign or none. -/
inductive Spells : Int → List Char → Prop
  | plain {ds : List Char} (h : IsDigits ds) : Spells (digitsValue 0 ds) ds
  | plus {ds : List Char} (h : IsDigits ds) : Spells (digitsValue 0 ds) ('+' :: ds)
  | minus {ds : List Char} (h : IsDigits ds) : Spells (-(digitsValue 0 ds : Int)) ('-' :: ds)

/-- The suffixes and what they stand for: powers of 1000, and of 1024 with an `i`. -/
def suffixes : List (List Char × Nat) :=
  [([], 1), (['k'], 1000), (['K'], 1000), (['M'], 1000 ^ 2), (['G'], 1000 ^ 3), (['T'], 1000 ^ 4), (['P'], 1000 ^ 5),
    (['K', 'i'], 1024), (['M', 'i'], 1024 ^ 2), (['G', 'i'], 1024 ^ 3), (['T', 'i'], 1024 ^ 4), (['P', 'i'], 1024 ^ 5)]

/-- A whole number as it is written, with a suffix or the empty one. -/
structure Quantity where
  number : Int
  numeral : List Char
  suffix : List Char
  factor : Nat
  spells : Spells number numeral
  known : (suffix, factor) ∈ suffixes

/-- Numbers in one place are the same, unless they are zeros. -/
theorem Binary64.eq_of_place {x y : Binary64} (h : x.place = y.place) (hzero : ¬y.isZero = true) : x = y := by
  obtain ⟨sx, mx, hx⟩ := x
  obtain ⟨sy, my, hy⟩ := y
  have hpos : my ≠ 0 := fun h => hzero (beq_iff_eq.mpr h)
  unfold place at h
  dsimp only at h
  obtain ⟨rfl, rfl⟩ : sx = sy ∧ mx = my := by
    cases sx <;> cases sy <;> simp only [if_true, if_false, Bool.false_eq_true] at h <;> simp <;> omega
  rfl

/-! ### Numerals -/

namespace Spells

theorem readInteger? (h : Spells n cs) : readInteger? cs = some n := by
  have hread {ds : List Char} (hds : IsDigits ds) : readDigits? ds = some (digitsValue 0 ds) :=
    readDigits?_eq_some_iff.mpr ⟨hds, rfl⟩
  unfold ClusterQuery.readInteger?
  cases h with
  | plain hds =>
    obtain ⟨c, hc, hdigit⟩ := hds.beginsWithDigit
    split
    · cases hc
      cases hdigit
    · cases hc
      cases hdigit
    · rw [hread hds]
      rfl
  | plus hds =>
    simp only [hread hds]
    rfl
  | minus hds =>
    simp only [hread hds]
    rfl

theorem readInt64? (h : Spells n cs) : readInt64? cs = toInt64? n := by
  rw [ClusterQuery.readInt64?, h.readInteger?, Option.bind_some]

theorem chars (h : Spells n cs) : ∀ c ∈ cs, isDigit c = true ∨ c ∈ ['-', '+'] := chars_of_readInteger? h.readInteger?

theorem forall_chars (h : Spells n cs) {p : Char → Prop} (hdigit : ∀ c, isDigit c = true → p c) (hminus : p '-')
    (hplus : p '+') : ∀ c ∈ cs, p c := by
  intro c hc
  rcases h.chars c hc with hc | hc
  · exact hdigit c hc
  · simp only [List.mem_cons, List.not_mem_nil, or_false] at hc
    rcases hc with rfl | rfl
    · exact hminus
    · exact hplus

theorem exists_digit (h : Spells n cs) : ∃ c ∈ cs, isDigit c = true := by
  have hfirst {ds : List Char} (hds : IsDigits ds) : ∃ c ∈ ds, isDigit c = true :=
    (List.exists_mem_of_ne_nil ds hds.1).imp fun c hc => ⟨hc, hds.2 c hc⟩
  cases h with
  | plain hds => exact hfirst hds
  | plus hds => exact (hfirst hds).imp fun _ hc => ⟨List.mem_cons_of_mem _ hc.1, hc.2⟩
  | minus hds => exact (hfirst hds).imp fun _ hc => ⟨List.mem_cons_of_mem _ hc.1, hc.2⟩

theorem looksNumeric (h : Spells n cs) : Scalar.looksNumeric cs = true := by
  have hstarts := h.forall_chars (p := fun c => (isDigit c || c == '.' || c == '-' || c == '+') = true)
    (fun c hc => by rw [hc]; rfl) rfl rfl
  obtain ⟨c, hc, hdigit⟩ := h.exists_digit
  unfold Scalar.looksNumeric
  rw [Bool.and_eq_true, Bool.and_eq_true, List.all_eq_true, List.any_eq_true, Option.any_eq_true]
  refine ⟨⟨?_, fun d hd => ?_⟩, c, hc, hdigit⟩
  · cases cs with
    | nil => cases hc
    | cons d ds => exact ⟨d, rfl, hstarts d List.mem_cons_self⟩
  · dsimp only
    rw [hstarts d hd]
    rfl

theorem readFloat? (h : Spells n cs) (hn : Fits n) (hne : n ≠ 0) : Scalar.readFloat? cs = some (.ofInt n) := by
  obtain ⟨i, rfl⟩ := exists_toInt_eq hn
  obtain ⟨y, hy, hplace⟩ := Binary64.exists_read?_of_readInt64? (h.readInt64?.trans (toInt64?_toInt i))
  rw [Scalar.readFloat?, if_pos h.looksNumeric, hy, Binary64.eq_of_place hplace fun hzero => hne (Binary64.isZero_ofInt hzero)]

end Spells

/-! ### Suffixes -/

/-- Letters that no number is written with, and the factor that they stand for. -/
structure IsSuffix (suffix : List Char) (factor : Nat) : Prop where
  factor : Scalar.suffixFactor? suffix = some factor
  ne_nil : suffix ≠ []
  chars : ∀ c ∈ suffix, isAsciiLetter c = true ∧ c ∉ ['e', 'E']

theorem suffix_cases {suffix : List Char} {factor : Nat} (h : (suffix, factor) ∈ suffixes) :
    suffix = [] ∧ factor = 1 ∨ IsSuffix suffix factor := by
  have hall : ∀ p ∈ suffixes, p.1 = [] ∧ p.2 = 1 ∨ Scalar.suffixFactor? p.1 = some p.2 ∧ p.1 ≠ [] ∧
      ∀ c ∈ p.1, isAsciiLetter c = true ∧ c ∉ ['e', 'E'] := by
    decide
  exact (hall _ h).imp_right fun ⟨hfactor, hne, hchars⟩ => ⟨hfactor, hne, hchars⟩

theorem one_le_of_mem_suffixes {suffix : List Char} {factor : Nat} (h : (suffix, factor) ∈ suffixes) : 1 ≤ factor := by
  have hall : ∀ p ∈ suffixes, 1 ≤ p.2 := by decide
  exact hall _ h

section Suffixed
variable {numeral suffix : List Char} {factor : Nat}

/-- No text with a letter of a suffix in it is a number. -/
theorem not_number (hsuffix : IsSuffix suffix factor) :
    readInt64? (numeral ++ suffix) = none ∧ Scalar.readFloat? (numeral ++ suffix) = none := by
  obtain ⟨c, hc⟩ := List.exists_mem_of_ne_nil _ hsuffix.ne_nil
  have hmem : c ∈ numeral ++ suffix := List.mem_append_right _ hc
  obtain ⟨hletter, hmark⟩ := hsuffix.chars c hc
  have hnot {marks : List Char} (hmarks : ∀ d ∈ marks, isAsciiLetter d = true → d ∈ ['e', 'E']) :
      ¬(isDigit c = true ∨ c ∈ marks) := by
    rintro (hdigit | hd)
    · rw [isAsciiLetter_of_isDigit hdigit] at hletter
      cases hletter
    · exact hmark (hmarks c hd hletter)
  constructor
  · refine Option.eq_none_iff_forall_ne_some.mpr fun i hi => ?_
    obtain ⟨j, hj, -⟩ := Option.bind_eq_some_iff.mp hi
    exact hnot (by decide) (chars_of_readInteger? hj c hmem)
  · refine if_neg fun hlooks => ?_
    exact hnot (by decide) (Scalar.mem_of_looksNumeric hlooks c hmem)

theorem Scalar.isDigit_of_readBool? {b : Bool} (h : readBool? cs = some b) : ∀ c ∈ cs, isDigit c = false := by
  unfold readBool? at h
  split at h <;> first
    | next he =>
      rw [← String.toList_ofList (l := cs), he]
      decide
    | cases h

theorem not_bool (hnumeral : Spells n numeral) : Scalar.readBool? (numeral ++ suffix) = none := by
  obtain ⟨c, hc, hdigit⟩ := hnumeral.exists_digit
  refine Option.eq_none_iff_forall_ne_some.mpr fun b hb => ?_
  rw [Scalar.isDigit_of_readBool? hb c (List.mem_append_left _ hc)] at hdigit
  cases hdigit

/-- A suffix ends a text without a digit, as no date without a time does. -/
theorem not_date (hnumeral : Spells n numeral) (hsuffix : IsSuffix suffix factor) : readDate? (numeral ++ suffix) = none := by
  have hchars {p : Char → Prop} (hdigit : ∀ c, isTitleChar c = true → p c) (hminus : p '-') (hplus : p '+') :
      ∀ c ∈ numeral ++ suffix, p c := by
    refine List.forall_mem_append.mpr ⟨hnumeral.forall_chars (fun c hc => hdigit c (isTitleChar_of_isDigit hc)) hminus hplus,
      fun c hc => hdigit c (isTitleChar_of_isAsciiLetter (hsuffix.chars c hc).1)⟩
  have hblank := hchars (p := fun c => isBlank c = false) (fun c => isBlank_of_isTitleChar) rfl rfl
  have hnot : ∀ c ∈ numeral ++ suffix, c ≠ ':' ∧ c ≠ '/' := by
    refine hchars ?_ (by decide) (by decide)
    rintro c hc
    constructor <;> rintro rfl <;> cases hc
  have hlast : ¬DateReader.EndsWithDigit (numeral ++ suffix) := by
    rintro ⟨c, hc, hdigit⟩
    rw [List.getLast?_append_of_ne_nil _ hsuffix.ne_nil] at hc
    have hletter := (hsuffix.chars c (List.mem_of_mem_getLast? hc)).1
    rw [isAsciiLetter_of_isDigit hdigit] at hletter
    cases hletter
  rw [DateReader.readDate?_eq_readIn? hblank (fun h => (hnot _ h).1 rfl) (fun h => (hnot _ h).2 rfl)]
  have hday : DateReader.Field.day ∈ DateReader.endFields := by simp [DateReader.endFields]
  exact DateReader.readIn?_eq_none_of_last rfl hday hlast 0

theorem readQuantity?_eq (hnumeral : Spells n numeral) (hsuffix : IsSuffix suffix factor) :
    Scalar.readQuantity? (numeral ++ suffix) =
      match (toInt64? n).bind (checkedScale · factor) with
      | some i => some (.int i)
      | none => (Scalar.readFloat? numeral).map fun x => .float (x.mul (Binary64.ofNat factor)) := by
  have hplain : ∀ c ∈ numeral, (!isAsciiLetter c) = true :=
    hnumeral.forall_chars (fun c hc => by rw [isAsciiLetter_of_isDigit hc]; rfl) rfl rfl
  obtain ⟨d, rest, rfl⟩ := List.exists_cons_of_ne_nil hsuffix.ne_nil
  have hd : ¬(!isAsciiLetter d) = true := by
    rw [(hsuffix.chars d List.mem_cons_self).1]
    exact Bool.false_ne_true
  have htake : (numeral ++ d :: rest).takeWhile (fun c => !isAsciiLetter c) = numeral := by
    rw [List.takeWhile_append_of_pos hplain, List.takeWhile_cons_of_neg (p := fun c => !isAsciiLetter c) hd, List.append_nil]
  have hdrop : (numeral ++ d :: rest).dropWhile (fun c => !isAsciiLetter c) = d :: rest := by
    rw [List.dropWhile_append_of_pos hplain, List.dropWhile_cons_of_neg (p := fun c => !isAsciiLetter c) hd]
  unfold Scalar.readQuantity?
  rw [htake, hdrop, hsuffix.factor]
  dsimp only
  rw [hnumeral.readInt64?]
  rfl

/-- What follows the readers of other values is the reader of quantities. -/
theorem read_eq_quantity (hnumeral : Spells n numeral) (hsuffix : IsSuffix suffix factor) {v : Value}
    (h : Scalar.readQuantity? (numeral ++ suffix) = some v) : Scalar.read (String.ofList (numeral ++ suffix)) = v := by
  obtain ⟨hint, hfloat⟩ : readInt64? (numeral ++ suffix) = none ∧ _ := not_number hsuffix
  unfold Scalar.read
  dsimp only
  rw [String.toList_ofList, hint, hfloat, not_bool hnumeral, not_date hnumeral hsuffix, h]
  rfl

end Suffixed

/-! ### Quantities -/

namespace Quantity

variable {q r : Quantity} {i j : Int64}

def text (q : Quantity) : String := String.ofList (q.numeral ++ q.suffix)

/-- What a quantity stands for. -/
def amount (q : Quantity) : Int := q.number * q.factor

theorem fits_number (h : Fits q.amount) : Fits q.number := by
  have hone : (1 : Int) ≤ q.factor := by exact_mod_cast one_le_of_mem_suffixes q.known
  unfold Fits amount at *
  constructor
  · by_cases hneg : q.number < 0
    · nlinarith
    · omega
  · by_cases hneg : q.number < 0
    · omega
    · nlinarith

/-- A quantity in range is read as what it stands for. -/
theorem read_text (hi : i.toInt = q.amount) : Scalar.read q.text = .int i := by
  obtain ⟨j, hj⟩ := exists_toInt_eq (fits_number (hi ▸ fits_toInt i))
  rcases suffix_cases q.known with ⟨hsuffix, hfactor⟩ | hsuffix
  · have hread : readInt64? q.text.toList = some i := by
      rw [text, String.toList_ofList, hsuffix, List.append_nil, q.spells.readInt64?, toInt64?_eq_some_iff, hi, amount,
        hfactor, Int.natCast_one, Int.mul_one]
    exact Scalar.read_eq_int hread
  · refine read_eq_quantity q.spells hsuffix ?_
    have hscaled : checkedScale j q.factor = some i := toInt64?_eq_some_iff.mpr (by rw [hi, amount, hj])
    rw [readQuantity?_eq q.spells hsuffix, toInt64?_eq_some_iff.mpr hj, Option.bind_some, hscaled]

/-- A quantity that is out of range, though its number is not, is read as the rounded product. -/
theorem read_text_of_large (hn : Fits q.number) (h : ¬Fits q.amount) :
    Scalar.read q.text = .float ((Binary64.ofInt q.number).mul (Binary64.ofNat q.factor)) := by
  have hne : q.number ≠ 0 := by
    intro hzero
    rw [amount, hzero, Int.zero_mul] at h
    exact h (by decide)
  rcases suffix_cases q.known with ⟨-, hfactor⟩ | hsuffix
  · rw [amount, hfactor, Int.natCast_one, Int.mul_one] at h
    exact absurd hn h
  · obtain ⟨i, hi⟩ := exists_toInt_eq hn
    have hscaled : checkedScale i q.factor = none := toInt64?_eq_none_iff.mpr (by rwa [hi])
    refine read_eq_quantity q.spells hsuffix ?_
    rw [readQuantity?_eq q.spells hsuffix, toInt64?_eq_some_iff.mpr hi, Option.bind_some, hscaled, q.spells.readFloat? hn hne]
    rfl

/-- Quantities are read exactly and ordered by size. The text of one that is in range is typed as the whole number that it
    stands for; one whose number is in range but whose product is not is typed as the rounded product. Of two quantities
    in range, the texts, and a text and the whole number of the other, are ordered as what they stand for. -/
theorem read_exactly :
    (∀ q : Quantity, Fits q.amount → ∃ i : Int64, i.toInt = q.amount ∧ Scalar.read q.text = .int i) ∧
    (∀ q : Quantity, Fits q.number → ¬Fits q.amount →
      Scalar.read q.text = .float ((Binary64.ofInt q.number).mul (Binary64.ofNat q.factor))) ∧
    ∀ (q r : Quantity) (i j : Int64), i.toInt = q.amount → j.toInt = r.amount →
      Value.compare? (.text q.text) (.text r.text) = some (compare q.amount r.amount) ∧
      Value.compare? (.text q.text) (.int j) = some (compare q.amount r.amount) ∧
      Value.compare? (.int i) (.text r.text) = some (compare q.amount r.amount) := by
  refine ⟨fun q hfits => ?_, fun q => read_text_of_large, fun q r i j hi hj => ?_⟩
  · obtain ⟨i, hi⟩ := exists_toInt_eq hfits
    exact ⟨i, hi, read_text hi⟩
  · have hq : (Value.text q.text).typed = .int i := read_text hi
    have hr : (Value.text r.text).typed = .int j := read_text hj
    rw [← hi, ← hj]
    exact ⟨Value.compare?_of_whole hq hr, Value.compare?_of_whole hq rfl, Value.compare?_of_whole rfl hr⟩

/-- A negative quantity, a positive one with its sign written out, and one that is out of range. -/
theorem read_exactly_of_five :
    let five : Quantity := ⟨5, ['+', '0', '5'], ['k'], 1000, .plus (show IsDigits ['0', '5'] by decide), by decide⟩
    let minusFive : Quantity := ⟨-5, ['-', '5'], ['K', 'i'], 1024, .minus (show IsDigits ['5'] by decide), by decide⟩
    let large : Quantity := ⟨-922337203685477581, "-922337203685477581".toList, ['M', 'i'], 1024 ^ 2,
      .minus (show IsDigits "922337203685477581".toList by decide), by decide⟩
    five.text = "+05k" ∧ minusFive.text = "-5Ki" ∧ (∃ i : Int64, i.toInt = 5000 ∧ Scalar.read "+05k" = .int i) ∧
      Value.compare? (.text "-5Ki") (.text "+05k") = some .lt ∧ Value.compare? (.text "-5Ki") (.int 5000) = some .lt ∧
      Value.compare? (.int (-5120)) (.text "+05k") = some .lt ∧ Fits large.number ∧ ¬Fits large.amount ∧
      ∃ x, Scalar.read large.text = .float x := by
  intro five minusFive large
  obtain ⟨hread, hlarge, hcompare⟩ := read_exactly
  obtain ⟨htexts, hvalue, hvalue'⟩ := hcompare minusFive five (-5120) 5000 rfl rfl
  have hfits : Fits large.number := by decide
  have hnot : ¬Fits large.amount := by decide
  exact ⟨rfl, rfl, hread five (by decide), htexts, hvalue, hvalue', hfits, hnot, _, hlarge large hfits hnot⟩

end Quantity

end ClusterQuery
