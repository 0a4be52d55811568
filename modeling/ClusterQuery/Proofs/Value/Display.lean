import ClusterQuery.Proofs.Number.RoundTrip
import ClusterQuery.Proofs.Time.Clock
import ClusterQuery.Proofs.Value.Equality
import ClusterQuery.Proofs.Value.ObjectName

/-! What a cell shows equals, as a text, the value that it shows. The text may be typed as a value of another type: that of
    a number without a fraction as a whole number, that of an infinite number or of a date beyond the years of four digits
    as a text. Null and lists are left out, since conditions do not compare them. -/

namespace ClusterQuery

/-! ### Numbers that have a place -/

namespace Binary64

variable {x y : Binary64}

theorem isNaN_eq_false_iff : x.isNaN = false ↔ x.magnitude ≤ infiniteMagnitude := by
  rw [isNaN, decide_eq_false_iff_not, Nat.not_lt]

theorem isNaN_roundUnits (negative : Bool) (num den : Nat) : (roundUnits negative num den).isNaN = false :=
  isNaN_eq_false_iff.mpr (Nat.min_le_right _ _)

theorem isNaN_infinity (negative : Bool) : (infinity negative).isNaN = false := isNaN_eq_false_iff.mpr (Nat.le_refl _)

theorem isNaN_ofDecimal (negative : Bool) (digits : Nat) (exponent : Int) :
    (ofDecimal negative digits exponent).isNaN = false := by
  unfold ofDecimal
  split
  · exact isNaN_eq_false_iff.mpr (Nat.zero_le _)
  · dsimp only
    split
    · exact isNaN_infinity negative
    · split
      · exact isNaN_eq_false_iff.mpr (Nat.zero_le _)
      · split <;> exact isNaN_roundUnits _ _ _

/-- The only text that is read as no number is its name. -/
theorem lowerText_of_isNaN {negative : Bool} {cs : List Char} (h : readUnsigned? negative cs = some x) (hnan : x.isNaN = true) :
    lowerText cs = ['n', 'a', 'n'] := by
  have hne {y : Binary64} (hy : y.isNaN = false) : ¬some y = some x := fun he => by
    rw [← Option.some.inj he, hy] at hnan
    cases hnan
  unfold readUnsigned? at h
  dsimp only at h
  split at h
  · exact (hne (isNaN_infinity negative) h).elim
  · split at h
    · next hword => exact hword
    · split at h
      · obtain ⟨_, -, h⟩ := Option.map_eq_some_iff.mp h
        exact (hne (isNaN_ofDecimal _ _ _) (congrArg some h)).elim
      · obtain ⟨_, -, h⟩ := Option.bind_eq_some_iff.mp h
        obtain ⟨_, -, h⟩ := Option.map_eq_some_iff.mp h
        exact (hne (isNaN_ofDecimal _ _ _) (congrArg some h)).elim

theorem isNaN_mul (hx : x.isNaN = false) (hy : y.isFinite = true) (hzero : y.isZero = false) : (x.mul y).isNaN = false := by
  have hm : y.magnitude < infiniteMagnitude := of_decide_eq_true hy
  have hynan : y.isNaN = false := isNaN_eq_false_iff.mpr hm.le
  have hinfinite : y.isInfinite = false := beq_eq_false_iff_ne.mpr hm.ne
  unfold mul
  rw [hx, hynan, hinfinite, hzero]
  dsimp only
  rw [if_neg Bool.false_ne_true, if_neg Bool.false_ne_true, Bool.or_false, Bool.or_false]
  split
  · next hxinfinite =>
    have hxzero : x.isZero = false := by
      rw [isZero, beq_iff_eq.mp hxinfinite]
      rfl
    rw [hxzero]
    exact isNaN_infinity _
  · exact isNaN_roundUnits _ _ _

theorem compare?_eq_of_place (hx : x.isNaN = false) (hy : y.isNaN = false) (h : x.place = y.place) :
    x.compare? y = some .eq := by
  unfold compare?
  rw [hx, hy, h]
  exact congrArg some (Int.compare_eq_eq.mpr rfl)

end Binary64

theorem Instant.compare_self (d : Instant) : d.compare d = .eq := by
  simp [Instant.compare]

theorem readInteger?_decimalText (i : Int) : readInteger? (decimalText i) = some i := by
  cases i with
  | ofNat n =>
    have hsign : ∀ c ∈ (Nat.toDigits 10 n).head?, isDigit c = true := fun c hc =>
      isDigit_of_mem_toDigits (List.mem_of_mem_head? hc)
    show readInteger? (Nat.toDigits 10 n) = _
    unfold readInteger?
    split
    · next he =>
      rw [he] at hsign
      cases hsign '-' rfl
    · next he =>
      rw [he] at hsign
      cases hsign '+' rfl
    · rw [readDigits?_toDigits]
      rfl
  | negSucc n =>
    show (readDigits? (Nat.toDigits 10 (n + 1))).map (fun m => -(m : Int)) = some (Int.negSucc n)
    rw [readDigits?_toDigits]
    rfl

theorem chars_of_readInteger? {cs : List Char} {i : Int} (h : readInteger? cs = some i) :
    ∀ c ∈ cs, isDigit c = true ∨ c ∈ ['-', '+'] := by
  have hdigits {ds : List Char} {n : Nat} (h : readDigits? ds = some n) : ∀ c ∈ ds, isDigit c = true ∨ c ∈ ['-', '+'] :=
    fun c hc => .inl ((readDigits?_eq_some_iff.mp h).1.2 c hc)
  unfold readInteger? at h
  split at h <;> obtain ⟨_, hread, -⟩ := Option.map_eq_some_iff.mp h <;> obtain ⟨n, hn, -⟩ := Option.bind_eq_some_iff.mp hread
  · exact List.forall_mem_cons.mpr ⟨.inr (by decide), hdigits hn⟩
  · exact List.forall_mem_cons.mpr ⟨.inr (by decide), hdigits hn⟩
  · exact hdigits hn

theorem readInt64?_decimalText (i : Int64) : readInt64? (decimalText i.toInt) = some i := by
  rw [readInt64?, readInteger?_decimalText]
  exact toInt64?_toInt i

/-! ### What the texts of numbers and dates are typed as -/

namespace Scalar

variable {cs : List Char} {s : String}

theorem mem_of_looksNumeric (h : looksNumeric cs = true) :
    ∀ c ∈ cs, isDigit c = true ∨ c ∈ ['.', '-', '+', 'e', 'E'] := by
  intro c hc
  unfold looksNumeric at h
  dsimp only at h
  rw [Bool.and_eq_true, Bool.and_eq_true, List.all_eq_true] at h
  have hchar := h.1.2 c hc
  simp only [Bool.or_eq_true, beq_iff_eq] at hchar
  simp only [List.mem_cons, List.not_mem_nil, or_false]
  tauto

theorem looksNumeric_neg (h : looksNumeric cs = true) : looksNumeric ('-' :: cs) = true := by
  unfold looksNumeric at h ⊢
  dsimp only at h ⊢
  rw [Bool.and_eq_true, Bool.and_eq_true] at h
  rw [List.head?_cons, Option.any_some, List.all_cons, List.any_cons, h.1.2, h.2]
  rfl

theorem isNaN_of_readFloat? {x : Binary64} (h : readFloat? cs = some x) : x.isNaN = false := by
  unfold readFloat? at h
  split at h
  · next hlooks =>
    have hname {ds : List Char} (hmem : ∀ c ∈ ds, c ∈ cs) {negative : Bool} (hread : Binary64.readUnsigned? negative ds = some x) :
        x.isNaN = false := by
      refine Bool.eq_false_iff.mpr fun hnan => ?_
      obtain ⟨c, ds', rfl, hc, -⟩ := List.map_eq_cons_iff.mp (Binary64.lowerText_of_isNaN hread hnan)
      rcases mem_of_looksNumeric hlooks c (hmem c List.mem_cons_self) with hdigit | hmark
      · rw [lowerAscii_of_isDigit hdigit] at hc
        rw [hc] at hdigit
        cases hdigit
      · have hall : ['.', '-', '+', 'e', 'E'].all (fun c => lowerAscii c != 'n') = true := by decide
        have hne := List.all_eq_true.mp hall c hmark
        rw [hc] at hne
        cases hne
    unfold Binary64.read? at h
    split at h
    · exact hname (fun c hc => List.mem_cons_of_mem _ hc) h
    · exact hname (fun c hc => List.mem_cons_of_mem _ hc) h
    · exact hname (fun c hc => hc) h
  · cases h

theorem factor_of_suffixFactor? {factor : Nat} (h : suffixFactor? cs = some factor) :
    (Binary64.ofNat factor).isFinite = true ∧ (Binary64.ofNat factor).isZero = false := by
  unfold suffixFactor? at h
  split at h <;> first
    | cases h; decide +kernel
    | cases h

theorem isNaN_of_read {x : Binary64} (h : read s = .float x) : x.isNaN = false := by
  have htyped := typedAs_read s
  rw [h] at htyped
  cases htyped with
  | float _ hread => exact isNaN_of_readFloat? hread
  | quantity _ _ _ _ hread =>
    obtain ⟨factor, hfactor, hvalue⟩ := Option.bind_eq_some_iff.mp hread
    obtain ⟨hfinite, hzero⟩ := factor_of_suffixFactor? hfactor
    split at hvalue
    · cases hvalue
    · obtain ⟨y, hy, hx⟩ := Option.map_eq_some_iff.mp hvalue
      cases hx
      exact Binary64.isNaN_mul (isNaN_of_readFloat? hy) hfinite hzero

/-- The text of a finite number is typed as a whole number or a number in the same place. -/
theorem read_render {x : Binary64} (hfinite : x.isFinite = true) (hs : s.toList = x.render Value.floatStyle) :
    ∃ y, (read s).number? = some y ∧ y.isNaN = false ∧ y.place = x.place := by
  have hread : Binary64.read? s.toList = some x := by
    rw [hs]
    exact Binary64.read?_render rfl rfl rfl hfinite
  cases hint : readInt64? s.toList with
  | some i =>
    obtain ⟨y, hy, hplace⟩ := Binary64.exists_read?_of_readInt64? hint
    cases hread.symm.trans hy
    rw [read_eq_int hint]
    exact ⟨_, rfl, Binary64.isNaN_roundUnits _ _ _, hplace.symm⟩
  | none =>
    obtain ⟨text, htext, hdecimal, -⟩ := @Binary64.exists_render x Value.floatStyle rfl rfl rfl hfinite
    have hlooks : looksNumeric s.toList = true := by
      rw [hs, htext]
      cases x.negative with
      | true => exact looksNumeric_neg (looksNumeric_of_isDecimal hdecimal)
      | false => exact looksNumeric_of_isDecimal hdecimal
    rw [read_eq_float hint (by rw [readFloat?, if_pos hlooks, hread])]
    exact ⟨x, rfl, Binary64.isNaN_eq_false_iff.mpr (of_decide_eq_true hfinite).le, rfl⟩

/-- The names of the other numbers are no numbers. -/
theorem read_render_of_not_finite {x : Binary64} (h : x.isFinite = false) (hs : s.toList = x.render Value.floatStyle) :
    read s = .text s := by
  have htext : x.render Value.floatStyle ∈ [['N', 'a', 'N'], ['i', 'n', 'f'], ['-', 'i', 'n', 'f']] := by
    have hm : ¬x.magnitude < Binary64.infiniteMagnitude := of_decide_eq_false h
    unfold Binary64.render
    split
    · exact List.mem_cons_self
    · next hnan =>
      have hle := Binary64.isNaN_eq_false_iff.mp (Bool.eq_false_iff.mpr hnan)
      have hinfinite : x.isInfinite = true := beq_iff_eq.mpr (by omega)
      dsimp only
      rw [if_pos hinfinite]
      cases x.negative <;> decide
  rw [← hs] at htext
  rw [← String.ofList_toList (s := s)]
  revert htext
  generalize s.toList = cs
  simp only [List.mem_cons, List.not_mem_nil, or_false]
  rintro (rfl | rfl | rfl) <;> rfl

/-! ### Dates -/

theorem getLast?_of_suffixFactor? {factor : Nat} (h : suffixFactor? cs = some factor) : cs.getLast? ≠ some 'Z' := by
  unfold suffixFactor? at h
  split at h <;> first
    | decide
    | cases h

theorem readQuantity?_of_last (h : cs.getLast? = some 'Z') : readQuantity? cs = none := by
  refine Option.eq_none_iff_forall_ne_some.mpr fun v hv => ?_
  obtain ⟨factor, hfactor, -⟩ := Option.bind_eq_some_iff.mp hv
  refine getLast?_of_suffixFactor? hfactor ?_
  have hne : cs.dropWhile (fun c => !isAsciiLetter c) ≠ [] := by
    intro hnil
    have hall := List.dropWhile_eq_nil_iff.mp hnil 'Z' (List.mem_of_getLast? h)
    cases hall
  rw [← List.takeWhile_append_dropWhile (p := fun c => !isAsciiLetter c) (l := cs), List.getLast?_append_of_ne_nil _ hne] at h
  exact h

theorem getLast?_of_readBool? {b : Bool} (h : readBool? cs = some b) : cs.getLast? ≠ some 'Z' := by
  unfold readBool? at h
  split at h <;> first
    | next he =>
      rw [← String.toList_ofList (l := cs), he]
      decide
    | cases h

theorem ofClock_of_read {d : Instant} (h : read s = .date d) : d.OfClock := by
  have htyped := typedAs_read s
  rw [h] at htyped
  cases htyped with
  | date _ _ _ hread => exact ofClock_of_readDate? hread
  | quantity _ _ _ _ hread => rcases number_of_readQuantity? hread with ⟨_, h⟩ | ⟨_, h⟩ <;> cases h

/-- The text of a date is typed as that date or not at all. -/
theorem read_date {d : Instant} (hd : d.OfClock) (hs : s.toList = d.render) : read s = .date d ∨ read s = .text s := by
  have hletter : 'T' ∈ s.toList := by
    rw [hs]
    exact d.mem_render
  have hlast : s.toList.getLast? = some 'Z' := by
    rw [hs]
    exact d.getLast?_render
  have hnumber (h : looksNumeric s.toList = true) : False := by
    exact (mem_of_looksNumeric h 'T' hletter).elim (by decide) (by decide)
  have htyped := typedAs_read s
  generalize read s = v at htyped
  -- No number holds the letter of the time, and neither booleans nor quantities end with that of the zone.
  cases htyped with
  | int hread =>
    obtain ⟨j, hj, -⟩ := Option.bind_eq_some_iff.mp hread
    have hnot : ¬(isDigit 'T' = true ∨ 'T' ∈ ['-', '+']) := by decide
    exact (hnot (chars_of_readInteger? hj 'T' hletter)).elim
  | float _ hread =>
    unfold readFloat? at hread
    split at hread
    · next hlooks => exact (hnumber hlooks).elim
    · cases hread
  | bool _ _ hread => exact (getLast?_of_readBool? hread hlast).elim
  | date _ _ _ hread =>
    rw [hs] at hread
    exact .inl (congrArg Value.date (Instant.eq_of_readDate?_render hd hread))
  | quantity _ _ _ _ hread => exact nomatch (readQuantity?_of_last hlast).symm.trans hread
  | text _ _ _ _ _ => exact .inr rfl

end Scalar

/-! ### Values and their texts -/

namespace Value

variable {v w : Value}

theorem ofClock_of_ofJson {j : Json} {d : Instant} (h : ofJson j = .date d) : d.OfClock := by
  cases j with
  | string s => exact Scalar.ofClock_of_read h
  | number n =>
    cases n with
    | float x => cases h
    | whole i =>
      unfold ofJson ofNumber at h
      dsimp only at h
      split at h <;> cases h
  | _ => cases h

/-- Every value equals itself, but for what is no number. -/
theorem same_self (h : ∀ x, v.typed = .float x → x.isNaN = false) : v.same v = true := by
  refine beq_iff_eq.mpr ?_
  have hother (h : v.typed.isOther = true) : v.compare? v = some .eq :=
    (compare?_of_other h h).trans (congrArg some Std.ReflCmp.compare_self)
  cases htyped : v.typed with
  | null => exact compare?_of_null htyped htyped
  | bool b => exact (compare?_of_bool htyped htyped).trans (congrArg some Std.ReflCmp.compare_self)
  | int i => exact (compare?_of_whole htyped htyped).trans (congrArg some Std.ReflCmp.compare_self)
  | date d => exact (compare?_of_date htyped htyped).trans (congrArg some d.compare_self)
  | float x =>
    have hx : v.typed.number? = some x := by
      rw [htyped]
      rfl
    rw [compare?_of_number hx hx fun ⟨i, _, hi, _⟩ => nomatch htyped.symm.trans hi]
    exact Binary64.compare?_eq_of_place (h x htyped) (h x htyped) rfl
  | text s => exact hother (by rw [htyped]; rfl)
  | list items => exact hother (by rw [htyped]; rfl)
  | map fields => exact hother (by rw [htyped]; rfl)

/-- A text that is not typed equals what it is shown by. -/
theorem same_text_of_untyped {s : String} (hs : s.toList = v.display) (h : Scalar.read s = .text s) :
    v.same (.text s) = true := by
  rw [same_comm]
  refine (same_of_untyped (.inr ?_) v).mpr hs
  show (Scalar.read s).isOther = true
  rw [h]
  rfl

/-- A value equals the text that it is shown by. -/
theorem same_display (hnull : v ≠ .null) (hlist : ∀ items, v ≠ .list items) (hdate : ∀ d, v = .date d → d.OfClock) :
    v.same (.text (String.ofList v.display)) = true := by
  have hs : (String.ofList v.display).toList = v.display := String.toList_ofList
  generalize String.ofList v.display = s at hs ⊢
  -- Numbers are compared by their place, and what the text is not typed as by what is shown.
  cases v with
  | null => exact (hnull rfl).elim
  | list items => exact (hlist items rfl).elim
  | bool b =>
    obtain rfl : s = String.ofList (Json.boolText b) := String.toList_inj.mp (hs.trans String.toList_ofList.symm)
    cases b <;> decide +kernel
  | int i =>
    refine beq_iff_eq.mpr ?_
    have hread : (Value.text s).typed = .int i := Scalar.read_eq_int (by rw [hs]; exact readInt64?_decimalText i)
    exact (compare?_of_whole (a := .int i) rfl hread).trans (congrArg some Std.ReflCmp.compare_self)
  | float x =>
    cases hfinite : x.isFinite with
    | true =>
      obtain ⟨y, hy, hnan, hplace⟩ := Scalar.read_render hfinite hs
      refine beq_iff_eq.mpr ?_
      rw [compare?_of_number (a := .float x) (b := .text s) rfl hy (by rintro ⟨i, j, hi, -⟩; cases hi)]
      exact Binary64.compare?_eq_of_place (Binary64.isNaN_eq_false_iff.mpr (of_decide_eq_true hfinite).le) hnan hplace.symm
    | false => exact same_text_of_untyped hs (Scalar.read_render_of_not_finite hfinite hs)
  | text t =>
    obtain rfl : s = t := String.toList_inj.mp hs
    exact same_self fun x hx => Scalar.isNaN_of_read hx
  | date d =>
    rcases Scalar.read_date (hdate d rfl) hs with hread | hread
    · refine beq_iff_eq.mpr ?_
      exact (compare?_of_date (a := .date d) (b := .text s) rfl hread).trans (congrArg some d.compare_self)
    · exact same_text_of_untyped hs hread
  | map fields => exact (same_of_untyped (.inr rfl) _).mpr hs.symm

end Value

end ClusterQuery
