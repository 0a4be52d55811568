import ClusterQuery.Proofs.Number.Decimal
import ClusterQuery.Proofs.Time.Calendar
import ClusterQuery.Proofs.Time.Date
import Mathlib.Data.Nat.Digits.Defs

/-! Instants are read back from their texts in the years whose texts have four digits. The text of any other year begins
    with a sign and ends with the letter of its zone, and there is no form of dates that has both. -/

namespace ClusterQuery

/-- An instant of the clock: a second of a day, and nanoseconds that go on beyond it only in the last second of a minute. -/
structure Instant.OfClock (a : Instant) : Prop where
  second : a.second < 86400
  nano : a.nano < 2 * secondNanos
  leap : secondNanos ≤ a.nano → a.second % 60 = 59

/-! ### Numbers of a fixed width -/

namespace Instant

theorem isDigit_of_mem_padded {width n : Nat} : ∀ c ∈ padded width n, isDigit c = true :=
  List.forall_mem_append.mpr ⟨isDigit_of_mem_zeros, fun _ => isDigit_of_mem_toDigits⟩

theorem isDigits_padded {width n : Nat} (hwidth : 0 < width) (hn : n < 10 ^ width) :
    IsDigits (padded width n) ∧ (padded width n).length = width ∧ digitsValue 0 (padded width n) = n := by
  have hlength : (Nat.toDigits 10 n).length ≤ width := Nat.toDigits_length 10 n width hwidth hn
  refine ⟨⟨?_, isDigit_of_mem_padded⟩, ?_, ?_⟩ <;> unfold padded
  · exact List.append_ne_nil_of_right_ne_nil _ Nat.toDigits_ne_nil
  · rw [List.length_append, List.length_replicate]
    omega
  · rw [digitsValue_append, digitsValue_zeros, Nat.zero_mul, digitsValue_toDigits]

end Instant

namespace DateReader

variable {cs rest : List Char}

theorem takeNumber?_padded {width n : Nat} (hwidth : 0 < width) (hn : n < 10 ^ width)
    (hrest : ∀ c ∈ rest.head?, isDigit c = false) :
    takeNumber? width width (Instant.padded width n ++ rest) = some (n, rest) := by
  obtain ⟨hdigits, hlength, hvalue⟩ := Instant.isDigits_padded hwidth hn
  rw [takeNumber?_append hdigits ⟨hlength.ge, hlength.le⟩ hrest, hvalue]

theorem takeFraction?_padded {width n : Nat} (hwidth : 0 < width ∧ width ≤ 9) (hn : n < 10 ^ width) :
    takeFraction? (Instant.padded width n ++ ['Z']) = some (n * 10 ^ (9 - width), ['Z']) := by
  obtain ⟨hdigits, hlength, hvalue⟩ := Instant.isDigits_padded hwidth.1 hn
  have htake : (Instant.padded width n ++ ['Z']).takeWhile isDigit = Instant.padded width n := by
    rw [List.takeWhile_append_of_pos hdigits.2]
    exact List.append_nil _
  unfold takeFraction?
  rw [htake]
  dsimp only
  rw [if_neg (by simpa using hdigits.1), List.take_of_length_le (by omega), hvalue, List.drop_left, hlength]
  rfl

/-- The fraction of a second is left out if it is zero, and is read back else. -/
theorem fractionText_cases {nano : Nat} (hnano : nano < Instant.secondNanos) :
    Instant.fractionText nano = [] ∧ nano = 0 ∨
      ∃ digits, Instant.fractionText nano = '.' :: digits ∧ takeFraction? (digits ++ ['Z']) = some (nano, ['Z']) := by
  have hlimit : nano < 10 ^ 9 := hnano
  unfold Instant.fractionText
  split
  · next hzero => exact .inl ⟨rfl, hzero⟩
  · refine .inr ?_
    split
    · refine ⟨_, rfl, (takeFraction?_padded (by decide) (by omega)).trans ?_⟩
      rw [show nano / 1000000 * 10 ^ (9 - 3) = nano by omega]
    · split
      · refine ⟨_, rfl, (takeFraction?_padded (by decide) (by omega)).trans ?_⟩
        rw [show nano / 1000 * 10 ^ (9 - 6) = nano by omega]
      · refine ⟨_, rfl, (takeFraction?_padded (by decide) hlimit).trans ?_⟩
        rw [Nat.sub_self, Nat.pow_zero, Nat.mul_one]

/-- A timestamp of universal time is read as its parts. -/
theorem readTimestamp?_of_parts {year month day hour minute second nano : Nat} {a : Instant} (hyear : year < 10 ^ 4)
    (hmonth : month < 10 ^ 2) (hday : day < 10 ^ 2) (hhour : hour < 10 ^ 2) (hminute : minute < 10 ^ 2) (hsecond : second < 10 ^ 2)
    (hnano : nano < Instant.secondNanos)
    (ha : Parts.instant? { year, month, day, hour, minute, second, nano } 0 = some a) :
    readTimestamp? (Instant.padded 4 year ++ '-' :: (Instant.padded 2 month ++ '-' :: (Instant.padded 2 day ++ 'T' ::
      (Instant.padded 2 hour ++ ':' :: (Instant.padded 2 minute ++ ':' :: (Instant.padded 2 second ++
        (Instant.fractionText nano ++ ['Z']))))))) = some a := by
  have hseparator {c : Char} {cs : List Char} (hc : isDigit c = false) : ∀ d ∈ (c :: cs).head?, isDigit d = false := by
    rintro d ⟨⟩
    exact hc
  have hchar (c : Char) (cs : List Char) : takeChar? c (c :: cs) = some cs := takeChar?_eq_some_iff.mpr rfl
  have hend : ∀ d ∈ (Instant.fractionText nano ++ ['Z']).head?, isDigit d = false := by
    rcases fractionText_cases hnano with ⟨h, -⟩ | ⟨digits, h, -⟩ <;> rw [h] <;> exact hseparator rfl
  refine Option.bind_eq_some_iff.mpr ⟨_, takeNumber?_padded (by decide) hyear (hseparator rfl), ?_⟩
  refine Option.bind_eq_some_iff.mpr ⟨_, hchar _ _, ?_⟩
  refine Option.bind_eq_some_iff.mpr ⟨_, takeNumber?_padded (by decide) hmonth (hseparator rfl), ?_⟩
  refine Option.bind_eq_some_iff.mpr ⟨_, hchar _ _, ?_⟩
  refine Option.bind_eq_some_iff.mpr ⟨_, takeNumber?_padded (by decide) hday (hseparator rfl), ?_⟩
  refine Option.bind_eq_some_iff.mpr ⟨_, takeNumber?_padded (by decide) hhour (hseparator rfl), ?_⟩
  refine Option.bind_eq_some_iff.mpr ⟨_, hchar _ _, ?_⟩
  refine Option.bind_eq_some_iff.mpr ⟨_, takeNumber?_padded (by decide) hminute (hseparator rfl), ?_⟩
  refine Option.bind_eq_some_iff.mpr ⟨_, hchar _ _, ?_⟩
  refine Option.bind_eq_some_iff.mpr ⟨_, takeNumber?_padded (by decide) hsecond hend, ?_⟩
  rcases fractionText_cases hnano with ⟨h, rfl⟩ | ⟨digits, h, htake⟩
  · rw [h]
    exact ha
  · rw [h]
    exact Option.bind_eq_some_iff.mpr ⟨_, htake, ha⟩

theorem instant?_of_written {a : Instant} (ha : a.OfClock) (hyear : isYearInRange (dateOfDay a.day).1 = true) :
    Parts.instant?
      { year := (dateOfDay a.day).1, month := (dateOfDay a.day).2.1, day := (dateOfDay a.day).2.2
        hour := a.second / 3600, minute := a.second / 60 % 60, second := a.second % 60 + a.nano / Instant.secondNanos
        nano := a.nano % Instant.secondNanos } 0 = some a := by
  obtain ⟨hsecond, hnano, hleap⟩ := ha
  obtain ⟨⟨hmonth, hmonth'⟩, hday, hday'⟩ := bounds_dateOfDay a.day
  have hdate : isDate (dateOfDay a.day).1 (dateOfDay a.day).2.1 (dateOfDay a.day).2.2 = true := by
    simp only [isDate, hyear, Bool.true_and, Bool.and_eq_true, decide_eq_true_eq]
    exact ⟨⟨⟨hmonth, hmonth'⟩, hday⟩, hday'⟩
  have hzero : a.earlier? 0 = some a := by
    rw [Instant.earlier?_zero hsecond, if_pos hyear]
  have hnanos : Instant.secondNanos = 1000000000 := rfl
  unfold Parts.instant?
  dsimp only
  rw [hnanos] at hnano hleap ⊢
  have hclock : (decide (a.second / 3600 < 24) && decide (a.second / 60 % 60 < 60) &&
      decide (a.second % 60 + a.nano / 1000000000 ≤ 60)) = true := by
    simp only [Bool.and_eq_true, decide_eq_true_eq]
    omega
  have hcondition : (isDate (dateOfDay a.day).1 (dateOfDay a.day).2.1 (dateOfDay a.day).2.2 &&
      (none : Option Nat).all (· == weekdayOf a.day) && decide (a.second / 3600 < 24) && decide (a.second / 60 % 60 < 60) &&
      decide (a.second % 60 + a.nano / 1000000000 ≤ 60)) = true := by
    rw [hdate]
    exact hclock
  rw [dayNumber_dateOfDay, if_pos hcondition, ← hzero]
  congr 1
  -- A leap second is written as a sixtieth second.
  by_cases hleapSecond : 1000000000 ≤ a.nano
  · have h59 := hleap hleapSecond
    rw [if_pos (by omega), if_pos (by omega)]
    refine Instant.mk.injEq _ _ _ _ _ _ ▸ ⟨rfl, by omega, by omega⟩
  · rw [if_neg (by omega), if_neg (by omega)]
    refine Instant.mk.injEq _ _ _ _ _ _ ▸ ⟨rfl, by omega, by omega⟩

end DateReader

namespace Instant

variable {a : Instant}

theorem render_eq (hyear : 0 ≤ (dateOfDay a.day).1 ∧ (dateOfDay a.day).1 ≤ 9999) :
    a.render = padded 4 (dateOfDay a.day).1.toNat ++ '-' :: (padded 2 (dateOfDay a.day).2.1 ++ '-' ::
      (padded 2 (dateOfDay a.day).2.2 ++ 'T' :: (padded 2 (a.second / 3600) ++ ':' :: (padded 2 (a.second / 60 % 60) ++ ':' ::
        (padded 2 (a.second % 60 + a.nano / secondNanos) ++ (fractionText (a.nano % secondNanos) ++ ['Z'])))))) := by
  unfold render renderWith yearText
  dsimp only
  rw [if_pos hyear]
  simp only [List.append_assoc, List.cons_append]

/-- An instant in a year of four digits is read back from its text. -/
theorem readDate?_render (ha : a.OfClock) (hyear : 0 ≤ (dateOfDay a.day).1 ∧ (dateOfDay a.day).1 ≤ 9999) :
    readDate? a.render = some a := by
  obtain ⟨⟨-, hmonth⟩, -, hday⟩ := bounds_dateOfDay a.day
  have hday' := daysInMonth_le (dateOfDay a.day).1 (dateOfDay a.day).2.1
  have hrange : isYearInRange (dateOfDay a.day).1 = true := by
    simp only [isYearInRange, Bool.and_eq_true, decide_eq_true_eq]
    omega
  have hparts := DateReader.instant?_of_written ha hrange
  obtain ⟨hsecond, hnano, -⟩ := ha
  have hnanos : secondNanos = 1000000000 := rfl
  have hread : DateReader.readTimestamp? a.render = some a := by
    rw [render_eq hyear]
    have hminuteSecond : a.second % 60 + a.nano / secondNanos < 10 ^ 2 := by
      rw [hnanos] at hnano ⊢
      omega
    refine DateReader.readTimestamp?_of_parts (by omega) (by omega) (by omega) (by omega) (by omega) hminuteSecond
      (Nat.mod_lt _ (by decide)) ?_
    rw [Int.toNat_of_nonneg hyear.1]
    exact hparts
  unfold readDate?
  rw [hread]
  rfl

/-! ### Other years -/

/-- The characters that instants are written with. -/
def isDateChar (c : Char) : Bool := isDigit c || ['-', '+', 'T', ':', '.', 'Z'].contains c

theorem isDateChar_of_mem_padded {width n : Nat} : ∀ c ∈ padded width n, isDateChar c = true := fun c hc => by
  rw [isDateChar, isDigit_of_mem_padded c hc, Bool.true_or]

theorem isDateChar_of_mem_cons {c : Char} {cs : List Char} (hc : isDateChar c = true) (hcs : ∀ d ∈ cs, isDateChar d = true) :
    ∀ d ∈ c :: cs, isDateChar d = true := List.forall_mem_cons.mpr ⟨hc, hcs⟩

theorem isDateChar_of_mem_yearText (year : Int) : ∀ c ∈ yearText year, isDateChar c = true := by
  unfold yearText
  split
  · exact isDateChar_of_mem_padded
  · exact isDateChar_of_mem_cons (by split <;> decide) isDateChar_of_mem_padded

theorem isDateChar_of_mem_fractionText (nano : Nat) : ∀ c ∈ fractionText nano, isDateChar c = true := by
  unfold fractionText
  split
  · exact fun _ hc => nomatch hc
  · split
    · exact isDateChar_of_mem_cons (by decide) isDateChar_of_mem_padded
    · split <;> exact isDateChar_of_mem_cons (by decide) isDateChar_of_mem_padded

theorem isDateChar_of_mem_render (a : Instant) : ∀ c ∈ a.render, isDateChar c = true := by
  have hpart (c : Char) (n : Nat) (hc : isDateChar c = true) : ∀ d ∈ c :: padded 2 n, isDateChar d = true :=
    isDateChar_of_mem_cons hc isDateChar_of_mem_padded
  unfold render renderWith
  dsimp only
  simp only [List.forall_mem_append]
  exact ⟨⟨⟨⟨⟨⟨⟨isDateChar_of_mem_yearText _, hpart _ _ rfl⟩, hpart _ _ rfl⟩, hpart _ _ rfl⟩, hpart _ _ rfl⟩, hpart _ _ rfl⟩,
    isDateChar_of_mem_fractionText _⟩, isDateChar_of_mem_cons rfl nofun⟩

/-- The text of a year that has not four digits has a sign. -/
theorem head?_render (hyear : ¬(0 ≤ (dateOfDay a.day).1 ∧ (dateOfDay a.day).1 ≤ 9999)) :
    ∃ sign rest, a.render = sign :: rest ∧ isDigit sign = false := by
  unfold render renderWith yearText
  dsimp only
  rw [if_neg hyear]
  refine ⟨_, _, rfl, ?_⟩
  split <;> rfl

theorem getLast?_render (a : Instant) : a.render.getLast? = some 'Z' := by
  unfold render renderWith
  dsimp only
  rw [List.getLast?_append_of_ne_nil _ (List.cons_ne_nil _ _)]
  rfl

end Instant

namespace DateReader

variable {cs : List Char}

/-- A text that ends with a digit. -/
def EndsWithDigit (cs : List Char) : Prop := ∃ c ∈ cs.getLast?, isDigit c = true

theorem EndsWithDigit.of_suffix {as bs : List Char} (h : EndsWithDigit as) (hsuffix : as <:+ bs) : EndsWithDigit bs := by
  obtain ⟨front, rfl⟩ := hsuffix
  obtain ⟨c, hc, hdigit⟩ := h
  refine ⟨c, ?_, hdigit⟩
  rwa [List.getLast?_append_of_ne_nil _ (List.ne_nil_of_mem (List.mem_of_mem_getLast? hc))]

theorem endsWithDigit_of_takeNumber? {least most n : Nat} (hleast : least ≠ 0) (h : takeNumber? least most cs = some (n, [])) :
    EndsWithDigit cs := by
  obtain ⟨digits, rfl, ⟨hdigits, -⟩, -⟩ := exists_of_takeNumber? hleast h
  rw [List.append_nil]
  exact ⟨_, List.getLast?_eq_some_getLast hdigits.1, hdigits.2 _ (List.getLast_mem hdigits.1)⟩

theorem endsWithDigit_of_takeYear? {n : Int} (h : takeYear? cs = some (n, [])) : EndsWithDigit cs := by
  unfold takeYear? at h
  split at h
  · obtain ⟨⟨m, more⟩, hm, he⟩ := Option.map_eq_some_iff.mp h
    cases he
    exact (endsWithDigit_of_takeNumber? Nat.one_ne_zero hm).of_suffix (List.suffix_cons _ _)
  · obtain ⟨⟨m, more⟩, hm, he⟩ := Option.map_eq_some_iff.mp h
    cases he
    exact (endsWithDigit_of_takeNumber? Nat.one_ne_zero hm).of_suffix (List.suffix_cons _ _)
  · obtain ⟨⟨m, more⟩, hm, he⟩ := Option.map_eq_some_iff.mp h
    cases he
    exact endsWithDigit_of_takeNumber? Nat.one_ne_zero hm

/-- The fields that the layouts of dates end with. -/
def endFields : List Field := [.year, .day, .second]

theorem endsWithDigit_of_read? {field : Field} (hfield : field ∈ endFields) {parts parts' : Parts}
    (h : field.read? parts cs = some (parts', [])) : EndsWithDigit cs := by
  have short {f : Nat × List Char → Parts × List Char} (h : (takeNumber? 1 2 (trimStart cs)).map f = some (parts', []))
      (hf : ∀ r, (f r).2 = r.2) : EndsWithDigit cs := by
    obtain ⟨⟨n, more⟩, hn, he⟩ := Option.map_eq_some_iff.mp h
    obtain rfl : more = [] := (hf (n, more)).symm.trans (congrArg Prod.snd he)
    exact (endsWithDigit_of_takeNumber? Nat.one_ne_zero hn).of_suffix (suffix_of_trimStart cs)
  simp only [endFields, List.mem_cons, List.not_mem_nil, or_false] at hfield
  rcases hfield with rfl | rfl | rfl
  · obtain ⟨⟨n, more⟩, hn, he⟩ := Option.map_eq_some_iff.mp h
    cases he
    exact (endsWithDigit_of_takeYear? hn).of_suffix (suffix_of_trimStart cs)
  · exact short h fun _ => rfl
  · exact short h fun _ => rfl

theorem readIn?_eq_none_of_last {layout : List Field} {field : Field} (hlayout : field ∈ layout.getLast?)
    (hfield : field ∈ endFields) (hcs : ¬EndsWithDigit cs) (offset : Int) : readIn? layout cs offset = none := by
  unfold readIn? readLayout?
  split
  · next htake =>
    rw [← List.dropLast_append_getLast? field hlayout] at htake
    obtain ⟨parts'', cs', hsuffix, hread⟩ := exists_of_takeLayout?_concat htake
    exact (hcs ((endsWithDigit_of_read? hfield hread).of_suffix hsuffix)).elim
  · rfl

/-- A text without blanks that neither begins nor ends with a digit is no date. -/
theorem readDate?_eq_none (hblank : ∀ c ∈ cs, isBlank c = false) (hhead : ¬BeginsWithDigit cs) (hlast : ¬EndsWithDigit cs) :
    readDate? cs = none := by
  have htimestamp : readTimestamp? cs = none := by
    refine Option.eq_none_iff_forall_ne_some.mpr fun instant hread => ?_
    obtain ⟨⟨year, cs₁⟩, hyear, -⟩ := Option.bind_eq_some_iff.mp hread
    obtain ⟨digits, rfl, ⟨hdigits, -⟩, -⟩ := exists_of_takeNumber? (by decide) hyear
    exact hhead hdigits.beginsWithDigit.append
  have hlayouts : plainLayouts.findSome? (fun layout => readIn? layout cs 0) = none := by
    have hend : ∀ layout ∈ plainLayouts, ∃ field ∈ endFields, field ∈ layout.getLast? := by
      simp [plainLayouts, time, endFields]
    refine List.findSome?_eq_none_iff.mpr fun layout hlayout => ?_
    obtain ⟨field, hfield, hmem⟩ := hend layout hlayout
    exact readIn?_eq_none_of_last hmem hfield hlast 0
  have hspace : ' ' ∉ cs := fun h => absurd (hblank ' ' h) (by decide)
  unfold readDate?
  rw [htimestamp, hlayouts, readZoned?_eq_none hspace, readMail?_eq_none hblank]
  rfl

end DateReader

namespace Instant

variable {a : Instant}

theorem isBlank_of_isDateChar {c : Char} (h : isDateChar c = true) : isBlank c = false := by
  rcases Bool.or_eq_true_iff.mp h with h | h
  · exact isBlank_of_isDigit h
  · have hall : ∀ c ∈ ['-', '+', 'T', ':', '.', 'Z'], isBlank c = false := by decide
    exact hall c (List.contains_iff_mem.mp h)

/-- An instant in any other year is written with a sign, and its text is no date. -/
theorem readDate?_render_of_year (hyear : ¬(0 ≤ (dateOfDay a.day).1 ∧ (dateOfDay a.day).1 ≤ 9999)) :
    readDate? a.render = none := by
  refine DateReader.readDate?_eq_none (fun c hc => isBlank_of_isDateChar (isDateChar_of_mem_render a c hc)) ?_ ?_
  · rintro ⟨c, hc, hdigit⟩
    obtain ⟨sign, rest, htext, hsign⟩ := head?_render hyear
    rw [htext] at hc
    cases hc
    rw [hsign] at hdigit
    cases hdigit
  · rintro ⟨c, hc, hdigit⟩
    rw [getLast?_render] at hc
    cases hc
    cases hdigit

/-- What the text of an instant is read as, if it is read as an instant at all. -/
theorem eq_of_readDate?_render {b : Instant} (ha : a.OfClock) (h : readDate? a.render = some b) : b = a := by
  by_cases hyear : 0 ≤ (dateOfDay a.day).1 ∧ (dateOfDay a.day).1 ≤ 9999
  · rw [readDate?_render ha hyear] at h
    exact (Option.some.inj h).symm
  · rw [readDate?_render_of_year hyear] at h
    cases h

end Instant

end ClusterQuery
