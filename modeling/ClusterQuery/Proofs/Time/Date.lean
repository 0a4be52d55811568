import ClusterQuery.Time.Reader
import ClusterQuery.Proofs.Number.Digits
import ClusterQuery.Proofs.Text.Characters
import ClusterQuery.Proofs.Text.Split
import Mathlib.Algebra.Group.Nat.Defs

/-! Dates without a time. Every other form of a date has a colon, a blank or a slash in it, so that a text without
    them is a date only as a year, a month and a day with hyphens between them. Its instant is written with a time,
    and thus never as the date. -/

namespace ClusterQuery

/-- A year of one to four digits, a month and a day of one or two, with hyphens between them, and such a day exists. -/
def IsCalendarDate (cs : List Char) : Prop :=
  ∃ year month day, (IsDigits year ∧ year.length ≤ 4) ∧ (IsDigits month ∧ month.length ≤ 2) ∧
    (IsDigits day ∧ day.length ≤ 2) ∧ cs = year ++ '-' :: (month ++ '-' :: day) ∧
    isDate (digitsValue 0 year) (digitsValue 0 month) (digitsValue 0 day) = true

theorem IsCalendarDate.chars {cs : List Char} (h : IsCalendarDate cs) :
    '-' ∈ cs ∧ ∀ c ∈ cs, isDigit c = true ∨ c = '-' := by
  obtain ⟨year, month, day, ⟨hyear, -⟩, ⟨hmonth, -⟩, ⟨hday, -⟩, rfl, -⟩ := h
  refine ⟨List.mem_append_right _ List.mem_cons_self, fun c hc => ?_⟩
  rcases List.mem_append.mp hc with hc | hc
  · exact .inl (hyear.2 c hc)
  · rcases List.mem_cons.mp hc with rfl | hc
    · exact .inr rfl
    · rcases List.mem_append.mp hc with hc | hc
      · exact .inl (hmonth.2 c hc)
      · rcases List.mem_cons.mp hc with rfl | hc
        · exact .inr rfl
        · exact .inl (hday.2 c hc)

/-! ### Years -/

theorem daysInMonth_le (year : Int) (month : Nat) : daysInMonth year month ≤ 31 := by
  unfold daysInMonth
  split
  · split <;> decide
  all_goals decide

theorem dayNumber_bounds {year : Int} {month day : Nat} (hyear : 0 ≤ year ∧ year < 10000) (hday : day ≤ 31) :
    -1000000 ≤ dayNumber year month day ∧ dayNumber year month day ≤ 5000000 := by
  unfold dayNumber
  dsimp only
  generalize hy : (if month ≤ 2 then year - 1 else year) = y
  have hbounds : -1 ≤ y ∧ y < 10000 := by
    rw [← hy]
    split <;> omega
  omega

theorem isYearInRange_dateOfDay {number : Int} (h : -1000000 ≤ number ∧ number ≤ 5000000) :
    isYearInRange (dateOfDay number).1 = true := by
  unfold isYearInRange dateOfDay
  dsimp only
  rw [Bool.and_eq_true, decide_eq_true_eq, decide_eq_true_eq]
  generalize hera : (number + 719468) / 146097 = era
  generalize hrest : (number + 719468) % 146097 = rest
  have hrest' : 0 ≤ rest ∧ rest < 146097 := by omega
  have hera' : -10 ≤ era ∧ era ≤ 40 := by omega
  generalize hyear : (rest - rest / 1460 + rest / 36524 - rest / 146096) / 365 = year
  have hyear' : -1 ≤ year ∧ year ≤ 410 := by omega
  split <;> omega

/-- An instant in a year of the calendar is its own at no distance. -/
theorem Instant.earlier?_zero {a : Instant} (h : a.second < 86400) :
    a.earlier? 0 = if isYearInRange (dateOfDay a.day).1 then some a else none := by
  have hday : a.day + ((a.second : Int) - 0) / 86400 = a.day := by omega
  have hsecond : (((a.second : Int) - 0) % 86400).toNat = a.second := by omega
  unfold earlier?
  dsimp only
  rw [hday, hsecond]

namespace DateReader

/-! ### Characters that readers ask for -/

section Readers
variable {cs rest : List Char} {c d : Char}

theorem suffix_of_takeNumber? {least most n : Nat} (h : takeNumber? least most cs = some (n, rest)) : rest <:+ cs := by
  unfold takeNumber? at h
  dsimp only at h
  split at h
  · cases h
    exact List.drop_suffix _ cs
  · cases h

theorem takeChar?_eq_some_iff : takeChar? c cs = some rest ↔ cs = c :: rest := by
  unfold takeChar?
  split
  · next d rest' =>
    split
    · next he =>
      rw [he]
      exact ⟨fun h => by rw [Option.some.inj h], fun h => by rw [(List.cons.inj h).2]⟩
    · next he => exact ⟨(fun h => nomatch h), fun h => (he (List.cons.inj h).1).elim⟩
  · exact ⟨(fun h => nomatch h), fun h => nomatch h⟩

theorem mem_of_takeChar?_self (h : takeChar? c cs = some rest) : c ∈ cs := by
  rw [takeChar?_eq_some_iff.mp h]
  exact List.mem_cons_self

theorem suffix_of_takeChar? (h : takeChar? c cs = some rest) : rest <:+ cs := by
  rw [takeChar?_eq_some_iff.mp h]
  exact List.suffix_cons c rest

theorem suffix_of_takeYear? {n : Int} (h : takeYear? cs = some (n, rest)) : rest <:+ cs := by
  unfold takeYear? at h
  split at h
  · obtain ⟨⟨m, more⟩, hm, he⟩ := Option.map_eq_some_iff.mp h
    cases he
    exact (suffix_of_takeNumber? hm).trans (List.suffix_cons _ _)
  · obtain ⟨⟨m, more⟩, hm, he⟩ := Option.map_eq_some_iff.mp h
    cases he
    exact (suffix_of_takeNumber? hm).trans (List.suffix_cons _ _)
  · obtain ⟨⟨m, more⟩, hm, he⟩ := Option.map_eq_some_iff.mp h
    cases he
    exact suffix_of_takeNumber? hm

theorem suffix_of_takeName? {names : List (List Char)} {place : Nat} (h : takeName? names cs = some (place, rest)) :
    rest <:+ cs := by
  obtain ⟨place', -, he⟩ := Option.map_eq_some_iff.mp h
  cases he
  exact List.drop_suffix 3 cs

theorem suffix_of_trimStart (cs : List Char) : trimStart cs <:+ cs := List.dropWhile_suffix _

theorem suffix_of_read? {field : Field} {parts parts' : Parts} (h : field.read? parts cs = some (parts', rest)) :
    rest <:+ cs := by
  -- Most fields are numbers of two digits at most, or names.
  have short {f : Nat × List Char → Parts × List Char} (h : (takeNumber? 1 2 (trimStart cs)).map f = some (parts', rest))
      (hf : ∀ r, (f r).2 = r.2) : rest <:+ cs := by
    obtain ⟨⟨n, more⟩, hn, he⟩ := Option.map_eq_some_iff.mp h
    obtain rfl : more = rest := (hf (n, more)).symm.trans (congrArg Prod.snd he)
    exact (suffix_of_takeNumber? hn).trans (suffix_of_trimStart cs)
  have name {names : List (List Char)} {f : Nat × List Char → Parts × List Char}
      (h : (takeName? names cs).map f = some (parts', rest)) (hf : ∀ r, (f r).2 = r.2) : rest <:+ cs := by
    obtain ⟨⟨n, more⟩, hn, he⟩ := Option.map_eq_some_iff.mp h
    obtain rfl : more = rest := (hf (n, more)).symm.trans (congrArg Prod.snd he)
    exact suffix_of_takeName? hn
  cases field with
  | year =>
    obtain ⟨⟨n, more⟩, hn, he⟩ := Option.map_eq_some_iff.mp h
    cases he
    exact (suffix_of_takeYear? hn).trans (suffix_of_trimStart cs)
  | blanks =>
    cases h
    exact suffix_of_trimStart cs
  | char c =>
    obtain ⟨more, hmore, he⟩ := Option.map_eq_some_iff.mp h
    cases he
    exact suffix_of_takeChar? hmore
  | shortYear => exact short h fun _ => rfl
  | month => exact short h fun _ => rfl
  | day => exact short h fun _ => rfl
  | hour => exact short h fun _ => rfl
  | minute => exact short h fun _ => rfl
  | second => exact short h fun _ => rfl
  | monthName => exact name h fun _ => rfl
  | weekdayName => exact name h fun _ => rfl

/-- The last field of a layout is read from an end of the text. -/
theorem exists_of_takeLayout?_concat {layout : List Field} {field : Field} {parts parts' : Parts}
    (h : takeLayout? parts (layout ++ [field]) cs = some (parts', rest)) :
    ∃ parts'' cs', cs' <:+ cs ∧ field.read? parts'' cs' = some (parts', rest) := by
  induction layout generalizing parts cs with
  | nil =>
    obtain ⟨⟨parts'', more⟩, hfield, h⟩ := Option.bind_eq_some_iff.mp h
    cases h
    exact ⟨parts, cs, List.suffix_rfl, hfield⟩
  | cons first layout ih =>
    obtain ⟨⟨parts₁, more⟩, hfirst, h⟩ := Option.bind_eq_some_iff.mp h
    obtain ⟨parts'', cs', hsuffix, hfield⟩ := ih h
    exact ⟨parts'', cs', hsuffix.trans (suffix_of_read? hfirst), hfield⟩

/-- The characters of a layout stand in every text that is read in it. -/
theorem mem_of_takeLayout? {layout : List Field} {parts parts' : Parts}
    (h : takeLayout? parts layout cs = some (parts', rest)) (hc : .char c ∈ layout) : c ∈ cs := by
  induction layout generalizing parts cs with
  | nil => cases hc
  | cons field layout ih =>
    obtain ⟨⟨parts'', more⟩, hfield, h⟩ := Option.bind_eq_some_iff.mp h
    rcases List.mem_cons.mp hc with rfl | hc
    · obtain ⟨more', hmore, -⟩ := Option.map_eq_some_iff.mp hfield
      exact mem_of_takeChar?_self hmore
    · exact (suffix_of_read? hfield).subset (ih h hc)

theorem readIn?_eq_none {layout : List Field} (hc : .char c ∈ layout) (hcs : c ∉ cs) (offset : Int) :
    readIn? layout cs offset = none := by
  unfold readIn? readLayout?
  split
  · next hlayout => exact (hcs (mem_of_takeLayout? hlayout hc)).elim
  · rfl

/-- A timestamp has colons in its time. -/
theorem readTimestamp?_eq_none (h : ':' ∉ cs) : readTimestamp? cs = none := by
  refine Option.eq_none_iff_forall_ne_some.mpr fun instant hread => h ?_
  obtain ⟨⟨year, cs₁⟩, hyear, hread⟩ := Option.bind_eq_some_iff.mp hread
  obtain ⟨cs₂, hhyphen, hread⟩ := Option.bind_eq_some_iff.mp hread
  obtain ⟨⟨month, cs₃⟩, hmonth, hread⟩ := Option.bind_eq_some_iff.mp hread
  obtain ⟨cs₄, hhyphen', hread⟩ := Option.bind_eq_some_iff.mp hread
  obtain ⟨⟨day, cs₅⟩, hday, hread⟩ := Option.bind_eq_some_iff.mp hread
  dsimp only at hread
  have hrest : ':' ∈ cs₅ := by
    split at hread
    · split at hread
      · obtain ⟨cs₆, hbetween, hread⟩ := Option.bind_eq_some_iff.mp hread
        obtain ⟨⟨hour, cs₇⟩, hhour, hread⟩ := Option.bind_eq_some_iff.mp hread
        obtain ⟨cs₈, hcolon, -⟩ := Option.bind_eq_some_iff.mp hread
        cases hbetween
        exact List.mem_cons_of_mem _ ((suffix_of_takeNumber? hhour).subset (mem_of_takeChar?_self hcolon))
      · cases hread
    · cases hread
  exact ((suffix_of_takeNumber? hday).trans <| (suffix_of_takeChar? hhyphen').trans <|
    (suffix_of_takeNumber? hmonth).trans <| (suffix_of_takeChar? hhyphen).trans (suffix_of_takeNumber? hyear)).subset hrest

/-- A zone is named after a space. -/
theorem readZoned?_eq_none (h : ' ' ∉ cs) : readZoned? cs = none := by
  have hsplit : splitLast (· == ' ') cs = none := by
    unfold splitLast
    rw [splitFirst_eq_none_iff.mpr fun c hc => beq_eq_false_iff_ne.mpr fun he => h (by rw [← he]; exact List.mem_reverse.mp hc)]
    rfl
  unfold readZoned?
  rw [hsplit]
  rfl

/-- The date of a mail has blanks around its month. -/
theorem readMail?_eq_none (h : ∀ c ∈ cs, isBlank c = false) : readMail? cs = none := by
  refine Option.eq_none_iff_forall_ne_some.mpr fun instant hread => ?_
  -- A blank is asked for behind the day, be there the name of a weekday in front or not.
  have day {cs' : List Char} {f : Nat × List Char → Option Instant} (hmem : ∀ c ∈ cs', c ∈ cs)
      (hread : (takeNumber? 1 2 cs').bind f = some instant) (hf : ∀ n rest, takeBlanks? rest = none → f (n, rest) = none) :
      False := by
    obtain ⟨⟨n, rest⟩, hday, hread⟩ := Option.bind_eq_some_iff.mp hread
    have hnone : takeBlanks? rest = none := by
      unfold takeBlanks?
      split
      · rw [if_neg]
        rw [h _ (hmem _ ((suffix_of_takeNumber? hday).subset List.mem_cons_self))]
        exact Bool.false_ne_true
      · rfl
    rw [hf n rest hnone] at hread
    cases hread
  unfold readMail? at hread
  dsimp only at hread
  split at hread
  · next place rest hname =>
    refine day (fun c hc => (suffix_of_trimStart cs).subset ((suffix_of_takeName? hname).subset
        (List.mem_cons_of_mem _ ((suffix_of_trimStart rest).subset hc)))) hread
      fun n rest hnone => ?_
    simp only [hnone]
    rfl
  · cases hread
  · refine day (fun c hc => (suffix_of_trimStart cs).subset hc) hread fun n rest hnone => ?_
    simp only [hnone]
    rfl

/-! ### Dates without a time -/

/-- The layout of dates without a time. -/
def dateLayout : List Field := [.year, .char '-', .month, .char '-', .day]

/-- Without blanks, colons and slashes a text is a date only in this layout. -/
theorem readDate?_eq_readIn? (hblank : ∀ c ∈ cs, isBlank c = false) (hcolon : ':' ∉ cs) (hslash : '/' ∉ cs) :
    readDate? cs = readIn? dateLayout cs 0 := by
  have hspace : ' ' ∉ cs := fun h => nomatch hblank ' ' h
  have hlayouts : plainLayouts.findSome? (fun layout => readIn? layout cs 0) = readIn? dateLayout cs 0 := by
    have h1 : readIn? (dateLayout ++ .char 'T' :: time) cs 0 = none := readIn?_eq_none (c := ':') (by simp [time]) hcolon 0
    have h2 : readIn? (dateLayout ++ .blanks :: time) cs 0 = none := readIn?_eq_none (c := ':') (by simp [time]) hcolon 0
    have h4 : readIn? [.year, .char '/', .month, .char '/', .day] cs 0 = none := readIn?_eq_none (c := '/') (by simp) hslash 0
    have h5 : readIn? [.month, .char '/', .day, .char '/', .year] cs 0 = none := readIn?_eq_none (c := '/') (by simp) hslash 0
    show List.findSome? _ [dateLayout ++ .char 'T' :: time, dateLayout ++ .blanks :: time, dateLayout, _, _] = _
    rw [List.findSome?_cons, h1, List.findSome?_cons, h2, List.findSome?_cons]
    cases readIn? dateLayout cs 0 with
    | some d => rfl
    | none => rw [List.findSome?_cons, h4, List.findSome?_cons, h5, List.findSome?_nil]
  unfold readDate?
  rw [readTimestamp?_eq_none hcolon, hlayouts, readZoned?_eq_none hspace, readMail?_eq_none hblank]
  cases readIn? dateLayout cs 0 <;> rfl

theorem exists_of_takeNumber? {least most n : Nat} (hleast : least ≠ 0) (h : takeNumber? least most cs = some (n, rest)) :
    ∃ digits, cs = digits ++ rest ∧ (IsDigits digits ∧ digits.length ≤ most) ∧ n = digitsValue 0 digits := by
  unfold takeNumber? at h
  dsimp only at h
  split at h
  · next hlength =>
    cases h
    have hprefix : (cs.take most).takeWhile isDigit <+: cs := (List.takeWhile_prefix _).trans (List.take_prefix most cs)
    refine ⟨_, ?_, ⟨⟨?_, fun c hc => List.mem_takeWhile_imp hc⟩, ?_⟩, rfl⟩
    · exact (List.prefix_iff_eq_append.mp hprefix).symm
    · exact List.ne_nil_of_length_pos (by omega)
    · exact (List.takeWhile_prefix _).length_le.trans (List.length_take_le most cs)
  · cases h

theorem takeNumber?_append {least most : Nat} {digits : List Char} (hdigits : IsDigits digits)
    (hlength : least ≤ digits.length ∧ digits.length ≤ most) (hrest : ∀ c ∈ rest.head?, isDigit c = false) :
    takeNumber? least most (digits ++ rest) = some (digitsValue 0 digits, rest) := by
  have htake : ((digits ++ rest).take most).takeWhile isDigit = digits := by
    rw [List.take_append, List.take_of_length_le hlength.2, List.takeWhile_append_of_pos hdigits.2]
    have hnone : (rest.take (most - digits.length)).takeWhile isDigit = [] := by
      cases rest with
      | nil => rw [List.take_nil, List.takeWhile_nil]
      | cons c rest =>
        cases most - digits.length with
        | zero => rw [List.take_zero, List.takeWhile_nil]
        | succ n => rw [List.take_succ_cons, List.takeWhile_cons_of_neg (by rw [hrest c rfl]; exact Bool.false_ne_true)]
    rw [hnone, List.append_nil]
  unfold takeNumber?
  rw [htake]
  dsimp only
  rw [if_pos hlength.1, List.drop_left]

theorem takeYear?_of_no_sign (hsign : ∀ c ∈ cs.head?, c ≠ '-' ∧ c ≠ '+') :
    takeYear? cs = (takeNumber? 1 4 cs).map fun r => ((r.1 : Int), r.2) := by
  unfold takeYear?
  split
  · exact ((hsign '-' rfl).1 rfl).elim
  · exact ((hsign '+' rfl).2 rfl).elim
  · cases takeNumber? 1 4 cs <;> rfl

theorem trimStart_of_not_blank (h : ∀ c ∈ cs, isBlank c = false) : trimStart cs = cs :=
  trimStart_eq_self fun c hc => h c (List.mem_of_mem_head? hc)

/-- A field that is a number, in a text without blanks. -/
theorem exists_of_numberField {most : Nat} {parts : Parts} {f : Nat × List Char → Parts × List Char}
    (hblank : ∀ c ∈ cs, isBlank c = false) (hf : ∀ r, (f r).2 = r.2)
    (h : (takeNumber? 1 most (trimStart cs)).map f = some (parts, rest)) :
    ∃ digits, cs = digits ++ rest ∧ (IsDigits digits ∧ digits.length ≤ most) ∧ parts = (f (digitsValue 0 digits, rest)).1 := by
  rw [trimStart_of_not_blank hblank] at h
  obtain ⟨⟨n, more⟩, hn, he⟩ := Option.map_eq_some_iff.mp h
  obtain ⟨digits, hcs, hdigits, rfl⟩ := exists_of_takeNumber? (by decide) hn
  obtain rfl : more = rest := (hf _).symm.trans (congrArg Prod.snd he)
  exact ⟨digits, hcs, hdigits, (congrArg Prod.fst he).symm⟩

theorem numberField_append {most : Nat} {digits : List Char} {f : Nat × List Char → Parts × List Char}
    (hdigits : IsDigits digits ∧ digits.length ≤ most) (hrest : ∀ c ∈ rest.head?, isDigit c = false) :
    (takeNumber? 1 most (trimStart (digits ++ rest))).map f = some (f (digitsValue 0 digits, rest)) := by
  have htrim : trimStart (digits ++ rest) = digits ++ rest := by
    refine trimStart_eq_self fun c hc => isBlank_of_isDigit (hdigits.1.2 c ?_)
    rw [List.head?_append_of_ne_nil _ hdigits.1.1] at hc
    exact List.mem_of_mem_head? hc
  rw [htrim, takeNumber?_append hdigits.1 ⟨List.length_pos_of_ne_nil hdigits.1.1, hdigits.2⟩ hrest]
  rfl

theorem read?_year_of_no_sign (hblank : ∀ c ∈ cs, isBlank c = false) (hsign : ∀ c ∈ cs.head?, c ≠ '-' ∧ c ≠ '+')
    (parts : Parts) : Field.read? .year parts cs =
      (takeNumber? 1 4 (trimStart cs)).map fun r => ({ parts with year := r.1 }, r.2) := by
  show (takeYear? (trimStart cs)).map _ = _
  rw [trimStart_of_not_blank hblank, takeYear?_of_no_sign hsign, Option.map_map]
  rfl

theorem read?_char_eq_some_iff {parts parts' : Parts} :
    Field.read? (.char c) parts cs = some (parts', rest) ↔ parts' = parts ∧ cs = c :: rest := by
  constructor
  · intro h
    obtain ⟨more, hmore, he⟩ := Option.map_eq_some_iff.mp h
    cases he
    exact ⟨rfl, takeChar?_eq_some_iff.mp hmore⟩
  · rintro ⟨rfl, hcs⟩
    exact Option.map_eq_some_iff.mpr ⟨rest, takeChar?_eq_some_iff.mpr hcs, rfl⟩

/-- A text without blanks that begins with no sign is read in the layout of dates without a time if it is a year, a
    month and a day. -/
theorem takeLayout?_dateLayout_eq_some_iff (hblank : ∀ c ∈ cs, isBlank c = false)
    (hsign : ∀ c ∈ cs.head?, c ≠ '-' ∧ c ≠ '+') {parts : Parts} :
    takeLayout? {} dateLayout cs = some (parts, []) ↔
      ∃ year month day, (IsDigits year ∧ year.length ≤ 4) ∧ (IsDigits month ∧ month.length ≤ 2) ∧
        (IsDigits day ∧ day.length ≤ 2) ∧ cs = year ++ '-' :: (month ++ '-' :: day) ∧
        parts = { year := digitsValue 0 year, month := digitsValue 0 month, day := digitsValue 0 day } := by
  constructor
  · intro h
    obtain ⟨⟨parts₁, cs₁⟩, hyear, h⟩ := Option.bind_eq_some_iff.mp h
    obtain ⟨⟨parts₂, cs₂⟩, hhyphen, h⟩ := Option.bind_eq_some_iff.mp h
    obtain ⟨⟨parts₃, cs₃⟩, hmonth, h⟩ := Option.bind_eq_some_iff.mp h
    obtain ⟨⟨parts₄, cs₄⟩, hhyphen', h⟩ := Option.bind_eq_some_iff.mp h
    obtain ⟨⟨parts₅, cs₅⟩, hday, h⟩ := Option.bind_eq_some_iff.mp h
    cases h
    rw [read?_year_of_no_sign hblank hsign] at hyear
    obtain ⟨year, rfl, hyearDigits, rfl⟩ := exists_of_numberField hblank (fun _ => rfl) hyear
    obtain ⟨rfl, rfl⟩ := read?_char_eq_some_iff.mp hhyphen
    obtain ⟨month, rfl, hmonthDigits, rfl⟩ := exists_of_numberField (fun c hc => hblank c (by simp [hc])) (fun _ => rfl) hmonth
    obtain ⟨rfl, rfl⟩ := read?_char_eq_some_iff.mp hhyphen'
    obtain ⟨day, rfl, hdayDigits, rfl⟩ := exists_of_numberField (fun c hc => hblank c (by simp [hc])) (fun _ => rfl) hday
    exact ⟨year, month, day, hyearDigits, hmonthDigits, hdayDigits, by rw [List.append_nil], rfl⟩
  · rintro ⟨year, month, day, hyear, hmonth, hday, rfl, rfl⟩
    have hhyphen {ds : List Char} : ∀ c ∈ ('-' :: ds).head?, isDigit c = false := fun c hc => by
      cases hc
      rfl
    have hyear' : Field.read? .year {} (year ++ '-' :: (month ++ '-' :: day)) = _ :=
      (read?_year_of_no_sign hblank hsign {}).trans (numberField_append hyear hhyphen)
    have hmonth' (p : Parts) : Field.read? .month p (month ++ '-' :: day) = _ := numberField_append hmonth hhyphen
    have hday' (p : Parts) : Field.read? .day p (day ++ []) = _ := numberField_append hday fun _ hc => nomatch hc
    rw [List.append_nil] at hday'
    show (Field.read? .year _ _).bind _ = _
    rw [hyear']
    show (Field.read? .month _ _).bind _ = _
    rw [hmonth']
    show (Field.read? .day _ _).bind _ = _
    rw [hday']
    rfl

end Readers

/-- The instant of a date without a time is the beginning of its day. -/
theorem instant?_isSome_iff {year month day : Nat} (hyear : year < 10000) :
    (Parts.instant? { year, month, day } 0).isSome = true ↔ isDate year month day = true := by
  have hinstant : Parts.instant? { year, month, day } 0 =
      if isDate year month day then Instant.earlier? ⟨dayNumber year month day, 0, 0⟩ 0 else none := by
    simp [Parts.instant?]
  rw [hinstant]
  split
  · next hdate =>
    have hday : day ≤ 31 := by
      have hlast : day ≤ daysInMonth year month := by
        simp only [isDate, Bool.and_eq_true, decide_eq_true_eq] at hdate
        exact hdate.2
      exact hlast.trans (daysInMonth_le year month)
    have hrange : isYearInRange (dateOfDay (dayNumber year month day)).1 = true :=
      isYearInRange_dateOfDay (dayNumber_bounds ⟨Int.natCast_nonneg year, by omega⟩ hday)
    refine ⟨fun _ => hdate, fun _ => ?_⟩
    rw [Instant.earlier?_zero (show 0 < 86400 by decide), hrange]
    rfl
  · next hdate => exact ⟨(fun h => nomatch h), fun h => (hdate h).elim⟩

end DateReader

/-- A text without blanks, colons and slashes that begins with no sign is a date exactly if it is a year, a month and
    a day. -/
theorem readDate?_isSome_iff {cs : List Char} (hblank : ∀ c ∈ cs, isBlank c = false) (hcolon : ':' ∉ cs)
    (hslash : '/' ∉ cs) (hsign : ∀ c ∈ cs.head?, c ≠ '-' ∧ c ≠ '+') :
    (readDate? cs).isSome = true ↔ IsCalendarDate cs := by
  have hlayout (parts : DateReader.Parts) : DateReader.takeLayout? {} DateReader.dateLayout cs = some (parts, []) ↔ _ :=
    DateReader.takeLayout?_dateLayout_eq_some_iff hblank hsign
  rw [DateReader.readDate?_eq_readIn? hblank hcolon hslash]
  unfold DateReader.readIn? DateReader.readLayout?
  constructor
  · intro h
    split at h
    · next parts htake =>
      obtain ⟨year, month, day, hyear, hmonth, hday, hcs, rfl⟩ := (hlayout parts).mp htake
      have hlt := digitsValue_lt hyear.1.2
      have hpow : 10 ^ year.length ≤ 10 ^ 4 := Nat.pow_le_pow_right (by decide) hyear.2
      exact ⟨year, month, day, hyear, hmonth, hday, hcs, (DateReader.instant?_isSome_iff (by omega)).mp h⟩
    · cases h
  · rintro ⟨year, month, day, hyear, hmonth, hday, hcs, hdate⟩
    have hlt := digitsValue_lt hyear.1.2
    have hpow : 10 ^ year.length ≤ 10 ^ 4 := Nat.pow_le_pow_right (by decide) hyear.2
    rw [(hlayout _).mpr ⟨year, month, day, hyear, hmonth, hday, hcs, rfl⟩]
    exact (DateReader.instant?_isSome_iff (by omega)).mpr hdate

theorem Instant.mem_render (a : Instant) : 'T' ∈ a.render := by
  unfold render renderWith
  simp

end ClusterQuery
