import ClusterQuery.Time.Calendar
import Mathlib.Tactic.SplitIfs

/-! Days and dates. Taking a day apart into its year, month and day and counting the days of that date gives the day back,
    and the date is one of the calendar. -/

namespace ClusterQuery

/-! ### Years of an era -/

/-- The place of a day in its year, which begins in March, with the years counted from the beginning of the era. Only a year
    before whose end a leap day lies has a three hundred and sixty-sixth day. -/
theorem dayOfYear_bounds {rest year : Int} (hrest : 0 ≤ rest ∧ rest < 146097)
    (hyear : (rest - rest / 1460 + rest / 36524 - rest / 146096) / 365 = year) :
    (0 ≤ rest - (365 * year + year / 4 - year / 100) ∧ rest - (365 * year + year / 4 - year / 100) ≤ 364) ∨
      rest - (365 * year + year / 4 - year / 100) = 365 ∧ (year + 1) % 4 = 0 ∧
        ((year + 1) % 100 ≠ 0 ∨ (year + 1) % 400 = 0) := by
  by_cases hlast : rest = 146096
  · subst hlast
    subst hyear
    decide
  -- The century and the group of four years that the day lies in.
  obtain ⟨c, r, hc, hr, hcr⟩ : ∃ c r, (0 ≤ c ∧ c ≤ 3) ∧ (0 ≤ r ∧ r < 36524) ∧ rest = 36524 * c + r :=
    ⟨rest / 36524, rest % 36524, by omega, by omega, by omega⟩
  obtain ⟨q, s, hq, hs, hqs⟩ : ∃ q s, (0 ≤ q ∧ q ≤ 24) ∧ (0 ≤ s ∧ s < 1461) ∧ r = 1461 * q + s :=
    ⟨r / 1461, r % 1461, by omega, by omega, by omega⟩
  have h1460 : rest / 1460 = 25 * c + q + (24 * c + q + s) / 1460 := by omega
  have h36524 : rest / 36524 = c := by omega
  have h146096 : rest / 146096 = 0 := by omega
  have hsplit : year = 100 * c + 4 * q + (s - (24 * c + q + s) / 1460) / 365 := by omega
  generalize hu : (s - (24 * c + q + s) / 1460) / 365 = u at hsplit
  have hu' : 0 ≤ u ∧ u ≤ 3 ∧ (s < 1460 → 365 * u ≤ s ∧ s ≤ 365 * u + 364) ∧ (s = 1460 → u = 3) := by omega
  have h4 : year / 4 = 25 * c + q := by omega
  have h100 : year / 100 = c := by omega
  rw [h4, h100]
  omega

/-! ### Dates of days -/

/-- The parts that a day is taken apart into: the era, the year in it, the day of that year, which begins in March, and the
    month counted from March. -/
theorem exists_parts (number : Int) : ∃ era year day month : Int,
    (0 ≤ year ∧ year < 400) ∧ 0 ≤ day ∧
      (day ≤ 364 ∨ day = 365 ∧ (year + 1) % 4 = 0 ∧ ((year + 1) % 100 ≠ 0 ∨ (year + 1) % 400 = 0)) ∧
      month = (5 * day + 2) / 153 ∧
      number = era * 146097 + (365 * year + year / 4 - year / 100) + day - 719468 ∧
      dateOfDay number = (year + era * 400 + (if month < 10 then 0 else 1),
        (if month < 10 then month + 3 else month - 9).toNat, (day - (153 * month + 2) / 5 + 1).toNat) := by
  have hrest : 0 ≤ (number + 719468) % 146097 ∧ (number + 719468) % 146097 < 146097 := by omega
  generalize hyear : ((number + 719468) % 146097 - (number + 719468) % 146097 / 1460 +
    (number + 719468) % 146097 / 36524 - (number + 719468) % 146097 / 146096) / 365 = year
  have hbounds := dayOfYear_bounds hrest hyear
  generalize hday : (number + 719468) % 146097 - (365 * year + year / 4 - year / 100) = day at hbounds
  refine ⟨(number + 719468) / 146097, year, day, _, by omega, by omega, by omega, rfl, by omega, ?_⟩
  unfold dateOfDay
  dsimp only
  rw [hyear, hday]
  generalize hmonth : (5 * day + 2) / 153 = month
  refine Prod.ext ?_ rfl
  dsimp only
  split_ifs <;> omega

/-- The days of a date that a day is taken apart into are counted back to it. -/
theorem dayNumber_dateOfDay (number : Int) :
    dayNumber (dateOfDay number).1 (dateOfDay number).2.1 (dateOfDay number).2.2 = number := by
  obtain ⟨era, year, day, month, hyear, hday, hlast, hmonth, hnumber, hdate⟩ := exists_parts number
  have hmonth' : 0 ≤ month ∧ month ≤ 11 := by omega
  have hfirst : (153 * month + 2) / 5 ≤ day := by omega
  -- Counted from March again, the month and its first day are the ones that the day was found from.
  have hmarch : ∀ shift : Int, (shift = month + 3 ∨ shift = month - 9) → 0 ≤ shift →
      (((shift.toNat : Nat) : Int) + 9) % 12 = month := by omega
  rw [hdate]
  unfold dayNumber
  dsimp only
  by_cases h10 : month < 10
  · rw [if_pos h10, if_pos h10, hmarch _ (.inl rfl) (by omega), if_neg (by omega)]
    have hera : (year + era * 400 + 0) / 400 = era := by omega
    have hyearOfEra : (year + era * 400 + 0) % 400 = year := by omega
    rw [hera, hyearOfEra]
    omega
  · rw [if_neg h10, if_neg h10, hmarch _ (.inr rfl) (by omega), if_pos (by omega)]
    have hera : (year + era * 400 + 1 - 1) / 400 = era := by omega
    have hyearOfEra : (year + era * 400 + 1 - 1) % 400 = year := by omega
    rw [hera, hyearOfEra]
    omega

/-- The length of a month that is counted from March. -/
theorem daysInMonth_fromMarch {year month : Int} (hmonth : 0 ≤ month ∧ month ≤ 11) :
    (daysInMonth year (if month < 10 then month + 3 else month - 9).toNat : Int) =
      if month = 11 then (if isLeapYear year then 29 else 28)
      else (153 * (month + 1) + 2) / 5 - (153 * month + 2) / 5 := by
  have hcases : month = 0 ∨ month = 1 ∨ month = 2 ∨ month = 3 ∨ month = 4 ∨ month = 5 ∨ month = 6 ∨ month = 7 ∨
      month = 8 ∨ month = 9 ∨ month = 10 ∨ month = 11 := by omega
  rcases hcases with rfl | rfl | rfl | rfl | rfl | rfl | rfl | rfl | rfl | rfl | rfl | rfl
  all_goals try rfl
  show ((if isLeapYear year = true then 29 else 28 : Nat) : Int) = if isLeapYear year = true then 29 else 28
  split <;> rfl

theorem bounds_dateOfDay (number : Int) :
    (1 ≤ (dateOfDay number).2.1 ∧ (dateOfDay number).2.1 ≤ 12) ∧
      1 ≤ (dateOfDay number).2.2 ∧ (dateOfDay number).2.2 ≤ daysInMonth (dateOfDay number).1 (dateOfDay number).2.1 := by
  obtain ⟨era, year, day, month, hyear, hday, hlast, hmonth, hnumber, hdate⟩ := exists_parts number
  have hmonth' : 0 ≤ month ∧ month ≤ 11 := by omega
  have hfirst : (153 * month + 2) / 5 ≤ day := by omega
  have hlength := @daysInMonth_fromMarch (year + era * 400 + if month < 10 then 0 else 1) month hmonth'
  rw [hdate]
  dsimp only
  refine ⟨by split_ifs <;> omega, by omega, ?_⟩
  by_cases hfebruary : month = 11
  · -- The last day of February is the last one of the years that begin in March.
    rw [if_pos hfebruary] at hlength
    have hleap : day = 365 → isLeapYear (year + era * 400 + if month < 10 then 0 else 1) = true := by
      intro h365
      rw [if_neg (by omega)]
      simp only [isLeapYear, Bool.and_eq_true, Bool.or_eq_true, decide_eq_true_eq]
      omega
    by_cases h365 : day = 365
    · rw [if_pos (hleap h365)] at hlength
      omega
    · have hle : 28 ≤ if isLeapYear (year + era * 400 + if month < 10 then 0 else 1) = true then 29 else (28 : Int) := by
        split_ifs <;> decide
      omega
  · rw [if_neg hfebruary] at hlength
    omega

end ClusterQuery
