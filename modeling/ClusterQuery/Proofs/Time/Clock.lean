import ClusterQuery.Proofs.Time.Timestamp

/-! Every date that is read is an instant of the clock. The parts that a text gives have a fraction below a second, and all
    zones are whole minutes away from universal time, so that a leap second stays in the last second of a minute. -/

namespace ClusterQuery

namespace DateReader

variable {cs rest : List Char} {offset : Int} {a : Instant}

/-- An instant of the clock stays one at a distance of whole minutes. -/
theorem ofClock_of_earlier? {b : Instant} (hnano : b.nano < 2 * Instant.secondNanos)
    (hleap : Instant.secondNanos ≤ b.nano → b.second % 60 = 59) (hoffset : offset % 60 = 0) (h : b.earlier? offset = some a) :
    a.OfClock := by
  unfold Instant.earlier? at h
  dsimp only at h
  split at h
  · cases h
    refine ⟨?_, hnano, fun h => ?_⟩
    · dsimp only
      omega
    · have := hleap h
      dsimp only
      omega
  · cases h

/-- Parts with a fraction below a second are an instant of the clock, whole minutes away from universal time. -/
theorem Parts.ofClock_of_instant? {p : Parts} (hnano : p.nano < Instant.secondNanos) (hoffset : offset % 60 = 0)
    (h : p.instant? offset = some a) : a.OfClock := by
  unfold instant? at h
  dsimp only at h
  split at h
  · refine ofClock_of_earlier? ?_ ?_ hoffset h <;> dsimp only <;> split <;> omega
  · cases h

/-- Zones are written in hours and minutes. -/
theorem minutes_of_takeOffset? {isMinus : Char → Bool} {between : List Char → Option (List Char)}
    (h : takeOffset? isMinus between cs = some (offset, rest)) : offset % 60 = 0 := by
  cases cs with
  | nil => cases h
  | cons c cs =>
    unfold takeOffset? at h
    dsimp only at h
    split at h
    · obtain ⟨⟨hours, _⟩, -, h⟩ := Option.bind_eq_some_iff.mp h
      obtain ⟨_, -, h⟩ := Option.bind_eq_some_iff.mp h
      obtain ⟨⟨minutes, _⟩, -, h⟩ := Option.bind_eq_some_iff.mp h
      dsimp only at h
      split at h
      · cases h
        split <;> omega
      · cases h
    · cases h

theorem lt_of_takeFraction? {nano : Nat} (h : takeFraction? cs = some (nano, rest)) : nano < Instant.secondNanos := by
  unfold takeFraction? at h
  dsimp only at h
  split at h
  · cases h
  · cases h
    have hdigits : ∀ c ∈ (cs.takeWhile isDigit).take 9, isDigit c = true := fun c hc =>
      List.mem_takeWhile_imp (List.mem_of_mem_take hc)
    have hlength : ((cs.takeWhile isDigit).take 9).length ≤ 9 := List.length_take_le 9 _
    have hpow : 10 ^ ((cs.takeWhile isDigit).take 9).length * 10 ^ (9 - ((cs.takeWhile isDigit).take 9).length) = 10 ^ 9 := by
      rw [← Nat.pow_add, Nat.add_sub_cancel' hlength]
    have hlt := Nat.mul_lt_mul_of_pos_right (digitsValue_lt hdigits)
      (show 0 < 10 ^ (9 - ((cs.takeWhile isDigit).take 9).length) from Nat.pow_pos (by decide))
    rw [hpow] at hlt
    exact hlt

theorem nano_of_read? {field : Field} {parts parts' : Parts} (h : field.read? parts cs = some (parts', rest)) :
    parts'.nano = parts.nano := by
  cases field
  case blanks =>
    cases h
    rfl
  all_goals
    obtain ⟨_, -, he⟩ := Option.map_eq_some_iff.mp h
    cases he
    rfl

theorem nano_of_takeLayout? {layout : List Field} {parts parts' : Parts} (h : takeLayout? parts layout cs = some (parts', rest)) :
    parts'.nano = parts.nano := by
  induction layout generalizing parts cs with
  | nil =>
    cases h
    rfl
  | cons field layout ih =>
    obtain ⟨⟨parts₁, more⟩, hfield, h⟩ := Option.bind_eq_some_iff.mp h
    exact (ih h).trans (nano_of_read? hfield)

theorem nano_of_readLayout? {layout : List Field} {parts : Parts} (h : readLayout? {} layout cs = some parts) :
    parts.nano < Instant.secondNanos := by
  unfold readLayout? at h
  split at h
  · next htake =>
    cases h
    rw [nano_of_takeLayout? htake]
    decide
  · cases h

/-! ### The forms of dates -/

theorem ofClock_of_readTimestamp? (h : readTimestamp? cs = some a) : a.OfClock := by
  obtain ⟨⟨year, cs₁⟩, -, h⟩ := Option.bind_eq_some_iff.mp h
  obtain ⟨cs₂, -, h⟩ := Option.bind_eq_some_iff.mp h
  obtain ⟨⟨month, cs₃⟩, -, h⟩ := Option.bind_eq_some_iff.mp h
  obtain ⟨cs₄, -, h⟩ := Option.bind_eq_some_iff.mp h
  obtain ⟨⟨day, cs₅⟩, -, h⟩ := Option.bind_eq_some_iff.mp h
  dsimp only at h
  split at h
  · split at h
    · obtain ⟨cs₆, -, h⟩ := Option.bind_eq_some_iff.mp h
      obtain ⟨⟨hour, cs₇⟩, -, h⟩ := Option.bind_eq_some_iff.mp h
      obtain ⟨cs₈, -, h⟩ := Option.bind_eq_some_iff.mp h
      obtain ⟨⟨minute, cs₉⟩, -, h⟩ := Option.bind_eq_some_iff.mp h
      obtain ⟨cs₁₀, -, h⟩ := Option.bind_eq_some_iff.mp h
      obtain ⟨⟨second, cs₁₁⟩, -, h⟩ := Option.bind_eq_some_iff.mp h
      dsimp only at h
      split at h
      -- With a fraction of a second and without one the zone is read alike.
      all_goals obtain ⟨⟨nano, cs₁₂⟩, hfraction, h⟩ := Option.bind_eq_some_iff.mp h
      case' h_1 => have hnano : nano < Instant.secondNanos := lt_of_takeFraction? hfraction
      case' h_2 =>
        have hnano : nano < Instant.secondNanos := by
          cases hfraction
          decide
      all_goals
        dsimp only at h
        split at h
        · exact Parts.ofClock_of_instant? hnano rfl h
        · exact Parts.ofClock_of_instant? hnano rfl h
        · obtain ⟨⟨offset, cs₁₃⟩, hoffset, h⟩ := Option.bind_eq_some_iff.mp h
          dsimp only at h
          split at h
          · exact Parts.ofClock_of_instant? hnano (minutes_of_takeOffset? hoffset) h
          · cases h
    · cases h
  · cases h

theorem ofClock_of_readIn? {layout : List Field} (h : readIn? layout cs 0 = some a) : a.OfClock := by
  obtain ⟨parts, hparts, h⟩ := Option.bind_eq_some_iff.mp h
  exact Parts.ofClock_of_instant? (nano_of_readLayout? hparts) rfl h

theorem ofClock_of_readZoned? (h : readZoned? cs = some a) : a.OfClock := by
  obtain ⟨⟨date, zone⟩, -, h⟩ := Option.bind_eq_some_iff.mp h
  obtain ⟨hours, -, h⟩ := Option.bind_eq_some_iff.mp h
  obtain ⟨parts, hfound, h⟩ := Option.bind_eq_some_iff.mp h
  obtain ⟨layout, -, hlayout⟩ := List.exists_of_findSome?_eq_some hfound
  obtain ⟨parts', hparts, hlayout⟩ := Option.bind_eq_some_iff.mp hlayout
  obtain ⟨_, -, rfl⟩ := Option.map_eq_some_iff.mp hlayout
  exact Parts.ofClock_of_instant? (nano_of_readLayout? hparts) (by omega) h

theorem minutes_of_takeMailZone? (h : takeMailZone? cs = some (offset, rest)) : offset % 60 = 0 := by
  unfold takeMailZone? at h
  dsimp only at h
  split at h
  · exact minutes_of_takeOffset? h
  · obtain ⟨hours, -, he⟩ := Option.map_eq_some_iff.mp h
    cases he
    omega

theorem ofClock_of_readMail? (h : readMail? cs = some a) : a.OfClock := by
  unfold readMail? at h
  dsimp only at h
  split at h
  case h_2 => cases h
  -- With a day of the week and without one the text goes on alike, and so it does with seconds and without them.
  all_goals
    obtain ⟨⟨weekday, cs₁⟩, -, h⟩ := Option.bind_eq_some_iff.mp h
    obtain ⟨⟨day, cs₂⟩, -, h⟩ := Option.bind_eq_some_iff.mp h
    obtain ⟨cs₃, -, h⟩ := Option.bind_eq_some_iff.mp h
    obtain ⟨⟨month, cs₄⟩, -, h⟩ := Option.bind_eq_some_iff.mp h
    obtain ⟨cs₅, -, h⟩ := Option.bind_eq_some_iff.mp h
    obtain ⟨⟨n, cs₆⟩, -, h⟩ := Option.bind_eq_some_iff.mp h
    obtain ⟨cs₇, -, h⟩ := Option.bind_eq_some_iff.mp h
    obtain ⟨⟨hour, cs₈⟩, -, h⟩ := Option.bind_eq_some_iff.mp h
    obtain ⟨cs₉, -, h⟩ := Option.bind_eq_some_iff.mp h
    obtain ⟨⟨minute, cs₁₀⟩, -, h⟩ := Option.bind_eq_some_iff.mp h
    dsimp only at h
    split at h
    all_goals
      obtain ⟨⟨second, cs₁₁⟩, -, h⟩ := Option.bind_eq_some_iff.mp h
      obtain ⟨cs₁₂, -, h⟩ := Option.bind_eq_some_iff.mp h
      obtain ⟨⟨offset, cs₁₃⟩, hzone, h⟩ := Option.bind_eq_some_iff.mp h
      dsimp only at h
      split at h
      · exact Parts.ofClock_of_instant? (show 0 < Instant.secondNanos by decide) (minutes_of_takeMailZone? hzone) h
      · cases h

end DateReader

theorem ofClock_of_readDate? {cs : List Char} {a : Instant} (h : readDate? cs = some a) : a.OfClock := by
  rcases Option.or_eq_some_iff.mp h with h | ⟨-, h⟩
  · exact DateReader.ofClock_of_readTimestamp? h
  · rcases Option.or_eq_some_iff.mp h with h | ⟨-, h⟩
    · obtain ⟨layout, -, hlayout⟩ := List.exists_of_findSome?_eq_some h
      exact DateReader.ofClock_of_readIn? hlayout
    · rcases Option.or_eq_some_iff.mp h with h | ⟨-, h⟩
      · exact DateReader.ofClock_of_readZoned? h
      · exact DateReader.ofClock_of_readMail? h

end ClusterQuery
