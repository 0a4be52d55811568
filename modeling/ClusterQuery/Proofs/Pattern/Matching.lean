import ClusterQuery.Pattern.Regex

/-! The search for a regular expression against what the expression means. `Regex.Matches` says which texts an expression
    matches between two characters; `nullable` decides it for the empty text, `follow` takes one character off, and the
    search finds a match exactly if a part of the text is one. -/

namespace ClusterQuery

/-! ### What expressions match -/

/-- The texts that match between two characters, either of which may be missing. -/
abbrev Matching := Option Char → List Char → Option Char → Prop

namespace Matching

variable {M N : Matching} {before after : Option Char} {c : Char} {text : List Char} {n : Nat}

/-- One match right after another. -/
def Joined (M N : Matching) : Matching := fun before text after =>
  ∃ front back, text = front ++ back ∧ M before front (back.head?.or after) ∧ N (front.getLast?.or before) back after

/-- A number of matches in a row. -/
def Repeated (M : Matching) : Nat → Matching
  | 0 => fun _ text _ => text = []
  | n + 1 => Joined M (Repeated M n)

/-- What is left to match when the first character has been read. -/
def tail (M : Matching) (before : Option Char) (c : Char) : Matching := fun _ text after => M before (c :: text) after

theorem joined_nil : Joined M N before [] after ↔ M before [] after ∧ N before [] after := by
  constructor
  · rintro ⟨front, back, h, hM, hN⟩
    obtain ⟨rfl, rfl⟩ := List.append_eq_nil_iff.mp h.symm
    exact ⟨hM, hN⟩
  · rintro ⟨hM, hN⟩
    exact ⟨[], [], rfl, hM, hN⟩

theorem getLast?_cons_or (front : List Char) :
    (c :: front).getLast?.or before = front.getLast?.or (some c) := by
  rw [List.getLast?_cons]
  cases front.getLast? <;> rfl

/-- A character belongs to the first of two matches, or the first is empty. -/
theorem joined_cons :
    Joined M N before (c :: text) after ↔
      M before [] (some c) ∧ N before (c :: text) after ∨ Joined (M.tail before c) N (some c) text after := by
  constructor
  · rintro ⟨front, back, h, hM, hN⟩
    rcases List.cons_eq_append_iff.mp h with ⟨rfl, rfl⟩ | ⟨front, rfl, rfl⟩
    · exact .inl ⟨hM, hN⟩
    · exact .inr ⟨front, back, rfl, hM, getLast?_cons_or front ▸ hN⟩
  · rintro (⟨hM, hN⟩ | ⟨front, back, rfl, hM, hN⟩)
    · exact ⟨[], c :: text, rfl, hM, hN⟩
    · exact ⟨c :: front, back, rfl, hM, (getLast?_cons_or front).symm ▸ hN⟩

theorem repeated_nil : Repeated M n before [] after ↔ n = 0 ∨ M before [] after := by
  induction n with
  | zero => simp [Repeated]
  | succ n ih =>
    rw [Repeated, joined_nil, ih]
    simp only [Nat.succ_ne_zero, false_or, and_iff_left_iff_imp]
    exact .inr

/-- A character belongs to one of the matches in a row. Those before it are empty, and there are none unless the empty
    text matches there. -/
theorem repeated_cons :
    Repeated M n before (c :: text) after ↔
      ∃ k < n, (k + 1 = n ∨ M before [] (some c)) ∧ Joined (M.tail before c) (Repeated M k) (some c) text after := by
  induction n with
  | zero => simp [Repeated]
  | succ n ih =>
    rw [Repeated, joined_cons, ih]
    constructor
    · rintro (⟨hempty, k, hk, -, hjoined⟩ | hjoined)
      · exact ⟨k, Nat.lt_succ_of_lt hk, .inr hempty, hjoined⟩
      · exact ⟨n, Nat.lt_succ_self n, .inl rfl, hjoined⟩
    · rintro ⟨k, hk, hlast, hjoined⟩
      by_cases hkn : k = n
      · exact .inr (hkn ▸ hjoined)
      · have hempty := hlast.resolve_left (by omega)
        exact .inl ⟨hempty, k, by omega, .inr hempty, hjoined⟩

theorem joined_exists {p q : Nat → Prop} {N : Nat → Matching} :
    Joined M (fun before text after => ∃ n, p n ∧ q n ∧ N n before text after) before text after ↔
      ∃ n, p n ∧ q n ∧ Joined M (N n) before text after := by
  constructor
  · rintro ⟨front, back, rfl, hM, n, hp, hq, hN⟩
    exact ⟨n, hp, hq, front, back, rfl, hM, hN⟩
  · rintro ⟨n, hp, hq, front, back, rfl, hM, hN⟩
    exact ⟨front, back, rfl, hM, n, hp, hq, hN⟩

/-- Matches in a row, as many as the counts ask for, that begin with a character: the one with the character, and those
    behind it. They may be too few if the empty text matches. -/
theorem exists_repeated_cons_iff {least : Nat} {most : Option Nat} (hle : ∀ m ∈ most, least ≤ m) :
    (∃ n, least ≤ n ∧ (∀ m ∈ most, n ≤ m) ∧ Repeated M n before (c :: text) after) ↔
      ∃ k, (M before [] (some c) ∨ least ≤ k + 1) ∧ (∀ m ∈ most, k + 1 ≤ m) ∧
        Joined (M.tail before c) (Repeated M k) (some c) text after := by
  simp only [repeated_cons]
  constructor
  · rintro ⟨n, hleast, hmost, k, hk, hlast, hjoined⟩
    refine ⟨k, ?_, fun m hm => Nat.le_trans hk (hmost m hm), hjoined⟩
    rcases hlast with rfl | hempty
    · exact .inr hleast
    · exact .inl hempty
  · rintro ⟨k, hempty | hleast, hmost, hjoined⟩
    · -- Matches of nothing fill up the count.
      refine ⟨max least (k + 1), Nat.le_max_left _ _, ?_, k, Nat.le_max_right _ _, .inr hempty, hjoined⟩
      exact fun m hm => Nat.max_le.mpr ⟨hle m hm, hmost m hm⟩
    · exact ⟨k + 1, hleast, hmost, k, Nat.lt_succ_self k, .inl rfl, hjoined⟩

/-- A match at the beginning of a text. -/
def Starts (M : Matching) (before : Option Char) (text : List Char) : Prop :=
  ∃ front rest, text = front ++ rest ∧ M before front rest.head?

/-- A match anywhere in a text. -/
def Occurs (M : Matching) (before : Option Char) (text : List Char) : Prop :=
  ∃ front rest, text = front ++ rest ∧ M.Starts (front.getLast?.or before) rest

theorem starts_nil : M.Starts before [] ↔ M before [] none := by
  constructor
  · rintro ⟨front, rest, h, hM⟩
    obtain ⟨rfl, rfl⟩ := List.append_eq_nil_iff.mp h.symm
    exact hM
  · exact fun hM => ⟨[], [], rfl, hM⟩

theorem starts_cons : M.Starts before (c :: text) ↔ M before [] (some c) ∨ (M.tail before c).Starts (some c) text := by
  constructor
  · rintro ⟨front, rest, h, hM⟩
    rcases List.cons_eq_append_iff.mp h with ⟨rfl, rfl⟩ | ⟨front, rfl, rfl⟩
    · exact .inl hM
    · exact .inr ⟨front, rest, rfl, hM⟩
  · rintro (hM | ⟨front, rest, rfl, hM⟩)
    · exact ⟨[], c :: text, rfl, hM⟩
    · exact ⟨c :: front, rest, rfl, hM⟩

theorem occurs_nil : M.Occurs before [] ↔ M.Starts before [] := by
  constructor
  · rintro ⟨front, rest, h, hM⟩
    obtain ⟨rfl, rfl⟩ := List.append_eq_nil_iff.mp h.symm
    exact hM
  · exact fun hM => ⟨[], [], rfl, hM⟩

theorem occurs_cons : M.Occurs before (c :: text) ↔ M.Starts before (c :: text) ∨ M.Occurs (some c) text := by
  constructor
  · rintro ⟨front, rest, h, hM⟩
    rcases List.cons_eq_append_iff.mp h with ⟨rfl, rfl⟩ | ⟨front, rfl, rfl⟩
    · exact .inl hM
    · exact .inr ⟨front, rest, rfl, getLast?_cons_or front ▸ hM⟩
  · rintro (hM | ⟨front, rest, rfl, hM⟩)
    · exact ⟨[], c :: text, rfl, hM⟩
    · exact ⟨c :: front, rest, rfl, (getLast?_cons_or front).symm ▸ hM⟩

end Matching

namespace Regex

open Matching

variable {a b r s : Regex} {rs begun : List Regex} {before after : Option Char} {c : Char} {text : List Char}

/-- The texts that an expression matches. -/
def Matches : Regex → Matching
  | .empty => fun _ text _ => text = []
  | .chars set => fun _ text _ => ∃ c, set.contains c = true ∧ text = [c]
  | .look condition => fun before text after => text = [] ∧ condition.holds before after = true
  | .cat a b => Joined a.Matches b.Matches
  | .alt a b => fun before text after => a.Matches before text after ∨ b.Matches before text after
  | .times a least most => fun before text after =>
    ∃ n, least ≤ n ∧ (∀ m ∈ most, n ≤ m) ∧ Repeated a.Matches n before text after

/-- The counts of every repetition are in order. -/
def InOrder : Regex → Prop
  | .empty | .chars _ | .look _ => True
  | .cat a b | .alt a b => a.InOrder ∧ b.InOrder
  | .times a least most => a.InOrder ∧ ∀ m ∈ most, least ≤ m

/-! ### The empty text -/

theorem nullable_iff (h : r.InOrder) : r.nullable before after = true ↔ r.Matches before [] after := by
  induction r with
  | empty => simp [nullable, Matches]
  | chars set => simp [nullable, Matches]
  | look condition => simp [nullable, Matches]
  | cat a b iha ihb => rw [nullable, Bool.and_eq_true, iha h.1, ihb h.2, Matches, joined_nil]
  | alt a b iha ihb => rw [nullable, Bool.or_eq_true, iha h.1, ihb h.2, Matches]
  | times a least most ih =>
    simp only [nullable, Bool.or_eq_true, beq_iff_eq, ih h.1, Matches, repeated_nil]
    constructor
    · exact fun hempty => ⟨least, Nat.le_refl _, h.2, hempty⟩
    · rintro ⟨n, hle, -, rfl | hempty⟩
      · exact .inl (Nat.le_zero.mp hle)
      · exact .inr hempty

/-! ### One character -/

theorem matches_andThen : (a.andThen b).Matches before text after ↔ Joined a.Matches b.Matches before text after := by
  unfold andThen
  split
  · next h =>
    subst h
    constructor
    · exact fun hb => ⟨[], text, rfl, rfl, hb⟩
    · rintro ⟨front, back, rfl, rfl, hb⟩
      exact hb
  · rfl

theorem InOrder.andThen (ha : a.InOrder) (hb : b.InOrder) : (a.andThen b).InOrder := by
  unfold Regex.andThen
  split
  · exact hb
  · exact ⟨ha, hb⟩

/-- What is left of an expression, followed by another. -/
theorem exists_mem_map_andThen_iff
    (ih : ∀ text after, (∃ s ∈ rs, s.Matches (some c) text after) ↔ a.Matches before (c :: text) after) :
    (∃ s ∈ rs.map (·.andThen b), s.Matches (some c) text after) ↔
      Joined (a.Matches.tail before c) b.Matches (some c) text after := by
  constructor
  · rintro ⟨_, hmem, hmatches⟩
    obtain ⟨s, hs, rfl⟩ := List.mem_map.mp hmem
    obtain ⟨front, back, rfl, hfront, hback⟩ := matches_andThen.mp hmatches
    exact ⟨front, back, rfl, (ih _ _).mp ⟨s, hs, hfront⟩, hback⟩
  · rintro ⟨front, back, rfl, hfront, hback⟩
    obtain ⟨s, hs, hfront⟩ := (ih _ _).mpr hfront
    exact ⟨_, List.mem_map_of_mem hs, matches_andThen.mpr ⟨front, back, rfl, hfront, hback⟩⟩

theorem inOrder_of_mem_follow (h : r.InOrder) (hs : s ∈ r.follow before c) : s.InOrder := by
  induction r generalizing s with
  | empty => cases hs
  | look condition => cases hs
  | chars set =>
    simp only [follow] at hs
    split at hs
    · rw [List.mem_singleton.mp hs]
      trivial
    · cases hs
  | cat a b iha ihb =>
    rcases List.mem_append.mp hs with hs | hs
    · obtain ⟨t, ht, rfl⟩ := List.mem_map.mp hs
      exact (iha h.1 ht).andThen h.2
    · split at hs
      · exact ihb h.2 hs
      · cases hs
  | alt a b iha ihb => exact (List.mem_append.mp hs).elim (iha h.1) (ihb h.2)
  | times a least most ih =>
    simp only [follow] at hs
    split at hs
    · cases hs
    · obtain ⟨t, ht, rfl⟩ := List.mem_map.mp hs
      refine (ih h.1 ht).andThen ⟨h.1, ?_⟩
      -- The upper count is lowered by one, and the lower one by as much or to zero.
      intro m hm
      obtain ⟨most, hmost, rfl⟩ := Option.map_eq_some_iff.mp hm
      have := h.2 most hmost
      split <;> omega

/-- What is left of an expression after a character matches the rest of what the expression matches. -/
theorem follow_iff (h : r.InOrder) :
    (∃ s ∈ r.follow before c, s.Matches (some c) text after) ↔ r.Matches before (c :: text) after := by
  induction r generalizing text after with
  | empty => simp [follow, Matches]
  | look condition => simp [follow, Matches]
  | chars set =>
    have hrest : (chars set).Matches before (c :: text) after ↔ set.contains c = true ∧ text = [] :=
      ⟨fun ⟨_, hd, he⟩ => (List.cons.inj he).1 ▸ ⟨hd, (List.cons.inj he).2⟩, fun ⟨hc, he⟩ => ⟨c, hc, he ▸ rfl⟩⟩
    rw [hrest, follow]
    split
    · next hc => simp [hc, Matches]
    · next hc => simp [hc]
  | cat a b iha ihb =>
    rw [Matches, joined_cons, ← exists_mem_map_andThen_iff fun _ _ => iha h.1, ← ihb h.2, ← nullable_iff h.1]
    by_cases hempty : a.nullable before (some c) = true
    · simp [follow, hempty, or_and_right, exists_or, or_comm]
    · simp [follow, hempty]
  | alt a b iha ihb =>
    simp only [Matches, ← iha h.1, ← ihb h.2]
    simp [follow, or_and_right, exists_or]
  | times a least most ih =>
    simp only [Matches, exists_repeated_cons_iff h.2, ← nullable_iff h.1]
    rw [follow]
    split
    · next hmost =>
      rw [beq_iff_eq] at hmost
      refine iff_of_false (fun ⟨_, hs, _⟩ => nomatch hs) ?_
      rintro ⟨k, -, hk, -⟩
      exact Nat.not_succ_le_zero k (hk 0 hmost)
    · next hmost =>
      have hpositive : ∀ m ∈ most, m ≠ 0 := fun m hm h0 => hmost (by rw [Option.mem_def.mp hm, h0]; rfl)
      rw [exists_mem_map_andThen_iff fun _ _ => ih h.1, Matches, joined_exists]
      refine exists_congr fun k => and_congr ?_ (and_congr_left fun _ => ?_)
      · split
        · next hempty => exact iff_of_true (Nat.zero_le k) (.inl hempty)
        · next hempty => rw [or_iff_right hempty, Nat.sub_le_iff_le_add]
      · constructor
        · intro hk m hm
          have hle := hk (m - 1) (Option.mem_map_of_mem _ hm)
          have hne := hpositive m hm
          omega
        · intro hk m hm
          obtain ⟨m, hmem, rfl⟩ := Option.map_eq_some_iff.mp hm
          exact Nat.le_sub_one_of_lt (hk m hmem)

/-! ### Search -/

/-- What is left of an expression after a character begins the rest of a text if the expression begins the text with the
    character. -/
theorem starts_follow_iff (h : r.InOrder) :
    (∃ s ∈ r.follow before c, s.Matches.Starts (some c) text) ↔ (r.Matches.tail before c).Starts (some c) text := by
  constructor
  · rintro ⟨s, hs, front, rest, rfl, hmatches⟩
    exact ⟨front, rest, rfl, (follow_iff h).mp ⟨s, hs, hmatches⟩⟩
  · rintro ⟨front, rest, rfl, hmatches⟩
    obtain ⟨s, hs, hmatches⟩ := (follow_iff h).mpr hmatches
    exact ⟨s, hs, front, rest, rfl, hmatches⟩

theorem mem_followAll : s ∈ followAll before c rs ↔ ∃ r ∈ rs, s ∈ r.follow before c := by
  rw [followAll, mem_distinct, List.mem_flatMap]

/-- A search finds a match that was begun before or that begins anywhere in the text. -/
theorem search_iff (h : r.InOrder) (hbegun : ∀ s ∈ begun, s.InOrder) :
    search r before begun text = true ↔
      (∃ s ∈ begun, s.Matches.Starts before text) ∨ r.Matches.Occurs before text := by
  induction text generalizing before begun with
  | nil =>
    rw [search, List.any_cons, Bool.or_eq_true, List.any_eq_true, nullable_iff h, occurs_nil, starts_nil, or_comm]
    refine or_congr_left (exists_congr fun s => and_congr_right fun hs => ?_)
    rw [nullable_iff (hbegun s hs), starts_nil]
  | cons c text ih =>
    have hall : ∀ s ∈ r :: begun, s.InOrder := List.forall_mem_cons.mpr ⟨h, hbegun⟩
    -- A match ends in front of the character, goes on with it, or begins behind it.
    have hnow : (r :: begun).any (·.nullable before (some c)) = true ↔
        ∃ s ∈ r :: begun, s.Matches before [] (some c) := by
      rw [List.any_eq_true]
      exact exists_congr fun s => and_congr_right fun hs => nullable_iff (hall s hs)
    have hlater : (∃ s ∈ followAll before c (r :: begun), s.Matches.Starts (some c) text) ↔
        ∃ s ∈ r :: begun, (s.Matches.tail before c).Starts (some c) text := by
      simp only [mem_followAll]
      constructor
      · rintro ⟨s, ⟨t, ht, hs⟩, hstarts⟩
        exact ⟨t, ht, (starts_follow_iff (hall t ht)).mp ⟨s, hs, hstarts⟩⟩
      · rintro ⟨t, ht, hstarts⟩
        obtain ⟨s, hs, hstarts⟩ := (starts_follow_iff (hall t ht)).mpr hstarts
        exact ⟨s, ⟨t, ht, hs⟩, hstarts⟩
    have hleft : ∀ s ∈ followAll before c (r :: begun), s.InOrder := fun s hs => by
      obtain ⟨t, ht, hs⟩ := mem_followAll.mp hs
      exact inOrder_of_mem_follow (hall t ht) hs
    have hbegin : (∃ s ∈ r :: begun, s.Matches.Starts before (c :: text)) ↔
        r.Matches.Starts before (c :: text) ∨ ∃ s ∈ begun, s.Matches.Starts before (c :: text) := by simp
    rw [search, Bool.or_eq_true, hnow, ih hleft, hlater, ← or_assoc, ← exists_or, occurs_cons, ← or_assoc,
      or_comm (b := r.Matches.Starts before (c :: text)), ← hbegin]
    simp only [starts_cons, and_or_left]

/-- An expression is found in a text if a part of the text matches. -/
theorem matchesIn_iff (h : r.InOrder) : r.matchesIn text = true ↔ r.Matches.Occurs none text := by
  rw [matchesIn, search_iff h (List.forall_mem_nil _)]
  simp

end Regex

end ClusterQuery
