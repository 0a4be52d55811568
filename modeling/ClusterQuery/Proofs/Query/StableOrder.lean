import ClusterQuery.Proofs.Query.Sort

/-! Sorting documents puts them in the order of their keys and keeps the order of documents that no key tells
    apart, and no other list does both. Of lists in one order, those that agree on every class of tied
    elements are equal, which is what determines the result. -/

namespace ClusterQuery

/-! ### Lists in order -/

section Lists
variable {α : Type} {le : α → α → Bool}

/-- Elements that may stand in either order. -/
def tiedBy (le : α → α → Bool) (a b : α) : Bool := le a b && le b a

theorem tiedBy_self (hrefl : ∀ a, le a a = true) (a : α) : tiedBy le a a = true := by
  simp [tiedBy, hrefl a]

theorem le_of_mem_of_sorted (hrefl : ∀ a, le a a = true) {a b : α} {l : List α}
    (hl : (a :: l).Pairwise fun x y => le x y = true) (hb : b ∈ a :: l) : le a b = true := by
  rcases List.mem_cons.mp hb with rfl | hb
  · exact hrefl b
  · exact (List.pairwise_cons.mp hl).1 b hb

/-- Two lists in order are equal if they have the same elements of every class of tied ones, in the same order. -/
theorem eq_of_sorted_of_filter_tied (hrefl : ∀ a, le a a = true) {l k : List α}
    (hl : l.Pairwise fun x y => le x y = true) (hk : k.Pairwise fun x y => le x y = true)
    (h : ∀ a, l.filter (tiedBy le a) = k.filter (tiedBy le a)) : l = k := by
  have mem_of_mem : ∀ {l k : List α}, (∀ a, l.filter (tiedBy le a) = k.filter (tiedBy le a)) → ∀ {a}, a ∈ l → a ∈ k := by
    intro l k h a ha
    have hmem : a ∈ l.filter (tiedBy le a) := List.mem_filter.mpr ⟨ha, tiedBy_self hrefl a⟩
    rw [h a] at hmem
    exact (List.mem_filter.mp hmem).1
  induction l generalizing k with
  | nil =>
    cases k with
    | nil => rfl
    | cons b k => exact absurd (mem_of_mem (fun a => (h a).symm) List.mem_cons_self) List.not_mem_nil
  | cons a l ih =>
    cases k with
    | nil => exact absurd (mem_of_mem h List.mem_cons_self) List.not_mem_nil
    | cons b k =>
      -- Each of the two first elements occurs in the other list, so they are tied.
      have hba : le b a = true := le_of_mem_of_sorted hrefl hk (mem_of_mem h List.mem_cons_self)
      have hab : le a b = true := le_of_mem_of_sorted hrefl hl (mem_of_mem (fun a => (h a).symm) List.mem_cons_self)
      have hclass := h a
      rw [List.filter_cons_of_pos (tiedBy_self hrefl a), List.filter_cons_of_pos (by simp [tiedBy, hab, hba])] at hclass
      obtain ⟨rfl, -⟩ := List.cons.inj hclass
      refine congrArg (a :: ·) (ih (List.pairwise_cons.mp hl).2 (List.pairwise_cons.mp hk).2 fun c => ?_)
      have hc := h c
      rw [List.filter_cons, List.filter_cons] at hc
      split at hc
      · exact (List.cons.inj hc).2
      · exact hc

/-- A stable sort keeps the elements of a class of tied ones as they were. -/
theorem filter_tiedBy_mergeSort (htrans : ∀ a b c, le a b → le b c → le a c) (htotal : ∀ a b, le a b || le b a)
    (l : List α) (a : α) : (l.mergeSort le).filter (tiedBy le a) = l.filter (tiedBy le a) := by
  have hclass : (l.filter (tiedBy le a)).Pairwise fun x y => le x y = true := by
    refine List.pairwise_of_forall_mem_list fun x hx y hy => ?_
    have hx := (List.mem_filter.mp hx).2
    have hy := (List.mem_filter.mp hy).2
    simp only [tiedBy, Bool.and_eq_true] at hx hy
    exact htrans x a y hx.2 hy.1
  have hsub := (List.sublist_mergeSort htrans htotal hclass List.filter_sublist).filter (tiedBy le a)
  rw [List.filter_filter] at hsub
  simp only [Bool.and_self] at hsub
  exact (hsub.eq_of_length ((List.mergeSort_perm l le).filter _).length_eq.symm).symm

end Lists

/-! ### The order of documents -/

namespace OrderItem

/-- Whether an item tells two documents apart and puts the first one in front: its key is the smaller one, or
    the greater one if the item is descending. -/
def PutsFirst (o : OrderItem) (a b : Document) : Prop :=
  if o.descending then (o.key b).compare (o.key a) = .lt else (o.key a).compare (o.key b) = .lt

/-- Whether an item does not tell two documents apart. -/
def Ties (o : OrderItem) (a b : Document) : Prop := (o.key a).compare (o.key b) = .eq

theorem compareKeys_eq_lt_iff (o : OrderItem) (a b : Document) :
    o.compareKeys (o.key a) (o.key b) = .lt ↔ o.PutsFirst a b := by
  unfold PutsFirst
  cases h : o.descending with
  | true => simp [compareKeys_of_descending h]
  | false => simp [compareKeys_of_ascending h]

theorem compareKeys_eq_eq_iff (o : OrderItem) (a b : Document) :
    o.compareKeys (o.key a) (o.key b) = .eq ↔ o.Ties a b := by
  unfold Ties compareKeys
  split
  · exact Ordering.swap_eq_eq
  · exact Iff.rfl

end OrderItem

/-- Documents that no item tells apart. -/
def Tied (items : List OrderItem) (a b : Document) : Prop := ∀ o ∈ items, o.Ties a b

/-- The lexicographic order: some item puts the first document in front, and no item before it tells them apart. -/
def Before (items : List OrderItem) (a b : Document) : Prop :=
  ∃ front o back, items = front ++ o :: back ∧ Tied front a b ∧ o.PutsFirst a b

instance (o : OrderItem) (a b : Document) : Decidable (o.Ties a b) :=
  inferInstanceAs (Decidable ((o.key a).compare (o.key b) = .eq))

instance (items : List OrderItem) (a b : Document) : Decidable (Tied items a b) :=
  inferInstanceAs (Decidable (∀ o ∈ items, o.Ties a b))

section Documents
variable {items front back : List OrderItem} {o : OrderItem} {a b : Document}

theorem tied_cons_iff : Tied (o :: items) a b ↔ o.Ties a b ∧ Tied items a b :=
  List.forall_mem_cons

theorem before_cons_iff : Before (o :: items) a b ↔ o.PutsFirst a b ∨ o.Ties a b ∧ Before items a b := by
  constructor
  · rintro ⟨front, x, back, he, htied, hx⟩
    cases front with
    | nil =>
      obtain ⟨rfl, -⟩ := List.cons.inj he
      exact Or.inl hx
    | cons y front =>
      obtain ⟨rfl, rfl⟩ := List.cons.inj he
      obtain ⟨hy, hfront⟩ := tied_cons_iff.mp htied
      exact Or.inr ⟨hy, front, x, back, rfl, hfront, hx⟩
  · rintro (ho | ⟨ho, front, x, back, rfl, htied, hx⟩)
    · exact ⟨[], o, items, rfl, fun _ hmem => absurd hmem List.not_mem_nil, ho⟩
    · exact ⟨o :: front, x, back, rfl, tied_cons_iff.mpr ⟨ho, htied⟩, hx⟩

theorem compareDocuments_eq_eq_iff : compareDocuments items a b = .eq ↔ Tied items a b := by
  induction items with
  | nil => exact ⟨fun _ _ hmem => absurd hmem List.not_mem_nil, fun _ => rfl⟩
  | cons o items ih =>
    rw [compareDocuments, Ordering.then_eq_eq, ih, o.compareKeys_eq_eq_iff, tied_cons_iff]

theorem compareDocuments_eq_lt_iff : compareDocuments items a b = .lt ↔ Before items a b := by
  induction items with
  | nil =>
    refine ⟨fun h => (nomatch h), ?_⟩
    rintro ⟨front, o, back, he, -⟩
    exact absurd he.symm (List.append_ne_nil_of_right_ne_nil _ (List.cons_ne_nil o back))
  | cons o items ih =>
    rw [compareDocuments, Ordering.then_eq_lt, ih, o.compareKeys_eq_lt_iff, o.compareKeys_eq_eq_iff, before_cons_iff]

/-- A document may stand before another one if the order puts it there or does not tell them apart. -/
theorem mayPrecede_iff : mayPrecede items a b = true ↔ Before items a b ∨ Tied items a b := by
  rw [mayPrecede, Ordering.isLE_iff_eq_lt_or_eq_eq, compareDocuments_eq_lt_iff, compareDocuments_eq_eq_iff]

theorem mayPrecede_refl (a : Document) : mayPrecede items a a = true :=
  mayPrecede_iff.mpr (Or.inr fun _ _ => Std.ReflCmp.compare_self)

theorem tiedBy_mayPrecede : tiedBy (mayPrecede items) a b = decide (Tied items a b) := by
  have hswap : compareDocuments items b a = (compareDocuments items a b).swap := Std.OrientedCmp.eq_swap
  unfold tiedBy mayPrecede
  rw [Bool.eq_iff_iff, decide_eq_true_iff, ← compareDocuments_eq_eq_iff, hswap]
  cases compareDocuments items a b <;> simp

/-! ### Absent keys -/

theorem key_eq_absent_iff (o : OrderItem) (doc : Document) :
    o.key doc = .absent ↔ o.item.field.value doc = .ok none ∨ ∃ e, o.item.field.value doc = .error e := by
  unfold OrderItem.key
  cases o.item.field.value doc with
  | error e => simp [SortKey.ofValue]
  | ok v =>
    cases v with
    | none => simp [SortKey.ofValue]
    | some v =>
      have hpresent : SortKey.ofValue (some v) ≠ .absent := by
        simp only [SortKey.ofValue]
        split <;> simp
      simp [hpresent]

theorem absent_compare_eq_lt_iff (k : SortKey) : SortKey.compare .absent k = .lt ↔ k ≠ .absent := by
  cases k <;> simp [SortKey.compare, SortKey.classRank] <;> rfl

theorem eq_absent_of_compare_ne_gt {k : SortKey} (h : SortKey.compare k .absent ≠ .gt) : k = .absent := by
  by_contra hk
  have hswap : SortKey.compare k .absent = (SortKey.compare .absent k).swap := Std.OrientedCmp.eq_swap
  rw [(absent_compare_eq_lt_iff k).mpr hk] at hswap
  exact h hswap

/-- Among documents that the items in front do not tell apart, the next item decides. -/
theorem putsFirst_or_ties_of_mayPrecede (h : mayPrecede (front ++ o :: back) a b = true) (hfront : Tied front a b) :
    o.PutsFirst a b ∨ o.Ties a b := by
  rw [mayPrecede_iff] at h
  induction front with
  | nil =>
    rcases h with h | h
    · exact (before_cons_iff.mp h).imp id And.left
    · exact Or.inr (tied_cons_iff.mp h).1
  | cons x front ih =>
    obtain ⟨hx, hfront⟩ := tied_cons_iff.mp hfront
    refine ih ?_ hfront
    rcases h with h | h
    · rcases before_cons_iff.mp h with hput | ⟨-, h⟩
      · unfold OrderItem.PutsFirst at hput
        unfold OrderItem.Ties at hx
        have hswap : (x.key b).compare (x.key a) = ((x.key a).compare (x.key b)).swap := Std.OrientedCmp.eq_swap
        rw [hswap, hx] at hput
        split at hput <;> cases hput
      · exact Or.inl h
    · exact Or.inr (tied_cons_iff.mp h).2

/-- An ascending item has the absent keys in front, a descending one at the end. -/
theorem absent_of_putsFirst_or_ties (h : o.PutsFirst a b ∨ o.Ties a b) :
    if o.descending then o.key a = .absent → o.key b = .absent else o.key b = .absent → o.key a = .absent := by
  have hswap : (o.key b).compare (o.key a) = ((o.key a).compare (o.key b)).swap := Std.OrientedCmp.eq_swap
  unfold OrderItem.PutsFirst OrderItem.Ties at h
  split at h
  · next hdesc =>
    rw [if_pos hdesc]
    intro ha
    refine eq_absent_of_compare_ne_gt ?_
    rcases h with h | h
    · rw [← ha, h]
      decide
    · rw [← ha, hswap, h]
      decide
  · next hasc =>
    rw [if_neg hasc]
    intro hb
    refine eq_absent_of_compare_ne_gt ?_
    rw [← hb]
    rcases h with h | h <;> rw [h] <;> decide

/-! ### The sort -/

theorem pairwise_sortDocuments (items : List OrderItem) (docs : List Document) :
    (sortDocuments items docs).Pairwise fun a b => mayPrecede items a b = true := by
  rw [sortDocuments_eq_mergeSort]
  exact List.pairwise_mergeSort (@mayPrecede_trans items) mayPrecede_total docs

theorem filter_tied_sortDocuments (items : List OrderItem) (docs : List Document) (doc : Document) :
    (sortDocuments items docs).filter (tiedBy (mayPrecede items) doc) = docs.filter (tiedBy (mayPrecede items) doc) := by
  rw [sortDocuments_eq_mergeSort]
  exact filter_tiedBy_mergeSort (@mayPrecede_trans items) mayPrecede_total docs doc

/-- Sorting gives the one arrangement of the documents in which they are in lexicographic order and tied ones
    stand as before. A key is absent where there is no value or its reducer fails, is then below every other key,
    and comes first in the direction of an ascending item and last in that of a descending one. -/
theorem eq_sortDocuments_iff_stable (items : List OrderItem) (docs out : List Document) :
    (out = sortDocuments items docs ↔
      out.Perm docs ∧ out.Pairwise (fun a b => Before items a b ∨ Tied items a b) ∧
        ∀ doc, out.filter (fun d => Tied items doc d) = docs.filter (fun d => Tied items doc d)) ∧
    (∀ (o : OrderItem) (doc : Document),
      o.key doc = .absent ↔ o.item.field.value doc = .ok none ∨ ∃ e, o.item.field.value doc = .error e) ∧
    (∀ k : SortKey, SortKey.compare .absent k = .lt ↔ k ≠ .absent) ∧
    ∀ front o back, items = front ++ o :: back →
      (sortDocuments items docs).Pairwise fun a b => Tied front a b →
        if o.descending then o.key a = .absent → o.key b = .absent else o.key b = .absent → o.key a = .absent := by
  have hsorted := pairwise_sortDocuments items docs
  have hclass (l : List Document) (doc : Document) :
      l.filter (fun d => Tied items doc d) = l.filter (tiedBy (mayPrecede items) doc) :=
    List.filter_congr fun d _ => tiedBy_mayPrecede.symm
  refine ⟨⟨?_, ?_⟩, key_eq_absent_iff, absent_compare_eq_lt_iff, ?_⟩
  · rintro rfl
    refine ⟨?_, hsorted.imp mayPrecede_iff.mp, fun doc => ?_⟩
    · rw [sortDocuments_eq_mergeSort]
      exact List.mergeSort_perm docs _
    · rw [hclass, hclass]
      exact filter_tied_sortDocuments items docs doc
  · rintro ⟨-, hout, hstable⟩
    refine eq_of_sorted_of_filter_tied mayPrecede_refl (hout.imp mayPrecede_iff.mpr) hsorted fun doc => ?_
    rw [filter_tied_sortDocuments, ← hclass, ← hclass]
    exact hstable doc
  · rintro front o back rfl
    exact hsorted.imp fun h hfront => absent_of_putsFirst_or_ties (putsFirst_or_ties_of_mayPrecede h hfront)

end Documents

end ClusterQuery
