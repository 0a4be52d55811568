import ClusterQuery.Proofs.Query.Fields
import ClusterQuery.Query.Parser

/-! Reading the lists of `SELECT` and `ORDER BY`. A list is read item by item; a list that is printed with solid
    items is cut into these items again, so that it is read back if each item is. -/

namespace ClusterQuery

namespace Query

variable {A : AliasTable}

theorem isPlain_comma : Brackets.ofLists.isPlain ',' = true := by decide

/-! ### Items of a selection -/

/-- A text that is read as an item of a selection. -/
structure ItemFrom (A : AliasTable) (cs : List Char) (i : SelectItem) : Prop where
  ne_nil : cs ≠ []
  ne_star : cs ≠ ['*']
  reads : parseSelectItem A cs = .ok i

/-- Items with different titles. -/
def DistinctTitles (items : List SelectItem) : Prop := items.Pairwise fun i j => i.title ≠ j.title

theorem parseItems_cons {items : List SelectItem} {cs : List Char} {rest : List (List Char)} {read : List SelectItem} :
    parseItems A items (cs :: rest) = .ok read ↔
      ∃ i, ItemFrom A (trim cs) i ∧ (∀ j ∈ items, j.title ≠ i.title) ∧ parseItems A (i :: items) rest = .ok read := by
  have htitles : ∀ i : SelectItem, ¬(items.any fun j => j.title == i.title) = true ↔ ∀ j ∈ items, j.title ≠ i.title := by
    intro i
    simp
  rw [parseItems]
  simp only [unless_eq_ok_iff, Except.bind_eq_ok_iff, htitles]
  constructor
  · rintro ⟨hne, hstar, i, hi, htitle, h⟩
    exact ⟨i, ⟨by simpa using hne, hstar, hi⟩, htitle, h⟩
  · rintro ⟨i, ⟨hne, hstar, hi⟩, htitle, h⟩
    exact ⟨by simpa using hne, hstar, i, hi, htitle, h⟩

/-- Items are read one by one, and no two have the same title. -/
theorem parseItems_eq_ok_iff {items read : List SelectItem} {css : List (List Char)} (h : DistinctTitles items.reverse) :
    parseItems A items css = .ok read ↔
      ∃ new, read = items.reverse ++ new ∧ List.Forall₂ (fun cs i => ItemFrom A (trim cs) i) css new ∧ DistinctTitles read := by
  -- What was read before is part of the statement, since titles are compared with all of it.
  induction css generalizing items with
  | nil =>
    rw [parseItems]
    constructor
    · intro hread
      cases hread
      exact ⟨[], (List.append_nil _).symm, .nil, h⟩
    · rintro ⟨new, rfl, hnew, -⟩
      cases hnew
      rw [List.append_nil]
  | cons cs css ih =>
    rw [parseItems_cons]
    constructor
    · rintro ⟨i, hi, htitle, hread⟩
      have hdistinct : DistinctTitles (i :: items).reverse := by
        rw [List.reverse_cons]
        refine List.pairwise_append.mpr ⟨h, List.pairwise_singleton _ _, fun j hj k hk => ?_⟩
        cases List.mem_singleton.mp hk
        exact htitle j (List.mem_reverse.mp hj)
      obtain ⟨new, rfl, hnew, hread⟩ := (ih hdistinct).mp hread
      exact ⟨i :: new, by simp, .cons hi hnew, hread⟩
    · rintro ⟨new, rfl, hnew, hread⟩
      cases hnew with
      | @cons _ i _ new hi hnew =>
        have hread' : DistinctTitles ((i :: items).reverse ++ new) := by simpa using hread
        have hdistinct := (List.pairwise_append.mp hread').1
        refine ⟨i, hi, fun j hj => ?_, (ih hdistinct).mpr ⟨new, by simp, hnew, hread⟩⟩
        exact (List.pairwise_append.mp hread).2.2 j (List.mem_reverse.mpr hj) i List.mem_cons_self

/-- Items are selected if the text of the clause is cut into texts of theirs, other than a star alone. -/
theorem parseSelection_eq_only_iff {body : List Char} {items : List SelectItem} :
    parseSelection A body = .ok (.only items) ↔
      body ≠ [] ∧ body ≠ ['*'] ∧
        ∃ pieces, splitTopLevel ',' body = some pieces ∧
          List.Forall₂ (fun cs i => ItemFrom A (trim cs) i) pieces items ∧ DistinctTitles items := by
  have hnone : DistinctTitles ([] : List SelectItem).reverse := .nil
  unfold parseSelection
  constructor
  · intro h
    split at h
    · cases h
    · next hne =>
      split at h
      · cases h
      · next hstar =>
        split at h
        · cases h
        · next pieces hpieces =>
          obtain ⟨items', hitems, he⟩ := Except.map_eq_ok_iff.mp h
          cases he
          obtain ⟨new, rfl, hnew, hdistinct⟩ := (parseItems_eq_ok_iff hnone).mp hitems
          exact ⟨by simpa using hne, hstar, pieces, hpieces, hnew, hdistinct⟩
  · rintro ⟨hne, hstar, pieces, hpieces, hnew, hdistinct⟩
    rw [if_neg (by simpa using hne), if_neg hstar, hpieces]
    exact Except.map_eq_ok_iff.mpr ⟨items, (parseItems_eq_ok_iff hnone).mpr ⟨items, rfl, hnew, hdistinct⟩, rfl⟩

theorem parseSelection_eq_all_iff {body : List Char} : parseSelection A body = .ok .all ↔ body = ['*'] := by
  unfold parseSelection
  constructor
  · intro h
    split at h
    · cases h
    · split at h
      · next hstar => exact hstar
      · split at h
        · cases h
        · obtain ⟨_, _, he⟩ := Except.map_eq_ok_iff.mp h
          cases he
  · rintro rfl
    rfl

/-! ### Items of an order -/

theorem parseOrder_eq_ok_iff {selected : List SelectItem} {body : List Char} {items : List OrderItem} :
    parseOrder A selected body = .ok items ↔
      body ≠ [] ∧ ∃ pieces, splitTopLevel ',' body = some pieces ∧
        List.Forall₂ (fun cs o => parseOrderItem A selected (trim cs) = .ok o) pieces items := by
  unfold parseOrder
  constructor
  · intro h
    split at h
    · cases h
    · next hne =>
      split at h
      · cases h
      · next pieces hpieces => exact ⟨by simpa using hne, pieces, hpieces, Except.mapM_eq_ok_iff.mp h⟩
  · rintro ⟨hne, pieces, hpieces, h⟩
    rw [if_neg (by simpa using hne), hpieces]
    exact Except.mapM_eq_ok_iff.mpr h

/-! ### Printed lists -/

/-- The pieces of a printed list: a blank stands before each but the first. -/
def spaced : List (List Char) → List (List Char)
  | [] => []
  | cs :: rest => cs :: rest.map (' ' :: ·)

theorem joinWith_spaced (css : List (List Char)) : joinWith [','] (spaced css) = renderList css := by
  have hrest : ∀ (cs : List Char) (rest : List (List Char)),
      joinWith [','] (cs :: rest.map (' ' :: ·)) = joinWith [',', ' '] (cs :: rest) := by
    intro cs rest
    induction rest generalizing cs with
    | nil => rfl
    | cons second rest ih =>
      rw [List.map_cons, joinWith_cons_of_ne_nil (List.cons_ne_nil _ _), joinWith_cons_of_ne_nil (List.cons_ne_nil _ _),
        ← ih second]
      cases rest <;> simp [joinWith]
  cases css with
  | nil => rfl
  | cons cs rest => exact hrest cs rest

theorem splitTopLevel_renderList {css : List (List Char)} (hne : css ≠ []) (h : ∀ cs ∈ css, Solid ',' cs) :
    splitTopLevel ',' (renderList css) = some (spaced css) := by
  refine (splitTopLevel_eq_some_iff isPlain_comma).mpr ⟨?_, ?_, joinWith_spaced css⟩
  · cases css with
    | nil => exact (hne rfl).elim
    | cons cs rest => exact List.cons_ne_nil _ _
  · cases css with
    | nil => exact fun _ hp => nomatch hp
    | cons cs rest =>
      obtain ⟨hcs, hrest⟩ := List.forall_mem_cons.mp h
      refine List.forall_mem_cons.mpr ⟨hcs, fun p hp => ?_⟩
      obtain ⟨d, hd, rfl⟩ := List.mem_map.mp hp
      exact .cons (fun _ => rfl) rfl (hrest d hd)

theorem forall₂_spaced_iff {α : Type} {R : List Char → α → Prop} {css : List (List Char)} {items : List α} :
    List.Forall₂ (fun cs i => R (trim cs) i) (spaced css) items ↔
      List.Forall₂ (fun cs i => R (trim cs) i) css items := by
  cases css with
  | nil => rfl
  | cons cs rest =>
    cases items with
    | nil => simp [spaced]
    | cons i items => simp [spaced, List.forall₂_map_left_iff, trim_cons_space]

end Query

end ClusterQuery
