import ClusterQuery.Proofs.Query.KeyOrder

/-! Sorting documents is the stable sort by the first item that tells two documents apart. Keys are
    computed once for each document and compared as lists; compared with the items directly, the order is
    a total preorder, and merging gives what inserting the documents one by one gives. -/

namespace ClusterQuery

/-- The order of two documents: the first item that tells them apart decides. -/
def compareDocuments : List OrderItem → Document → Document → Ordering
  | [], _, _ => .eq
  | o :: items, a, b => (o.compareKeys (o.key a) (o.key b)).then (compareDocuments items a b)

/-- Whether a document may stand before another one. -/
def mayPrecede (items : List OrderItem) (a b : Document) : Bool := (compareDocuments items a b).isLE

/-- What an item decides the order by: a field, and whether its greater values come first. -/
def OrderItem.rule (o : OrderItem) : Field × Bool := (o.item.field, o.descending)

theorem compareDocuments_eq_of_rules {items items' : List OrderItem} (h : items.map OrderItem.rule = items'.map OrderItem.rule) :
    compareDocuments items = compareDocuments items' := by
  induction items generalizing items' with
  | nil =>
    obtain rfl := List.map_eq_nil_iff.mp h.symm
    rfl
  | cons o items ih =>
    cases items' with
    | nil => cases h
    | cons o' items' =>
      obtain ⟨hrule, hrest⟩ := List.cons.inj h
      obtain ⟨hfield, hdescending⟩ := Prod.mk.inj hrule
      funext a b
      simp only [compareDocuments, OrderItem.compareKeys, OrderItem.key, hfield, hdescending, ih hrest]

theorem mayPrecede_eq_of_rules {items items' : List OrderItem} (h : items.map OrderItem.rule = items'.map OrderItem.rule) :
    mayPrecede items = mayPrecede items' := by
  funext a b
  rw [mayPrecede, mayPrecede, compareDocuments_eq_of_rules h]

/-! ### The order is a total preorder -/

theorem compareKeyLists_keys (items : List OrderItem) (a b : Document) :
    compareKeyLists items (items.map (·.key a)) (items.map (·.key b)) = compareDocuments items a b := by
  induction items with
  | nil => rfl
  | cons o items ih => rw [List.map_cons, List.map_cons, compareKeyLists, compareDocuments, ih]

/-- Documents are ordered as the lists of their keys are. -/
instance transCmp_compareDocuments (items : List OrderItem) : Std.TransCmp (compareDocuments items) := by
  have hkeys := SortKey.transCmp_on (SortKey.compareHeads items) fun doc : Document => items.map (·.key doc)
  have : compareDocuments items =
      fun a b => SortKey.compareHeads items (items.map (·.key a)) (items.map (·.key b)) := by
    funext a b
    rw [← compareKeyLists_keys, SortKey.compareKeyLists_eq_compareHeads (List.length_map _) (List.length_map _)]
  rw [this]
  exact hkeys

theorem mayPrecede_trans {items : List OrderItem} (a b c : Document) :
    mayPrecede items a b → mayPrecede items b c → mayPrecede items a c :=
  Std.TransCmp.isLE_trans

theorem mayPrecede_total {items : List OrderItem} (a b : Document) : mayPrecede items a b || mayPrecede items b a := by
  have h : compareDocuments items a b = (compareDocuments items b a).swap := Std.OrientedCmp.eq_swap
  unfold mayPrecede
  rw [h]
  cases compareDocuments items b a <;> rfl

/-! ### Merging and inserting -/

theorem sortDocuments_eq_mergeSort (items : List OrderItem) (docs : List Document) :
    sortDocuments items docs = docs.mergeSort (mayPrecede items) := by
  have hkeyed : ∀ a ∈ docs.map (fun doc => (items.map (·.key doc), doc)),
      ∀ b ∈ docs.map (fun doc => (items.map (·.key doc), doc)),
        (compareKeyLists items a.1 b.1 != .gt) = mayPrecede items a.2 b.2 := by
    intro a ha b hb
    obtain ⟨x, -, rfl⟩ := List.mem_map.mp ha
    obtain ⟨y, -, rfl⟩ := List.mem_map.mp hb
    rw [compareKeyLists_keys, mayPrecede]
    cases compareDocuments items x y <;> rfl
  have hdocs : (docs.map fun doc => (items.map (·.key doc), doc)).map Prod.snd = docs := by
    rw [List.map_map]
    exact List.map_id docs
  unfold sortDocuments
  rw [List.map_mergeSort hkeyed, hdocs]

/-- Of the items, sorting depends on the fields and the directions only. -/
theorem sortDocuments_eq_of_rules {items items' : List OrderItem} (h : items.map OrderItem.rule = items'.map OrderItem.rule)
    (docs : List Document) : sortDocuments items docs = sortDocuments items' docs := by
  rw [sortDocuments_eq_mergeSort, sortDocuments_eq_mergeSort, mayPrecede_eq_of_rules h]

/-- Merging a list sorts its first document in before those that it may precede. -/
theorem mergeSort_cons_eq_orderedInsert (items : List OrderItem) (doc : Document) (docs : List Document) :
    (doc :: docs).mergeSort (mayPrecede items) =
      (docs.mergeSort (mayPrecede items)).orderedInsert (mayPrecede items · ·) doc := by
  obtain ⟨before, after, hcons, htail, hbefore⟩ :=
    List.mergeSort_cons (@mayPrecede_trans items) mayPrecede_total doc docs
  have hsorted := List.pairwise_mergeSort (@mayPrecede_trans items) mayPrecede_total (doc :: docs)
  rw [hcons] at hsorted
  have hafter : ∀ b ∈ after, mayPrecede items doc b := (List.pairwise_cons.mp (List.pairwise_append.mp hsorted).2.1).1
  rw [hcons, htail, List.orderedInsert_eq_take_drop]
  have hstop : ∀ b ∈ before, decide (¬mayPrecede items doc b = true) = true := by simpa using hbefore
  rw [List.takeWhile_append_of_pos hstop, List.dropWhile_append_of_pos hstop]
  cases after with
  | nil => simp
  | cons b after => simp [hafter b List.mem_cons_self]

theorem sortDocuments_eq_insertionSort (items : List OrderItem) (docs : List Document) :
    sortDocuments items docs = docs.insertionSort (mayPrecede items · ·) := by
  rw [sortDocuments_eq_mergeSort]
  induction docs with
  | nil => rw [List.mergeSort_nil, List.insertionSort_nil]
  | cons doc docs ih => rw [mergeSort_cons_eq_orderedInsert, ih, List.insertionSort_cons]

end ClusterQuery
