import ClusterQuery.Proofs.Value.SortKey
import ClusterQuery.Query.Sort

/-! Values are totally preordered by their keys, and lists of values by the lists of their keys, where every item
    compares in its own direction. A list is compared head by head, which is an order on all lists of keys; on lists
    with a key for each item it is the order that documents are sorted by. -/

namespace ClusterQuery

/-! ### Directions -/

namespace OrderItem

theorem compareKeys_of_descending {o : OrderItem} (h : o.descending = true) :
    o.compareKeys = fun a b => SortKey.compare b a := by
  funext a b
  rw [compareKeys, if_pos h]
  exact Std.OrientedCmp.eq_swap.symm

theorem compareKeys_of_ascending {o : OrderItem} (h : o.descending = false) : o.compareKeys = SortKey.compare := by
  funext a b
  simp [compareKeys, h]

instance (o : OrderItem) : Std.TransCmp o.compareKeys := by
  cases h : o.descending with
  | true =>
    rw [compareKeys_of_descending h]
    exact Std.TransCmp.opposite
  | false =>
    rw [compareKeys_of_ascending h]
    infer_instance

end OrderItem

/-! ### Lists of keys -/

namespace SortKey
variable {items : List OrderItem} {as bs : List SortKey}

/-- The order of two lists by their first keys, one for each item; a key that is missing counts as absent. -/
def compareHeads : List OrderItem → List SortKey → List SortKey → Ordering
  | [], _, _ => .eq
  | o :: items, as, bs =>
    (o.compareKeys (as.headD .absent) (bs.headD .absent)).then (compareHeads items as.tail bs.tail)

instance transCmp_compareHeads (items : List OrderItem) : Std.TransCmp (compareHeads items) := by
  induction items with
  | nil => exact { eq_swap := rfl, isLE_trans := fun _ _ => rfl }
  | cons o items ih =>
    have hhead := transCmp_on o.compareKeys fun keys : List SortKey => keys.headD .absent
    have htail := transCmp_on (compareHeads items) (List.tail (α := SortKey))
    have : compareHeads (o :: items) =
        compareLex (fun as bs => o.compareKeys (as.headD .absent) (bs.headD .absent))
          (fun as bs => compareHeads items as.tail bs.tail) := rfl
    rw [this]
    infer_instance

theorem compareKeyLists_eq_compareHeads (ha : as.length = items.length) (hb : bs.length = items.length) :
    compareKeyLists items as bs = compareHeads items as bs := by
  induction items generalizing as bs with
  | nil =>
    obtain rfl := List.length_eq_zero_iff.mp ha
    rfl
  | cons o items ih =>
    obtain ⟨a, as, rfl⟩ := List.exists_cons_of_length_eq_add_one ha
    obtain ⟨b, bs, rfl⟩ := List.exists_cons_of_length_eq_add_one hb
    rw [compareKeyLists, ih (Nat.succ.inj ha) (Nat.succ.inj hb)]
    rfl

/-- By its key, every value, absent or not, ties with itself, swapped values compare the other way round, and what
    is not above a second value, which is not above a third, is not above the third. The same holds of lists of values
    with one value for each of some items, compared by their keys in order and in the directions of the items. -/
theorem values_totally_preordered :
    (∀ a b c : Option Value,
      (ofValue a).compare (ofValue a) = .eq ∧
      (ofValue b).compare (ofValue a) = ((ofValue a).compare (ofValue b)).swap ∧
      (((ofValue a).compare (ofValue b)).isLE → ((ofValue b).compare (ofValue c)).isLE →
        ((ofValue a).compare (ofValue c)).isLE)) ∧
    ∀ (items : List OrderItem) (as bs cs : List (Option Value)),
      as.length = items.length → bs.length = items.length → cs.length = items.length →
        compareKeyLists items (as.map ofValue) (as.map ofValue) = .eq ∧
        compareKeyLists items (bs.map ofValue) (as.map ofValue) =
          (compareKeyLists items (as.map ofValue) (bs.map ofValue)).swap ∧
        ((compareKeyLists items (as.map ofValue) (bs.map ofValue)).isLE →
          (compareKeyLists items (bs.map ofValue) (cs.map ofValue)).isLE →
            (compareKeyLists items (as.map ofValue) (cs.map ofValue)).isLE) := by
  refine ⟨fun a b c => ⟨Std.ReflCmp.compare_self, Std.OrientedCmp.eq_swap, Std.TransCmp.isLE_trans⟩, ?_⟩
  intro items as bs cs ha hb hc
  have hkeys {vs ws : List (Option Value)} (hv : vs.length = items.length) (hw : ws.length = items.length) :
      compareKeyLists items (vs.map ofValue) (ws.map ofValue) = compareHeads items (vs.map ofValue) (ws.map ofValue) :=
    compareKeyLists_eq_compareHeads (by rw [List.length_map, hv]) (by rw [List.length_map, hw])
  rw [hkeys ha ha, hkeys ha hb, hkeys hb ha, hkeys hb hc, hkeys ha hc]
  exact ⟨Std.ReflCmp.compare_self, Std.OrientedCmp.eq_swap, Std.TransCmp.isLE_trans⟩

/-- A number that is not one, a quantity and a whole number, ordered by size from the greatest on, and by date where
    the sizes are equal. -/
theorem values_totally_preordered_of_sizes :
    let size : OrderItem := ⟨⟨⟨⟨[.key "size"]⟩, none⟩, "size", false⟩, true⟩
    let date : OrderItem := ⟨⟨⟨⟨[.key "date"]⟩, none⟩, "date", false⟩, false⟩
    let first : List (Option Value) := [some (.float (.nan false)), some (.text "2024-01-01")]
    let second : List (Option Value) := [some (.text "2Ki"), none]
    let third : List (Option Value) := [some (.int 2048), some (.text "2024-01-01")]
    ((ofValue (some (.text "2Ki"))).compare (ofValue (some (.float (.nan false))))).isLE ∧
      (compareKeyLists [size, date] (first.map ofValue) (second.map ofValue)).isLE ∧
      (compareKeyLists [size, date] (second.map ofValue) (third.map ofValue)).isLE ∧
      (compareKeyLists [size, date] (first.map ofValue) (third.map ofValue)).isLE := by
  intro size date first second third
  have hsizes : ((ofValue (some (.text "2Ki"))).compare (ofValue (some (.int 2048)))).isLE = true := by decide +kernel
  have hnan : ((ofValue (some (.int 2048))).compare (ofValue (some (.float (.nan false))))).isLE = true := by
    decide +kernel
  have hfront : (compareKeyLists [size, date] (first.map ofValue) (second.map ofValue)).isLE = true := by
    decide +kernel
  have hback : (compareKeyLists [size, date] (second.map ofValue) (third.map ofValue)).isLE = true := by
    decide +kernel
  exact ⟨(values_totally_preordered.1 _ _ _).2.2 hsizes hnan, hfront, hback,
    (values_totally_preordered.2 [size, date] first second third rfl rfl rfl).2.2 hfront hback⟩

end SortKey

end ClusterQuery
