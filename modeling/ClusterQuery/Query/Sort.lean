import ClusterQuery.Query.Basic
import ClusterQuery.Value.Order

/-!
Sorting documents by several fields. The first field that tells two documents apart decides; documents that
none tells apart keep their order.
-/

namespace ClusterQuery

namespace OrderItem

/-- What a document is sorted by. A value that cannot be computed counts as absent. -/
def key (o : OrderItem) (doc : Document) : SortKey :=
  match o.item.field.value doc with
  | .ok v => .ofValue v
  | .error _ => .ofValue none

/-- The order of two keys in the direction of the item. -/
def compareKeys (o : OrderItem) (a b : SortKey) : Ordering := if o.descending then (a.compare b).swap else a.compare b

end OrderItem

/-- The order of two lists of keys. -/
def compareKeyLists : List OrderItem → List SortKey → List SortKey → Ordering
  | o :: items, a :: as, b :: bs => (o.compareKeys a b).then (compareKeyLists items as bs)
  | _, _, _ => .eq

/-- Documents in order. The keys of a document are computed once. -/
def sortDocuments (items : List OrderItem) (docs : List Document) : List Document :=
  let keyed := docs.map fun doc => (items.map (·.key doc), doc)
  (keyed.mergeSort fun a b => compareKeyLists items a.1 b.1 != .gt).map Prod.snd

end ClusterQuery
