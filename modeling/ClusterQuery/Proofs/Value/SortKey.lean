import ClusterQuery.Value.Order
import Mathlib.Data.List.Sort

/-! Sort keys are totally preordered. A key is compared by its class and, inside a class, by what it
    holds; written as one lexicographic order over all classes, the laws come from those of the parts. -/

namespace ClusterQuery

namespace Instant

theorem compare_eq_lex : Instant.compare = compareLex (compareOn day) (compareLex (compareOn second) (compareOn nano)) :=
  rfl

instance : Std.TransCmp Instant.compare := by
  rw [compare_eq_lex]
  infer_instance

end Instant

theorem Binary64.totalCompare_eq_compareOn : Binary64.totalCompare = compareOn Binary64.rank := rfl

instance : Std.TransCmp Binary64.totalCompare := by
  rw [Binary64.totalCompare_eq_compareOn]
  infer_instance

namespace SortKey

/-! ### What a key holds

Each reads one class of keys and is the same for all others. -/

def heldBool : SortKey → Bool
  | .bool b => b
  | _ => false

def heldNumber : SortKey → Binary64
  | .number x => x
  | _ => .zero

def heldDate : SortKey → Instant
  | .date d => d
  | _ => default

def heldText : SortKey → List Char
  | .text cs => cs
  | _ => []

/-- The order of two keys by what they hold, for keys of one class. -/
def compareHeld (a b : SortKey) : Ordering :=
  (Ord.compare a.heldBool b.heldBool).then ((a.heldNumber.totalCompare b.heldNumber).then
    ((a.heldDate.compare b.heldDate).then (Ord.compare a.heldText b.heldText)))

theorem compare_eq_then (a b : SortKey) :
    a.compare b = (Ord.compare a.classRank b.classRank).then (compareHeld a b) := by
  have hn : Binary64.zero.totalCompare .zero = .eq := Std.ReflCmp.compare_self
  have hd : (default : Instant).compare default = .eq := Std.ReflCmp.compare_self
  cases a <;> cases b <;>
    simp [compare, classRank, compareHeld, heldBool, heldNumber, heldDate, heldText, hn, hd] <;> rfl

theorem compare_eq_lex : SortKey.compare =
    compareLex (compareOn classRank) (compareLex (compareOn heldBool)
      (compareLex (fun a b => a.heldNumber.totalCompare b.heldNumber)
        (compareLex (fun a b => a.heldDate.compare b.heldDate) (compareOn heldText)))) := by
  funext a b
  exact compare_eq_then a b

/-- Comparing by a part keeps the laws of the order of the parts. -/
theorem transCmp_on {α β : Type} (cmp : β → β → Ordering) [Std.TransCmp cmp] (f : α → β) :
    Std.TransCmp fun a b => cmp (f a) (f b) where
  eq_swap := Std.OrientedCmp.eq_swap
  isLE_trans := Std.TransCmp.isLE_trans

instance : Std.TransCmp SortKey.compare := by
  have hn := transCmp_on Binary64.totalCompare heldNumber
  have hd := transCmp_on Instant.compare heldDate
  rw [compare_eq_lex]
  infer_instance

end SortKey

end ClusterQuery
