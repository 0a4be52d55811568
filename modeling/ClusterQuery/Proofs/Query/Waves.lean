import ClusterQuery.Query.Batch

/-! Filtering in waves of batches keeps what filtering at once keeps. A wave cuts a list into batches and a
    rest, which together are the list, so no item is lost, repeated or moved, whatever the sizes. -/

namespace ClusterQuery

variable {α : Type}

theorem flatten_takeWave (size cpus : Nat) (items : List α) :
    (takeWave size cpus items).1.flatten ++ (takeWave size cpus items).2 = items := by
  fun_induction takeWave size cpus items with
  | case1 items => rfl
  | case2 => rfl
  | case3 cpus item items batches rest he ih =>
    rw [he] at ih
    rw [List.flatten_cons, List.append_assoc, ih, List.take_append_drop]

theorem filterWaves_cons {keep : α → Bool} {size cpus : Nat} {cancelled : Nat → Bool} {wave : Nat} {item : α}
    {items : List α} (hc : cancelled wave = false) :
    filterWaves keep size cpus cancelled wave (item :: items) =
      (filterWaves keep size cpus cancelled (wave + 1) (takeWave (size + 1) (cpus + 1) (item :: items)).2).map
        ((takeWave (size + 1) (cpus + 1) (item :: items)).1.flatten.filter keep ++ ·) := by
  rw [filterWaves, hc, List.filter_flatten, ← List.flatMap_def]
  rfl

/-- A filter that nobody cancels keeps the items that satisfy its condition, in order. -/
theorem filterWaves_of_never (keep : α → Bool) (size cpus wave : Nat) (items : List α) :
    filterWaves keep size cpus (fun _ => false) wave items = some (items.filter keep) := by
  match items with
  | [] => rw [filterWaves, List.filter_nil]
  | item :: items =>
    have hlt := length_takeWave_lt size cpus item items
    rw [filterWaves_cons rfl, filterWaves_of_never keep size cpus (wave + 1) (takeWave (size + 1) (cpus + 1) (item :: items)).2,
      Option.map_some, ← List.filter_append, flatten_takeWave]
termination_by items.length
decreasing_by exact hlt

end ClusterQuery
