/-!
Filtering in batches. The processors of a machine each take a batch at a time; such a wave of batches is
finished before the next one begins, and between waves a run can be cancelled.
-/

namespace ClusterQuery

/-- Batches are not smaller than this where there are more documents. -/
def leastBatch : Nat := 100

/-- How many batches each processor should get. -/
def batchesPerCpu : Nat := 4

/-- How many documents make a batch. -/
def batchSize (total cpus : Nat) : Nat :=
  let size := total / (max cpus 1 * batchesPerCpu)
  if size < leastBatch ∧ leastBatch < total then leastBatch else max size 1

variable {α : Type}

/-- The next batches, at most `cpus` of them, and what is left. -/
def takeWave (size : Nat) : Nat → List α → List (List α) × List α
  | 0, items => ([], items)
  | _ + 1, [] => ([], [])
  | cpus + 1, item :: items =>
    let (batches, rest) := takeWave size cpus ((item :: items).drop size)
    ((item :: items).take size :: batches, rest)

theorem length_takeWave_le (size cpus : Nat) (items : List α) :
    (takeWave size cpus items).2.length ≤ items.length := by
  fun_induction takeWave size cpus items with
  | case1 => simp
  | case2 => simp
  | case3 cpus item items batches rest he ih =>
    rw [he] at ih
    simp at ih ⊢
    omega

theorem length_takeWave_lt (size cpus : Nat) (item : α) (items : List α) :
    (takeWave (size + 1) (cpus + 1) (item :: items)).2.length < (item :: items).length := by
  have := length_takeWave_le (size + 1) cpus ((item :: items).drop (size + 1))
  simp only [takeWave]
  simp at this ⊢
  omega

/-- The items that are kept, in order; nothing if the run is cancelled before one of its waves. A batch has
    `size + 1` items and a wave `cpus + 1` batches. -/
def filterWaves (keep : α → Bool) (size cpus : Nat) (cancelled : Nat → Bool) (wave : Nat) (items : List α) :
    Option (List α) :=
  match items with
  | [] => some []
  | item :: rest =>
    if cancelled wave then none
    else
      have := length_takeWave_lt size cpus item rest
      let next := takeWave (size + 1) (cpus + 1) (item :: rest)
      (filterWaves keep size cpus cancelled (wave + 1) next.2).map
        (next.1.flatMap (fun batch => batch.filter keep) ++ ·)
termination_by items.length
decreasing_by exact this

end ClusterQuery
