import ClusterQuery.Proofs.Query.Pipeline
import ClusterQuery.Proofs.Result

/-! Cancelling a run. A run lists once, and only if everything that it needs for its answer is ready; where it then
    finds itself cancelled, it gives nothing, and else what a run gives that nobody cancels. A filter looks for a
    cancellation once for each wave, and how many waves it takes depends on the number of documents alone. -/

namespace ClusterQuery

/-! ### Waves -/

/-- How many waves `n` items take, `perWave` of them at a time. -/
def waveCount (perWave n : Nat) : Nat := (n + perWave - 1) / perWave

section Waves
variable {α : Type}

theorem waveCount_zero {perWave : Nat} (h : 0 < perWave) : waveCount perWave 0 = 0 :=
  Nat.div_eq_of_lt (by omega)

/-- The first wave takes items off the others. -/
theorem waveCount_pos {perWave n : Nat} (h : 0 < perWave) (hn : 0 < n) :
    waveCount perWave n = waveCount perWave (n - perWave) + 1 := by
  unfold waveCount
  rcases Nat.lt_or_ge n perWave with hlt | hge
  · have hrest : n - perWave + perWave - 1 < perWave := by omega
    rw [Nat.div_eq_of_lt hrest, Nat.div_eq_of_lt_le] <;> omega
  · have hsplit : n + perWave - 1 = n - perWave + perWave - 1 + perWave := by omega
    rw [hsplit, Nat.add_div_right _ h]

theorem snd_takeWave (size cpus : Nat) (items : List α) : (takeWave size cpus items).2 = items.drop (cpus * size) := by
  fun_induction takeWave size cpus items with
  | case1 items => rw [Nat.zero_mul, List.drop_zero]
  | case2 => rw [List.drop_nil]
  | case3 cpus item items batches rest he ih =>
    rw [he] at ih
    rw [ih, List.drop_drop, Nat.succ_mul, Nat.add_comm]

/-- A filter gives nothing if it is cancelled before one of its waves, and else all items that satisfy its condition. -/
theorem filterWaves_eq (keep : α → Bool) (size cpus : Nat) (cancelled : Nat → Bool) (wave : Nat) (items : List α) :
    filterWaves keep size cpus cancelled wave items =
      if ∃ w < waveCount ((cpus + 1) * (size + 1)) items.length, cancelled (wave + w) = true then none
      else some (items.filter keep) := by
  have hpos : 0 < (cpus + 1) * (size + 1) := Nat.mul_pos (Nat.succ_pos _) (Nat.succ_pos _)
  cases items with
  | nil =>
    have hnone : ¬∃ w < waveCount ((cpus + 1) * (size + 1)) 0, cancelled (wave + w) = true := by
      rintro ⟨w, hw, -⟩
      rw [waveCount_zero hpos] at hw
      exact Nat.not_lt_zero w hw
    rw [filterWaves, List.length_nil, if_neg hnone, List.filter_nil]
  | cons item items =>
    have hlt := length_takeWave_lt size cpus item items
    have hcount := waveCount_pos hpos (Nat.succ_pos items.length)
    cases hc : cancelled wave with
    | true =>
      have hfirst : 0 < waveCount ((cpus + 1) * (size + 1)) (item :: items).length := by
        rw [List.length_cons, hcount]
        exact Nat.succ_pos _
      rw [filterWaves, if_pos hc, if_pos ⟨0, hfirst, hc⟩]
    | false =>
      have hrest := filterWaves_eq keep size cpus cancelled (wave + 1) (takeWave (size + 1) (cpus + 1) (item :: items)).2
      -- The waves after this one are those of the rest.
      have hiff : (∃ w < waveCount ((cpus + 1) * (size + 1)) (takeWave (size + 1) (cpus + 1) (item :: items)).2.length,
            cancelled (wave + 1 + w) = true) ↔
          ∃ w < waveCount ((cpus + 1) * (size + 1)) (item :: items).length, cancelled (wave + w) = true := by
        rw [snd_takeWave, List.length_drop, List.length_cons, hcount, Nat.exists_lt_succ_left,
          show cancelled (wave + 0) = false from hc, or_iff_right Bool.false_ne_true]
        simp only [Nat.add_assoc, Nat.add_comm 1]
      rw [filterWaves_cons hc, hrest, if_congr hiff rfl rfl]
      split
      · rfl
      · rw [Option.map_some, ← List.filter_append, flatten_takeWave]
termination_by items.length
decreasing_by exact hlt

end Waves

/-! ### Runs -/

variable {ε : Type}

/-- Whether a run finds itself cancelled once its listing has ended: by a failure of the listing, or before one of
    the waves in which it filters what was listed. -/
def Cancellation.NoticedAfter (c : Cancellation) (filtered : Bool) (perWave : Nat → Nat) :
    Except ε (List Document) → Prop
  | .error _ => c.afterListing = true
  | .ok docs => filtered = true ∧ ∃ w < waveCount (perWave docs.length) docs.length, c.beforeWave w = true

namespace Plan

theorem keep_eq (p : Plan) (size cpus : Nat) (c : Cancellation) (docs : List Document) :
    p.keep size cpus c docs =
      if p.filter.isSome = true ∧ ∃ w < waveCount (max cpus 1 * max size 1) docs.length, c.beforeWave w = true then none
      else some (p.admitted docs) := by
  have hnever := p.keep_never size cpus docs
  unfold keep at hnever ⊢
  cases hfilter : p.filter with
  | none =>
    rw [hfilter] at hnever
    simpa using hnever
  | some condition =>
    rw [hfilter] at hnever
    obtain ⟨predicate, bindings⟩ := condition
    change filterWaves _ _ _ (fun _ => false) 0 docs = _ at hnever
    rw [filterWaves_of_never] at hnever
    have hsize : size - 1 + 1 = max size 1 := by omega
    have hcpus : cpus - 1 + 1 = max cpus 1 := by omega
    dsimp only
    rw [filterWaves_eq, hsize, hcpus, hnever]
    simp

/-- A run that has its listing is cancelled or goes on to the end. -/
theorem finish_eq_cancelled {p : Plan} {size cpus : Nat} {c : Cancellation} {listed : Except ε (List Document)}
    (h : c.NoticedAfter p.filter.isSome (fun _ => max cpus 1 * max size 1) listed) :
    p.finish size cpus c listed = .error .cancelled := by
  cases listed with
  | error cause => exact if_pos h
  | ok docs =>
    have hkeep : p.keep size cpus c docs = none := by rw [keep_eq]; exact if_pos h
    unfold finish
    dsimp only
    rw [hkeep]

theorem finish_eq_outcome {p : Plan} {size cpus : Nat} {c : Cancellation} {listed : Except ε (List Document)}
    (h : ¬c.NoticedAfter p.filter.isSome (fun _ => max cpus 1 * max size 1) listed) :
    p.finish size cpus c listed = p.outcome listed := by
  rw [← p.finish_never size cpus]
  cases listed with
  | error cause => exact if_neg h
  | ok docs =>
    have hkeep : p.keep size cpus c docs = p.keep size cpus .never docs := by
      rw [keep_eq, keep_never]
      exact if_neg h
    unfold finish
    dsimp only
    rw [hkeep]

theorem outcome_ne_cancelled (p : Plan) (listed : Except ε (List Document)) : p.outcome listed ≠ .error .cancelled := by
  intro h
  cases listed with
  | error cause => cases h
  | ok docs =>
    unfold outcome at h
    dsimp only at h
    cases hanswer : p.answer docs with
    | error e =>
      rw [hanswer] at h
      cases h
    | ok result =>
      rw [hanswer] at h
      cases h

end Plan

namespace Engine

/-- Whether something that does not depend on the cluster keeps a query from being answered: its columns cannot be
    told, its condition cannot be read, or an identifier of its condition stands for nothing. -/
def Unready (e : Engine) (q : Query) : Prop :=
  (∃ error, e.columns q = .error error) ∨
    ∃ text, q.filter = some text ∧
      ((∃ error, Predicate.parse text = .error error) ∨
        ∃ p error, Predicate.parse text = .ok p ∧ Bindings.resolve p q.selection.named e.aliases = .error error)

theorem condition_eq_error_iff (e : Engine) (q : Query) (text : String) :
    (∃ error, e.condition q text = .error error) ↔
      (∃ error, Predicate.parse text = .error error) ∨
        ∃ p error, Predicate.parse text = .ok p ∧ Bindings.resolve p q.selection.named e.aliases = .error error := by
  unfold condition
  rw [Except.exists_bind_eq_error_iff, Except.exists_mapError_eq_error_iff]
  simp only [Except.mapError_eq_ok_iff, Except.exists_bind_eq_error_iff, Except.not_exists_pure_eq_error, and_false,
    exists_false, or_false, exists_and_left]

theorem plan_eq_error_iff (e : Engine) (q : Query) : (∃ error, e.plan q = .error error) ↔ e.Unready q := by
  have hfilter : (∃ error, q.filter.mapM (e.condition q) = .error error) ↔
      ∃ text, q.filter = some text ∧ ∃ error, e.condition q text = .error error := by
    cases q.filter with
    | none => simp [pure, Except.pure]
    | some text =>
      simp only [Option.mapM_some, Option.some.injEq, exists_eq_left']
      cases e.condition q text <;> simp [Functor.map, Except.map]
  unfold plan Unready
  rw [Except.exists_bind_eq_error_iff]
  simp only [Except.exists_bind_eq_error_iff, Except.not_exists_pure_eq_error, and_false, exists_false, or_false, hfilter,
    condition_eq_error_iff]
  cases e.columns q <;> simp

theorem of_plan_eq_ok {e : Engine} {q : Query} {p : Plan} (h : e.plan q = .ok p) :
    p.source = q.source ∧ p.filter.isSome = q.filter.isSome := by
  obtain ⟨columns, -, condition, hcondition, rfl⟩ := plan_eq_ok_iff.mp h
  refine ⟨rfl, ?_⟩
  cases hfilter : q.filter with
  | none =>
    rw [hfilter] at hcondition
    cases hcondition
    rfl
  | some text =>
    rw [hfilter] at hcondition
    obtain ⟨read, -, rfl⟩ := Except.map_eq_ok_iff.mp hcondition
    rfl

/-- A run on a machine with `cpus` processors as one sees it from outside: what it gives, and what it asks its
    lister for. -/
structure Observed (ε : Type) where
  outcome : Except (RunError ε) QueryResult
  requests : List Source

/-- A run with a lister that keeps what it is asked for and gives the answers of `answer`. -/
def observe (e : Engine) (cpus : Nat) (c : Cancellation) (answer : Source → Except ε (List Document)) (q : Query) :
    Observed ε :=
  let list (source : Source) : StateM (List Source) (Except ε (List Document)) := fun asked =>
    (answer source, asked ++ [source])
  let (outcome, requests) := (e.run cpus c list q).run []
  ⟨outcome, requests⟩

theorem observe_of_error {e : Engine} {q : Query} {error : QueryError} (h : e.plan q = .error error) (cpus : Nat)
    (c : Cancellation) (answer : Source → Except ε (List Document)) :
    e.observe cpus c answer q = ⟨.error (.query error), []⟩ := by
  unfold observe run
  rw [h]
  rfl

theorem observe_of_cancelled {e : Engine} {q : Query} {p : Plan} (h : e.plan q = .ok p) {c : Cancellation}
    (hc : c.beforeListing = true) (cpus : Nat) (answer : Source → Except ε (List Document)) :
    e.observe cpus c answer q = ⟨.error .cancelled, []⟩ := by
  unfold observe run
  rw [h]
  simp only [hc]
  rfl

/-- How many documents a wave of a filter takes of `total` ones. -/
def perWave (e : Engine) (cpus total : Nat) : Nat := max cpus 1 * max (e.batchSizeFor total cpus) 1

theorem observe_of_plan {e : Engine} {q : Query} {p : Plan} (h : e.plan q = .ok p) {c : Cancellation}
    (hc : c.beforeListing = false) (cpus : Nat) (answer : Source → Except ε (List Document)) :
    ∃ size, (∀ docs, answer q.source = .ok docs → size = e.batchSizeFor docs.length cpus) ∧
      e.observe cpus c answer q = ⟨p.finish size cpus c (answer q.source), [q.source]⟩ := by
  unfold observe run
  rw [h, ← (of_plan_eq_ok h).1]
  simp only [hc]
  cases hlisted : answer p.source with
  | error cause =>
    refine ⟨e.batchSizeFor 0 cpus, ?_, rfl⟩
    intro docs h
    cases h
  | ok docs =>
    refine ⟨e.batchSizeFor docs.length cpus, ?_, rfl⟩
    intro docs' h
    cases h
    rfl

/-- A run that gets to list asks once; then it is cancelled or goes on to the end. -/
theorem observe_of_listing {e : Engine} {q : Query} {p : Plan} (h : e.plan q = .ok p) {c : Cancellation}
    (hc : c.beforeListing = false) (cpus : Nat) (answer : Source → Except ε (List Document)) :
    (e.observe cpus c answer q).requests = [q.source] ∧
      (c.NoticedAfter q.filter.isSome (e.perWave cpus) (answer q.source) →
        (e.observe cpus c answer q).outcome = .error .cancelled) ∧
      (¬c.NoticedAfter q.filter.isSome (e.perWave cpus) (answer q.source) →
        (e.observe cpus c answer q).outcome = p.outcome (answer q.source)) := by
  obtain ⟨size, hsize, hobserve⟩ := observe_of_plan h hc cpus answer
  have hiff : c.NoticedAfter p.filter.isSome (fun _ => max cpus 1 * max size 1) (answer q.source) ↔
      c.NoticedAfter q.filter.isSome (e.perWave cpus) (answer q.source) := by
    rw [(of_plan_eq_ok h).2]
    cases hlisted : answer q.source with
    | error cause => exact Iff.rfl
    | ok docs =>
      rw [hsize docs hlisted]
      exact Iff.rfl
  rw [hobserve]
  exact ⟨rfl, fun hn => Plan.finish_eq_cancelled (hiff.mpr hn), fun hn => Plan.finish_eq_outcome (mt hiff.mp hn)⟩

theorem not_noticedAfter_never (filtered : Bool) (perWave : Nat → Nat) (listed : Except ε (List Document)) :
    ¬Cancellation.never.NoticedAfter filtered perWave listed := by
  cases listed with
  | error cause => exact Bool.false_ne_true
  | ok docs => exact fun ⟨_, _, _, h⟩ => Bool.false_ne_true h

/-- A run asks its lister once, for the source of its query, or not at all: where the query cannot be answered
    whatever the cluster holds, and where the run is cancelled before. It gives what the run gives that nobody
    cancels, or nothing but that it is cancelled. The latter is the case exactly if it is cancelled before it
    lists, by a failure of the listing, or before one of the waves of its filter; so a listing that fails
    in a cancelled run counts as cancelled. -/
theorem observe_all_or_nothing (e : Engine) (q : Query) (cpus : Nat) (c : Cancellation)
    (answer : Source → Except ε (List Document)) :
    ((e.observe cpus c answer q).requests = [] ∨ (e.observe cpus c answer q).requests = [q.source]) ∧
    ((e.observe cpus c answer q).requests = [] ↔ e.Unready q ∨ c.beforeListing = true) ∧
    ((e.observe cpus c answer q).outcome = .error .cancelled ∨
      (e.observe cpus c answer q).outcome = (e.observe cpus .never answer q).outcome) ∧
    ((e.observe cpus c answer q).outcome = .error .cancelled ↔
      ¬e.Unready q ∧
        (c.beforeListing = true ∨ c.NoticedAfter q.filter.isSome (e.perWave cpus) (answer q.source))) ∧
    ∀ cause, answer q.source = .error cause → (e.observe cpus c answer q).requests = [q.source] →
      (e.observe cpus c answer q).outcome =
        if c.afterListing then .error .cancelled else .error (.fetch q.source.resource cause) := by
  cases hplan : e.plan q with
  | error error =>
    have hunready : e.Unready q := (plan_eq_error_iff e q).mp ⟨error, hplan⟩
    rw [observe_of_error hplan cpus c answer, observe_of_error hplan cpus .never answer]
    refine ⟨Or.inl rfl, iff_of_true rfl (Or.inl hunready), Or.inr rfl, iff_of_false ?_ fun h => h.1 hunready, ?_⟩
    · intro h
      cases h
    · intro cause _ h
      cases h
  | ok p =>
    have hready : ¬e.Unready q := by
      rw [← plan_eq_error_iff, hplan]
      rintro ⟨error, h⟩
      cases h
    cases hc : c.beforeListing with
    | true =>
      rw [observe_of_cancelled hplan hc cpus answer]
      refine ⟨Or.inl rfl, iff_of_true rfl (Or.inr rfl), Or.inl rfl, iff_of_true rfl ⟨hready, Or.inl rfl⟩, ?_⟩
      intro cause _ h
      cases h
    | false =>
      obtain ⟨hrequests, hcancelled, hended⟩ := observe_of_listing hplan hc cpus answer
      have hnever := (observe_of_listing hplan (c := .never) rfl cpus answer).2.2 (not_noticedAfter_never _ _ _)
      refine ⟨Or.inr hrequests, iff_of_false ?_ ?_, ?_, ?_, ?_⟩
      · rw [hrequests]
        exact List.cons_ne_nil _ _
      · rintro (h | h)
        · exact hready h
        · cases h
      · rw [hnever]
        exact (em _).imp hcancelled hended
      · constructor
        · intro h
          refine ⟨hready, Or.inr (by_contra fun hn => ?_)⟩
          exact p.outcome_ne_cancelled _ ((hended hn).symm.trans h)
        · rintro ⟨-, h | h⟩
          · cases h
          · exact hcancelled h
      · intro cause hlisted _
        rw [hlisted] at hcancelled hended
        split
        · next hafter => exact hcancelled hafter
        · next hafter =>
          rw [hended hafter, ← (of_plan_eq_ok hplan).1]
          rfl

end Engine

end ClusterQuery
