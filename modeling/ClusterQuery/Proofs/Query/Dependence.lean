import Mathlib
import ClusterQuery.Proofs.Predicate.Identifiers
import ClusterQuery.Proofs.Query.Cancellation

/-! What an answer depends on. A run looks at a document through the identifiers of its condition, the items of its
    order and its columns only: where two listings agree on these place by place, keeping and sorting take the same
    places of both, and the rows that are filled from them are equal. -/

namespace ClusterQuery

/-! ### Lists that are related place by place -/

section Lists
variable {α β γ ε : Type} {R : α → α → Prop} {le : α → α → Bool}

/-- Elements that compare alike are inserted at the same place. -/
theorem forall₂_orderedInsert (hle : ∀ a b c d, R a b → R c d → le a c = le b d) {a b : α} (hab : R a b)
    {l k : List α} (h : List.Forall₂ R l k) :
    List.Forall₂ R (l.orderedInsert (le · ·) a) (k.orderedInsert (le · ·) b) := by
  induction h with
  | nil => exact .cons hab .nil
  | @cons c d l k hcd hlk ih =>
    rw [List.orderedInsert_cons, List.orderedInsert_cons, hle a b c d hab hcd]
    split
    · exact .cons hab (.cons hcd hlk)
    · exact .cons hcd ih

theorem forall₂_insertionSort (hle : ∀ a b c d, R a b → R c d → le a c = le b d) {l k : List α}
    (h : List.Forall₂ R l k) : List.Forall₂ R (l.insertionSort (le · ·)) (k.insertionSort (le · ·)) := by
  induction h with
  | nil => exact .nil
  | cons hab _ ih =>
    rw [List.insertionSort_cons, List.insertionSort_cons]
    exact forall₂_orderedInsert hle hab ih

/-- Equal results, place by place, are equal up to the first failure. -/
theorem mapM_eq_of_forall₂ {f : α → Except ε β} {g : γ → Except ε β} {l : List α} {k : List γ}
    (h : List.Forall₂ (fun a b => f a = g b) l k) : l.mapM f = k.mapM g := by
  induction h with
  | nil => rfl
  | cons hab _ ih => rw [List.mapM_cons, List.mapM_cons, hab, ih]

end Lists

/-! ### What a plan asks of a document -/

theorem compareDocuments_congr {items : List OrderItem} {a b c d : Document}
    (hab : ∀ o ∈ items, o.key a = o.key b) (hcd : ∀ o ∈ items, o.key c = o.key d) : compareDocuments items a c = compareDocuments items b d := by
  induction items with
  | nil => rfl
  | cons o items ih =>
    obtain ⟨ha, hab⟩ := List.forall_mem_cons.mp hab
    obtain ⟨hc, hcd⟩ := List.forall_mem_cons.mp hcd
    rw [compareDocuments, compareDocuments, ha, hc, ih hab hcd]

theorem Row.fill_congr {columns : List SelectItem} {a b : Document}
    (h : ∀ c ∈ columns, c.field.value a = c.field.value b) : fill a columns = fill b columns := by
  induction columns with
  | nil => rfl
  | cons c columns ih =>
    obtain ⟨hc, h⟩ := List.forall_mem_cons.mp h
    rw [fill, fill, hc, ih h]

namespace Plan

/-- Documents that give the same, a value or an error, wherever a plan asks them: for every identifier of its
    condition, every key of its order and every column. -/
structure Alike (p : Plan) (a b : Document) : Prop where
  identifiers : ∀ predicate bindings, p.filter = some (predicate, bindings) →
    ∀ name ∈ predicate.identifiers, bindings.lookup a name = bindings.lookup b name
  keys : ∀ o ∈ p.orderBy, o.key a = o.key b
  cells : ∀ c ∈ p.columns, c.field.value a = c.field.value b

variable {p : Plan} {a b c d : Document} {docs docs' : List Document}

theorem Alike.holds_eq (h : p.Alike a b) {predicate : Predicate} {bindings : Bindings}
    (hfilter : p.filter = some (predicate, bindings)) : bindings.holds predicate a = bindings.holds predicate b := by
  have heval : predicate.evaluate (bindings.lookup a) = predicate.evaluate (bindings.lookup b) :=
    Predicate.Expr.eval_congr (h.identifiers predicate bindings hfilter)
  unfold Bindings.holds Predicate.holds
  rw [heval]

theorem Alike.mayPrecede_eq (hab : p.Alike a b) (hcd : p.Alike c d) :
    mayPrecede p.orderBy a c = mayPrecede p.orderBy b d := by
  unfold mayPrecede
  rw [compareDocuments_congr hab.keys hcd.keys]

/-! ### The steps of a run -/

theorem forall₂_admitted (h : List.Forall₂ p.Alike docs docs') :
    List.Forall₂ p.Alike (p.admitted docs) (p.admitted docs') := by
  unfold admitted
  split
  · exact h
  · next predicate bindings hfilter =>
    refine List.rel_filter (fun a b hab => ?_) h
    dsimp only
    rw [hab.holds_eq hfilter]

theorem fill_congr (h : List.Forall₂ p.Alike docs docs') : p.fill docs = p.fill docs' := by
  have hsorted : List.Forall₂ p.Alike (sortDocuments p.orderBy docs) (sortDocuments p.orderBy docs') := by
    rw [sortDocuments_eq_insertionSort, sortDocuments_eq_insertionSort]
    have hle : ∀ a b c d, p.Alike a b → p.Alike c d → mayPrecede p.orderBy a c = mayPrecede p.orderBy b d :=
      fun _ _ _ _ => Alike.mayPrecede_eq
    exact forall₂_insertionSort hle h
  have hrow : ∀ a b, p.Alike a b → Row.fill a p.columns = Row.fill b p.columns := fun _ _ hab => Row.fill_congr hab.cells
  unfold fill
  refine congrArg (Except.map QueryResult.ofRows) (mapM_eq_of_forall₂ (List.Forall₂.imp hrow ?_))
  split
  · exact List.forall₂_take _ hsorted
  · exact hsorted

theorem outcome_congr {ε : Type} (h : List.Forall₂ p.Alike docs docs') :
    p.outcome (ε := ε) (.ok docs) = p.outcome (.ok docs') := by
  have hanswer : p.answer docs = p.answer docs' := by
    rw [← fill_admitted, ← fill_admitted, fill_congr (forall₂_admitted h)]
  unfold outcome
  dsimp only
  rw [hanswer]

end Plan

namespace Engine

/-- Listings that agree, place by place, on what a query asks of a document give runs that nobody cancels the same
    outcome and the same request, on any two machines: equal columns and rows, or the same error. -/
theorem observe_eq_of_alike {ε : Type} (e : Engine) (q : Query) (cpus cpus' : Nat)
    (answer answer' : Source → Except ε (List Document)) (docs docs' : List Document)
    (hdocs : answer q.source = .ok docs) (hdocs' : answer' q.source = .ok docs')
    (halike : ∀ p, e.plan q = .ok p → List.Forall₂ p.Alike docs docs') :
    e.observe cpus .never answer q = e.observe cpus' .never answer' q := by
  cases hplan : e.plan q with
  | error error => rw [observe_of_error hplan, observe_of_error hplan]
  | ok p =>
    obtain ⟨size, -, hrun⟩ := observe_of_plan hplan (c := .never) rfl cpus answer
    obtain ⟨size', -, hrun'⟩ := observe_of_plan hplan (c := .never) rfl cpus' answer'
    rw [hrun, hrun', Plan.finish_never, Plan.finish_never, hdocs, hdocs', Plan.outcome_congr (halike p hplan)]

/-- Pods that differ in their node only, which the query does not mention. -/
theorem observe_eq_of_other_node :
    let e : Engine := ⟨.builtin, .builtin, some 1⟩
    let column : SelectItem := ⟨⟨⟨[.key "name"]⟩, none⟩, "n", true⟩
    let q : Query := ⟨.only [column], ⟨"pods", .current⟩, some "o='x'", [⟨column, true⟩], some 1⟩
    let pod (name node : String) : Document := .object [("name", .string name), ("o", .string "x"), ("node", .string node)]
    let list (node : String) : Source → Except String (List Document) := fun _ => .ok [pod "a" node, pod "b" node]
    (∀ p, e.plan q = .ok p → List.Forall₂ p.Alike [pod "a" "m", pod "b" "m"] [pod "a" "k", pod "b" "k"]) ∧
      e.observe 2 .never (list "m") q = e.observe 1 .never (list "k") q := by
  intro e column q pod list
  let plan : Plan := ⟨q.source, [column],
    some (⟨"o='x'", .compare .eq (.ident "o") (.literal (.text "x"))⟩, ⟨[("o", ⟨⟨[.key "o"]⟩, none⟩)]⟩),
    [⟨column, true⟩], some 1⟩
  have hplan : e.plan q = .ok plan := by cbv
  have hpod (name : String) : plan.Alike (pod name "m") (pod name "k") := by
    refine ⟨?_, ?_, ?_⟩
    · rintro _ _ ⟨⟩ n hn
      obtain rfl := List.mem_singleton.mp (Predicate.Expr.mem_identifiers.mp hn)
      rfl
    · intro o ho
      obtain rfl := List.mem_singleton.mp ho
      rfl
    · intro c hc
      obtain rfl := List.mem_singleton.mp hc
      rfl
  have halike : ∀ p, e.plan q = .ok p → List.Forall₂ p.Alike [pod "a" "m", pod "b" "m"] [pod "a" "k", pod "b" "k"] := by
    intro p hp
    rw [hplan] at hp
    cases hp
    exact .cons (hpod "a") (.cons (hpod "b") .nil)
  exact ⟨halike, observe_eq_of_alike e q 2 1 (list "m") (list "k") _ _ rfl rfl halike⟩

end Engine

end ClusterQuery
