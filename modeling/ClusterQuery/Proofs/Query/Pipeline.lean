import ClusterQuery.Proofs.Query.Sort
import ClusterQuery.Proofs.Query.Waves
import ClusterQuery.Proofs.Result
import ClusterQuery.Query.Engine

/-! Running a query is a pipeline of four steps, each over all documents: keep the documents of which the
    condition is known to hold, sort them, take the first ones, and fill a row for each. A run that nobody
    cancels answers what the pipeline answers, however its filter is cut into batches. -/

namespace ClusterQuery

/-! ### The pipeline -/

namespace SelectItem

/-- Why a cell cannot be filled: the reducer of its column meets a value that is there and is no list. -/
def fault? (c : SelectItem) (doc : Document) : Option Reducer.Error :=
  match c.field.reducer, c.field.path.extract doc with
  | none, _ | _, none | _, some (.list _) => none
  | some r, some v => some (.notAList r v.typeName)

/-- What a cell holds where nothing is wrong with it. -/
def cell (c : SelectItem) (doc : Document) : Option Value :=
  match c.field.reducer, c.field.path.extract doc with
  | none, v => v
  | some r, some (.list items) => some (r.reduce items)
  | some _, _ => none

theorem value_eq (c : SelectItem) (doc : Document) :
    c.field.value doc = (c.fault? doc).elim (.ok (c.cell doc)) .error := by
  unfold Field.value fault? cell
  cases c.field.reducer with
  | none => rfl
  | some r =>
    cases c.field.path.extract doc with
    | none => rfl
    | some v => cases v <;> rfl

end SelectItem

/-- What the row of a document holds where nothing is wrong with its cells. -/
def Row.filled (columns : List SelectItem) (doc : Document) : Row columns :=
  ⟨columns.map (·.cell doc), List.length_map _⟩

namespace Plan

/-- The documents of which the condition is known to hold: evaluating it succeeds, and with true. -/
def admitted (p : Plan) (docs : List Document) : List Document :=
  match p.filter with
  | none => docs
  | some (predicate, bindings) => docs.filter fun doc => bindings.holds predicate doc matches .ok true

/-- The documents that the answer shows, in order. Sorting inserts each document before those that it may
    precede, which keeps the order of documents that no item tells apart. -/
def shown (p : Plan) (docs : List Document) : List Document :=
  let sorted := (p.admitted docs).insertionSort (mayPrecede p.orderBy · ·)
  match p.limit with
  | none => sorted
  | some n => sorted.take n

/-- The answer: a cell for every column of every document shown, or what is wrong with the first cell, row by
    row, that cannot be filled. -/
def answer (p : Plan) (docs : List Document) : Except Reducer.Error QueryResult :=
  match ((p.shown docs).product p.columns).findSome? fun (doc, c) => c.fault? doc with
  | some e => .error e
  | none => .ok (.ofRows ((p.shown docs).map (Row.filled p.columns)))

/-- The outcome of a run that is not cancelled, from what listing gave. -/
def outcome {ε : Type} (p : Plan) (listed : Except ε (List Document)) : Except (RunError ε) QueryResult :=
  match listed with
  | .error cause => .error (.fetch p.source.resource cause)
  | .ok docs => (p.answer docs).mapError fun e => .query (.reducer e)

end Plan

/-- Of the order, the outcome depends on the fields and the directions only. -/
theorem Plan.outcome_eq_of_rules {ε : Type} {p : Plan} {items : List OrderItem}
    (h : p.orderBy.map OrderItem.rule = items.map OrderItem.rule) (listed : Except ε (List Document)) :
    p.outcome listed = Plan.outcome { p with orderBy := items } listed := by
  have hshown : p.shown = Plan.shown { p with orderBy := items } := by
    funext docs
    unfold shown
    rw [mayPrecede_eq_of_rules h]
    rfl
  unfold outcome answer
  rw [hshown]

theorem Plan.finish_eq_of_rules {ε : Type} {p : Plan} {items : List OrderItem}
    (h : p.orderBy.map OrderItem.rule = items.map OrderItem.rule) (size cpus : Nat) (c : Cancellation)
    (listed : Except ε (List Document)) :
    p.finish size cpus c listed = Plan.finish { p with orderBy := items } size cpus c listed := by
  have hfill : p.fill = Plan.fill { p with orderBy := items } := by
    funext docs
    unfold fill
    rw [sortDocuments_eq_of_rules h]
  unfold finish
  rw [hfill]
  rfl

/-! ### Filling rows -/

/-- Computing parts in order fails with the first failure and else gives all of them. -/
theorem mapM_eq_findSome? {α β ε : Type} {f : α → Except ε β} {fault : α → Option ε} {g : α → β}
    (hf : ∀ a, f a = (fault a).elim (.ok (g a)) .error) (items : List α) :
    items.mapM f = (items.findSome? fault).elim (.ok (items.map g)) .error := by
  induction items with
  | nil => rfl
  | cons a items ih =>
    rw [List.mapM_cons, hf a, List.findSome?_cons, ih]
    cases fault a with
    | some e => rfl
    | none => cases items.findSome? fault <;> rfl

theorem Row.fill_eq (doc : Document) (columns : List SelectItem) :
    fill doc columns = (columns.findSome? (·.fault? doc)).elim (.ok (filled columns doc)) .error := by
  induction columns with
  | nil => rfl
  | cons c columns ih =>
    rw [fill, c.value_eq doc, ih, List.findSome?_cons]
    cases c.fault? doc with
    | some e => rfl
    | none => cases columns.findSome? (·.fault? doc) <;> rfl

namespace Plan

theorem findSome?_product (docs : List Document) (columns : List SelectItem) :
    ((docs.product columns).findSome? fun (doc, c) => c.fault? doc) =
      docs.findSome? fun doc => columns.findSome? (·.fault? doc) := by
  induction docs with
  | nil => rfl
  | cons doc docs ih =>
    show ((columns.map fun c => (doc, c)) ++ docs.product columns).findSome? _ = _
    rw [List.findSome?_append, List.findSome?_map, ih, List.findSome?_cons]
    show (columns.findSome? fun c => c.fault? doc).or _ = _
    cases columns.findSome? (·.fault? doc) <;> rfl

/-! ### The run -/

theorem keep_never (p : Plan) (size cpus : Nat) (docs : List Document) :
    p.keep size cpus .never docs = some (p.admitted docs) := by
  unfold keep admitted
  cases p.filter with
  | none => rfl
  | some condition =>
    obtain ⟨predicate, bindings⟩ := condition
    show filterWaves _ _ _ (fun _ => false) 0 docs = _
    rw [filterWaves_of_never]
    congr 1
    refine List.filter_congr fun doc _ => ?_
    unfold Bindings.keeps
    cases bindings.holds predicate doc with
    | error e => rfl
    | ok kept => cases kept <;> rfl

theorem fill_admitted (p : Plan) (docs : List Document) : p.fill (p.admitted docs) = p.answer docs := by
  have hshown : p.fill (p.admitted docs) = ((p.shown docs).mapM (Row.fill · p.columns)).map .ofRows := by
    unfold fill shown
    rw [sortDocuments_eq_insertionSort]
    cases p.limit <;> rfl
  rw [hshown, mapM_eq_findSome? (Row.fill_eq · p.columns), answer, findSome?_product]
  cases (p.shown docs).findSome? fun doc => p.columns.findSome? (·.fault? doc) <;> rfl

theorem finish_never {ε : Type} (p : Plan) (size cpus : Nat) (listed : Except ε (List Document)) :
    p.finish size cpus .never listed = p.outcome listed := by
  cases listed with
  | error cause => rfl
  | ok docs =>
    unfold finish outcome
    simp only [keep_never, fill_admitted]

end Plan

namespace Engine

theorem rebind_eq (columns : List SelectItem) (o : OrderItem) : rebind columns o =
    ⟨(columns.find? fun c => !o.item.explicit && c.title == o.item.title).getD o.item, o.descending⟩ := by
  unfold rebind
  cases columns.find? fun c => !o.item.explicit && c.title == o.item.title <;> rfl

theorem rebind_of_explicit {columns : List SelectItem} {o : OrderItem} (h : o.item.explicit = true) :
    rebind columns o = o := by
  have hnone : (columns.find? fun c => !o.item.explicit && c.title == o.item.title) = none :=
    List.find?_eq_none.mpr fun c _ => by simp [h]
  rw [rebind_eq, hnone]
  rfl

/-- An item without a title of its own is bound to the column that has its text as the title. -/
theorem rebind_implicit (columns : List SelectItem) (f : Field) (text : List Char) (descending : Bool) :
    rebind columns ⟨.implicit f text, descending⟩ =
      ⟨(columns.find? fun c => c.title == String.ofList (trim text)).getD (.implicit f text), descending⟩ := by
  rw [rebind_eq]
  rfl

/-- A query has a plan if its columns and its condition are settled. -/
theorem plan_eq_ok_iff {e : Engine} {q : Query} {p : Plan} :
    e.plan q = .ok p ↔ ∃ columns, e.columns q = .ok columns ∧ ∃ condition, q.filter.mapM (e.condition q) = .ok condition ∧
      p = ⟨q.source, columns, condition, q.orderBy.map (rebind columns), q.limit⟩ := by
  unfold plan
  simp only [Except.bind_eq_ok_iff]
  refine exists_congr fun columns => and_congr_right fun _ => exists_congr fun condition => and_congr_right fun _ => ?_
  exact ⟨fun h => (Except.ok.inj h).symm, fun h => congrArg Except.ok h.symm⟩

theorem plan_eq_ok {e : Engine} {q : Query} {columns : List SelectItem} {condition : Option (Predicate × Bindings)}
    (hcolumns : e.columns q = .ok columns) (hcondition : q.filter.mapM (e.condition q) = .ok condition) :
    e.plan q = .ok ⟨q.source, columns, condition, q.orderBy.map (rebind columns), q.limit⟩ :=
  plan_eq_ok_iff.mpr ⟨_, hcolumns, _, hcondition, rfl⟩

theorem run_of_plan {m : Type → Type} [Monad m] [LawfulMonad m] {ε : Type} {e : Engine} {q : Query} {p : Plan}
    (hplan : e.plan q = .ok p) (cpus : Nat) (list : Source → m (Except ε (List Document))) :
    e.run cpus .never list q = p.outcome <$> list p.source := by
  unfold run
  rw [hplan, map_eq_pure_bind]
  show (list p.source >>= fun listed => pure (p.finish _ cpus .never listed)) = _
  congr 1
  funext listed
  rw [Plan.finish_never]

/-- A run that nobody cancels answers what the pipeline over its columns, its condition and its order answers;
    how many documents make a batch and how many processors take batches does not matter. -/
theorem run_eq_outcome {m : Type → Type} [Monad m] [LawfulMonad m] {ε : Type} (e : Engine) (q : Query)
    (columns : List SelectItem) (condition : Option (Predicate × Bindings)) (hcolumns : e.columns q = .ok columns)
    (hcondition : q.filter.mapM (e.condition q) = .ok condition) (cpus : Nat)
    (list : Source → m (Except ε (List Document))) :
    e.run cpus .never list q =
      Plan.outcome ⟨q.source, columns, condition, q.orderBy.map (rebind columns), q.limit⟩ <$> list q.source ∧
    ∀ (size : Option Nat) (cpus' : Nat),
      Engine.run { e with batchSize := size } cpus' .never list q = e.run cpus .never list q := by
  have hplan := plan_eq_ok hcolumns hcondition
  have hrun := run_of_plan hplan cpus list
  refine ⟨hrun, fun size cpus' => ?_⟩
  have hplan' : Engine.plan { e with batchSize := size } q = _ := hplan
  rw [hrun, run_of_plan hplan' cpus' list]

/-- The last of three pods by name among those with an owner, in batches of one on two processors, from a lister that
    keeps what it is asked for. -/
theorem run_eq_outcome_of_owned_pods :
    let e : Engine := ⟨.builtin, .builtin, some 1⟩
    let column : SelectItem := ⟨⟨⟨[.key "name"]⟩, none⟩, "n", true⟩
    let q : Query := ⟨.only [column], ⟨"pods", .current⟩, some "o='x'", [⟨column, true⟩], some 1⟩
    let pod (name owner : String) : Document := .object [("name", .string name), ("o", .string owner)]
    let list (source : Source) : StateM (List Source) (Except String (List Document)) := fun asked =>
      (.ok [pod "a" "x", pod "b" "x", pod "c" "y"], asked ++ [source])
    e.columns q = .ok [column] ∧
    ∃ condition, q.filter.mapM (e.condition q) = .ok condition ∧
      e.run 2 .never list q =
        Plan.outcome ⟨q.source, [column], condition, q.orderBy.map (rebind [column]), q.limit⟩ <$> list q.source ∧
      ∀ (size : Option Nat) (cpus : Nat),
        Engine.run { e with batchSize := size } cpus .never list q = e.run 2 .never list q := by
  intro e column q pod list
  have hcolumns : e.columns q = .ok [column] := rfl
  have hread : (q.filter.mapM (e.condition q)).toBool = true := by decide +kernel
  cases hcondition : q.filter.mapM (e.condition q) with
  | error cause =>
    rw [hcondition] at hread
    cases hread
  | ok condition =>
    exact ⟨hcolumns, condition, rfl, run_eq_outcome e q [column] condition hcolumns hcondition 2 list⟩

end Engine

end ClusterQuery
