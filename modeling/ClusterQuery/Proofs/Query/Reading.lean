import ClusterQuery.Proofs.Number.Digits
import ClusterQuery.Proofs.Query.Sections
import ClusterQuery.Query.Parser

/-! What a query is read from. Each part of a query comes from the trimmed body of its own clause, and the
    bodies are all that the clauses contribute. -/

namespace ClusterQuery

namespace ClauseText

theorem body?_eq_some {clauses : List ClauseText} {clause : Clause} {body : List Char}
    (h : body? clauses clause = some body) : ∃ c ∈ clauses, c.clause = clause ∧ trim c.body = body := by
  obtain ⟨c, hc, hbody⟩ := Option.map_eq_some_iff.mp h
  exact ⟨c, List.mem_of_find?_eq_some hc, by simpa using List.find?_some hc, hbody⟩

theorem body?_isSome_of_mem {clauses : List ClauseText} {c : ClauseText} (h : c ∈ clauses) :
    (body? clauses c.clause).isSome = true := by
  rw [body?, Option.isSome_map, List.find?_isSome]
  exact ⟨c, h, beq_self_eq_true _⟩

theorem body?_map_trimmed (clauses : List ClauseText) (clause : Clause) :
    body? (clauses.map trimmed) clause = body? clauses clause := by
  rw [body?, body?, List.find?_map, Option.map_map]
  congr 1
  funext c
  exact trim_trim c.body

end ClauseText

namespace Query

open ClauseText

variable {A : AliasTable} {q : Query}

/-! ### The parts of a query -/

/-- The selection of a query, from the body of its clause if there is one. -/
def readSelection (A : AliasTable) : Option (List Char) → Except QueryError Selection
  | some body => parseSelection A body
  | none => .ok .all

/-- The order of a query, from the body of its clause if there is one. -/
def readOrder (A : AliasTable) (selected : List SelectItem) : Option (List Char) → Except QueryError (List OrderItem)
  | some body => parseOrder A selected body
  | none => .ok []

/-- A query that clauses are read as, part by part. -/
structure ReadFrom (A : AliasTable) (clauses : List ClauseText) (q : Query) : Prop where
  source : ∃ body, body? clauses .from = some body ∧ parseSource body = .ok q.source
  filter : (body? clauses .where).mapM parseFilter = .ok q.filter
  limit : (body? clauses .limit).mapM parseLimit = .ok q.limit
  selection : readSelection A (body? clauses .select) = .ok q.selection
  orderBy : readOrder A q.selection.named (body? clauses .orderBy) = .ok q.orderBy

theorem ofClauses_eq (clauses : List ClauseText) :
    ofClauses A clauses = (do
      let source? ← (body? clauses .from).mapM parseSource
      let filter ← (body? clauses .where).mapM parseFilter
      let limit ← (body? clauses .limit).mapM parseLimit
      match source? with
      | none => malformed .missingFrom
      | some source =>
        let selection ← readSelection A (body? clauses .select)
        let orderBy ← readOrder A selection.named (body? clauses .orderBy)
        return { selection, source, filter, orderBy, limit }) := by
  unfold ofClauses
  cases body? clauses .select <;> cases body? clauses .orderBy <;> rfl

theorem parseFilter_eq_ok_iff {body : List Char} {condition : String} :
    parseFilter body = .ok condition ↔ body ≠ [] ∧ condition.toList = body := by
  unfold parseFilter
  split
  · next hnil => exact iff_of_false (fun h => by cases h) fun h => h.1 (List.isEmpty_iff.mp hnil)
  · next hne =>
    have hbody : body ≠ [] := fun hnil => hne (List.isEmpty_iff.mpr hnil)
    rw [Except.ok.injEq, and_iff_right hbody]
    exact ⟨fun h => h ▸ String.toList_ofList, fun h => h ▸ String.ofList_toList⟩

theorem parseLimit_eq_ok_iff {body : List Char} {n : Nat} : parseLimit body = .ok n ↔ readWord? body = some n := by
  unfold parseLimit
  split
  · next hword => rw [hword, Except.ok.injEq, Option.some.injEq]
  · next hword =>
    rw [hword]
    exact iff_of_false (fun h => by cases h) (fun h => by cases h)

theorem mapM_eq_ok_some_iff {α β ε : Type} {f : α → Except ε β} {x : Option α} {b : β} :
    x.mapM f = .ok (some b) ↔ ∃ a, x = some a ∧ f a = .ok b := by
  cases x with
  | none => simp [pure, Except.pure]
  | some a => cases h : f a <;> simp [h, Functor.map, Except.map]

theorem ofClauses_eq_ok_iff {clauses : List ClauseText} : ofClauses A clauses = .ok q ↔ ReadFrom A clauses q := by
  rw [ofClauses_eq]
  simp only [Except.bind_eq_ok_iff]
  constructor
  · rintro ⟨source?, hsource, filter, hfilter, limit, hlimit, h⟩
    cases source? with
    | none => cases h
    | some source =>
      obtain ⟨selection, hselection, h⟩ := Except.bind_eq_ok_iff.mp h
      obtain ⟨orderBy, horder, h⟩ := Except.bind_eq_ok_iff.mp h
      cases h
      exact ⟨mapM_eq_ok_some_iff.mp hsource, hfilter, hlimit, hselection, horder⟩
  · intro h
    refine ⟨some q.source, mapM_eq_ok_some_iff.mpr h.source, q.filter, h.filter, q.limit, h.limit, ?_⟩
    exact Except.bind_eq_ok_iff.mpr ⟨_, h.selection, Except.bind_eq_ok_iff.mpr ⟨_, h.orderBy, rfl⟩⟩

theorem parse_eq_ok_iff {cs : List Char} :
    parse A cs = .ok q ↔ trim cs ≠ [] ∧ ∃ clauses, ofText (trim cs) = .ok clauses ∧ ReadFrom A clauses q := by
  unfold parse
  cases h : (trim cs).isEmpty with
  | true =>
    have hnil : trim cs = [] := List.isEmpty_iff.mp h
    refine ⟨fun herr => ?_, fun hok => (hok.1 hnil).elim⟩
    rw [if_pos h] at herr
    cases herr
  | false =>
    have hne : trim cs ≠ [] := List.isEmpty_eq_false_iff.mp h
    simp only [h, Bool.false_eq_true, if_false, Except.bind_eq_ok_iff, Except.mapError_eq_ok_iff, ofClauses_eq_ok_iff]
    exact (and_iff_right hne).symm

/-- The parts of a query depend on the trimmed bodies of its clauses only. -/
theorem readFrom_of_trimmed {clauses found : List ClauseText} (h : found.map trimmed = clauses) :
    ReadFrom A found q ↔ ReadFrom A clauses q := by
  have hbody : ∀ clause, body? found clause = body? clauses clause := fun clause => by
    rw [← body?_map_trimmed found, h]
  constructor
  · rintro ⟨hs, hf, hl, hsel, ho⟩
    simp only [hbody] at hs hf hl hsel ho
    exact ⟨hs, hf, hl, hsel, ho⟩
  · rintro ⟨hs, hf, hl, hsel, ho⟩
    simp only [← hbody] at hs hf hl hsel ho
    exact ⟨hs, hf, hl, hsel, ho⟩

end Query

end ClusterQuery
