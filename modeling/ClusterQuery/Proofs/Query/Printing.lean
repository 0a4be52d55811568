import ClusterQuery.Proofs.Query.Reading
import ClusterQuery.Proofs.Query.Source
import ClusterQuery.Proofs.Text.TopLevel
import Mathlib.Data.List.Perm.Basic

/-! When a printed query is read back. The printed text is that of its clauses; it is read back if no keyword
    shows in a clause and every clause is read as its part of the query. A keyword that shows would begin a
    clause that the query does not have. -/

namespace ClusterQuery

namespace Query

open ClauseText

variable {A : AliasTable} {q : Query}

/-- The printed text of the order. -/
def orderText (q : Query) : List Char := renderList (q.orderBy.map OrderItem.render)

/-- The clauses that a query is printed as. -/
def sections (q : Query) : List ClauseText :=
  ⟨.select, renderSelection q.selection⟩ :: ⟨.from, q.source.render⟩ ::
    (q.filter.toList.map (fun condition => ⟨.where, condition.toList⟩) ++
      ((if q.orderBy.isEmpty then [] else [⟨.orderBy, q.orderText⟩]) ++
        q.limit.toList.map fun n => ⟨.limit, decimalText n⟩))

theorem print_eq (clause : Clause) (body : List Char) :
    print ⟨clause, body⟩ = (" " ++ clause.keyword ++ " ").toList ++ body := by
  simp [print]

theorem render_eq (q : Query) :
    q.render = "SELECT ".toList ++ renderSelection q.selection ++ " FROM ".toList ++ q.source.render ++
      (match q.filter with
        | some condition => " WHERE ".toList ++ condition.toList
        | none => []) ++
      (if q.orderBy.isEmpty then [] else " ORDER BY ".toList ++ renderList (q.orderBy.map OrderItem.render)) ++
      (match q.limit with
        | some n => " LIMIT ".toList ++ decimalText n
        | none => []) := rfl

/-- The printed clauses, each after a blank, are the printed query after a blank. -/
theorem flatMap_print_sections (q : Query) : q.sections.flatMap print = ' ' :: q.render := by
  -- A clause that the query lacks prints nothing.
  have hwhere : (q.filter.toList.map fun condition => (⟨.where, condition.toList⟩ : ClauseText)).flatMap print =
      match q.filter with
      | some condition => " WHERE ".toList ++ condition.toList
      | none => [] := by
    cases q.filter with
    | none => rfl
    | some condition =>
      rw [Option.toList_some, List.map_cons, List.map_nil, List.flatMap_singleton, print_eq]
      rfl
  have horder : (if q.orderBy.isEmpty then [] else [(⟨.orderBy, q.orderText⟩ : ClauseText)]).flatMap print =
      if q.orderBy.isEmpty then [] else " ORDER BY ".toList ++ renderList (q.orderBy.map OrderItem.render) := by
    cases q.orderBy.isEmpty with
    | true => rfl
    | false =>
      rw [if_neg Bool.false_ne_true, if_neg Bool.false_ne_true, List.flatMap_singleton, print_eq]
      rfl
  have hlimit : (q.limit.toList.map fun (n : Nat) => (⟨.limit, decimalText n⟩ : ClauseText)).flatMap print =
      match q.limit with
      | some n => " LIMIT ".toList ++ decimalText n
      | none => [] := by
    cases q.limit with
    | none => rfl
    | some n =>
      rw [Option.toList_some, List.map_cons, List.map_nil, List.flatMap_singleton, print_eq]
      rfl
  have hselect : (" " ++ Clause.select.keyword ++ " ").toList = ' ' :: "SELECT ".toList := rfl
  have hfrom : (" " ++ Clause.from.keyword ++ " ").toList = " FROM ".toList := rfl
  rw [sections, List.flatMap_cons, List.flatMap_cons, List.flatMap_append, List.flatMap_append, hwhere, horder, hlimit,
    print_eq, print_eq, hselect, hfrom, render_eq]
  simp only [List.append_assoc, List.cons_append]

theorem sections_ne_nil (q : Query) : q.sections ≠ [] := List.cons_ne_nil _ _

theorem inOrder_sections (q : Query) : InOrder q.sections := by
  obtain ⟨selection, source, filter, orderBy, limit⟩ := q
  cases filter <;> cases orderBy <;> cases limit <;> simp [sections, InOrder, Clause.rank]

/-! ### The bodies of the printed clauses -/

theorem body?_select (q : Query) : body? q.sections .select = some (trim (renderSelection q.selection)) := rfl

theorem body?_from (q : Query) : body? q.sections .from = some (trim q.source.render) := rfl

theorem body?_where (q : Query) : body? q.sections .where = q.filter.map fun condition => trim condition.toList := by
  obtain ⟨selection, source, filter, orderBy, limit⟩ := q
  cases filter <;> cases orderBy <;> cases limit <;> rfl

theorem body?_orderBy (q : Query) :
    body? q.sections .orderBy = if q.orderBy.isEmpty then none else some (trim q.orderText) := by
  obtain ⟨selection, source, filter, orderBy, limit⟩ := q
  cases filter <;> cases orderBy <;> cases limit <;> rfl

theorem body?_limit (q : Query) : body? q.sections .limit = q.limit.map fun (n : Nat) => trim (decimalText n) := by
  obtain ⟨selection, source, filter, orderBy, limit⟩ := q
  cases filter <;> cases orderBy <;> cases limit <;> rfl

/-! ### Reading the printed text -/

/-- A query whose printed clauses have text in them, with closed brackets and quotes. -/
def Printable (q : Query) : Prop := ∀ c ∈ q.sections, ClauseText.Printable c.body

theorem trim_render (q : Query) : trim q.render = trim (q.sections.flatMap print) := by
  rw [flatMap_print_sections, trim_cons_space]

theorem trim_render_ne_nil (q : Query) : trim q.render ≠ [] := fun h => by
  have := trim_eq_nil_iff.mp h 'S' List.mem_cons_self
  cases this

theorem parse_render_iff : parse A q.render = .ok q ↔ ∃ found, ofText (trim (q.sections.flatMap print)) = .ok found ∧
    ReadFrom A found q := by
  rw [parse_eq_ok_iff, trim_render, and_iff_right]
  rw [← trim_render]
  exact trim_render_ne_nil q

theorem parseOrder_ne_nil {selected : List SelectItem} {body : List Char} : parseOrder A selected body ≠ .ok [] := by
  intro h
  unfold parseOrder at h
  split at h
  · cases h
  · split at h
    · cases h
    · next pieces hsplit =>
      cases pieces with
      | nil => exact splitTopLevel_ne_nil (by decide) hsplit
      | cons piece pieces =>
        rw [List.mapM_cons] at h
        obtain ⟨item, -, h⟩ := Except.bind_eq_ok_iff.mp h
        obtain ⟨items, -, h⟩ := Except.bind_eq_ok_iff.mp h
        cases h

/-- A clause that a query is read from is among those that it is printed as. -/
theorem mem_sections_of_body? {found : List ClauseText} (h : ReadFrom A found q) {clause : Clause}
    (hbody : (body? found clause).isSome = true) : (body? q.sections clause).isSome = true := by
  obtain ⟨body, hbody⟩ := Option.isSome_iff_exists.mp hbody
  cases clause with
  | select => rfl
  | «from» => rfl
  | «where» =>
    have hfilter := h.filter
    rw [body?_where, Option.isSome_map]
    rw [hbody] at hfilter
    obtain ⟨condition, -, hf⟩ := Except.map_eq_ok_iff.mp hfilter
    rw [← hf]
    rfl
  | limit =>
    have hlimit := h.limit
    rw [body?_limit, Option.isSome_map]
    rw [hbody] at hlimit
    obtain ⟨n, -, hn⟩ := Except.map_eq_ok_iff.mp hlimit
    rw [← hn]
    rfl
  | orderBy =>
    have horder := h.orderBy
    rw [hbody] at horder
    rw [body?_orderBy]
    cases hitems : q.orderBy with
    | nil =>
      rw [hitems] at horder
      exact (parseOrder_ne_nil horder).elim
    | cons item items => rfl

theorem nodup_clauses {clauses : List ClauseText} (h : InOrder clauses) : (clauses.map (·.clause)).Nodup :=
  List.pairwise_map.mpr (h.imp fun {a b} hlt (heq : a.clause = b.clause) => Nat.ne_of_lt hlt (congrArg Clause.rank heq))

/-- No keyword shows in the clauses of a printed query that is read back. -/
theorem keywordFree_of_parse_render (hq : q.Printable) (h : parse A q.render = .ok q) :
    ∀ c ∈ q.sections, KeywordFree c.body := by
  obtain ⟨found, hfound, hread⟩ := parse_render_iff.mp h
  obtain ⟨hclauses, horder⟩ := clauses_of_ofText_print q.sections_ne_nil hq hfound
  intro c hc
  refine keywordFree_of_exposed (hq c hc).closed (List.eq_nil_iff_forall_not_mem.mpr fun clause hclause => ?_)
  -- A clause that shows would be read twice: once as printed and once where it shows.
  have hperm := List.flatMap_append_perm q.sections (fun c => [c.clause]) (fun c => exposed c.body)
  have hnodup : (q.sections.flatMap (fun c => [c.clause]) ++ q.sections.flatMap fun c => exposed c.body).Nodup := by
    refine hperm.nodup_iff.mpr ?_
    have := nodup_clauses horder
    rwa [hclauses] at this
  have hshown : clause ∈ q.sections.flatMap fun c => exposed c.body := List.mem_flatMap.mpr ⟨c, hc, hclause⟩
  have hread' : clause ∈ found.map (·.clause) := by
    rw [hclauses]
    exact List.mem_flatMap.mpr ⟨c, hc, List.mem_cons_of_mem _ hclause⟩
  obtain ⟨f, hf, rfl⟩ := List.mem_map.mp hread'
  obtain ⟨body, hbody⟩ := Option.isSome_iff_exists.mp (mem_sections_of_body? hread (body?_isSome_of_mem hf))
  obtain ⟨d, hd, hkind, -⟩ := body?_eq_some hbody
  have hprinted : f.clause ∈ q.sections.flatMap fun c => [c.clause] :=
    List.mem_flatMap.mpr ⟨d, hd, List.mem_singleton.mpr hkind.symm⟩
  exact (List.nodup_append.mp hnodup).2.2 _ hprinted _ hshown rfl

/-- A printed query is read back if and only if no keyword shows in its clauses and each of them is read as the part
    that it prints. -/
theorem parse_render_eq_ok_iff (hq : q.Printable) :
    parse A q.render = .ok q ↔ (∀ c ∈ q.sections, KeywordFree c.body) ∧ ReadFrom A q.sections q := by
  constructor
  · intro h
    have hfree := keywordFree_of_parse_render hq h
    obtain ⟨found, hfound, hread⟩ := parse_render_iff.mp h
    obtain ⟨found', hfound', htrimmed⟩ := ofText_print q.sections_ne_nil hq hfree q.inOrder_sections
    obtain rfl : found = found' := Except.ok.inj (hfound.symm.trans hfound')
    exact ⟨hfree, (readFrom_of_trimmed htrimmed).mp hread⟩
  · rintro ⟨hfree, hread⟩
    obtain ⟨found, hfound, htrimmed⟩ := ofText_print q.sections_ne_nil hq hfree q.inOrder_sections
    exact parse_render_iff.mpr ⟨found, hfound, (readFrom_of_trimmed htrimmed).mpr hread⟩

/-! ### The parts of a printed query -/

/-- What holds of the bodies of all printed clauses. -/
theorem forall_mem_sections {P : List Char → Prop} :
    (∀ c ∈ q.sections, P c.body) ↔
      P (renderSelection q.selection) ∧ P q.source.render ∧ (∀ condition, q.filter = some condition → P condition.toList) ∧
        (q.orderBy ≠ [] → P q.orderText) ∧ ∀ n : Nat, q.limit = some n → P (decimalText n) := by
  rw [sections, List.forall_mem_cons, List.forall_mem_cons, List.forall_mem_append, List.forall_mem_append]
  refine and_congr_right fun _ => and_congr_right fun _ => and_congr ?_ (and_congr ?_ ?_)
  · cases q.filter <;> simp
  · cases q.orderBy <;> simp
  · cases q.limit <;> simp

theorem readFrom_sections_iff (hq : q.Printable) (hsource : q.source.Valid) (hlimit : ∀ n, q.limit = some n → n < wordLimit) :
    ReadFrom A q.sections q ↔ parseSelection A (renderSelection q.selection) = .ok q.selection ∧
      (q.orderBy ≠ [] → parseOrder A q.selection.named q.orderText = .ok q.orderBy) := by
  obtain ⟨hselect, hfrom, hwhere, horder, hnumber⟩ := forall_mem_sections.mp hq
  have hreadOrder : readOrder A q.selection.named (body? q.sections .orderBy) = .ok q.orderBy ↔
      (q.orderBy ≠ [] → parseOrder A q.selection.named q.orderText = .ok q.orderBy) := by
    rw [body?_orderBy]
    cases hitems : q.orderBy with
    | nil => exact iff_of_true rfl fun hne => (hne rfl).elim
    | cons o items =>
      have hne : q.orderBy ≠ [] := by rw [hitems]; exact List.cons_ne_nil _ _
      show parseOrder A q.selection.named (trim q.orderText) = _ ↔ _
      rw [trim_eq_self (horder hne).trimmed]
      exact ⟨fun h _ => h, fun h => h (List.cons_ne_nil _ _)⟩
  -- The source, the condition and the limit are read back whatever the lists are.
  constructor
  · intro h
    refine ⟨?_, hreadOrder.mp h.orderBy⟩
    have := h.selection
    rwa [body?_select, readSelection, trim_eq_self hselect.trimmed] at this
  · rintro ⟨hsel, hord⟩
    refine ⟨⟨_, body?_from q, ?_⟩, ?_, ?_, ?_, hreadOrder.mpr hord⟩
    · rw [trim_eq_self hfrom.trimmed]
      exact parseSource_eq_ok_iff.mpr ⟨hsource, rfl⟩
    · rw [body?_where]
      cases hfilter : q.filter with
      | none => rfl
      | some condition =>
        have hc := hwhere condition hfilter
        refine mapM_eq_ok_some_iff.mpr ⟨_, rfl, ?_⟩
        dsimp only
        rw [trim_eq_self hc.trimmed]
        exact parseFilter_eq_ok_iff.mpr ⟨hc.ne_nil, rfl⟩
    · rw [body?_limit]
      cases hn : q.limit with
      | none => rfl
      | some n =>
        refine mapM_eq_ok_some_iff.mpr ⟨_, rfl, ?_⟩
        dsimp only
        rw [trim_eq_self (hnumber n hn).trimmed]
        exact parseLimit_eq_ok_iff.mpr (readWord?_decimalText (hlimit n hn))
    · rw [body?_select, readSelection, trim_eq_self hselect.trimmed]
      exact hsel

end Query

end ClusterQuery
