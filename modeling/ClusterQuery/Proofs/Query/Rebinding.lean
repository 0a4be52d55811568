import ClusterQuery.Proofs.Query.PathBase
import ClusterQuery.Proofs.Query.Projection

/-! The order of a query that has a selection of its own. Its items are looked up among the selected ones while they are read,
    and when they are bound to the columns afterwards, none is bound to another: the text of a field in normal form tells which
    field it is, whether its reducer was typed or stands behind an alias. -/

namespace ClusterQuery

variable {A : AliasTable}

namespace Field

variable {cs cs' text : List Char} {f g : Field}

theorem eq_of_parse_text (h : parse A cs = .ok (f, text)) (h' : parse A cs' = .ok (g, text)) : f = g := by
  obtain ⟨argument, hf, -, reducer, pathText, htarget, hpath⟩ := exists_argument_of_parse h
  obtain ⟨argument', hg, -, reducer', pathText', htarget', hpath'⟩ := exists_argument_of_parse h'
  obtain ⟨hreducer, rfl⟩ := Prod.mk.inj (Except.ok.inj (hf.symm.trans hg))
  obtain rfl : pathText = pathText' :=
    (pathText_of_target htarget hpath).trans (pathText_of_target htarget' hpath').symm
  obtain ⟨path, r⟩ := f
  obtain ⟨path', r'⟩ := g
  cases hreducer
  cases hpath.symm.trans hpath'
  rfl

end Field

namespace Query

variable {cs text : List Char} {items : List SelectItem} {i : SelectItem} {q : Query}

/-! ### Looking up among the selected items -/

/-- How the item of an order comes from its text: it is the selected item with the text as its title, else the first selected one
    with the field that the text is read as, else an item of its own. -/
inductive OrderedAs (A : AliasTable) (items : List SelectItem) (text : List Char) : SelectItem → Prop
  | titled {i : SelectItem} (hi : i ∈ items) (htitle : i.title = String.ofList text) : OrderedAs A items text i
  | selected {i : SelectItem} {shown : List Char} (hi : i ∈ items) (hnone : ∀ j ∈ items, j.title ≠ String.ofList text)
    (hfield : Field.parse A text = .ok (i.field, shown)) : OrderedAs A items text i
  | own {f : Field} {shown : List Char} (hnone : ∀ j ∈ items, j.title ≠ String.ofList text)
    (hfield : Field.parse A text = .ok (f, shown)) (hno : ∀ j ∈ items, j.field ≠ f) :
    OrderedAs A items text (.implicit f shown)

/-- How an item of an order comes from a text and a direction. -/
def ComesFrom (A : AliasTable) (items : List SelectItem) (text : List Char × Bool) (o : OrderItem) : Prop :=
  o.descending = text.2 ∧ Trimmed text.1 ∧ OrderedAs A items text.1 o.item

theorem orderedAs_of_orderTarget (h : orderTarget A items text = .ok i) : OrderedAs A items text i := by
  unfold orderTarget at h
  cases hfound : items.find? fun j => j.title == String.ofList text with
  | some j =>
    rw [hfound] at h
    cases h
    exact .titled (List.mem_of_find?_eq_some hfound) (by simpa using List.find?_some hfound)
  | none =>
    rw [hfound] at h
    have hnone : ∀ j ∈ items, j.title ≠ String.ofList text := fun j hj => by simpa using List.find?_eq_none.mp hfound j hj
    obtain ⟨⟨f, shown⟩, hfield, h⟩ := Except.bind_eq_ok_iff.mp h
    cases hsame : items.find? fun j => j.field == f with
    | some j =>
      obtain rfl : j = i := by simpa [hsame] using Except.ok.inj h
      have hf : j.field = f := by simpa using List.find?_some hsame
      exact .selected (List.mem_of_find?_eq_some hsame) hnone (hf ▸ hfield)
    | none =>
      obtain rfl : SelectItem.implicit f shown = i := by simpa [hsame] using Except.ok.inj h
      exact .own hnone hfield fun j hj => by simpa using List.find?_eq_none.mp hsame j hj

theorem eq_of_title_eq (hdistinct : DistinctTitles items) {j : SelectItem} (hi : i ∈ items) (hj : j ∈ items)
    (htitle : i.title = j.title) : i = j := by
  have hfound := find?_title_of_mem hdistinct hi
  rw [htitle, find?_title_of_mem hdistinct hj] at hfound
  exact (Option.some.inj hfound).symm

/-- An item with a title of its own, or with the text of its field as the title. -/
def Selected (A : AliasTable) (i : SelectItem) : Prop :=
  (i.explicit = true ∧ isTitleText i.title.toList = true) ∨
    ∃ typed text, Field.parse A typed = .ok (i.field, text) ∧ i = .implicit i.field text

theorem selected_of_parseSelection {body : List Char} (h : parseSelection A body = .ok (.only items)) :
    DistinctTitles items ∧ ∀ i ∈ items, Selected A i := by
  obtain ⟨-, -, pieces, -, hitems, hdistinct⟩ := parseSelection_eq_only_iff.mp h
  refine ⟨hdistinct, fun i hi => ?_⟩
  obtain ⟨piece, -, hfrom⟩ := hitems.exists_of_mem_right hi
  obtain ⟨-, ⟨hexplicit, htitle, -⟩ | ⟨text, hfield, hi⟩⟩ := parseSelectItem_eq_ok hfrom.reads
  · exact .inl ⟨hexplicit, htitle⟩
  · exact .inr ⟨_, text, hfield, hi⟩

/-- A selected item has the title of an item of the order only if it is that item. -/
theorem OrderedAs.eq_of_title (h : OrderedAs A items text i) (htrimmed : Trimmed text) (hdistinct : DistinctTitles items)
    (hselected : ∀ j ∈ items, Selected A j) {c : SelectItem} (hc : c ∈ items) (htitle : c.title = i.title) : c = i := by
  cases h with
  | titled hi => exact eq_of_title_eq hdistinct hc hi htitle
  | selected hi => exact eq_of_title_eq hdistinct hc hi htitle
  | @own f shown hnone hfield hno =>
    have hshown : c.title = String.ofList shown := by
      rw [htitle, SelectItem.implicit, trim_eq_self (Field.trimmed_of_parse hfield)]
    rcases hselected c hc with ⟨-, hchars⟩ | ⟨typed, text', hcfield, hci⟩
    · -- A title of its own holds no parenthesis, so that the text in normal form is the text itself.
      rw [hshown, String.toList_ofList] at hchars
      have hopen : '(' ∉ shown := fun hmem => by cases (isTitleText_iff.mp hchars).2 _ hmem
      rw [Field.eq_trim_of_parse hfield hopen, trim_eq_self htrimmed] at hshown
      exact (hnone c hc hshown).elim
    · -- Without one, its field is the same.
      have htext : text' = shown := by
        have hlist := congrArg String.toList hshown
        rwa [hci, SelectItem.toList_title_implicit (Field.trimmed_of_parse hcfield), String.toList_ofList] at hlist
      exact (hno c hc (Field.eq_of_parse_text hcfield (htext ▸ hfield))).elim

/-- What a text of an order means beside selected items: the item with the text as its title if there is one, and else the field
    that the text is read as. -/
structure Means (A : AliasTable) (items : List SelectItem) (text : List Char) (i : SelectItem) : Prop where
  titled : ∀ j ∈ items, j.title = String.ofList text → i = j
  untitled : (∀ j ∈ items, j.title ≠ String.ofList text) → ∃ shown, Field.parse A text = .ok (i.field, shown)

theorem OrderedAs.means (h : OrderedAs A items text i) (hdistinct : DistinctTitles items) : Means A items text i := by
  cases h with
  | titled hi htitle =>
    refine ⟨fun j hj hjtitle => ?_, fun hnone => (hnone _ hi htitle).elim⟩
    exact eq_of_title_eq hdistinct hi hj (htitle.trans hjtitle.symm)
  | selected _ hnone hfield => exact ⟨fun j hj hjtitle => (hnone j hj hjtitle).elim, fun _ => ⟨_, hfield⟩⟩
  | own hnone hfield _ => exact ⟨fun j hj hjtitle => (hnone j hj hjtitle).elim, fun _ => ⟨_, hfield⟩⟩

/-! ### Binding to the columns -/

/-- The texts that a query orders by, each with its direction. -/
def HasOrder (cs : List Char) (texts : List (List Char × Bool)) : Prop :=
  ∃ clauses, ClauseText.ofText (trim cs) = .ok clauses ∧
    match ClauseText.body? clauses .orderBy with
    | none => texts = []
    | some body => ∃ pieces, splitTopLevel ',' body = some pieces ∧
        List.Forall₂ (fun piece text => splitDirection (trim piece) = .ok (some text)) pieces texts

theorem exists_texts_of_pieces {pieces : List (List Char)} {order : List OrderItem}
    (h : List.Forall₂ (fun piece o => parseOrderItem A items (trim piece) = .ok o) pieces order) :
    ∃ texts, List.Forall₂ (fun piece text => splitDirection (trim piece) = .ok (some text)) pieces texts ∧
      List.Forall₂ (ComesFrom A items) texts order := by
  induction h with
  | nil => exact ⟨[], .nil, .nil⟩
  | @cons piece o _ _ ho _ ih =>
    obtain ⟨texts, htexts, horder⟩ := ih
    obtain ⟨text, hdirection, -, hitem⟩ := parseOrderItem_eq_ok_iff.mp ho
    have htrimmed := trimmed_of_splitDirection (trimmed_trim piece) hdirection
    exact ⟨(text, o.descending) :: texts, .cons hdirection htexts,
      .cons ⟨rfl, htrimmed, orderedAs_of_orderTarget hitem⟩ horder⟩

/-- What a query with a selection of its own is read from. -/
theorem exists_texts_of_parse (hq : parse A cs = .ok q) (hselection : q.selection = .only items) :
    (DistinctTitles items ∧ ∀ i ∈ items, Selected A i) ∧
      ∃ texts, HasOrder cs texts ∧ List.Forall₂ (ComesFrom A items) texts q.orderBy := by
  obtain ⟨-, clauses, hclauses, hread⟩ := parse_eq_ok_iff.mp hq
  constructor
  · have hitems := hread.selection
    rw [hselection] at hitems
    cases hbody : ClauseText.body? clauses .select with
    | none =>
      rw [hbody] at hitems
      cases hitems
    | some body =>
      rw [hbody] at hitems
      exact selected_of_parseSelection hitems
  · have horder := hread.orderBy
    rw [hselection] at horder
    cases hbody : ClauseText.body? clauses .orderBy with
    | none =>
      rw [hbody] at horder
      rw [← Except.ok.inj horder]
      exact ⟨[], ⟨clauses, hclauses, by rw [hbody]⟩, .nil⟩
    | some body =>
      rw [hbody] at horder
      obtain ⟨-, pieces, hpieces, hitems⟩ := parseOrder_eq_ok_iff.mp horder
      obtain ⟨texts, htexts, hmeans⟩ := exists_texts_of_pieces hitems
      refine ⟨texts, ⟨clauses, hclauses, ?_⟩, hmeans⟩
      rw [hbody]
      exact ⟨pieces, hpieces, htexts⟩

end Query

namespace Engine

open Query

variable {items : List SelectItem} {o : OrderItem}

/-- An item that no other column has the title of is bound to no other column. -/
theorem rebind_eq_self (h : ∀ c ∈ items, c.title = o.item.title → c = o.item) : rebind items o = o := by
  rw [rebind_eq]
  cases hfound : items.find? fun c => !o.item.explicit && c.title == o.item.title with
  | none => rfl
  | some c =>
    have htitle : c.title = o.item.title := by
      have hboth := List.find?_some hfound
      exact beq_iff_eq.mp (Bool.and_eq_true_iff.mp hboth).2
    rw [h c (List.mem_of_find?_eq_some hfound) htitle]
    rfl

/-- The order of a query with a selection of its own keeps its meaning, whatever the aliases are. The columns are the selected
    items, and no item of the order is bound to another column: if an item has the title of a column, it is that column. So
    each sorts by the selected item with its text as the title if there is one, and else by the field that its text is read
    as. -/
theorem rebind_keeps_order {A : AliasTable} {cs : List Char} {q : Query} {items : List SelectItem}
    (hq : Query.parse A cs = .ok q) (hselection : q.selection = .only items) (e : Engine) :
    e.columns q = .ok items ∧ q.orderBy.map (rebind items) = q.orderBy ∧
    (∀ p, e.plan q = .ok p → p.columns = items ∧ p.orderBy = q.orderBy) ∧
    (∀ o ∈ q.orderBy, ∀ c ∈ items, c.title = o.item.title → c = o.item) ∧
    ∃ texts, HasOrder cs texts ∧
      List.Forall₂ (fun (text, descending) o => o.descending = descending ∧ Means A items text o.item) texts q.orderBy := by
  obtain ⟨⟨hdistinct, hselected⟩, texts, htexts, horder⟩ := exists_texts_of_parse hq hselection
  have hcolumns : e.columns q = .ok items := columns_of_only hselection hdistinct
  have hkept : ∀ o ∈ q.orderBy, ∀ c ∈ items, c.title = o.item.title → c = o.item := by
    intro o ho c hc htitle
    obtain ⟨text, -, -, htrimmed, hitem⟩ := horder.exists_of_mem_right ho
    exact hitem.eq_of_title htrimmed hdistinct hselected hc htitle
  have hrebind : q.orderBy.map (rebind items) = q.orderBy :=
    (List.map_congr_left fun o ho => rebind_eq_self (hkept o ho)).trans (List.map_id _)
  refine ⟨hcolumns, hrebind, fun p hp => ?_, hkept, texts, htexts, ?_⟩
  · obtain ⟨columns, hfound, condition, -, rfl⟩ := plan_eq_ok_iff.mp hp
    obtain rfl := Except.ok.inj (hcolumns.symm.trans hfound)
    exact ⟨rfl, hrebind⟩
  · exact horder.imp fun _ _ ⟨hdirection, _, hitem⟩ => ⟨hdirection, hitem.means hdistinct⟩

/-- An order by a selected reducer in other words, by a title, by an alias of a reducer's call, by that of nothing selected, and
    by a selected field that has another title. -/
theorem rebind_keeps_order_of_crashes :
    let A := AliasTable.builtin.extend [("crashes", "sum(status.containers[*].restarts)")]
    let e : Engine := ⟨A, .builtin, none⟩
    let cs := "SELECT name AS n, len(labels), crashes FROM pods ORDER BY LEN labels DESC, n, crashes, sum( phase ), name".toList
    let name : SelectItem := ⟨⟨⟨[.key "metadata", .key "name"]⟩, none⟩, "n", true⟩
    let labels : SelectItem := ⟨⟨⟨[.key "metadata", .key "labels"]⟩, some .len⟩, "len(labels)", false⟩
    let crashes : SelectItem :=
      ⟨⟨⟨[.key "status", .key "containers", .wildcard, .key "restarts"]⟩, some .sum⟩, "sum(crashes)", false⟩
    let phase : SelectItem := ⟨⟨⟨[.key "status", .key "phase"]⟩, some .sum⟩, "sum(phase)", false⟩
    let items := [name, labels, crashes]
    let q : Query := ⟨.only items, ⟨"pods", .current⟩, none,
      [⟨labels, true⟩, ⟨name, false⟩, ⟨crashes, false⟩, ⟨phase, false⟩, ⟨name, false⟩], none⟩
    Query.parse A cs = .ok q ∧ q.selection = .only items ∧
      e.columns q = .ok items ∧ q.orderBy.map (rebind items) = q.orderBy ∧
      (∀ p, e.plan q = .ok p → p.columns = items ∧ p.orderBy = q.orderBy) ∧
      (∀ o ∈ q.orderBy, ∀ c ∈ items, c.title = o.item.title → c = o.item) ∧
      ∃ texts, HasOrder cs texts ∧
        List.Forall₂ (fun (text, descending) o => o.descending = descending ∧ Means A items text o.item) texts q.orderBy := by
  intro A e cs name labels crashes phase items q
  have hq : Query.parse A cs = .ok q := by decide +kernel
  have hselection : q.selection = .only items := rfl
  exact ⟨hq, hselection, rebind_keeps_order hq hselection e⟩

end Engine

end ClusterQuery
