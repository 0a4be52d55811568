import ClusterQuery.Proofs.Query.Binding
import ClusterQuery.Proofs.Query.MetadataEntry

/-! Keys between double quotes and brackets after the name of a field, alone or in a call. Whatever a key holds, its text is one
    word and one token, and it has no other path than the one with the key; but the parentheses of a field are counted in
    quotes too, so that the text is read where a field is read if and only if those of the key are balanced. -/

namespace ClusterQuery

open Nesting

/-- A key that can stand between double quotes. -/
@[ext]
structure QuotedKey where
  text : List Char
  ne_nil : text ≠ []
  quote_not_mem : '"' ∉ text

namespace QuotedKey

variable (k : QuotedKey) (reducer : Option Reducer)

/-- A key in the specification of a document, as it is typed. -/
def subscripted : List Char := "spec".toList ++ quotedSubscript '"' k.text

def name : String := String.ofList k.subscripted

/-- The key as it is typed with a reducer or without. -/
def typed : List Char := Field.callText reducer k.subscripted

def path : Path := ⟨[.key "spec", .mapKey (String.ofList k.text)]⟩

def field : Field := ⟨k.path, reducer⟩

/-- The item that the key is selected as. -/
def item : SelectItem := ⟨k.field reducer, String.ofList (k.typed reducer), false⟩

/-- What the key is read as: the field with its path, if the parentheses in the key are balanced. -/
def reading : Except QueryError Field :=
  if Balanced k.text then .ok (k.field reducer) else malformed (.unbalancedParens (String.ofList (k.typed reducer)))

theorem enclosed : Enclosed ('"' :: (k.text ++ ['"'])) := .quoted rfl k.quote_not_mem

theorem isWord_subscripted : Piece.IsWord k.subscripted :=
  (Piece.isWord_of_plain (by decide) (by decide)).append
    ⟨List.cons_ne_nil _ _, k.enclosed.leads Brackets.ofWords_mem_scans rfl⟩

theorem solid_subscripted {sep : Char} (hsep : ('[' == sep) = false) (hspec : ∀ c ∈ "spec".toList, (c == sep) = false) :
    Solid sep k.subscripted := by
  have hplain : ∀ c ∈ "spec".toList, Brackets.ofLists.isPlain c = true := by decide
  exact Leads.append (leads_of_plain fun c hc => ⟨hplain c hc, hspec c hc⟩) (k.enclosed.leads Brackets.ofLists_mem_scans hsep)

theorem head_quotedSubscript : ∀ c ∈ (quotedSubscript '"' k.text).head?, c = '[' := by
  rintro c ⟨⟩
  rfl

theorem splitCall_subscripted : splitCall k.subscripted = none := splitCall_of_base (by decide) k.head_quotedSubscript

theorem splitReducer_subscripted : Field.splitReducer k.subscripted = .ok (none, k.subscripted) :=
  Field.splitReducer_of_base (by decide) k.head_quotedSubscript

theorem splitReducer_typed : Field.splitReducer (k.typed reducer) = .ok (reducer, k.subscripted) :=
  Field.splitReducer_callText k.splitReducer_subscripted k.isWord_subscripted.trimmed

theorem balanced_subscripted_iff : Balanced k.subscripted ↔ Balanced k.text := by
  simp [Balanced, subscripted, quotedSubscript, List.count_append]

theorem typed_injective {k l : QuotedKey} {reducer other : Option Reducer} (h : k.typed reducer = l.typed other) :
    k = l ∧ reducer = other := by
  have hread := k.splitReducer_typed reducer
  rw [h, l.splitReducer_typed other] at hread
  obtain ⟨rfl, htext⟩ := Prod.mk.inj (Except.ok.inj hread)
  exact ⟨QuotedKey.ext (by simpa [subscripted, quotedSubscript] using htext.symm), rfl⟩

theorem field_injective {k l : QuotedKey} {reducer other : Option Reducer} (h : k.field reducer = l.field other) :
    k = l ∧ reducer = other := by
  obtain ⟨hpath, rfl⟩ := Field.mk.inj h
  have htext : String.ofList k.text = String.ofList l.text := by simpa [path] using hpath
  exact ⟨QuotedKey.ext (String.ofList_injective htext), rfl⟩

/-! ### What a key stands for -/

theorem parse_path : Path.parse k.subscripted = .ok k.path := by
  have hsplit : splitTopLevel '.' k.subscripted = some [k.subscripted] :=
    (splitTopLevel_eq_some_iff Path.isPlain_dot).mpr
      ⟨List.cons_ne_nil _ _, List.forall_mem_singleton.mpr (k.solid_subscripted (by decide) (by decide)), rfl⟩
  have hsegment : Path.segment k.subscripted = .ok [.key "spec", .mapKey (String.ofList k.text)] := by
    have hkey : Path.keyStep "spec".toList = .key "spec" := by decide
    rw [subscripted, segment_quotedSubscript (by decide) rfl k.quote_not_mem k.ne_nil, hkey]
  refine Path.parse_eq_ok_iff.mpr ?_
  rw [trim_eq_self k.isWord_subscripted.trimmed]
  exact ⟨k.isWord_subscripted.1, _, hsplit, Path.segments_eq_ok_iff.mpr ⟨_, .cons hsegment .nil, rfl⟩⟩

variable {A : AliasTable} (hA : A.get? "spec" = none)
include hA

/-- The text of a key stands for itself if the name before it is no alias. -/
theorem resolve_subscripted : A.resolve k.subscripted = k.subscripted := by
  have htrim : trim k.subscripted = k.subscripted := trim_eq_self k.isWord_subscripted.trimmed
  have hcall : splitCall (trim k.subscripted) = none := by rw [htrim, k.splitCall_subscripted]
  have hopen : ∀ c ∈ "spec".toList, (c != '[') = true := by decide
  have htake : k.subscripted.takeWhile (· != '[') = "spec".toList :=
    (List.takeWhile_append_of_pos hopen).trans (List.append_nil _)
  have hdrop : k.subscripted.dropWhile (· != '[') = quotedSubscript '"' k.text := List.dropWhile_append_of_pos hopen
  have hname : AliasTable.trimName "spec".toList = "spec".toList := by decide
  have hentry : AliasTable.mapEntry? "spec".toList = none := by decide
  rw [AliasTable.resolve_of_splitCall_eq_none hcall, htrim, htake, hdrop, hname, AliasTable.resolveName, String.ofList_toList, hA,
    hentry]
  rfl

theorem pathWord_subscripted : PathWord A k.path k.subscripted where
  isWord := k.isWord_subscripted
  solid := k.solid_subscripted (by decide) (by decide)
  whole := k.splitReducer_subscripted
  resolved := by rw [k.resolve_subscripted hA, k.splitCall_subscripted]
  parse := by rw [k.resolve_subscripted hA, k.parse_path]

/-- A key is read as the field with its path, if the parentheses in it are balanced. -/
theorem parse_typed : Field.parse A (k.typed reducer) = (k.reading reducer).map (·, k.typed reducer) := by
  have hread := (k.pathWord_subscripted hA).parse_callText reducer
  simp only [k.balanced_subscripted_iff] at hread
  rw [typed, hread, reading]
  split <;> rfl

theorem map_fst_parse_typed : (Field.parse A (k.typed reducer)).map Prod.fst = k.reading reducer := by
  rw [k.parse_typed reducer hA]
  cases k.reading reducer <;> rfl

omit hA

/-! ### Items -/

theorem open_mem_typed : '[' ∈ k.typed reducer := by
  have hopen : '[' ∈ k.subscripted := List.mem_append_right _ List.mem_cons_self
  cases reducer with
  | none => exact hopen
  | some r => exact List.mem_append_left _ (List.mem_append_right _ (List.mem_cons_of_mem _ hopen))

theorem fieldWord_typed : FieldWord (k.typed reducer) where
  isWord := Field.isWord_callText reducer k.isWord_subscripted
  solid := Field.solid_callText reducer k.isWord_subscripted.closed (k.solid_subscripted (by decide) (by decide))
  mixed := ⟨'[', k.open_mem_typed reducer, rfl⟩
  ne_star := fun he => by
    have hopen := k.open_mem_typed reducer
    rw [he] at hopen
    exact absurd hopen (by decide)

theorem title_item : (k.item reducer).title.toList = k.typed reducer := String.toList_ofList

theorem item_eq_implicit : SelectItem.implicit (k.field reducer) (k.typed reducer) = k.item reducer := by
  rw [SelectItem.implicit, trim_eq_self (k.fieldWord_typed reducer).isWord.trimmed]
  rfl

theorem parseSelectItem_typed (hA : A.get? "spec" = none) :
    Query.parseSelectItem A (k.typed reducer) = (k.reading reducer).map fun _ => k.item reducer := by
  rw [(k.fieldWord_typed reducer).parseSelectItem_eq, k.parse_typed reducer hA, ← k.item_eq_implicit reducer, reading]
  split <;> rfl

section Selected
variable {selected : List SelectItem} (hA : A.get? "spec" = none)
  (hselected : ∀ i ∈ selected, ∃ cs, Query.parseSelectItem A cs = .ok i)
include hA hselected

theorem orderTarget_typed :
    (Query.orderTarget A selected (k.typed reducer)).map SelectItem.field = k.reading reducer := by
  rw [← k.map_fst_parse_typed reducer hA]
  exact (k.pathWord_subscripted hA).orderTarget_field (k.fieldWord_typed reducer) hselected

theorem parseOrderItem_typed : ∀ d ∈ MetadataEntry.directions,
    (Query.parseOrderItem A selected (k.typed reducer ++ d.1)).map (fun o => (o.item.field, o.descending)) =
      (k.reading reducer).map (·, d.2) := by
  intro d hd
  rw [(k.fieldWord_typed reducer).parseOrderItem_eq A selected d hd, ← k.orderTarget_typed reducer hA hselected]
  cases Query.orderTarget A selected (k.typed reducer) <;> rfl

theorem fieldOf_typed : Bindings.fieldOf A selected (String.ofList (k.typed reducer)) = k.reading reducer := by
  rw [← k.map_fst_parse_typed reducer hA]
  exact (k.pathWord_subscripted hA).fieldOf_eq (k.fieldWord_typed reducer) hselected

/-- A predicate that asks for a key and for nothing else. -/
theorem resolve_of_identifiers {p : Predicate} (hp : p.identifiers = [k.name]) :
    Bindings.resolve p selected A = (k.reading none).map fun field => ⟨[(k.name, field)]⟩ := by
  have hfield : Bindings.fieldOf A selected k.name = k.reading none := k.fieldOf_typed none hA hselected
  unfold Bindings.resolve Bindings.ofNames
  rw [hp, List.mapM_cons, hfield]
  cases k.reading none <;> rfl

/-- Whatever else a predicate asks for, a key in it is bound to the field with its path. -/
theorem get?_of_resolve {p : Predicate} {b : Bindings} (hp : k.name ∈ p.identifiers)
    (hb : Bindings.resolve p selected A = .ok b) : b.fields.get? k.name = some (k.field none) := by
  obtain ⟨field, hfield, hget⟩ := Bindings.exists_get?_of_ofNames hb hp
  have hread : k.reading none = .ok field := (k.fieldOf_typed none hA hselected).symm.trans hfield
  rw [reading] at hread
  split at hread
  · rw [hget, ← Except.ok.inj hread]
  · cases hread

end Selected

/-! ### Conditions -/

open Predicate

theorem isIdentifier_name : IsIdentifier k.name := by
  have hspec : WordText "spec".toList := wordText_of_isWordChar (by unfold IsWordChar; decide)
  have hsubscript : WordText ('[' :: ('"' :: (k.text ++ '"' :: []) ++ ']' :: [])) :=
    .subscript (.quoted rfl k.quote_not_mem .nil) .nil
  exact isIdentifier_of_letter (by decide) (hspec.append hsubscript) ⟨'[', k.open_mem_typed none, rfl⟩

/-! ### Whole queries -/

/-- A query of keys as they are typed, with reducers or without. -/
structure Fills (q : Query) : Prop where
  source : q.source.Valid
  sourceFree : ClauseText.KeywordFree q.source.render
  limit : ∀ n, q.limit = some n → n < wordLimit
  items_ne_nil : ∀ items, q.selection = .only items → items ≠ []
  distinct : Query.DistinctTitles q.selection.named
  items : ∀ i ∈ q.selection.named, ∃ k reducer, i = item k reducer
  filter : ∀ condition, q.filter = some condition → ∃ k reducer, condition = String.ofList (typed k reducer)
  orderBy : ∀ o ∈ q.orderBy, ∃ k reducer, o.item = item k reducer

theorem Fills.ofWords {q : Query} (h : Fills q) : q.OfWords where
  source := h.source
  sourceFree := h.sourceFree
  limit := h.limit
  items_ne_nil := h.items_ne_nil
  distinct := h.distinct
  items := fun i hi => by
    obtain ⟨k, reducer, rfl⟩ := h.items i hi
    rw [k.title_item reducer]
    exact ⟨rfl, k.fieldWord_typed reducer⟩
  filter := fun condition hc => by
    obtain ⟨k, reducer, rfl⟩ := h.filter condition hc
    rw [String.toList_ofList]
    exact k.fieldWord_typed reducer
  orderBy := fun o ho => by
    obtain ⟨k, reducer, hitem⟩ := h.orderBy o ho
    rw [hitem, k.title_item reducer]
    exact k.fieldWord_typed reducer

theorem balanced_title_iff : Balanced (k.item reducer).title.toList ↔ Balanced k.text := by
  rw [k.title_item reducer, ← k.balanced_subscripted_iff]
  exact (Field.typed_of_splitReducer (k.splitReducer_typed reducer)).balanced_iff

theorem parseSelectItem_item_iff (hA : A.get? "spec" = none) :
    Query.parseSelectItem A (k.item reducer).title.toList = .ok (k.item reducer) ↔ Balanced (k.item reducer).title.toList := by
  rw [k.balanced_title_iff reducer, k.title_item reducer, k.parseSelectItem_typed reducer hA, reading]
  split
  · next h => exact iff_of_true rfl h
  · next h => exact iff_of_false (fun he => nomatch he) h

/-- Among items that are keys, a key orders by the item of its own. -/
theorem orderTarget_item {selected : List SelectItem} (hA : A.get? "spec" = none)
    (hkeys : ∀ i ∈ selected, ∃ l other, i = item l other) (hbalanced : Balanced k.text) :
    Query.orderTarget A selected (k.typed reducer) = .ok (k.item reducer) := by
  unfold Query.orderTarget
  cases htitle : selected.find? fun i => i.title == String.ofList (k.typed reducer) with
  | some i =>
    -- The title tells the key, so that the item is its own.
    obtain ⟨l, other, rfl⟩ := hkeys i (List.mem_of_find?_eq_some htitle)
    have hname := List.find?_some htitle
    obtain ⟨rfl, rfl⟩ := typed_injective (String.ofList_injective (beq_iff_eq.mp hname))
    rfl
  | none =>
    have hparse : Field.parse A (k.typed reducer) = .ok (k.field reducer, k.typed reducer) := by
      rw [k.parse_typed reducer hA, reading, if_pos hbalanced]
      rfl
    rw [hparse, ← k.item_eq_implicit reducer]
    dsimp only [bind, Except.bind, pure, Except.pure]
    cases hfield : selected.find? fun i => i.field == k.field reducer with
    | none => rfl
    | some i =>
      -- So does the field.
      obtain ⟨l, other, rfl⟩ := hkeys i (List.mem_of_find?_eq_some hfield)
      have hsame := List.find?_some hfield
      obtain ⟨rfl, rfl⟩ := field_injective (beq_iff_eq.mp hsame)
      rw [item_eq_implicit]
      rfl

theorem parse_render_iff {q : Query} (hA : A.get? "spec" = none) (h : Fills q) : Query.parse A q.render = .ok q ↔
    ∀ i ∈ q.selection.named ++ q.orderBy.map (·.item), Balanced i.title.toList := by
  rw [h.ofWords.parse_render_iff, List.forall_mem_append, List.forall_mem_map]
  have hselection : (∀ i ∈ q.selection.named, Query.parseSelectItem A i.title.toList = .ok i) ↔
      ∀ i ∈ q.selection.named, Balanced i.title.toList := forall₂_congr fun i hi => by
    obtain ⟨k, reducer, rfl⟩ := h.items i hi
    exact k.parseSelectItem_item_iff reducer hA
  rw [hselection]
  refine and_congr_right fun hbalanced => forall₂_congr fun o ho => ?_
  obtain ⟨k, reducer, hitem⟩ := h.orderBy o ho
  rw [hitem, k.balanced_title_iff reducer, k.title_item reducer]
  refine ⟨fun htarget => ?_, k.orderTarget_item reducer hA h.items⟩
  have hread := k.orderTarget_typed reducer hA fun i hi => ⟨_, hselection.mpr hbalanced i hi⟩
  rw [htarget, reading] at hread
  split at hread
  · next hk => exact hk
  · cases hread

/-- Let the name before it be no alias. Where a field is read, a key is read as the field with its path if its parentheses are
    balanced, and else it is refused for them: as an item of a selection or of an order whatever was selected, in a call of
    a reducer, as an identifier that is bound, and in whole queries. In the text of a condition it is one token, an identifier
    and the argument of a call, whatever it holds. -/
theorem read_iff_balanced {A : AliasTable} (hA : A.get? "spec" = none) (k : QuotedKey) (reducer : Option Reducer) :
    Query.parseSelectItem A (k.typed reducer) = (k.reading reducer).map (fun _ => k.item reducer) ∧
    (∀ selected : List SelectItem, (∀ i ∈ selected, ∃ cs, Query.parseSelectItem A cs = .ok i) →
      (∀ d ∈ MetadataEntry.directions,
        (Query.parseOrderItem A selected (k.typed reducer ++ d.1)).map (fun o => (o.item.field, o.descending)) =
          (k.reading reducer).map (·, d.2)) ∧
      (∀ p : Predicate, p.identifiers = [k.name] →
        Bindings.resolve p selected A = (k.reading none).map fun field => ⟨[(k.name, field)]⟩) ∧
      ∀ (p : Predicate) (b : Bindings), k.name ∈ p.identifiers → Bindings.resolve p selected A = .ok b →
        b.fields.get? k.name = some (k.field none)) ∧
    (∀ (offset : Nat) (rest : List Char), (∀ c ∈ rest.head?, endsWord c = true) →
      tokensFrom offset (k.subscripted ++ rest) =
        (tokensFrom (offset + byteLength k.subscripted) rest).map (⟨.word k.name, offset⟩ :: ·) ∧
      wordExpr offset k.name = .ok (.ident k.name)) ∧
    Predicate.parse k.name = .ok ⟨k.name, .ident k.name⟩ ∧
    (∀ f : Function, Predicate.parse (callText f k.name) = .ok ⟨callText f k.name, .call f (.ident k.name)⟩) ∧
    ∀ q : Query, Fills q → (Query.parse A q.render = .ok q ↔
      ∀ i ∈ q.selection.named ++ q.orderBy.map (·.item), Balanced i.title.toList) := by
  refine ⟨k.parseSelectItem_typed reducer hA, fun selected hselected => ⟨k.parseOrderItem_typed reducer hA hselected, ?_, ?_⟩,
    fun offset rest hrest => ⟨?_, k.isIdentifier_name.wordExpr_eq offset⟩, k.isIdentifier_name.parse_eq,
    k.isIdentifier_name.parse_callText, fun q => parse_render_iff hA⟩
  · exact fun p hp => k.resolve_of_identifiers hA hselected hp
  · exact fun p b hp hb => k.get?_of_resolve hA hselected hp hb
  · have hword := k.isIdentifier_name.tokensFrom_append hrest offset
    rwa [name, String.toList_ofList] at hword

/-- A key with marks, blanks and keywords in it. -/
def reserved : QuotedKey := ⟨"a.b, ']* AS (len FROM 7)".toList, by decide, by decide +kernel⟩

theorem read_iff_balanced_of_reserved :
    Query.parse .builtin ("SELECT spec[\"a.b, ']* AS (len FROM 7)\"] FROM pods " ++
      "WHERE any(spec[\"a.b, ']* AS (len FROM 7)\"]) ORDER BY len(spec[\"a.b, ']* AS (len FROM 7)\"]) DESC").toList =
        .ok ⟨.only [reserved.item none], ⟨"pods", .current⟩, some (callText .any reserved.name),
          [⟨reserved.item (some .len), true⟩], none⟩ ∧
    Predicate.parse (callText .any reserved.name) = .ok ⟨callText .any reserved.name, .call .any (.ident reserved.name)⟩ ∧
    Bindings.resolve ⟨callText .any reserved.name, .call .any (.ident reserved.name)⟩ [reserved.item none] .builtin =
      .ok ⟨[(reserved.name, ⟨⟨[.key "spec", .mapKey "a.b, ']* AS (len FROM 7)"]⟩, none⟩)]⟩ := by
  have hspec : AliasTable.builtin.get? "spec" = none := by decide
  obtain ⟨hselect, hselected, -, -, hcall, hquery⟩ := read_iff_balanced hspec reserved none
  have hreading : ∀ reducer, reserved.reading reducer = .ok (reserved.field reducer) := fun reducer => if_pos (by decide)
  refine ⟨?_, hcall .any, ?_⟩
  · let q : Query := ⟨.only [reserved.item none], ⟨"pods", .current⟩, some (callText .any reserved.name),
      [⟨reserved.item (some .len), true⟩], none⟩
    have hpods : ClauseText.KeywordFree "pods".toList :=
      ⟨[.word "pods".toList], by decide +kernel, ClauseText.noClause_iff.mpr (by decide +kernel)⟩
    have hsource : Query.parseSource "pods".toList = .ok ⟨"pods", .current⟩ := by decide +kernel
    have hfills : Fills q := by
      refine ⟨(Query.parseSource_eq_ok_iff.mp hsource).1, hpods, (fun _ hn => nomatch hn), ?_, List.pairwise_singleton _ _,
        List.forall_mem_singleton.mpr ⟨reserved, none, rfl⟩, ?_, List.forall_mem_singleton.mpr ⟨reserved, some .len, rfl⟩⟩
      · rintro items ⟨⟩
        exact List.cons_ne_nil _ _
      · rintro condition ⟨⟩
        exact ⟨reserved, some .any, by decide +kernel⟩
    have hread : Query.parse .builtin q.render = .ok q := (hquery q hfills).mpr (by decide +kernel)
    have htext : q.render = ("SELECT spec[\"a.b, ']* AS (len FROM 7)\"] FROM pods " ++
      "WHERE any(spec[\"a.b, ']* AS (len FROM 7)\"]) ORDER BY len(spec[\"a.b, ']* AS (len FROM 7)\"]) DESC").toList := by
      decide +kernel
    rw [htext] at hread
    exact hread
  · have hread : ∀ i ∈ [reserved.item none], ∃ cs, Query.parseSelectItem .builtin cs = .ok i := by
      refine List.forall_mem_singleton.mpr ⟨_, hselect.trans ?_⟩
      rw [hreading]
      rfl
    rw [(hselected _ hread).2.1 _ (by decide +kernel), hreading]
    have htext : String.ofList reserved.text = "a.b, ']* AS (len FROM 7)" := String.ofList_toList
    show Except.ok (Bindings.mk [(reserved.name, ⟨⟨[.key "spec", .mapKey (String.ofList reserved.text)]⟩, none⟩)]) = _
    rw [htext]

/-- A key that is one parenthesis is refused where a field is read, although it stands in quotes. -/
theorem parse_of_parenthesis :
    Query.parse .builtin "SELECT spec[\"(\"] FROM pods".toList = malformed (.unbalancedParens "spec[\"(\"]") ∧
    Query.parse .builtin "FROM pods ORDER BY spec[\"(\"]".toList = malformed (.unbalancedParens "spec[\"(\"]") ∧
    Bindings.fieldOf .builtin [] "spec[\"(\"]" = malformed (.unbalancedParens "spec[\"(\"]") := by
  decide +kernel

end QuotedKey

end ClusterQuery
