import ClusterQuery.Proofs.Query.OrderByTitle
import ClusterQuery.Proofs.Query.Segmentation

/-! A query for everything of a resource is the query for the columns of its table. The columns of the former are read from the
    table, and its order is bound to them afterwards; the latter has them in its text, and its order is looked up among them
    while it is read. -/

namespace ClusterQuery

open Nesting

namespace ClauseText

variable {selection rest : List Char} {found : List ClauseText}

/-- The text of a query from the source on. -/
def fromText (rest : List Char) : List Char := "FROM".toList ++ ' ' :: rest

/-- The text of a query that begins with a selection. -/
def selectText (selection rest : List Char) : List Char := "SELECT".toList ++ (' ' :: (selection ++ [' ']) ++ fromText rest)

/-! ### A selection before other clauses -/

theorem begins_select : Begins .select [.word "SELECT".toList] :=
  begins_of_clauseOf? (Piece.isWord_of_plain (by decide) (by decide)) (by decide) (by decide)

theorem begins_from : Begins .from [.word "FROM".toList] :=
  begins_of_clauseOf? (Piece.isWord_of_plain (by decide) (by decide)) (by decide) (by decide)

theorem trim_fromText (rest : List Char) : trim (fromText rest) = "FROM".toList ++ trimEnd (' ' :: rest) := by
  have hlast : ∀ c ∈ "FROM".toList.getLast?, isBlank c = false := by decide
  exact trim_append (by decide) (by decide) fun _ => hlast

theorem trim_selectText (selection rest : List Char) :
    trim (selectText selection rest) =
      "SELECT".toList ++ (' ' :: (selection ++ [' ']) ++ ("FROM".toList ++ trimEnd (' ' :: rest))) := by
  have hselect : ∀ c ∈ "SELECT".toList.getLast?, isBlank c = false := by decide
  have hfrom : ∀ c ∈ "FROM".toList.getLast?, isBlank c = false := by decide
  have hnot : ¬Blanks (fromText rest) := fun h => Bool.false_ne_true (h 'F' (List.mem_append_left _ (by decide)))
  have hbody : trimEnd (' ' :: (selection ++ [' ']) ++ fromText rest) = ' ' :: (selection ++ [' ']) ++ trimEnd (fromText rest) :=
    trimEnd_append fun h => absurd h hnot
  have hrest : trimEnd (fromText rest) = "FROM".toList ++ trimEnd (' ' :: rest) := trimEnd_append fun _ => hfrom
  calc trim (selectText selection rest)
      = "SELECT".toList ++ trimEnd (' ' :: (selection ++ [' ']) ++ fromText rest) :=
        trim_append (by decide) (by decide) fun _ => hselect
    _ = _ := congrArg _ (hbody.trans (congrArg _ hrest))

/-- No clause stands between a selection and a source. -/
theorem eq_nil_of_inOrder_select {before body source : List Char} {clauses more : List ClauseText}
    (h : InOrder (⟨.select, body⟩ :: (combine before clauses ([], ⟨.from, source⟩ :: more)).2)) : clauses = [] := by
  cases clauses with
  | nil => rfl
  | cons c clauses =>
    obtain ⟨hafter, h⟩ := List.pairwise_cons.mp h
    obtain ⟨hbefore, -⟩ := List.pairwise_cons.mp h
    have hsource : Clause.from ∈ (combine c.body clauses ([], ⟨.from, source⟩ :: more)).2.map (·.clause) := by
      rw [clauses_combine]
      exact List.mem_append_right _ List.mem_cons_self
    obtain ⟨d, hd, hfrom⟩ := List.mem_map.mp hsource
    have hlow := hafter _ List.mem_cons_self
    have hhigh : c.clause.rank < d.clause.rank := hbefore d hd
    have hranks : Clause.select.rank = 0 ∧ d.clause.rank = 1 := ⟨rfl, congrArg Clause.rank hfrom⟩
    dsimp only at hlow
    omega

theorem isBlank_head?_trimEnd_space (rest : List Char) : ∀ c ∈ (trimEnd (' ' :: rest)).head?, isBlank c = true := by
  intro c hc
  obtain ⟨tail, htail⟩ := trimEnd_prefix (' ' :: rest)
  obtain ⟨cs, hcs⟩ := List.head?_eq_some_iff.mp hc
  rw [hcs] at htail
  cases htail
  rfl

/-- The clauses after a selection are those of the text from the source on: a clause that began in the selection would stand
    before the source, and there is none to stand there. -/
theorem exists_ofText_of_selectText (hselection : Closed .ofWords selection)
    (h : ofText (trim (selectText selection rest)) = .ok found) :
    ∃ clauses, ofText (trim (fromText rest)) = .ok clauses ∧ found = ⟨.select, ' ' :: (selection ++ [' '])⟩ :: clauses := by
  obtain ⟨ps, hps, hsplit, horder, -⟩ := ofText_eq_ok_iff.mp h
  have hbody : Closed .ofWords (' ' :: (selection ++ [' '])) :=
    (show Closed .ofWords [' '] by decide).append (hselection.append (by decide))
  obtain ⟨bs, hbs⟩ := Piece.exists_cut_iff.mpr hbody
  obtain ⟨hbs, hjoin⟩ := Piece.cut_eq_ok_iff.mp hbs
  -- What follows the source's keyword is closed too, since everything around it is.
  have hrest : Closed .ofWords (trimEnd (' ' :: rest)) := by
    have hall : Closed .ofWords (trim (selectText selection rest)) := Piece.exists_cut_iff.mp ⟨ps, hps⟩
    rw [trim_selectText] at hall
    exact ((hall.of_append_left (by decide)).of_append_left hbody).of_append_left (by decide)
  obtain ⟨rs, hrs⟩ := Piece.exists_cut_iff.mpr hrest
  obtain ⟨hrs, hrsjoin⟩ := Piece.cut_eq_ok_iff.mp hrs
  have hrshead : ∀ c ∈ (Piece.join rs).head?, isBlank c = true := hrsjoin ▸ isBlank_head?_trimEnd_space rest
  have hbshead : ∀ c ∈ (Piece.join bs).head?, isBlank c = true := by
    rw [hjoin]
    rintro c ⟨⟩
    rfl
  have hbslast : Piece.join bs ≠ [] ∧ ∀ c ∈ (Piece.join bs).getLast?, isBlank c = true := by
    rw [hjoin, ← List.cons_append, List.getLast?_concat]
    refine ⟨List.cons_ne_nil _ _, ?_⟩
    rintro c ⟨⟩
    rfl
  have hfrom := begins_from.splits hrs (head?_isWord_of_blank hrs hrshead)
  have hselect := begins_select.splits_before hbs hbshead (fun _ => hbslast) hfrom
  have htext : Piece.join ([.word "SELECT".toList] ++ (bs ++ ([.word "FROM".toList] ++ rs))) = trim (selectText selection rest) := by
    rw [trim_selectText, ← hrsjoin, ← hjoin]
    simp
  obtain rfl := Except.ok.inj (hps.symm.trans (Piece.cut_eq_ok_iff.mpr ⟨hselect.wellCut, htext⟩))
  obtain rfl := (Prod.mk.inj (hselect.split.symm.trans hsplit)).2
  have hno := eq_nil_of_inOrder_select horder
  rw [hno, (noClause_iff.mpr hno).split_eq, hjoin, combine, List.append_nil] at horder ⊢
  refine ⟨_, ofText_eq_ok_iff.mpr ⟨_, ?_, hfrom.split, horder.of_cons, List.cons_ne_nil _ _⟩, rfl⟩
  exact Piece.cut_eq_ok_iff.mpr ⟨hfrom.wellCut, by rw [trim_fromText, ← hrsjoin]; simp⟩

end ClauseText

namespace Query

open ClauseText

variable {A : AliasTable} {q q' : Query} {selection selection' rest : List Char} {clauses : List ClauseText}

theorem readFrom_of_selectText (hselection : Closed .ofWords selection) (h : parse A (selectText selection rest) = .ok q) :
    ∃ clauses, ofText (trim (fromText rest)) = .ok clauses ∧ ReadFrom A (⟨.select, selection⟩ :: clauses) q := by
  obtain ⟨-, found, hfound, hread⟩ := parse_eq_ok_iff.mp h
  obtain ⟨clauses, hclauses, rfl⟩ := exists_ofText_of_selectText hselection hfound
  have htrim : trim (' ' :: (selection ++ [' '])) = trim selection := by
    rw [trim_cons_space, trim_append_blanks blanks_space]
  refine ⟨clauses, hclauses, (readFrom_of_trimmed rfl).mpr ((readFrom_of_trimmed ?_).mp hread)⟩
  rw [List.map_cons, List.map_cons, trimmed, trimmed, htrim]

theorem body?_select_cons {clause : Clause} (h : clause ≠ .select) :
    body? (⟨.select, selection⟩ :: clauses) clause = body? clauses clause := by
  cases clause <;> first | exact (h rfl).elim | rfl

/-- Queries that differ in the selection have the same source, condition and limit. -/
theorem eq_of_readFrom_select (h : ReadFrom A (⟨.select, selection⟩ :: clauses) q)
    (h' : ReadFrom A (⟨.select, selection'⟩ :: clauses) q') :
    q.source = q'.source ∧ q.filter = q'.filter ∧ q.limit = q'.limit := by
  obtain ⟨body, hbody, hsource⟩ := h.source
  obtain ⟨body', hbody', hsource'⟩ := h'.source
  have hfilter := h.filter
  have hfilter' := h'.filter
  have hlimit := h.limit
  have hlimit' := h'.limit
  rw [body?_select_cons (by decide)] at hbody hbody' hfilter hfilter' hlimit hlimit'
  rw [hbody] at hbody'
  cases hbody'
  exact ⟨Except.ok.inj (hsource.symm.trans hsource'), Except.ok.inj (hfilter.symm.trans hfilter'),
    Except.ok.inj (hlimit.symm.trans hlimit')⟩

/-! ### Columns spelled out -/

/-- A field and its title, typed out. -/
def titledText (cs title : List Char) : List Char := cs ++ ' ' :: ("AS".toList ++ ' ' :: title)

/-- The columns of a table, typed out as a selection. -/
def columnsText (fields : List TableField) : List Char :=
  renderList (fields.map fun f => titledText f.expression.toList f.title.toList)

theorem trim_columnsText_ne_star (fields : List TableField) : trim (columnsText fields) ≠ ['*'] := by
  intro h
  cases fields with
  | nil => cases h
  | cons f fields =>
    have hmem : 'A' ∈ titledText f.expression.toList f.title.toList :=
      List.mem_append_right _ (List.mem_cons_of_mem _ (List.mem_append_left _ (by decide)))
    have htext : 'A' ∈ columnsText (f :: fields) := mem_joinWith List.mem_cons_self hmem
    have htrim := mem_trim htext rfl
    rw [h] at htrim
    exact absurd htrim (by decide)

/-- A text that a query for a resource selects as one item. -/
def SelectedAlone (A : AliasTable) (resource cs : List Char) : Prop :=
  ∃ q i, parse A (selectText cs resource) = .ok q ∧ q.selection = .only [i]

variable {cs title resource : List Char} {i : SelectItem}

theorem closed_of_parse_selectText (hresource : IsName resource) (h : parse A (selectText cs resource) = .ok q) :
    Closed .ofWords cs := by
  obtain ⟨-, clauses, hclauses, -⟩ := parse_eq_ok_iff.mp h
  obtain ⟨ps, hps, -⟩ := ofText_eq_ok_iff.mp hclauses
  have hclosed : Closed .ofWords (selectText cs resource) := Piece.closed_of_trim (Piece.exists_cut_iff.mp ⟨ps, hps⟩)
  have hspace : Closed .ofWords [' '] := by decide
  have hfrom : Closed .ofWords (fromText resource) :=
    (show Closed .ofWords "FROM".toList by decide).append (hspace.append (isWord_of_isName hresource).closed)
  have hbody : Closed .ofWords ([' '] ++ (cs ++ [' '])) := (hclosed.of_append_left (by decide)).of_append_right rfl hfrom
  exact (hbody.of_append_left hspace).of_append_right rfl hspace

theorem SelectedAlone.itemText (h : SelectedAlone A resource cs) (hresource : IsName resource) : ItemText (trim cs) := by
  obtain ⟨q, i, hq, hselection⟩ := h
  have hclosed := closed_of_parse_selectText hresource hq
  obtain ⟨clauses, -, hread⟩ := readFrom_of_selectText hclosed hq
  have hread : parseSelection A (trim cs) = .ok q.selection := hread.selection
  rw [hselection] at hread
  obtain ⟨hne, -, pieces, hpieces, hitems, -⟩ := parseSelection_eq_only_iff.mp hread
  obtain ⟨-, hsolid, hjoin⟩ := (splitTopLevel_eq_some_iff isPlain_comma).mp hpieces
  cases hitems with
  | @cons piece _ _ _ _ hnil =>
    cases hnil
    refine ⟨hne, trimmed_trim cs, closed_trim hclosed, ?_⟩
    rw [← hjoin]
    exact hsolid piece List.mem_cons_self

theorem closed_titledText (hcs : Closed .ofWords cs) (htitle : isTitleText title = true) : Closed .ofWords (titledText cs title) := by
  obtain ⟨hne, hchars⟩ := isTitleText_iff.mp htitle
  have hspace : Closed .ofWords [' '] := by decide
  have hword : Closed .ofWords "AS".toList := by decide
  exact hcs.append (hspace.append (hword.append (hspace.append (itemText_of_isTitleChar hne hchars).closed)))

theorem solid_titledText (hcs : Solid ',' cs) (htitle : isTitleText title = true) : Solid ',' (titledText cs title) := by
  obtain ⟨hne, hchars⟩ := isTitleText_iff.mp htitle
  have hspace : Solid ',' [' '] := leads_of_plain (by decide)
  have hword : Solid ',' "AS".toList := leads_of_plain (by decide)
  exact hcs.append (hspace.append (hword.append (hspace.append (itemText_of_isTitleChar hne hchars).solid)))

/-- The last three pieces of a titled text are the keyword, a blank and the title. -/
theorem exists_cut_titledText (hcs : ItemText (trim cs)) (htitle : Piece.IsWord title) :
    ∃ ps, Piece.cut (trim (titledText cs title)) = .ok (ps ++ [.word "AS".toList, .blanks [' '], .word title]) ∧
      trim (Piece.join ps) = trim cs := by
  obtain ⟨before, gap, hbefore, hgap, heq⟩ := exists_trim cs
  obtain ⟨ps, hps⟩ := Piece.exists_cut_iff.mpr hcs.closed
  have hword : Piece.IsWord "AS".toList := Piece.isWord_of_plain (by decide) (by decide)
  have hblanks : Blanks (gap ++ [' ']) := hgap.append blanks_space
  have hkeyword : Trimmed (trim cs ++ (gap ++ [' '] ++ "AS".toList)) := by
    refine trimmed_append hcs.ne_nil (by simp) hcs.trimmed.head fun c hc => ?_
    rw [List.getLast?_append_of_ne_nil _ hword.1] at hc
    exact hword.trimmed.last c hc
  have htrimmed : Trimmed (trim cs ++ (gap ++ [' '] ++ "AS".toList) ++ ' ' :: title) := by
    refine trimmed_append (List.append_ne_nil_of_left_ne_nil hcs.ne_nil _) (List.cons_ne_nil _ _) hkeyword.head fun c hc => ?_
    rw [List.getLast?_cons_of_ne_nil htitle.1] at hc
    exact htitle.trimmed.last c hc
  have htext : titledText cs title = before ++ (trim cs ++ (gap ++ [' '] ++ "AS".toList) ++ ' ' :: title) := by
    rw [titledText]
    conv_lhs => rw [heq]
    simp only [List.append_assoc, List.cons_append, List.nil_append]
  have hcut := Piece.cut_append_word (Piece.cut_append_blanks_word hps hcs.trimmed hblanks (by simp) hword) hkeyword htitle
  refine ⟨ps ++ [.blanks (gap ++ [' '])], ?_, ?_⟩
  · rw [htext, trim_blanks_append hbefore, trim_eq_self htrimmed, hcut]
    simp only [List.append_assoc, List.cons_append, List.nil_append]
  · rw [Piece.join_append, (Piece.cut_eq_ok_iff.mp hps).2, Piece.join_cons, Piece.join_nil, List.append_nil]
    exact hcs.trimmed.trim_between blanks_nil hblanks

theorem closed_columnsText {fields : List TableField} (hresource : IsName resource)
    (htitles : ∀ f ∈ fields, isTitleText f.title.toList = true)
    (halone : ∀ f ∈ fields, SelectedAlone A resource f.expression.toList) : Closed .ofWords (columnsText fields) := by
  refine closed_renderList (List.forall_mem_map.mpr fun f hf => closed_titledText ?_ (htitles f hf))
  exact Piece.closed_of_trim ((halone f hf).itemText hresource).closed

/-- A field before a title is the field alone. The last `AS` is the one before the title, since no title is read after a
    title that is `AS` itself. -/
theorem parse_of_parseSelectItem_titledText (hcs : ItemText (trim cs)) (htitle : isTitleText title = true)
    (h : parseSelectItem A (trim (titledText cs title)) = .ok i) :
    i = ⟨i.field, String.ofList title, true⟩ ∧ ∃ text, Field.parse A cs = .ok (i.field, text) := by
  have hword : Piece.IsWord title := isWord_of_isTitleChar (isTitleText_iff.mp htitle).1 (isTitleText_iff.mp htitle).2
  obtain ⟨ps, hcut, htrim⟩ := exists_cut_titledText hcs hword
  by_cases hkeyword : sameIgnoringCase title "as".toList = true
  · have hsplit : splitAtLastWord (sameIgnoringCase · "as".toList) (ps ++ [.word "AS".toList, .blanks [' '], .word title]) =
        some (ps ++ [.word "AS".toList, .blanks [' ']], title, []) :=
      splitAtLastWord_eq_some_iff.mpr ⟨by rw [List.append_assoc]; rfl, hkeyword, fun _ hv => nomatch hv⟩
    obtain ⟨-, hnone, -⟩ := (parseSelectItem_eq_ok_iff_of_split hcut hsplit).mp h
    cases hnone
  · have hsplit : splitAtLastWord (sameIgnoringCase · "as".toList) (ps ++ [.word "AS".toList, .blanks [' '], .word title]) =
        some (ps, "AS".toList, [.blanks [' '], .word title]) :=
      splitAtLastWord_eq_some_iff.mpr ⟨rfl, by decide, fun v hv => by simp_all⟩
    obtain ⟨-, -, field, text, hfield, rfl⟩ := (parseSelectItem_eq_ok_iff_of_split hcut hsplit).mp h
    rw [htrim, Field.parse_trim] at hfield
    have htitle : trim (Piece.join [.blanks [' '], .word title]) = title := by
      rw [Piece.join_cons, Piece.join_cons, Piece.join_nil]
      exact hword.trimmed.trim_between blanks_space blanks_nil
    rw [htitle]
    exact ⟨rfl, text, hfield⟩

theorem exists_items_of_parseSelection {css : List (List Char)} {selection : Selection} (hsolid : ∀ cs ∈ css, Solid ',' cs)
    (hstar : trim (renderList css) ≠ ['*']) (h : parseSelection A (trim (renderList css)) = .ok selection) :
    ∃ items, selection = .only items ∧ List.Forall₂ (fun cs i => parseSelectItem A (trim cs) = .ok i) css items ∧
      DistinctTitles items := by
  cases selection with
  | all => exact (hstar (parseSelection_eq_all_iff.mp h)).elim
  | only items =>
    obtain ⟨hne, -, pieces, hpieces, hitems, hdistinct⟩ := parseSelection_eq_only_iff.mp h
    have hcss : css ≠ [] := by
      rintro rfl
      exact hne rfl
    obtain ⟨padded, hpadded, htrim⟩ := exists_splitTopLevel_of_trim isPlain_comma (by decide) hpieces
    rw [splitTopLevel_renderList hcss hsolid] at hpadded
    cases hpadded
    refine ⟨items, rfl, ?_, hdistinct⟩
    have hmap : List.Forall₂ (ItemFrom A) (pieces.map trim) items := List.forall₂_map_left_iff.mpr hitems
    rw [← htrim] at hmap
    have hspaced := forall₂_spaced_iff.mp (List.forall₂_map_left_iff.mp hmap)
    exact hspaced.imp fun _ _ hitem => hitem.reads

/-! ### Texts of an order -/

theorem trimmed_of_splitDirection {text : List Char} {descending : Bool} (htrimmed : Trimmed cs)
    (h : splitDirection cs = .ok (some (text, descending))) : Trimmed text := by
  unfold splitDirection at h
  obtain ⟨pieces, -, h⟩ := Except.bind_eq_ok_iff.mp h
  split at h
  · cases h
  · split at h
    · cases h
      exact trimmed_trim _
    · split at h
      · cases h
        exact trimmed_trim _
      · cases h
        exact htrimmed

end Query

namespace Engine

open Query

variable {e : Engine} {columns : List SelectItem} {text : List Char} {i j : SelectItem}

/-- Columns with titles of their own. -/
def Titled (columns : List SelectItem) : Prop := ∀ c ∈ columns, c.explicit = true ∧ isTitleText c.title.toList = true

/-- A text orders by the same field whether it is bound to the columns afterwards or looked up among them. -/
theorem rule_rebind_eq (hcolumns : Titled columns) (htext : Trimmed text) (hi : orderTarget .builtin [] text = .ok i)
    (hj : orderTarget .builtin columns text = .ok j) (descending : Bool) :
    (rebind columns ⟨i, descending⟩).rule = (rebind columns ⟨j, descending⟩).rule := by
  unfold orderTarget at hi hj
  obtain ⟨⟨f, shown⟩, hf, hi⟩ := Except.bind_eq_ok_iff.mp hi
  obtain rfl : SelectItem.implicit f shown = i := Except.ok.inj hi
  cases hfound : columns.find? fun c => c.title == String.ofList text with
  | some c =>
    -- The text is a title, and its normal form is the same title.
    rw [hfound] at hj
    obtain rfl : c = j := Except.ok.inj hj
    obtain ⟨hexplicit, htitle⟩ := hcolumns c (List.mem_of_find?_eq_some hfound)
    have heq : c.title = String.ofList text := by simpa using List.find?_some hfound
    rw [heq, String.toList_ofList] at htitle
    have hbare : Bare text := fun d hd => by
      have hchar := (isTitleText_iff.mp htitle).2 d hd
      exact ⟨isBlank_of_isTitleChar hchar, not_mem_of_all hchar (by decide)⟩
    obtain rfl := Field.eq_of_parse_bare hbare hf
    rw [rebind_implicit, trim_eq_self htext, hfound, Option.getD_some, rebind_of_explicit hexplicit]
  | none =>
    rw [hfound] at hj
    rw [hf] at hj
    obtain rfl : (columns.find? fun c => c.field == f).getD (.implicit f shown) = j := Except.ok.inj hj
    -- Its normal form is no title either: it is the text itself or holds a parenthesis.
    have hnone : (columns.find? fun c => c.title == String.ofList (trim shown)) = none := by
      refine List.find?_eq_none.mpr fun c hc htitle => List.find?_eq_none.mp hfound c hc ?_
      have hchars := (isTitleText_iff.mp (hcolumns c hc).2).2
      rw [beq_iff_eq.mp htitle, String.toList_ofList] at hchars
      have hopen : '(' ∉ shown := fun hmem => Bool.false_ne_true (hchars _ (mem_trim hmem rfl))
      rwa [Field.eq_trim_of_parse hf hopen, trim_trim, trim_eq_self htext] at htitle
    have himplicit : (rebind columns ⟨.implicit f shown, descending⟩) = ⟨.implicit f shown, descending⟩ := by
      rw [rebind_implicit, hnone, Option.getD_none]
    rw [himplicit]
    cases hfield : columns.find? fun c => c.field == f with
    | none => rw [Option.getD_none, himplicit]
    | some c =>
      rw [Option.getD_some, rebind_of_explicit (hcolumns c (List.mem_of_find?_eq_some hfield)).1]
      have heq : c.field = f := by simpa using List.find?_some hfield
      rw [OrderItem.rule, OrderItem.rule, heq]
      rfl

theorem rule_rebind_eq_of_parseOrderItem (hcolumns : Titled columns) {cs : List Char} {o o' : OrderItem} (htrimmed : Trimmed cs)
    (h : parseOrderItem .builtin [] cs = .ok o) (h' : parseOrderItem .builtin columns cs = .ok o') :
    (rebind columns o).rule = (rebind columns o').rule := by
  obtain ⟨text, hdirection, -, hi⟩ := parseOrderItem_eq_ok_iff.mp h
  obtain ⟨text', hdirection', -, hj⟩ := parseOrderItem_eq_ok_iff.mp h'
  obtain ⟨i, descending⟩ := o
  obtain ⟨j, descending'⟩ := o'
  obtain ⟨rfl, rfl⟩ := Prod.mk.inj (Option.some.inj (Except.ok.inj (hdirection.symm.trans hdirection')))
  exact rule_rebind_eq hcolumns (trimmed_of_splitDirection htrimmed hdirection) hi hj descending

/-- Orders that are read from the same text sort alike, whether or not the columns are known when they are read. -/
theorem rules_rebind_eq (hcolumns : Titled columns) {body? : Option (List Char)} {items items' : List OrderItem}
    (h : readOrder .builtin [] body? = .ok items) (h' : readOrder .builtin columns body? = .ok items') :
    (items.map (rebind columns)).map OrderItem.rule = (items'.map (rebind columns)).map OrderItem.rule := by
  cases body? with
  | none =>
    cases h
    cases h'
    rfl
  | some body =>
    obtain ⟨-, pieces, hpieces, hitems⟩ := parseOrder_eq_ok_iff.mp h
    obtain ⟨-, pieces', hpieces', hitems'⟩ := parseOrder_eq_ok_iff.mp h'
    obtain rfl : pieces = pieces' := Option.some.inj (hpieces.symm.trans hpieces')
    rw [List.map_map, List.map_map]
    exact hitems.map_eq_map hitems' fun cs _ _ ho ho' => rule_rebind_eq_of_parseOrderItem hcolumns (trimmed_trim cs) ho ho'

/-! ### Columns of a table -/

/-- The columns of a table that are selected by their texts are the columns that the table stands for. -/
theorem exists_columns_of_columnsText {fields : List TableField} {resource : List Char} (hresource : IsName resource)
    (htitles : ∀ f ∈ fields, isTitleText f.title.toList = true)
    (halone : ∀ f ∈ fields, SelectedAlone e.aliases resource f.expression.toList) {selection : Selection}
    (h : parseSelection e.aliases (trim (columnsText fields)) = .ok selection) :
    ∃ columns, selection = .only columns ∧ fields.mapM e.tableColumn = .ok columns ∧ DistinctTitles columns ∧ Titled columns := by
  have hitem : ∀ f ∈ fields, ItemText (trim f.expression.toList) := fun f hf => (halone f hf).itemText hresource
  have hsolid : ∀ cs ∈ fields.map (fun f => titledText f.expression.toList f.title.toList), Solid ',' cs :=
    List.forall_mem_map.mpr fun f hf => solid_titledText (solid_of_trim (by decide) (hitem f hf).solid) (htitles f hf)
  obtain ⟨columns, rfl, hcolumns, hdistinct⟩ := exists_items_of_parseSelection hsolid (trim_columnsText_ne_star fields) h
  have hcolumns := List.forall₂_map_left_iff.mp hcolumns
  have hread : List.Forall₂ (fun f c => e.tableColumn f = .ok c ∧ c.explicit = true ∧ isTitleText c.title.toList = true)
      fields columns := by
    have hfields : ∀ f ∈ fields, ItemText (trim f.expression.toList) ∧ isTitleText f.title.toList = true := fun f hf =>
      ⟨hitem f hf, htitles f hf⟩
    refine ((List.forall₂_and_left _ _).mpr ⟨hfields, hcolumns⟩).imp ?_
    rintro f c ⟨⟨hitem, htitle⟩, hc⟩
    obtain ⟨hc, text, hfield⟩ := parse_of_parseSelectItem_titledText hitem htitle hc
    rw [String.ofList_toList] at hc
    rw [tableColumn, hfield, hc]
    exact ⟨rfl, rfl, htitle⟩
  refine ⟨columns, rfl, Except.mapM_eq_ok_iff.mpr (hread.imp fun _ _ h => h.1), hdistinct, fun c hc => ?_⟩
  obtain ⟨_, -, h⟩ := hread.exists_of_mem_right hc
  exact h.2

/-! ### The run -/

/-- Plans that differ in their orders only, which sort alike, run alike. -/
theorem run_eq_of_rules {m : Type → Type} [Monad m] {ε : Type} {q q' : Query} {p : Plan} {items : List OrderItem}
    (hq : e.plan q = .ok p) (hq' : e.plan q' = .ok { p with orderBy := items })
    (h : p.orderBy.map OrderItem.rule = items.map OrderItem.rule) (cpus : Nat) (c : Cancellation)
    (list : Source → m (Except ε (List Document))) : e.run cpus c list q = e.run cpus c list q' := by
  have hfinish : ∀ size (listed : Except ε (List Document)),
      p.finish size cpus c listed = Plan.finish { p with orderBy := items } size cpus c listed :=
    fun size => Plan.finish_eq_of_rules h size cpus c
  unfold run
  rw [hq, hq']
  simp only [hfinish]

theorem columns_of_only {q : Query} (hselection : q.selection = .only columns) (hdistinct : DistinctTitles columns) :
    e.columns q = .ok columns := by
  have hnone : repeatedTitle? columns [] = none := repeatedTitle?_eq_none_iff.mpr ⟨hdistinct, fun _ _ => List.not_mem_nil⟩
  unfold Engine.columns
  rw [hselection]
  dsimp only
  rw [pure_bind, hnone]
  rfl

theorem plan_of_only {q : Query} (hselection : q.selection = .only columns) (hdistinct : DistinctTitles columns)
    (hfilter : q.filter = none) :
    e.plan q = .ok ⟨q.source, columns, none, q.orderBy.map (rebind columns), q.limit⟩ :=
  plan_eq_ok (columns_of_only hselection hdistinct) (by rw [hfilter]; rfl)

/-- A query for everything runs as the query that spells out the columns of the table, whatever order and limit follow.
    The texts of the columns have to be such that each is selected alone, and the titles such that they can be given. -/
theorem run_star_eq_run_columnsText {e : Engine} (haliases : e.aliases = .builtin) {rest : List Char} {star spelled : Query}
    (hstar : parse e.aliases (ClauseText.selectText ['*'] rest) = .ok star) (hfilter : star.filter = none)
    (htitles : ∀ f ∈ e.projections.columnsFor star.source.resource, isTitleText f.title.toList = true)
    (halone : ∀ f ∈ e.projections.columnsFor star.source.resource,
      SelectedAlone e.aliases star.source.resource.toList f.expression.toList)
    (hspelled : parse e.aliases
      (ClauseText.selectText (columnsText (e.projections.columnsFor star.source.resource)) rest) = .ok spelled)
    {m : Type → Type} [Monad m] {ε : Type} (cpus : Nat) (c : Cancellation) (list : Source → m (Except ε (List Document))) :
    e.run cpus c list star = e.run cpus c list spelled := by
  obtain ⟨clauses, hclauses, hread⟩ := readFrom_of_selectText (by decide) hstar
  obtain ⟨_, _, hsource⟩ := hread.source
  have hresource : IsName star.source.resource.toList := (valid_of_parseSource hsource).1.resource
  have hall : star.selection = .all := (Except.ok.inj hread.selection).symm
  have hclosed := closed_columnsText hresource htitles halone
  obtain ⟨clauses', hclauses', hread'⟩ := readFrom_of_selectText hclosed hspelled
  obtain rfl : clauses = clauses' := Except.ok.inj (hclauses.symm.trans hclauses')
  obtain ⟨hsource, hfilter', hlimit⟩ := eq_of_readFrom_select hread hread'
  obtain ⟨columns, hselection, hcolumns, hdistinct, htitled⟩ :=
    exists_columns_of_columnsText hresource htitles halone hread'.selection
  have hplan := (plan_of_all_eq_ok_iff hall hfilter hcolumns).mpr ⟨hdistinct, rfl⟩
  have hplan' := plan_of_only (e := e) hselection hdistinct (hfilter'.symm.trans hfilter)
  have horder := hread.orderBy
  have horder' := hread'.orderBy
  rw [hall, haliases, body?_select_cons (by decide)] at horder
  rw [hselection, haliases, body?_select_cons (by decide)] at horder'
  rw [← hsource, ← hlimit] at hplan'
  exact run_eq_of_rules hplan hplan' (rules_rebind_eq htitled horder horder') cpus c list

/-- The first pod of a namespace in the order of a title, of no title, and of the text of a column. -/
theorem run_star_eq_run_columnsText_of_pods :
    let fields : List TableField := [⟨"N", " name"⟩, ⟨"RESTARTS", "sum(status.restarts[*])"⟩]
    let e : Engine := ⟨.builtin, ⟨[("Pod", fields)]⟩, none⟩
    let rest := "web/pods order by N desc, n, sum status.restarts[*] LIMIT 1".toList
    ∃ star spelled, parse e.aliases (ClauseText.selectText ['*'] rest) = .ok star ∧ star.filter = none ∧
      star.source.resource = "pods" ∧ e.projections.columnsFor "pods" = fields ∧
      (∀ f ∈ fields, isTitleText f.title.toList = true) ∧
      (∀ f ∈ fields, SelectedAlone e.aliases "pods".toList f.expression.toList) ∧
      parse e.aliases (ClauseText.selectText (columnsText fields) rest) = .ok spelled ∧
      ∀ (cpus : Nat) (c : Cancellation) (list : Source → StateM (List Source) (Except String (List Document))),
        e.run cpus c list star = e.run cpus c list spelled := by
  intro fields e rest
  have hread : ((parse e.aliases (ClauseText.selectText ['*'] rest)).toOption.map fun q => (q.filter, q.source.resource)) =
      some (none, "pods") := by decide +kernel
  have hspelled : (parse e.aliases (ClauseText.selectText (columnsText fields) rest)).toOption.isSome = true := by decide +kernel
  have hfields : e.projections.columnsFor "pods" = fields := by decide +kernel
  have htitles : ∀ f ∈ fields, isTitleText f.title.toList = true := by decide +kernel
  have hitems : ∀ f ∈ fields, ((parse e.aliases (ClauseText.selectText f.expression.toList "pods".toList)).toOption.map
      (·.selection.named.length)) = some 1 := by decide +kernel
  have halone : ∀ f ∈ fields, SelectedAlone e.aliases "pods".toList f.expression.toList := fun f hf => by
    obtain ⟨q, hq, hone⟩ := Option.map_eq_some_iff.mp (hitems f hf)
    obtain ⟨i, hi⟩ := List.length_eq_one_iff.mp hone
    refine ⟨q, i, Except.toOption_eq_some_iff.mp hq, ?_⟩
    cases hselection : q.selection with
    | all =>
      rw [hselection] at hi
      cases hi
    | only items =>
      rw [hselection] at hi
      exact congrArg Selection.only hi
  obtain ⟨star, hstar, hparts⟩ := Option.map_eq_some_iff.mp hread
  obtain ⟨hfilter, hresource⟩ := Prod.mk.inj hparts
  obtain ⟨spelled, hspelled⟩ := Option.isSome_iff_exists.mp hspelled
  have hstar := Except.toOption_eq_some_iff.mp hstar
  have hspelled := Except.toOption_eq_some_iff.mp hspelled
  refine ⟨star, spelled, hstar, hfilter, hresource, hfields, htitles, halone, hspelled, fun cpus c list => ?_⟩
  refine run_star_eq_run_columnsText rfl hstar hfilter ?_ ?_ ?_ cpus c list
  · rwa [hresource, hfields]
  · rwa [hresource, hfields]
  · rwa [hresource, hfields]

end Engine

end ClusterQuery
