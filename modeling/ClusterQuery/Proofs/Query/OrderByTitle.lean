import ClusterQuery.Proofs.Query.BareField
import ClusterQuery.Proofs.Query.Pipeline
import ClusterQuery.Proofs.Query.WellFormed

/-! Ordering by the title of a column. Before a title is compared with the titles of the columns, it is read as a field;
    what stands for no field cannot be ordered by, though a column may have it as its title. -/

namespace ClusterQuery

open Nesting

/-! ### The query for everything in the order of a title -/

/-- A title that can be typed as one word of an order: it has no blank, comma, quote or square bracket, and is neither a
    keyword nor a direction. -/
structure IsTitleWord (cs : List Char) : Prop where
  chars : ∀ c ∈ cs, isBlank c = false ∧ c ∉ [',', '\'', '"', '[', ']']
  keyword : ClauseText.clauseOf? cs = none
  direction : ∀ direction ∈ ["asc".toList, "desc".toList], sameIgnoringCase cs direction = false

namespace IsTitleWord

variable {t cs name inner : List Char}

theorem not_blank (ht : IsTitleWord t) : ∀ c ∈ t, isBlank c = false := fun c hc => (ht.chars c hc).1

theorem trimmed (ht : IsTitleWord t) : Trimmed t := trimmed_of_not_blank ht.not_blank

theorem isWord (ht : IsTitleWord t) (hne : t ≠ []) (hclosed : Closed .ofWords t) : Piece.IsWord t :=
  ⟨hne, leads_of_run hclosed ht.not_blank⟩

/-- What a title holds without parentheses is bare. -/
theorem bare (ht : IsTitleWord t) (hcs : ∀ c ∈ cs, c ∈ t) (hopen : '(' ∉ cs) (hclose : ')' ∉ cs) : Bare cs := by
  intro c hc
  obtain ⟨hblank, hchar⟩ := ht.chars c (hcs c hc)
  refine ⟨hblank, fun hmark => ?_⟩
  have hmarks : ∀ m ∈ Brackets.marks, m ∈ [',', '\'', '"', '[', ']'] ∨ m = '(' ∨ m = ')' := by decide
  rcases hmarks c hmark with hother | rfl | rfl
  · exact hchar hother
  · exact hopen hc
  · exact hclose hc

/-- A call begins with its name, since a title has no blanks. -/
theorem eq_of_splitCall (ht : IsTitleWord t) (h : splitCall t = some (name, inner)) :
    t = name ++ '(' :: (inner ++ [')']) ∧ ∀ c ∈ name, isTitleChar c = true := by
  obtain ⟨front, ht', -, hname, -, hchars⟩ := splitCall_eq_some h
  have hfront : trim front = front :=
    trim_eq_self (trimmed_of_not_blank fun c hc => ht.not_blank c (ht' ▸ List.mem_append_left _ hc))
  rw [← hname, hfront] at hchars ⊢
  exact ⟨ht', hchars⟩

end IsTitleWord

theorem closed_call {name inner : List Char} (hname : ∀ c ∈ name, isTitleChar c = true) (hinner : Bare inner) :
    Closed .ofWords (name ++ '(' :: (inner ++ [')'])) := by
  have hin : Nesting.run .ofWords ⟨1, none⟩ (inner ++ [')']) = some outside :=
    run_trans (Field.inCall_of_closed hinner.closed) rfl
  exact (closed_of_plain fun c hc => (isPlain_of_isTitleChar (hname c hc)).1).append hin

namespace Query

open ClauseText

/-- The words of the query, of which the title may be empty. -/
def orderedWords (r t : List Char) : List (List Char) :=
  ["FROM".toList, r, "ORDER".toList, "BY".toList] ++ if t = [] then [] else [t]

/-- The query for everything of a resource in the order of a title. -/
def orderedText (r t : List Char) : List Char := "FROM ".toList ++ r ++ " ORDER BY ".toList ++ t

variable {A : AliasTable} {r t : List Char}

theorem isWord_of_mem_orderedWords (hr : IsName r) (ht : IsTitleWord t) (hclosed : Closed .ofWords t) :
    ∀ w ∈ orderedWords r t, Piece.IsWord w := by
  have hletters : ∀ w ∈ ["FROM".toList, "ORDER".toList, "BY".toList], Piece.IsWord w := by
    have hplain : ∀ w ∈ ["FROM".toList, "ORDER".toList, "BY".toList],
        w ≠ [] ∧ ∀ c ∈ w, Brackets.ofWords.isPlain c = true ∧ isBlank c = false := by decide
    exact fun w hw => Piece.isWord_of_plain (hplain w hw).1 (hplain w hw).2
  refine List.forall_mem_append.mpr ⟨?_, fun w hw => ?_⟩
  · simp only [List.forall_mem_cons] at hletters ⊢
    exact ⟨hletters.1, isWord_of_isName hr, hletters.2⟩
  · split at hw
    · cases hw
    · next hne =>
      cases List.mem_singleton.mp hw
      exact ht.isWord hne hclosed

theorem orderedText_eq (r t : List Char) :
    orderedText r t = joinWith [' '] ["FROM".toList, r, "ORDER".toList, "BY".toList] ++ ' ' :: t := by
  have hfrom : "FROM ".toList = "FROM".toList ++ [' '] := by decide
  have horder : " ORDER BY ".toList = ' ' :: ("ORDER".toList ++ ' ' :: ("BY".toList ++ [' '])) := by decide
  have hjoin : ∀ a b c : List Char, a ++ [' '] ++ r ++ ' ' :: (b ++ ' ' :: (c ++ [' '])) ++ t =
      joinWith [' '] [a, r, b, c] ++ ' ' :: t := fun a b c => by simp [joinWith]
  exact (congrArg₂ (fun before between => before ++ r ++ between ++ t) hfrom horder).trans (hjoin _ _ _)

theorem trim_orderedText (hr : IsName r) (ht : IsTitleWord t) (hclosed : Closed .ofWords t) :
    trim (orderedText r t) = joinWith [' '] (orderedWords r t) := by
  have htrimmed : Trimmed (joinWith [' '] (orderedWords r t)) := by
    refine (trimmed_joinWith (List.cons_ne_nil _ _) fun w hw => ?_).2
    have hword := isWord_of_mem_orderedWords hr ht hclosed w hw
    exact ⟨hword.1, hword.trimmed⟩
  have hjoin : ∀ a b c : List Char, joinWith [' '] ([a, r, b, c] ++ [t]) = joinWith [' '] [a, r, b, c] ++ ' ' :: t :=
    fun a b c => by simp [joinWith]
  rw [orderedText_eq]
  unfold orderedWords at htrimmed ⊢
  split at htrimmed
  · next hnil =>
    rw [if_pos hnil, hnil]
    rw [List.append_nil] at htrimmed ⊢
    exact htrimmed.trim_between blanks_nil blanks_space
  · next hne =>
    rw [if_neg hne, ← hjoin, trim_eq_self htrimmed]

/-- No clause begins in the pieces after the keywords of the order, and they are the title. -/
theorem exists_ofWords_orderedWords (r : List Char) (ht : IsTitleWord t) :
    ∃ title, NoClause title ∧ trim (Piece.join title) = t ∧
      Piece.ofWords (orderedWords r t) = .word "FROM".toList :: .blanks [' '] :: .word r :: .blanks [' '] ::
        (keywordPieces .orderBy ++ title) := by
  by_cases hnil : t = []
  · refine ⟨[], noClause_nil, hnil.symm, ?_⟩
    rw [orderedWords, if_pos hnil]
    rfl
  · refine ⟨[.blanks [' '], .word t], ?_, ?_, ?_⟩
    · exact noClause_cons_iff.mpr ⟨rfl, rfl, noClause_cons_iff.mpr ⟨ht.keyword, rfl, noClause_nil⟩⟩
    · show trim (' ' :: (t ++ [])) = t
      rw [List.append_nil, trim_cons_space, trim_eq_self ht.trimmed]
    · rw [orderedWords, if_neg hnil]
      rfl

/-- The clauses of the query. A resource that is a keyword begins one. -/
theorem exists_split_orderedWords (r : List Char) (ht : IsTitleWord t) :
    ∃ before body, split (Piece.ofWords (orderedWords r t)) = ([], ⟨.from, ' ' :: before⟩ :: body) ∧
      match clauseOf? r with
      | some _ => before = []
      | none => before = r ++ [' '] ∧ ∃ title, body = [⟨.orderBy, title⟩] ∧ trim title = t := by
  obtain ⟨title, hno, htitle, hpieces⟩ := exists_ofWords_orderedWords r ht
  have hfrom : clauseOf? "FROM".toList = some .from := by decide
  have horder : split (.blanks [' '] :: (keywordPieces .orderBy ++ title)) = ([' '], [⟨.orderBy, Piece.join title⟩]) := by
    rw [split_blanks, split_keywordPieces, hno.split_eq]
    rfl
  rw [hpieces, split_keyword hfrom, split_blanks]
  cases hr : clauseOf? r with
  | some clause =>
    rw [split_keyword hr]
    exact ⟨[], _, rfl, rfl⟩
  | none =>
    have hstart : startsWithOrderBy (.word r :: .blanks [' '] :: (keywordPieces .orderBy ++ title)) = false := by
      have hby : sameIgnoringCase "ORDER".toList "by".toList = false := by decide
      show (sameIgnoringCase r "order".toList && sameIgnoringCase "ORDER".toList "by".toList) = false
      rw [hby, Bool.and_false]
    rw [split_text (p := .word r) hr hstart, horder]
    exact ⟨_, _, rfl, rfl, _, rfl, htitle⟩

/-! ### Reading the query -/

theorem parseOrderItem_title_eq_ok_iff (ht : IsTitleWord t) (hword : Piece.IsWord t) {o : OrderItem} :
    parseOrderItem A [] t = .ok o ↔ ∃ f text, Field.parse A t = .ok (f, text) ∧ o = ⟨.implicit f text, false⟩ := by
  have hlast : splitAtLastWord (fun _ => true) [.word t] = some ([], t, []) := rfl
  have hdirection : splitDirection t = .ok (some (t, false)) := by
    rw [splitDirection_of_cut (cut_word hword) hlast, ht.direction _ (by decide), ht.direction _ (by decide)]
    rfl
  rw [parseOrderItem_eq_ok_iff, hdirection]
  unfold orderTarget
  simp only [List.find?_nil, Except.bind_eq_ok_iff, Option.getD_none]
  constructor
  · rintro ⟨text, he, -, ⟨f, shown⟩, hf, hi⟩
    obtain ⟨item, descending⟩ := o
    cases he
    cases hi
    exact ⟨f, shown, hf, rfl⟩
  · rintro ⟨f, text, hf, rfl⟩
    exact ⟨t, rfl, hword.1, _, hf, rfl⟩

theorem parseOrder_title_eq_ok_iff (ht : IsTitleWord t) (hclosed : Closed .ofWords t) {items : List OrderItem} :
    parseOrder A [] t = .ok items ↔ ∃ f text, Field.parse A t = .ok (f, text) ∧ items = [⟨.implicit f text, false⟩] := by
  have htrim : trim t = t := trim_eq_self ht.trimmed
  by_cases hnil : t = []
  · subst hnil
    refine iff_of_false (fun h => (parseOrder_eq_ok_iff.mp h).1 rfl) ?_
    rintro ⟨f, text, hf, -⟩
    cases hf
  have hword := ht.isWord hnil hclosed
  have hsplit : splitTopLevel ',' t = some [t] := by
    refine (splitTopLevel_eq_some_iff isPlain_comma).mpr ⟨List.cons_ne_nil _ _, ?_, rfl⟩
    refine List.forall_mem_singleton.mpr (leads_of_plain fun c hc => ?_)
    have hchar := (ht.chars c hc).2
    simp only [List.mem_cons, List.not_mem_nil, or_false, not_or] at hchar
    simp [Brackets.isPlain, Brackets.ofLists, isQuote, hchar]
  rw [parseOrder_eq_ok_iff, and_iff_right hnil, hsplit]
  constructor
  · rintro ⟨pieces, he, hitems⟩
    cases he
    cases hitems with
    | cons ho hrest =>
      cases hrest
      rw [htrim] at ho
      obtain ⟨f, text, hf, rfl⟩ := (parseOrderItem_title_eq_ok_iff ht hword).mp ho
      exact ⟨f, text, hf, rfl⟩
  · rintro ⟨f, text, hf, rfl⟩
    refine ⟨[t], rfl, .cons ?_ .nil⟩
    rw [htrim]
    exact (parseOrderItem_title_eq_ok_iff ht hword).mpr ⟨f, text, hf, rfl⟩

/-- What a source and an order alone are read as. -/
theorem readFrom_ordered_iff {source order : List Char} {q : Query} :
    ReadFrom A [⟨.from, source⟩, ⟨.orderBy, order⟩] q ↔ q.selection = .all ∧ parseSource (trim source) = .ok q.source ∧
      q.filter = none ∧ parseOrder A [] (trim order) = .ok q.orderBy ∧ q.limit = none := by
  constructor
  · rintro ⟨⟨body, hbody, hsource⟩, hfilter, hlimit, hselection, horder⟩
    cases hbody
    have hall : q.selection = .all := (Except.ok.inj hselection).symm
    rw [hall] at horder
    exact ⟨hall, hsource, (Except.ok.inj hfilter).symm, horder, (Except.ok.inj hlimit).symm⟩
  · rintro ⟨hall, hsource, hfilter, horder, hlimit⟩
    refine ⟨⟨_, rfl, hsource⟩, ?_, ?_, ?_, ?_⟩
    · rw [hfilter]
      rfl
    · rw [hlimit]
      rfl
    · rw [hall]
      rfl
    · rw [hall]
      exact horder

theorem readFrom_title_iff (hr : IsName r) (ht : IsTitleWord t) (hclosed : Closed .ofWords t) {title : List Char}
    (htitle : trim title = t) {q : Query} :
    ReadFrom A [⟨.from, ' ' :: (r ++ [' '])⟩, ⟨.orderBy, title⟩] q ↔ ∃ f text, Field.parse A t = .ok (f, text) ∧
      q = ⟨.all, ⟨String.ofList r, .current⟩, none, [⟨.implicit f text, false⟩], none⟩ := by
  have htrim : trim (' ' :: (r ++ [' '])) = r := (isWord_of_isName hr).trimmed.trim_between blanks_space blanks_space
  rw [readFrom_ordered_iff, htrim, htitle, parseSource_of_isName hr, parseOrder_title_eq_ok_iff ht hclosed]
  constructor
  · rintro ⟨hselection, hsource, hfilter, ⟨f, text, hf, hitems⟩, hlimit⟩
    refine ⟨f, text, hf, ?_⟩
    obtain ⟨selection, source, filter, orderBy, limit⟩ := q
    cases hselection
    cases hsource
    cases hfilter
    cases hitems
    cases hlimit
    rfl
  · rintro ⟨f, text, hf, rfl⟩
    exact ⟨rfl, rfl, rfl, ⟨f, text, hf, rfl⟩, rfl⟩

theorem closed_of_closed_orderedText (hr : IsName r) (h : Closed .ofWords (trim (orderedText r t))) : Closed .ofWords t := by
  obtain ⟨as, bs, ha, hb, htext⟩ := exists_trim (orderedText r t)
  have hclosed : Closed .ofWords (orderedText r t) := by
    rw [htext]
    exact (Piece.closed_of_blanks ha).append (h.append (Piece.closed_of_blanks hb))
  refine hclosed.of_append_left (((closed_of_plain ?_).append (isWord_of_isName hr).closed).append (closed_of_plain ?_)) <;>
    decide

theorem cut_orderedText (hr : IsName r) (ht : IsTitleWord t) (hclosed : Closed .ofWords t) :
    Piece.cut (trim (orderedText r t)) = .ok (Piece.ofWords (orderedWords r t)) := by
  rw [trim_orderedText hr ht hclosed]
  exact cut_joinWith (isWord_of_mem_orderedWords hr ht hclosed)

theorem trim_orderedText_ne_nil (hr : IsName r) (ht : IsTitleWord t) (hclosed : Closed .ofWords t) :
    trim (orderedText r t) ≠ [] := by
  intro hnil
  obtain ⟨title, -, -, hpieces⟩ := exists_ofWords_orderedWords r ht
  have hcut := cut_orderedText hr ht hclosed
  rw [hnil, hpieces] at hcut
  cases hcut

/-- The query is read if its resource is no keyword and its title is read as a field, and it orders by that field. -/
theorem parse_orderedText_eq_ok_iff (hr : IsName r) (ht : IsTitleWord t) {q : Query} :
    parse A (orderedText r t) = .ok q ↔ clauseOf? r = none ∧ Closed .ofWords t ∧
      ∃ f text, Field.parse A t = .ok (f, text) ∧
        q = ⟨.all, ⟨String.ofList r, .current⟩, none, [⟨.implicit f text, false⟩], none⟩ := by
  obtain ⟨before, body, hsplit, hbefore⟩ := exists_split_orderedWords r ht
  constructor
  · intro h
    obtain ⟨-, clauses, hclauses, hread⟩ := parse_eq_ok_iff.mp h
    obtain ⟨ps, hps, hfound, -, -⟩ := ofText_eq_ok_iff.mp hclauses
    have hclosed := closed_of_closed_orderedText hr (Piece.exists_cut_iff.mp ⟨ps, hps⟩)
    rw [cut_orderedText hr ht hclosed] at hps
    cases hps
    rw [hsplit] at hfound
    cases hfound
    cases hkeyword : clauseOf? r with
    | some clause =>
      rw [hkeyword] at hbefore
      -- The keyword ends the text of FROM, and no source is read from a blank.
      obtain ⟨source, hsource, hparse⟩ := hread.source
      cases hbefore
      cases hsource
      cases hparse
    | none =>
      rw [hkeyword] at hbefore
      obtain ⟨rfl, title, rfl, htitle⟩ := hbefore
      exact ⟨rfl, hclosed, (readFrom_title_iff hr ht hclosed htitle).mp hread⟩
  · rintro ⟨hkeyword, hclosed, hread⟩
    rw [hkeyword] at hbefore
    obtain ⟨rfl, title, rfl, htitle⟩ := hbefore
    have hrank : Clause.from.rank < Clause.orderBy.rank := by decide
    have hclauses := ofText_eq_ok_iff.mpr
      ⟨_, cut_orderedText hr ht hclosed, hsplit, List.pairwise_pair.mpr hrank, List.cons_ne_nil _ _⟩
    exact parse_eq_ok_iff.mpr
      ⟨trim_orderedText_ne_nil hr ht hclosed, _, hclauses, (readFrom_title_iff hr ht hclosed htitle).mpr hread⟩

end Query

/-! ### Columns and their titles -/

theorem repeatedTitle?_eq_none_iff {columns : List SelectItem} {seen : List String} :
    repeatedTitle? columns seen = none ↔ Query.DistinctTitles columns ∧ ∀ c ∈ columns, c.title ∉ seen := by
  induction columns generalizing seen with
  | nil => exact ⟨fun _ => ⟨.nil, fun _ hc => nomatch hc⟩, fun _ => rfl⟩
  | cons c columns ih =>
    rw [repeatedTitle?]
    split
    · next hseen =>
      refine iff_of_false (fun h => nomatch h) fun h => h.2 c List.mem_cons_self (List.contains_iff_mem.mp hseen)
    · next hnew =>
      have hnew : c.title ∉ seen := fun hmem => hnew (List.contains_iff_mem.mpr hmem)
      rw [ih, Query.DistinctTitles, Query.DistinctTitles, List.pairwise_cons]
      simp only [List.mem_append, List.mem_singleton, not_or, List.forall_mem_cons]
      constructor
      · rintro ⟨hdistinct, hmore⟩
        exact ⟨⟨fun d hd he => (hmore d hd).2 he.symm, hdistinct⟩, hnew, fun d hd => (hmore d hd).1⟩
      · rintro ⟨⟨hc, hdistinct⟩, -, hmore⟩
        exact ⟨hdistinct, fun d hd => ⟨hmore d hd, fun he => hc d hd he.symm⟩⟩

/-- The columns of a resource are those of some kind, if there are any. -/
theorem ProjectionTable.exists_kind_of_mem_columnsFor {t : ProjectionTable} {r : String} {f : TableField}
    (h : f ∈ t.columnsFor r) : ∃ k ∈ t.kinds, t.columnsFor r = k.2 := by
  have hget : ∀ {name fields}, t.get? name = some fields → ∃ k ∈ t.kinds, fields = k.2 := fun hget =>
    ⟨_, Dictionary.mem_of_get? hget, rfl⟩
  unfold columnsFor at h ⊢
  cases h1 : t.get? r with
  | some fields => exact hget h1
  | none =>
    cases h2 : (kindOfResource? r).bind t.get? with
    | some fields =>
      obtain ⟨kind, -, hkind⟩ := Option.bind_eq_some_iff.mp h2
      exact hget hkind
    | none =>
      cases h3 : t.similar? r with
      | some fields =>
        obtain ⟨k, hk, rfl⟩ := Option.map_eq_some_iff.mp h3
        exact ⟨k, List.mem_of_find?_eq_some hk, rfl⟩
      | none =>
        cases h4 : t.get? fallbackName with
        | some fields => exact hget h4
        | none =>
          rw [h1, h2, h3, h4] at h
          cases h

/-- The titles of the built-in tables are different in each, and all but one are of letters, digits and underscores. -/
theorem ProjectionTable.builtin_titles : ∀ k ∈ ProjectionTable.builtin.kinds, (k.2.map TableField.title).Nodup ∧
    ∀ f ∈ k.2, f.title = "CREATION_TIME(RFC3339)" ∨ f.title.toList ≠ [] ∧ (∀ c ∈ f.title.toList, isTitleChar c = true) ∧
      ClauseText.clauseOf? f.title.toList = none ∧
      ∀ direction ∈ ["asc".toList, "desc".toList], sameIgnoringCase f.title.toList direction = false := by
  decide +kernel

namespace Engine

variable {e : Engine} {columns : List SelectItem}

theorem rebind_of_mem (hdistinct : Query.DistinctTitles columns) {c : SelectItem} (hc : c ∈ columns) (f : Field)
    (htrimmed : Trimmed c.title.toList) : rebind columns ⟨.implicit f c.title.toList, false⟩ = ⟨c, false⟩ := by
  rw [rebind_implicit, trim_eq_self htrimmed, String.ofList_toList, Query.find?_title_of_mem hdistinct hc]
  rfl

/-- A text is read as a query whose plan sorts by one field, the smallest values first. -/
def OrdersBy (e : Engine) (cs : List Char) (f : Field) : Prop :=
  ∃ q p, Query.parse e.aliases cs = .ok q ∧ e.plan q = .ok p ∧ p.orderBy.map OrderItem.rule = [(f, false)]

variable {r : String} {t : List Char}

theorem columns_of_all_eq_ok_iff {q : Query} {found : List SelectItem} (hall : q.selection = .all)
    (hcolumns : (e.projections.columnsFor q.source.resource).mapM e.tableColumn = .ok columns) :
    e.columns q = .ok found ↔ Query.DistinctTitles columns ∧ found = columns := by
  have hdistinct : repeatedTitle? columns [] = none ↔ Query.DistinctTitles columns := by
    rw [repeatedTitle?_eq_none_iff]
    exact and_iff_left fun _ _ => List.not_mem_nil
  unfold Engine.columns
  rw [hall, ← hdistinct]
  dsimp only
  rw [hcolumns]
  simp only [bind, Except.bind]
  cases repeatedTitle? columns [] with
  | some title =>
    refine iff_of_false (fun h => ?_) fun h => Option.some_ne_none _ h.1
    cases h
  | none =>
    rw [and_iff_right rfl]
    exact ⟨fun h => (Except.ok.inj h).symm, fun h => h ▸ rfl⟩

/-- The plan of a query for everything of a resource. -/
theorem plan_of_all_eq_ok_iff {q : Query} {p : Plan} (hall : q.selection = .all) (hfilter : q.filter = none)
    (hcolumns : (e.projections.columnsFor q.source.resource).mapM e.tableColumn = .ok columns) :
    e.plan q = .ok p ↔ Query.DistinctTitles columns ∧
      p = ⟨q.source, columns, none, q.orderBy.map (rebind columns), q.limit⟩ := by
  rw [plan_eq_ok_iff]
  constructor
  · rintro ⟨found, hfound, condition, hcondition, rfl⟩
    obtain ⟨hdistinct, rfl⟩ := (columns_of_all_eq_ok_iff hall hcolumns).mp hfound
    rw [hfilter] at hcondition
    cases hcondition
    exact ⟨hdistinct, rfl⟩
  · rintro ⟨hdistinct, rfl⟩
    refine ⟨columns, (columns_of_all_eq_ok_iff hall hcolumns).mpr ⟨hdistinct, rfl⟩, none, ?_, rfl⟩
    rw [hfilter]
    rfl

/-- Everything of a resource is sorted by what its title is read as, or by the column whose title is the normal form of
    that. -/
theorem ordersBy_iff (hr : IsName r.toList) (ht : IsTitleWord t) (f : Field)
    (hcolumns : (e.projections.columnsFor r).mapM e.tableColumn = .ok columns) :
    e.OrdersBy (Query.orderedText r.toList t) f ↔
      (ClauseText.clauseOf? r.toList = none ∧ Query.DistinctTitles columns) ∧ Closed .ofWords t ∧
        ∃ g text, Field.parse e.aliases t = .ok (g, text) ∧
          (rebind columns ⟨.implicit g text, false⟩).item.field = f := by
  constructor
  · rintro ⟨q, p, hq, hp, hrule⟩
    obtain ⟨hkeyword, hclosed, g, text, hg, rfl⟩ := (Query.parse_orderedText_eq_ok_iff hr ht).mp hq
    obtain ⟨hdistinct, rfl⟩ := (plan_of_all_eq_ok_iff rfl rfl (by rwa [String.ofList_toList])).mp hp
    exact ⟨⟨hkeyword, hdistinct⟩, hclosed, g, text, hg, congrArg Prod.fst (List.cons.inj hrule).1⟩
  · rintro ⟨⟨hkeyword, hdistinct⟩, hclosed, g, text, hg, hfield⟩
    refine ⟨_, _, (Query.parse_orderedText_eq_ok_iff hr ht).mpr ⟨hkeyword, hclosed, g, text, hg, rfl⟩,
      (plan_of_all_eq_ok_iff rfl rfl (by rwa [String.ofList_toList])).mpr ⟨hdistinct, rfl⟩, ?_⟩
    show [OrderItem.rule _] = _
    rw [OrderItem.rule, hfield, rebind_eq]

/-! ### Titles that keep their form -/

variable {c : SelectItem}

/-- A title that keeps its form as a field orders by its column if it is read at all. -/
theorem ordersBy_title_iff_of_kept (hr : IsName r.toList) (ht : IsTitleWord c.title.toList)
    (hcolumns : (e.projections.columnsFor r).mapM e.tableColumn = .ok columns) (hc : c ∈ columns)
    (hclosed : Closed .ofWords c.title.toList)
    (hkept : ∀ {f text}, Field.parse e.aliases c.title.toList = .ok (f, text) → text = c.title.toList) :
    e.OrdersBy (Query.orderedText r.toList c.title.toList) c.field ↔
      (ClauseText.clauseOf? r.toList = none ∧ Query.DistinctTitles columns) ∧
        ∃ f text, Field.parse e.aliases c.title.toList = .ok (f, text) := by
  rw [ordersBy_iff hr ht c.field hcolumns]
  refine and_congr_right fun husable => ?_
  rw [and_iff_right hclosed]
  refine exists_congr fun f => exists_congr fun text => and_iff_left_of_imp fun hf => ?_
  rw [hkept hf, rebind_of_mem husable.2 hc f ht.trimmed]

/-- Where everything of a resource is sorted by a column, a run lists the resource once and answers with all that was
    listed, in the order of that column. -/
theorem run_of_ordersBy (hr : IsName r.toList) (ht : IsTitleWord t)
    (hcolumns : (e.projections.columnsFor r).mapM e.tableColumn = .ok columns)
    (h : e.OrdersBy (Query.orderedText r.toList t) c.field) :
    ∃ q, Query.parse e.aliases (Query.orderedText r.toList t) = .ok q ∧
      ∀ {m : Type → Type} [Monad m] [LawfulMonad m] {ε : Type} (cpus : Nat) (list : Source → m (Except ε (List Document))),
        e.run cpus .never list q =
          Plan.outcome ⟨⟨r, .current⟩, columns, none, [⟨c, false⟩], none⟩ <$> list ⟨r, .current⟩ := by
  obtain ⟨q, p, hq, hp, hrule⟩ := h
  refine ⟨q, hq, fun {m} _ _ {ε} cpus list => ?_⟩
  obtain ⟨-, -, f, text, -, rfl⟩ := (Query.parse_orderedText_eq_ok_iff hr ht).mp hq
  obtain ⟨-, rfl⟩ := (plan_of_all_eq_ok_iff rfl rfl (by rwa [String.ofList_toList])).mp hp
  have houtcome : ∀ listed : Except ε (List Document),
      Plan.outcome ⟨⟨r, .current⟩, columns, none, [rebind columns ⟨.implicit f text, false⟩], none⟩ listed =
        Plan.outcome ⟨⟨r, .current⟩, columns, none, [⟨c, false⟩], none⟩ listed := Plan.outcome_eq_of_rules hrule
  rw [run_of_plan hp, ← funext houtcome]
  simp only [String.ofList_toList]
  rfl

theorem map_title_of_mapM {fields : List TableField} (h : fields.mapM e.tableColumn = .ok columns) :
    columns.map SelectItem.title = fields.map TableField.title := by
  replace h := Except.mapM_eq_ok_iff.mp h
  induction h with
  | nil => rfl
  | cons hcolumn _ ih =>
    obtain ⟨_, -, rfl⟩ := Except.map_eq_ok_iff.mp hcolumn
    rw [List.map_cons, List.map_cons, ih]

/-- Every title of the built-in tables can be ordered by, but for the one that is a call. -/
theorem ordersBy_builtin_title (he : e.aliases = .builtin) (hp : e.projections = .builtin) (hr : IsName r.toList)
    (hkeyword : ClauseText.clauseOf? r.toList = none)
    (hcolumns : (e.projections.columnsFor r).mapM e.tableColumn = .ok columns) (hc : c ∈ columns)
    (htitle : c.title ≠ "CREATION_TIME(RFC3339)") :
    e.OrdersBy (Query.orderedText r.toList c.title.toList) c.field := by
  have htitles := map_title_of_mapM hcolumns
  obtain ⟨f, hf, hft⟩ : ∃ f ∈ e.projections.columnsFor r, f.title = c.title := by
    have hmem : c.title ∈ columns.map SelectItem.title := List.mem_map_of_mem hc
    rw [htitles] at hmem
    exact List.mem_map.mp hmem
  obtain ⟨k, hk, hfields⟩ := ProjectionTable.exists_kind_of_mem_columnsFor hf
  rw [hp] at hk
  -- What is needed of the titles was checked one by one.
  obtain ⟨hnodup, hall⟩ := ProjectionTable.builtin_titles k hk
  rw [hfields] at hf htitles
  rw [← htitles] at hnodup
  have hdistinct : Query.DistinctTitles columns := List.pairwise_map.mp hnodup
  have hchars := hall f hf
  rw [hft] at hchars
  obtain ⟨hne, hchars, hword, hdirection⟩ := hchars.resolve_left htitle
  have ht : IsTitleWord c.title.toList := ⟨fun d hd => ⟨isBlank_of_isTitleChar (hchars d hd),
    not_mem_of_all (hchars d hd) (by decide)⟩, hword, hdirection⟩
  have hbare : Bare c.title.toList := fun d hd => ⟨ht.not_blank d hd, not_mem_of_all (hchars d hd) (by decide)⟩
  have hkept : ∀ {f text}, Field.parse e.aliases c.title.toList = .ok (f, text) → text = c.title.toList := fun hf => by
    rw [he] at hf
    exact Field.eq_of_parse_bare hbare hf
  refine (ordersBy_title_iff_of_kept hr ht hcolumns hc hbare.closed hkept).mpr ⟨⟨hkeyword, hdistinct⟩, ?_⟩
  rw [he]
  exact (Field.exists_parse_bare_iff hbare).mpr (isPathText_of_isTitleChar hne hchars)

/-- What the title of a column needs to be ordered by. A query for everything of a resource in the order of such a title
    sorts by the column just if the resource is no keyword, the titles of its columns are different, and the title, read
    as a field, gives the column back. For a title without parentheses the last is to be the text of a path; for a call
    of a reducer by its own name, its argument is to be one; and with a call of anything else as its title, the query is
    not even read. Where it sorts by the column, a run lists the resource once and answers with all that was listed, in
    the order of that column. -/
theorem ordersBy_title_iff {e : Engine} (he : e.aliases = .builtin) {r : String} (hr : IsName r.toList)
    {columns : List SelectItem} (hcolumns : (e.projections.columnsFor r).mapM e.tableColumn = .ok columns)
    {c : SelectItem} (hc : c ∈ columns) (ht : IsTitleWord c.title.toList) :
    let title := c.title.toList
    let query := Query.orderedText r.toList title
    let usable := ClauseText.clauseOf? r.toList = none ∧ Query.DistinctTitles columns
    (e.OrdersBy query c.field ↔ usable ∧ Closed .ofWords title ∧ ∃ f text, Field.parse .builtin title = .ok (f, text) ∧
      (rebind columns ⟨.implicit f text, false⟩).item.field = c.field) ∧
    ('(' ∉ title → ')' ∉ title → (e.OrdersBy query c.field ↔ usable ∧ IsPathText title)) ∧
    (∀ name argument, splitCall title = some (name, argument) →
      (Reducer.named? name = none → ∀ q, Query.parse e.aliases query ≠ .ok q) ∧
      ∀ reducer : Reducer, name = reducer.name.toList → '(' ∉ argument → ')' ∉ argument →
        (e.OrdersBy query c.field ↔ usable ∧ IsPathText argument)) ∧
    (e.OrdersBy query c.field → ∃ q, Query.parse e.aliases query = .ok q ∧
      ∀ {m : Type → Type} [Monad m] [LawfulMonad m] {ε : Type} (cpus : Nat) (list : Source → m (Except ε (List Document))),
        e.run cpus .never list q =
          Plan.outcome ⟨⟨r, .current⟩, columns, none, [⟨c, false⟩], none⟩ <$> list ⟨r, .current⟩) := by
  intro title query usable
  refine ⟨?_, fun hopen hclose => ?_, fun name argument hcall => ⟨fun hname q hq => ?_, ?_⟩, ?_⟩
  · rw [← he]
    exact ordersBy_iff hr ht c.field hcolumns
  · have hbare : Bare title := ht.bare (fun _ hd => hd) hopen hclose
    have hkept : ∀ {f text}, Field.parse e.aliases title = .ok (f, text) → text = title := fun hf => by
      rw [he] at hf
      exact Field.eq_of_parse_bare hbare hf
    rw [ordersBy_title_iff_of_kept hr ht hcolumns hc hbare.closed hkept, he]
    exact and_congr_right fun _ => Field.exists_parse_bare_iff hbare
  · obtain ⟨-, -, f, text, hf, -⟩ := (Query.parse_orderedText_eq_ok_iff hr ht).mp hq
    have htrim : trim c.title.toList = title := trim_eq_self ht.trimmed
    exact Field.parse_ne_ok_of_call (htrim ▸ hcall) hname _ hf
  · intro reducer hname hopen hclose
    obtain ⟨htitle, hchars⟩ := ht.eq_of_splitCall hcall
    have hmem : ∀ d ∈ argument, d ∈ c.title.toList := fun d hd => by
      rw [htitle]
      exact List.mem_append_right _ (List.mem_cons_of_mem _ (List.mem_append_left _ hd))
    have hbare : Bare argument := ht.bare hmem hopen hclose
    have hnamed : Reducer.named? name = some reducer := hname ▸ Field.named?_name reducer
    have hkept : ∀ {f text}, Field.parse e.aliases c.title.toList = .ok (f, text) → text = c.title.toList := fun hf => by
      rw [htitle] at hf ⊢
      have htext := ((Field.parse_call_eq_ok_iff hnamed hbare.trimmed hbare.balanced).mp hf).2.2.2
      rw [htext, hname, Field.callText, List.append_assoc]
      rfl
    have hclosed : Closed .ofWords c.title.toList := by
      rw [htitle]
      exact closed_call hchars hbare
    rw [ordersBy_title_iff_of_kept hr ht hcolumns hc hclosed hkept, he, htitle]
    exact and_congr_right fun _ => Field.exists_parse_call_iff hnamed hbare
  · exact run_of_ordersBy hr ht hcolumns

/-- Two objects of a kind that nothing describes, in the order of the phase that is shown of them. -/
theorem ordersBy_title_of_phase :
    let e : Engine := ⟨.builtin, .builtin, none⟩
    let column (step name title : String) : SelectItem := ⟨⟨⟨[.key step, .key name]⟩, none⟩, title, true⟩
    let phase := column "status" "phase" "PHASE"
    let p : Plan := ⟨⟨"widgets", .current⟩, [column "metadata" "namespace" "NAMESPACE", column "metadata" "name" "NAME", phase,
      column "metadata" "creationTimestamp" "CREATION_TIME(RFC3339)"], none, [⟨phase, false⟩], none⟩
    let object (phase : String) : Document := .object [("status", .object [("phase", .string phase)])]
    let list (_ : Source) : Id (Except String (List Document)) := .ok [object "Running", object "Pending"]
    e.OrdersBy "FROM widgets ORDER BY PHASE".toList phase.field ∧
    p.shown [object "Running", object "Pending"] = [object "Pending", object "Running"] ∧
    ∃ q, Query.parse .builtin "FROM widgets ORDER BY PHASE".toList = .ok q ∧ e.run 1 .never list q = p.outcome (list p.source) := by
  intro e column phase p object list
  have hwidgets : IsName "widgets".toList := ⟨by decide, by decide +kernel, by decide +kernel⟩
  have hcolumns : (e.projections.columnsFor "widgets").mapM e.tableColumn = .ok p.columns := by decide +kernel
  have hmem : phase ∈ p.columns := by decide
  have htitle : IsTitleWord "PHASE".toList := ⟨by decide, by decide, by decide⟩
  have htext : Query.orderedText "widgets".toList "PHASE".toList = "FROM widgets ORDER BY PHASE".toList := by decide
  have hdistinct : Query.DistinctTitles p.columns := by
    unfold Query.DistinctTitles
    decide
  have hlater : mayPrecede [⟨phase, false⟩] (object "Running") (object "Pending") = false := by decide +kernel
  obtain ⟨-, hbare, -, hrun⟩ := ordersBy_title_iff rfl hwidgets hcolumns hmem htitle
  have horder := (hbare (by decide) (by decide)).mpr ⟨⟨by decide, hdistinct⟩, .inl (by decide)⟩
  obtain ⟨q, hq, hanswer⟩ := hrun horder
  have hphase : phase.title.toList = "PHASE".toList := rfl
  rw [hphase, htext] at horder hq
  exact ⟨horder, by simp [Plan.shown, Plan.admitted, p, hlater], q, hq, hanswer 1 list⟩

/-- Where nothing describes a kind, the title of the last column is a call of no reducer. Its expression and those of the
    other columns are read, and their titles are different, but the query that orders by it is not read. -/
theorem not_parse_fallback_title :
    let e : Engine := ⟨.builtin, .builtin, none⟩
    let fields := e.projections.columnsFor "widgets"
    let title := "CREATION_TIME(RFC3339)"
    title ∈ fields.map TableField.title ∧ (fields.map TableField.title).Nodup ∧ IsTitleWord title.toList ∧
      (fields.mapM e.tableColumn).toBool = true ∧
      Query.parse .builtin "FROM widgets ORDER BY CREATION_TIME(RFC3339)".toList = .error (.unknownReducer "CREATION_TIME") := by
  intro e fields title
  exact ⟨by decide +kernel, by decide +kernel, ⟨by decide, by decide, by decide⟩, by decide +kernel, by decide +kernel⟩

end Engine

end ClusterQuery
