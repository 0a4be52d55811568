import ClusterQuery.Proofs.Query.Items
import ClusterQuery.Proofs.Query.Printing

/-! Printing a query that was read and reading it again. The source, the condition and the limit always come back;
    the selected fields and the order come back unless a keyword shows in their printed lists or an item, printed
    from its field or from its title, is not read as itself. -/

namespace ClusterQuery

namespace ClauseText

theorem printable_of_isWord {w : List Char} (h : Piece.IsWord w) : Printable w := ⟨h.1, h.trimmed, h.closed⟩

theorem cut_word {w : List Char} (h : Piece.IsWord w) : Piece.cut w = .ok [.word w] :=
  Piece.cut_eq_ok_iff.mpr ⟨Piece.wellCut_cons_iff.mpr ⟨h, (fun _ hq => nomatch hq), Piece.wellCut_nil⟩, List.append_nil w⟩

/-- A text of one word is free of keywords unless the word is one. -/
theorem keywordFree_word_iff {w : List Char} (h : Piece.IsWord w) : KeywordFree w ↔ clauseOf? w = none := by
  constructor
  · rintro ⟨ps, hps, hno⟩
    rw [cut_word h] at hps
    cases hps
    exact hno.keyword w List.mem_cons_self
  · intro hw
    exact ⟨_, cut_word h, noClause_cons_iff.mpr ⟨hw, rfl, noClause_nil⟩⟩

theorem isAsciiLetter_of_clauseOf? {w : List Char} {clause : Clause} (h : clauseOf? w = some clause) :
    ∀ c ∈ w, isAsciiLetter c = true := by
  unfold clauseOf? at h
  split at h
  · next hw => exact isAsciiLetter_of_sameIgnoringCase hw (by decide)
  · split at h
    · next hw => exact isAsciiLetter_of_sameIgnoringCase hw (by decide)
    · split at h
      · next hw => exact isAsciiLetter_of_sameIgnoringCase hw (by decide)
      · split at h
        · next hw => exact isAsciiLetter_of_sameIgnoringCase hw (by decide)
        · cases h

end ClauseText

namespace Query

open ClauseText Nesting

variable {A : AliasTable} {q : Query} {cs : List Char}

/-! ### Sources and limits -/

theorem isTitleChar_of_mem_decimalText {n : Nat} : ∀ c ∈ decimalText n, isTitleChar c = true := fun _ hc =>
  isTitleChar_of_isDigit (isDigit_of_mem_toDigits hc)

theorem isWord_of_isTitleChar {w : List Char} (hne : w ≠ []) (h : ∀ c ∈ w, isTitleChar c = true) : Piece.IsWord w :=
  Piece.isWord_of_plain hne fun c hc => ⟨(isPlain_of_isTitleChar (h c hc)).1, isBlank_of_isTitleChar (h c hc)⟩

theorem isWord_decimalText (n : Nat) : Piece.IsWord (decimalText n) :=
  isWord_of_isTitleChar Nat.toDigits_ne_nil isTitleChar_of_mem_decimalText

theorem keywordFree_decimalText (n : Nat) : KeywordFree (decimalText n) := by
  refine (keywordFree_word_iff (isWord_decimalText n)).mpr (Option.eq_none_iff_forall_not_mem.mpr fun clause h => ?_)
  obtain ⟨c, rest, hdigits⟩ := List.exists_cons_of_ne_nil (isWord_decimalText n).1
  have hc : c ∈ decimalText n := by
    rw [hdigits]
    exact List.mem_cons_self
  have hdigit := isAsciiLetter_of_isDigit (isDigit_of_mem_toDigits (n := n) hc)
  rw [isAsciiLetter_of_clauseOf? h c hc] at hdigit
  cases hdigit

theorem isWord_of_isName {cs : List Char} (h : IsName cs) : Piece.IsWord cs :=
  Piece.isWord_of_plain h.ne_nil fun c hc => isPlain_of_isNameChar (isNameChar_of_isName h c hc)

theorem isWord_render_of_valid {s : Source} (h : s.Valid) : Piece.IsWord s.render := by
  have hslash : Piece.IsWord ['/'] := Piece.isWord_of_plain (List.cons_ne_nil _ _) (by decide)
  have hstar : Piece.IsWord ['*'] := Piece.isWord_of_plain (List.cons_ne_nil _ _) (by decide)
  obtain ⟨resource, scope⟩ := s
  cases scope with
  | current => exact isWord_of_isName h.resource
  | everywhere => exact hstar.append (hslash.append (isWord_of_isName h.resource))
  | «namespace» name => exact (isWord_of_isName (h.scope name rfl)).append (hslash.append (isWord_of_isName h.resource))

/-! ### Printed lists -/

theorem trimmed_render {i : SelectItem} (h : i.Listed) : i.render ≠ [] ∧ Trimmed i.render := by
  cases he : i.explicit with
  | false =>
    rw [SelectItem.render_of_implicit he]
    exact ⟨h.title.ne_nil, h.title.trimmed⟩
  | true =>
    have hne : i.render ≠ [] := by
      rw [SelectItem.render_of_explicit he]
      simp
    refine ⟨hne, h.head, fun c hc => h.title.trimmed.last c ?_⟩
    rwa [SelectItem.render_of_explicit he, List.getLast?_append_of_ne_nil _ h.title.ne_nil] at hc

theorem itemText_render {o : OrderItem} (h : ItemText o.item.title.toList) : ItemText o.render := by
  have hplain : ∀ c ∈ (if o.descending then " DESC" else " ASC").toList,
      (Brackets.ofWords.isPlain c = true ∧ Brackets.ofLists.isPlain c = true) ∧ (c == ',') = false := by
    cases o.descending <;> decide
  have hlast : ∀ c ∈ (if o.descending then " DESC" else " ASC").toList.getLast?, isBlank c = false := by
    cases o.descending <;> decide
  have hne : (if o.descending then " DESC" else " ASC").toList ≠ [] := by cases o.descending <;> decide
  rw [OrderItem.render]
  refine ⟨by simp [h.ne_nil], trimmed_append h.ne_nil hne h.trimmed.head hlast, ?_, ?_⟩
  · exact h.closed.append (closed_of_plain fun c hc => (hplain c hc).1.1)
  · exact h.solid.append (leads_of_plain fun c hc => ⟨(hplain c hc).1.2, (hplain c hc).2⟩)

theorem trimmed_renderList {css : List (List Char)} (hne : css ≠ []) (h : ∀ cs ∈ css, cs ≠ [] ∧ Trimmed cs) :
    renderList css ≠ [] ∧ Trimmed (renderList css) := trimmed_joinWith hne h

theorem closed_renderList {css : List (List Char)} (h : ∀ cs ∈ css, Closed .ofWords cs) :
    Closed .ofWords (renderList css) := by
  induction css with
  | nil => exact closed_nil
  | cons cs rest ih =>
    obtain ⟨hcs, hrest⟩ := List.forall_mem_cons.mp h
    cases rest with
    | nil => exact hcs
    | cons second rest =>
      rw [renderList, joinWith_cons_of_ne_nil (List.cons_ne_nil _ _)]
      exact (hcs.append (closed_of_plain (by decide))).append (ih hrest)

/-! ### Queries that were read -/

/-- What is known of the parts of a query that can be printed; only the printed selection may leave a bracket or a
    quote open. -/
structure Parts (q : Query) : Prop where
  source : q.source.Valid
  filter : ∀ condition, q.filter = some condition → ClauseText.Printable condition.toList
  limit : ∀ n, q.limit = some n → n < wordLimit
  items_ne_nil : ∀ items, q.selection = .only items → items ≠ []
  distinct : DistinctTitles q.selection.named
  listed : ∀ i ∈ q.selection.named, i.Listed ∧ i.render ≠ ['*']
  ordered : ∀ o ∈ q.orderBy, ItemText o.item.title.toList

theorem body_of_read {clauses : List ClauseText} {text : List Char} (h : ofText text = .ok clauses) {clause : Clause}
    {body : List Char} (hbody : body? clauses clause = some body) : Trimmed body ∧ KeywordFree body := by
  obtain ⟨ps, hps, hsplit, -, -⟩ := ofText_eq_ok_iff.mp h
  obtain ⟨c, hc, -, rfl⟩ := body?_eq_some hbody
  refine ⟨trimmed_trim _, keywordFree_of_mem_split (Piece.cut_eq_ok_iff.mp hps).1 (c := c) ?_⟩
  rw [hsplit]
  exact hc

theorem condition_of_read {clauses : List ClauseText} {text : List Char} (h : ofText text = .ok clauses)
    {condition : String} (hfilter : (body? clauses .where).mapM parseFilter = .ok (some condition)) :
    ClauseText.Printable condition.toList ∧ KeywordFree condition.toList := by
  obtain ⟨body, hbody, hparse⟩ := mapM_eq_ok_some_iff.mp hfilter
  obtain ⟨htrimmed, hfree⟩ := body_of_read h hbody
  obtain ⟨hne, rfl⟩ := parseFilter_eq_ok_iff.mp hparse
  exact ⟨⟨hne, htrimmed, hfree.closed⟩, hfree⟩

theorem selection_of_read {body? : Option (List Char)} {sel : Selection} (h : readSelection A body? = .ok sel) :
    (∀ items, sel = .only items → items ≠ []) ∧ DistinctTitles sel.named ∧
      ∀ i ∈ sel.named, i.Listed ∧ i.render ≠ ['*'] := by
  cases body? with
  | none =>
    cases h
    exact ⟨(fun _ hi => by cases hi), .nil, (fun _ hi => by cases hi)⟩
  | some body =>
    obtain ⟨hdistinct, hlisted⟩ := listed_of_parseSelection h
    refine ⟨?_, hdistinct, hlisted⟩
    rintro items rfl rfl
    obtain ⟨-, -, pieces, hpieces, hforall, -⟩ := parseSelection_eq_only_iff.mp h
    cases hforall
    exact splitTopLevel_ne_nil isPlain_comma hpieces

/-- A query that was read has such parts, and its source and its condition show no keyword. -/
theorem parts_of_parse (h : parse A cs = .ok q) :
    Parts q ∧ KeywordFree q.source.render ∧ ∀ condition, q.filter = some condition → KeywordFree condition.toList := by
  obtain ⟨-, clauses, hclauses, hread⟩ := parse_eq_ok_iff.mp h
  obtain ⟨from_, hfrom, hsource⟩ := hread.source
  obtain ⟨hvalid, hrender⟩ := parseSource_eq_ok_iff.mp hsource
  obtain ⟨hitems, hdistinct, hlisted⟩ := selection_of_read hread.selection
  have hfilter : ∀ condition, q.filter = some condition →
      ClauseText.Printable condition.toList ∧ KeywordFree condition.toList := fun condition hc =>
    condition_of_read hclauses (hc ▸ hread.filter)
  have hlimit : ∀ n, q.limit = some n → n < wordLimit := fun n hn => by
    obtain ⟨body, -, hparse⟩ := mapM_eq_ok_some_iff.mp (hn ▸ hread.limit)
    exact lt_wordLimit_of_readWord? (parseLimit_eq_ok_iff.mp hparse)
  have hordered : ∀ o ∈ q.orderBy, ItemText o.item.title.toList := by
    have hord := hread.orderBy
    cases hbody : body? clauses .orderBy with
    | none =>
      rw [hbody] at hord
      intro o ho
      rw [← Except.ok.inj hord] at ho
      cases ho
    | some body =>
      rw [hbody] at hord
      exact itemText_of_parseOrder (fun i hi => (hlisted i hi).1) hord
  refine ⟨⟨hvalid, fun condition hc => (hfilter condition hc).1, hlimit, hitems, hdistinct, hlisted, hordered⟩, ?_,
    fun condition hc => (hfilter condition hc).2⟩
  rw [hrender]
  exact (body_of_read hclauses hfrom).2

/-! ### Printing and reading again -/

theorem renderSelection_trimmed (hp : Parts q) :
    renderSelection q.selection ≠ [] ∧ Trimmed (renderSelection q.selection) := by
  cases hsel : q.selection with
  | all => exact ⟨List.cons_ne_nil _ _, ⟨by rintro c ⟨⟩; rfl, by rintro c ⟨⟩; rfl⟩⟩
  | only items =>
    have hlisted := hp.listed
    rw [hsel] at hlisted
    refine trimmed_renderList (by simpa using hp.items_ne_nil items hsel) fun cs hcs => ?_
    obtain ⟨i, hi, rfl⟩ := List.mem_map.mp hcs
    exact trimmed_render (hlisted i hi).1

theorem orderText_printable (hp : Parts q) (hne : q.orderBy ≠ []) : ClauseText.Printable q.orderText := by
  have hitems : ∀ cs ∈ q.orderBy.map OrderItem.render, ItemText cs := by
    intro cs hcs
    obtain ⟨o, ho, rfl⟩ := List.mem_map.mp hcs
    exact itemText_render (hp.ordered o ho)
  have hmap : q.orderBy.map OrderItem.render ≠ [] := by simpa using hne
  obtain ⟨htext, htrimmed⟩ := trimmed_renderList hmap fun cs hcs => ⟨(hitems cs hcs).ne_nil, (hitems cs hcs).trimmed⟩
  exact ⟨htext, htrimmed, closed_renderList fun cs hcs => (hitems cs hcs).closed⟩

theorem printable_of_parts (hp : Parts q) (hclosed : Closed .ofWords (renderSelection q.selection)) : q.Printable := by
  obtain ⟨hne, htrimmed⟩ := renderSelection_trimmed hp
  exact forall_mem_sections.mpr ⟨⟨hne, htrimmed, hclosed⟩, printable_of_isWord (isWord_render_of_valid hp.source),
    hp.filter, orderText_printable hp, fun n _ => printable_of_isWord (isWord_decimalText n)⟩

theorem closed_keyword (clause : Clause) : Closed .ofWords (" " ++ clause.keyword ++ " ").toList := by
  refine closed_of_plain ?_
  cases clause <;> decide

theorem closed_flatMap_print {clauses : List ClauseText} (h : ∀ c ∈ clauses, Closed .ofWords c.body) :
    Closed .ofWords (clauses.flatMap print) := by
  induction clauses with
  | nil => exact closed_nil
  | cons c clauses ih =>
    obtain ⟨hc, h⟩ := List.forall_mem_cons.mp h
    rw [List.flatMap_cons, print_eq c.clause c.body]
    exact ((closed_keyword c.clause).append hc).append (ih h)

/-- A printed query that can be read closes the brackets and quotes of its selection: followed backwards from its end,
    the scan is outside where the selection ends. -/
theorem closed_renderSelection_of_parse {r : Query} (hp : Parts q) (h : parse A q.render = .ok r) :
    Closed .ofWords (renderSelection q.selection) := by
  obtain ⟨-, clauses, hclauses, -⟩ := parse_eq_ok_iff.mp h
  obtain ⟨ps, hps, -⟩ := ofText_eq_ok_iff.mp hclauses
  have htext : Closed .ofWords (trim q.render) := Piece.exists_cut_iff.mp ⟨ps, hps⟩
  obtain ⟨as, bs, ha, hb, hrender⟩ := exists_trim q.render
  have hblank : Closed .ofWords [' '] := Piece.closed_of_blanks blanks_space
  have hall : Closed .ofWords (' ' :: q.render) := by
    rw [hrender]
    exact hblank.append ((Piece.closed_of_blanks ha).append (htext.append (Piece.closed_of_blanks hb)))
  -- The clauses after the selection are closed, as they are in a query that selects everything.
  have hstar : Closed .ofWords ['*'] := closed_of_plain (by decide)
  have hothers : ∀ c ∈ sections { q with selection := .all }, Closed .ofWords c.body :=
    forall_mem_sections.mpr ⟨hstar, (isWord_render_of_valid hp.source).closed,
      fun condition hc => (hp.filter condition hc).closed, fun hne => (orderText_printable hp hne).closed,
      fun n _ => (isWord_decimalText n).closed⟩
  have htail : Closed .ofWords (q.sections.tail.flatMap print) :=
    closed_flatMap_print fun c hc => hothers c (List.mem_cons_of_mem _ hc)
  rw [← flatMap_print_sections] at hall
  have hselect : Closed .ofWords (print ⟨.select, renderSelection q.selection⟩) :=
    Closed.of_append_right rfl (show Closed .ofWords (_ ++ q.sections.tail.flatMap print) from hall) htail
  rw [print_eq] at hselect
  exact hselect.of_append_left (closed_keyword .select)

/-- The clauses of a query that come back whatever is selected and ordered by. -/
theorem parse_render_iff_of_parts (hp : Parts q) :
    parse A q.render = .ok q ↔ (∀ c ∈ q.sections, KeywordFree c.body) ∧
      parseSelection A (renderSelection q.selection) = .ok q.selection ∧
      (q.orderBy ≠ [] → parseOrder A q.selection.named q.orderText = .ok q.orderBy) := by
  constructor
  · intro h
    have hq := printable_of_parts hp (closed_renderSelection_of_parse hp h)
    rw [← readFrom_sections_iff hq hp.source hp.limit]
    exact (parse_render_eq_ok_iff hq).mp h
  · rintro ⟨hfree, hread⟩
    have hq := printable_of_parts hp (forall_mem_sections.mp hfree).1.closed
    exact (parse_render_eq_ok_iff hq).mpr ⟨hfree, (readFrom_sections_iff hq hp.source hp.limit).mpr hread⟩

/-! ### Item by item -/

theorem renderList_ne_star {css : List (List Char)} (h : ∀ cs ∈ css, cs ≠ [] ∧ cs ≠ ['*']) :
    renderList css ≠ ['*'] := by
  intro hstar
  match css, h with
  | [], _ => cases hstar
  | [cs], h => exact (h cs List.mem_cons_self).2 hstar
  | cs :: second :: rest, h =>
    rw [renderList, joinWith_cons_of_ne_nil (List.cons_ne_nil _ _)] at hstar
    have := congrArg List.length hstar
    simp at this
    omega

theorem parseSelection_render_iff {items : List SelectItem} (hne : items ≠ []) (hdistinct : DistinctTitles items)
    (hlisted : ∀ i ∈ items, i.Listed ∧ i.render ≠ ['*']) (hsolid : ∀ i ∈ items, Solid ',' i.render) :
    parseSelection A (renderSelection (.only items)) = .ok (.only items) ↔
      ∀ i ∈ items, parseSelectItem A i.render = .ok i := by
  have htexts : ∀ cs ∈ items.map SelectItem.render, (cs ≠ [] ∧ Trimmed cs) ∧ cs ≠ ['*'] ∧ Solid ',' cs := by
    intro cs hcs
    obtain ⟨i, hi, rfl⟩ := List.mem_map.mp hcs
    exact ⟨trimmed_render (hlisted i hi).1, (hlisted i hi).2, hsolid i hi⟩
  have hmap : items.map SelectItem.render ≠ [] := by simpa using hne
  have hsplit := splitTopLevel_renderList hmap fun cs hcs => (htexts cs hcs).2.2
  have hbody := (trimmed_renderList hmap fun cs hcs => (htexts cs hcs).1).1
  have hstar := renderList_ne_star fun cs hcs => ⟨(htexts cs hcs).1.1, (htexts cs hcs).2.1⟩
  have hitem : ∀ i ∈ items, ItemFrom A (trim i.render) i ↔ parseSelectItem A i.render = .ok i := by
    intro i hi
    obtain ⟨hi_ne, htrimmed⟩ := trimmed_render (hlisted i hi).1
    rw [trim_eq_self htrimmed]
    exact ⟨fun h => h.reads, fun h => ⟨hi_ne, (hlisted i hi).2, h⟩⟩
  show parseSelection A (renderList (items.map SelectItem.render)) = _ ↔ _
  rw [parseSelection_eq_only_iff]
  constructor
  · rintro ⟨-, -, pieces, hpieces, hforall, -⟩
    obtain rfl : spaced (items.map SelectItem.render) = pieces := Option.some.inj (hsplit.symm.trans hpieces)
    have hall := forall₂_spaced_iff.mp hforall
    rw [List.forall₂_map_left_iff, List.forall₂_same] at hall
    exact fun i hi => (hitem i hi).mp (hall i hi)
  · intro h
    refine ⟨hbody, hstar, _, hsplit, forall₂_spaced_iff.mpr ?_, hdistinct⟩
    rw [List.forall₂_map_left_iff, List.forall₂_same]
    exact fun i hi => (hitem i hi).mpr (h i hi)

theorem parseOrder_render_iff {selected : List SelectItem} {items : List OrderItem} (hne : items ≠ [])
    (htitles : ∀ o ∈ items, ItemText o.item.title.toList) :
    parseOrder A selected (renderList (items.map OrderItem.render)) = .ok items ↔
      ∀ o ∈ items, parseOrderItem A selected o.render = .ok o := by
  have htexts : ∀ cs ∈ items.map OrderItem.render, ItemText cs := by
    intro cs hcs
    obtain ⟨o, ho, rfl⟩ := List.mem_map.mp hcs
    exact itemText_render (htitles o ho)
  have hmap : items.map OrderItem.render ≠ [] := by simpa using hne
  have hsplit := splitTopLevel_renderList hmap fun cs hcs => (htexts cs hcs).solid
  have hbody := (trimmed_renderList hmap fun cs hcs => ⟨(htexts cs hcs).ne_nil, (htexts cs hcs).trimmed⟩).1
  have hitem : ∀ o ∈ items, parseOrderItem A selected (trim o.render) = .ok o ↔
      parseOrderItem A selected o.render = .ok o := by
    intro o ho
    rw [trim_eq_self (itemText_render (htitles o ho)).trimmed]
  rw [parseOrder_eq_ok_iff]
  constructor
  · rintro ⟨-, pieces, hpieces, hforall⟩
    obtain rfl : spaced (items.map OrderItem.render) = pieces := Option.some.inj (hsplit.symm.trans hpieces)
    have hall := forall₂_spaced_iff (R := fun cs o => parseOrderItem A selected cs = .ok o) |>.mp hforall
    rw [List.forall₂_map_left_iff, List.forall₂_same] at hall
    exact fun o ho => (hitem o ho).mp (hall o ho)
  · intro h
    refine ⟨hbody, _, hsplit, (forall₂_spaced_iff (R := fun cs o => parseOrderItem A selected cs = .ok o)).mpr ?_⟩
    rw [List.forall₂_map_left_iff, List.forall₂_same]
    exact fun o ho => (hitem o ho).mpr (h o ho)

/-- The word after a text and a blank is its direction if it is one. -/
theorem splitDirection_of_cut {cs : List Char} {ps before : List Piece} {last : List Char}
    (hcut : Piece.cut cs = .ok ps) (hlast : splitAtLastWord (fun _ => true) ps = some (before, last, [])) :
    splitDirection cs =
      if sameIgnoringCase last "desc".toList then .ok (some (trim (Piece.join before), true))
      else if sameIgnoringCase last "asc".toList then .ok (some (trim (Piece.join before), false))
      else .ok (some (cs, false)) := by
  unfold splitDirection
  rw [hcut]
  dsimp only [Except.mapError, bind, Except.bind]
  rw [hlast]
  rfl

theorem splitDirection_append {text word : List Char} (h : ItemText text) (hne : word ≠ [])
    (hword : ∀ c ∈ word, isTitleChar c = true) :
    splitDirection (text ++ ' ' :: word) =
      if sameIgnoringCase word "desc".toList then .ok (some (text, true))
      else if sameIgnoringCase word "asc".toList then .ok (some (text, false))
      else .ok (some (text ++ ' ' :: word, false)) := by
  obtain ⟨ps, hps⟩ := Piece.exists_cut_iff.mpr h.closed
  have htrim : trim (Piece.join (ps ++ [.blanks [' ']])) = text := by
    rw [Piece.join_append, (Piece.cut_eq_ok_iff.mp hps).2]
    exact h.trimmed.trim_between blanks_nil blanks_space
  have hlast : splitAtLastWord (fun _ => true) (ps ++ [.blanks [' '], .word word]) = some (ps ++ [.blanks [' ']], word, []) :=
    splitAtLastWord_eq_some_iff.mpr ⟨by simp, rfl, fun _ hv => nomatch hv⟩
  rw [splitDirection_of_cut (Piece.cut_append_word hps h.trimmed (isWord_of_isTitleChar hne hword)) hlast, htrim]

theorem splitDirection_render {o : OrderItem} (h : ItemText o.item.title.toList) :
    splitDirection o.render = .ok (some (o.item.title.toList, o.descending)) := by
  obtain ⟨item, descending⟩ := o
  cases descending with
  | true =>
    have hrender : OrderItem.render ⟨item, true⟩ = item.title.toList ++ ' ' :: "DESC".toList := by
      simp [OrderItem.render]
    rw [hrender, splitDirection_append h (by decide) (by decide), if_pos (by decide)]
  | false =>
    have hrender : OrderItem.render ⟨item, false⟩ = item.title.toList ++ ' ' :: "ASC".toList := by
      simp [OrderItem.render]
    rw [hrender, splitDirection_append h (by decide) (by decide), if_neg (by decide), if_pos (by decide)]

/-- A printed item of an order is read as its title is, with its direction. -/
theorem parseOrderItem_render {selected : List SelectItem} {o : OrderItem} (h : ItemText o.item.title.toList) :
    parseOrderItem A selected o.render = .ok o ↔ orderTarget A selected o.item.title.toList = .ok o.item := by
  rw [parseOrderItem_eq_ok_iff, splitDirection_render h]
  constructor
  · rintro ⟨text, he, -, hitem⟩
    cases he
    exact hitem
  · exact fun hitem => ⟨_, rfl, h.ne_nil, hitem⟩

theorem find?_title_of_mem {items : List SelectItem} (hdistinct : DistinctTitles items) {i : SelectItem} (hi : i ∈ items) :
    (items.find? fun j => j.title == i.title) = some i := by
  obtain ⟨before, after, rfl⟩ := List.append_of_mem hi
  refine List.find?_eq_some_iff_append.mpr ⟨beq_self_eq_true _, before, after, rfl, fun j hj => ?_⟩
  have hne := (List.pairwise_append.mp hdistinct).2.2 j hj i List.mem_cons_self
  simpa using hne

theorem orderTarget_of_mem {selected : List SelectItem} (hdistinct : DistinctTitles selected) {i : SelectItem}
    (hi : i ∈ selected) : orderTarget A selected i.title.toList = .ok i := by
  unfold orderTarget
  rw [String.ofList_toList, find?_title_of_mem hdistinct hi]

/-- Printing a query that was read and reading it again gives the query back if and only if no keyword shows in the
    printed lists and the lists are read back. If the printed fields before explicit titles are solid, the lists are
    read back if and only if each selected item is read back from its own text, and each item of the order that is not
    selected from its title. -/
theorem parse_render_iff_of_parse (h : parse A cs = .ok q) :
    (parse A q.render = .ok q ↔
      (KeywordFree (renderSelection q.selection) ∧ (q.orderBy ≠ [] → KeywordFree q.orderText)) ∧
        parseSelection A (renderSelection q.selection) = .ok q.selection ∧
        (q.orderBy ≠ [] → parseOrder A q.selection.named q.orderText = .ok q.orderBy)) ∧
    ((∀ i ∈ q.selection.named, i.explicit = true → Solid ',' i.field.render) →
      (parse A q.render = .ok q ↔
        (KeywordFree (renderSelection q.selection) ∧ (q.orderBy ≠ [] → KeywordFree q.orderText)) ∧
          (∀ i ∈ q.selection.named, parseSelectItem A i.render = .ok i) ∧
          ∀ o ∈ q.orderBy, o.item ∉ q.selection.named →
            orderTarget A q.selection.named o.item.title.toList = .ok o.item)) := by
  obtain ⟨hp, hsource, hfilter⟩ := parts_of_parse h
  have hlists : parse A q.render = .ok q ↔
      (KeywordFree (renderSelection q.selection) ∧ (q.orderBy ≠ [] → KeywordFree q.orderText)) ∧
        parseSelection A (renderSelection q.selection) = .ok q.selection ∧
        (q.orderBy ≠ [] → parseOrder A q.selection.named q.orderText = .ok q.orderBy) := by
    rw [parse_render_iff_of_parts hp, forall_mem_sections]
    refine and_congr_left fun _ => ⟨fun h => ⟨h.1, h.2.2.2.1⟩, fun h => ?_⟩
    exact ⟨h.1, hsource, hfilter, h.2, fun n _ => keywordFree_decimalText n⟩
  refine ⟨hlists, fun hfields => hlists.trans (and_congr_right fun _ => and_congr ?_ ?_)⟩
  · cases hsel : q.selection with
    | all => exact iff_of_true rfl fun _ hi => nomatch hi
    | only items =>
      have hlisted := hp.listed
      have hdistinct := hp.distinct
      rw [hsel] at hlisted hdistinct hfields
      refine parseSelection_render_iff (hp.items_ne_nil items hsel) hdistinct hlisted fun i hi => ?_
      cases he : i.explicit with
      | false =>
        rw [SelectItem.render_of_implicit he]
        exact (hlisted i hi).1.title.solid
      | true =>
        rw [SelectItem.render_of_explicit he]
        exact ((hfields i hi he).append (leads_of_plain (by decide))).append (hlisted i hi).1.title.solid
  · cases horder : q.orderBy with
    | nil => exact iff_of_true (fun hne => (hne rfl).elim) fun _ ho => nomatch ho
    | cons o items =>
      have hne : q.orderBy ≠ [] := by rw [horder]; exact List.cons_ne_nil _ _
      rw [← horder]
      have hread : parseOrder A q.selection.named q.orderText = .ok q.orderBy ↔
          ∀ o ∈ q.orderBy, parseOrderItem A q.selection.named o.render = .ok o :=
        parseOrder_render_iff hne hp.ordered
      constructor
      · intro h o ho _
        exact (parseOrderItem_render (hp.ordered o ho)).mp (hread.mp (h hne) o ho)
      · intro h _
        refine hread.mpr fun o ho => (parseOrderItem_render (hp.ordered o ho)).mpr ?_
        by_cases hmem : o.item ∈ q.selection.named
        · exact orderTarget_of_mem hp.distinct hmem
        · exact h o ho hmem

/-- A selected name comes back. -/
theorem parse_render_of_name :
    let q : Query := ⟨.only [⟨⟨⟨[.key "metadata", .key "name"]⟩, none⟩, "name", false⟩], ⟨"pods", .current⟩, none, [], none⟩
    parse .builtin "SELECT name FROM pods".toList = .ok q ∧ parse .builtin q.render = .ok q := by
  intro q
  have hread : parse .builtin "SELECT name FROM pods".toList = .ok q := by decide +kernel
  have hselect : KeywordFree (renderSelection q.selection) :=
    ⟨[.word "name".toList], by decide +kernel, noClause_iff.mpr (by decide +kernel)⟩
  refine ⟨hread, ((parse_render_iff_of_parse hread).2 ?_).mpr ⟨⟨hselect, fun hne => (hne rfl).elim⟩, ?_, ?_⟩⟩
  · intro i hi he
    cases List.mem_singleton.mp hi
    cases he
  · intro i hi
    cases List.mem_singleton.mp hi
    decide +kernel
  · exact fun _ ho => nomatch ho

/-- A keyword that a comma shields where it is typed shows where it is printed. -/
theorem parse_render_of_shielded_keyword :
    ∃ q, parse .builtin "SELECT name,from FROM pods".toList = .ok q ∧
      parse .builtin q.render = .error (.invalidSyntax (.clauseOrder .from .from)) := by
  refine ⟨⟨.only [⟨⟨⟨[.key "metadata", .key "name"]⟩, none⟩, "name", false⟩, ⟨⟨⟨[.key "from"]⟩, none⟩, "from", false⟩],
    ⟨"pods", .current⟩, none, [], none⟩, ?_, ?_⟩ <;> decide +kernel

end Query

end ClusterQuery
