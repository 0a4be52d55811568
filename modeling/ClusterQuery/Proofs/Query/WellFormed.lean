import ClusterQuery.Proofs.Query.Canonical
import ClusterQuery.Proofs.Query.RoundTrip

/-! Well-formed queries and their printed texts. A query whose selected items have titles and fields in canonical
    form is read back from its printed text, unless one of its words is a keyword where the text shows it: every
    printed field and every title in the order stands as a word of its own, and so do the last title selected and
    the source. -/

namespace ClusterQuery

open ClauseText Piece

/-! ### Words with blanks between them -/

/-- The pieces of words with a blank between neighbours. -/
def Piece.ofWords : List (List Char) → List Piece
  | [] => []
  | [w] => [.word w]
  | w :: v :: ws => .word w :: .blanks [' '] :: ofWords (v :: ws)

namespace ClauseText

theorem cut_joinWith {ws : List (List Char)} (h : ∀ w ∈ ws, IsWord w) : cut (joinWith [' '] ws) = .ok (ofWords ws) := by
  refine cut_eq_ok_iff.mpr ?_
  have hblank : Valid (.blanks [' ']) := ⟨List.cons_ne_nil _ _, blanks_space⟩
  induction ws with
  | nil => exact ⟨wellCut_nil, rfl⟩
  | cons w ws ih =>
    obtain ⟨hw, hws⟩ := List.forall_mem_cons.mp h
    cases ws with
    | nil => exact cut_eq_ok_iff.mp (cut_word hw)
    | cons v ws =>
      obtain ⟨hcut, hjoin⟩ := ih hws
      have hhead : ∀ q ∈ (ofWords (v :: ws)).head?, (blanks [' ']).isWord ≠ q.isWord := by
        intro q hq
        cases ws <;> cases hq <;> exact Bool.false_ne_true
      refine ⟨wellCut_cons_iff.mpr ⟨hw, fun q hq => ?_, wellCut_cons_iff.mpr ⟨hblank, hhead, hcut⟩⟩, ?_⟩
      · cases hq
        exact Bool.false_ne_true.symm
      · rw [joinWith_cons_of_ne_nil (List.cons_ne_nil v ws), ← hjoin, List.append_assoc]
        rfl

theorem noClause_ofWords_iff {ws : List (List Char)} :
    NoClause (ofWords ws) ↔ (∀ w ∈ ws, clauseOf? w = none) ∧ NoOrderBy ws := by
  induction ws with
  | nil => exact iff_of_true noClause_nil ⟨(fun _ hw => nomatch hw), .nil⟩
  | cons w ws ih =>
    cases ws with
    | nil =>
      show NoClause [.word w] ↔ _
      rw [noClause_cons_iff, List.forall_mem_singleton]
      exact ⟨fun h => ⟨h.1, .singleton w⟩, fun h => ⟨h.1, rfl, noClause_nil⟩⟩
    | cons v ws =>
      have hpair : startsWithOrderBy (.word w :: .blanks [' '] :: ofWords (v :: ws)) = isOrderBy w v := by
        cases ws <;> rfl
      show NoClause (.word w :: .blanks [' '] :: ofWords (v :: ws)) ↔ _
      rw [noClause_cons_iff, noClause_cons_iff, hpair, ih, List.forall_mem_cons (a := w), NoOrderBy, NoOrderBy,
        List.isChain_cons_cons]
      constructor
      · rintro ⟨hw, hnot, -, -, hkeys, hchain⟩
        exact ⟨⟨hw, hkeys⟩, hnot, hchain⟩
      · rintro ⟨⟨hw, hkeys⟩, hnot, hchain⟩
        exact ⟨hw, hnot, rfl, rfl, hkeys, hchain⟩

/-- Words with blanks between them are free of keywords if none is one and no two are `ORDER BY`. -/
theorem keywordFree_joinWith_iff {ws : List (List Char)} (h : ∀ w ∈ ws, IsWord w) :
    KeywordFree (joinWith [' '] ws) ↔ (∀ w ∈ ws, clauseOf? w = none) ∧ NoOrderBy ws := by
  rw [← noClause_ofWords_iff]
  constructor
  · rintro ⟨ps, hps, hno⟩
    rw [cut_joinWith h] at hps
    cases hps
    exact hno
  · exact fun hno => ⟨_, cut_joinWith h, hno⟩

/-! ### Printed lists -/

/-- An item of a list: its words but the last, and the last. -/
structure ItemWords where
  front : List (List Char)
  last : List Char

/-- The text of an item. -/
def ItemWords.text (i : ItemWords) : List Char := joinWith [' '] (i.front ++ [i.last])

/-- The words of a printed list; a comma stands at the end of each item but the last. -/
def listWords : List ItemWords → List (List Char)
  | [] => []
  | [i] => i.front ++ [i.last]
  | i :: j :: items => i.front ++ (i.last ++ [',']) :: listWords (j :: items)

theorem listWords_ne_nil (i : ItemWords) (items : List ItemWords) : listWords (i :: items) ≠ [] := by
  cases items <;> simp [listWords]

theorem joinWith_append_cons {front rest : List (List Char)} {w : List Char} (hrest : rest ≠ []) :
    joinWith [' '] (front ++ (w ++ [',']) :: rest) = joinWith [' '] (front ++ [w]) ++ [',', ' '] ++ joinWith [' '] rest := by
  rw [List.append_cons, joinWith_append (List.append_ne_nil_of_right_ne_nil front (List.cons_ne_nil _ _)) hrest,
    joinWith_concat_append]
  simp only [List.append_assoc]
  rfl

theorem renderList_eq_joinWith (items : List ItemWords) :
    Query.renderList (items.map ItemWords.text) = joinWith [' '] (listWords items) := by
  induction items with
  | nil => rfl
  | cons i items ih =>
    cases items with
    | nil => rfl
    | cons j items =>
      rw [List.map_cons, Query.renderList, joinWith_cons_of_ne_nil (by simp), listWords,
        joinWith_append_cons (listWords_ne_nil j items), ← ih]
      rfl

theorem not_keyword_comma {w : List Char} {keyword : List Char} (hletters : ((lowerText keyword).all isAsciiLetter) = true) :
    sameIgnoringCase (w ++ [',']) keyword = false :=
  Bool.eq_false_iff.mpr fun h => by
    cases isAsciiLetter_of_sameIgnoringCase h hletters ',' (by simp)

theorem clauseOf?_comma (w : List Char) : clauseOf? (w ++ [',']) = none :=
  Option.eq_none_iff_forall_not_mem.mpr fun clause h => by
    cases isAsciiLetter_of_clauseOf? h ',' (by simp)

theorem noOrderBy_listWords {items : List ItemWords}
    (h : ∀ i ∈ items, NoOrderBy (i.front ++ [i.last]) ∧ NoOrderBy (i.front ++ [i.last ++ [',']])) :
    NoOrderBy (listWords items) := by
  induction items with
  | nil => exact .nil
  | cons i items ih =>
    obtain ⟨⟨hi, hcomma⟩, hitems⟩ := List.forall_mem_cons.mp h
    cases items with
    | nil => exact hi
    | cons j items =>
      have hsplit : listWords (i :: j :: items) = (i.front ++ [i.last ++ [',']]) ++ listWords (j :: items) := by
        simp [listWords]
      rw [NoOrderBy, hsplit]
      refine List.IsChain.append hcomma (ih hitems) fun a ha b _ => ?_
      -- A word with a comma is not `ORDER`.
      obtain rfl : i.last ++ [','] = a := by simpa using ha
      rw [isOrderBy, not_keyword_comma (by decide), Bool.false_and]

theorem isWord_of_mem_listWords {items : List ItemWords} (hwords : ∀ i ∈ items, ∀ w ∈ i.front ++ [i.last], IsWord w) :
    ∀ w ∈ listWords items, IsWord w := by
  have hcomma : IsWord [','] := isWord_of_plain (List.cons_ne_nil _ _) (by decide)
  induction items with
  | nil => exact fun w hw => nomatch hw
  | cons i items ih =>
    obtain ⟨hi, hitems⟩ := List.forall_mem_cons.mp hwords
    cases items with
    | nil => exact hi
    | cons j items =>
      intro w hw
      rcases List.mem_append.mp hw with hw | hw
      · exact hi w (List.mem_append_left _ hw)
      · rcases List.mem_cons.mp hw with rfl | hw
        · exact (hi i.last (by simp)).append hcomma
        · exact ih hitems w hw

/-- The last word of an item is hidden by the comma behind it, except in the last item. -/
theorem forall_mem_listWords_iff {items : List ItemWords} : (∀ w ∈ listWords items, clauseOf? w = none) ↔
    (∀ i ∈ items, ∀ w ∈ i.front, clauseOf? w = none) ∧ ∀ i ∈ items.getLast?, clauseOf? i.last = none := by
  induction items with
  | nil => exact iff_of_true (fun _ hw => nomatch hw) ⟨(fun _ hi => nomatch hi), fun _ hi => nomatch hi⟩
  | cons i items ih =>
    cases items with
    | nil =>
      rw [listWords, List.forall_mem_append, List.forall_mem_singleton, List.forall_mem_singleton]
      exact and_congr_right fun _ => ⟨fun h i hi => by cases hi; exact h, fun h => h i rfl⟩
    | cons j items =>
      rw [listWords, List.forall_mem_append, List.forall_mem_cons, ih, List.forall_mem_cons (a := i),
        List.getLast?_cons_cons, and_iff_right (clauseOf?_comma i.last), and_assoc]

/-- A printed list is free of keywords if none of the words inside its items is one, and not its last word either: the
    other items end with a comma. -/
theorem keywordFree_renderList_iff {items : List ItemWords} (hwords : ∀ i ∈ items, ∀ w ∈ i.front ++ [i.last], IsWord w)
    (horder : ∀ i ∈ items, NoOrderBy (i.front ++ [i.last]) ∧ NoOrderBy (i.front ++ [i.last ++ [',']])) :
    KeywordFree (Query.renderList (items.map ItemWords.text)) ↔
      (∀ i ∈ items, ∀ w ∈ i.front, clauseOf? w = none) ∧ ∀ i ∈ items.getLast?, clauseOf? i.last = none := by
  rw [renderList_eq_joinWith, keywordFree_joinWith_iff (isWord_of_mem_listWords hwords), forall_mem_listWords_iff,
    and_iff_left (noOrderBy_listWords horder)]

end ClauseText

/-! ### Well-formed items -/

variable {A : AliasTable}

namespace SelectItem

/-- An item with a title and a field in canonical form. -/
structure WellFormed (A : AliasTable) (i : SelectItem) : Prop where
  explicit : i.explicit = true
  title : Query.isTitleText i.title.toList = true
  field : i.field.Canonical A

instance (A : AliasTable) (i : SelectItem) : Decidable (i.WellFormed A) :=
  decidable_of_iff (i.explicit = true ∧ Query.isTitleText i.title.toList = true ∧ i.field.Canonical A)
    ⟨fun h => ⟨h.1, h.2.1, h.2.2⟩, fun h => ⟨h.explicit, h.title, h.field⟩⟩

def words (i : SelectItem) : ItemWords := ⟨[i.field.render, "AS".toList], i.title.toList⟩

variable {i : SelectItem}

theorem WellFormed.itemText_title (h : i.WellFormed A) : ItemText i.title.toList := by
  obtain ⟨hne, hchars⟩ := isTitleText_iff.mp h.title
  exact itemText_of_isTitleChar hne hchars

theorem WellFormed.text_words (h : i.WellFormed A) : i.words.text = i.render := by
  rw [render_of_explicit h.explicit]
  simp [words, ItemWords.text, joinWith]

theorem WellFormed.isWord (h : i.WellFormed A) : ∀ w ∈ i.words.front ++ [i.words.last], IsWord w := by
  obtain ⟨hne, hchars⟩ := isTitleText_iff.mp h.title
  have hAs : IsWord "AS".toList := isWord_of_letters (by decide) (by decide)
  exact List.forall_mem_cons.mpr ⟨h.field.isWord_render, List.forall_mem_cons.mpr
    ⟨hAs, List.forall_mem_singleton.mpr (Query.isWord_of_isTitleChar hne hchars)⟩⟩

/-- Neither the word before `AS` nor the one after it belongs to an `ORDER BY` with it. -/
theorem noOrderBy_words (i : SelectItem) (last : List Char) : NoOrderBy (i.words.front ++ [last]) := by
  have hby : sameIgnoringCase "AS".toList "by".toList = false := by decide
  have horder : sameIgnoringCase "AS".toList "order".toList = false := by decide
  refine List.isChain_cons_cons.mpr ⟨?_, List.isChain_cons_cons.mpr ⟨?_, .singleton last⟩⟩
  · rw [isOrderBy, hby, Bool.and_false]
  · rw [isOrderBy, horder, Bool.false_and]

theorem WellFormed.listed (h : i.WellFormed A) : i.Listed ∧ i.render ≠ ['*'] := by
  have hne := h.field.isWord_render.1
  have hrender := render_of_explicit h.explicit
  refine ⟨⟨h.itemText_title, fun c hc => ?_, fun _ => (isTitleText_iff.mp h.title).2⟩, fun hstar => ?_⟩
  · rw [hrender, List.append_assoc, List.head?_append_of_ne_nil _ hne] at hc
    exact h.field.isWord_render.trimmed.head c hc
  · rw [hrender] at hstar
    have := congrArg List.length hstar
    simp at this
    omega

theorem WellFormed.solid (h : i.WellFormed A) : Solid ',' i.render := by
  rw [render_of_explicit h.explicit]
  exact (h.field.solid_render.append (Nesting.leads_of_plain (by decide))).append h.itemText_title.solid

end SelectItem

def OrderItem.words (o : OrderItem) : ItemWords :=
  ⟨[o.item.title.toList], (if o.descending then "DESC" else "ASC").toList⟩

namespace OrderItem

variable {o : OrderItem}

theorem text_words (o : OrderItem) : o.words.text = o.render := by
  cases hd : o.descending <;> simp [words, ItemWords.text, joinWith, render, hd]

theorem isWord (h : o.item.WellFormed A) : ∀ w ∈ o.words.front ++ [o.words.last], IsWord w := by
  obtain ⟨hne, hchars⟩ := isTitleText_iff.mp h.title
  refine List.forall_mem_cons.mpr ⟨Query.isWord_of_isTitleChar hne hchars, List.forall_mem_singleton.mpr ?_⟩
  refine isWord_of_letters ?_ ?_ <;> cases hd : o.descending <;> simp [words, hd] <;> decide

/-- The direction of an item is not `BY`, with or without a comma. -/
theorem noOrderBy_words (o : OrderItem) :
    NoOrderBy (o.words.front ++ [o.words.last]) ∧ NoOrderBy (o.words.front ++ [o.words.last ++ [',']]) := by
  have hby : sameIgnoringCase o.words.last "by".toList = false := by
    cases hd : o.descending <;> simp only [words, hd] <;> decide
  refine ⟨List.isChain_cons_cons.mpr ⟨?_, .singleton _⟩, List.isChain_cons_cons.mpr ⟨?_, .singleton _⟩⟩
  · rw [isOrderBy, hby, Bool.and_false]
  · rw [isOrderBy, not_keyword_comma (by decide), Bool.and_false]

end OrderItem

namespace Query

variable {q : Query}

/-- A printed item with a canonical field is read back unless its title is `AS`. -/
theorem parseSelectItem_render_iff {i : SelectItem} (h : i.WellFormed A) :
    parseSelectItem A i.render = .ok i ↔ sameIgnoringCase i.title.toList "as".toList = false := by
  have hcut : cut i.render =
      .ok [.word i.field.render, .blanks [' '], .word "AS".toList, .blanks [' '], .word i.title.toList] := by
    rw [← h.text_words]
    exact cut_joinWith h.isWord
  obtain ⟨hne, hchars⟩ := isTitleText_iff.mp h.title
  cases has : sameIgnoringCase i.title.toList "as".toList with
  | true =>
    -- The title counts as the last `AS`, and no title follows it.
    have hsplit : splitAtLastWord (sameIgnoringCase · "as".toList)
        [.word i.field.render, .blanks [' '], .word "AS".toList, .blanks [' '], .word i.title.toList] =
          some ([.word i.field.render, .blanks [' '], .word "AS".toList, .blanks [' ']], i.title.toList, []) :=
      splitAtLastWord_eq_some_iff.mpr ⟨rfl, has, fun _ hv => nomatch hv⟩
    refine iff_of_false (fun hread => ?_) Bool.false_ne_true.symm
    obtain ⟨-, htitle, -⟩ := (parseSelectItem_eq_ok_iff_of_split hcut hsplit).mp hread
    cases htitle
  | false =>
    have hsplit : splitAtLastWord (sameIgnoringCase · "as".toList)
        [.word i.field.render, .blanks [' '], .word "AS".toList, .blanks [' '], .word i.title.toList] =
          some ([.word i.field.render, .blanks [' ']], "AS".toList, [.blanks [' '], .word i.title.toList]) := by
      refine splitAtLastWord_eq_some_iff.mpr ⟨rfl, by decide, fun v hv => ?_⟩
      obtain rfl : v = i.title.toList := by simpa using hv
      exact has
    have hbefore : trim (join [.word i.field.render, .blanks [' ']]) = i.field.render :=
      h.field.isWord_render.trimmed.trim_between blanks_nil blanks_space
    have hafter : trim (join [.blanks [' '], .word i.title.toList]) = i.title.toList := by
      show trim (' ' :: (i.title.toList ++ [])) = _
      rw [List.append_nil, trim_cons_space, trim_eq_self h.itemText_title.trimmed]
    refine iff_of_true ((parseSelectItem_eq_ok_iff_of_split hcut hsplit).mpr ⟨rfl, ?_⟩) rfl
    rw [hafter, hbefore, String.ofList_toList]
    refine ⟨h.title, i.field, _, h.field.parse_render, ?_⟩
    obtain ⟨field, title, explicit⟩ := i
    cases h.explicit
    rfl

/-! ### Well-formed queries -/

/-- A query that the canonical text can express: everything selected, or items with titles, and an order by some of
    them. -/
structure WellFormed (A : AliasTable) (q : Query) : Prop where
  items_ne_nil : ∀ items, q.selection = .only items → items ≠ []
  items : ∀ i ∈ q.selection.named, i.WellFormed A
  distinct : DistinctTitles q.selection.named
  orderBy : ∀ o ∈ q.orderBy, o.item ∈ q.selection.named
  source : q.source.Valid
  filter : ∀ condition, q.filter = some condition → ClauseText.Printable condition.toList ∧ KeywordFree condition.toList
  limit : ∀ n, q.limit = some n → n < wordLimit

/-- No word of a query is a keyword where the printed text shows it. -/
structure Unreserved (q : Query) : Prop where
  title : ∀ i ∈ q.selection.named, sameIgnoringCase i.title.toList "as".toList = false
  field : ∀ i ∈ q.selection.named, clauseOf? i.field.render = none
  lastTitle : ∀ i ∈ q.selection.named.getLast?, clauseOf? i.title.toList = none
  source : clauseOf? q.source.render = none
  orderBy : ∀ o ∈ q.orderBy, clauseOf? o.item.title.toList = none

theorem WellFormed.parts (h : q.WellFormed A) : Parts q where
  source := h.source
  filter condition hc := (h.filter condition hc).1
  limit := h.limit
  items_ne_nil := h.items_ne_nil
  distinct := h.distinct
  listed i hi := (h.items i hi).listed
  ordered o ho := (h.items o.item (h.orderBy o ho)).itemText_title

theorem WellFormed.keywordFree_selection_iff (h : q.WellFormed A) :
    KeywordFree (renderSelection q.selection) ↔ (∀ i ∈ q.selection.named, clauseOf? i.field.render = none) ∧
      ∀ i ∈ q.selection.named.getLast?, clauseOf? i.title.toList = none := by
  have hitems := h.items
  generalize q.selection = selection at hitems ⊢
  cases selection with
  | all =>
    have hstar : IsWord ['*'] := isWord_of_plain (List.cons_ne_nil _ _) (by decide)
    exact iff_of_true ((keywordFree_word_iff hstar).mpr (by decide)) ⟨(fun _ hi => nomatch hi), fun _ hi => nomatch hi⟩
  | only items =>
    have hitems : ∀ i ∈ items, i.WellFormed A := hitems
    have htext : items.map SelectItem.render = (items.map SelectItem.words).map ItemWords.text := by
      rw [List.map_map]
      exact List.map_congr_left fun i hi => (hitems i hi).text_words.symm
    show KeywordFree (renderList (items.map SelectItem.render)) ↔
      (∀ i ∈ items, clauseOf? i.field.render = none) ∧ ∀ i ∈ items.getLast?, clauseOf? i.title.toList = none
    rw [htext, keywordFree_renderList_iff (List.forall_mem_map.mpr fun i hi => (hitems i hi).isWord)
      (List.forall_mem_map.mpr fun i _ => ⟨i.noOrderBy_words _, i.noOrderBy_words _⟩), List.forall_mem_map,
      List.getLast?_map]
    have hAs : clauseOf? "AS".toList = none := by decide
    refine and_congr (forall₂_congr fun i _ => ?_) ?_
    · show (∀ w ∈ [i.field.render, "AS".toList], clauseOf? w = none) ↔ _
      rw [List.forall_mem_cons, List.forall_mem_singleton, and_iff_left hAs]
    · cases items.getLast? with
      | none => exact iff_of_true (fun _ hi => nomatch hi) fun _ hi => nomatch hi
      | some i => exact ⟨fun hw j hj => by cases hj; exact hw _ rfl, fun hi w hw => by cases hw; exact hi i rfl⟩

theorem WellFormed.keywordFree_orderText_iff (h : q.WellFormed A) :
    KeywordFree q.orderText ↔ ∀ o ∈ q.orderBy, clauseOf? o.item.title.toList = none := by
  have htext : q.orderBy.map OrderItem.render = (q.orderBy.map OrderItem.words).map ItemWords.text := by
    rw [List.map_map]
    exact List.map_congr_left fun o _ => o.text_words.symm
  have hdirection : ∀ i ∈ (q.orderBy.map OrderItem.words).getLast?, clauseOf? i.last = none := by
    intro i hi
    obtain ⟨o, -, rfl⟩ := List.mem_map.mp (List.mem_of_getLast? hi)
    cases hd : o.descending <;> simp only [OrderItem.words, hd] <;> decide
  rw [orderText, htext, keywordFree_renderList_iff
    (List.forall_mem_map.mpr fun o ho => OrderItem.isWord (h.items o.item (h.orderBy o ho)))
    (List.forall_mem_map.mpr fun o _ => o.noOrderBy_words), List.forall_mem_map, and_iff_left hdirection]
  refine forall₂_congr fun o _ => ?_
  show (∀ w ∈ [o.item.title.toList], clauseOf? w = none) ↔ _
  rw [List.forall_mem_singleton]

/-- A well-formed query is read back from its printed text if and only if none of its words is a keyword where the
    text shows it. -/
theorem parse_render_iff_of_wellFormed (h : q.WellFormed A) : parse A q.render = .ok q ↔ q.Unreserved := by
  have hselection : parseSelection A (renderSelection q.selection) = .ok q.selection ↔
      ∀ i ∈ q.selection.named, sameIgnoringCase i.title.toList "as".toList = false := by
    have hitems := h.items
    have hdistinct := h.distinct
    cases hsel : q.selection with
    | all => exact iff_of_true rfl fun _ hi => nomatch hi
    | only items =>
      rw [hsel] at hitems hdistinct
      rw [parseSelection_render_iff (h.items_ne_nil items hsel) hdistinct (fun i hi => (hitems i hi).listed)
        fun i hi => (hitems i hi).solid]
      exact forall₂_congr fun i hi => parseSelectItem_render_iff (hitems i hi)
  have horder : q.orderBy ≠ [] → parseOrder A q.selection.named q.orderText = .ok q.orderBy := fun hne =>
    (parseOrder_render_iff hne h.parts.ordered).mpr fun o ho =>
      (parseOrderItem_render (h.parts.ordered o ho)).mpr (orderTarget_of_mem h.distinct (h.orderBy o ho))
  have hlast : (q.orderBy ≠ [] → KeywordFree q.orderText) ↔ ∀ o ∈ q.orderBy, clauseOf? o.item.title.toList = none := by
    rw [h.keywordFree_orderText_iff]
    exact ⟨fun hfree o ho => hfree (List.ne_nil_of_mem ho) o ho, fun hfree _ => hfree⟩
  rw [parse_render_iff_of_parts h.parts, forall_mem_sections, h.keywordFree_selection_iff,
    keywordFree_word_iff (isWord_render_of_valid h.source), hlast, hselection]
  constructor
  · rintro ⟨⟨⟨hfield, htitle⟩, hsource, -, horders, -⟩, has, -⟩
    exact ⟨has, hfield, htitle, hsource, horders⟩
  · intro hu
    exact ⟨⟨⟨hu.field, hu.lastTitle⟩, hu.source, fun condition hc => (h.filter condition hc).2, hu.orderBy,
      fun n _ => keywordFree_decimalText n⟩, hu.title, horder⟩

/-- A key in brackets may hold keywords, commas and brackets. -/
theorem parse_render_of_quoted_key :
    let n : SelectItem := ⟨⟨⟨[.key "status", .mapKey "a, 'b]' FROM (c)", .wildcard]⟩, some .len⟩, "n", true⟩
    let p : SelectItem := ⟨⟨⟨[.key "metadata", .key "name"]⟩, none⟩, "p", true⟩
    let q : Query := ⟨.only [n, p], ⟨"pods", .namespace "kube-system"⟩, some "a = 'b'", [⟨p, true⟩, ⟨n, false⟩], some 5⟩
    q.WellFormed .builtin ∧ q.Unreserved ∧ parse .builtin q.render = .ok q := by
  intro n p q
  have hfree : KeywordFree "a = 'b'".toList :=
    ⟨[.word ['a'], .blanks [' '], .word ['='], .blanks [' '], .word "'b'".toList], by decide +kernel,
      noClause_iff.mpr (by decide +kernel)⟩
  have hwell : q.WellFormed .builtin := by
    refine ⟨?_, by decide +kernel, by simp [DistinctTitles, q, n, p, Selection.named], by decide +kernel, ?_, ?_, ?_⟩
    · rintro items ⟨⟩
      exact List.cons_ne_nil _ _
    · exact (parseSource_eq_ok_iff.mp (show parseSource q.source.render = .ok q.source by decide +kernel)).1
    · rintro condition ⟨⟩
      exact ⟨⟨by decide, ⟨by decide, by decide⟩, hfree.closed⟩, hfree⟩
    · rintro m ⟨⟩
      decide
  have hunreserved : q.Unreserved :=
    ⟨by decide +kernel, by decide +kernel, by decide +kernel, by decide +kernel, by decide +kernel⟩
  exact ⟨hwell, hunreserved, (parse_render_iff_of_wellFormed hwell).mpr hunreserved⟩

/-- A title that is a keyword can be typed before a comma, but not printed before a direction. -/
theorem parse_render_of_reserved_title :
    ∃ q, parse .builtin "SELECT metadata.name AS from,status.phase AS p FROM pods ORDER BY from,p".toList = .ok q ∧
      q.WellFormed .builtin ∧ parse .builtin q.render = .error (.invalidSyntax (.clauseOrder .from .orderBy)) := by
  let name : SelectItem := ⟨⟨⟨[.key "metadata", .key "name"]⟩, none⟩, "from", true⟩
  let phase : SelectItem := ⟨⟨⟨[.key "status", .key "phase"]⟩, none⟩, "p", true⟩
  let q : Query := ⟨.only [name, phase], ⟨"pods", .current⟩, none, [⟨name, false⟩, ⟨phase, false⟩], none⟩
  refine ⟨q, by decide +kernel, ?_, by decide +kernel⟩
  refine ⟨?_, by decide +kernel, by simp [DistinctTitles, q, name, phase, Selection.named], by decide +kernel, ?_, ?_, ?_⟩
  · rintro items ⟨⟩
    exact List.cons_ne_nil _ _
  · exact (parseSource_eq_ok_iff.mp (show parseSource q.source.render = .ok q.source by decide +kernel)).1
  · exact fun _ hc => nomatch hc
  · exact fun _ hn => nomatch hn

end Query

end ClusterQuery
