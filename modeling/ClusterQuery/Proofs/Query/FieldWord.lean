import ClusterQuery.Proofs.Query.WellFormed
import ClusterQuery.Query.Bindings

/-! Words that can be typed as items of a selection and of an order: they have a character that no keyword has. A query with
    such words for all its items is read back if each of its items is, and a word that stands for a path stands for the
    same field wherever it is typed. -/

namespace ClusterQuery

open Nesting ClauseText

/-- One word without a comma outside brackets, other than a star, with a character that no keyword has. -/
structure FieldWord (cs : List Char) : Prop where
  isWord : Piece.IsWord cs
  solid : Solid ',' cs
  mixed : ∃ c ∈ cs, isTitleChar c = false
  ne_star : cs ≠ ['*']

variable {A : AliasTable} {p : Path} {reducer : Option Reducer} {cs : List Char}

namespace FieldWord

variable (h : FieldWord cs)
include h

theorem itemText : ItemText cs := ⟨h.isWord.1, h.isWord.trimmed, h.isWord.closed, h.solid⟩

theorem not_isTitleText : Query.isTitleText cs = false := Bool.eq_false_iff.mpr fun htitle => by
  obtain ⟨c, hc, hmixed⟩ := h.mixed
  rw [(isTitleText_iff.mp htitle).2 c hc] at hmixed
  cases hmixed

/-- The word is no keyword of letters. -/
theorem sameIgnoringCase_eq_false {keyword : List Char} (hletters : (lowerText keyword).all isAsciiLetter = true) :
    sameIgnoringCase cs keyword = false := Bool.eq_false_iff.mpr fun hsame => by
  obtain ⟨c, hc, hmixed⟩ := h.mixed
  rw [isTitleChar_of_isAsciiLetter (isAsciiLetter_of_sameIgnoringCase hsame hletters c hc)] at hmixed
  cases hmixed

theorem clauseOf?_eq_none : clauseOf? cs = none := Option.eq_none_iff_forall_not_mem.mpr fun clause hclause => by
  obtain ⟨c, hc, hmixed⟩ := h.mixed
  rw [isTitleChar_of_isAsciiLetter (isAsciiLetter_of_clauseOf? hclause c hc)] at hmixed
  cases hmixed

theorem keywordFree : KeywordFree cs := (keywordFree_word_iff h.isWord).mpr h.clauseOf?_eq_none

/-! ### Items -/

theorem parseSelectItem_eq (A : AliasTable) :
    Query.parseSelectItem A cs = (Field.parse A cs).map fun f => .implicit f.1 f.2 := by
  have hsplit : Query.splitAtLastWord (sameIgnoringCase · "as".toList) [.word cs] = none :=
    Query.splitAtLastWord_eq_none_iff.mpr fun w hw => by
      cases List.mem_singleton.mp hw
      exact h.sameIgnoringCase_eq_false (by decide)
  unfold Query.parseSelectItem
  rw [cut_word h.isWord]
  dsimp only [Except.mapError, bind, Except.bind]
  rw [hsplit]
  cases Field.parse A cs <;> rfl

/-- With a direction after it or without, the word is what is ordered by. -/
theorem splitDirection_eq : ∀ d ∈ [([], false), (" ASC".toList, false), (" DESC".toList, true)],
    Query.splitDirection (cs ++ d.1) = .ok (some (cs, d.2)) := by
  simp only [List.forall_mem_cons]
  refine ⟨?_, ?_, ?_, fun _ hd => nomatch hd⟩
  · rw [List.append_nil]
    have hlast : Query.splitAtLastWord (fun _ => true) [.word cs] = some ([], cs, []) := rfl
    rw [Query.splitDirection_of_cut (cut_word h.isWord) hlast, h.sameIgnoringCase_eq_false (by decide),
      h.sameIgnoringCase_eq_false (by decide)]
    rfl
  · exact (@Query.splitDirection_append _ "ASC".toList h.itemText (by decide) (by decide)).trans (by rfl)
  · exact (@Query.splitDirection_append _ "DESC".toList h.itemText (by decide) (by decide)).trans (by rfl)

theorem parseOrderItem_eq (A : AliasTable) (selected : List SelectItem) :
    ∀ d ∈ [([], false), (" ASC".toList, false), (" DESC".toList, true)],
      Query.parseOrderItem A selected (cs ++ d.1) = (Query.orderTarget A selected cs).map (⟨·, d.2⟩) := by
  intro d hd
  have hempty : cs.isEmpty = false := List.isEmpty_eq_false_iff.mpr h.isWord.1
  unfold Query.parseOrderItem
  rw [h.splitDirection_eq d hd]
  dsimp only [bind, Except.bind]
  rw [hempty]
  cases Query.orderTarget A selected cs <;> rfl

/-! ### Printed items -/

theorem listed {i : SelectItem} (htitle : i.title.toList = cs) (himplicit : i.explicit = false) :
    i.Listed ∧ i.render ≠ ['*'] ∧ i.render = cs := by
  have hrender : i.render = cs := by rw [SelectItem.render_of_implicit himplicit, htitle]
  refine ⟨⟨htitle ▸ h.itemText, ?_, fun hexplicit => ?_⟩, ?_, hrender⟩
  · rw [hrender]
    exact h.isWord.trimmed.head
  · rw [himplicit] at hexplicit
    cases hexplicit
  · rw [hrender]
    exact h.ne_star

theorem isWord_words {o : OrderItem} (htitle : o.item.title.toList = cs) :
    ∀ w ∈ o.words.front ++ [o.words.last], Piece.IsWord w := by
  refine List.forall_mem_cons.mpr ⟨by rw [htitle]; exact h.isWord, List.forall_mem_singleton.mpr ?_⟩
  refine isWord_of_letters ?_ ?_ <;> cases hd : o.descending <;> simp [OrderItem.words, hd] <;> decide

end FieldWord

/-! ### Queries -/

namespace Query

/-- A query whose items have no titles of their own and are words. -/
structure OfWords (q : Query) : Prop where
  source : q.source.Valid
  sourceFree : KeywordFree q.source.render
  filter : ∀ condition, q.filter = some condition → FieldWord condition.toList
  limit : ∀ n, q.limit = some n → n < wordLimit
  items_ne_nil : ∀ items, q.selection = .only items → items ≠ []
  distinct : DistinctTitles q.selection.named
  items : ∀ i ∈ q.selection.named, i.explicit = false ∧ FieldWord i.title.toList
  orderBy : ∀ o ∈ q.orderBy, FieldWord o.item.title.toList

namespace OfWords

variable {q : Query} (h : q.OfWords)
include h

theorem listed : ∀ i ∈ q.selection.named, i.Listed ∧ i.render ≠ ['*'] ∧ i.render = i.title.toList := fun i hi =>
  (h.items i hi).2.listed rfl (h.items i hi).1

theorem parts : Parts q where
  source := h.source
  filter := fun condition hc => printable_of_isWord (h.filter condition hc).isWord
  limit := h.limit
  items_ne_nil := h.items_ne_nil
  distinct := h.distinct
  listed := fun i hi => ⟨(h.listed i hi).1, (h.listed i hi).2.1⟩
  ordered := fun o ho => (h.orderBy o ho).itemText

theorem keywordFree_selection : KeywordFree (renderSelection q.selection) := by
  have hitems := h.items
  generalize q.selection = selection at hitems
  cases selection with
  | all => exact (keywordFree_word_iff (Piece.isWord_of_plain (List.cons_ne_nil _ _) (by decide))).mpr (by decide)
  | only items =>
    have hitems : ∀ i ∈ items, i.explicit = false ∧ FieldWord i.title.toList := hitems
    have htext : items.map SelectItem.render = (items.map fun i => (⟨[], i.title.toList⟩ : ItemWords)).map ItemWords.text := by
      rw [List.map_map]
      exact List.map_congr_left fun i hi => SelectItem.render_of_implicit (hitems i hi).1
    show KeywordFree (renderList (items.map SelectItem.render))
    rw [htext, keywordFree_renderList_iff]
    · refine ⟨List.forall_mem_map.mpr fun i _ w hw => (nomatch hw), fun i hi => ?_⟩
      obtain ⟨j, hj, rfl⟩ := List.mem_map.mp (List.mem_of_getLast? hi)
      exact (hitems j hj).2.clauseOf?_eq_none
    · exact List.forall_mem_map.mpr fun i hi => List.forall_mem_singleton.mpr (hitems i hi).2.isWord
    · exact List.forall_mem_map.mpr fun i _ => ⟨.singleton _, .singleton _⟩

theorem keywordFree_orderText : KeywordFree q.orderText := by
  have htext : q.orderBy.map OrderItem.render = (q.orderBy.map OrderItem.words).map ItemWords.text := by
    rw [List.map_map]
    exact List.map_congr_left fun o _ => o.text_words.symm
  rw [orderText, htext, keywordFree_renderList_iff]
  · refine ⟨List.forall_mem_map.mpr fun o ho => List.forall_mem_singleton.mpr (h.orderBy o ho).clauseOf?_eq_none, fun i hi => ?_⟩
    obtain ⟨o, -, rfl⟩ := List.mem_map.mp (List.mem_of_getLast? hi)
    cases hd : o.descending <;> simp only [OrderItem.words, hd] <;> decide
  · exact List.forall_mem_map.mpr fun o ho => (h.orderBy o ho).isWord_words rfl
  · exact List.forall_mem_map.mpr fun o _ => o.noOrderBy_words

theorem keywordFree : ∀ c ∈ q.sections, KeywordFree c.body :=
  forall_mem_sections.mpr ⟨h.keywordFree_selection, h.sourceFree, fun condition hc => (h.filter condition hc).keywordFree,
    fun _ => h.keywordFree_orderText, fun n _ => keywordFree_decimalText n⟩

/-- Such a query is read back if each item that it selects is read from its title, and each item of its order is found
    by its own. -/
theorem parse_render_iff : parse A q.render = .ok q ↔
    (∀ i ∈ q.selection.named, parseSelectItem A i.title.toList = .ok i) ∧
      ∀ o ∈ q.orderBy, orderTarget A q.selection.named o.item.title.toList = .ok o.item := by
  have hselection : parseSelection A (renderSelection q.selection) = .ok q.selection ↔
      ∀ i ∈ q.selection.named, parseSelectItem A i.title.toList = .ok i := by
    have hlisted := h.listed
    have hitems := h.items
    have hdistinct := h.distinct
    cases hsel : q.selection with
    | all => exact iff_of_true rfl fun _ hi => nomatch hi
    | only items =>
      rw [hsel] at hlisted hitems hdistinct
      rw [parseSelection_render_iff (h.items_ne_nil items hsel) hdistinct fun i hi => ⟨(hlisted i hi).1, (hlisted i hi).2.1⟩]
      · exact forall₂_congr fun i hi => by rw [(hlisted i hi).2.2]
      · intro i hi
        rw [(hlisted i hi).2.2]
        exact (hitems i hi).2.solid
  have horder : (q.orderBy ≠ [] → parseOrder A q.selection.named q.orderText = .ok q.orderBy) ↔
      ∀ o ∈ q.orderBy, orderTarget A q.selection.named o.item.title.toList = .ok o.item := by
    rw [← forall₂_congr fun o ho => @parseOrderItem_render A q.selection.named o (h.parts.ordered o ho)]
    constructor
    · intro hread o ho
      have hne := List.ne_nil_of_mem ho
      exact (parseOrder_render_iff hne h.parts.ordered).mp (hread hne) o ho
    · exact fun hread hne => (parseOrder_render_iff hne h.parts.ordered).mpr hread
  rw [parse_render_iff_of_parts h.parts, and_iff_right h.keywordFree, hselection, horder]

end OfWords

end Query

/-! ### Words that stand for paths -/

namespace PathWord

variable {selected : List SelectItem}

/-- A selected item with a word for a path as its title has the field with that path. -/
theorem field_of_title (h : PathWord A p cs) (hword : FieldWord (Field.callText reducer cs)) {i : SelectItem} {typed : List Char}
    (hi : Query.parseSelectItem A typed = .ok i) (htitle : i.title = String.ofList (Field.callText reducer cs)) :
    i.field = ⟨p, reducer⟩ ∧ Balanced cs := by
  obtain ⟨-, ⟨-, hchars, -⟩ | ⟨text, hfield, himplicit⟩⟩ := Query.parseSelectItem_eq_ok hi
  · -- A title of its own has no character that the word has.
    rw [htitle, String.toList_ofList, hword.not_isTitleText] at hchars
    cases hchars
  · have htext : trim text = Field.callText reducer cs := by
      rw [himplicit] at htitle
      exact String.ofList_injective htitle
    rw [trim_eq_self (Field.trimmed_of_parse hfield)] at htext
    rw [htext] at hfield
    exact h.eq_of_parse hfield

/-- The field of the selected item that a word for a path names is the one that the word is read as. -/
theorem field_of_find? (h : PathWord A p cs) (hword : FieldWord (Field.callText reducer cs))
    (hselected : ∀ i ∈ selected, ∃ typed, Query.parseSelectItem A typed = .ok i) {i : SelectItem}
    (hi : (selected.find? fun i => i.title == String.ofList (Field.callText reducer cs)) = some i) :
    (Field.parse A (Field.callText reducer cs)).map Prod.fst = .ok i.field := by
  obtain ⟨typed, htyped⟩ := hselected i (List.mem_of_find?_eq_some hi)
  have htitle := List.find?_some hi
  obtain ⟨hfield, hbalanced⟩ := h.field_of_title hword htyped (beq_iff_eq.mp htitle)
  rw [h.parse_callText, if_pos hbalanced, hfield]
  rfl

theorem orderTarget_field (h : PathWord A p cs) (hword : FieldWord (Field.callText reducer cs))
    (hselected : ∀ i ∈ selected, ∃ typed, Query.parseSelectItem A typed = .ok i) :
    (Query.orderTarget A selected (Field.callText reducer cs)).map SelectItem.field =
      (Field.parse A (Field.callText reducer cs)).map Prod.fst := by
  unfold Query.orderTarget
  cases hfound : selected.find? fun i => i.title == String.ofList (Field.callText reducer cs) with
  | some i => exact (h.field_of_find? hword hselected hfound).symm
  | none =>
    cases hparse : Field.parse A (Field.callText reducer cs) with
    | error e => rfl
    | ok found =>
      show Except.ok ((selected.find? fun i => i.field == found.1).getD (.implicit found.1 found.2)).field = Except.ok found.1
      cases hfield : selected.find? fun i => i.field == found.1 with
      | none => rfl
      | some i =>
        have hsame := List.find?_some hfield
        exact congrArg Except.ok (beq_iff_eq.mp hsame)

theorem fieldOf_eq (h : PathWord A p cs) (hword : FieldWord (Field.callText reducer cs))
    (hselected : ∀ i ∈ selected, ∃ typed, Query.parseSelectItem A typed = .ok i) :
    Bindings.fieldOf A selected (String.ofList (Field.callText reducer cs)) =
      (Field.parse A (Field.callText reducer cs)).map Prod.fst := by
  unfold Bindings.fieldOf
  cases hfound : selected.find? fun i => i.title == String.ofList (Field.callText reducer cs) with
  | some i => exact (h.field_of_find? hword hselected hfound).symm
  | none => rw [String.toList_ofList]

end PathWord

end ClusterQuery
