import ClusterQuery.Proofs.Path.Reading
import ClusterQuery.Proofs.Query.Lists
import ClusterQuery.Proofs.Query.Words

/-! The items that queries have. Whatever the text of an item was, its title can stand in a list again; of what is
    printed in front of an explicit title, it is only known how it begins. -/

namespace ClusterQuery

open Nesting

/-- An item whose title can stand in a list, and whose printed text begins with no blank. -/
structure SelectItem.Listed (i : SelectItem) : Prop where
  title : ItemText i.title.toList
  head : ∀ c ∈ i.render.head?, isBlank c = false
  explicit : i.explicit = true → ∀ c ∈ i.title.toList, isTitleChar c = true

theorem itemText_of_isTitleChar {cs : List Char} (hne : cs ≠ []) (h : ∀ c ∈ cs, isTitleChar c = true) : ItemText cs := by
  refine ⟨hne, trimmed_of_not_blank fun c hc => isBlank_of_isTitleChar (h c hc),
    closed_of_plain fun c hc => (isPlain_of_isTitleChar (h c hc)).1,
    leads_of_plain fun c hc => ⟨(isPlain_of_isTitleChar (h c hc)).2, ?_⟩⟩
  refine beq_eq_false_iff_ne.mpr fun he => ?_
  have := h c hc
  rw [he] at this
  cases this

theorem isTitleText_iff {cs : List Char} : Query.isTitleText cs = true ↔ cs ≠ [] ∧ ∀ c ∈ cs, isTitleChar c = true := by
  simp [Query.isTitleText, isTitleChar]

namespace SelectItem

theorem render_of_explicit {i : SelectItem} (h : i.explicit = true) :
    i.render = i.field.render ++ " AS ".toList ++ i.title.toList := by
  rw [render, if_pos h]

theorem render_of_implicit {i : SelectItem} (h : i.explicit = false) : i.render = i.title.toList := by
  rw [render, h]
  rfl

theorem toList_title_implicit {f : Field} {text : List Char} (h : Trimmed text) :
    (SelectItem.implicit f text).title.toList = text := by
  show (String.ofList (trim text)).toList = text
  rw [String.toList_ofList, trim_eq_self h]

end SelectItem

namespace Field

theorem head_render {A : AliasTable} {cs text : List Char} {f : Field} (h : parse A cs = .ok (f, text)) :
    f.render ≠ [] ∧ ∀ c ∈ f.render.head?, isBlank c = false := by
  obtain ⟨-, -, -, -, -, pathText, -, hpath, -⟩ := parse_eq_ok_iff.mp h
  rw [render]
  cases f.reducer with
  | none => exact Path.render_head hpath
  | some r => exact ⟨by simp [callText], (trimmed_callText_some r _).head⟩

end Field

namespace Query

variable {A : AliasTable}

/-- An item in which the word `AS` stands is a field and a title. -/
theorem parseSelectItem_eq_ok_iff_of_split {cs word : List Char} {ps before after : List Piece} {i : SelectItem}
    (hcut : Piece.cut cs = .ok ps)
    (hsplit : splitAtLastWord (sameIgnoringCase · "as".toList) ps = some (before, word, after)) :
    parseSelectItem A cs = .ok i ↔ before.any (·.word?.isSome) = true ∧
      isTitleText (trim (Piece.join after)) = true ∧
      ∃ field text, Field.parse A (trim (Piece.join before)) = .ok (field, text) ∧
        i = ⟨field, String.ofList (trim (Piece.join after)), true⟩ := by
  have hpieces : (Piece.cut cs).mapError QueryError.invalidSyntax = .ok ps := Except.mapError_eq_ok_iff.mpr hcut
  unfold parseSelectItem
  simp only [hpieces, Except.bind_eq_ok_iff, Except.ok.injEq, exists_eq_left', hsplit, unless_eq_ok_iff, Prod.exists,
    Bool.not_eq_true', Bool.not_eq_false]
  refine and_congr_right fun _ => and_congr_right fun _ => exists_congr fun field => exists_congr fun text => ?_
  exact and_congr_right fun _ => ⟨fun h => (Except.ok.inj h).symm, fun h => congrArg Except.ok h.symm⟩

/-- An item of a selection is one with a title of its own or one with the text of its field as the title. -/
theorem parseSelectItem_eq_ok {cs : List Char} {i : SelectItem} (h : parseSelectItem A cs = .ok i) :
    Closed .ofWords cs ∧ ((i.explicit = true ∧ isTitleText i.title.toList = true ∧
        ∃ typed text, Field.parse A typed = .ok (i.field, text)) ∨
      ∃ text, Field.parse A cs = .ok (i.field, text) ∧ i = .implicit i.field text) := by
  have hread := h
  unfold parseSelectItem at h
  obtain ⟨pieces, hpieces, h⟩ := Except.bind_eq_ok_iff.mp h
  have hcut := Except.mapError_eq_ok_iff.mp hpieces
  refine ⟨Piece.exists_cut_iff.mp ⟨pieces, hcut⟩, ?_⟩
  split at h
  · next before word after hsplit =>
    obtain ⟨-, htitle, field, text, hfield, rfl⟩ := (parseSelectItem_eq_ok_iff_of_split hcut hsplit).mp hread
    refine .inl ⟨rfl, ?_, _, text, hfield⟩
    rwa [String.toList_ofList]
  · obtain ⟨⟨field, text⟩, hfield, h⟩ := Except.bind_eq_ok_iff.mp h
    cases h
    exact .inr ⟨text, hfield, rfl⟩

theorem listed_of_field {cs text : List Char} {f : Field} (h : Field.parse A cs = .ok (f, text))
    (hcs : ItemText (trim cs)) : (SelectItem.implicit f text).Listed := by
  have hitem := Field.itemText_of_parse h hcs
  have htitle := SelectItem.toList_title_implicit (f := f) hitem.trimmed
  refine ⟨?_, fun c hc => hitem.trimmed.head c ?_, fun he => nomatch he⟩
  · rw [htitle]
    exact hitem
  · rwa [SelectItem.render_of_implicit rfl, htitle] at hc

theorem listed_of_parseSelectItem {cs : List Char} {i : SelectItem} (h : parseSelectItem A cs = .ok i) (hne : cs ≠ [])
    (htrimmed : Trimmed cs) (hsolid : Solid ',' cs) : i.Listed := by
  obtain ⟨hclosed, ⟨hexplicit, htitle, typed, text, hfield⟩ | ⟨text, hfield, he⟩⟩ := parseSelectItem_eq_ok h
  · obtain ⟨htitle_ne, hchars⟩ := isTitleText_iff.mp htitle
    obtain ⟨hfield_ne, hhead⟩ := Field.head_render hfield
    refine ⟨itemText_of_isTitleChar htitle_ne hchars, fun c hc => hhead c ?_, fun _ => hchars⟩
    rwa [SelectItem.render_of_explicit hexplicit, List.append_assoc, List.head?_append_of_ne_nil _ hfield_ne] at hc
  · rw [he]
    refine listed_of_field hfield ?_
    rw [trim_eq_self htrimmed]
    exact ⟨hne, htrimmed, hclosed, hsolid⟩

/-- A text other than a star is not read as an item that is printed as one. -/
theorem render_ne_star_of_parseSelectItem {cs : List Char} {i : SelectItem} (h : parseSelectItem A cs = .ok i)
    (hne : cs ≠ []) (htrimmed : Trimmed cs) (hsolid : Solid ',' cs) (hstar : cs ≠ ['*']) : i.render ≠ ['*'] := by
  intro he
  obtain ⟨hclosed, ⟨hexplicit, -, -⟩ | ⟨text, hfield, hi⟩⟩ := parseSelectItem_eq_ok h
  · rw [SelectItem.render_of_explicit hexplicit] at he
    have := congrArg List.length he
    simp at this
    omega
  · have hcs : ItemText (trim cs) := by
      rw [trim_eq_self htrimmed]
      exact ⟨hne, htrimmed, hclosed, hsolid⟩
    have hitem := Field.itemText_of_parse hfield hcs
    rw [hi, SelectItem.render_of_implicit rfl, SelectItem.toList_title_implicit hitem.trimmed] at he
    rw [he] at hfield
    have := Field.star_of_parse hfield
    rw [trim_eq_self htrimmed] at this
    exact hstar this

/-! ### The items of a selection -/

theorem listed_of_parseSelection {body : List Char} {selection : Selection}
    (h : parseSelection A body = .ok selection) :
    DistinctTitles selection.named ∧ ∀ i ∈ selection.named, i.Listed ∧ i.render ≠ ['*'] := by
  cases selection with
  | all => exact ⟨.nil, fun _ hi => nomatch hi⟩
  | only items =>
    obtain ⟨-, -, pieces, hpieces, hitems, hdistinct⟩ := parseSelection_eq_only_iff.mp h
    obtain ⟨-, hsolid, -⟩ := (splitTopLevel_eq_some_iff isPlain_comma).mp hpieces
    refine ⟨hdistinct, fun i hi => ?_⟩
    obtain ⟨cs, hcs, hfrom⟩ := hitems.exists_of_mem_right hi
    have htrim := solid_trim (hsolid cs hcs)
    exact ⟨listed_of_parseSelectItem hfrom.reads hfrom.ne_nil (trimmed_trim cs) htrim,
      render_ne_star_of_parseSelectItem hfrom.reads hfrom.ne_nil (trimmed_trim cs) htrim hfrom.ne_star⟩

/-! ### The items of an order -/

theorem splitAtLastWord_cons (p : List Char → Bool) (piece : Piece) (pieces : List Piece) :
    splitAtLastWord p (piece :: pieces) =
      match splitAtLastWord p pieces with
      | some (before, word, after) => some (piece :: before, word, after)
      | none =>
        match piece with
        | .word w => if p w then some ([], w, pieces) else none
        | .blanks _ => none := rfl

theorem splitAtLastWord_eq_none_iff {p : List Char → Bool} {pieces : List Piece} :
    splitAtLastWord p pieces = none ↔ ∀ w, .word w ∈ pieces → p w = false := by
  induction pieces with
  | nil => simp [splitAtLastWord]
  | cons piece pieces ih =>
    rw [splitAtLastWord_cons]
    cases hrest : splitAtLastWord p pieces with
    | some found =>
      rw [hrest] at ih
      simp only [reduceCtorEq, false_iff]
      exact fun h => nomatch ih.mpr fun w hw => h w (List.mem_cons_of_mem _ hw)
    | none =>
      have hnone := ih.mp hrest
      cases piece with
      | blanks cs => simpa using hnone
      | word w =>
        cases hp : p w with
        | true =>
          simp only [hp, if_true, reduceCtorEq, false_iff]
          intro h
          rw [h w List.mem_cons_self] at hp
          cases hp
        | false => simpa [hp] using hnone

/-- The pieces around the last word that satisfies a condition. -/
theorem splitAtLastWord_eq_some_iff {p : List Char → Bool} {pieces before after : List Piece} {w : List Char} :
    splitAtLastWord p pieces = some (before, w, after) ↔
      pieces = before ++ .word w :: after ∧ p w = true ∧ ∀ v, .word v ∈ after → p v = false := by
  induction pieces generalizing before w after with
  | nil => simp [splitAtLastWord]
  | cons piece pieces ih =>
    rw [splitAtLastWord_cons]
    cases hrest : splitAtLastWord p pieces with
    | some found =>
      obtain ⟨before', w', after'⟩ := found
      obtain ⟨hpieces, hw', hafter'⟩ := ih.mp hrest
      constructor
      · intro h
        cases h
        exact ⟨by rw [hpieces]; rfl, hw', hafter'⟩
      · rintro ⟨he, hw, hafter⟩
        cases before with
        | nil =>
          -- The last such word is not the first piece, since there is one after it.
          cases he
          have := splitAtLastWord_eq_none_iff.mpr hafter
          rw [hrest] at this
          cases this
        | cons first before =>
          cases he
          have := ih.mpr ⟨rfl, hw, hafter⟩
          rw [hrest] at this
          cases this
          rfl
    | none =>
      have hnone := splitAtLastWord_eq_none_iff.mp hrest
      constructor
      · intro h
        cases piece with
        | blanks cs => cases h
        | word v =>
          cases hp : p v with
          | true =>
            simp only [hp, if_true] at h
            cases h
            exact ⟨rfl, hp, hnone⟩
          | false => simp [hp] at h
      · rintro ⟨he, hw, hafter⟩
        cases before with
        | nil =>
          cases he
          simp [hw]
        | cons first before =>
          cases he
          rw [hnone w (by simp)] at hw
          cases hw

theorem blanks_join {pieces : List Piece} (h : Piece.WellCut pieces) (hno : ∀ w, .word w ∉ pieces) :
    Blanks (Piece.join pieces) := by
  intro c hc
  obtain ⟨piece, hpiece, hc⟩ := List.mem_flatMap.mp hc
  cases piece with
  | word w => exact (hno w hpiece).elim
  | blanks cs => exact (h.valid _ hpiece).2 c hc

/-- The text before a direction is the text of an item, since the direction has no brackets. -/
theorem itemText_before_direction {before after : List Piece} {last keyword : List Char} (hbefore : Piece.WellCut before)
    (hafter : Blanks (Piece.join after)) (hsolid : Solid ',' (Piece.join before ++ (last ++ Piece.join after)))
    (hlast : sameIgnoringCase last keyword = true) (hletters : ((lowerText keyword).all isAsciiLetter) = true)
    (hne : trim (Piece.join before) ≠ []) : ItemText (trim (Piece.join before)) := by
  refine ⟨hne, trimmed_trim _, closed_trim hbefore.closed, solid_trim ?_⟩
  refine hsolid.of_append_right sound_outside fun c hc => ?_
  rcases List.mem_append.mp hc with hc | hc
  · exact (isPlain_of_isTitleChar (isTitleChar_of_isAsciiLetter
      (isAsciiLetter_of_sameIgnoringCase hlast hletters c hc))).2
  · exact (isPlain_of_isBlank (hafter c hc)).2

/-- What is ordered by: the text, maybe without a direction after it. -/
theorem itemText_of_splitDirection {cs text : List Char} {descending : Bool} (htrimmed : Trimmed cs)
    (hsolid : Solid ',' cs) (h : splitDirection cs = .ok (some (text, descending))) (hne : text ≠ []) :
    ItemText text := by
  unfold splitDirection at h
  obtain ⟨pieces, hpieces, h⟩ := Except.bind_eq_ok_iff.mp h
  obtain ⟨hcut, hjoin⟩ := Piece.cut_eq_ok_iff.mp (Except.mapError_eq_ok_iff.mp hpieces)
  split at h
  · cases h
  · next before last after hsplit =>
    obtain ⟨rfl, -, hafter⟩ := splitAtLastWord_eq_some_iff.mp hsplit
    have hbefore : Piece.WellCut before := hcut.of_infix (List.prefix_append _ _).isInfix
    have hblanks : Blanks (Piece.join after) := by
      refine blanks_join (hcut.of_infix (List.suffix_append (before ++ [.word last]) after |>.isInfix.trans ?_)) ?_
      · rw [List.append_assoc]
        exact List.infix_rfl
      · exact fun w hw => nomatch hafter w hw
    have hcs : cs = Piece.join before ++ (last ++ Piece.join after) := by
      rw [← hjoin, Piece.join_append, Piece.join_cons, Piece.text_word]
    split at h
    · next hdesc =>
      cases h
      exact itemText_before_direction hbefore hblanks (hcs ▸ hsolid) hdesc (by decide) hne
    · split at h
      · next hasc =>
        cases h
        exact itemText_before_direction hbefore hblanks (hcs ▸ hsolid) hasc (by decide) hne
      · cases h
        exact ⟨hne, htrimmed, Piece.exists_cut_iff.mp ⟨_, Except.mapError_eq_ok_iff.mp hpieces⟩, hsolid⟩

/-- An item of an order is what its text without a direction names, and the direction. -/
theorem parseOrderItem_eq_ok_iff {selected : List SelectItem} {cs : List Char} {o : OrderItem} :
    parseOrderItem A selected cs = .ok o ↔ ∃ text, splitDirection cs = .ok (some (text, o.descending)) ∧ text ≠ [] ∧
      orderTarget A selected text = .ok o.item := by
  unfold parseOrderItem
  rw [Except.bind_eq_ok_iff]
  constructor
  · rintro ⟨direction, hdirection, h⟩
    cases direction with
    | none => cases h
    | some pair =>
      obtain ⟨text, descending⟩ := pair
      simp only [unless_eq_ok_iff, Except.bind_eq_ok_iff] at h
      obtain ⟨hne, item, hitem, h⟩ := h
      cases h
      exact ⟨text, hdirection, by simpa using hne, hitem⟩
  · rintro ⟨text, hdirection, hne, hitem⟩
    refine ⟨_, hdirection, ?_⟩
    simp only [unless_eq_ok_iff, Except.bind_eq_ok_iff]
    exact ⟨by simpa using hne, _, hitem, rfl⟩

theorem itemText_of_parseOrderItem {selected : List SelectItem} (hselected : ∀ i ∈ selected, i.Listed)
    {cs : List Char} {o : OrderItem} (htrimmed : Trimmed cs) (hsolid : Solid ',' cs)
    (h : parseOrderItem A selected cs = .ok o) : ItemText o.item.title.toList := by
  obtain ⟨text, hdirection, hne, hitem⟩ := parseOrderItem_eq_ok_iff.mp h
  have htext : ItemText text := itemText_of_splitDirection htrimmed hsolid hdirection hne
  unfold orderTarget at hitem
  split at hitem
  · next found hfound =>
    obtain rfl : found = o.item := Except.ok.inj hitem
    exact (hselected _ (List.mem_of_find?_eq_some hfound)).title
  · obtain ⟨⟨field, shown⟩, hfield, hitem⟩ := Except.bind_eq_ok_iff.mp hitem
    rw [← Except.ok.inj hitem]
    cases hfound : selected.find? fun i => i.field == field with
    | some found => exact (hselected _ (List.mem_of_find?_eq_some hfound)).title
    | none => exact (listed_of_field hfield (by rwa [trim_eq_self htext.trimmed])).title

theorem itemText_of_parseOrder {selected : List SelectItem} (hselected : ∀ i ∈ selected, i.Listed)
    {body : List Char} {items : List OrderItem} (h : parseOrder A selected body = .ok items) :
    ∀ o ∈ items, ItemText o.item.title.toList := by
  obtain ⟨-, pieces, hpieces, hitems⟩ := parseOrder_eq_ok_iff.mp h
  obtain ⟨-, hsolid, -⟩ := (splitTopLevel_eq_some_iff isPlain_comma).mp hpieces
  intro o ho
  obtain ⟨cs, hcs, hfrom⟩ := hitems.exists_of_mem_right ho
  exact itemText_of_parseOrderItem hselected (trimmed_trim cs) (solid_trim (hsolid cs hcs)) hfrom

end Query

end ClusterQuery
