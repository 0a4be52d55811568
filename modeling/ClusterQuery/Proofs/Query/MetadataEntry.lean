import ClusterQuery.Proofs.Path.Nodes
import ClusterQuery.Proofs.Predicate.Words
import ClusterQuery.Proofs.Query.FieldWord
import ClusterQuery.Proofs.Query.MetadataMap

/-! Labels and annotations as they are typed: with the key after a dot, or in double or single quotes between
    brackets. Whichever way is taken and wherever in a query it stands, the text is one word and one token, and it
    means the path to the entry. -/

namespace ClusterQuery

open Nesting

/-- Letters, digits, underscores, dots, slashes and hyphens. -/
def isEntryChar (c : Char) : Bool := isTitleChar c || c == '.' || c == '/' || c == '-'

/-- A key of a label or an annotation. -/
structure EntryKey where
  text : List Char
  chars : ∀ c ∈ text, isEntryChar c = true
  head : text.head?.any isAsciiAlphanumeric = true
  last : text.getLast?.any isAsciiAlphanumeric = true

/-- How an entry is typed. -/
inductive Spelling where
  | dotted | doubleQuoted | singleQuoted
deriving DecidableEq

/-- An entry of a map of the metadata. -/
structure MetadataEntry where
  map : MetadataMap
  key : EntryKey

/-- A key after the name of its map. -/
def EntryKey.typed (k : EntryKey) : Spelling → List Char
  | .dotted => '.' :: k.text
  | .doubleQuoted => quotedSubscript '"' k.text
  | .singleQuoted => quotedSubscript '\'' k.text

namespace Spelling

/-- The quotes in which the key stands in the text of its path. -/
def quote : Spelling → Char
  | .singleQuoted => '\''
  | _ => '"'

end Spelling

namespace MetadataEntry

variable (e : MetadataEntry)

/-- An entry as it is typed. -/
def typed (s : Spelling) : List Char := e.map.name.toList ++ e.key.typed s

/-- The path to an entry. -/
def path : Path := ⟨[.key "metadata", .key e.map.name, .mapKey (String.ofList e.key.text)]⟩

def field : Field := ⟨e.path, none⟩

/-- The item of a selection or of an order that an entry is read as. -/
def item (s : Spelling) : SelectItem := ⟨e.field, String.ofList (e.typed s), false⟩

/-- What is read at an entry: an empty text as true, and null as nothing. -/
def reading : Option Json → Option Value
  | none | some .null => none
  | some (.string "") => some (.bool true)
  | some j => some (Value.ofJson j)

end MetadataEntry

/-! ### The characters of an entry -/

theorem not_mem_of_isEntryChar {c : Char} (h : isEntryChar c = true) :
    c ∉ Brackets.marks ++ [',', '=', '!', '<', '>', '~', '&', '|'] := not_mem_of_all h (by decide)

theorem isBlank_of_isEntryChar {c : Char} (h : isEntryChar c = true) : isBlank c = false := by
  unfold isEntryChar at h
  simp only [Bool.or_eq_true, beq_iff_eq] at h
  rcases h with ((h | rfl) | rfl) | rfl
  · exact isBlank_of_isTitleChar h
  all_goals rfl

namespace EntryKey

variable (k : EntryKey)

theorem exists_cons : ∃ c rest, k.text = c :: rest ∧ isAsciiAlphanumeric c = true := by
  have hhead := k.head
  cases htext : k.text with
  | nil =>
    rw [htext] at hhead
    cases hhead
  | cons c rest =>
    rw [htext] at hhead
    exact ⟨c, rest, rfl, hhead⟩

theorem ne_nil : k.text ≠ [] := by
  obtain ⟨c, rest, htext, -⟩ := k.exists_cons
  rw [htext]
  exact List.cons_ne_nil c rest

theorem plain : ∀ c ∈ k.text, c ∉ Brackets.marks := fun c hc hmark =>
  not_mem_of_isEntryChar (k.chars c hc) (List.mem_append_left _ hmark)

theorem quote_not_mem (s : Spelling) : s.quote ∉ k.text := fun hmem => by
  refine k.plain _ hmem ?_
  cases s <;> decide

theorem enclosed (s : Spelling) : Enclosed (s.quote :: (k.text ++ [s.quote])) := by
  refine .quoted ?_ (k.quote_not_mem s)
  cases s <;> rfl

end EntryKey

namespace MetadataEntry

variable (e : MetadataEntry) (s : Spelling)

theorem mem_typed : ∀ c ∈ e.typed s, isBlank c = false ∧ c ≠ '(' ∧ c ≠ ')' := by
  have hentry : ∀ c, isEntryChar c = true → isBlank c = false ∧ c ≠ '(' ∧ c ≠ ')' := fun c hc => by
    have hmarks := not_mem_of_isEntryChar hc
    refine ⟨isBlank_of_isEntryChar hc, ?_, ?_⟩ <;> rintro rfl <;> exact hmarks (by decide)
  have hname : ∀ c ∈ e.map.name.toList, isBlank c = false ∧ c ≠ '(' ∧ c ≠ ')' := fun c hc => by
    refine hentry c ?_
    simp [isEntryChar, e.map.isTitleChar_name c hc]
  have hkey : ∀ c ∈ e.key.text, isBlank c = false ∧ c ≠ '(' ∧ c ≠ ')' := fun c hc => hentry c (e.key.chars c hc)
  refine List.forall_mem_append.mpr ⟨hname, ?_⟩
  have hquoted : ∀ q : Char, (isBlank q = false ∧ q ≠ '(' ∧ q ≠ ')') → ∀ c ∈ quotedSubscript q e.key.text,
      isBlank c = false ∧ c ≠ '(' ∧ c ≠ ')' := fun q hq => by
    simp only [quotedSubscript, List.forall_mem_cons, List.forall_mem_append, List.cons_append]
    exact ⟨by decide, hq, ⟨hkey, hq, List.forall_mem_nil _⟩, by decide, List.forall_mem_nil _⟩
  cases s with
  | dotted => exact List.forall_mem_cons.mpr ⟨by decide, hkey⟩
  | doubleQuoted => exact hquoted '"' (by decide)
  | singleQuoted => exact hquoted '\'' (by decide)

theorem isWord_typed : Piece.IsWord (e.typed s) := by
  have hname : Piece.IsWord e.map.name.toList := Query.isWord_of_isTitleChar e.map.name_ne_nil e.map.isTitleChar_name
  refine hname.append ?_
  have hquoted : Piece.IsWord (quotedSubscript s.quote e.key.text) :=
    ⟨List.cons_ne_nil _ _, (e.key.enclosed s).leads Brackets.ofWords_mem_scans rfl⟩
  cases s with
  | dotted =>
    refine Piece.isWord_of_plain (List.cons_ne_nil _ _) (List.forall_mem_cons.mpr ⟨by decide, fun c hc => ?_⟩)
    exact ⟨(Brackets.isPlain_of_not_mem_marks (e.key.plain c hc)).1, isBlank_of_isEntryChar (e.key.chars c hc)⟩
  | doubleQuoted => exact hquoted
  | singleQuoted => exact hquoted

theorem solid_typed : Solid ',' (e.typed s) := by
  have hname : Solid ',' e.map.name.toList := leads_of_plain fun c hc => by
    have hchar := e.map.isTitleChar_name c hc
    exact ⟨(isPlain_of_isTitleChar hchar).2, beq_eq_false_iff_ne.mpr (by rintro rfl; cases hchar)⟩
  refine Leads.append hname ?_
  have hquoted : Solid ',' (quotedSubscript s.quote e.key.text) := (e.key.enclosed s).leads Brackets.ofLists_mem_scans rfl
  cases s with
  | dotted =>
    refine leads_of_plain (List.forall_mem_cons.mpr ⟨by decide, fun c hc => ?_⟩)
    have hmarks := not_mem_of_isEntryChar (e.key.chars c hc)
    exact ⟨(Brackets.isPlain_of_not_mem_marks (e.key.plain c hc)).2, beq_eq_false_iff_ne.mpr (by rintro rfl; exact hmarks (by decide))⟩
  | doubleQuoted => exact hquoted
  | singleQuoted => exact hquoted

theorem exists_cons_typed : ∃ c cs, e.typed s = c :: cs ∧ isAsciiLetter c = true := by
  have hletters : ∀ c ∈ e.map.name.toList, isAsciiLetter c = true := by cases e.map <;> decide
  obtain ⟨c, cs, hname⟩ := List.exists_cons_of_ne_nil e.map.name_ne_nil
  refine ⟨c, cs ++ e.key.typed s, by rw [typed, hname]; rfl, hletters c ?_⟩
  rw [hname]
  exact List.mem_cons_self

/-- An entry holds a character that is no letter, so that it is not a keyword. -/
theorem exists_mem_typed : ∃ c ∈ e.typed s, isTitleChar c = false := by
  cases s with
  | dotted => exact ⟨'.', List.mem_append_right _ List.mem_cons_self, rfl⟩
  | doubleQuoted => exact ⟨'[', List.mem_append_right _ List.mem_cons_self, rfl⟩
  | singleQuoted => exact ⟨'[', List.mem_append_right _ List.mem_cons_self, rfl⟩

theorem fieldWord_typed : FieldWord (e.typed s) := by
  refine ⟨e.isWord_typed s, e.solid_typed s, e.exists_mem_typed s, fun he => ?_⟩
  obtain ⟨c, cs, htext, hletter⟩ := e.exists_cons_typed s
  rw [htext] at he
  cases he
  cases hletter

/-! ### What an entry stands for -/

theorem splitCall_typed : splitCall (e.typed s) = none := splitCall_eq_none fun h => (e.mem_typed s _ h).2.1 rfl

theorem bracketless_typed : ∀ c ∈ e.typed .dotted, (c != '[') = true := by
  refine List.forall_mem_append.mpr ⟨by cases e.map <;> decide, List.forall_mem_cons.mpr ⟨rfl, fun c hc => ?_⟩⟩
  exact bne_iff_ne.mpr (by rintro rfl; exact e.key.plain _ hc (by decide))

theorem trimName_typed : AliasTable.trimName (e.typed .dotted) = e.typed .dotted := by
  have hedge : ∀ {c : Char}, isTitleChar c = true → c ≠ ' ' ∧ c ≠ '.' := fun hc => by
    constructor <;> rintro rfl <;> cases hc
  refine AliasTable.trimName_eq_self (fun c hc => ?_) fun c hc => ?_
  · rw [typed, List.head?_append_of_ne_nil _ e.map.name_ne_nil] at hc
    exact hedge (e.map.isTitleChar_name c (List.mem_of_mem_head? hc))
  · rw [typed, EntryKey.typed, List.getLast?_append_of_ne_nil _ (List.cons_ne_nil _ _),
      List.getLast?_cons_of_ne_nil e.key.ne_nil] at hc
    have hlast := e.key.last
    rw [Option.mem_def.mp hc, Option.any_some] at hlast
    refine hedge ?_
    rw [isTitleChar, hlast, Bool.true_or]

theorem resolve_typed : AliasTable.builtin.resolve (e.typed s) = e.map.pathText s.quote e.key.text := by
  have htrim : trim (e.typed s) = e.typed s := trim_eq_self (e.isWord_typed s).trimmed
  have hcall : splitCall (trim (e.typed s)) = none := by rw [htrim, e.splitCall_typed]
  have hname : AliasTable.trimName (e.map.name.toList ++ []) = e.map.name.toList := by cases e.map <;> decide
  have hquoted : ∀ q : Char, e.typed s = e.map.name.toList ++ quotedSubscript q e.key.text →
      AliasTable.builtin.resolve (e.typed s) = e.map.pathText q e.key.text := by
    intro q htyped
    rw [AliasTable.resolve_of_splitCall_eq_none hcall, htrim, htyped, List.takeWhile_append_of_pos e.map.openless_name,
      List.dropWhile_append_of_pos e.map.openless_name]
    show AliasTable.builtin.resolveName (AliasTable.trimName (e.map.name.toList ++ [])) (quotedSubscript q e.key.text) = _
    rw [hname, e.map.resolveName_name]
    rfl
  cases s with
  | dotted =>
    rw [AliasTable.resolve_of_splitCall_eq_none hcall, htrim, List.takeWhile_eq_self_iff.mpr e.bracketless_typed,
      List.dropWhile_eq_nil_iff.mpr e.bracketless_typed, e.trimName_typed]
    exact e.map.resolveName_key e.key.ne_nil
  | doubleQuoted => exact hquoted '"' rfl
  | singleQuoted => exact hquoted '\'' rfl

theorem pathWord_typed : PathWord .builtin e.path (e.typed s) where
  isWord := e.isWord_typed s
  solid := e.solid_typed s
  whole := by
    have hblank : splitFirst isBlank (e.typed s) = none := splitFirst_eq_none_iff.mpr fun c hc => (e.mem_typed s c hc).1
    rw [Field.splitReducer, e.splitCall_typed s, hblank]
  resolved := splitCall_eq_none (AliasTable.openless_resolve fun hmem => (e.mem_typed s _ hmem).2.1 rfl)
  parse := by
    have hquote : isQuote s.quote = true := by cases s <;> rfl
    rw [e.resolve_typed s]
    exact e.map.parse_pathText hquote (e.key.quote_not_mem s) e.key.ne_nil

/-- An entry is read as the field at its path. -/
theorem parse_typed : Field.parse .builtin (e.typed s) = .ok (e.field, e.typed s) := by
  have hread := (e.pathWord_typed s).parse_callText none
  rwa [if_pos (balanced_of_ne fun c hc => (e.mem_typed s c hc).2)] at hread

/-! ### Items -/

theorem item_eq_implicit : SelectItem.implicit e.field (e.typed s) = e.item s := by
  rw [SelectItem.implicit, trim_eq_self (e.isWord_typed s).trimmed]
  rfl

theorem parseSelectItem_typed : Query.parseSelectItem .builtin (e.typed s) = .ok (e.item s) := by
  rw [(e.fieldWord_typed s).parseSelectItem_eq, e.parse_typed s, ← e.item_eq_implicit s]
  rfl

theorem exists_orderTarget_typed {selected : List SelectItem}
    (hselected : ∀ i ∈ selected, ∃ cs, Query.parseSelectItem .builtin cs = .ok i) :
    ∃ i, Query.orderTarget .builtin selected (e.typed s) = .ok i ∧ i.field = e.field := by
  have hfield : (Query.orderTarget .builtin selected (e.typed s)).map SelectItem.field = _ :=
    @PathWord.orderTarget_field _ _ none _ _ (e.pathWord_typed s) (e.fieldWord_typed s) hselected
  exact Except.map_eq_ok_iff.mp (hfield.trans (congrArg _ (e.parse_typed s)))

/-- The ways to give a direction after an item, and whether it is descending. -/
def directions : List (List Char × Bool) := [([], false), (" ASC".toList, false), (" DESC".toList, true)]

theorem exists_parseOrderItem_typed {selected : List SelectItem}
    (hselected : ∀ i ∈ selected, ∃ cs, Query.parseSelectItem .builtin cs = .ok i) :
    ∀ d ∈ directions, ∃ o, Query.parseOrderItem .builtin selected (e.typed s ++ d.1) = .ok o ∧
      o.item.field = e.field ∧ o.descending = d.2 := by
  intro d hd
  obtain ⟨i, hi, hfield⟩ := e.exists_orderTarget_typed s hselected
  have hread := (e.fieldWord_typed s).parseOrderItem_eq .builtin selected d hd
  rw [hi] at hread
  exact ⟨⟨i, d.2⟩, hread, hfield, rfl⟩

/-- An entry in a condition stands for the field at its path, whatever was selected. -/
theorem fieldOf_typed {selected : List SelectItem}
    (hselected : ∀ i ∈ selected, ∃ cs, Query.parseSelectItem .builtin cs = .ok i) :
    Bindings.fieldOf .builtin selected (String.ofList (e.typed s)) = .ok e.field := by
  have hfield : Bindings.fieldOf .builtin selected (String.ofList (e.typed s)) = _ :=
    @PathWord.fieldOf_eq _ _ none _ _ (e.pathWord_typed s) (e.fieldWord_typed s) hselected
  exact hfield.trans (congrArg _ (e.parse_typed s))

/-! ### Tokens -/

open Predicate

theorem isWordChar_of_isEntryChar {c : Char} (h : isEntryChar c = true) : IsWordChar c := by
  have hnot := not_mem_of_isEntryChar h
  simp only [Brackets.marks, List.cons_append, List.nil_append, List.mem_cons, List.not_mem_nil, or_false, not_or] at hnot
  simp [IsWordChar, endsWord, isBlank_of_isEntryChar h, hnot]

theorem wordText_typed : WordText (e.typed s) := by
  have hname : WordText e.map.name.toList := wordText_of_isWordChar fun c hc =>
    isWordChar_of_isEntryChar (by simp [isEntryChar, e.map.isTitleChar_name c hc])
  have hquote : isQuote s.quote = true := by cases s <;> rfl
  have hquoted : WordText (quotedSubscript s.quote e.key.text) := by
    have hsubscript : WordText ('[' :: (s.quote :: (e.key.text ++ s.quote :: []) ++ ']' :: [])) :=
      .subscript (.quoted hquote (e.key.quote_not_mem s) .nil) .nil
    exact hsubscript
  refine hname.append ?_
  cases s with
  | dotted => exact .char ⟨rfl, by decide⟩ (wordText_of_isWordChar fun c hc => isWordChar_of_isEntryChar (e.key.chars c hc))
  | doubleQuoted => exact hquoted
  | singleQuoted => exact hquoted

theorem isIdentifier_typed : IsIdentifier (String.ofList (e.typed s)) := by
  obtain ⟨c, cs, htext, hletter⟩ := e.exists_cons_typed s
  have hword := e.wordText_typed s
  have hmixed := e.exists_mem_typed s
  rw [htext] at hword hmixed ⊢
  exact isIdentifier_of_letter hletter hword hmixed

theorem tokensFrom_typed {rest : List Char} (hrest : ∀ c ∈ rest.head?, endsWord c = true) (offset : Nat) :
    tokensFrom offset (e.typed s ++ rest) = (tokensFrom (offset + byteLength (e.typed s)) rest).map
      (⟨.word (String.ofList (e.typed s)), offset⟩ :: ·) := by
  have hword := (e.isIdentifier_typed s).tokensFrom_append hrest offset
  rwa [String.toList_ofList] at hword

theorem wordExpr_typed (offset : Nat) :
    wordExpr offset (String.ofList (e.typed s)) = .ok (.ident (String.ofList (e.typed s))) :=
  (e.isIdentifier_typed s).wordExpr_eq offset

/-- An entry alone is a condition. -/
theorem parse_condition_typed : Predicate.parse (String.ofList (e.typed s)) =
    .ok ⟨String.ofList (e.typed s), .ident (String.ofList (e.typed s))⟩ := (e.isIdentifier_typed s).parse_eq

/-! ### Whole queries -/

theorem title_item : (e.item s).title.toList = e.typed s := String.toList_ofList

/-- A query whose selection, condition and order each hold an entry as it is typed, or are left out. -/
structure Fills (q : Query) : Prop where
  selection : q.selection = .all ∨ q.selection = .only [e.item s]
  filter : q.filter = none ∨ q.filter = some (String.ofList (e.typed s))
  orderBy : q.orderBy = [] ∨ ∃ descending, q.orderBy = [⟨e.item s, descending⟩]

namespace Fills

variable {e : MetadataEntry} {s : Spelling} {q : Query}

theorem selected (h : e.Fills s q) : ∀ i ∈ q.selection.named, i = e.item s := by
  rcases h.selection with h | h <;> rw [h]
  · exact fun _ hi => nomatch hi
  · exact fun _ hi => List.mem_singleton.mp hi

theorem distinct (h : e.Fills s q) : Query.DistinctTitles q.selection.named := by
  rcases h.selection with h | h <;> rw [h]
  · exact .nil
  · exact List.pairwise_singleton _ _

theorem ordered (h : e.Fills s q) : ∀ o ∈ q.orderBy, o.item = e.item s := by
  rcases h.orderBy with h | ⟨descending, h⟩ <;> rw [h]
  · exact fun _ ho => nomatch ho
  · exact fun o ho => by rw [List.mem_singleton.mp ho]

theorem ofWords (h : e.Fills s q) (hsource : q.source.Valid) (hfrom : ClauseText.KeywordFree q.source.render)
    (hlimit : ∀ n, q.limit = some n → n < wordLimit) : q.OfWords where
  source := hsource
  sourceFree := hfrom
  filter := fun condition hc => by
    rcases h.filter with h | h <;> rw [h] at hc <;> cases hc
    rw [String.toList_ofList]
    exact e.fieldWord_typed s
  limit := hlimit
  items_ne_nil := fun items hitems => by
    rcases h.selection with h | h <;> rw [h] at hitems <;> cases hitems
    exact List.cons_ne_nil _ _
  distinct := h.distinct
  items := fun i hi => by
    rw [h.selected i hi, e.title_item s]
    exact ⟨rfl, e.fieldWord_typed s⟩
  orderBy := fun o ho => by
    rw [h.ordered o ho, e.title_item s]
    exact e.fieldWord_typed s

theorem orderTarget (h : e.Fills s q) : Query.orderTarget .builtin q.selection.named (e.typed s) = .ok (e.item s) := by
  have hdistinct := h.distinct
  rcases h.selection with h | h <;> rw [h] at hdistinct ⊢
  · show (Field.parse .builtin (e.typed s) >>= fun _ => _) = _
    rw [e.parse_typed s, ← e.item_eq_implicit s]
    rfl
  · rw [← e.title_item s]
    exact Query.orderTarget_of_mem hdistinct List.mem_cons_self

end Fills

/-- A query that selects an entry, or asks for it in its condition, or orders by it, is read as such. -/
theorem parse_render_typed {q : Query} (hsource : q.source.Valid) (hfrom : ClauseText.KeywordFree q.source.render)
    (hlimit : ∀ n, q.limit = some n → n < wordLimit) (h : e.Fills s q) : Query.parse .builtin q.render = .ok q := by
  refine (h.ofWords hsource hfrom hlimit).parse_render_iff.mpr ⟨fun i hi => ?_, fun o ho => ?_⟩
  · rw [h.selected i hi, e.title_item s, e.parseSelectItem_typed s]
  · rw [h.ordered o ho, e.title_item s, h.orderTarget]

/-! ### What is read at an entry -/

/-- Of a document whose metadata has the map of an entry, the field of the entry is what the map binds its key to. -/
theorem value_field {doc metadata : Json} {entries : List (String × Json)} (hmetadata : doc.field? "metadata" = some metadata)
    (hentries : metadata.field? e.map.name = some (.object entries)) :
    e.field.value doc = .ok (reading (Json.lookup (String.ofList e.key.text) entries)) := by
  have hnull : metadata ≠ .null := fun he => by
    rw [he] at hentries
    cases hentries
  have hsteps : ∀ name : String, Step.key name ≠ .wildcard := fun _ => Step.noConfusion
  have hfollow : follow e.path.steps doc = follow [.mapKey (String.ofList e.key.text)] (.object entries) :=
    (follow_of_part? (hsteps _) ((part?_key _ _).trans hmetadata) hnull _).trans
      (follow_of_part? (hsteps _) ((part?_key _ _).trans hentries) Json.noConfusion _)
  have hmap : e.path.isMetadataEntry = true := by
    show (e.map.name == "labels" || e.map.name == "annotations") = true
    cases e.map <;> rfl
  have hentry := follow_of_ne_wildcard (s := .mapKey (String.ofList e.key.text)) Step.noConfusion [] (.object entries)
  show Except.ok (e.path.extract doc) = _
  rw [Path.extract, hfollow, hentry, Step.part?]
  -- An entry whose text is empty reads as true.
  cases Json.lookup (String.ofList e.key.text) entries with
  | none => rfl
  | some entry =>
    cases entry with
    | string text =>
      by_cases htext : text = ""
      · subst htext
        show Except.ok (if e.path.isMetadataEntry then some (Value.bool true) else _) = _
        rw [hmap]
        rfl
      · simp [reading, follow, htext, Value.ofJson?]
    | _ => rfl

/-- However an entry is typed, it is accepted as an item of a selection, as an item of an order whatever was selected,
    and as one token of a condition, where it is an identifier; a query with it in any of its clauses is read as such.
    In each place it stands for the field at the path of the entry, which reads what the map of the metadata binds its
    key to. -/
theorem typed_means_field (e : MetadataEntry) (s : Spelling) :
    Query.parseSelectItem .builtin (e.typed s) = .ok (e.item s) ∧
    (∀ selected : List SelectItem, (∀ i ∈ selected, ∃ cs, Query.parseSelectItem .builtin cs = .ok i) →
      (∀ d ∈ directions, ∃ o, Query.parseOrderItem .builtin selected (e.typed s ++ d.1) = .ok o ∧
        o.item.field = e.field ∧ o.descending = d.2) ∧
      Bindings.fieldOf .builtin selected (String.ofList (e.typed s)) = .ok e.field) ∧
    (∀ (offset : Nat) (rest : List Char), (∀ c ∈ rest.head?, endsWord c = true) →
      tokensFrom offset (e.typed s ++ rest) = (tokensFrom (offset + byteLength (e.typed s)) rest).map
        (⟨.word (String.ofList (e.typed s)), offset⟩ :: ·) ∧
      wordExpr offset (String.ofList (e.typed s)) = .ok (.ident (String.ofList (e.typed s)))) ∧
    (∀ q : Query, q.source.Valid → ClauseText.KeywordFree q.source.render → (∀ n, q.limit = some n → n < wordLimit) →
      (q.selection = .all ∨ q.selection = .only [e.item s]) →
      (q.filter = none ∨ q.filter = some (String.ofList (e.typed s))) →
      (q.orderBy = [] ∨ ∃ descending, q.orderBy = [⟨e.item s, descending⟩]) → Query.parse .builtin q.render = .ok q) ∧
    Predicate.parse (String.ofList (e.typed s)) =
      .ok ⟨String.ofList (e.typed s), .ident (String.ofList (e.typed s))⟩ ∧
    ∀ (doc metadata : Json) (entries : List (String × Json)), doc.field? "metadata" = some metadata →
      metadata.field? e.map.name = some (.object entries) →
      e.field.value doc = .ok (reading (Json.lookup (String.ofList e.key.text) entries)) :=
  ⟨e.parseSelectItem_typed s,
    fun _ hselected => ⟨e.exists_parseOrderItem_typed s hselected, e.fieldOf_typed s hselected⟩,
    fun offset _ hrest => ⟨e.tokensFrom_typed s hrest offset, e.wordExpr_typed s offset⟩,
    fun _ hsource hfrom hlimit hselect hfilter horder =>
      e.parse_render_typed s hsource hfrom hlimit ⟨hselect, hfilter, horder⟩,
    e.parse_condition_typed s, fun _ _ _ hmetadata hentries => e.value_field hmetadata hentries⟩

/-- A key with dots and a slash. -/
def applicationName : MetadataEntry :=
  ⟨.labels, ⟨"app.kubernetes.io/name".toList, by decide, by decide, by decide⟩⟩

theorem typed_means_field_of_applicationName :
    Query.parse .builtin ("SELECT * FROM pods WHERE labels['app.kubernetes.io/name'] " ++
      "ORDER BY labels['app.kubernetes.io/name'] DESC").toList =
        .ok ⟨.all, ⟨"pods", .current⟩, some (String.ofList (applicationName.typed .singleQuoted)),
          [⟨applicationName.item .singleQuoted, true⟩], none⟩ ∧
    Bindings.fieldOf .builtin [] "labels.app.kubernetes.io/name" = .ok applicationName.field ∧
    tokens ("labels.app.kubernetes.io/name".toList ++ "='web'".toList) = .ok [⟨.word "labels.app.kubernetes.io/name", 0⟩,
      ⟨.symbol .eq, 29⟩, ⟨.text "web", 30⟩] ∧
    applicationName.field.value (.object [("metadata", .object [("labels", .object [("app.kubernetes.io/name", .string "")])])]) =
      .ok (some (.bool true)) := by
  obtain ⟨-, -, -, hquery, -, -⟩ := typed_means_field applicationName .singleQuoted
  obtain ⟨-, hselected, htokens, -, -, hvalue⟩ := typed_means_field applicationName .dotted
  have htyped : applicationName.typed .dotted = "labels.app.kubernetes.io/name".toList := by decide +kernel
  refine ⟨?_, ?_, ?_, (hvalue _ _ _ rfl rfl).trans rfl⟩
  · let q : Query := ⟨.all, ⟨"pods", .current⟩, some (String.ofList (applicationName.typed .singleQuoted)),
      [⟨applicationName.item .singleQuoted, true⟩], none⟩
    have hpods : ClauseText.KeywordFree "pods".toList :=
      ⟨[.word "pods".toList], by decide +kernel, ClauseText.noClause_iff.mpr (by decide +kernel)⟩
    have hsource : Query.parseSource "pods".toList = .ok ⟨"pods", .current⟩ := by decide +kernel
    have hread : Query.parse .builtin q.render = .ok q := hquery q (Query.parseSource_eq_ok_iff.mp hsource).1 hpods
      (fun _ hn => nomatch hn) (.inl rfl) (.inr rfl) (.inr ⟨true, rfl⟩)
    have htext : q.render = ("SELECT * FROM pods WHERE labels['app.kubernetes.io/name'] " ++
      "ORDER BY labels['app.kubernetes.io/name'] DESC").toList := by decide +kernel
    rw [htext] at hread
    exact hread
  · have hfield := (hselected [] fun _ hi => nomatch hi).2
    rw [htyped, String.ofList_toList] at hfield
    exact hfield
  · have hcut := (htokens 0 "='web'".toList (by decide +kernel)).1
    have hlength : 0 + byteLength "labels.app.kubernetes.io/name".toList = 29 := by decide +kernel
    have hrest : tokensFrom 29 "='web'".toList = .ok [⟨.symbol .eq, 29⟩, ⟨.text "web", 30⟩] := by decide +kernel
    rw [htyped, String.ofList_toList, hlength, hrest] at hcut
    exact hcut

end MetadataEntry

end ClusterQuery
