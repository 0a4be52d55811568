import ClusterQuery.Proofs.Query.Fields
import ClusterQuery.Proofs.Query.Words

/-! Words that stand for paths, alone or in a call of a reducer. Such a text is one word in a list, and it is read as the
    field with the path and the reducer if it has as many opening as closing parentheses; these are counted wherever they
    stand. No other field has such a text in normal form. -/

namespace ClusterQuery

open Nesting

variable {A : AliasTable} {p : Path} {r : Reducer} {reducer : Option Reducer} {cs as bs inner argument text : List Char}

/-! ### Balanced texts -/

/-- A text with as many opening as closing parentheses. -/
def Balanced (cs : List Char) : Prop := cs.count '(' = cs.count ')'

instance (cs : List Char) : Decidable (Balanced cs) := inferInstanceAs (Decidable (_ = _))

theorem Balanced.append (ha : Balanced as) (hb : Balanced bs) : Balanced (as ++ bs) := by
  rw [Balanced, List.count_append, List.count_append, ha, hb]

theorem balanced_of_ne (h : ∀ c ∈ cs, c ≠ '(' ∧ c ≠ ')') : Balanced cs := by
  rw [Balanced, List.count_eq_zero.mpr fun hmem => (h _ hmem).1 rfl, List.count_eq_zero.mpr fun hmem => (h _ hmem).2 rfl]

/-- A balanced beginning does not count. -/
theorem balanced_append_iff (ha : Balanced as) : Balanced (as ++ bs) ↔ Balanced bs := by
  rw [Balanced] at ha
  simp only [Balanced, List.count_append, ha, Nat.add_left_cancel_iff]

/-- A pair of parentheses around a text does not count. -/
theorem balanced_parentheses_iff : Balanced ('(' :: (inner ++ [')'])) ↔ Balanced inner := by
  simp [Balanced, List.count_append]

theorem count_trim {c : Char} (hc : isBlank c = false) (cs : List Char) : (trim cs).count c = cs.count c := by
  have hnone : ∀ {ds : List Char}, Blanks ds → ds.count c = 0 := fun hds => List.count_eq_zero.mpr fun hmem => by
    rw [hds c hmem] at hc
    cases hc
  obtain ⟨as, bs, ha, hb, hcs⟩ := exists_trim cs
  conv_rhs => rw [hcs]
  rw [List.count_append, List.count_append, hnone ha, hnone hb, Nat.zero_add, Nat.add_zero]

theorem mem_trim {c : Char} (h : c ∈ cs) (hc : isBlank c = false) : c ∈ trim cs := by
  rw [← List.count_pos_iff, count_trim hc]
  exact List.count_pos_iff.mpr h

theorem balanced_trim_iff : Balanced (trim cs) ↔ Balanced cs := by
  rw [Balanced, count_trim rfl, count_trim rfl, Balanced]

/-! ### Texts that are no calls -/

theorem mem_of_append_cons_eq {ds : List Char} {c d : Char} (h : as ++ c :: bs = cs ++ d :: ds) (hne : c ≠ d) (hd : d ∉ as) :
    c ∈ cs := by
  rcases List.append_eq_append_iff.mp h with ⟨es, rfl, hrest⟩ | ⟨es, rfl, hrest⟩
  · cases es with
    | nil => exact (hne (List.cons.inj hrest).1).elim
    | cons e es =>
      rw [(List.cons.inj hrest).1]
      exact List.mem_append_right _ List.mem_cons_self
  · cases es with
    | nil => exact (hne (List.cons.inj hrest).1.symm).elim
    | cons e es =>
      rw [(List.cons.inj hrest).1] at hd
      exact (hd (List.mem_append_right _ List.mem_cons_self)).elim

/-- What stands before a parenthesis or a blank in a text that has none in front of its first bracket holds the bracket. -/
theorem open_mem_of_append_eq {base rest : List Char} {d : Char} (hbase : d ∉ base) (hrest : ∀ c ∈ rest.head?, c = '[')
    (hd : d ≠ '[') (h : base ++ rest = cs ++ d :: bs) : '[' ∈ cs := by
  cases rest with
  | nil =>
    rw [List.append_nil] at h
    exact (hbase (h ▸ List.mem_append_right _ List.mem_cons_self)).elim
  | cons c rest =>
    rw [hrest c rfl] at h
    exact mem_of_append_cons_eq h hd.symm hbase

/-- A text without a parenthesis in front of its first bracket is no call. -/
theorem splitCall_of_base {base rest : List Char} (hbase : '(' ∉ base) (hrest : ∀ c ∈ rest.head?, c = '[') :
    splitCall (base ++ rest) = none := Option.eq_none_iff_forall_not_mem.mpr fun ⟨name, inner⟩ h => by
  obtain ⟨front, htext, -, htrim, -, hchars⟩ := splitCall_eq_some h
  have hopen := open_mem_of_append_eq hbase hrest (by decide) htext
  cases hchars _ (htrim ▸ mem_trim hopen rfl)

namespace Field

/-- A text without a parenthesis and a blank in front of its first bracket has no reducer. -/
theorem splitReducer_of_base {base rest : List Char} (hbase : ∀ c ∈ base, isBlank c = false ∧ c ≠ '(')
    (hrest : ∀ c ∈ rest.head?, c = '[') : splitReducer (base ++ rest) = .ok (none, base ++ rest) := by
  rw [splitReducer, splitCall_of_base (fun hmem => (hbase _ hmem).2 rfl) hrest]
  dsimp only
  cases hfirst : splitFirst isBlank (base ++ rest) with
  | none => rfl
  | some found =>
    obtain ⟨first, more⟩ := found
    obtain ⟨c, hc, htext, -⟩ := splitFirst_eq_some hfirst
    have hnot : c ∉ base := fun hmem => by
      rw [(hbase c hmem).1] at hc
      cases hc
    have hopen := open_mem_of_append_eq hnot hrest (by rintro rfl; cases hc) htext
    have hnamed : Reducer.named? first = none := Option.eq_none_iff_forall_not_mem.mpr fun r hr => by
      cases isTitleChar_of_named? hr _ hopen
    dsimp only
    rw [hnamed]

theorem ne_parenthesis_of_front {c : Char} (h : isBlank c = true ∨ isTitleChar c = true) : c ≠ '(' ∧ c ≠ ')' := by
  constructor <;> rintro rfl <;> rcases h with h | h <;> cases h

/-- A text with a reducer is balanced if its argument is. -/
theorem Typed.balanced_iff (h : Typed cs reducer argument) : Balanced cs ↔ Balanced argument := by
  cases h with
  | path => rfl
  | call hfront _ _ =>
    rw [balanced_append_iff (balanced_of_ne fun c hc => ne_parenthesis_of_front (hfront c hc)), balanced_parentheses_iff,
      balanced_trim_iff]
  | @word first rest c r hfirst hc hr =>
    have hblank : Balanced [c] := balanced_of_ne (List.forall_mem_singleton.mpr (ne_parenthesis_of_front (.inl hc)))
    rw [balanced_append_iff (balanced_of_ne fun d hd => ne_parenthesis_of_front (.inr (hfirst d hd))), ← List.singleton_append,
      balanced_append_iff hblank, balanced_trim_iff]

theorem Typed.trimmed (h : Typed cs reducer argument) (hcs : Trimmed cs) : Trimmed argument := by
  cases h with
  | path => exact hcs
  | call => exact trimmed_trim _
  | word => exact trimmed_trim _

/-! ### Calls of reducers -/

/-- A call may have blanks around its name. -/
theorem splitCall_of_front {front inner : List Char} (hopen : '(' ∉ front) (hne : trim front ≠ [])
    (hname : ∀ c ∈ trim front, isTitleChar c = true) : splitCall (front ++ '(' :: (inner ++ [')'])) = some (trim front, inner) := by
  have hparen : ∀ c ∈ front, (c != '(') = true := fun c hc => bne_iff_ne.mpr fun he => hopen (he ▸ hc)
  have hall : ((trim front).all fun c => isAsciiAlphanumeric c || c == '_') = true := List.all_eq_true.mpr hname
  have hempty : (trim front).isEmpty = false := List.isEmpty_eq_false_iff.mpr hne
  have hdrop : (front ++ '(' :: (inner ++ [')'])).dropWhile (· != '(') = '(' :: (inner ++ [')']) :=
    List.dropWhile_append_of_pos hparen
  have htake : (front ++ '(' :: (inner ++ [')'])).takeWhile (· != '(') = front := by
    rw [List.takeWhile_append_of_pos hparen]
    exact List.append_nil front
  rw [splitCall, hdrop]
  dsimp only
  rw [htake, hall, hempty, dropLast?_eq_some_iff.mpr rfl]
  rfl

theorem splitCall_callText {name inner : List Char} (hne : name ≠ []) (hname : ∀ c ∈ name, isTitleChar c = true) :
    splitCall (name ++ '(' :: (inner ++ [')'])) = some (name, inner) := by
  have htrim : trim name = name := trim_eq_self (trimmed_of_not_blank fun c hc => isBlank_of_isTitleChar (hname c hc))
  have hopen : '(' ∉ name := fun hmem => by cases hname _ hmem
  have hcall : splitCall (name ++ '(' :: (inner ++ [')'])) = some (trim name, inner) :=
    splitCall_of_front hopen (by rwa [htrim]) (by rwa [htrim])
  rwa [htrim] at hcall

theorem named?_name (r : Reducer) : Reducer.named? r.name.toList = some r := by
  cases r <;> decide

theorem splitReducer_call (r : Reducer) (argument : List Char) :
    splitReducer (callText (some r) argument) = .ok (some r, trim argument) := by
  rw [callText_some, splitReducer, splitCall_callText (name_ne_nil r) (isTitleChar_of_mem_name r)]
  dsimp only
  rw [readReducer, named?_name]
  rfl

/-- A call is shown with its reducer and its argument apart. -/
theorem splitReducer_callText (hargument : splitReducer argument = .ok (none, argument)) (htrimmed : Trimmed argument) :
    splitReducer (callText reducer argument) = .ok (reducer, argument) := by
  cases reducer with
  | none => exact hargument
  | some r => rw [splitReducer_call, trim_eq_self htrimmed]

theorem isWord_callText (reducer : Option Reducer) (h : Piece.IsWord argument) : Piece.IsWord (callText reducer argument) := by
  cases reducer with
  | none => exact h
  | some r =>
    have hname := isTitleChar_of_mem_name r
    have hclose : Leads .ofWords isBlank ⟨1, none⟩ [')'] :=
      .cons (fun hout => nomatch congrArg Nesting.depth hout) rfl .nil
    have hcall : Leads .ofWords isBlank outside ('(' :: (argument ++ [')'])) :=
      .cons (fun _ => rfl) rfl (h.2.deeper rfl hclose)
    rw [callText_some]
    refine ⟨List.append_ne_nil_of_right_ne_nil _ (List.cons_ne_nil _ _), Leads.append (leads_of_plain fun c hc => ?_) hcall⟩
    exact ⟨(isPlain_of_isTitleChar (hname c hc)).1, isBlank_of_isTitleChar (hname c hc)⟩

theorem solid_callText (reducer : Option Reducer) (hclosed : Closed .ofWords argument) (h : Solid ',' argument) :
    Solid ',' (callText reducer argument) := by
  cases reducer with
  | none => exact h
  | some r => exact (itemText_call r (inCall_of_closed hclosed) h).solid

theorem trimmed_of_parse {f : Field} (h : parse A cs = .ok (f, text)) : Trimmed text := by
  obtain ⟨-, reducer, argument, hsplit, -, pathText, htarget, -, rfl⟩ := parse_eq_ok_iff.mp h
  cases hr : f.reducer with
  | some r => exact trimmed_callText_some r argument
  | none =>
    obtain rfl := eq_none_of_target (hr ▸ htarget)
    rw [callText, (typed_of_splitReducer hsplit).eq_of_none]
    exact trimmed_trim cs

/-- The text in normal form holds the reducer of the field and the argument that its path is read from. -/
theorem exists_argument_of_parse {f : Field} (h : parse A cs = .ok (f, text)) :
    ∃ argument, splitReducer text = .ok (f.reducer, argument) ∧ Balanced argument ∧
      ∃ reducer pathText, target A reducer argument = .ok (f.reducer, pathText) ∧ Path.parse pathText = .ok f.path := by
  obtain ⟨hcount, reducer, argument, hsplit, -, pathText, htarget, hpath, rfl⟩ := parse_eq_ok_iff.mp h
  have htyped := typed_of_splitReducer hsplit
  refine ⟨argument, ?_, htyped.balanced_iff.mp hcount, reducer, pathText, htarget, hpath⟩
  cases hr : f.reducer with
  | some r => rw [splitReducer_call, trim_eq_self (htyped.trimmed (trimmed_trim cs))]
  | none =>
    obtain rfl := eq_none_of_target (hr ▸ htarget)
    obtain rfl := htyped.eq_of_none
    exact hsplit

theorem parse_of_not_balanced (h : ¬Balanced (trim cs)) :
    parse A cs = malformed (.unbalancedParens (String.ofList (trim cs))) := by
  have hcount : (trim cs).count '(' ≠ (trim cs).count ')' := h
  unfold parse
  dsimp only
  rw [if_pos hcount]
  rfl

end Field

/-! ### Words that stand for paths -/

/-- One word without a reducer that stands for a path under some aliases. -/
structure PathWord (A : AliasTable) (p : Path) (cs : List Char) : Prop where
  isWord : Piece.IsWord cs
  solid : Solid ',' cs
  whole : Field.splitReducer cs = .ok (none, cs)
  resolved : splitCall (A.resolve cs) = none
  parse : Path.parse (A.resolve cs) = .ok p

namespace PathWord

theorem target_eq (h : PathWord A p cs) (reducer : Option Reducer) :
    Field.target A reducer cs = .ok (reducer, A.resolve cs) := by
  unfold Field.target
  rw [h.resolved]

theorem splitReducer_callText (h : PathWord A p cs) (reducer : Option Reducer) :
    Field.splitReducer (Field.callText reducer cs) = .ok (reducer, cs) := Field.splitReducer_callText h.whole h.isWord.trimmed

theorem trim_callText (h : PathWord A p cs) (reducer : Option Reducer) :
    trim (Field.callText reducer cs) = Field.callText reducer cs :=
  trim_eq_self (Field.isWord_callText reducer h.isWord).trimmed

/-- With a reducer or without, the word is read as a field if its parentheses are balanced. -/
theorem parse_callText (h : PathWord A p cs) (reducer : Option Reducer) :
    Field.parse A (Field.callText reducer cs) =
      if Balanced cs then .ok (⟨p, reducer⟩, Field.callText reducer cs)
      else malformed (.unbalancedParens (String.ofList (Field.callText reducer cs))) := by
  have hsplit := h.splitReducer_callText reducer
  have htrim := h.trim_callText reducer
  have hbalanced := (Field.typed_of_splitReducer hsplit).balanced_iff
  by_cases hcs : Balanced cs
  · rw [if_pos hcs]
    refine (Field.parse_eq_ok_iff_of_splitReducer ?_ (by rw [htrim, hsplit]) (h.target_eq reducer)).mpr ?_
    · rw [htrim]
      exact hbalanced.mpr hcs
    · exact ⟨h.isWord.1, rfl, h.parse, rfl⟩
  · rw [if_neg hcs, Field.parse_of_not_balanced (by rw [htrim]; exact fun hall => hcs (hbalanced.mp hall)), htrim]

/-- A field whose text in normal form is the word, with a reducer or without, has the path that the word stands for. -/
theorem eq_of_parse (h : PathWord A p cs) {typed : List Char} {f : Field}
    (hf : Field.parse A typed = .ok (f, Field.callText reducer cs)) : f = ⟨p, reducer⟩ ∧ Balanced cs := by
  -- The reducer that is shown is the one of the word, and so is its argument.
  obtain ⟨argument, hsplit, hbalanced, found, pathText, htarget, hpath⟩ := Field.exists_argument_of_parse hf
  obtain ⟨hreducer, rfl⟩ := Prod.mk.inj (Except.ok.inj (hsplit.symm.trans (h.splitReducer_callText reducer)))
  rw [h.target_eq] at htarget
  obtain ⟨-, rfl⟩ := Prod.mk.inj (Except.ok.inj htarget)
  obtain ⟨path, shown⟩ := f
  cases hreducer
  rw [Except.ok.inj (h.parse.symm.trans hpath)]
  exact ⟨rfl, hbalanced⟩

end PathWord

end ClusterQuery
