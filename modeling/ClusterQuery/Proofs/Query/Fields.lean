import ClusterQuery.Proofs.Result
import ClusterQuery.Proofs.Text.Characters
import ClusterQuery.Proofs.Text.Split
import ClusterQuery.Proofs.Text.TopLevel
import ClusterQuery.Query.Field

/-! Fields as they are typed and as they are shown. A field is typed as a path, as a call of a reducer or as a
    reducer before a path; shown in normal form, it can stand in a list wherever the typed text could. -/

namespace ClusterQuery

open Nesting

/-- A text that can stand in a list: without blanks around it, its brackets and quotes closed, and no comma outside
    of them. -/
structure ItemText (cs : List Char) : Prop where
  ne_nil : cs ≠ []
  trimmed : Trimmed cs
  closed : Closed .ofWords cs
  solid : Solid ',' cs

theorem solid_trim {cs : List Char} (h : Solid ',' cs) : Solid ',' (trim cs) := by
  obtain ⟨as, bs, ha, hb, hcs⟩ := exists_trim cs
  rw [hcs] at h
  exact (h.of_append_left fun c hc => (isPlain_of_isBlank (ha c hc)).2).of_append_right sound_outside
    fun c hc => (isPlain_of_isBlank (hb c hc)).2

theorem closed_trim {cs : List Char} (h : Closed .ofWords cs) : Closed .ofWords (trim cs) := by
  obtain ⟨as, bs, ha, hb, hcs⟩ := exists_trim cs
  have hblanks : ∀ {ds : List Char}, Blanks ds → Closed .ofWords ds := fun hds =>
    closed_of_plain fun c hc => (isPlain_of_isBlank (hds c hc)).1
  rw [hcs] at h
  exact (h.of_append_left (hblanks ha)).of_append_right rfl (hblanks hb)

/-- A call is a name, maybe with blanks around it, and an argument in parentheses. -/
theorem splitCall_eq_some {cs name inner : List Char} (h : splitCall cs = some (name, inner)) :
    ∃ front, cs = front ++ '(' :: (inner ++ [')']) ∧ '(' ∉ front ∧ trim front = name ∧ name ≠ [] ∧
      ∀ c ∈ name, isTitleChar c = true := by
  unfold splitCall at h
  split at h
  · cases h
  · next c rest hrest =>
    dsimp only at h
    split at h
    · cases h
    · next hname =>
      obtain ⟨argument, hargument, he⟩ := Option.map_eq_some_iff.mp h
      cases he
      have hc : c = '(' := by
        have := head?_dropWhile_neg (· != '(') cs (by rw [hrest]; exact Option.mem_some_self c)
        simpa using this
      refine ⟨cs.takeWhile (· != '('), ?_, fun hmem => ?_, rfl, ?_, ?_⟩
      · rw [← dropLast?_eq_some_iff.mp hargument]
        have hsplit := (List.takeWhile_append_dropWhile (p := (· != '(')) (l := cs)).symm
        rwa [hrest, hc] at hsplit
      · exact absurd (List.mem_takeWhile_imp hmem) (by decide)
      · intro hnil
        simp [hnil] at hname
      · intro d hd
        have hall := (by simpa using hname : _ ∧ ∀ d ∈ trim (cs.takeWhile (· != '(')), _ → d = '_').2 d hd
        unfold isTitleChar
        cases halnum : isAsciiAlphanumeric d with
        | true => rfl
        | false => rw [hall halnum]; rfl

theorem splitCall_eq_none {cs : List Char} (h : '(' ∉ cs) : splitCall cs = none := by
  have hdrop : cs.dropWhile (· != '(') = [] := List.dropWhile_eq_nil_iff.mpr fun c hc =>
    bne_iff_ne.mpr fun he => h (he ▸ hc)
  rw [splitCall, hdrop]

theorem trimmed_call {name : List Char} (hne : name ≠ []) (hname : ∀ c ∈ name, isTitleChar c = true) (inner : List Char) :
    Trimmed (name ++ '(' :: (inner ++ [')'])) := by
  refine trimmed_append hne (List.cons_ne_nil _ _) (fun c hc => ?_) ?_
  · exact isBlank_of_isTitleChar (hname c (List.mem_of_mem_head? hc))
  · rw [← List.cons_append, List.getLast?_concat]
    rintro c ⟨⟩
    rfl

theorem lowerText_of_named? {cs : List Char} {r : Reducer} (h : Reducer.named? cs = some r) :
    lowerText cs = r.name.toList := by
  have key : ∀ {s : String}, String.ofList (lowerText cs) = s → lowerText cs = s.toList := fun hs => by
    rw [← String.toList_ofList (l := lowerText cs), hs]
  unfold Reducer.named? at h
  split at h
  · next heq => cases h; exact key heq
  · next heq => cases h; exact key heq
  · next heq => cases h; exact key heq
  · next heq => cases h; exact key heq
  · cases h

theorem isTitleChar_of_mem_name (r : Reducer) : ∀ c ∈ r.name.toList, isTitleChar c = true := by
  cases r <;> decide

theorem name_ne_nil (r : Reducer) : r.name.toList ≠ [] := by cases r <;> decide

theorem isTitleChar_of_named? {cs : List Char} {r : Reducer} (h : Reducer.named? cs = some r) :
    ∀ c ∈ cs, isTitleChar c = true := by
  intro c hc
  have hlower : lowerAscii c ∈ r.name.toList := by
    rw [← lowerText_of_named? h]
    exact List.mem_map_of_mem hc
  have hletters : ∀ d ∈ r.name.toList, isAsciiLetter d = true := by cases r <;> decide
  exact isTitleChar_of_isAsciiLetter (isAsciiLetter_of_lowerAscii (hletters _ hlower))

/-- A reader that refuses some texts and goes on with the others. -/
theorem unless_eq_ok_iff {p : Prop} [Decidable p] {e : SyntaxError} {α β : Type} {f : α → Except QueryError β}
    {x : Except QueryError β} {b : β} : (if p then malformed e >>= f else x) = .ok b ↔ ¬p ∧ x = .ok b := by
  by_cases h : p
  · rw [if_pos h]
    exact ⟨fun h => (nomatch h), fun hn => (hn.1 h).elim⟩
  · rw [if_neg h]
    exact (and_iff_right h).symm

namespace Field

/-- How a text holds a reducer and an argument. -/
inductive Typed : List Char → Option Reducer → List Char → Prop
  | call {front inner name : List Char} {r : Reducer} (hfront : ∀ c ∈ front, isBlank c = true ∨ isTitleChar c = true)
      (hname : trim front = name) (hr : Reducer.named? name = some r) :
      Typed (front ++ '(' :: (inner ++ [')'])) (some r) (trim inner)
  | word {first rest : List Char} {c : Char} {r : Reducer} (hfirst : ∀ c ∈ first, isTitleChar c = true)
      (hc : isBlank c = true) (hr : Reducer.named? first = some r) : Typed (first ++ c :: rest) (some r) (trim rest)
  | path {cs : List Char} : Typed cs none cs

theorem Typed.eq_of_none {cs argument : List Char} (h : Typed cs none argument) : argument = cs := by
  cases h
  rfl

theorem typed_of_splitReducer {cs argument : List Char} {reducer : Option Reducer}
    (h : splitReducer cs = .ok (reducer, argument)) : Typed cs reducer argument := by
  unfold splitReducer at h
  split at h
  · next name inner hcall =>
    obtain ⟨front, rfl, -, hname, -, hchars⟩ := splitCall_eq_some hcall
    obtain ⟨r, hr, he⟩ := Except.map_eq_ok_iff.mp h
    cases he
    have hnamed : Reducer.named? name = some r := by
      unfold readReducer at hr
      split at hr
      · next heq =>
        cases hr
        exact heq
      · cases hr
    refine .call (fun c hc => ?_) hname hnamed
    obtain ⟨as, bs, ha, hb, hfront⟩ := exists_trim front
    rw [hfront] at hc
    rcases List.mem_append.mp hc with hc | hc
    · exact .inl (ha c hc)
    · rcases List.mem_append.mp hc with hc | hc
      · exact .inr (hchars c (hname ▸ hc))
      · exact .inl (hb c hc)
  -- What is no call may have a reducer in front as a word.
  · split at h
    · next first rest hfirst =>
      obtain ⟨c, hc, rfl, -⟩ := splitFirst_eq_some hfirst
      split at h
      · next r hr =>
        cases h
        exact .word (isTitleChar_of_named? hr) hc hr
      · cases h
        exact .path
    · cases h
      exact .path

/-- The reducer and the text of the path that an argument stands for. -/
def target (A : AliasTable) (reducer : Option Reducer) (argument : List Char) :
    Except QueryError (Option Reducer × List Char) :=
  match splitCall (A.resolve argument), reducer with
  | some (name, inner), none => (readReducer name).map fun r => (some r, inner)
  | _, _ => .ok (reducer, A.resolve argument)

theorem target_keeps {A : AliasTable} {r : Reducer} {argument pathText : List Char} {reducer : Option Reducer}
    (h : target A (some r) argument = .ok (reducer, pathText)) : reducer = some r := by
  unfold target at h
  split at h
  · next heq => cases heq
  · cases h
    rfl

/-- A field without a reducer has none before its argument. -/
theorem eq_none_of_target {A : AliasTable} {argument pathText : List Char} {reducer : Option Reducer}
    (h : target A reducer argument = .ok (none, pathText)) : reducer = none := by
  cases reducer with
  | none => rfl
  | some r => cases target_keeps h

/-- The field with a reducer and a path that is still to be read. -/
def withPath (argument : List Char) (reducer : Option Reducer) (pathText : List Char) :
    Except QueryError (Field × List Char) :=
  match Path.parse pathText with
  | .ok path => .ok (⟨path, reducer⟩, callText reducer argument)
  | .error e => malformed (.invalidField (String.ofList argument) e)

theorem withPath_eq_ok_iff {argument pathText text : List Char} {reducer : Option Reducer} {f : Field} :
    withPath argument reducer pathText = .ok (f, text) ↔
      reducer = f.reducer ∧ Path.parse pathText = .ok f.path ∧ text = callText f.reducer argument := by
  obtain ⟨path, freducer⟩ := f
  unfold withPath
  cases Path.parse pathText with
  | error e =>
    constructor
    · intro h
      cases h
    · rintro ⟨-, hp, -⟩
      cases hp
  | ok p =>
    constructor
    · intro h
      cases h
      exact ⟨rfl, rfl, rfl⟩
    · rintro ⟨rfl, hp, rfl⟩
      cases hp
      rfl

theorem parse_eq_ok_iff {A : AliasTable} {cs text : List Char} {f : Field} :
    parse A cs = .ok (f, text) ↔ (trim cs).count '(' = (trim cs).count ')' ∧
      ∃ reducer argument, splitReducer (trim cs) = .ok (reducer, argument) ∧ argument ≠ [] ∧
        ∃ pathText, target A reducer argument = .ok (f.reducer, pathText) ∧ Path.parse pathText = .ok f.path ∧
          text = callText f.reducer argument := by
  unfold parse
  simp only [unless_eq_ok_iff, Except.bind_eq_ok_iff, not_not, Prod.exists, target]
  refine and_congr_right fun _ => exists_congr fun reducer => exists_congr fun argument => and_congr_right fun _ => ?_
  refine and_congr (by simp) ?_
  have hbind : ∀ {x : Except QueryError (Option Reducer × List Char)},
      (x >>= fun y => withPath argument y.1 y.2) = .ok (f, text) ↔
        ∃ pathText, x = .ok (f.reducer, pathText) ∧ Path.parse pathText = .ok f.path ∧
          text = callText f.reducer argument := by
    intro x
    rw [Except.bind_eq_ok_iff]
    constructor
    · rintro ⟨⟨reducer, pathText⟩, hx, h⟩
      obtain ⟨rfl, h⟩ := withPath_eq_ok_iff.mp h
      exact ⟨pathText, hx, h⟩
    · rintro ⟨pathText, hx, h⟩
      exact ⟨(f.reducer, pathText), hx, withPath_eq_ok_iff.mpr ⟨rfl, h⟩⟩
  cases splitCall (A.resolve argument) with
  | none => exact hbind
  | some call => cases reducer <;> exact hbind

/-- A text whose reducer and argument are known is read if the argument stands for a path. -/
theorem parse_eq_ok_iff_of_splitReducer {A : AliasTable} {cs argument text : List Char} {reducer : Option Reducer} {f : Field}
    (hcount : (trim cs).count '(' = (trim cs).count ')') (hsplit : splitReducer (trim cs) = .ok (reducer, argument))
    (htarget : target A reducer argument = .ok (reducer, A.resolve argument)) :
    parse A cs = .ok (f, text) ↔ argument ≠ [] ∧ f.reducer = reducer ∧ Path.parse (A.resolve argument) = .ok f.path ∧
      text = callText reducer argument := by
  rw [parse_eq_ok_iff, hsplit]
  constructor
  · rintro ⟨-, reducer, argument, he, hne, pathText, hpathText, hpath, htext⟩
    cases he
    rw [htarget] at hpathText
    obtain ⟨hr, rfl⟩ := Prod.mk.inj (Except.ok.inj hpathText)
    rw [← hr] at htext
    exact ⟨hne, hr.symm, hpath, htext⟩
  · rintro ⟨hne, rfl, hpath, rfl⟩
    exact ⟨hcount, _, _, rfl, hne, _, htarget, hpath, rfl⟩

/-- A word without parentheses is read as the path that it stands for, if that is not a call in turn. -/
theorem parse_eq_ok_iff_of_bare {A : AliasTable} {cs text : List Char} {f : Field}
    (h : ∀ c ∈ cs, isBlank c = false ∧ c ≠ '(' ∧ c ≠ ')') (hcall : splitCall (A.resolve cs) = none) :
    parse A cs = .ok (f, text) ↔ cs ≠ [] ∧ f.reducer = none ∧ Path.parse (A.resolve cs) = .ok f.path ∧ text = cs := by
  have htrim : trim cs = cs := trim_eq_self (trimmed_of_not_blank fun c hc => (h c hc).1)
  have hopen : cs.count '(' = 0 := List.count_eq_zero.mpr fun hmem => (h _ hmem).2.1 rfl
  have hclose : cs.count ')' = 0 := List.count_eq_zero.mpr fun hmem => (h _ hmem).2.2 rfl
  have hsplit : splitReducer cs = .ok (none, cs) := by
    have hblank : splitFirst isBlank cs = none := splitFirst_eq_none_iff.mpr fun c hc => (h c hc).1
    rw [splitReducer, splitCall_eq_none fun hmem => (h _ hmem).2.1 rfl, hblank]
  have htarget : target A none cs = .ok (none, A.resolve cs) := by
    unfold target
    rw [hcall]
  exact parse_eq_ok_iff_of_splitReducer (by rw [htrim, hopen, hclose]) (by rw [htrim, hsplit]) htarget

/-! ### The shown text -/

/-- An argument stays inside the parentheses of a call. -/
def InCall (argument : List Char) : Prop := run .ofWords ⟨1, none⟩ argument = some ⟨1, none⟩

theorem inCall_of_closed {argument : List Char} (h : Closed .ofWords argument) : InCall argument :=
  run_deeper rfl 1 h

theorem inCall_trim {inner : List Char} (h : InCall inner) : InCall (trim inner) := by
  obtain ⟨as, bs, ha, hb, hinner⟩ := exists_trim inner
  have hblanks : ∀ {cs : List Char}, Blanks cs → run .ofWords ⟨1, none⟩ cs = some ⟨1, none⟩ := fun hcs =>
    run_of_plain (sound_unquoted 1) fun c hc => (isPlain_of_isBlank (hcs c hc)).1
  rw [InCall, hinner, run_append, hblanks ha] at h
  obtain ⟨t, ht, h⟩ := run_of_append h
  -- The blanks after it show where the argument ended.
  rw [run_injective rfl (run_sound (sound_unquoted 1) ht) (sound_unquoted 1) h (hblanks hb)] at ht
  exact ht

/-- The argument of a call that is closed stays inside its parentheses. -/
theorem inCall_of_call {front inner : List Char} (hfront : ∀ c ∈ front, Brackets.ofWords.isPlain c = true)
    (h : Closed .ofWords (front ++ '(' :: (inner ++ [')']))) : InCall inner := by
  have h := h.of_append_left (closed_of_plain hfront)
  have hinner : run .ofWords ⟨1, none⟩ (inner ++ [')']) = some outside := h
  obtain ⟨t, ht, hclose⟩ := run_of_append hinner
  rw [run_injective rfl (run_sound (sound_unquoted 1) ht) (sound_unquoted 1) hclose rfl] at ht
  exact ht

theorem solid_of_call {front inner : List Char} (hfront : ∀ c ∈ front, Brackets.ofLists.isPlain c = true)
    (h : Solid ',' (front ++ '(' :: (inner ++ [')']))) : Solid ',' inner := by
  have hopen : ∀ c ∈ ['('], Brackets.ofLists.isPlain c = true := by decide
  have hclose : ∀ c ∈ [')'], Brackets.ofLists.isPlain c = true := by decide
  exact ((h.of_append_left hfront).of_append_left hopen).of_append_right sound_outside hclose

theorem isPlain_of_front {c : Char} (h : isBlank c = true ∨ isTitleChar c = true) :
    Brackets.ofWords.isPlain c = true ∧ Brackets.ofLists.isPlain c = true :=
  h.elim isPlain_of_isBlank isPlain_of_isTitleChar

/-- The argument of a typed text that can stand in a list. -/
theorem Typed.argument {cs argument : List Char} {reducer : Option Reducer} (h : Typed cs reducer argument)
    (hcs : ItemText cs) :
    InCall argument ∧ Solid ',' argument ∧ Trimmed argument ∧ (reducer = none → argument = cs) := by
  cases h with
  | path => exact ⟨inCall_of_closed hcs.closed, hcs.solid, hcs.trimmed, fun _ => rfl⟩
  | @call front inner name r hfront hname hr =>
    have hsolid := solid_of_call (fun c hc => (isPlain_of_front (hfront c hc)).2) hcs.solid
    have hinner := inCall_of_call (fun c hc => (isPlain_of_front (hfront c hc)).1) hcs.closed
    exact ⟨inCall_trim hinner, solid_trim hsolid, trimmed_trim _, fun h => nomatch h⟩
  | @word first rest c r hfirst hc hr =>
    have hplain : ∀ d ∈ first ++ [c], Brackets.ofWords.isPlain d = true ∧ Brackets.ofLists.isPlain d = true := by
      intro d hd
      rcases List.mem_append.mp hd with hd | hd
      · exact isPlain_of_isTitleChar (hfirst d hd)
      · cases List.mem_singleton.mp hd
        exact isPlain_of_isBlank hc
    have hsplit : first ++ c :: rest = (first ++ [c]) ++ rest := by simp
    have hsolid := hcs.solid
    have hclosed := hcs.closed
    rw [hsplit] at hsolid hclosed
    have hrest := hclosed.of_append_left (closed_of_plain fun d hd => (hplain d hd).1)
    exact ⟨inCall_of_closed (closed_trim hrest),
      solid_trim (hsolid.of_append_left fun d hd => (hplain d hd).2), trimmed_trim _, fun h => nomatch h⟩

theorem callText_some (r : Reducer) (argument : List Char) :
    callText (some r) argument = r.name.toList ++ '(' :: (argument ++ [')']) := List.append_assoc _ _ _

theorem trimmed_callText_some (r : Reducer) (argument : List Char) : Trimmed (callText (some r) argument) := by
  rw [callText_some]
  exact trimmed_call (name_ne_nil r) (isTitleChar_of_mem_name r) argument

theorem itemText_call (r : Reducer) {argument : List Char} (hin : InCall argument) (hsolid : Solid ',' argument) :
    ItemText (callText (some r) argument) := by
  have hname := isTitleChar_of_mem_name r
  refine ⟨by simp [callText], trimmed_callText_some r argument, ?_, ?_⟩
  · have hopen : run .ofWords outside (r.name.toList ++ ['(']) = some ⟨1, none⟩ :=
      run_trans (closed_of_plain fun c hc => (isPlain_of_isTitleChar (hname c hc)).1) rfl
    have := run_trans (run_trans hopen hin) (show run .ofWords ⟨1, none⟩ [')'] = some outside from rfl)
    simpa [callText, Closed] using this
  · have hplain : ∀ c ∈ r.name.toList ++ ['('], Brackets.ofLists.isPlain c = true ∧ (c == ',') = false := by
      cases r <;> decide
    have := ((leads_of_plain hplain).append hsolid).append
      (leads_of_plain (show ∀ c ∈ [')'], Brackets.ofLists.isPlain c = true ∧ (c == ',') = false by decide))
    simpa [callText, Solid] using this

/-- A field that is typed as an item of a list is shown as one. -/
theorem itemText_of_parse {A : AliasTable} {cs text : List Char} {f : Field} (h : parse A cs = .ok (f, text))
    (hcs : ItemText (trim cs)) : ItemText text := by
  obtain ⟨-, reducer, argument, hsplit, hne, pathText, htarget, -, rfl⟩ := parse_eq_ok_iff.mp h
  obtain ⟨hin, hsolid, htrimmed, hpath⟩ := (typed_of_splitReducer hsplit).argument hcs
  cases hr : f.reducer with
  | some r => exact itemText_call r hin hsolid
  | none =>
    rw [callText, hpath (eq_none_of_target (hr ▸ htarget))]
    exact hcs

/-- A text in normal form without a call is the text as typed. -/
theorem eq_trim_of_parse {A : AliasTable} {cs text : List Char} {f : Field} (h : parse A cs = .ok (f, text))
    (hopen : '(' ∉ text) : text = trim cs := by
  obtain ⟨-, reducer, argument, hsplit, -, pathText, htarget, -, rfl⟩ := parse_eq_ok_iff.mp h
  cases hr : f.reducer with
  | some r =>
    rw [hr] at hopen
    exact (hopen (by simp [callText])).elim
  | none =>
    obtain rfl := eq_none_of_target (hr ▸ htarget)
    exact (typed_of_splitReducer hsplit).eq_of_none

theorem star_of_parse {A : AliasTable} {cs : List Char} {f : Field} (h : parse A cs = .ok (f, ['*'])) :
    trim cs = ['*'] := (eq_trim_of_parse h (by decide)).symm

theorem parse_trim (A : AliasTable) (cs : List Char) : parse A (trim cs) = parse A cs := by
  unfold parse
  rw [trim_trim]

end Field

end ClusterQuery
