import ClusterQuery.Proofs.Query.MetadataMap

/-! Fields typed as one word without quotes and brackets, alone or in a call of a reducer. Such a word is read under the
    built-in aliases if it is keys with dots between them or an entry of a metadata map, and in no other case. -/

namespace ClusterQuery

/-- A text without blanks, quotes, brackets and parentheses. -/
def Bare (cs : List Char) : Prop := ∀ c ∈ cs, isBlank c = false ∧ c ∉ Brackets.marks

instance (cs : List Char) : Decidable (Bare cs) := inferInstanceAs (Decidable (∀ c ∈ cs, isBlank c = false ∧ c ∉ Brackets.marks))

/-- Keys with dots between them, or the name of a metadata map, a dot and a key of the map; the dots around it do not
    count. -/
def IsPathText (cs : List Char) : Prop :=
  (∀ key ∈ splitOn '.' (AliasTable.trimName cs), Path.IsKeyText key) ∨
    ∃ m : MetadataMap, ∃ key, key ≠ [] ∧ AliasTable.trimName cs = m.name.toList ++ '.' :: key

namespace Bare

variable {cs : List Char}

theorem ne_parenthesis (h : Bare cs) : ∀ c ∈ cs, isBlank c = false ∧ c ≠ '(' ∧ c ≠ ')' := fun c hc => by
  obtain ⟨hblank, hmark⟩ := h c hc
  refine ⟨hblank, ?_, ?_⟩ <;> rintro rfl <;> exact hmark (by decide)

theorem openless (h : Bare cs) : '(' ∉ cs := fun hmem => (h.ne_parenthesis _ hmem).2.1 rfl

theorem trimmed (h : Bare cs) : Trimmed cs := trimmed_of_not_blank fun c hc => (h c hc).1

theorem balanced (h : Bare cs) : Balanced cs := balanced_of_ne fun c hc => (h.ne_parenthesis c hc).2

theorem closed (h : Bare cs) : Nesting.Closed .ofWords cs :=
  Nesting.closed_of_plain fun c hc => (Brackets.isPlain_of_not_mem_marks (h c hc).2).1

theorem trimName (h : Bare cs) : Bare (AliasTable.trimName cs) := fun c hc => h c (AliasTable.mem_of_mem_trimName hc)

/-- A bare text is the text of a path if it is keys with dots between them. -/
theorem exists_parse_path_iff (h : Bare cs) : (∃ p, Path.parse cs = .ok p) ↔ ∀ key ∈ splitOn '.' cs, Path.IsKeyText key := by
  have hsplit : splitTopLevel '.' cs = some (splitOn '.' cs) :=
    splitTopLevel_of_plain Path.isPlain_dot fun c hc => (Brackets.isPlain_of_not_mem_marks (h c hc).2).2
  -- No key of a bare text has a subscript.
  have hsegment : ∀ key ∈ splitOn '.' cs, ∀ part, Path.segment key = .ok part ↔
      Path.IsKeyText key ∧ part = [Path.keyStep key] := by
    intro key hkey part
    have hopen : ∀ c ∈ key, (c != '[') = true := fun c hc => bne_iff_ne.mpr <| by
      rintro rfl
      exact (h _ (mem_of_mem_splitOn hkey hc).1).2 (by decide)
    rw [Path.segment_eq_ok_iff, List.takeWhile_eq_self_iff.mpr hopen, List.dropWhile_eq_nil_iff.mpr hopen, Path.subscripts]
    simp
  constructor
  · rintro ⟨p, hp⟩ key hkey
    obtain ⟨-, pieces, hpieces, hparts⟩ := Path.parse_eq_ok_iff.mp hp
    rw [trim_eq_self h.trimmed, hsplit] at hpieces
    cases hpieces
    obtain ⟨parts, hparts, -⟩ := Path.segments_eq_ok_iff.mp hparts
    obtain ⟨part, -, hpart⟩ := hparts.flip.exists_of_mem_right hkey
    exact ((hsegment key hkey part).mp hpart).1
  · intro hkeys
    refine ⟨⟨((splitOn '.' cs).map fun key => [Path.keyStep key]).flatten⟩, Path.parse_eq_ok_iff.mpr ?_⟩
    rw [trim_eq_self h.trimmed]
    refine ⟨?_, _, hsplit, Path.segments_eq_ok_iff.mpr ⟨_, ?_, rfl⟩⟩
    · rintro rfl
      exact (hkeys [] List.mem_cons_self).1 rfl
    · rw [List.forall₂_map_right_iff, List.forall₂_same]
      exact fun key hkey => (hsegment key hkey _).mpr ⟨hkeys key hkey, rfl⟩

/-- A bare name stands for a path if it is keys with dots between them or an entry of a metadata map. -/
theorem exists_parse_resolveName_iff (h : Bare cs) : (∃ p, Path.parse (AliasTable.builtin.resolveName cs []) = .ok p) ↔
    (∀ key ∈ splitOn '.' cs, Path.IsKeyText key) ∨ ∃ m : MetadataMap, ∃ key, key ≠ [] ∧ cs = m.name.toList ++ '.' :: key := by
  cases hget : AliasTable.builtin.get? (String.ofList cs) with
  | some target =>
    -- Names of aliases are keys, and what they stand for are paths: checked one by one.
    have hentries : ∀ b ∈ AliasTable.builtin.entries, (∀ key ∈ splitOn '.' b.1.toList, Path.IsKeyText key) ∧
        (Path.parse (b.2.toList ++ [])).toBool = true := by decide +kernel
    obtain ⟨hkeys, hparse⟩ := hentries _ (Dictionary.mem_of_get? hget)
    rw [String.toList_ofList] at hkeys
    refine iff_of_true ?_ (.inl hkeys)
    rw [AliasTable.resolveName, hget]
    cases hp : Path.parse (target.toList ++ []) with
    | ok p => exact ⟨p, rfl⟩
    | error e =>
      rw [hp] at hparse
      cases hparse
  | none =>
    cases hentry : AliasTable.mapEntry? cs with
    | some entry =>
      obtain ⟨m, rfl, -, hne⟩ := MetadataMap.mapEntry?_eq_some_iff.mp hentry
      have hquote : '"' ∉ entry.2 := fun hmem =>
        (h _ (List.mem_append_right _ (List.mem_cons_of_mem _ hmem))).2 (by decide)
      refine iff_of_true ?_ (.inr ⟨m, _, hne, rfl⟩)
      rw [m.resolveName_key hne]
      exact ⟨_, m.parse_pathText rfl hquote hne⟩
    | none =>
      have hnot : ¬∃ m : MetadataMap, ∃ key, key ≠ [] ∧ cs = m.name.toList ++ '.' :: key := by
        rintro ⟨m, key, hne, hcs⟩
        rw [MetadataMap.mapEntry?_eq_some_iff.mpr ⟨m, hcs, rfl, hne⟩] at hentry
        cases hentry
      have hname : AliasTable.builtin.resolveName cs [] = cs := by
        rw [AliasTable.resolveName, hget]
        dsimp only
        rw [hentry]
        exact List.append_nil cs
      rw [hname, or_iff_left hnot, h.exists_parse_path_iff]

/-- A bare text stands for a path if it is the text of one. -/
theorem exists_parse_resolve_iff (h : Bare cs) :
    (∃ p, Path.parse (AliasTable.builtin.resolve cs) = .ok p) ↔ IsPathText cs := by
  have hopen : ∀ c ∈ cs, (c != '[') = true := fun c hc => bne_iff_ne.mpr <| by
    rintro rfl
    exact (h _ hc).2 (by decide)
  have hcall : splitCall (trim cs) = none := by
    rw [trim_eq_self h.trimmed]
    exact splitCall_eq_none h.openless
  rw [AliasTable.resolve_of_splitCall_eq_none hcall, trim_eq_self h.trimmed, List.takeWhile_eq_self_iff.mpr hopen,
    List.dropWhile_eq_nil_iff.mpr hopen]
  exact h.trimName.exists_parse_resolveName_iff

end Bare

theorem IsPathText.ne_nil {cs : List Char} (h : IsPathText cs) : cs ≠ [] := by
  rintro rfl
  rcases h with hkeys | ⟨m, key, -, he⟩
  · exact (hkeys [] List.mem_cons_self).1 rfl
  · exact List.append_ne_nil_of_right_ne_nil _ (List.cons_ne_nil _ _) he.symm

/-- Letters, digits and underscores are one key. -/
theorem isPathText_of_isTitleChar {cs : List Char} (hne : cs ≠ []) (h : ∀ c ∈ cs, isTitleChar c = true) : IsPathText cs := by
  have hkey : ∀ {c}, isTitleChar c = true → c ∉ [' ', '.', ']', '['] ++ Path.invalidKeyChars := fun hc =>
    not_mem_of_all hc (by decide)
  simp only [List.mem_append, List.mem_cons, List.not_mem_nil, or_false, not_or] at hkey
  have hname : AliasTable.trimName cs = cs := AliasTable.trimName_eq_self
    (fun c hc => ⟨(hkey (h c (List.mem_of_mem_head? hc))).1.1, (hkey (h c (List.mem_of_mem_head? hc))).1.2.1⟩)
    fun c hc => ⟨(hkey (h c (List.mem_of_mem_getLast? hc))).1.1, (hkey (h c (List.mem_of_mem_getLast? hc))).1.2.1⟩
  refine .inl ?_
  rw [hname, splitOn_eq_self fun hmem => (hkey (h _ hmem)).1.2.1 rfl]
  refine List.forall_mem_singleton.mpr ⟨hne, fun c hc => ?_⟩
  obtain ⟨⟨-, -, hclose, hopen⟩, hvalid⟩ := hkey (h c hc)
  exact ⟨by simpa using hvalid, hclose, hopen⟩

namespace Field

variable {A : AliasTable} {cs name inner text : List Char} {f : Field} {r : Reducer}

/-! ### Bare texts -/

theorem eq_of_parse_bare (h : Bare cs) (hf : parse .builtin cs = .ok (f, text)) : text = cs :=
  ((parse_eq_ok_iff_of_bare h.ne_parenthesis (splitCall_eq_none (AliasTable.openless_resolve h.openless))).mp hf).2.2.2

theorem exists_parse_bare_iff (h : Bare cs) : (∃ f text, parse .builtin cs = .ok (f, text)) ↔ IsPathText cs := by
  have hread : ∀ {f text}, parse .builtin cs = .ok (f, text) ↔ _ :=
    parse_eq_ok_iff_of_bare h.ne_parenthesis (splitCall_eq_none (AliasTable.openless_resolve h.openless))
  constructor
  · rintro ⟨f, text, hf⟩
    exact h.exists_parse_resolve_iff.mp ⟨f.path, (hread.mp hf).2.2.1⟩
  · intro hpath
    obtain ⟨path, hp⟩ := h.exists_parse_resolve_iff.mpr hpath
    exact ⟨⟨path, none⟩, cs, hread.mpr ⟨hpath.ne_nil, rfl, hp, rfl⟩⟩

/-! ### Calls -/

theorem parse_ne_ok_of_call (hcall : splitCall (trim cs) = some (name, inner)) (hname : Reducer.named? name = none)
    (x : Field × List Char) : parse A cs ≠ .ok x := by
  intro hx
  obtain ⟨-, reducer, argument, hsplit, -⟩ := parse_eq_ok_iff.mp hx
  rw [splitReducer, hcall] at hsplit
  dsimp only at hsplit
  rw [readReducer, hname] at hsplit
  cases hsplit

/-- A call of a reducer is read if its argument stands for a path; the reducer is shown by its own name. -/
theorem parse_call_eq_ok_iff (hname : Reducer.named? name = some r) (htrimmed : Trimmed inner) (hbalanced : Balanced inner) :
    parse A (name ++ '(' :: (inner ++ [')'])) = .ok (f, text) ↔
      inner ≠ [] ∧ f.reducer = some r ∧ Path.parse (A.resolve inner) = .ok f.path ∧ text = callText (some r) inner := by
  have hchars := isTitleChar_of_named? hname
  have hne : name ≠ [] := by
    rintro rfl
    cases hname
  have htrim : trim (name ++ '(' :: (inner ++ [')'])) = name ++ '(' :: (inner ++ [')']) :=
    trim_eq_self (trimmed_call hne hchars inner)
  have hsplit : splitReducer (name ++ '(' :: (inner ++ [')'])) = .ok (some r, inner) := by
    rw [splitReducer, splitCall_callText hne hchars]
    dsimp only
    rw [readReducer, hname, trim_eq_self htrimmed]
    rfl
  have htarget : target A (some r) inner = .ok (some r, A.resolve inner) := by
    unfold target
    cases splitCall (A.resolve inner) <;> rfl
  have hcount := (typed_of_splitReducer hsplit).balanced_iff.mpr hbalanced
  exact parse_eq_ok_iff_of_splitReducer (by rw [htrim]; exact hcount) (by rw [htrim, hsplit]) htarget

/-- A call of a reducer with a bare argument is read if the argument is the text of a path. -/
theorem exists_parse_call_iff (hname : Reducer.named? name = some r) (h : Bare inner) :
    (∃ f text, parse .builtin (name ++ '(' :: (inner ++ [')'])) = .ok (f, text)) ↔ IsPathText inner := by
  have hread : ∀ {f text}, parse .builtin (name ++ '(' :: (inner ++ [')'])) = .ok (f, text) ↔ _ :=
    parse_call_eq_ok_iff hname h.trimmed h.balanced
  constructor
  · rintro ⟨f, text, hf⟩
    exact h.exists_parse_resolve_iff.mp ⟨f.path, (hread.mp hf).2.2.1⟩
  · intro hpath
    obtain ⟨path, hp⟩ := h.exists_parse_resolve_iff.mpr hpath
    exact ⟨⟨path, some r⟩, _, hread.mpr ⟨hpath.ne_nil, rfl, hp, rfl⟩⟩

end Field

end ClusterQuery
