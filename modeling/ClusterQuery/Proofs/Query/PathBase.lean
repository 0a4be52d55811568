import ClusterQuery.Proofs.Path.RoundTrip
import ClusterQuery.Proofs.Query.Canonical

/-! What stands in front of the first bracket of the text of a path: keys with dots between them. It holds no parenthesis, so that
    the text is no call, and the canonical text of the path has the same keys there, but for the digits of numbers. Since a path is
    no call, an argument tells which text the path of its field is read from. -/

namespace ClusterQuery.Path

/-- A list of keys without dots in them. -/
structure KeyList (keys : List (List Char)) : Prop where
  ne_nil : keys ≠ []
  keys : ∀ key ∈ keys, IsKeyText key ∧ '.' ∉ key

/-- Keys with dots between them. -/
def IsKeys (cs : List Char) : Prop := ∃ keys, KeyList keys ∧ cs = joinWith ['.'] keys

/-- A character of a key. -/
def IsBaseChar (c : Char) : Prop := invalidKeyChars.contains c = false ∧ c ≠ '.'

theorem IsKeyText.isBaseChar {key : List Char} (hkey : IsKeyText key) (hdot : '.' ∉ key) : ∀ c ∈ key, IsBaseChar c :=
  fun c hc => ⟨(hkey.2 c hc).1, fun he => hdot (he ▸ hc)⟩

theorem IsBaseChar.ne_padding {c : Char} (h : IsBaseChar c) : c ≠ ' ' ∧ c ≠ '.' := by
  refine ⟨?_, h.2⟩
  rintro rfl
  cases h.1

namespace IsKeys

variable {cs key : List Char}

theorem chars (h : IsKeys cs) : ∀ c ∈ cs, c = '.' ∨ IsBaseChar c := by
  obtain ⟨keys, ⟨-, hkeys⟩, rfl⟩ := h
  induction keys with
  | nil => exact fun _ hc => nomatch hc
  | cons key keys ih =>
    obtain ⟨⟨hkey, hdot⟩, hkeys⟩ := List.forall_mem_cons.mp hkeys
    have hfirst : ∀ c ∈ key, c = '.' ∨ IsBaseChar c := fun c hc => .inr (hkey.isBaseChar hdot c hc)
    cases keys with
    | nil => exact hfirst
    | cons second keys =>
      rw [joinWith_cons_of_ne_nil (List.cons_ne_nil _ _), List.append_assoc]
      exact List.forall_mem_append.mpr ⟨hfirst, List.forall_mem_cons.mpr ⟨.inl rfl, ih hkeys⟩⟩

theorem head (h : IsKeys cs) : cs ≠ [] ∧ ∀ c ∈ cs.head?, IsBaseChar c := by
  obtain ⟨keys, ⟨hne, hkeys⟩, rfl⟩ := h
  cases keys with
  | nil => exact (hne rfl).elim
  | cons key keys =>
    obtain ⟨hkey, hdot⟩ := hkeys key List.mem_cons_self
    have hfirst : ∀ c ∈ key.head?, IsBaseChar c := fun c hc => hkey.isBaseChar hdot c (List.mem_of_mem_head? hc)
    cases keys with
    | nil => exact ⟨hkey.1, hfirst⟩
    | cons second keys =>
      rw [joinWith_cons_of_ne_nil (List.cons_ne_nil _ _), List.append_assoc, List.head?_append_of_ne_nil _ hkey.1]
      exact ⟨List.append_ne_nil_of_left_ne_nil hkey.1 _, hfirst⟩

theorem last (h : IsKeys cs) : ∀ c ∈ cs.getLast?, IsBaseChar c := by
  obtain ⟨keys, ⟨hne, hkeys⟩, rfl⟩ := h
  have hlast : keys.getLast hne ∈ keys.getLast? := List.getLast?_eq_some_getLast hne
  obtain ⟨hkey, hdot⟩ := hkeys _ (List.getLast_mem hne)
  rw [getLast?_joinWith hlast hkey.1]
  exact fun c hc => hkey.isBaseChar hdot c (List.mem_of_mem_getLast? hc)

theorem openless (h : IsKeys cs) : '(' ∉ cs := fun hmem => by
  rcases h.chars _ hmem with he | ⟨hvalid, -⟩
  · cases he
  · cases hvalid

theorem trimName_eq (h : IsKeys cs) : AliasTable.trimName cs = cs :=
  AliasTable.trimName_eq_self (fun c hc => (h.head.2 c hc).ne_padding) fun c hc => (h.last c hc).ne_padding

end IsKeys

variable {cs : List Char} {p : Path}

/-- How a key is printed: a number without zeros in front of it, and else as it is. -/
def printedKey (key : List Char) : List Char := stepText false (keyStep key)

theorem isKeyText_printedKey {key : List Char} (hkey : IsKeyText key) (hdot : '.' ∉ key) :
    IsKeyText (printedKey key) ∧ '.' ∉ printedKey key := by
  obtain ⟨hwell, hdotted⟩ := wellFormed_keyStep hkey hdot
  obtain ⟨hkey', hdot', -⟩ := isKeyText_of_readable (readable_of_isDotted hwell hdotted) hdotted
  exact ⟨hkey', hdot'⟩

theorem printedKey_eq_or (key : List Char) : printedKey key = key ∨ ∀ c ∈ printedKey key, isDigit c = true := by
  unfold printedKey keyStep
  split
  · next n _ => exact .inr fun c hc => isDigit_of_mem_toDigits hc
  · exact .inl String.toList_ofList

theorem KeyList.single {key : List Char} (hkey : IsKeyText key) (hdot : '.' ∉ key) : KeyList [key] :=
  ⟨List.cons_ne_nil _ _, List.forall_mem_singleton.mpr ⟨hkey, hdot⟩⟩

theorem KeyList.cons {key : List Char} {keys : List (List Char)} (hkey : IsKeyText key) (hdot : '.' ∉ key) (h : KeyList keys) :
    KeyList (key :: keys) :=
  ⟨List.cons_ne_nil _ _, List.forall_mem_cons.mpr ⟨⟨hkey, hdot⟩, h.keys⟩⟩

theorem takeWhile_key_append {key : List Char} (hkey : IsKeyText key) (rest : List Char) :
    (key ++ rest).takeWhile (· != '[') = key ++ rest.takeWhile (· != '[') :=
  List.takeWhile_append_of_pos fun c hc => bne_iff_ne.mpr (hkey.2 c hc).2.2

theorem exists_joinWith_cons_append (as bs : List Char) (pieces : List (List Char)) :
    ∃ rest, joinWith ['.'] ((as ++ bs) :: pieces) = as ++ (bs ++ rest) := by
  cases pieces with
  | nil => exact ⟨[], by rw [List.append_nil]; rfl⟩
  | cons second pieces =>
    rw [joinWith_cons_of_ne_nil (List.cons_ne_nil _ _), List.append_assoc, List.append_assoc]
    exact ⟨_, rfl⟩

/-- What comes after the bracket of a subscript does not count. -/
theorem takeWhile_of_subscripts {key text : List Char} {s : Step} {more : List Step} (hkey : IsKeyText key)
    (htext : ∀ c ∈ text.head?, c = '[') (hmore : subscripts text = .ok (s :: more)) (pieces : List (List Char))
    (steps : List Step) : (joinWith ['.'] ((key ++ text) :: pieces)).takeWhile (· != '[') = key ∧
      ((s :: more ++ steps).flatMap (stepText true)).takeWhile (· != '[') = [] := by
  obtain ⟨c, text, rfl⟩ : ∃ c rest, text = c :: rest := List.exists_cons_of_ne_nil fun hnil => by
    rw [subscripts_eq_ok_nil_iff.mpr hnil] at hmore
    cases hmore
  obtain rfl : c = '[' := htext c rfl
  obtain ⟨rest, hjoin⟩ := exists_joinWith_cons_append key ('[' :: text) pieces
  obtain ⟨inner, hs⟩ := exists_stepText_of_not_dotted (wellFormed_of_subscripts hmore s List.mem_cons_self).2 true
  constructor
  · rw [hjoin, takeWhile_key_append hkey]
    exact List.append_nil key
  · rw [List.cons_append, List.flatMap_cons, hs]
    rfl

/-- In front of the first bracket of segments there are keys, and the printed keys are in front of the first bracket of the steps
    that the segments are read as. -/
theorem exists_keys_of_segments {pieces : List (List Char)} {parts : List (List Step)} (hne : pieces ≠ [])
    (hsolid : ∀ piece ∈ pieces, Solid '.' piece) (h : List.Forall₂ (fun cs part => segment cs = .ok part) pieces parts) :
    ∃ keys, KeyList keys ∧ (joinWith ['.'] pieces).takeWhile (· != '[') = joinWith ['.'] keys ∧
      (render ⟨parts.flatten⟩).takeWhile (· != '[') = joinWith ['.'] (keys.map printedKey) := by
  induction h with
  | nil => exact (hne rfl).elim
  | @cons piece part pieces parts hpart hparts ih =>
    obtain ⟨hpiece, hpieces⟩ := List.forall_mem_cons.mp hsolid
    obtain ⟨key, text, more, rfl, htext, hkey, hdot, hmore, rfl⟩ := exists_of_segment hpiece hpart
    have hrender : render ⟨((keyStep key :: more) :: parts).flatten⟩ =
        printedKey key ++ (more ++ parts.flatten).flatMap (stepText true) := rfl
    rw [hrender, takeWhile_key_append (isKeyText_printedKey hkey hdot).1]
    cases more with
    | cons s more =>
      -- With a subscript the first bracket stands behind this key.
      obtain ⟨hread, hprinted⟩ := takeWhile_of_subscripts hkey htext hmore pieces parts.flatten
      refine ⟨[key], .single hkey hdot, hread, ?_⟩
      rw [hprinted]
      exact List.append_nil _
    | nil =>
      obtain rfl := subscripts_eq_ok_nil_iff.mp hmore
      rw [List.append_nil, List.nil_append]
      cases hparts with
      | nil =>
        refine ⟨[key], .single hkey hdot, ?_, List.append_nil _⟩
        have hself := takeWhile_key_append hkey []
        rwa [List.append_nil, List.takeWhile_nil, List.append_nil] at hself
      | @cons second part' pieces parts hsecond _ =>
        obtain ⟨keys, hkeys, hjoin, hprint⟩ := ih (List.cons_ne_nil _ _) hpieces
        have hdotted := exists_isDotted_head_of_segment (hpieces second List.mem_cons_self) hsecond parts
        refine ⟨key :: keys, .cons hkey hdot hkeys, ?_, ?_⟩
        · rw [joinWith_cons_of_ne_nil (List.cons_ne_nil _ _), joinWith_cons_of_ne_nil hkeys.ne_nil, List.append_assoc,
            List.append_assoc, takeWhile_key_append hkey, ← hjoin]
          rfl
        · rw [flatMap_stepText_of_isDotted hdotted, List.map_cons,
            joinWith_cons_of_ne_nil fun hnil => hkeys.ne_nil (List.map_eq_nil_iff.mp hnil), List.append_assoc, ← hprint]
          rfl

/-- The keys in front of the first bracket of the text of a path, and those of its canonical text. -/
theorem exists_keys_of_parse (h : parse cs = .ok p) : ∃ keys, KeyList keys ∧
    (trim cs).takeWhile (· != '[') = joinWith ['.'] keys ∧ p.base = joinWith ['.'] (keys.map printedKey) := by
  obtain ⟨-, pieces, hpieces, hsegments⟩ := parse_eq_ok_iff.mp h
  obtain ⟨hne, hsolid, hjoin⟩ := (splitTopLevel_eq_some_iff isPlain_dot).mp hpieces
  obtain ⟨parts, hparts, hsteps⟩ := segments_eq_ok_iff.mp hsegments
  obtain ⟨steps⟩ := p
  cases hsteps
  rw [← hjoin]
  exact exists_keys_of_segments hne hsolid hparts

theorem isKeys_of_parse (h : parse cs = .ok p) : IsKeys ((trim cs).takeWhile (· != '[')) := by
  obtain ⟨keys, hkeys, hbase, -⟩ := exists_keys_of_parse h
  exact ⟨keys, hkeys, hbase⟩

theorem isKeys_base_of_parse (h : parse cs = .ok p) : IsKeys p.base := by
  obtain ⟨keys, ⟨hne, hkeys⟩, -, hbase⟩ := exists_keys_of_parse h
  refine ⟨_, ⟨fun hnil => hne (List.map_eq_nil_iff.mp hnil), List.forall_mem_map.mpr fun key hkey => ?_⟩, hbase⟩
  exact isKeyText_printedKey (hkeys key hkey).1 (hkeys key hkey).2

theorem splitCall_of_parse (h : parse cs = .ok p) : splitCall cs = none := by
  have hopen : '(' ∉ (trim cs).takeWhile (· != '[') := (isKeys_of_parse h).openless
  have htrim := (List.takeWhile_append_dropWhile (p := (· != '[')) (l := trim cs)).symm
  cases hrest : (trim cs).dropWhile (· != '[') with
  | nil =>
    rw [hrest, List.append_nil] at htrim
    exact splitCall_eq_none fun hmem => hopen (htrim ▸ mem_trim hmem rfl)
  | cons c rest =>
    have hc : c = '[' := by simpa using head?_dropWhile_neg (· != '[') (trim cs) (hrest ▸ Option.mem_some_self c)
    obtain ⟨as, bs, has, -, hcs⟩ := exists_trim cs
    rw [hcs, htrim, hrest, hc, List.append_assoc, ← List.append_assoc]
    refine splitCall_of_base (fun hmem => ?_) fun _ hc => (Option.some.inj hc).symm
    rcases List.mem_append.mp hmem with hmem | hmem
    · cases has _ hmem
    · exact hopen hmem

end ClusterQuery.Path

namespace ClusterQuery.Field

variable {A : AliasTable} {argument pathText : List Char} {reducer shown : Option Reducer} {p : Path}

/-- The text of the path is what the argument stands for, or the argument of the call that it stands for. Which of the two it is
    does not depend on a reducer in front: after one, a call would be no path. -/
theorem pathText_of_target (h : target A reducer argument = .ok (shown, pathText)) (hp : Path.parse pathText = .ok p) :
    pathText = ((splitCall (A.resolve argument)).map Prod.snd).getD (A.resolve argument) := by
  unfold target at h
  cases hcall : splitCall (A.resolve argument) with
  | none =>
    rw [hcall] at h
    cases h
    rfl
  | some call =>
    rw [hcall] at h
    cases reducer with
    | some r =>
      cases h
      rw [Path.splitCall_of_parse hp] at hcall
      cases hcall
    | none =>
      obtain ⟨r, -, he⟩ := Except.map_eq_ok_iff.mp h
      cases he
      rfl

end ClusterQuery.Field
