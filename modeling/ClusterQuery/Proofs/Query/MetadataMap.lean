import ClusterQuery.Proofs.Path.Printing
import ClusterQuery.Proofs.Query.Canonical

/-! Labels and annotations among the built-in aliases. Their names stand for maps of the metadata, and what follows the
    name and a dot is one key, which is quoted in the text of the path. -/

namespace ClusterQuery

open Nesting

/-- A map of the metadata of a document. -/
inductive MetadataMap where
  | labels | annotations
deriving DecidableEq

def MetadataMap.name : MetadataMap → String
  | .labels => "labels"
  | .annotations => "annotations"

/-- A text in quotes and in brackets. -/
def quotedSubscript (quote : Char) (cs : List Char) : List Char := '[' :: (quote :: (cs ++ [quote]) ++ [']'])

theorem subscripts_quotedSubscript {q : Char} {cs : List Char} (hq : isQuote q = true) (hcs : q ∉ cs) (hne : cs ≠ []) :
    Path.subscripts (quotedSubscript q cs) = .ok [.mapKey (String.ofList cs)] := by
  have hclose : closeBracket none (q :: (cs ++ [q]) ++ [']']) = some (q :: (cs ++ [q]), []) :=
    (Enclosed.quoted hq hcs).closes
  rw [quotedSubscript, Path.subscripts_eq_of_closeBracket hclose, Path.subscript_of_quoted hq hne, Path.subscripts]
  rfl

/-- A key with a text in quotes after it is a segment of a path. -/
theorem segment_quotedSubscript {q : Char} {name cs : List Char} (hname : Path.IsKeyText name) (hq : isQuote q = true)
    (hcs : q ∉ cs) (hne : cs ≠ []) :
    Path.segment (name ++ quotedSubscript q cs) = .ok [Path.keyStep name, .mapKey (String.ofList cs)] := by
  have hopen : ∀ c ∈ name, (c != '[') = true := fun c hc => bne_iff_ne.mpr (hname.2 c hc).2.2
  have htake : (name ++ quotedSubscript q cs).takeWhile (· != '[') = name := by
    rw [List.takeWhile_append_of_pos hopen]
    exact List.append_nil _
  have hdrop : (name ++ quotedSubscript q cs).dropWhile (· != '[') = quotedSubscript q cs := List.dropWhile_append_of_pos hopen
  refine Path.segment_eq_ok_iff.mpr ?_
  rw [htake, hdrop]
  exact ⟨hname, _, subscripts_quotedSubscript hq hcs hne, rfl⟩

/-- The names of the built-in aliases are of letters. -/
theorem AliasTable.builtin_get?_eq_none {cs : List Char} {c : Char} (hc : c ∈ cs) (hletter : isAsciiLetter c = false) :
    AliasTable.builtin.get? (String.ofList cs) = none := by
  have hletters : ∀ b ∈ AliasTable.builtin.entries, ∀ c ∈ b.1.toList, isAsciiLetter c = true := by decide
  refine Dictionary.get?_eq_none fun b hb he => ?_
  have hall := hletters b hb
  rw [he, String.toList_ofList] at hall
  rw [hall c hc] at hletter
  cases hletter

namespace MetadataMap

variable (m : MetadataMap)

theorem isTitleChar_name : ∀ c ∈ m.name.toList, isTitleChar c = true := by
  cases m <;> decide

theorem name_ne_nil : m.name.toList ≠ [] := by cases m <;> decide

theorem openless_name : ∀ c ∈ m.name.toList, (c != '[') = true := by cases m <;> decide

/-! ### The path to an entry -/

/-- The text of the path to an entry. -/
def pathText (q : Char) (key : List Char) : List Char :=
  "metadata".toList ++ '.' :: (m.name.toList ++ quotedSubscript q key)

section Path
variable {q : Char} {key : List Char}

theorem segment_name (hq : isQuote q = true) (hkey : q ∉ key) (hne : key ≠ []) :
    Path.segment (m.name.toList ++ quotedSubscript q key) = .ok [.key m.name, .mapKey (String.ofList key)] := by
  have hname : Path.IsKeyText m.name.toList ∧ Path.keyStep m.name.toList = .key m.name := by cases m <;> decide
  rw [segment_quotedSubscript hname.1 hq hkey hne, hname.2]

theorem solid_name (hq : isQuote q = true) (hkey : q ∉ key) : Solid '.' (m.name.toList ++ quotedSubscript q key) := by
  have hname : Solid '.' m.name.toList := leads_of_plain (by cases m <;> decide)
  exact Leads.append hname ((Enclosed.quoted hq hkey).leads Brackets.ofLists_mem_scans rfl)

theorem trimmed_append_quotedSubscript {start : List Char} (hne : start ≠ []) (h : ∀ c ∈ start, isBlank c = false)
    (name : List Char) : Trimmed (start ++ '.' :: (name ++ quotedSubscript q key)) := by
  have hclose : '.' :: (name ++ quotedSubscript q key) = '.' :: (name ++ '[' :: (q :: (key ++ [q]))) ++ [']'] := by
    simp [quotedSubscript]
  refine trimmed_append hne (List.cons_ne_nil _ _) (fun c hc => h c (List.mem_of_mem_head? hc)) fun c hc => ?_
  rw [hclose, List.getLast?_append_of_ne_nil _ (List.cons_ne_nil _ _)] at hc
  cases hc
  rfl

theorem trimmed_pathText : Trimmed (m.pathText q key) :=
  trimmed_append_quotedSubscript (by decide) (by decide) _

theorem parse_pathText (hq : isQuote q = true) (hkey : q ∉ key) (hne : key ≠ []) :
    Path.parse (m.pathText q key) = .ok ⟨[.key "metadata", .key m.name, .mapKey (String.ofList key)]⟩ := by
  have hsegment : Path.segment "metadata".toList = .ok [.key "metadata"] :=
    Path.segment_text (g := ⟨.key "metadata", []⟩) ⟨by decide, fun _ h => nomatch h⟩
  have hsolid : Solid '.' "metadata".toList := leads_of_plain (by decide)
  have hsplit : splitTopLevel '.' (m.pathText q key) = some ["metadata".toList, m.name.toList ++ quotedSubscript q key] := by
    refine (splitTopLevel_eq_some_iff Path.isPlain_dot).mpr ⟨List.cons_ne_nil _ _, ?_, ?_⟩
    · exact List.forall_mem_cons.mpr ⟨hsolid, List.forall_mem_singleton.mpr (m.solid_name hq hkey)⟩
    · rw [joinWith_cons_of_ne_nil (List.cons_ne_nil _ _), List.append_assoc]
      rfl
  refine Path.parse_eq_ok_iff.mpr ?_
  rw [trim_eq_self m.trimmed_pathText]
  refine ⟨List.append_ne_nil_of_right_ne_nil _ (List.cons_ne_nil _ _), _, hsplit, ?_⟩
  exact Path.segments_eq_ok_iff.mpr ⟨_, .cons hsegment (.cons (m.segment_name hq hkey hne) .nil), rfl⟩

end Path

/-! ### Resolving -/

theorem findEntry_eq_some_iff {start target base map key : List Char} :
    (match dropPrefix? start base with
      | some (c :: key) => some (target, c :: key)
      | _ => none) = some (map, key) ↔ base = start ++ key ∧ map = target ∧ key ≠ [] := by
  rw [← dropPrefix?_eq_some]
  rcases dropPrefix? start base with - | - | ⟨c, rest⟩ <;> grind

/-- The key after the name of a map and a dot is one of that map. -/
theorem mapEntry?_eq_some_iff {base map key : List Char} : AliasTable.mapEntry? base = some (map, key) ↔
    ∃ m : MetadataMap, base = m.name.toList ++ '.' :: key ∧ map = "metadata.".toList ++ m.name.toList ∧ key ≠ [] := by
  have hdot : ∀ m : MetadataMap, m.name.toList ++ '.' :: key = m.name.toList ++ ['.'] ++ key := fun m => by simp
  simp only [hdot]
  constructor
  · intro h
    obtain ⟨⟨start, target⟩, hentry, hfound⟩ := List.exists_of_findSome?_eq_some h
    obtain ⟨kind, hkind, he⟩ := List.mem_map.mp hentry
    cases he
    obtain ⟨hbase, hmap, hne⟩ := findEntry_eq_some_iff.mp hfound
    rcases List.mem_cons.mp hkind with rfl | hkind
    · exact ⟨.labels, hbase, hmap, hne⟩
    · cases List.mem_singleton.mp hkind
      exact ⟨.annotations, hbase, hmap, hne⟩
  · rintro ⟨m, hbase, hmap, hne⟩
    refine List.findSome?_eq_some_iff.mpr ?_
    cases m with
    | labels => exact ⟨[], _, _, rfl, findEntry_eq_some_iff.mpr ⟨hbase, hmap, hne⟩, fun _ h => nomatch h⟩
    | annotations =>
      refine ⟨[_], _, [], rfl, findEntry_eq_some_iff.mpr ⟨hbase, hmap, hne⟩, List.forall_mem_singleton.mpr ?_⟩
      refine Option.eq_none_iff_forall_not_mem.mpr fun found hfound => ?_
      have hother := (findEntry_eq_some_iff.mp hfound).1
      rw [hbase] at hother
      cases hother

theorem resolveName_name (subscripts : List Char) : AliasTable.builtin.resolveName m.name.toList subscripts =
    "metadata".toList ++ '.' :: (m.name.toList ++ subscripts) := by
  have htarget : AliasTable.builtin.get? (String.ofList m.name.toList) = some ("metadata." ++ m.name) := by
    cases m <;> decide
  rw [AliasTable.resolveName, htarget]
  dsimp only
  rw [String.toList_append, List.append_assoc]
  rfl

theorem resolveName_key {key : List Char} (hne : key ≠ []) :
    AliasTable.builtin.resolveName (m.name.toList ++ '.' :: key) [] = m.pathText '"' key := by
  have hdot : '.' ∈ m.name.toList ++ '.' :: key := List.mem_append_right _ List.mem_cons_self
  have hentry := mapEntry?_eq_some_iff.mpr ⟨m, rfl, rfl, hne⟩
  have hstart : "metadata.".toList = "metadata".toList ++ ['.'] := by decide
  have hjoin : ∀ start name : List Char, start ++ ['.'] ++ name ++ ['[', '"'] ++ key ++ ['"', ']'] ++ [] =
      start ++ '.' :: (name ++ quotedSubscript '"' key) := fun start name => by simp [quotedSubscript]
  rw [AliasTable.resolveName, AliasTable.builtin_get?_eq_none hdot (by decide)]
  dsimp only
  rw [hentry]
  show "metadata.".toList ++ m.name.toList ++ ['[', '"'] ++ key ++ ['"', ']'] ++ [] = _
  rw [hstart]
  exact hjoin _ _

end MetadataMap

/-! ### Texts without parentheses -/

namespace AliasTable

theorem mem_of_mem_dropEndWhile {p : Char → Bool} {c : Char} {cs : List Char} (h : c ∈ dropEndWhile p cs) : c ∈ cs := by
  rw [← dropEndWhile_append_takeWhile p cs]
  exact List.mem_append_left _ h

theorem mem_of_mem_trimName {c : Char} {cs : List Char} (h : c ∈ trimName cs) : c ∈ cs :=
  (List.dropWhile_suffix _).subset (mem_of_mem_dropEndWhile h)

theorem mem_of_mem_trim {c : Char} {cs : List Char} (h : c ∈ trim cs) : c ∈ cs :=
  (List.dropWhile_suffix _).subset (mem_of_mem_dropEndWhile h)

/-- No built-in alias stands for a call. -/
theorem openless_target {name target : String} (h : builtin.get? name = some target) : '(' ∉ target.toList := by
  have htargets : ∀ b ∈ builtin.entries, '(' ∉ b.2.toList := by decide
  exact htargets _ (Dictionary.mem_of_get? h)

theorem openless_resolveName {name subscripts : List Char} (hname : '(' ∉ name) (hsubscripts : '(' ∉ subscripts) :
    '(' ∉ builtin.resolveName name subscripts := by
  have happend : ∀ {start : List Char}, '(' ∉ start → '(' ∉ start ++ subscripts := fun hstart hmem =>
    (List.mem_append.mp hmem).elim hstart hsubscripts
  unfold resolveName
  split
  · next target htarget => exact happend (openless_target htarget)
  · split
    · next map key hentry =>
      obtain ⟨m, rfl, rfl, -⟩ := MetadataMap.mapEntry?_eq_some_iff.mp hentry
      have hkey : '(' ∉ key := fun hmem => hname (List.mem_append_right _ (List.mem_cons_of_mem _ hmem))
      have hmap : '(' ∉ m.name.toList := by cases m <;> decide
      exact happend (by simp [hmap, hkey])
    · exact happend hname

/-- What a text without an opening parenthesis stands for has none. -/
theorem openless_resolve {cs : List Char} (h : '(' ∉ cs) : '(' ∉ builtin.resolve cs := by
  have htrim : '(' ∉ trim cs := fun hmem => h (mem_of_mem_trim hmem)
  rw [resolve_of_splitCall_eq_none (splitCall_eq_none htrim)]
  refine openless_resolveName (fun hmem => htrim ?_) fun hmem => htrim ?_
  · exact (List.takeWhile_prefix _).subset (mem_of_mem_trimName hmem)
  · exact (List.dropWhile_suffix _).subset hmem

end AliasTable

end ClusterQuery
