import ClusterQuery.Proofs.Result
import ClusterQuery.Proofs.Text.Characters
import ClusterQuery.Proofs.Text.Split
import ClusterQuery.Query.Parser

/-! Sources are read from the text that they print: names joined by at most one slash. -/

namespace ClusterQuery

/-- A name that a `FROM` clause may hold: labels with dots between them, not too long. -/
structure IsName (cs : List Char) : Prop where
  ne_nil : cs ≠ []
  short : byteLength cs ≤ nameLimit
  labels : (splitOn '.' cs).all Query.isLabel = true

/-- A source whose names are names. -/
structure Source.Valid (s : Source) : Prop where
  resource : IsName s.resource.toList
  scope : ∀ name, s.scope = .namespace name → IsName name.toList

namespace Query

theorem checkName_eq_ok_iff {role : NameRole} {cs : List Char} : checkName role cs = .ok () ↔ IsName cs := by
  unfold checkName
  constructor
  · intro h
    split at h
    · cases h
    · next hne =>
      split at h
      · cases h
      · next hshort =>
        split at h
        · next hlabels => exact ⟨by simpa using hne, by omega, hlabels⟩
        · cases h
  · intro h
    rw [if_neg (by simpa using h.ne_nil), if_neg (Nat.not_lt.mpr h.short), if_pos h.labels]

/-- The characters of names. -/
def isNameChar (c : Char) : Bool := isLabelEnd c || c == '-' || c == '.'

theorem isNameChar_of_isName {cs : List Char} (h : IsName cs) : ∀ c ∈ cs, isNameChar c = true := by
  intro c hc
  by_cases hdot : c = '.'
  · rw [hdot]
    rfl
  · obtain ⟨piece, hpiece, hc⟩ := mem_splitOn_of_mem hc hdot
    have hlabel := List.all_eq_true.mp h.labels piece hpiece
    have hchar := List.all_eq_true.mp (Bool.and_eq_true_iff.mp hlabel).2 c hc
    rw [isNameChar, hchar, Bool.true_or]

theorem isPlain_of_isNameChar {c : Char} (h : isNameChar c = true) :
    Brackets.ofWords.isPlain c = true ∧ isBlank c = false := by
  refine ⟨(Brackets.isPlain_of_not_mem_marks (not_mem_of_all h (by decide))).1, ?_⟩
  simp only [isNameChar, isLabelEnd, Bool.or_eq_true, beq_iff_eq] at h
  rcases h with ((h | h) | rfl) | rfl
  · refine isBlank_of_isTitleChar (isTitleChar_of_isAsciiLetter ?_)
    rw [isAsciiLetter, h, Bool.true_or]
  · exact isBlank_of_isDigit h
  · rfl
  · rfl

theorem parseSource_of_ne_nil {body : List Char} (hne : body ≠ []) :
    parseSource body =
      match splitFirst (· == '/') body with
      | some (scope, name) =>
        if scope = ['*'] then (checkName .resource name).map fun _ => ⟨String.ofList name, .everywhere⟩
        else (checkName .namespace scope).bind fun _ =>
          (checkName .resource name).map fun _ => ⟨String.ofList name, .namespace (String.ofList scope)⟩
      | none => (checkName .resource body).map fun _ => ⟨String.ofList body, .current⟩ := by
  unfold parseSource
  rw [if_neg (by simpa using hne)]
  rfl

theorem checkName_map_eq_ok_iff {role : NameRole} {cs : List Char} {s s' : Source} :
    (checkName role cs).map (fun _ => s) = .ok s' ↔ IsName cs ∧ s = s' := by
  rw [Except.map_eq_ok_iff]
  constructor
  · rintro ⟨⟨⟩, hname, he⟩
    exact ⟨checkName_eq_ok_iff.mp hname, he⟩
  · rintro ⟨hname, he⟩
    exact ⟨(), checkName_eq_ok_iff.mpr hname, he⟩

theorem valid_of_parseSource {body : List Char} {s : Source} (h : parseSource body = .ok s) :
    s.Valid ∧ s.render = body := by
  have hne : body ≠ [] := fun hnil => by
    rw [hnil] at h
    cases h
  rw [parseSource_of_ne_nil hne] at h
  split at h
  · next scope name hsplit =>
    obtain ⟨c, hc, rfl, -⟩ := splitFirst_eq_some hsplit
    obtain rfl : c = '/' := by simpa using hc
    split at h
    · next hstar =>
      obtain ⟨hname, rfl⟩ := checkName_map_eq_ok_iff.mp h
      refine ⟨⟨String.toList_ofList.symm ▸ hname, fun _ hs => nomatch hs⟩, ?_⟩
      rw [hstar, Source.render, String.toList_ofList]
      rfl
    · obtain ⟨⟨⟩, hscope, h⟩ := Except.bind_eq_ok_iff.mp h
      obtain ⟨hname, rfl⟩ := checkName_map_eq_ok_iff.mp h
      refine ⟨⟨String.toList_ofList.symm ▸ hname, ?_⟩, ?_⟩
      · rintro _ ⟨⟩
        exact String.toList_ofList.symm ▸ checkName_eq_ok_iff.mp hscope
      · show (String.ofList scope).toList ++ '/' :: (String.ofList name).toList = _
        rw [String.toList_ofList, String.toList_ofList]
  · obtain ⟨hname, rfl⟩ := checkName_map_eq_ok_iff.mp h
    refine ⟨⟨String.toList_ofList.symm ▸ hname, fun _ hs => nomatch hs⟩, ?_⟩
    rw [Source.render, String.toList_ofList]

theorem ne_of_isName {cs : List Char} (h : IsName cs) : ∀ c ∈ cs, c ≠ '/' ∧ c ≠ '*' := by
  intro c hc
  have hchar := isNameChar_of_isName h c hc
  constructor
  · rintro rfl
    cases hchar
  · rintro rfl
    cases hchar

theorem parseSource_render {s : Source} (h : s.Valid) : parseSource s.render = .ok s := by
  have hslash : ∀ {cs : List Char}, IsName cs → ∀ c ∈ cs, (c == '/') = false := fun hcs c hc =>
    beq_eq_false_iff_ne.mpr (ne_of_isName hcs c hc).1
  obtain ⟨resource, scope⟩ := s
  obtain ⟨hresource, hscope⟩ := h
  cases scope with
  | current =>
    show parseSource resource.toList = _
    rw [parseSource_of_ne_nil hresource.ne_nil, splitFirst_eq_none_iff.mpr (hslash hresource)]
    exact checkName_map_eq_ok_iff.mpr ⟨hresource, by rw [String.ofList_toList]⟩
  | everywhere =>
    show parseSource (['*'] ++ '/' :: resource.toList) = _
    rw [parseSource_of_ne_nil (by simp), splitFirst_append_cons rfl (by decide)]
    dsimp only
    rw [if_pos rfl]
    exact checkName_map_eq_ok_iff.mpr ⟨hresource, by rw [String.ofList_toList]⟩
  | «namespace» name =>
    have hname := hscope name rfl
    have hstar : name.toList ≠ ['*'] := fun he =>
      (ne_of_isName hname '*' (he ▸ List.mem_cons_self)).2 rfl
    show parseSource (name.toList ++ '/' :: resource.toList) = _
    rw [parseSource_of_ne_nil (by simp), splitFirst_append_cons rfl (hslash hname)]
    dsimp only
    rw [if_neg hstar]
    refine Except.bind_eq_ok_iff.mpr ⟨(), checkName_eq_ok_iff.mpr hname, ?_⟩
    exact checkName_map_eq_ok_iff.mpr ⟨hresource, by rw [String.ofList_toList, String.ofList_toList]⟩

/-- A source is read from a text if its names are names and it prints the text. -/
theorem parseSource_eq_ok_iff {body : List Char} {s : Source} :
    parseSource body = .ok s ↔ s.Valid ∧ s.render = body := by
  constructor
  · exact valid_of_parseSource
  · rintro ⟨hvalid, rfl⟩
    exact parseSource_render hvalid

theorem parseSource_of_isName {name : List Char} (h : IsName name) : parseSource name = .ok ⟨String.ofList name, .current⟩ := by
  refine parseSource_eq_ok_iff.mpr ⟨⟨?_, fun _ h => nomatch h⟩, String.toList_ofList⟩
  rwa [String.toList_ofList]

end Query

end ClusterQuery
