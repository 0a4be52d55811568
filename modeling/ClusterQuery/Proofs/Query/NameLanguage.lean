import ClusterQuery.Proofs.Query.Source
import Mathlib.Computability.Language

/-! The texts of sources as a language. A name is one of a regular language and not too long; a source is written as a
    name, as two names with a slash between them, or as a star, a slash and a name, and it is read from these texts only. -/

namespace ClusterQuery

open Computability

/-! ### Texts of characters and lists of texts -/

/-- The texts of one character that satisfies `p`. -/
def oneOf (p : Char → Prop) : Language Char := {cs | ∃ c, p c ∧ cs = [c]}

/-- Texts of `l` with single separators between them. -/
def separatedBy (sep : Char) (l : Language Char) : Language Char := l * ({[sep]} * l)∗

variable {p : Char → Prop} {sep : Char} {l : Language Char} {cs : List Char}

theorem mem_kstar_oneOf_iff : cs ∈ (oneOf p)∗ ↔ ∀ c ∈ cs, p c := by
  constructor
  · rintro ⟨pieces, rfl, hpieces⟩ c hc
    obtain ⟨piece, hpiece, hc⟩ := List.mem_flatten.mp hc
    obtain ⟨d, hd, rfl⟩ := hpieces piece hpiece
    rwa [List.mem_singleton.mp hc]
  · intro h
    refine ⟨cs.map fun c => [c], ?_, List.forall_mem_map.mpr fun c hc => ⟨c, h c hc, rfl⟩⟩
    rw [← List.flatMap_def, List.flatMap_singleton']

theorem splitOn_append_cons {piece rest : List Char} (h : sep ∉ piece) :
    splitOn sep (piece ++ sep :: rest) = piece :: splitOn sep rest := by
  rw [splitOn_append_sep, splitOn_eq_self h, List.singleton_append]

theorem joinWith_cons_eq_flatten (first : List Char) (more : List (List Char)) :
    joinWith [sep] (first :: more) = first ++ (more.map (sep :: ·)).flatten := by
  induction more generalizing first with
  | nil => exact (List.append_nil first).symm
  | cons piece more ih =>
    rw [List.map_cons, List.flatten_cons, List.cons_append, ← ih piece, joinWith_cons_of_ne_nil (List.cons_ne_nil _ _),
      List.append_assoc]
    rfl

/-- A text with separators is one of a list of texts if each of its pieces is one of them, which hold no separator. -/
theorem mem_separatedBy_iff (hsep : ∀ piece ∈ l, sep ∉ piece) :
    cs ∈ separatedBy sep l ↔ ∀ piece ∈ splitOn sep cs, piece ∈ l := by
  constructor
  · rintro ⟨first, hfirst, _, ⟨more, rfl, hmore⟩, rfl⟩
    induction more generalizing first with
    | nil =>
      show ∀ other ∈ splitOn sep (first ++ []), other ∈ l
      rw [List.append_nil, splitOn_eq_self (hsep first hfirst)]
      exact List.forall_mem_singleton.mpr hfirst
    | cons next more ih =>
      obtain ⟨⟨_, rfl, piece, hpiece, rfl⟩, hrest⟩ := List.forall_mem_cons.mp hmore
      show ∀ other ∈ splitOn sep (first ++ sep :: (piece ++ more.flatten)), other ∈ l
      rw [splitOn_append_cons (hsep first hfirst)]
      exact List.forall_mem_cons.mpr ⟨hfirst, ih piece hpiece hrest⟩
  · intro h
    obtain ⟨first, more, hpieces⟩ := List.exists_cons_of_ne_nil (splitOn_ne_nil sep cs)
    rw [hpieces] at h
    obtain ⟨hfirst, hmore⟩ := List.forall_mem_cons.mp h
    have hseparated : ∀ piece ∈ more.map (sep :: ·), piece ∈ {[sep]} * l :=
      List.forall_mem_map.mpr fun piece hpiece => ⟨[sep], rfl, piece, hmore piece hpiece, rfl⟩
    rw [← joinWith_splitOn sep cs, hpieces, joinWith_cons_eq_flatten]
    exact Language.mem_mul.mpr ⟨first, hfirst, _, Language.join_mem_kstar hseparated, rfl⟩

/-! ### Names -/

namespace NameText

/-- The characters at the ends of a label, `[a-z0-9]`. -/
def IsEnd (c : Char) : Prop := ('a' ≤ c ∧ c ≤ 'z') ∨ ('0' ≤ c ∧ c ≤ '9')

/-- The characters inside a label, `[-a-z0-9]`. -/
def IsInner (c : Char) : Prop := c = '-' ∨ IsEnd c

/-- The labels, `[a-z0-9]([-a-z0-9]*[a-z0-9])?`. -/
def label : Language Char := oneOf IsEnd * (1 + (oneOf IsInner)∗ * oneOf IsEnd)

end NameText

/-- Labels with single dots between them, in at most 63 bytes. -/
def IsNameText (cs : List Char) : Prop := cs ∈ separatedBy '.' NameText.label ∧ byteLength cs ≤ 63

namespace NameText

theorem isLabelEnd_iff {c : Char} : Query.isLabelEnd c = true ↔ IsEnd c := by
  simp [Query.isLabelEnd, isDigit, IsEnd]

theorem mem_label_iff : cs ∈ label ↔
    ∃ c, IsEnd c ∧ (cs = [c] ∨ ∃ middle d, (∀ e ∈ middle, IsInner e) ∧ IsEnd d ∧ cs = c :: (middle ++ [d])) := by
  constructor
  · rintro ⟨_, ⟨c, hc, rfl⟩, _, rfl | ⟨middle, hmiddle, _, ⟨d, hd, rfl⟩, rfl⟩, rfl⟩
    · exact ⟨c, hc, .inl rfl⟩
    · exact ⟨c, hc, .inr ⟨middle, d, mem_kstar_oneOf_iff.mp hmiddle, hd, rfl⟩⟩
  · rintro ⟨c, hc, rfl | ⟨middle, d, hmiddle, hd, rfl⟩⟩
    · exact ⟨[c], ⟨c, hc, rfl⟩, [], .inl rfl, rfl⟩
    · exact ⟨[c], ⟨c, hc, rfl⟩, middle ++ [d],
        .inr (Language.append_mem_mul (mem_kstar_oneOf_iff.mpr hmiddle) ⟨d, hd, rfl⟩), rfl⟩

/-- The check of a label looks at its first, its last and all of its characters. -/
theorem isLabel_iff_mem_label : Query.isLabel cs = true ↔ cs ∈ label := by
  have hinner : ∀ c, (Query.isLabelEnd c || c == '-') = true ↔ IsInner c := fun c => by
    rw [Bool.or_eq_true, isLabelEnd_iff, beq_iff_eq, IsInner, or_comm]
  rw [mem_label_iff]
  cases cs with
  | nil => simp [Query.isLabel]
  | cons c rest =>
    rcases List.eq_nil_or_concat rest with rfl | ⟨middle, d, rfl⟩
    · simpa [Query.isLabel, isLabelEnd_iff] using fun h : IsEnd c => Or.inl h
    · rw [List.concat_eq_append]
      have hlast : (c :: (middle ++ [d])).getLast? = some d := by rw [← List.cons_append, List.getLast?_concat]
      simp only [Query.isLabel, hlast, List.head?_cons, Option.any_some, Bool.and_eq_true, isLabelEnd_iff, List.all_eq_true,
        hinner, List.forall_mem_cons, List.forall_mem_append]
      constructor
      · rintro ⟨⟨hc, hd⟩, -, hmiddle, -⟩
        exact ⟨c, hc, .inr ⟨middle, d, hmiddle, hd, rfl⟩⟩
      · rintro ⟨c', hc, he | ⟨middle', d', hmiddle, hd, he⟩⟩
        · simp at he
        · obtain ⟨rfl, hrest⟩ := List.cons.inj he
          obtain ⟨rfl, hlast⟩ := List.append_inj' hrest rfl
          cases hlast
          exact ⟨⟨hc, hd⟩, .inr hc, hmiddle, .inr hd, fun _ h => nomatch h⟩

theorem dot_not_mem_of_mem_label : ∀ piece ∈ label, '.' ∉ piece := by
  have hend : ¬IsEnd '.' := by unfold IsEnd; decide
  have hinner : ¬IsInner '.' := by unfold IsInner IsEnd; decide
  intro piece hpiece hdot
  obtain ⟨c, hc, rfl | ⟨middle, d, hmiddle, hd, rfl⟩⟩ := mem_label_iff.mp hpiece
  · exact hend (List.mem_singleton.mp hdot ▸ hc)
  · rcases List.mem_cons.mp hdot with rfl | hdot
    · exact hend hc
    · rcases List.mem_append.mp hdot with hdot | hdot
      · exact hinner (hmiddle _ hdot)
      · exact hend (List.mem_singleton.mp hdot ▸ hd)

end NameText

theorem isName_iff_isNameText : IsName cs ↔ IsNameText cs := by
  have hlabels : (splitOn '.' cs).all Query.isLabel = true ↔ cs ∈ separatedBy '.' NameText.label := by
    rw [mem_separatedBy_iff NameText.dot_not_mem_of_mem_label, List.all_eq_true]
    exact forall₂_congr fun _ _ => NameText.isLabel_iff_mem_label
  constructor
  · rintro ⟨-, hshort, hall⟩
    exact ⟨hlabels.mp hall, hshort⟩
  · rintro ⟨hmem, hshort⟩
    refine ⟨?_, hshort, hlabels.mpr hmem⟩
    rintro rfl
    cases hlabels.mpr hmem

/-! ### Sources -/

/-- How a source is written. -/
inductive Source.Written : List Char → Source → Prop where
  | plain {name : String} (h : IsNameText name.toList) : Written name.toList ⟨name, .current⟩
  | inNamespace {space name : String} (hspace : IsNameText space.toList) (h : IsNameText name.toList) :
    Written (space.toList ++ '/' :: name.toList) ⟨name, .namespace space⟩
  | everywhere {name : String} (h : IsNameText name.toList) : Written ('*' :: '/' :: name.toList) ⟨name, .everywhere⟩

namespace Source

variable {s : Source}

theorem Written.render_eq (h : Written cs s) : s.render = cs := by
  cases h <;> rfl

theorem written_iff_valid : Written cs s ↔ s.Valid ∧ s.render = cs := by
  constructor
  · intro h
    refine ⟨?_, h.render_eq⟩
    cases h with
    | plain h => exact ⟨isName_iff_isNameText.mpr h, fun _ hs => nomatch hs⟩
    | inNamespace hspace h =>
      refine ⟨isName_iff_isNameText.mpr h, ?_⟩
      rintro _ ⟨⟩
      exact isName_iff_isNameText.mpr hspace
    | everywhere h => exact ⟨isName_iff_isNameText.mpr h, fun _ hs => nomatch hs⟩
  · rintro ⟨⟨hresource, hscope⟩, rfl⟩
    obtain ⟨name, scope⟩ := s
    replace hresource := isName_iff_isNameText.mp hresource
    cases scope with
    | current => exact .plain hresource
    | «namespace» space => exact .inNamespace (isName_iff_isNameText.mp (hscope space rfl)) hresource
    | everywhere => exact .everywhere hresource

/-- A source is read from the ways to write it and from nothing else. -/
theorem parse_eq_ok_iff_written : Query.parseSource cs = .ok s ↔ Written cs s :=
  Query.parseSource_eq_ok_iff.trans written_iff_valid.symm

theorem Written.unique {s' : Source} (h : Written cs s) (h' : Written cs s') : s = s' :=
  Except.ok.inj ((parse_eq_ok_iff_written.mpr h).symm.trans (parse_eq_ok_iff_written.mpr h'))

variable {spaceText nameText : List Char}

theorem written_plain (h : IsNameText nameText) : Written nameText ⟨String.ofList nameText, .current⟩ := by
  rw [← String.toList_ofList (l := nameText)] at h
  simpa only [String.toList_ofList] using Written.plain h

theorem written_inNamespace (hspace : IsNameText spaceText) (h : IsNameText nameText) :
    Written (spaceText ++ '/' :: nameText) ⟨String.ofList nameText, .namespace (String.ofList spaceText)⟩ := by
  rw [← String.toList_ofList (l := nameText)] at h
  rw [← String.toList_ofList (l := spaceText)] at hspace
  simpa only [String.toList_ofList] using Written.inNamespace hspace h

theorem written_everywhere (h : IsNameText nameText) :
    Written ('*' :: '/' :: nameText) ⟨String.ofList nameText, .everywhere⟩ := by
  rw [← String.toList_ofList (l := nameText)] at h
  simpa only [String.toList_ofList] using Written.everywhere h

theorem exists_written_iff : (∃ s, Written cs s) ↔
    IsNameText cs ∨
    (∃ space name, IsNameText space ∧ IsNameText name ∧ cs = space ++ '/' :: name) ∨
    ∃ name, IsNameText name ∧ cs = '*' :: '/' :: name := by
  constructor
  · rintro ⟨s, h | ⟨hspace, h⟩ | h⟩
    · exact .inl h
    · exact .inr (.inl ⟨_, _, hspace, h, rfl⟩)
    · exact .inr (.inr ⟨_, h, rfl⟩)
  · rintro (h | ⟨space, name, hspace, h, rfl⟩ | ⟨name, h, rfl⟩)
    · exact ⟨_, written_plain h⟩
    · exact ⟨_, written_inNamespace hspace h⟩
    · exact ⟨_, written_everywhere h⟩

theorem Written.scope_eq_namespace_iff (h : Written cs s) {space : String} :
    s.scope = .namespace space ↔ ∃ name, IsNameText space.toList ∧ IsNameText name ∧ cs = space.toList ++ '/' :: name := by
  constructor
  · intro hscope
    cases h with
    | plain h => cases hscope
    | inNamespace hspace h =>
      cases hscope
      exact ⟨_, hspace, h, rfl⟩
    | everywhere h => cases hscope
  · rintro ⟨name, hspace, hname, rfl⟩
    rw [h.unique (written_inNamespace hspace hname), String.ofList_toList]

theorem Written.scope_eq_everywhere_iff (h : Written cs s) :
    s.scope = .everywhere ↔ ∃ name, IsNameText name ∧ cs = '*' :: '/' :: name := by
  constructor
  · intro hscope
    cases h with
    | plain h => cases hscope
    | inNamespace hspace h => cases hscope
    | everywhere h => exact ⟨_, h, rfl⟩
  · rintro ⟨name, hname, rfl⟩
    rw [h.unique (written_everywhere hname)]

end Source

namespace Query

open Source

/-- A source is read from the ways to write it and from nothing else. It has a namespace just if it is written with one, and
    is looked for everywhere just if it is written with a star; it prints the text that it was read from, so that no two
    texts are read as the same source. -/
theorem parseSource_iff_written :
    (∀ (body : List Char) (s : Source), parseSource body = .ok s ↔ Written body s) ∧
    (∀ body : List Char, (∃ s, parseSource body = .ok s) ↔
      IsNameText body ∨
      (∃ space name, IsNameText space ∧ IsNameText name ∧ body = space ++ '/' :: name) ∨
      ∃ name, IsNameText name ∧ body = '*' :: '/' :: name) ∧
    (∀ (body : List Char) (s : Source), parseSource body = .ok s →
      (∀ space : String, s.scope = .namespace space ↔
        ∃ name, IsNameText space.toList ∧ IsNameText name ∧ body = space.toList ++ '/' :: name) ∧
      (s.scope = .everywhere ↔ ∃ name, IsNameText name ∧ body = '*' :: '/' :: name) ∧
      s.render = body) ∧
    ∀ (body body' : List Char) (s s' : Source), body ≠ body' → parseSource body = .ok s → parseSource body' = .ok s' →
      s ≠ s' := by
  refine ⟨fun _ _ => parse_eq_ok_iff_written, fun body => ?_, fun body s hs => ?_, ?_⟩
  · simp only [parse_eq_ok_iff_written]
    exact exists_written_iff
  · have h := parse_eq_ok_iff_written.mp hs
    exact ⟨fun _ => h.scope_eq_namespace_iff, h.scope_eq_everywhere_iff, h.render_eq⟩
  · rintro body body' s s' hne hs hs' rfl
    have hrender := (parse_eq_ok_iff_written.mp hs).render_eq
    exact hne (hrender.symm.trans (parse_eq_ok_iff_written.mp hs').render_eq)

theorem parseSource_iff_written_of_machines :
    parseSource "kube-system/virtualmachines.kubevirt.io".toList =
        .ok ⟨"virtualmachines.kubevirt.io", .namespace "kube-system"⟩ ∧
      parseSource "*/pods".toList = .ok ⟨"pods", .everywhere⟩ ∧ "kube-system/virtualmachines.kubevirt.io".toList ≠ "*/pods".toList ∧
      (∃ name, IsNameText "kube-system".toList ∧ IsNameText name ∧
        "kube-system/virtualmachines.kubevirt.io".toList = "kube-system".toList ++ '/' :: name) ∧
      (∃ name, IsNameText name ∧ "*/pods".toList = '*' :: '/' :: name) ∧
      (⟨"virtualmachines.kubevirt.io", .namespace "kube-system"⟩ : Source) ≠ ⟨"pods", .everywhere⟩ := by
  obtain ⟨-, -, hforms, hdistinct⟩ := parseSource_iff_written
  have hspace : parseSource "kube-system/virtualmachines.kubevirt.io".toList =
      .ok ⟨"virtualmachines.kubevirt.io", .namespace "kube-system"⟩ := by decide +kernel
  have hstar : parseSource "*/pods".toList = .ok ⟨"pods", .everywhere⟩ := by decide +kernel
  have hne : "kube-system/virtualmachines.kubevirt.io".toList ≠ "*/pods".toList := by decide +kernel
  exact ⟨hspace, hstar, hne, ((hforms _ _ hspace).1 _).mp rfl, (hforms _ _ hstar).2.1.mp rfl, hdistinct _ _ _ _ hne hspace hstar⟩

end Query

end ClusterQuery
