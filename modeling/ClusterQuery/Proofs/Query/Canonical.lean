import ClusterQuery.Proofs.Path.Printing
import ClusterQuery.Proofs.Query.PathWord
import Mathlib.Data.List.Infix

/-! Fields in canonical form. A path whose text names no alias stands for itself under them; printed, alone or in a
    call of a reducer, such a field is one word and is read back. -/

namespace ClusterQuery

open Nesting

/-- A step with no blank if it is a key between dots, and with as many opening as closing parentheses if it is one in
    brackets. -/
def Step.Plain : Step → Prop
  | .key name => ∀ c ∈ name.toList, isBlank c = false
  | .mapKey name => Balanced name.toList
  | .position _ | .index _ | .wildcard => True

instance : DecidablePred Step.Plain
  | .key name => inferInstanceAs (Decidable (∀ c ∈ name.toList, isBlank c = false))
  | .mapKey name => inferInstanceAs (Decidable (Balanced name.toList))
  | .position _ | .index _ | .wildcard => inferInstanceAs (Decidable True)

namespace Path

/-- The text before the first subscript. -/
def base (p : Path) : List Char := p.render.takeWhile (· != '[')

/-- A path that its text determines, and whose steps are plain. -/
structure Plain (p : Path) : Prop extends p.Readable where
  plain : ∀ s ∈ p.steps, s.Plain

instance (p : Path) : Decidable p.Plain :=
  decidable_of_iff (p.Readable ∧ ∀ s ∈ p.steps, s.Plain) ⟨fun h => ⟨h.1, h.2⟩, fun h => ⟨h.toReadable, h.plain⟩⟩

variable {p : Path}

theorem Plain.isBlank_of_dotted (h : p.Plain) {s : Step} (hs : s ∈ p.steps) (hdotted : s.isDotted = true) :
    ∀ c ∈ stepText false s, isBlank c = false := by
  cases s with
  | key name => exact h.plain _ hs
  | position n => exact fun c hc => isBlank_of_isDigit (isDigit_of_mem_toDigits hc)
  | index n => cases hdotted
  | mapKey name => cases hdotted
  | wildcard => cases hdotted

theorem Plain.isWord_render (h : p.Plain) : Piece.IsWord p.render := by
  refine ⟨?_, h.leads_render Brackets.ofWords_mem_scans rfl rfl fun s hs hd => h.isBlank_of_dotted hs hd⟩
  obtain ⟨s, hs, hdotted⟩ := h.dotted
  obtain ⟨steps, hsteps⟩ := List.head?_eq_some_iff.mp hs
  obtain ⟨hkey, -, -⟩ := isKeyText_of_readable (h.steps s (List.mem_of_mem_head? hs)) hdotted
  rw [render, hsteps]
  exact fun hnil => hkey.1 (List.append_eq_nil_iff.mp hnil).1

theorem Plain.solid_render (h : p.Plain) : Solid ',' p.render := by
  refine h.leads_render Brackets.ofLists_mem_scans rfl rfl fun s hs hd c hc => beq_eq_false_iff_ne.mpr fun he => ?_
  obtain ⟨hkey, -, -⟩ := isKeyText_of_readable (h.steps s hs) hd
  have := (hkey.2 c hc).1
  rw [he] at this
  cases this

theorem Plain.balanced_stepText (h : p.Plain) {s : Step} (hs : s ∈ p.steps) (joined : Bool) :
    Balanced (stepText joined s) := by
  have hdotted : s.isDotted = true → Balanced (stepText false s) := fun hd => by
    obtain ⟨hkey, -, -⟩ := isKeyText_of_readable (h.steps s hs) hd
    refine balanced_of_ne fun c hc => ?_
    have hvalid := (hkey.2 c hc).1
    constructor
    · rintro rfl
      cases hvalid
    · rintro rfl
      cases hvalid
  cases s with
  | key name => cases joined <;> exact hdotted rfl
  | position n => cases joined <;> exact hdotted rfl
  | index n =>
    have hdigits : Balanced (Nat.toDigits 10 n) := balanced_of_ne fun c hc => by
      have hdigit := isDigit_of_mem_toDigits hc
      constructor
      · rintro rfl
        cases hdigit
      · rintro rfl
        cases hdigit
    exact (show Balanced ['['] from rfl).append (hdigits.append (show Balanced [']'] from rfl))
  | wildcard => rfl
  | mapKey name =>
    have hname : Balanced name.toList := h.plain _ hs
    show Balanced (subscriptText name.toList)
    unfold subscriptText
    split
    · exact (show Balanced ['['] from rfl).append (hname.append (show Balanced [']'] from rfl))
    · split
      · exact ((show Balanced ['[', '\''] from rfl).append hname).append rfl
      · exact ((show Balanced ['[', '"'] from rfl).append hname).append rfl

theorem Plain.balanced_render (h : p.Plain) : Balanced p.render := by
  have hmore : ∀ steps : List Step, (∀ s ∈ steps, s ∈ p.steps) → Balanced (steps.flatMap (stepText true)) := by
    intro steps hmem
    induction steps with
    | nil => rfl
    | cons s steps ih =>
      obtain ⟨hs, hmem⟩ := List.forall_mem_cons.mp hmem
      exact (h.balanced_stepText hs true).append (ih hmem)
  obtain ⟨s, hs, -⟩ := h.dotted
  obtain ⟨steps, hsteps⟩ := List.head?_eq_some_iff.mp hs
  have hmem : ∀ t ∈ s :: steps, t ∈ p.steps := fun t ht => hsteps ▸ ht
  rw [render, hsteps]
  exact (h.balanced_stepText (hmem s List.mem_cons_self) false).append
    (hmore steps fun t ht => hmem t (List.mem_cons_of_mem s ht))

/-! ### The text before the first subscript -/

/-- What stands before the first subscript consists of dots and the texts between them, and ends with such a text. -/
theorem takeWhile_flatMap_stepText {steps : List Step} (h : ∀ s ∈ steps, s.Readable) :
    (∀ c ∈ (steps.flatMap (stepText true)).takeWhile (· != '['),
        c = '.' ∨ ∃ s ∈ steps, s.isDotted = true ∧ c ∈ stepText false s) ∧
      ∀ c ∈ ((steps.flatMap (stepText true)).takeWhile (· != '[')).getLast?,
        ∃ s ∈ steps, s.isDotted = true ∧ c ∈ stepText false s := by
  induction steps with
  | nil => exact ⟨(fun _ hc => nomatch hc), fun _ hc => nomatch hc⟩
  | cons s steps ih =>
    obtain ⟨hs, hsteps⟩ := List.forall_mem_cons.mp h
    obtain ⟨hall, hlast⟩ := ih hsteps
    cases hdotted : s.isDotted with
    | false =>
      -- Nothing is taken from the bracket on.
      obtain ⟨inner, htext, -, -⟩ := exists_enclosed hs hdotted true
      rw [List.flatMap_cons, htext]
      exact ⟨(fun _ hc => nomatch hc), fun _ hc => nomatch hc⟩
    | true =>
      obtain ⟨hkey, -, -⟩ := isKeyText_of_readable hs hdotted
      have hopen : ∀ c ∈ '.' :: stepText false s, (c != '[') = true :=
        List.forall_mem_cons.mpr ⟨rfl, fun c hc => by simpa using (hkey.2 c hc).2.2⟩
      rw [List.flatMap_cons, stepText_true_of_isDotted hdotted, List.takeWhile_append_of_pos hopen]
      generalize (steps.flatMap (stepText true)).takeWhile (· != '[') = rest at hall hlast
      have hmore : ∀ {c : Char}, (∃ t ∈ steps, t.isDotted = true ∧ c ∈ stepText false t) →
          ∃ t ∈ s :: steps, t.isDotted = true ∧ c ∈ stepText false t := by
        rintro c ⟨t, ht, h⟩
        exact ⟨t, List.mem_cons_of_mem s ht, h⟩
      refine ⟨fun c hc => ?_, fun c hc => ?_⟩
      · rcases List.mem_append.mp hc with hc | hc
        · rcases List.mem_cons.mp hc with rfl | hc
          · exact .inl rfl
          · exact .inr ⟨s, List.mem_cons_self, hdotted, hc⟩
        · exact (hall c hc).imp_right hmore
      · cases rest with
        | nil =>
          rw [List.append_nil, List.getLast?_cons_of_ne_nil hkey.1] at hc
          exact ⟨s, List.mem_cons_self, hdotted, List.mem_of_mem_getLast? hc⟩
        | cons d rest =>
          rw [List.getLast?_append_of_ne_nil _ (List.cons_ne_nil _ _)] at hc
          exact hmore (hlast c hc)

/-- A character between dots. -/
def IsKeyChar (p : Path) (c : Char) : Prop := ∃ s ∈ p.steps, s.isDotted = true ∧ c ∈ stepText false s

theorem Readable.base_chars (h : p.Readable) :
    (∀ c ∈ p.base, c = '.' ∨ p.IsKeyChar c) ∧ (∀ c ∈ p.base.head?, p.IsKeyChar c) ∧ ∀ c ∈ p.base.getLast?, p.IsKeyChar c := by
  obtain ⟨s, hs, hdotted⟩ := h.dotted
  obtain ⟨steps, hsteps⟩ := List.head?_eq_some_iff.mp hs
  have hmem : ∀ t ∈ s :: steps, t ∈ p.steps := fun t ht => hsteps ▸ ht
  obtain ⟨hkey, -, -⟩ := isKeyText_of_readable (h.steps s (hmem s List.mem_cons_self)) hdotted
  have hreadable : ∀ t ∈ steps, t.Readable := fun t ht => h.steps t (hmem t (List.mem_cons_of_mem s ht))
  -- The first step stands without a dot in front, unlike those behind it.
  obtain ⟨hall, hlast⟩ := takeWhile_flatMap_stepText hreadable
  have hopen : ∀ c ∈ stepText false s, (c != '[') = true := fun c hc => by simpa using (hkey.2 c hc).2.2
  have hbase : p.base = stepText false s ++ (steps.flatMap (stepText true)).takeWhile (· != '[') := by
    rw [base, render, hsteps]
    exact List.takeWhile_append_of_pos hopen
  have hfirst : ∀ c ∈ stepText false s, p.IsKeyChar c := fun c hc => ⟨s, hmem s List.mem_cons_self, hdotted, hc⟩
  have hmore : ∀ {c : Char}, (∃ t ∈ steps, t.isDotted = true ∧ c ∈ stepText false t) → p.IsKeyChar c := by
    rintro c ⟨t, ht, h⟩
    exact ⟨t, hmem t (List.mem_cons_of_mem s ht), h⟩
  rw [hbase]
  generalize (steps.flatMap (stepText true)).takeWhile (· != '[') = rest at hall hlast
  refine ⟨fun c hc => ?_, fun c hc => ?_, fun c hc => ?_⟩
  · rcases List.mem_append.mp hc with hc | hc
    · exact .inr (hfirst c hc)
    · exact (hall c hc).imp_right hmore
  · rw [List.head?_append_of_ne_nil _ hkey.1] at hc
    exact hfirst c (List.mem_of_mem_head? hc)
  · cases rest with
    | nil =>
      rw [List.append_nil] at hc
      exact hfirst c (List.mem_of_mem_getLast? hc)
    | cons d rest =>
      rw [List.getLast?_append_of_ne_nil _ (List.cons_ne_nil _ _)] at hc
      exact hmore (hlast c hc)

/-- The characters between dots are neither blanks nor invalid nor dots. -/
theorem Plain.keyChar (h : p.Plain) {c : Char} (hc : p.IsKeyChar c) :
    isBlank c = false ∧ invalidKeyChars.contains c = false ∧ c ≠ '.' := by
  obtain ⟨s, hs, hdotted, hmem⟩ := hc
  obtain ⟨hkey, hdot, -⟩ := isKeyText_of_readable (h.steps s hs) hdotted
  exact ⟨h.isBlank_of_dotted hs hdotted c hmem, (hkey.2 c hmem).1, fun he => hdot (he ▸ hmem)⟩

/-- Nothing in front of the subscripts is a blank or a parenthesis, and a bracket begins them. -/
theorem Plain.exists_base (h : p.Plain) : ∃ rest, p.render = p.base ++ rest ∧ (∀ c ∈ rest.head?, c = '[') ∧
    ∀ c ∈ p.base, isBlank c = false ∧ c ≠ '(' := by
  refine ⟨p.render.dropWhile (· != '['), List.takeWhile_append_dropWhile.symm, fun c hc => ?_, fun c hc => ?_⟩
  · simpa using head?_dropWhile_neg (· != '[') p.render hc
  · rcases h.base_chars.1 c hc with rfl | hkey
    · decide
    · obtain ⟨hblank, hvalid, -⟩ := h.keyChar hkey
      refine ⟨hblank, ?_⟩
      rintro rfl
      cases hvalid

theorem Plain.splitCall_render (h : p.Plain) : splitCall p.render = none := by
  obtain ⟨rest, hrender, hrest, hbase⟩ := h.exists_base
  rw [hrender]
  exact splitCall_of_base (fun hmem => (hbase _ hmem).2 rfl) hrest

end Path

namespace AliasTable

/-- A path that no alias stands for and that begins at no map. -/
structure Free (A : AliasTable) (p : Path) : Prop where
  unnamed : A.get? (String.ofList p.base) = none
  unmapped : ∀ start ∈ ["labels.", "annotations."], ¬start.toList <+: p.base

instance (A : AliasTable) (p : Path) : Decidable (A.Free p) :=
  decidable_of_iff (A.get? (String.ofList p.base) = none ∧ ∀ start ∈ ["labels.", "annotations."], ¬start.toList <+: p.base)
    ⟨fun h => ⟨h.1, h.2⟩, fun h => ⟨h.unnamed, h.unmapped⟩⟩

variable {A : AliasTable} {p : Path}

theorem mapEntry?_of_free (h : A.Free p) : mapEntry? p.base = none := by
  have hnone : ∀ {start rest : List Char}, dropPrefix? start p.base = some rest → ¬start <+: p.base → False :=
    fun hdrop hnot => hnot ⟨_, (dropPrefix?_eq_some.mp hdrop).symm⟩
  have hlabels : ∀ rest, dropPrefix? "labels.".toList p.base ≠ some rest := fun rest hdrop =>
    hnone hdrop (h.unmapped _ List.mem_cons_self)
  have hannotations : ∀ rest, dropPrefix? "annotations.".toList p.base ≠ some rest := fun rest hdrop =>
    hnone hdrop (h.unmapped _ (List.mem_cons_of_mem _ List.mem_cons_self))
  have h1 := Option.eq_none_iff_forall_ne_some.mpr hlabels
  have h2 := Option.eq_none_iff_forall_ne_some.mpr hannotations
  show List.findSome? _ [("labels.".toList, _), ("annotations.".toList, _)] = none
  simp only [List.findSome?_cons, h1, h2, List.findSome?_nil]

theorem trimName_eq_self {cs : List Char} (hhead : ∀ c ∈ cs.head?, c ≠ ' ' ∧ c ≠ '.')
    (hlast : ∀ c ∈ cs.getLast?, c ≠ ' ' ∧ c ≠ '.') : trimName cs = cs := by
  have hpad : ∀ {c : Char}, c ≠ ' ' ∧ c ≠ '.' → (c == ' ' || c == '.') = false := fun h => by simp [h]
  have hstart : cs.dropWhile (fun c => c == ' ' || c == '.') = cs := by
    cases cs with
    | nil => rfl
    | cons c cs => exact List.dropWhile_cons_of_neg (by simp [hpad (hhead c rfl)])
  show dropEndWhile (fun c => c == ' ' || c == '.') (cs.dropWhile fun c => c == ' ' || c == '.') = cs
  rw [hstart]
  rcases List.eq_nil_or_concat cs with rfl | ⟨front, c, rfl⟩
  · rfl
  · rw [List.concat_eq_append] at hlast ⊢
    exact dropEndWhile_append_of_neg (hpad (hlast c (by simp))) front

theorem trimName_base (hp : p.Plain) : trimName p.base = p.base := by
  obtain ⟨-, hhead, hlast⟩ := hp.base_chars
  have hpad : ∀ {c : Char}, p.IsKeyChar c → c ≠ ' ' ∧ c ≠ '.' := by
    intro c hc
    obtain ⟨hblank, -, hdot⟩ := hp.keyChar hc
    refine ⟨fun he => ?_, hdot⟩
    rw [he] at hblank
    cases hblank
  exact trimName_eq_self (fun c hc => hpad (hhead c hc)) fun c hc => hpad (hlast c hc)

/-- A text that is no call is resolved by its name and keeps its subscripts. -/
theorem resolve_of_splitCall_eq_none {cs : List Char} (h : splitCall (trim cs) = none) :
    A.resolve cs = A.resolveName (trimName ((trim cs).takeWhile (· != '['))) ((trim cs).dropWhile (· != '[')) := by
  rw [resolve]
  split
  · next hcall =>
    rw [h] at hcall
    cases hcall
  · rfl

/-- A printed path that no alias stands for stands for itself. -/
theorem resolve_render (hp : p.Plain) (h : A.Free p) : A.resolve p.render = p.render := by
  have htrim : trim p.render = p.render := trim_eq_self hp.isWord_render.trimmed
  have hcall : splitCall (trim p.render) = none := by rw [htrim, hp.splitCall_render]
  have hname : trimName (p.render.takeWhile (· != '[')) = p.base := trimName_base hp
  rw [resolve_of_splitCall_eq_none hcall, htrim, hname, resolveName, h.unnamed, mapEntry?_of_free h]
  exact List.takeWhile_append_dropWhile

end AliasTable

namespace Field

/-- A field in canonical form under some aliases. -/
structure Canonical (A : AliasTable) (f : Field) : Prop where
  path : f.path.Plain
  free : A.Free f.path

instance (A : AliasTable) (f : Field) : Decidable (f.Canonical A) :=
  decidable_of_iff (f.path.Plain ∧ A.Free f.path) ⟨fun h => ⟨h.1, h.2⟩, fun h => ⟨h.path, h.free⟩⟩

variable {A : AliasTable} {f : Field}

/-- The text of the path of a field in canonical form is a word that stands for the path. -/
theorem Canonical.pathWord (h : f.Canonical A) : PathWord A f.path f.path.render where
  isWord := h.path.isWord_render
  solid := h.path.solid_render
  whole := by
    obtain ⟨rest, hrender, hrest, hbase⟩ := h.path.exists_base
    rw [hrender]
    exact splitReducer_of_base hbase hrest
  resolved := by rw [AliasTable.resolve_render h.path h.free, h.path.splitCall_render]
  parse := by
    rw [AliasTable.resolve_render h.path h.free]
    exact h.path.parse_render h.path.isWord_render.trimmed

theorem Canonical.isWord_render (h : f.Canonical A) : Piece.IsWord f.render := isWord_callText f.reducer h.path.isWord_render

theorem Canonical.solid_render (h : f.Canonical A) : Solid ',' f.render :=
  solid_callText f.reducer h.path.isWord_render.closed h.path.solid_render

theorem Canonical.parse_render (h : f.Canonical A) :
    parse A f.render = .ok (f, callText f.reducer f.path.render) := by
  have hread := h.pathWord.parse_callText f.reducer
  rwa [if_pos h.path.balanced_render] at hread

end Field

end ClusterQuery
