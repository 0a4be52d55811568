import ClusterQuery.Proofs.Text.Characters
import ClusterQuery.Proofs.Text.Split

/-! Cutting a text at the separators outside its brackets. The pieces with separators between them are the text;
    brackets are closed in each and no separator stands outside of them, and such pieces are found again. -/

namespace ClusterQuery

open Nesting

variable {sep : Char} {s : Nesting} {cs : List Char} {pieces : List (List Char)}

/-- A piece with its brackets closed and no separator outside of them. -/
def Solid (sep : Char) (cs : List Char) : Prop := Leads .ofLists (· == sep) outside cs

theorem splitInside_nil (sep : Char) (s : Nesting) :
    splitInside sep s.depth s.quote [] = if s = outside then some [[]] else none := by
  obtain ⟨depth, quote⟩ := s
  cases quote <;> simp [splitInside, outside]

/-- Cutting goes from place to place, and only a separator outside begins a piece. -/
theorem splitInside_cons (hsep : Brackets.ofLists.isPlain sep = true) (s : Nesting) (c : Char) (cs : List Char) :
    splitInside sep s.depth s.quote (c :: cs) =
      if c = sep ∧ s = outside then (splitInside sep 0 none cs).map ([] :: ·)
      else (next .ofLists s c).bind fun t => (splitInside sep t.depth t.quote cs).map (growFirst c) := by
  obtain ⟨depth, quote⟩ := s
  cases quote with
  | some q => simp [splitInside, next, outside]
  | none =>
    by_cases hc : c = sep ∧ depth = 0
    · obtain ⟨rfl, rfl⟩ := hc
      have hplain : (isQuote c = false ∧ c ≠ '[') ∧ c ≠ ']' := by
        simpa [Brackets.isPlain, Brackets.ofLists] using hsep
      simp [splitInside, outside, hplain]
    · have hnot : ¬(c = sep ∧ (⟨depth, none⟩ : Nesting) = outside) := by simpa [outside] using hc
      simp only [splitInside, if_neg hnot, next, Brackets.ofLists, Bool.false_or, beq_iff_eq]
      split
      · rfl
      · split
        · rfl
        · split
          · cases depth <;> rfl
          · rw [if_neg (by simpa using hc)]
            rfl

theorem joinWith_growFirst (c : Char) (piece : List Char) (pieces : List (List Char)) :
    joinWith [sep] (growFirst c (piece :: pieces)) = c :: joinWith [sep] (piece :: pieces) := by
  cases pieces <;> rfl

/-- Cutting on from a place gives the rest of the piece that the place is in, and pieces. -/
theorem exists_of_splitInside (hsep : Brackets.ofLists.isPlain sep = true)
    (h : splitInside sep s.depth s.quote cs = some pieces) :
    ∃ piece rest, pieces = piece :: rest ∧ Leads .ofLists (· == sep) s piece ∧ (∀ p ∈ rest, Solid sep p) ∧
      joinWith [sep] pieces = cs := by
  induction cs generalizing s pieces with
  | nil =>
    rw [splitInside_nil] at h
    split at h
    · next hs =>
      cases h
      exact ⟨[], [], rfl, hs ▸ .nil, (fun _ hp => nomatch hp), rfl⟩
    · cases h
  | cons c cs ih =>
    rw [splitInside_cons hsep] at h
    split at h
    · next hc =>
      obtain ⟨pieces', hpieces', rfl⟩ := Option.map_eq_some_iff.mp h
      obtain ⟨piece, rest, rfl, hpiece, hrest, hjoin⟩ := ih (s := outside) hpieces'
      refine ⟨[], piece :: rest, rfl, hc.2 ▸ .nil, List.forall_mem_cons.mpr ⟨hpiece, hrest⟩, ?_⟩
      rw [joinWith_cons_of_ne_nil (List.cons_ne_nil _ _), hjoin, hc.1]
      rfl
    · next hc =>
      obtain ⟨t, ht, h⟩ := Option.bind_eq_some_iff.mp h
      obtain ⟨pieces', hpieces', rfl⟩ := Option.map_eq_some_iff.mp h
      obtain ⟨piece, rest, rfl, hpiece, hrest, hjoin⟩ := ih hpieces'
      refine ⟨c :: piece, rest, rfl, .cons (fun hs => ?_) ht hpiece, hrest, ?_⟩
      · exact beq_eq_false_iff_ne.mpr fun he => hc ⟨he, hs⟩
      · rw [joinWith_growFirst, hjoin]

theorem splitInside_of_leads (hsep : Brackets.ofLists.isPlain sep = true) {piece : List Char}
    (h : Leads .ofLists (· == sep) s piece) : splitInside sep s.depth s.quote piece = some [piece] := by
  induction h with
  | nil => rfl
  | @cons s t c cs hc hn _ ih =>
    have hnot : ¬(c = sep ∧ s = outside) := fun h => beq_eq_false_iff_ne.mp (hc h.2) h.1
    rw [splitInside_cons hsep, if_neg hnot, hn, Option.bind_some, ih]
    rfl

theorem splitInside_of_leads_cons (hsep : Brackets.ofLists.isPlain sep = true) {piece : List Char}
    (h : Leads .ofLists (· == sep) s piece) (cs : List Char) :
    splitInside sep s.depth s.quote (piece ++ sep :: cs) = (splitTopLevel sep cs).map (piece :: ·) := by
  induction h with
  | nil =>
    rw [List.nil_append, splitInside_cons hsep, if_pos ⟨rfl, rfl⟩]
    rfl
  | @cons s t c ds hc hn _ ih =>
    have hnot : ¬(c = sep ∧ s = outside) := fun h => beq_eq_false_iff_ne.mp (hc h.2) h.1
    rw [List.cons_append, splitInside_cons hsep, if_neg hnot, hn, Option.bind_some, ih, Option.map_map]
    rfl

/-- A text is cut into these pieces: solid ones that it is with separators between them. -/
theorem splitTopLevel_eq_some_iff (hsep : Brackets.ofLists.isPlain sep = true) :
    splitTopLevel sep cs = some pieces ↔ pieces ≠ [] ∧ (∀ p ∈ pieces, Solid sep p) ∧ joinWith [sep] pieces = cs := by
  constructor
  · intro h
    obtain ⟨piece, rest, rfl, hpiece, hrest, hjoin⟩ := exists_of_splitInside hsep (s := outside) h
    exact ⟨List.cons_ne_nil _ _, List.forall_mem_cons.mpr ⟨hpiece, hrest⟩, hjoin⟩
  · rintro ⟨hne, hsolid, rfl⟩
    induction pieces with
    | nil => exact (hne rfl).elim
    | cons piece rest ih =>
      obtain ⟨hpiece, hrest⟩ := List.forall_mem_cons.mp hsolid
      cases rest with
      | nil => exact splitInside_of_leads hsep hpiece
      | cons second rest =>
        rw [joinWith_cons_of_ne_nil (List.cons_ne_nil _ _), List.append_assoc]
        refine (splitInside_of_leads_cons hsep hpiece _).trans ?_
        show (splitTopLevel sep (joinWith [sep] (second :: rest))).map (piece :: ·) = _
        rw [ih (List.cons_ne_nil _ _) hrest]
        rfl

theorem splitTopLevel_ne_nil (hsep : Brackets.ofLists.isPlain sep = true) : splitTopLevel sep cs ≠ some [] :=
  fun h => ((splitTopLevel_eq_some_iff hsep).mp h).1 rfl

theorem splitTopLevel_of_plain (hsep : Brackets.ofLists.isPlain sep = true) (h : ∀ c ∈ cs, Brackets.ofLists.isPlain c = true) :
    splitTopLevel sep cs = some (splitOn sep cs) := by
  refine (splitTopLevel_eq_some_iff hsep).mpr ⟨splitOn_ne_nil sep cs, fun piece hpiece => ?_, joinWith_splitOn sep cs⟩
  refine leads_of_plain fun c hc => ?_
  obtain ⟨hmem, hne⟩ := mem_of_mem_splitOn hpiece hc
  exact ⟨h c hmem, beq_eq_false_iff_ne.mpr hne⟩

/-! ### Blanks around a text -/

variable {as bs : List Char}

theorem solid_of_blanks (hblank : isBlank sep = false) (has : Blanks as) : Solid sep as := by
  refine leads_of_plain fun c hc => ⟨(isPlain_of_isBlank (has c hc)).2, beq_eq_false_iff_ne.mpr fun he => ?_⟩
  rw [he] at hc
  exact Bool.eq_false_iff.mp hblank (has sep hc)

theorem solid_of_trim (hblank : isBlank sep = false) (h : Solid sep (trim cs)) : Solid sep cs := by
  obtain ⟨as, bs, has, hbs, hcs⟩ := exists_trim cs
  rw [hcs]
  exact (solid_of_blanks hblank has).append (h.append (solid_of_blanks hblank hbs))

/-- Blanks in front go with the first piece. -/
theorem exists_splitTopLevel_blanks_append (hsep : Brackets.ofLists.isPlain sep = true) (hblank : isBlank sep = false)
    (has : Blanks as) (h : splitTopLevel sep cs = some pieces) :
    ∃ padded, splitTopLevel sep (as ++ cs) = some padded ∧ padded.map trim = pieces.map trim := by
  obtain ⟨hne, hsolid, rfl⟩ := (splitTopLevel_eq_some_iff hsep).mp h
  match pieces, hne, hsolid with
  | first :: rest, _, hsolid =>
    obtain ⟨hfirst, hrest⟩ := List.forall_mem_cons.mp hsolid
    refine ⟨(as ++ first) :: rest, (splitTopLevel_eq_some_iff hsep).mpr ⟨List.cons_ne_nil _ _, ?_, ?_⟩, ?_⟩
    · exact List.forall_mem_cons.mpr ⟨(solid_of_blanks hblank has).append hfirst, hrest⟩
    · exact joinWith_append_cons _ _ _ _
    · rw [List.map_cons, List.map_cons, trim_blanks_append has]

/-- Blanks at the end go with the last piece. -/
theorem exists_splitTopLevel_append_blanks (hsep : Brackets.ofLists.isPlain sep = true) (hblank : isBlank sep = false)
    (hbs : Blanks bs) (h : splitTopLevel sep cs = some pieces) :
    ∃ padded, splitTopLevel sep (cs ++ bs) = some padded ∧ padded.map trim = pieces.map trim := by
  obtain ⟨hne, hsolid, rfl⟩ := (splitTopLevel_eq_some_iff hsep).mp h
  obtain ⟨init, last, rfl⟩ : ∃ init last, pieces = init ++ [last] := ⟨_, _, (List.dropLast_append_getLast hne).symm⟩
  obtain ⟨hinit, hlast⟩ := List.forall_mem_append.mp hsolid
  refine ⟨init ++ [last ++ bs], (splitTopLevel_eq_some_iff hsep).mpr ⟨by simp, ?_, joinWith_concat_append _ _ _ _⟩, ?_⟩
  · refine List.forall_mem_append.mpr ⟨hinit, List.forall_mem_singleton.mpr ?_⟩
    exact (List.forall_mem_singleton.mp hlast).append (solid_of_blanks hblank hbs)
  · rw [List.map_append, List.map_append, List.map_singleton, List.map_singleton, trim_append_blanks hbs]

/-- A text is cut into the pieces of its trimmed form, but for the blanks around them. -/
theorem exists_splitTopLevel_of_trim (hsep : Brackets.ofLists.isPlain sep = true) (hblank : isBlank sep = false)
    (h : splitTopLevel sep (trim cs) = some pieces) :
    ∃ padded, splitTopLevel sep cs = some padded ∧ padded.map trim = pieces.map trim := by
  obtain ⟨as, bs, has, hbs, hcs⟩ := exists_trim cs
  obtain ⟨ended, hended, htrim⟩ := exists_splitTopLevel_append_blanks hsep hblank hbs h
  obtain ⟨padded, hpadded, htrim'⟩ := exists_splitTopLevel_blanks_append hsep hblank has hended
  rw [← hcs] at hpadded
  exact ⟨padded, hpadded, htrim'.trans htrim⟩

end ClusterQuery
