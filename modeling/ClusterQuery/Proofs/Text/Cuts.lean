import ClusterQuery.Proofs.Text.Matched
import ClusterQuery.Proofs.Text.TopLevel

/-! Where a text is cut into pieces: at every separator before which nothing is open, and nowhere else. It is refused
    only for a bracket that closes nothing or for what is left open at its end. -/

namespace ClusterQuery

open Nesting

variable {sep : Char} {s : Nesting} {cs before after : List Char} {pieces lefts rights : List (List Char)}

/-! ### Texts that are cut -/

/-- There are no pieces exactly where the scan does not come outside at the end. -/
theorem splitInside_eq_none_iff (hsep : Brackets.ofLists.isPlain sep = true) :
    splitInside sep s.depth s.quote cs = none ↔ run .ofLists s cs ≠ some outside := by
  induction cs generalizing s with
  | nil => simp [splitInside_nil, run]
  | cons c cs ih =>
    rw [splitInside_cons hsep, run]
    split
    · next hc =>
      obtain ⟨rfl, rfl⟩ := hc
      rw [next_of_plain sound_outside hsep, Option.map_eq_none_iff, Option.bind_some]
      exact ih (s := outside)
    · cases next .ofLists s c with
      | none => simp
      | some t => simpa using ih

theorem splitTopLevel_eq_none_iff (hsep : Brackets.ofLists.isPlain sep = true) :
    splitTopLevel sep cs = none ↔ ¬Closed .ofLists cs := splitInside_eq_none_iff (s := outside) hsep

theorem exists_splitTopLevel_iff (hsep : Brackets.ofLists.isPlain sep = true) :
    (∃ pieces, splitTopLevel sep cs = some pieces) ↔ Closed .ofLists cs := by
  rw [← Option.ne_none_iff_exists', Ne, splitTopLevel_eq_none_iff hsep, not_not]

/-! ### The cuts -/

/-- Texts that are cut are cut on their own with a separator between them. -/
theorem splitTopLevel_append_cons (hsep : Brackets.ofLists.isPlain sep = true)
    (hlefts : splitTopLevel sep before = some lefts) (hrights : splitTopLevel sep after = some rights) :
    splitTopLevel sep (before ++ sep :: after) = some (lefts ++ rights) := by
  obtain ⟨hl, hlsolid, rfl⟩ := (splitTopLevel_eq_some_iff hsep).mp hlefts
  obtain ⟨hr, hrsolid, rfl⟩ := (splitTopLevel_eq_some_iff hsep).mp hrights
  refine (splitTopLevel_eq_some_iff hsep).mpr ⟨List.append_ne_nil_of_left_ne_nil hl rights, ?_, ?_⟩
  · exact List.forall_mem_append.mpr ⟨hlsolid, hrsolid⟩
  · rw [joinWith_append hl hr, List.append_assoc]
    rfl

/-- The texts before and after the separator between two of the pieces. -/
def CutAt (sep : Char) (pieces : List (List Char)) (before after : List Char) : Prop :=
  ∃ lefts rights, pieces = lefts ++ rights ∧ lefts ≠ [] ∧ rights ≠ [] ∧
    joinWith [sep] lefts = before ∧ joinWith [sep] rights = after

/-- Separators stand between pieces exactly where nothing is open before them. -/
theorem cutAt_iff (hsep : Brackets.ofLists.isPlain sep = true) (h : splitTopLevel sep cs = some pieces) :
    CutAt sep pieces before after ↔ cs = before ++ sep :: after ∧ OpenAfter outside before := by
  rw [← closed_iff_openAfter]
  constructor
  · rintro ⟨lefts, rights, rfl, hl, hr, rfl, rfl⟩
    obtain ⟨-, hsolid, rfl⟩ := (splitTopLevel_eq_some_iff hsep).mp h
    refine ⟨?_, (exists_splitTopLevel_iff hsep).mp ⟨lefts, (splitTopLevel_eq_some_iff hsep).mpr ⟨hl, ?_, rfl⟩⟩⟩
    · rw [joinWith_append hl hr, List.append_assoc]
      rfl
    · exact fun p hp => hsolid p (List.mem_append_left rights hp)
  · rintro ⟨rfl, hbefore⟩
    have hclosed : Closed .ofLists (before ++ sep :: after) := (exists_splitTopLevel_iff hsep).mp ⟨pieces, h⟩
    have hafter : Closed .ofLists after := by
      have hsepafter : Closed .ofLists ([sep] ++ after) := hclosed.of_append_left hbefore
      exact hsepafter.of_append_left (closed_of_plain (List.forall_mem_singleton.mpr hsep))
    obtain ⟨lefts, hlefts⟩ := (exists_splitTopLevel_iff hsep).mpr hbefore
    obtain ⟨rights, hrights⟩ := (exists_splitTopLevel_iff hsep).mpr hafter
    rw [splitTopLevel_append_cons hsep hlefts hrights] at h
    cases h
    obtain ⟨hl, -, hbefore⟩ := (splitTopLevel_eq_some_iff hsep).mp hlefts
    obtain ⟨hr, -, hafter⟩ := (splitTopLevel_eq_some_iff hsep).mp hrights
    exact ⟨lefts, rights, rfl, hl, hr, hbefore, hafter⟩

/-- A text is refused exactly if, read from left to right with quotes counted only in brackets, a bracket is closed where
    nothing is open, or a bracket or a quote is left open. Otherwise its pieces with separators between them are the text,
    it is cut at exactly the separators before which nothing is open, and every piece on its own is one piece. -/
theorem splitTopLevel_cuts_outside_brackets (hsep : Brackets.ofLists.isPlain sep = true) (cs : List Char) :
    (splitTopLevel sep cs = none ↔ ClosesNothing cs ∨ LeavesOpen cs) ∧
    ∀ pieces, splitTopLevel sep cs = some pieces →
      pieces ≠ [] ∧ joinWith [sep] pieces = cs ∧
      (∀ before after, CutAt sep pieces before after ↔ cs = before ++ sep :: after ∧ OpenAfter outside before) ∧
      ∀ piece ∈ pieces, splitTopLevel sep piece = some [piece] := by
  refine ⟨(splitTopLevel_eq_none_iff hsep).trans not_closed_iff, fun pieces h => ?_⟩
  obtain ⟨hne, hsolid, hjoin⟩ := (splitTopLevel_eq_some_iff hsep).mp h
  exact ⟨hne, hjoin, fun _ _ => cutAt_iff hsep h, fun piece hpiece => splitInside_of_leads hsep (hsolid piece hpiece)⟩

/-- A comma in a bracket is not cut at, a bracket in quotes closes none, and a quote outside of brackets hides nothing. -/
theorem splitTopLevel_cuts_outside_brackets_of_quoted_bracket :
    Brackets.ofLists.isPlain ',' = true ∧
    (ClosesNothing "a['b],c".toList ∨ LeavesOpen "a['b],c".toList) ∧
    splitTopLevel ',' "é[']',[0]],\"b,c".toList = some ["é[']',[0]]".toList, "\"b".toList, "c".toList] ∧
    joinWith [','] ["é[']',[0]]".toList, "\"b".toList, "c".toList] = "é[']',[0]],\"b,c".toList ∧
    (∀ before after, CutAt ',' ["é[']',[0]]".toList, "\"b".toList, "c".toList] before after ↔
      "é[']',[0]],\"b,c".toList = before ++ ',' :: after ∧ OpenAfter outside before) ∧
    ∀ piece ∈ ["é[']',[0]]".toList, "\"b".toList, "c".toList], splitTopLevel ',' piece = some [piece] := by
  have hsep : Brackets.ofLists.isPlain ',' = true := by decide
  have hrefused : splitTopLevel ',' "a['b],c".toList = none := by decide
  have hpieces : splitTopLevel ',' "é[']',[0]],\"b,c".toList = some ["é[']',[0]]".toList, "\"b".toList, "c".toList] := by
    decide
  obtain ⟨-, hjoin, hcuts, hsingle⟩ := (splitTopLevel_cuts_outside_brackets hsep _).2 _ hpieces
  exact ⟨hsep, (splitTopLevel_cuts_outside_brackets hsep _).1.mp hrefused, hpieces, hjoin, hcuts, hsingle⟩

end ClusterQuery
