import ClusterQuery.Proofs.Query.Clauses

/-! Printed clauses and what they are read as. Clauses printed one after the other are read back if no keyword
    shows in a body; a keyword that shows begins a clause of its own between those that are printed. -/

namespace ClusterQuery

open Piece

namespace ClauseText

/-- A clause after a blank, with its keyword. -/
def print (c : ClauseText) : List Char := ' ' :: c.clause.keyword.toList ++ ' ' :: c.body

/-- A clause without the blanks around its body. -/
def trimmed (c : ClauseText) : ClauseText := ⟨c.clause, trim c.body⟩

/-- A body that can be printed: some text without blanks around it, with its brackets and quotes closed. -/
structure Printable (body : List Char) : Prop where
  ne_nil : body ≠ []
  trimmed : Trimmed body
  closed : Nesting.Closed .ofWords body

/-- The clauses that begin in a text. -/
def exposed (body : List Char) : List Clause :=
  match cut body with
  | .ok ps => (split ps).2.map (·.clause)
  | .error _ => []

def keywordPieces : Clause → List Piece
  | .orderBy => [.word "ORDER".toList, .blanks [' '], .word "BY".toList]
  | clause => [.word clause.keyword.toList]

/-- The pieces of printed clauses, given those of their bodies. -/
inductive Printed : List ClauseText → List Piece → Prop
  | nil : Printed [] []
  | cons {c : ClauseText} {clauses : List ClauseText} {body ps : List Piece} (hc : Printable c.body)
      (hbody : cut c.body = .ok body) (h : Printed clauses ps) :
      Printed (c :: clauses) (.blanks [' '] :: (keywordPieces c.clause ++ (.blanks [' '] :: body ++ ps)))

theorem keywordFree_of_exposed {body : List Char} (hc : Nesting.Closed .ofWords body) (h : exposed body = []) :
    KeywordFree body := by
  obtain ⟨ps, hps⟩ := exists_cut_iff.mpr hc
  refine ⟨ps, hps, noClause_iff.mpr ?_⟩
  rw [exposed, hps] at h
  exact List.map_eq_nil_iff.mp h

theorem exists_printed {clauses : List ClauseText} (h : ∀ c ∈ clauses, Printable c.body) : ∃ ps, Printed clauses ps := by
  induction clauses with
  | nil => exact ⟨[], .nil⟩
  | cons c clauses ih =>
    obtain ⟨hc, h⟩ := List.forall_mem_cons.mp h
    obtain ⟨ps, hps⟩ := ih h
    obtain ⟨body, hbody⟩ := exists_cut_iff.mpr hc.closed
    exact ⟨_, .cons hc hbody hps⟩

/-! ### The pieces of printed clauses -/

theorem noBy_printed {clauses : List ClauseText} {ps : List Piece} (h : Printed clauses ps) : noBy ps = true := by
  cases h with
  | nil => rfl
  | @cons c _ _ _ _ _ _ => cases hc : c.clause <;> rfl

/-- A blank, pieces from word to word, and pieces that begin with a blank or not at all. -/
theorem wellCut_blank_append {ps qs : List Piece} (hne : ps ≠ []) (hps : WellCut ps)
    (hfirst : ∀ p ∈ ps.head?, p.isWord = true) (hlast : ∀ p ∈ ps.getLast?, p.isWord = true) (hqs : WellCut qs)
    (hblank : ∀ q ∈ qs.head?, q.isWord = false) : WellCut (.blanks [' '] :: (ps ++ qs)) := by
  have hvalid : Valid (.blanks [' ']) := ⟨List.cons_ne_nil _ _, blanks_space⟩
  refine wellCut_cons_iff.mpr ⟨hvalid, fun p hp => ?_, hps.append hqs fun p hp q hq => ?_⟩
  · rw [List.head?_append_of_ne_nil _ hne] at hp
    rw [hfirst p hp]
    exact Bool.false_ne_true
  · rw [hlast p hp, hblank q hq]
    exact Bool.false_ne_true.symm

theorem isWord_of_letters {w : List Char} (hne : w ≠ [])
    (h : (w.all fun c => Brackets.ofWords.isPlain c && !isBlank c) = true) : IsWord w := by
  refine isWord_of_plain hne fun c hc => ?_
  simpa using List.all_eq_true.mp h c hc

theorem wellCut_keywordPieces (clause : Clause) :
    WellCut (keywordPieces clause) ∧ (∀ p ∈ (keywordPieces clause).head?, p.isWord = true) ∧
      ∀ p ∈ (keywordPieces clause).getLast?, p.isWord = true := by
  have hone : ∀ {w : List Char}, IsWord w → WellCut [.word w] := fun hw =>
    wellCut_cons_iff.mpr ⟨hw, (fun _ hq => nomatch hq), wellCut_nil⟩
  have hword : ∀ clause : Clause, clause ≠ .orderBy → IsWord clause.keyword.toList := by
    intro clause hne
    cases clause <;> first | exact isWord_of_letters (by decide) (by decide) | exact (hne rfl).elim
  cases clause with
  | orderBy =>
    refine ⟨wellCut_cons_iff.mpr ⟨isWord_of_letters (by decide) (by decide), ?_, ?_⟩, ?_, ?_⟩
    · rintro q ⟨⟩
      exact Bool.false_ne_true.symm
    · refine wellCut_blank_append (List.cons_ne_nil (.word "BY".toList) [])
        (hone (isWord_of_letters (by decide) (by decide))) ?_ ?_ wellCut_nil fun _ hq => nomatch hq
      · rintro p ⟨⟩
        rfl
      · rintro p ⟨⟩
        rfl
    · rintro p ⟨⟩
      rfl
    · rintro p ⟨⟩
      rfl
  | select | «from» | «where» | limit =>
    refine ⟨hone (hword _ (by decide)), ?_, ?_⟩
    · rintro p ⟨⟩
      rfl
    · rintro p ⟨⟩
      rfl

theorem join_keywordPieces (clause : Clause) : join (keywordPieces clause) = clause.keyword.toList := by
  cases clause <;> rfl

theorem keywordPieces_ne_nil (clause : Clause) : keywordPieces clause ≠ [] := by
  cases clause <;> exact List.cons_ne_nil _ _

/-- The pieces of printed clauses are those of their text, which begins with a blank. -/
theorem Printed.wellCut {clauses : List ClauseText} {ps : List Piece} (h : Printed clauses ps) :
    WellCut ps ∧ join ps = clauses.flatMap print ∧ (∀ p ∈ ps.head?, p = .blanks [' ']) ∧
      ∀ p ∈ ps.getLast?, p.isWord = true := by
  induction h with
  | nil => exact ⟨wellCut_nil, rfl, (fun _ hp => nomatch hp), fun _ hp => nomatch hp⟩
  | @cons c clauses body ps hc hbody _ ih =>
    obtain ⟨hps, hjoin, hhead, hlast⟩ := ih
    obtain ⟨hcut, hbodyjoin⟩ := cut_eq_ok_iff.mp hbody
    have ht : Trimmed (join body) := hbodyjoin ▸ hc.trimmed
    have hne : body ≠ [] := fun hnil => hc.ne_nil (by rw [← hbodyjoin, hnil, join_nil])
    obtain ⟨hkw, hkwhead, hkwlast⟩ := wellCut_keywordPieces c.clause
    have hrest : WellCut (.blanks [' '] :: (body ++ ps)) :=
      wellCut_blank_append hne hcut (isWord_head hcut ht) (isWord_getLast hcut ht) hps fun q hq => by
        rw [hhead q hq, isWord_blanks]
    refine ⟨?_, ?_, ?_, ?_⟩
    · refine wellCut_blank_append (keywordPieces_ne_nil c.clause) hkw hkwhead hkwlast hrest fun q hq => ?_
      cases hq
      rfl
    · rw [join_cons, join_append, join_keywordPieces, List.cons_append, join_cons, join_append, hbodyjoin, hjoin,
        List.flatMap_cons]
      simp [print]
    · rintro p ⟨⟩
      rfl
    -- The last piece is that of the clauses behind, or of this body if there are none.
    · intro p hp
      rw [List.getLast?_cons_of_ne_nil (by simp), List.getLast?_append_of_ne_nil _ (by simp), List.cons_append,
        List.getLast?_cons_of_ne_nil (by simp [hne])] at hp
      rcases List.eq_nil_or_concat ps with rfl | ⟨qs, q, rfl⟩
      · rw [List.append_nil] at hp
        exact isWord_getLast hcut ht p hp
      · rw [List.concat_eq_append] at *
        rw [List.getLast?_append_of_ne_nil _ (by simp)] at hp
        exact hlast p hp

/-! ### Splitting printed clauses -/

theorem split_blanks (bs : List Char) (ps : List Piece) :
    split (.blanks bs :: ps) = (bs ++ (split ps).1, (split ps).2) := split_text rfl rfl

theorem split_keywordPieces (clause : Clause) (ps : List Piece) :
    split (keywordPieces clause ++ ps) = ([], ⟨clause, (split ps).1⟩ :: (split ps).2) := by
  cases clause with
  | orderBy => exact split_orderBy (by decide)
  | select | «from» | «where» | limit => exact split_keyword (by decide)

/-- A printed clause, its body split on its own. -/
theorem split_printed {clause : Clause} {body ps : List Piece} (hby : noBy ps = true) :
    split (.blanks [' '] :: (keywordPieces clause ++ (.blanks [' '] :: body ++ ps))) =
      ([' '], ⟨clause, (combine (' ' :: (split body).1) (split body).2 (split ps)).1⟩ ::
        (combine (' ' :: (split body).1) (split body).2 (split ps)).2) := by
  rw [split_blanks, split_keywordPieces, split_append hby, split_blanks]
  rfl

theorem Printed.clauses_split {clauses : List ClauseText} {ps : List Piece} (h : Printed clauses ps) :
    (split ps).2.map (·.clause) = clauses.flatMap fun c => c.clause :: exposed c.body := by
  induction h with
  | nil => rfl
  | @cons c clauses body ps hc hbody h ih =>
    rw [split_printed (noBy_printed h), List.map_cons, clauses_combine, ih, List.flatMap_cons, exposed, hbody]
    rfl

theorem Printed.blanks_split {clauses : List ClauseText} {ps : List Piece} (h : Printed clauses ps) :
    Blanks (split ps).1 := by
  cases h with
  | nil => exact blanks_nil
  | cons _ _ h =>
    rw [split_printed (noBy_printed h)]
    exact blanks_space

/-- Printed clauses whose bodies show no keyword are split into the same clauses, with blanks around the bodies. -/
theorem Printed.trimmed_split {clauses : List ClauseText} {ps : List Piece} (h : Printed clauses ps)
    (hfree : ∀ c ∈ clauses, KeywordFree c.body) : (split ps).2.map trimmed = clauses := by
  induction h with
  | nil => rfl
  | @cons c clauses body ps hc hbody h ih =>
    obtain ⟨⟨body', hbody', hno⟩, hfree⟩ := List.forall_mem_cons.mp hfree
    obtain rfl : body = body' := Except.ok.inj (hbody.symm.trans hbody')
    have hjoin : join body = c.body := (cut_eq_ok_iff.mp hbody).2
    have htrim : trim (' ' :: c.body ++ (split ps).1) = c.body := hc.trimmed.trim_between blanks_space h.blanks_split
    rw [split_printed (noBy_printed h), hno.split_eq, hjoin, combine, List.map_cons, ih hfree, ClauseText.trimmed, htrim]

/-! ### Reading printed clauses -/

/-- The pieces of printed clauses without the blank in front are those of the trimmed text. -/
theorem Printed.cut_trim {clauses : List ClauseText} {ps : List Piece} (h : Printed clauses ps) (hne : clauses ≠ []) :
    ∃ qs, cut (trim (clauses.flatMap print)) = .ok qs ∧ ps = .blanks [' '] :: qs := by
  obtain ⟨hcut, hjoin, -, hlast⟩ := h.wellCut
  cases h with
  | nil => exact (hne rfl).elim
  | @cons c clauses body ps hc hbody h =>
    refine ⟨_, cut_eq_ok_iff.mpr ⟨(wellCut_cons_iff.mp hcut).2.2, ?_⟩, rfl⟩
    have ht : Trimmed (join (keywordPieces c.clause ++ (.blanks [' '] :: body ++ ps))) := by
      refine trimmed_join (wellCut_cons_iff.mp hcut).2.2 ?_ ?_
      · intro p hp
        rw [List.head?_append_of_ne_nil _ (keywordPieces_ne_nil c.clause)] at hp
        exact (wellCut_keywordPieces c.clause).2.1 p hp
      · intro p hp
        exact hlast p (by rwa [List.getLast?_cons_of_ne_nil (by simp)])
    have htrim := ht.trim_between blanks_space blanks_nil
    rw [List.append_nil] at htrim
    rw [← hjoin]
    exact htrim.symm

/-- What printed clauses are read as, if they are read: the clauses in turn, each followed by those that show in
    its body. -/
theorem clauses_of_ofText_print {clauses : List ClauseText} (hne : clauses ≠ [])
    (hprint : ∀ c ∈ clauses, Printable c.body) {found : List ClauseText}
    (h : ofText (trim (clauses.flatMap print)) = .ok found) :
    found.map (·.clause) = clauses.flatMap (fun c => c.clause :: exposed c.body) ∧ InOrder found := by
  obtain ⟨ps, hps⟩ := exists_printed hprint
  obtain ⟨qs, hqs, rfl⟩ := hps.cut_trim hne
  obtain ⟨qs', hqs', hsplit, horder, -⟩ := ofText_eq_ok_iff.mp h
  obtain rfl : qs = qs' := Except.ok.inj (hqs.symm.trans hqs')
  have hclauses := hps.clauses_split
  rw [split_blanks, hsplit] at hclauses
  exact ⟨hclauses, horder⟩

/-- Printed clauses are read back if no keyword shows in a body and they stand in order. -/
theorem ofText_print {clauses : List ClauseText} (hne : clauses ≠ []) (hprint : ∀ c ∈ clauses, Printable c.body)
    (hfree : ∀ c ∈ clauses, KeywordFree c.body) (horder : InOrder clauses) :
    ∃ found, ofText (trim (clauses.flatMap print)) = .ok found ∧ found.map trimmed = clauses := by
  obtain ⟨ps, hps⟩ := exists_printed hprint
  obtain ⟨qs, hqs, rfl⟩ := hps.cut_trim hne
  have hfound := hps.trimmed_split hfree
  rw [split_blanks] at hfound
  refine ⟨(split qs).2, ofText_eq_ok_iff.mpr ⟨qs, hqs, ?_, ?_, ?_⟩, hfound⟩
  · have hhead : (split (.blanks [' '] :: qs)).1 = [' '] := by
      cases hps with
      | cons _ _ h => rw [split_printed (noBy_printed h)]
    rw [split_blanks] at hhead
    have : (split qs).1 = [] := by simpa using hhead
    rw [← this]
  · rw [← hfound, InOrder, List.pairwise_map] at horder
    exact horder
  · rintro hnil
    exact hne (by rw [← hfound, hnil, List.map_nil])

end ClauseText

end ClusterQuery
