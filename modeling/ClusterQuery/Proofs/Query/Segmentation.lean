import ClusterQuery.Proofs.Query.Reading

/-! Clauses written one after the other. Whatever the case of the keywords, whatever blanks stand around them and whatever
    the bodies hold, as long as no keyword shows in a body: a query is read exactly if the clauses stand in their order and
    each of its parts is read from the body of its own clause. -/

namespace ClusterQuery

open Piece

namespace ClauseText

variable {clause : Clause} {clauses found : List ClauseText} {ps : List Piece}
  {bs cs keyword gap body after rest text : List Char}

/-! ### Blanks around a body -/

theorem NoClause.blanks_cons (h : NoClause ps) (bs : List Char) : NoClause (.blanks bs :: ps) :=
  noClause_cons_iff.mpr ⟨rfl, rfl, h⟩

theorem NoClause.append_blanks (h : NoClause ps) (bs : List Char) : NoClause (ps ++ [.blanks bs]) := by
  rw [noClause_iff, split_append rfl, h.split_eq]
  rfl

theorem KeywordFree.blanks_append (h : KeywordFree cs) (hbs : Blanks bs) : KeywordFree (bs ++ cs) := by
  by_cases hne : bs = []
  · rwa [hne, List.nil_append]
  obtain ⟨ps, hps, hno⟩ := h
  obtain ⟨hcut, rfl⟩ := cut_eq_ok_iff.mp hps
  match ps, hcut, hno with
  | .blanks as :: ps, hcut, hno =>
    obtain ⟨has, hhead, hcut⟩ := wellCut_cons_iff.mp hcut
    refine ⟨.blanks (bs ++ as) :: ps, cut_eq_ok_iff.mpr ⟨wellCut_cons_iff.mpr ⟨⟨?_, hbs.append has.2⟩, hhead, hcut⟩, ?_⟩,
      (noClause_cons_iff.mp hno).2.2.blanks_cons _⟩
    · exact List.append_ne_nil_of_left_ne_nil hne as
    · simp
  | [], hcut, hno => exact ⟨[.blanks bs], cut_eq_ok_iff.mpr ⟨wellCut_cons_iff.mpr ⟨⟨hne, hbs⟩, nofun, hcut⟩, rfl⟩,
      hno.blanks_cons bs⟩
  | .word w :: ps, hcut, hno =>
    refine ⟨.blanks bs :: .word w :: ps, cut_eq_ok_iff.mpr ⟨wellCut_cons_iff.mpr ⟨⟨hne, hbs⟩, ?_, hcut⟩, rfl⟩,
      hno.blanks_cons bs⟩
    rintro p ⟨⟩
    exact Bool.false_ne_true

theorem KeywordFree.append_blanks (h : KeywordFree cs) (hbs : Blanks bs) : KeywordFree (cs ++ bs) := by
  by_cases hne : bs = []
  · rwa [hne, List.append_nil]
  obtain ⟨ps, hps, hno⟩ := h
  obtain ⟨hcut, rfl⟩ := cut_eq_ok_iff.mp hps
  have hone : ∀ {as : List Char}, as ≠ [] → Blanks as → WellCut [.blanks as] := fun hne has =>
    wellCut_cons_iff.mpr ⟨⟨hne, has⟩, nofun, wellCut_nil⟩
  rcases List.eq_nil_or_concat ps with rfl | ⟨qs, p, rfl⟩
  · exact ⟨[.blanks bs], cut_eq_ok_iff.mpr ⟨hone hne hbs, by simp⟩, hno.blanks_cons bs⟩
  rw [List.concat_eq_append] at *
  have hprefix : qs <:+: qs ++ [p] := (List.prefix_append qs [p]).isInfix
  have hjoint := (List.isChain_append.mp hcut.alternating).2.2
  -- Blanks at the end become one run with those that follow.
  cases p with
  | blanks as =>
    obtain ⟨has, hblanks⟩ : as ≠ [] ∧ Blanks as := hcut.valid (.blanks as) (by simp)
    refine ⟨qs ++ [.blanks (as ++ bs)], cut_eq_ok_iff.mpr ⟨(hcut.of_infix hprefix).append (hone ?_ ?_) ?_, ?_⟩,
      (hno.of_infix hprefix).append_blanks _⟩
    · exact List.append_ne_nil_of_left_ne_nil has bs
    · exact hblanks.append hbs
    · rintro p hp q ⟨⟩
      exact hjoint p hp (.blanks as) rfl
    · simp
  | word w =>
    refine ⟨qs ++ [.word w] ++ [.blanks bs], cut_eq_ok_iff.mpr ⟨hcut.append (hone hne hbs) ?_, ?_⟩, hno.append_blanks bs⟩
    · intro p hp q hq
      cases hq
      obtain rfl : Piece.word w = p := by simpa using hp
      exact Bool.false_ne_true.symm
    · simp

theorem KeywordFree.trim (h : KeywordFree cs) : KeywordFree (trim cs) := by
  obtain ⟨ps, hps, hno⟩ := h
  obtain ⟨hcut, rfl⟩ := cut_eq_ok_iff.mp hps
  obtain ⟨qs, hqs, hjoin⟩ := hcut.exists_trim
  exact ⟨qs, cut_eq_ok_iff.mpr ⟨hcut.of_infix hqs, hjoin⟩, hno.of_infix hqs⟩

/-! ### Keywords -/

/-- The spellings of a keyword: any case, and any blanks between two words. -/
inductive Spells : Clause → List Char → Prop
  | word {clause : Clause} {w : List Char} (h : sameIgnoringCase w clause.keyword.toList = true)
      (hclause : clause ≠ .orderBy) : Spells clause w
  | orderBy {order gap by' : List Char} (horder : sameIgnoringCase order "ORDER".toList = true)
      (hgap : Blanks gap) (hne : gap ≠ []) (hby : sameIgnoringCase by' "BY".toList = true) :
      Spells .orderBy (order ++ gap ++ by')

theorem noBy_word_cons (w : List Char) (ps : List Piece) : noBy (.word w :: ps) = !sameIgnoringCase w "by".toList := rfl

/-- Pieces that begin a clause, whatever follows. -/
structure Begins (clause : Clause) (ps : List Piece) : Prop where
  wellCut : WellCut ps
  ne_nil : ps ≠ []
  head : ∀ p ∈ ps.head?, p.isWord = true
  last : ∀ p ∈ ps.getLast?, p.isWord = true
  noBy (qs : List Piece) : noBy (ps ++ qs) = true
  split (qs : List Piece) : ClauseText.split (ps ++ qs) = ([], ⟨clause, (ClauseText.split qs).1⟩ :: (ClauseText.split qs).2)

theorem isWord_of_sameIgnoringCase {w letters : List Char} (h : sameIgnoringCase w letters = true)
    (hletters : ((lowerText letters).all isAsciiLetter) = true) (hne : letters ≠ []) : IsWord w := by
  refine isWord_of_plain ?_ fun c hc => ?_
  · rintro rfl
    cases letters with
    | nil => exact hne rfl
    | cons c letters => cases h
  · have := isTitleChar_of_isAsciiLetter (isAsciiLetter_of_sameIgnoringCase h hletters c hc)
    exact ⟨(isPlain_of_isTitleChar this).1, isBlank_of_isTitleChar this⟩

theorem clauseOf?_of_keyword {w : List Char} (h : sameIgnoringCase w clause.keyword.toList = true) (hclause : clause ≠ .orderBy) :
    clauseOf? w = some clause ∧ sameIgnoringCase w "by".toList = false := by
  simp only [clauseOf?, sameIgnoringCase, beq_iff_eq.mp h]
  revert hclause
  cases clause <;> decide

theorem begins_of_clauseOf? {w : List Char} (hw : IsWord w) (hclause : clauseOf? w = some clause)
    (hby : sameIgnoringCase w "by".toList = false) : Begins clause [.word w] where
  wellCut := wellCut_cons_iff.mpr ⟨hw, nofun, wellCut_nil⟩
  ne_nil := List.cons_ne_nil _ _
  head := by rintro p ⟨⟩; rfl
  last := by rintro p ⟨⟩; rfl
  noBy qs := by
    rw [List.singleton_append, noBy_word_cons, hby, Bool.not_false]
  split qs := split_keyword hclause

theorem begins_orderBy {order gap by' : List Char} (horder : sameIgnoringCase order "ORDER".toList = true)
    (hgap : Blanks gap) (hne : gap ≠ []) (hby : sameIgnoringCase by' "BY".toList = true) :
    Begins .orderBy [.word order, .blanks gap, .word by'] where
  wellCut := by
    have horder : IsWord order := isWord_of_sameIgnoringCase horder (by decide) (by decide)
    have hby : IsWord by' := isWord_of_sameIgnoringCase hby (by decide) (by decide)
    refine wellCut_cons_iff.mpr ⟨horder, ?_, wellCut_cons_iff.mpr ⟨⟨hne, hgap⟩, ?_, ?_⟩⟩
    · rintro q ⟨⟩
      exact Bool.false_ne_true.symm
    · rintro q ⟨⟩
      exact Bool.false_ne_true
    · exact wellCut_cons_iff.mpr ⟨hby, nofun, wellCut_nil⟩
  ne_nil := List.cons_ne_nil _ _
  head := by rintro p ⟨⟩; rfl
  last := by rintro p ⟨⟩; rfl
  noBy qs := by
    have horder : sameIgnoringCase order "by".toList = false := by
      rw [sameIgnoringCase, beq_iff_eq.mp horder]
      decide
    rw [List.cons_append, noBy_word_cons, horder, Bool.not_false]
  split qs := by
    refine split_orderBy ?_
    rw [isOrderBy, sameIgnoringCase, sameIgnoringCase, beq_iff_eq.mp horder, beq_iff_eq.mp hby]
    decide

theorem Spells.exists_begins (h : Spells clause keyword) : ∃ ps, join ps = keyword ∧ Begins clause ps := by
  cases h with
  | word h hclause =>
    obtain ⟨hof, hby⟩ := clauseOf?_of_keyword h hclause
    have hword : IsWord keyword := by
      refine isWord_of_sameIgnoringCase h ?_ ?_
      · cases clause <;> first | decide | exact (hclause rfl).elim
      · cases clause <;> decide
    exact ⟨[.word keyword], by simp, begins_of_clauseOf? hword hof hby⟩
  | @orderBy order gap by' horder hgap hne hby =>
    exact ⟨[.word order, .blanks gap, .word by'], by simp, begins_orderBy horder hgap hne hby⟩

theorem Spells.ne_nil (h : Spells clause keyword) : keyword ≠ [] := by
  obtain ⟨ps, rfl, hps⟩ := h.exists_begins
  match ps, hps with
  | .word w :: ps, hps =>
    have hw : IsWord w := hps.wellCut.valid _ List.mem_cons_self
    exact List.append_ne_nil_of_left_ne_nil hw.1 _
  | .blanks bs :: ps, hps => exact (Bool.false_ne_true (hps.head _ rfl)).elim
  | [], hps => exact (hps.ne_nil rfl).elim

theorem Spells.trimmed (h : Spells clause keyword) : Trimmed keyword := by
  obtain ⟨ps, rfl, hps⟩ := h.exists_begins
  exact trimmed_join hps.wellCut hps.head hps.last

/-! ### One clause before others -/

/-- Pieces that begin with a clause are split into their clauses, which are all of their text. -/
structure Splits (ps : List Piece) (clauses : List ClauseText) : Prop where
  wellCut : WellCut ps
  noBy : noBy ps = true
  head : ∀ p ∈ ps.head?, p.isWord = true
  split : ClauseText.split ps = ([], clauses)

theorem splits_nil : Splits [] [] := ⟨wellCut_nil, rfl, nofun, rfl⟩

theorem head?_isWord_of_blank (hcut : WellCut ps) (hblank : ∀ c ∈ (join ps).head?, isBlank c = true) :
    ∀ p ∈ ps.head?, p.isWord = false := by
  intro p hp
  match ps, hp with
  | .blanks cs :: ps, rfl => rfl
  | .word w :: ps, rfl =>
    have hw : IsWord w := hcut.valid _ List.mem_cons_self
    rw [join_cons, text_word, List.head?_append_of_ne_nil _ hw.1] at hblank
    have hc := List.head?_eq_some_head hw.1
    exact ((Bool.eq_false_iff.mp (hw.trimmed.head _ hc)) (hblank _ hc)).elim

theorem getLast?_isWord_of_blank (hcut : WellCut ps) (hblank : ∀ c ∈ (join ps).getLast?, isBlank c = true) :
    ∀ p ∈ ps.getLast?, p.isWord = false := by
  intro p hp
  rcases List.eq_nil_or_concat ps with rfl | ⟨qs, q, rfl⟩
  · cases hp
  rw [List.concat_eq_append] at *
  obtain rfl : q = p := by simpa using hp
  cases q with
  | blanks cs => rfl
  | word w =>
    have hw : IsWord w := hcut.valid (.word w) (by simp)
    rw [join_append, join_cons, join_nil, List.append_nil, text_word, List.getLast?_append_of_ne_nil _ hw.1] at hblank
    have hc := List.getLast?_eq_some_getLast hw.1
    exact ((Bool.eq_false_iff.mp (hw.trimmed.last _ hc)) (hblank _ hc)).elim

/-- A keyword, and the pieces after it. -/
theorem Begins.splits {ks rs : List Piece} (hks : Begins clause ks) (hrs : WellCut rs) (hhead : ∀ p ∈ rs.head?, p.isWord = false) :
    Splits (ks ++ rs) (⟨clause, (ClauseText.split rs).1⟩ :: (ClauseText.split rs).2) := by
  refine ⟨hks.wellCut.append hrs fun p hp q hq => ?_, hks.noBy rs, fun p hp => ?_, hks.split rs⟩
  · rw [hks.last p hp, hhead q hq]
    exact Bool.false_ne_true.symm
  · rw [List.head?_append_of_ne_nil _ hks.ne_nil] at hp
    exact hks.head p hp

/-- A keyword, and pieces up to the clauses after it. A clause may begin in these pieces too. -/
theorem Begins.splits_before {ks bs qs : List Piece} (hks : Begins clause ks) (hbs : WellCut bs)
    (hhead : ∀ c ∈ (join bs).head?, isBlank c = true)
    (hlast : qs ≠ [] → join bs ≠ [] ∧ ∀ c ∈ (join bs).getLast?, isBlank c = true) (hqs : Splits qs clauses) :
    Splits (ks ++ (bs ++ qs)) (⟨clause, (combine (ClauseText.split bs).1 (ClauseText.split bs).2 ([], clauses)).1⟩ ::
      (combine (ClauseText.split bs).1 (ClauseText.split bs).2 ([], clauses)).2) := by
  rw [← hqs.split, ← split_append hqs.noBy]
  refine hks.splits (hbs.append hqs.wellCut fun p hp q hq => ?_) fun p hp => ?_
  · have hne : qs ≠ [] := by
      rintro rfl
      cases hq
    rw [hqs.head q hq, getLast?_isWord_of_blank hbs (hlast hne).2 p hp]
    exact Bool.false_ne_true
  · cases bs with
    | nil =>
      have hne : qs ≠ [] := by
        rintro rfl
        cases hp
      exact ((hlast hne).1 rfl).elim
    | cons b bs => exact head?_isWord_of_blank hbs hhead p hp

/-- A keyword, and its body up to the clauses after it. -/
theorem exists_splits_append {qs : List Piece} (hkeyword : Spells clause keyword) (hbody : KeywordFree body)
    (hhead : ∀ c ∈ body.head?, isBlank c = true) (hlast : qs ≠ [] → body ≠ [] ∧ ∀ c ∈ body.getLast?, isBlank c = true)
    (hqs : Splits qs clauses) :
    ∃ ps, join ps = keyword ++ body ++ join qs ∧ Splits ps (⟨clause, body⟩ :: clauses) := by
  obtain ⟨ks, rfl, hks⟩ := hkeyword.exists_begins
  obtain ⟨bs, hbs, hno⟩ := hbody
  obtain ⟨hcut, rfl⟩ := cut_eq_ok_iff.mp hbs
  have hsplits := hks.splits_before hcut hhead hlast hqs
  rw [hno.split_eq, combine, List.append_nil] at hsplits
  exact ⟨ks ++ (bs ++ qs), by simp, hsplits⟩

/-! ### Clauses one after the other -/

/-- Clauses as a user may write them. Blanks stand after a keyword that something follows, and after a body that another
    clause follows; the body itself may begin and end with more of them. -/
inductive Written : List ClauseText → List Char → Prop
  | nil : Written [] []
  | cons {clause : Clause} {clauses : List ClauseText} {keyword gap body after rest : List Char}
      (hkeyword : Spells clause keyword) (hbody : KeywordFree body) (hgap : Blanks gap) (hafter : Blanks after)
      (hgapped : body ++ rest ≠ [] → gap ≠ []) (hseparated : body ≠ [] → rest ≠ [] → after ≠ [])
      (hrest : Written clauses rest) :
      Written (⟨clause, body⟩ :: clauses) (keyword ++ (gap ++ body ++ after) ++ rest)

theorem isBlank_head?_append (hgap : Blanks gap) (h : gap = [] → Blanks rest) :
    ∀ c ∈ (gap ++ rest).head?, isBlank c = true := by
  intro c hc
  by_cases hne : gap = []
  · rw [hne, List.nil_append] at hc
    exact h hne c (List.mem_of_mem_head? hc)
  · rw [List.head?_append_of_ne_nil _ hne] at hc
    exact hgap c (List.mem_of_mem_head? hc)

theorem isBlank_getLast?_append (hafter : Blanks after) (h : after = [] → Blanks body) :
    ∀ c ∈ (body ++ after).getLast?, isBlank c = true := by
  intro c hc
  by_cases hne : after = []
  · rw [hne, List.append_nil] at hc
    exact h hne c (List.mem_of_mem_getLast? hc)
  · rw [List.getLast?_append_of_ne_nil _ hne] at hc
    exact hafter c (List.mem_of_mem_getLast? hc)

/-- The body of the last clause loses the blanks at its end. -/
theorem exists_trim_body (hkeyword : Trimmed keyword) (hne : keyword ≠ []) (hfree : KeywordFree body)
    (hhead : ∀ c ∈ body.head?, isBlank c = true) :
    ∃ body', trim (keyword ++ body) = keyword ++ body' ∧ KeywordFree body' ∧ trim body' = trim body ∧
      ∀ c ∈ body'.head?, isBlank c = true := by
  obtain ⟨as, bs, has, hbs, heq⟩ := exists_trim body
  by_cases hblank : trim body = []
  · refine ⟨[], ?_, ⟨[], rfl, noClause_nil⟩, hblank.symm, nofun⟩
    have hbody : Blanks body := trim_eq_nil_iff.mp hblank
    simpa using hkeyword.trim_between blanks_nil hbody
  refine ⟨as ++ trim body, ?_, hfree.trim.blanks_append has, ?_, fun c hc => hhead c ?_⟩
  · have htrimmed : Trimmed (keyword ++ (as ++ trim body)) :=
      trimmed_append hne (List.append_ne_nil_of_right_ne_nil as hblank) hkeyword.head fun c hc =>
        (trimmed_trim body).last c (by rwa [List.getLast?_append_of_ne_nil _ hblank] at hc)
    have := htrimmed.trim_between blanks_nil hbs
    rwa [List.nil_append, List.append_assoc, List.append_assoc, ← heq] at this
  · simpa [trim_trim] using trim_append_of_blanks has blanks_nil (trim body)
  · rw [heq, ← List.append_assoc, List.head?_append_of_ne_nil _ (List.append_ne_nil_of_right_ne_nil as hblank)]
    exact hc

theorem trim_gap_append (hgap : Blanks gap) (hafter : Blanks after) : trim (gap ++ body ++ after) = trim body := by
  rw [List.append_assoc, trim_append_of_blanks hgap hafter]

theorem exists_splits_last (hkeyword : Spells clause keyword) (hbody : KeywordFree body) (hgap : Blanks gap)
    (hafter : Blanks after) (hgapped : body ≠ [] → gap ≠ []) :
    ∃ ps body', join ps = trim (keyword ++ (gap ++ body ++ after)) ∧ Splits ps [⟨clause, body'⟩] ∧ trim body' = trim body := by
  have hfree : KeywordFree (gap ++ body ++ after) := (hbody.blanks_append hgap).append_blanks hafter
  have hhead : ∀ c ∈ (gap ++ body ++ after).head?, isBlank c = true := by
    rw [List.append_assoc]
    refine isBlank_head?_append hgap fun hnil => ?_
    obtain rfl : body = [] := by
      by_contra hne
      exact hgapped hne hnil
    exact hafter
  obtain ⟨body', htrim, hfree, hbody', hhead⟩ := exists_trim_body hkeyword.trimmed hkeyword.ne_nil hfree hhead
  obtain ⟨ps, hps, hsplits⟩ := exists_splits_append hkeyword hfree hhead (fun h => (h rfl).elim) splits_nil
  refine ⟨ps, body', ?_, hsplits, hbody'.trans (trim_gap_append hgap hafter)⟩
  rw [hps, htrim, join_nil, List.append_nil]

/-- A clause with others after it; the blanks before the next keyword are counted to its body. -/
theorem exists_splits_before {qs : List Piece} (hkeyword : Spells clause keyword) (hbody : KeywordFree body)
    (hgap : Blanks gap) (hafter : Blanks after) (hgapne : gap ≠ []) (hseparated : body ≠ [] → after ≠ [])
    (hrest : trim rest ≠ []) (hjoin : join qs = trim rest) (hqs : Splits qs found) :
    ∃ ps body', join ps = trim (keyword ++ (gap ++ body ++ after) ++ rest) ∧ Splits ps (⟨clause, body'⟩ :: found) ∧
      trim body' = trim body := by
  -- The rest is trimmed, and the blanks in front of it are counted to the body.
  obtain ⟨as, bs, has, hbs, heq⟩ := exists_trim rest
  have hafter' : Blanks (after ++ as) := hafter.append has
  have hfree : KeywordFree (gap ++ body ++ (after ++ as)) := (hbody.blanks_append hgap).append_blanks hafter'
  have hhead : ∀ c ∈ (gap ++ body ++ (after ++ as)).head?, isBlank c = true := by
    rw [List.append_assoc]
    exact isBlank_head?_append hgap fun hnil => (hgapne hnil).elim
  have hlast : ∀ c ∈ (gap ++ body ++ (after ++ as)).getLast?, isBlank c = true := by
    refine isBlank_getLast?_append hafter' fun hnil => ?_
    obtain rfl : body = [] := by
      by_contra hne
      exact hseparated hne (List.append_eq_nil_iff.mp hnil).1
    rwa [List.append_nil]
  obtain ⟨ps, hps, hsplits⟩ := exists_splits_append hkeyword hfree hhead (fun _ => ⟨by simp [hgapne], hlast⟩) hqs
  refine ⟨ps, _, ?_, hsplits, trim_gap_append hgap hafter'⟩
  have htrimmed : Trimmed (keyword ++ (gap ++ body ++ (after ++ as)) ++ trim rest) := by
    refine trimmed_append (by simp [hkeyword.ne_nil]) hrest (fun c hc => ?_) (trimmed_trim rest).last
    rw [List.head?_append_of_ne_nil _ hkeyword.ne_nil] at hc
    exact hkeyword.trimmed.head c hc
  calc join ps = keyword ++ (gap ++ body ++ (after ++ as)) ++ trim rest := by rw [hps, hjoin]
    _ = trim (keyword ++ (gap ++ body ++ (after ++ as)) ++ trim rest ++ bs) := (htrimmed.trim_between blanks_nil hbs).symm
    _ = trim (keyword ++ (gap ++ body ++ after) ++ rest) := by
      conv_rhs => rw [heq]
      simp only [List.append_assoc]

theorem Written.exists_splits (h : Written clauses text) (hne : clauses ≠ []) :
    trim text ≠ [] ∧ ∃ ps found, join ps = trim text ∧ Splits ps found ∧ found.map trimmed = clauses.map trimmed := by
  induction h with
  | nil => exact (hne rfl).elim
  | @cons clause clauses keyword gap body after rest hkeyword hbody hgap hafter hgapped hseparated hrest ih =>
    have htrimne : trim (keyword ++ (gap ++ body ++ after) ++ rest) ≠ [] := fun h => by
      have hmem : keyword.head hkeyword.ne_nil ∈ keyword ++ (gap ++ body ++ after) ++ rest := by simp
      have hhead := hkeyword.trimmed.head _ (List.head?_eq_some_head hkeyword.ne_nil)
      exact Bool.eq_false_iff.mp hhead (trim_eq_nil_iff.mp h _ hmem)
    refine ⟨htrimne, ?_⟩
    by_cases hlast : clauses = []
    · subst hlast
      cases hrest
      obtain ⟨ps, body', hjoin, hsplits, hbody'⟩ := exists_splits_last hkeyword hbody hgap hafter (by simpa using hgapped)
      rw [List.append_nil]
      exact ⟨ps, _, hjoin, hsplits, by rw [List.map_cons, List.map_cons, trimmed, trimmed, hbody']⟩
    · obtain ⟨hrestne, qs, found, hjoin, hqs, hfound⟩ := ih hlast
      have hsome : rest ≠ [] := by
        rintro rfl
        exact hrestne rfl
      obtain ⟨ps, body', hps, hsplits, hbody'⟩ := exists_splits_before hkeyword hbody hgap hafter
        (hgapped (List.append_ne_nil_of_right_ne_nil body hsome)) (hseparated · hsome) hrestne hjoin hqs
      exact ⟨ps, _, hps, hsplits, by rw [List.map_cons, List.map_cons, trimmed, trimmed, hbody', hfound]⟩

end ClauseText

namespace Query

open ClauseText

/-- Clauses written one after the other are read as a query exactly if they stand in order and its parts are read from
    their bodies. -/
theorem parse_written_iff {A : AliasTable} {q : Query} {clauses : List ClauseText} {before text : List Char}
    (hbefore : Blanks before) (h : Written clauses text) :
    parse A (before ++ text) = .ok q ↔ InOrder clauses ∧ ReadFrom A clauses q := by
  have htrim : trim (before ++ text) = trim text := by
    simpa using trim_append_of_blanks hbefore blanks_nil text
  rw [parse_eq_ok_iff, htrim]
  by_cases hne : clauses = []
  · subst hne
    cases h
    refine iff_of_false (fun h => h.1 rfl) ?_
    rintro ⟨-, ⟨body, hbody, -⟩, -⟩
    cases hbody
  obtain ⟨htextne, ps, found, hjoin, hsplits, hfound⟩ := h.exists_splits hne
  have hcut : cut (trim text) = .ok ps := cut_eq_ok_iff.mpr ⟨hsplits.wellCut, hjoin⟩
  have horder : InOrder found ↔ InOrder clauses := by
    have : ∀ cs : List ClauseText, InOrder (cs.map trimmed) ↔ InOrder cs := fun cs => by
      rw [InOrder, List.pairwise_map]
      rfl
    rw [← this found, hfound, this]
  have hread : ReadFrom A found q ↔ ReadFrom A clauses q := by
    rw [readFrom_of_trimmed hfound, ← readFrom_of_trimmed rfl]
  constructor
  · rintro ⟨-, found', hfound', hq⟩
    obtain ⟨ps', hcut', hsplit, ho, -⟩ := ofText_eq_ok_iff.mp hfound'
    obtain rfl : ps = ps' := Except.ok.inj (hcut.symm.trans hcut')
    obtain rfl : found = found' := by
      rw [hsplits.split] at hsplit
      exact (Prod.mk.inj hsplit).2
    exact ⟨horder.mp ho, hread.mp hq⟩
  · rintro ⟨ho, hq⟩
    have hfoundne : found ≠ [] := by
      rintro rfl
      exact hne (List.map_eq_nil_iff.mp hfound.symm)
    exact ⟨htextne, found, ofText_eq_ok_iff.mpr ⟨ps, hcut, hsplits.split, horder.mpr ho, hfoundne⟩, hread.mpr hq⟩

theorem parse_written_with_order_at_the_joint :
    let clauses : List ClauseText := [⟨.from, "pods".toList⟩, ⟨.where, "name = 'LIMIT 1' or order".toList⟩, ⟨.orderBy, "by".toList⟩]
    let text := "from\tpods WHERE name = 'LIMIT 1' or order Order  bY\nby".toList
    Written clauses text ∧ (parse .builtin (' ' :: text)).toOption.isSome ∧
      ∀ q, parse .builtin (' ' :: text) = .ok q ↔ InOrder clauses ∧ ReadFrom .builtin clauses q := by
  intro clauses text
  have hfree : ∀ body : List Char, Nesting.run .ofWords Nesting.outside body = some Nesting.outside ∧ exposed body = [] →
      KeywordFree body := fun _ h => keywordFree_of_exposed h.1 h.2
  have horder : Written [⟨.orderBy, "by".toList⟩] "Order  bY\nby".toList :=
    @Written.cons .orderBy [] "Order  bY".toList "\n".toList "by".toList [] [] 
      (@Spells.orderBy "Order".toList "  ".toList "bY".toList (by decide) (by decide) (by decide) (by decide))
      (hfree _ (by decide)) (by decide) (by decide) (by decide) (by decide) .nil
  have hwhere : Written clauses.tail "WHERE name = 'LIMIT 1' or order Order  bY\nby".toList :=
    @Written.cons .where _ "WHERE".toList " ".toList "name = 'LIMIT 1' or order".toList " ".toList _ (.word (by decide) (by decide))
      (hfree _ (by decide)) (by decide) (by decide) (by decide) (by decide) horder
  have hwritten : Written clauses text :=
    @Written.cons .from _ "from".toList "\t".toList "pods".toList " ".toList _ (.word (by decide) (by decide))
      (hfree _ (by decide)) (by decide) (by decide) (by decide) (by decide) hwhere
  exact ⟨hwritten, by decide +kernel, fun q => parse_written_iff blanks_space hwritten⟩

end Query

end ClusterQuery
