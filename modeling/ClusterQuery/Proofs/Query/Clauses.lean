import ClusterQuery.Proofs.Query.Words
import ClusterQuery.Query.Clauses

/-! The clauses that pieces hold. Splitting respects appending as long as no `ORDER` and `BY` meet where two
    lists of pieces are joined; pieces in which no clause begins are text of the clause before them. -/

namespace ClusterQuery

namespace ClauseText

/-- Pieces in which no clause begins. -/
structure NoClause (ps : List Piece) : Prop where
  keyword : ∀ w, .word w ∈ ps → clauseOf? w = none
  orderBy : ∀ a gap b, [.word a, .blanks gap, .word b] <:+: ps → isOrderBy a b = false

/-- No two neighbours among words are `ORDER BY`. -/
def NoOrderBy (ws : List (List Char)) : Prop := ws.IsChain fun a b => isOrderBy a b = false

instance (ws : List (List Char)) : Decidable (NoOrderBy ws) :=
  inferInstanceAs (Decidable (ws.IsChain fun a b => isOrderBy a b = false))

/-- Whether the first three pieces are `ORDER BY`. -/
def startsWithOrderBy : List Piece → Bool
  | .word a :: .blanks _ :: .word b :: _ => isOrderBy a b
  | _ => false

/-- Whether the first word is not `BY`. -/
def noBy (ps : List Piece) : Bool := (ps.findSome? Piece.word?).all fun w => !sameIgnoringCase w "by".toList

theorem isOrderBy_of_clauseOf? {w : List Char} {clause : Clause} (h : clauseOf? w = some clause) (b : List Char) :
    isOrderBy w b = false := by
  refine Bool.eq_false_iff.mpr fun ho => ?_
  have horder := beq_iff_eq.mp (Bool.and_eq_true_iff.mp ho).1
  simp only [clauseOf?, sameIgnoringCase, horder] at h
  revert h
  decide +revert

/-! ### One piece -/

theorem split_orderBy {a gap b : List Char} {ps : List Piece} (h : isOrderBy a b = true) :
    split (.word a :: .blanks gap :: .word b :: ps) = ([], ⟨.orderBy, (split ps).1⟩ :: (split ps).2) := by
  rw [split, if_pos h]

theorem split_keyword {w : List Char} {ps : List Piece} {clause : Clause} (h : clauseOf? w = some clause) :
    split (.word w :: ps) = ([], ⟨clause, (split ps).1⟩ :: (split ps).2) := by
  rw [split.eq_def]
  split
  · next heq => cases heq
  · next heq =>
    cases heq
    rw [if_neg (by simp [isOrderBy_of_clauseOf? h])]
    simp only [h]
  · next heq =>
    cases heq
    simp only [Piece.word?, Option.bind_some, h]

theorem split_text {p : Piece} {ps : List Piece} (h : p.word?.bind clauseOf? = none)
    (ho : startsWithOrderBy (p :: ps) = false) : split (p :: ps) = (p.text ++ (split ps).1, (split ps).2) := by
  rw [split.eq_def]
  split
  · next heq => cases heq
  · next heq =>
    cases heq
    have ho' : isOrderBy _ _ = false := ho
    have h' : clauseOf? _ = none := h
    rw [if_neg (by simp [ho'])]
    simp only [h']
    rfl
  · next heq =>
    cases heq
    simp only [h]

/-! ### Appending -/

/-- A text with clauses, and after them a text with clauses, which adds to the last clause before it. -/
def combine (before : List Char) : List ClauseText → List Char × List ClauseText → List Char × List ClauseText
  | [], (text, clauses) => (before ++ text, clauses)
  | clause :: more, rest =>
    (before, ⟨clause.clause, (combine clause.body more rest).1⟩ :: (combine clause.body more rest).2)

theorem combine_text (text before : List Char) (clauses : List ClauseText) (r : List Char × List ClauseText) :
    combine (text ++ before) clauses r = (text ++ (combine before clauses r).1, (combine before clauses r).2) := by
  cases clauses with
  | nil => rw [combine, combine, List.append_assoc]
  | cons clause more => rfl

theorem clauses_combine (before : List Char) (clauses : List ClauseText) (r : List Char × List ClauseText) :
    (combine before clauses r).2.map (·.clause) = clauses.map (·.clause) ++ r.2.map (·.clause) := by
  induction clauses generalizing before with
  | nil => rfl
  | cons clause more ih => rw [combine, List.map_cons, ih, List.map_cons, List.cons_append]

theorem startsWithOrderBy_append {ps qs : List Piece} (hne : ps ≠ []) (hby : noBy qs = true)
    (h : startsWithOrderBy ps = false) : startsWithOrderBy (ps ++ qs) = false := by
  have hfirst : ∀ {a b : List Char}, (!sameIgnoringCase b "by".toList) = true → isOrderBy a b = false := by
    intro a b hb
    rw [isOrderBy, (Bool.not_eq_true' _).mp hb, Bool.and_false]
  match ps, hne with
  | .blanks cs :: ps, _ => rfl
  | .word a :: .word b :: ps, _ => rfl
  | .word a :: .blanks cs :: .blanks ds :: ps, _ => rfl
  | .word a :: .blanks cs :: .word b :: ps, _ => exact h
  | [.word a], _ =>
    match qs, hby with
    | [], _ | [.blanks _], _ | .word _ :: _, _ | .blanks _ :: .blanks _ :: _, _ => rfl
    | .blanks _ :: .word b :: _, hby => exact hfirst hby
  | [.word a, .blanks cs], _ =>
    match qs, hby with
    | [], _ | .blanks _ :: _, _ => rfl
    | .word b :: _, hby => exact hfirst hby

/-- Splitting respects appending where no `ORDER` and `BY` meet. -/
theorem split_append {ps qs : List Piece} (hby : noBy qs = true) : split (ps ++ qs) = combine (split ps).1 (split ps).2 (split qs) := by
  match ps with
  | [] => simp [split, combine]
  | p :: ps =>
    cases ho : startsWithOrderBy (p :: ps) with
    | true =>
      match p, ps, ho with
      | .word a, .blanks gap :: .word b :: ps, ho =>
        have ih : split (ps ++ qs) = combine (split ps).1 (split ps).2 (split qs) := split_append hby
        show split (.word a :: .blanks gap :: .word b :: (ps ++ qs)) = _
        rw [split_orderBy ho, split_orderBy ho, ih]
        rfl
    | false =>
      have ih : split (ps ++ qs) = combine (split ps).1 (split ps).2 (split qs) := split_append hby
      cases hk : p.word?.bind clauseOf? with
      | none =>
        rw [split_text hk ho, combine_text, ← ih]
        exact split_text hk (startsWithOrderBy_append (List.cons_ne_nil p ps) hby ho)
      | some clause =>
        match p, hk with
        | .word w, hk =>
          show split (.word w :: (ps ++ qs)) = _
          rw [split_keyword hk, split_keyword hk, ih]
          rfl
termination_by ps.length

/-! ### Pieces without clauses -/

theorem NoClause.of_infix {ps qs : List Piece} (h : NoClause ps) (hi : qs <:+: ps) : NoClause qs :=
  ⟨fun w hw => h.keyword w (hi.subset hw), fun a gap b ht => h.orderBy a gap b (ht.trans hi)⟩

theorem noClause_nil : NoClause [] :=
  ⟨fun _ hw => (List.not_mem_nil hw).elim, fun _ _ _ ht => nomatch List.infix_nil.mp ht⟩

theorem noClause_cons_iff {p : Piece} {ps : List Piece} :
    NoClause (p :: ps) ↔ p.word?.bind clauseOf? = none ∧ startsWithOrderBy (p :: ps) = false ∧ NoClause ps := by
  constructor
  · intro h
    refine ⟨?_, ?_, h.of_infix (List.suffix_cons p ps).isInfix⟩
    · cases p with
      | blanks cs => rfl
      | word w => exact h.keyword w List.mem_cons_self
    · match p, ps, h with
      | .blanks _, _, _ | .word _, [], _ | .word _, [.blanks _], _ | .word _, .word _ :: _, _
      | .word _, .blanks _ :: .blanks _ :: _, _ => rfl
      | .word a, .blanks gap :: .word b :: ps, h => exact h.orderBy a gap b ⟨[], ps, rfl⟩
  · rintro ⟨hk, ho, h⟩
    refine ⟨fun w hw => ?_, fun a gap b ht => ?_⟩
    · rcases List.mem_cons.mp hw with rfl | hw
      · exact hk
      · exact h.keyword w hw
    · rcases List.infix_cons_iff.mp ht with ⟨rest, hrest⟩ | ht
      · rw [← hrest] at ho
        exact ho
      · exact h.orderBy a gap b ht

/-- Pieces hold no clause if splitting finds none, and then all of them are text. -/
theorem noClause_iff {ps : List Piece} : NoClause ps ↔ (split ps).2 = [] := by
  induction ps with
  | nil => exact ⟨fun _ => rfl, fun _ => noClause_nil⟩
  | cons p ps ih =>
    rw [noClause_cons_iff, ih]
    cases ho : startsWithOrderBy (p :: ps) with
    | true =>
      match p, ps, ho with
      | .word a, .blanks gap :: .word b :: ps, ho =>
        rw [split_orderBy ho]
        simp
    | false =>
      cases hk : p.word?.bind clauseOf? with
      | none =>
        rw [split_text hk ho]
        simp
      | some clause =>
        match p, hk with
        | .word w, hk =>
          rw [split_keyword hk]
          simp

theorem NoClause.split_eq {ps : List Piece} (h : NoClause ps) : split ps = (Piece.join ps, []) := by
  induction ps with
  | nil => rfl
  | cons p ps ih =>
    obtain ⟨hk, ho, h⟩ := noClause_cons_iff.mp h
    rw [split_text hk ho, ih h]
    rfl

/-- The text before the first clause, and that of each clause, are pieces in which no clause begins. -/
theorem exists_pieces_of_split (ps : List Piece) :
    (∃ qs, qs <+: ps ∧ NoClause qs ∧ Piece.join qs = (split ps).1) ∧
      ∀ c ∈ (split ps).2, ∃ qs, qs <:+: ps ∧ NoClause qs ∧ Piece.join qs = c.body := by
  match ps with
  | [] => exact ⟨⟨[], List.nil_prefix, noClause_nil, rfl⟩, fun _ hc => nomatch hc⟩
  | p :: ps =>
    obtain ⟨⟨qs, hqs, hno, hjoin⟩, hrest⟩ := exists_pieces_of_split ps
    have hbelow : ∀ c ∈ (split ps).2, ∃ qs, qs <:+: p :: ps ∧ NoClause qs ∧ Piece.join qs = c.body := by
      intro c hc
      obtain ⟨qs, hqs, h⟩ := hrest c hc
      exact ⟨qs, hqs.trans (List.suffix_cons p ps).isInfix, h⟩
    -- A clause takes off one piece or, as `ORDER BY`, three: the recursion is not on the tail alone.
    cases ho : startsWithOrderBy (p :: ps) with
    | true =>
      match p, ps, ho with
      | .word a, .blanks gap :: .word b :: ps, ho =>
        obtain ⟨⟨rs, hrs, hno, hjoin⟩, hrest⟩ := exists_pieces_of_split ps
        have hsuffix : ps <:+ .word a :: .blanks gap :: .word b :: ps := ⟨[.word a, .blanks gap, .word b], rfl⟩
        rw [split_orderBy ho]
        refine ⟨⟨[], List.nil_prefix, noClause_nil, rfl⟩, List.forall_mem_cons.mpr ⟨?_, fun c hc => ?_⟩⟩
        · exact ⟨rs, hrs.isInfix.trans hsuffix.isInfix, hno, hjoin⟩
        · obtain ⟨ts, hts, h⟩ := hrest c hc
          exact ⟨ts, hts.trans hsuffix.isInfix, h⟩
    | false =>
      cases hk : p.word?.bind clauseOf? with
      | none =>
        rw [split_text hk ho]
        have hfront : p :: qs <+: p :: ps := (List.prefix_cons_inj p).mpr hqs
        refine ⟨⟨p :: qs, hfront, noClause_cons_iff.mpr ⟨hk, ?_, hno⟩, ?_⟩, hbelow⟩
        · refine Bool.eq_false_iff.mpr fun h => ?_
          obtain ⟨rest, hrest⟩ := hfront
          match p, qs, h with
          | .word a, .blanks gap :: .word b :: qs, h =>
            rw [← hrest] at ho
            exact Bool.false_ne_true (ho.symm.trans h)
        · rw [Piece.join_cons, hjoin]
      | some clause =>
        match p, hk with
        | .word w, hk =>
          rw [split_keyword hk]
          refine ⟨⟨[], List.nil_prefix, noClause_nil, rfl⟩, List.forall_mem_cons.mpr ⟨?_, hbelow⟩⟩
          exact ⟨qs, hqs.isInfix.trans (List.suffix_cons _ ps).isInfix, hno, hjoin⟩
termination_by ps.length

/-- A text that is cut into pieces in which no clause begins. -/
def KeywordFree (cs : List Char) : Prop := ∃ ps, Piece.cut cs = .ok ps ∧ NoClause ps

theorem KeywordFree.closed {cs : List Char} (h : KeywordFree cs) : Nesting.Closed .ofWords cs := by
  obtain ⟨ps, hps, -⟩ := h
  exact Piece.exists_cut_iff.mp ⟨ps, hps⟩

/-- The trimmed text of a clause is free of keywords. -/
theorem keywordFree_of_mem_split {ps : List Piece} (hps : Piece.WellCut ps) {c : ClauseText} (hc : c ∈ (split ps).2) :
    KeywordFree (trim c.body) := by
  obtain ⟨qs, hqs, hno, hjoin⟩ := (exists_pieces_of_split ps).2 c hc
  obtain ⟨rs, hrs, htrim⟩ := (hps.of_infix hqs).exists_trim
  refine ⟨rs, Piece.cut_eq_ok_iff.mpr ⟨hps.of_infix (hrs.trans hqs), ?_⟩, hno.of_infix hrs⟩
  rw [htrim, hjoin]

/-! ### The order of clauses -/

/-- Clauses that stand in their order, each at most once. -/
def InOrder (clauses : List ClauseText) : Prop := clauses.Pairwise fun a b => a.clause.rank < b.clause.rank

theorem misplaced?_eq_none_iff {clauses : List ClauseText} : misplaced? clauses = none ↔ InOrder clauses := by
  rw [InOrder, ← List.isChain_iff_pairwise]
  match clauses with
  | [] => simp [misplaced?]
  | [a] => simp [misplaced?]
  | a :: b :: rest =>
    have ih : misplaced? (b :: rest) = none ↔ InOrder (b :: rest) := misplaced?_eq_none_iff
    rw [InOrder, ← List.isChain_iff_pairwise] at ih
    rw [misplaced?, List.isChain_cons_cons, ← ih]
    split <;> simp_all

/-- A text has these clauses: its pieces split into them with nothing before, and they stand in order. -/
theorem ofText_eq_ok_iff {cs : List Char} {clauses : List ClauseText} :
    ofText cs = .ok clauses ↔
      ∃ ps, Piece.cut cs = .ok ps ∧ split ps = ([], clauses) ∧ InOrder clauses ∧ clauses ≠ [] := by
  unfold ofText
  rw [Except.bind_eq_ok_iff]
  refine exists_congr fun ps => and_congr_right fun _ => ?_
  obtain ⟨before, found⟩ := split ps
  dsimp only
  cases hm : misplaced? found with
  | some pair =>
    have hnot : ¬InOrder found := fun h => by
      rw [misplaced?_eq_none_iff.mpr h] at hm
      cases hm
    simp only [reduceCtorEq, false_iff]
    rintro ⟨h, ho, -⟩
    cases h
    exact hnot ho
  | none =>
    have ho := misplaced?_eq_none_iff.mp hm
    cases found with
    | nil =>
      simp only [reduceCtorEq, false_iff]
      rintro ⟨h, -, hne⟩
      cases h
      exact hne rfl
    | cons first more =>
      cases before with
      | nil =>
        simp only [List.isEmpty_nil, if_true, Except.ok.injEq, Prod.mk.injEq, true_and]
        refine ⟨fun h => ?_, fun h => h.1⟩
        subst h
        exact ⟨rfl, ho, List.cons_ne_nil first more⟩
      | cons c before => simp

end ClauseText

end ClusterQuery
