import ClusterQuery.Proofs.Predicate.Fragments
import ClusterQuery.Proofs.Query.RoundTrip

/-! The condition of a query and the predicate that it is read as. The scan of words and the lexer of predicates
    delimit quoted texts on their own: a backslash shields a quote from the lexer only. Where no quoted text holds
    its own quote, both see the same texts, and a predicate comes through the clauses as it is. -/

namespace ClusterQuery

open Nesting Piece ClauseText Predicate

/-! ### Words between blanks -/

/-- The words of a text: what stands between its blanks. -/
def blankWords (cs : List Char) : List (List Char) := (cs.splitOnP isBlank).filter fun w => !w.isEmpty

section Words

variable {as bs : List Char}

theorem blankWords_append_cons {c : Char} (hc : isBlank c = true) (as bs : List Char) :
    blankWords (as ++ c :: bs) = blankWords as ++ blankWords bs := by
  rw [blankWords, List.splitOnP_append_cons as bs hc, List.filter_append]
  rfl

theorem blankWords_nil : blankWords [] = [] := rfl

theorem blankWords_word (hne : as ≠ []) (h : ∀ c ∈ as, isBlank c = false) : blankWords as = [as] := by
  rw [blankWords, List.splitOnP_eq_singleton h]
  exact List.filter_cons_of_pos (by simpa using hne)

theorem blankWords_blanks (h : Blanks as) : blankWords as = [] := by
  induction as with
  | nil => rfl
  | cons c as ih =>
    obtain ⟨hc, has⟩ := List.forall_mem_cons.mp h
    exact (blankWords_append_cons hc [] as).trans (ih has)

theorem blankWords_append_of_last (h : ∀ c ∈ as.getLast?, isBlank c = true) :
    blankWords (as ++ bs) = blankWords as ++ blankWords bs := by
  rcases List.eq_nil_or_concat as with rfl | ⟨front, c, rfl⟩
  · rfl
  · rw [List.concat_eq_append] at *
    have hc : isBlank c = true := h c (by simp)
    rw [List.append_assoc, List.singleton_append, blankWords_append_cons hc, blankWords_append_cons hc, blankWords_nil,
      List.append_nil]

theorem blankWords_append_of_head (h : ∀ c ∈ bs.head?, isBlank c = true) :
    blankWords (as ++ bs) = blankWords as ++ blankWords bs := by
  cases bs with
  | nil => rw [List.append_nil, blankWords_nil, List.append_nil]
  | cons c bs =>
    have hc : isBlank c = true := h c rfl
    rw [blankWords_append_cons hc]
    exact congrArg (blankWords as ++ ·) (blankWords_append_cons hc [] bs).symm

theorem blankWords_gap {gap : List Char} (hne : gap ≠ []) (hgap : Blanks gap) (as bs : List Char) :
    blankWords (as ++ (gap ++ bs)) = blankWords as ++ blankWords bs := by
  have hhead : ∀ c ∈ (gap ++ bs).head?, isBlank c = true := fun c hc => by
    rw [List.head?_append_of_ne_nil _ hne] at hc
    exact hgap c (List.mem_of_mem_head? hc)
  rw [blankWords_append_of_head hhead, blankWords_append_of_last fun c hc => hgap c (List.mem_of_mem_getLast? hc),
    blankWords_blanks hgap, List.nil_append]

end Words

/-! ### Pieces and parts -/

theorem isBlank_of_valid_blanks {p : Piece} (hp : p.Valid) (hw : p.isWord = false) : p.text ≠ [] ∧ Blanks p.text := by
  cases p with
  | word w => cases hw
  | blanks cs => exact hp

/-- A blank stands before a word, unless the text begins with it. -/
theorem isBlank_getLast_join {before after : List Piece} (h : WellCut (before ++ after))
    (hfirst : ∃ p ∈ after.head?, p.isWord = true) : ∀ c ∈ (join before).getLast?, isBlank c = true := by
  obtain ⟨p, hp, hword⟩ := hfirst
  rcases List.eq_nil_or_concat before with rfl | ⟨front, q, rfl⟩
  · exact fun _ hc => nomatch hc
  · rw [List.concat_eq_append] at *
    have hne : q.isWord ≠ p.isWord := (List.isChain_append.mp h.alternating).2.2 q (by simp) p hp
    have hq : q.isWord = false := by
      rw [hword] at hne
      simpa using hne
    obtain ⟨hnil, hblank⟩ := isBlank_of_valid_blanks (h.valid q (by simp)) hq
    intro c hc
    rw [join_append, join_cons, join_nil, List.append_nil, List.getLast?_append_of_ne_nil _ hnil] at hc
    exact hblank c (List.mem_of_mem_getLast? hc)

/-- A blank stands after a word, unless the text ends with it. -/
theorem isBlank_head_join {before after : List Piece} (h : WellCut (before ++ after))
    (hlast : ∃ p ∈ before.getLast?, p.isWord = true) : ∀ c ∈ (join after).head?, isBlank c = true := by
  obtain ⟨p, hp, hword⟩ := hlast
  cases after with
  | nil => exact fun _ hc => nomatch hc
  | cons q after =>
    have hne : p.isWord ≠ q.isWord := (List.isChain_append.mp h.alternating).2.2 p hp q rfl
    have hq : q.isWord = false := by
      rw [hword] at hne
      simpa using hne.symm
    obtain ⟨hnil, hblank⟩ := isBlank_of_valid_blanks (h.valid q (by simp)) hq
    intro c hc
    rw [join_cons, List.head?_append_of_ne_nil _ hnil] at hc
    exact hblank c (List.mem_of_mem_head? hc)

theorem Predicate.Fragment.masked_ends (f : Fragment) :
    f.masked ≠ [] ∧ f.text ≠ [] ∧ f.masked.head? = f.text.head? ∧ f.masked.getLast? = f.text.getLast? := by
  cases f with
  | plain c => exact ⟨List.cons_ne_nil _ _, List.cons_ne_nil _ _, rfl, rfl⟩
  | literal q body =>
    refine ⟨List.cons_ne_nil _ _, List.cons_ne_nil _ _, rfl, ?_⟩
    rw [Fragment.text, ← List.cons_append, List.getLast?_append_of_ne_nil _ (List.cons_ne_nil _ _)]
    rfl
  | subscript body =>
    refine ⟨List.cons_ne_nil _ _, List.cons_ne_nil _ _, rfl, ?_⟩
    rw [Fragment.text, ← List.cons_append, List.getLast?_append_of_ne_nil _ (List.cons_ne_nil _ _)]
    rfl

theorem masked_head? (fs : List Fragment) :
    (fs.flatMap Fragment.masked).head? = (fs.flatMap Fragment.text).head? := by
  cases fs with
  | nil => rfl
  | cons f fs =>
    obtain ⟨hmasked, htext, hhead, -⟩ := f.masked_ends
    rw [List.flatMap_cons, List.flatMap_cons, List.head?_append_of_ne_nil _ hmasked, List.head?_append_of_ne_nil _ htext,
      hhead]

theorem masked_getLast? (fs : List Fragment) :
    (fs.flatMap Fragment.masked).getLast? = (fs.flatMap Fragment.text).getLast? := by
  rcases List.eq_nil_or_concat fs with rfl | ⟨front, f, rfl⟩
  · rfl
  · obtain ⟨hmasked, htext, -, hlast⟩ := f.masked_ends
    rw [List.concat_eq_append, List.flatMap_append, List.flatMap_append, List.flatMap_singleton, List.flatMap_singleton,
      List.getLast?_append_of_ne_nil _ hmasked, List.getLast?_append_of_ne_nil _ htext, hlast]

/-- Parts without quotes and brackets are characters, and nothing of them is masked. -/
theorem masked_of_plain {fs : List Fragment} (hfs : ∀ f ∈ fs, f.Passed)
    (h : ∀ c ∈ fs.flatMap Fragment.text, c ∉ Brackets.marks) :
    fs.flatMap Fragment.masked = fs.flatMap Fragment.text := by
  induction fs with
  | nil => rfl
  | cons f fs ih =>
    obtain ⟨hf, hfs⟩ := List.forall_mem_cons.mp hfs
    rw [List.flatMap_cons] at h
    obtain ⟨hfirst, hrest⟩ := List.forall_mem_append.mp h
    rw [List.flatMap_cons, List.flatMap_cons, ih hfs hrest]
    cases f with
    | plain c => rfl
    | literal q body =>
      have hmark : q ∈ Brackets.marks := by
        rcases Bool.or_eq_true_iff.mp hf.1 with hq | hq <;> rw [beq_iff_eq.mp hq] <;> decide
      exact (hfirst q List.mem_cons_self hmark).elim
    | subscript body => exact (hfirst '[' List.mem_cons_self (by decide)).elim

/-- Words of letters and the blanks between them are words of the masked text. -/
theorem infix_blankWords_masked {fs : List Fragment} (hfs : ∀ f ∈ fs, f.Passed) {before mid after : List Piece}
    (hcut : WellCut (before ++ (mid ++ after))) (htext : fs.flatMap Fragment.text = join (before ++ (mid ++ after)))
    (hfirst : ∃ p ∈ mid.head?, p.isWord = true) (hlast : ∃ p ∈ mid.getLast?, p.isWord = true)
    (hplain : ∀ c ∈ join mid, c ∉ Brackets.marks) :
    blankWords (join mid) <:+: blankWords (fs.flatMap Fragment.masked) := by
  have hbefore : WellCut before := hcut.of_infix (List.prefix_append _ _).isInfix
  have hmid : WellCut mid := hcut.of_infix ⟨before, after, List.append_assoc _ _ _⟩
  -- In front of the words and behind them the scan is outside, where no part is cut in two.
  obtain ⟨as, rest, rfl, has, hrest⟩ : ∃ as rest, fs = as ++ rest ∧ as.flatMap Fragment.text = join before ∧
      rest.flatMap Fragment.text = join mid ++ join after := by
    rw [join_append, join_append] at htext
    exact exists_split_of_run hfs htext (d := 0) hbefore.closed
  obtain ⟨hpassed, hpassed'⟩ := List.forall_mem_append.mp hfs
  obtain ⟨ms, bs, rfl, hms, hbs⟩ := exists_split_of_run hpassed' hrest (d := 0) hmid.closed
  have hmasked : ms.flatMap Fragment.masked = join mid := by
    rw [← hms]
    refine masked_of_plain (List.forall_mem_append.mp hpassed').1 ?_
    rw [hms]
    exact hplain
  have hblankBefore : ∀ c ∈ (as.flatMap Fragment.masked).getLast?, isBlank c = true := by
    rw [masked_getLast?, has]
    refine isBlank_getLast_join hcut ?_
    obtain ⟨p, hp, hword⟩ := hfirst
    exact ⟨p, by rw [List.head?_append, hp]; rfl, hword⟩
  have hblankAfter : ∀ c ∈ (bs.flatMap Fragment.masked).head?, isBlank c = true := by
    rw [masked_head?, hbs]
    exact isBlank_head_join (hcut.of_infix (List.suffix_append before _).isInfix) hlast
  refine ⟨blankWords (as.flatMap Fragment.masked), blankWords (bs.flatMap Fragment.masked), ?_⟩
  rw [List.append_assoc, List.flatMap_append, List.flatMap_append, hmasked, blankWords_append_of_last hblankBefore,
    blankWords_append_of_head hblankAfter]

theorem not_mem_marks_of_isAsciiLetter {c : Char} (h : isAsciiLetter c = true) : c ∉ Brackets.marks :=
  not_mem_of_all h (by decide)

theorem not_mem_marks_of_isBlank {c : Char} (h : isBlank c = true) : c ∉ Brackets.marks := not_mem_of_all h (by decide)

theorem blankWords_letters {w : List Char} (hne : w ≠ []) (hw : ∀ c ∈ w, isAsciiLetter c = true) : blankWords w = [w] :=
  blankWords_word hne fun c hc => isBlank_of_isTitleChar (isTitleChar_of_isAsciiLetter (hw c hc))

/-- A word of letters that is cut from the text is a word of the masked text. -/
theorem mem_blankWords_masked {fs : List Fragment} (hfs : ∀ f ∈ fs, f.Passed) {ps : List Piece} (hcut : WellCut ps)
    (htext : fs.flatMap Fragment.text = join ps) {w : List Char} (hw : .word w ∈ ps)
    (hletters : ∀ c ∈ w, isAsciiLetter c = true) : w ∈ blankWords (fs.flatMap Fragment.masked) := by
  have hword : IsWord w := hcut.valid _ hw
  obtain ⟨before, after, rfl⟩ := List.append_of_mem hw
  have hcut : WellCut (before ++ ([.word w] ++ after)) := hcut
  have hinfix := infix_blankWords_masked hfs hcut htext ⟨_, rfl, rfl⟩ ⟨_, rfl, rfl⟩
    fun c hc => not_mem_marks_of_isAsciiLetter (hletters c (by simpa using hc))
  rw [join_cons, join_nil, List.append_nil, text_word, blankWords_letters hword.1 hletters] at hinfix
  exact hinfix.subset List.mem_cons_self

/-- Two words of letters that are cut from the text one after the other are so in the masked text. -/
theorem pair_infix_blankWords_masked {fs : List Fragment} (hfs : ∀ f ∈ fs, f.Passed) {ps : List Piece} (hcut : WellCut ps)
    (htext : fs.flatMap Fragment.text = join ps) {a gap b : List Char}
    (hpair : [.word a, .blanks gap, .word b] <:+: ps) (ha : ∀ c ∈ a, isAsciiLetter c = true)
    (hb : ∀ c ∈ b, isAsciiLetter c = true) : [a, b] <:+: blankWords (fs.flatMap Fragment.masked) := by
  have hmid : WellCut [.word a, .blanks gap, .word b] := hcut.of_infix hpair
  have hwordA : IsWord a := hmid.valid (.word a) (by simp)
  have hwordB : IsWord b := hmid.valid (.word b) (by simp)
  obtain ⟨hne, hgap⟩ : gap ≠ [] ∧ Blanks gap := hmid.valid (.blanks gap) (by simp)
  obtain ⟨before, after, rfl⟩ := hpair
  rw [List.append_assoc] at hcut htext
  have hinfix := infix_blankWords_masked hfs hcut htext ⟨_, rfl, rfl⟩ ⟨_, rfl, rfl⟩ fun c hc => by
    have hmem : c ∈ a ∨ c ∈ gap ∨ c ∈ b := by simpa using hc
    rcases hmem with hc | hc | hc
    · exact not_mem_marks_of_isAsciiLetter (ha c hc)
    · exact not_mem_marks_of_isBlank (hgap c hc)
    · exact not_mem_marks_of_isAsciiLetter (hb c hc)
  have hjoin : blankWords (join [.word a, .blanks gap, .word b]) = [a, b] := by
    show blankWords (a ++ (gap ++ (b ++ []))) = [a, b]
    rw [List.append_nil, blankWords_gap hne hgap, blankWords_letters hwordA.1 ha, blankWords_letters hwordB.1 hb]
    rfl
  rwa [hjoin] at hinfix

/-- No clause begins in pieces if no word of the masked text is a keyword. -/
theorem noClause_of_masked {fs : List Fragment} (hfs : ∀ f ∈ fs, f.Passed) {ps : List Piece} (hcut : WellCut ps)
    (htext : fs.flatMap Fragment.text = join ps)
    (hwords : ∀ w ∈ blankWords (fs.flatMap Fragment.masked), clauseOf? w = none)
    (horder : NoOrderBy (blankWords (fs.flatMap Fragment.masked))) : NoClause ps := by
  constructor
  · intro w hw
    refine Option.eq_none_iff_forall_not_mem.mpr fun clause hclause => ?_
    have hnone := hwords w (mem_blankWords_masked hfs hcut htext hw (isAsciiLetter_of_clauseOf? hclause))
    rw [hnone] at hclause
    cases hclause
  · intro a gap b hpair
    refine Bool.eq_false_iff.mpr fun hby => ?_
    obtain ⟨ha, hb⟩ := Bool.and_eq_true_iff.mp hby
    have hinfix := pair_infix_blankWords_masked hfs hcut htext hpair
      (isAsciiLetter_of_sameIgnoringCase ha (by decide)) (isAsciiLetter_of_sameIgnoringCase hb (by decide))
    have hchain : NoOrderBy [a, b] := List.IsChain.infix horder hinfix
    have hnot := (List.isChain_cons_cons.mp hchain).1
    rw [hby] at hnot
    cases hnot

/-- Outside of the quoted texts and subscripts of a predicate no word is a keyword, and the subscripts are closed. -/
structure Sheltered (cs : List Char) : Prop where
  words : ∀ w ∈ blankWords (masked cs), clauseOf? w = none
  order : NoOrderBy (blankWords (masked cs))
  subscripts : ∀ body, .subscript body ∈ fragments cs → Closed .ofWords body

/-! ### Reading the condition -/

/-- A sheltered predicate is free of keywords if no quoted text of it holds its own quote. -/
theorem keywordFree_of_sheltered {source : String} {p : Predicate} (h : Predicate.parse source = .ok p)
    (hsheltered : Sheltered source.toList)
    (hliterals : ∀ quote body, .literal quote body ∈ fragments source.toList → quote ∉ body) :
    KeywordFree (trim source.toList) := by
  have hpassed : ∀ f ∈ fragments source.toList, f.Passed := fun f hf => by
    have hdelimited := (fragments_of_parse h).2 f hf
    cases f with
    | plain c => exact hdelimited
    | literal quote body => exact ⟨hdelimited.1, hliterals quote body hf⟩
    | subscript body => exact hsheltered.subscripts body hf
  obtain ⟨ps, hps⟩ := exists_cut_iff.mpr (closed_of_parse h hpassed)
  obtain ⟨hcut, hjoin⟩ := cut_eq_ok_iff.mp hps
  have htext : (fragments source.toList).flatMap Fragment.text = join ps := by
    rw [hjoin]
    exact (fragments_of_parse h).1
  have hno := noClause_of_masked hpassed hcut htext hsheltered.words hsheltered.order
  obtain ⟨qs, hqs, htrim⟩ := hcut.exists_trim
  rw [hjoin] at htrim
  exact ⟨qs, cut_eq_ok_iff.mpr ⟨hcut.of_infix hqs, htrim⟩, hno.of_infix hqs⟩

theorem tokensFrom_of_blanks {cs : List Char} (h : Blanks cs) (offset : Nat) : tokensFrom offset cs = .ok [] := by
  induction cs generalizing offset with
  | nil => rw [tokensFrom.eq_def]
  | cons c cs ih =>
    obtain ⟨hc, hcs⟩ := List.forall_mem_cons.mp h
    rw [tokensFrom.eq_def]
    dsimp only
    rw [if_pos hc]
    exact ih hcs _

theorem trim_ne_nil_of_parse {source : String} {p : Predicate} (h : Predicate.parse source = .ok p) :
    trim source.toList ≠ [] := by
  intro hnil
  obtain ⟨ts, hts, h⟩ := Except.bind_eq_ok_iff.mp h
  obtain ⟨e, hexpr, -⟩ := Except.bind_eq_ok_iff.mp h
  have hts : tokensFrom 0 source.toList = .ok ts := hts
  rw [tokensFrom_of_blanks (trim_eq_nil_iff.mp hnil)] at hts
  cases hts
  cases hexpr

namespace Query

variable {A : AliasTable}

/-- The pieces of a query with a condition. -/
def conditionPieces (lead : List Char) (ps : List Piece) : List Piece :=
  .word "FROM".toList :: .blanks [' '] :: .word "pods".toList :: .blanks [' '] :: .word "WHERE".toList ::
    .blanks (' ' :: lead) :: ps

theorem wellCut_conditionPieces {lead : List Char} {ps : List Piece} (hlead : Blanks lead) (hps : WellCut ps)
    (hfirst : ∀ p ∈ ps.head?, p.isWord = true) : WellCut (conditionPieces lead ps) := by
  have hword : ∀ w ∈ ["FROM".toList, "pods".toList, "WHERE".toList], IsWord w := by
    intro w hw
    simp only [List.mem_cons, List.not_mem_nil, or_false] at hw
    rcases hw with rfl | rfl | rfl <;> exact isWord_of_letters (by decide) (by decide)
  have hblank : Valid (.blanks [' ']) := ⟨List.cons_ne_nil _ _, blanks_space⟩
  have hgap : Valid (.blanks (' ' :: lead)) := ⟨List.cons_ne_nil _ _, blanks_space.append hlead⟩
  refine wellCut_cons_iff.mpr ⟨hword _ (by decide), ?_, wellCut_cons_iff.mpr ⟨hblank, ?_,
    wellCut_cons_iff.mpr ⟨hword _ (by decide), ?_, wellCut_cons_iff.mpr ⟨hblank, ?_,
    wellCut_cons_iff.mpr ⟨hword _ (by decide), ?_, wellCut_cons_iff.mpr ⟨hgap, fun p hp => ?_, hps⟩⟩⟩⟩⟩⟩
  · rintro q ⟨⟩
    exact Bool.false_ne_true.symm
  · rintro q ⟨⟩
    exact Bool.false_ne_true
  · rintro q ⟨⟩
    exact Bool.false_ne_true.symm
  · rintro q ⟨⟩
    exact Bool.false_ne_true
  · rintro q ⟨⟩
    exact Bool.false_ne_true.symm
  · rw [hfirst p hp]
    exact Bool.false_ne_true

theorem split_conditionPieces {lead : List Char} {ps : List Piece} (h : NoClause ps) :
    split (conditionPieces lead ps) =
      ([], [⟨.from, " pods ".toList⟩, ⟨.where, ' ' :: lead ++ join ps⟩]) := by
  have hfromKeyword : clauseOf? "FROM".toList = some .from := by decide
  have hwhereKeyword : clauseOf? "WHERE".toList = some .where := by decide
  have hname : clauseOf? "pods".toList = none := by decide
  have horder : isOrderBy "pods".toList "WHERE".toList = false := by decide
  have hwhere : split (.word "WHERE".toList :: .blanks (' ' :: lead) :: ps) =
      ([], [⟨.where, ' ' :: lead ++ join ps⟩]) := by
    rw [split_keyword hwhereKeyword, split_blanks, h.split_eq]
  have hpods : split (.word "pods".toList :: .blanks [' '] :: .word "WHERE".toList :: .blanks (' ' :: lead) :: ps) =
      ("pods ".toList, [⟨.where, ' ' :: lead ++ join ps⟩]) := by
    rw [split_text (show (Piece.word "pods".toList).word?.bind clauseOf? = none from hname)
      (show startsWithOrderBy (.word "pods".toList :: .blanks [' '] :: .word "WHERE".toList :: _) = false from horder),
      split_blanks, hwhere]
    rfl
  rw [conditionPieces, split_keyword hfromKeyword, split_blanks, hpods]
  rfl

/-- A condition without keywords is read as it is, without the blanks around it. -/
theorem parse_where_of_keywordFree {cs : List Char} (hne : trim cs ≠ []) (h : KeywordFree (trim cs)) :
    parse A ("FROM pods WHERE ".toList ++ cs) =
      .ok ⟨.all, ⟨"pods", .current⟩, some (String.ofList (trim cs)), [], none⟩ := by
  obtain ⟨ps, hps, hno⟩ := h
  obtain ⟨hcut, hjoin⟩ := cut_eq_ok_iff.mp hps
  obtain ⟨lead, tail, hlead, htail, hcs⟩ := exists_trim cs
  have ht : Trimmed (join ps) := hjoin ▸ trimmed_trim cs
  have hnil : ps ≠ [] := fun hnil => hne (by rw [← hjoin, hnil, join_nil])
  have hwell := wellCut_conditionPieces hlead hcut (isWord_head hcut ht)
  have htrimmed : Trimmed (join (conditionPieces lead ps)) := by
    refine trimmed_join hwell ?_ fun p hp => isWord_getLast hcut ht p ?_
    · rintro p ⟨⟩
      rfl
    · obtain ⟨q, rest, rfl⟩ := List.exists_cons_of_ne_nil hnil
      exact hp
  have htext : trim ("FROM pods WHERE ".toList ++ cs) = join (conditionPieces lead ps) := by
    have hsplit : "FROM pods WHERE ".toList ++ cs = [] ++ (join (conditionPieces lead ps) ++ tail) := by
      rw [hcs, ← hjoin]
      simp [conditionPieces]
    rw [hsplit, htrimmed.trim_between blanks_nil htail]
  refine parse_eq_ok_iff.mpr ⟨?_, [⟨.from, " pods ".toList⟩, ⟨.where, ' ' :: lead ++ join ps⟩], ?_, ?_⟩
  · rw [htext]
    exact List.cons_ne_nil _ _
  · rw [htext]
    refine ofText_eq_ok_iff.mpr ⟨_, cut_eq_ok_iff.mpr ⟨hwell, rfl⟩, split_conditionPieces hno, ?_, List.cons_ne_nil _ _⟩
    have hrank : Clause.from.rank < Clause.where.rank := by decide
    exact List.pairwise_pair.mpr hrank
  · have hbody : trim (' ' :: lead ++ join ps) = trim cs := by
      have := ht.trim_between (blanks_space.append hlead) blanks_nil
      rw [List.append_nil] at this
      exact this.trans hjoin
    have hpods : parseSource "pods".toList = .ok ⟨"pods", .current⟩ := by decide +kernel
    have hfrom : trim " pods ".toList = "pods".toList := by decide
    refine ⟨⟨_, congrArg some hfrom, hpods⟩, ?_, rfl, rfl, rfl⟩
    show (some (trim (' ' :: lead ++ join ps))).mapM parseFilter = _
    rw [hbody]
    exact mapM_eq_ok_some_iff.mpr ⟨_, rfl, parseFilter_eq_ok_iff.mpr ⟨hne, String.toList_ofList⟩⟩

/-- The scan of words stays in the quotes of a quoted text up to its end. -/
def StaysQuoted (quote : Char) (body : List Char) : Prop :=
  ∀ front, front <+: body → run .ofWords outside (quote :: front) = some ⟨0, some quote⟩

/-- It does so unless the text holds its own quote. -/
theorem staysQuoted_iff {quote : Char} {body : List Char} (hq : isQuote quote = true) :
    StaysQuoted quote body ↔ quote ∉ body := by
  have hopen : ∀ cs, run .ofWords outside (quote :: cs) = run .ofWords ⟨0, some quote⟩ cs := fun cs => by
    have hnext : next .ofWords outside quote = some ⟨0, some quote⟩ := next_quote hq rfl
    rw [run, hnext, Option.bind_some]
  constructor
  · intro h hmem
    obtain ⟨front, back, rfl⟩ := List.append_of_mem hmem
    have hin := h front (List.prefix_append _ _)
    have hclose := h (front ++ [quote]) ⟨back, by simp⟩
    rw [hopen] at hin hclose
    rw [run_append, hin, Option.bind_some, run, next_of_quote rfl, if_pos rfl] at hclose
    cases hclose
  · intro h front hfront
    rw [hopen]
    exact run_quoted (fun hmem => h (hfront.subset hmem)) 0

/-- A predicate that is accepted is the condition that is read in a query if and only if it is free of keywords as the
    scan of words sees it. A sheltered one is if no quoted text holds its own quote, which it can only after a backslash;
    and these are the quoted texts that the scan stays in up to their ends. -/
theorem parse_where_iff {source : String} {p : Predicate} (h : Predicate.parse source = .ok p) :
    ((∃ q, parse A ("FROM pods WHERE ".toList ++ source.toList) = .ok q ∧
        q.filter = some (String.ofList (trim source.toList))) ↔ KeywordFree (trim source.toList)) ∧
      (Sheltered source.toList → (∀ quote body, .literal quote body ∈ fragments source.toList → quote ∉ body) →
        KeywordFree (trim source.toList)) ∧
      ∀ quote body, .literal quote body ∈ fragments source.toList →
        Escaped quote body ∧ (StaysQuoted quote body ↔ quote ∉ body) := by
  refine ⟨⟨?_, fun hfree => ?_⟩, keywordFree_of_sheltered h, fun quote body hmem => ?_⟩
  · rintro ⟨q, hq, hfilter⟩
    have := (parts_of_parse hq).2.2 _ hfilter
    rwa [String.toList_ofList] at this
  · exact ⟨_, parse_where_of_keywordFree (trim_ne_nil_of_parse h) hfree, rfl⟩
  · obtain ⟨hquote, hescaped⟩ := (fragments_of_parse h).2 _ hmem
    exact ⟨hescaped, staysQuoted_iff hquote⟩

/-- Keywords, brackets and other quotes may stand in a quoted text, and anything closed in a subscript. -/
theorem parse_where_of_quoted_keyword :
    let source := " spec[\"a (b\"][0] = 'from [\"' or (replicas >= 2) "
    (∃ p, Predicate.parse source = .ok p) ∧ Sheltered source.toList ∧
      ∃ q, parse .builtin ("FROM pods WHERE ".toList ++ source.toList) = .ok q ∧
        q.filter = some (String.ofList (trim source.toList)) := by
  intro source
  have hread : (Predicate.parse source).toBool = true := by decide +kernel
  have hpassed : ∀ f ∈ fragments source.toList, f.Passed := by decide +kernel
  have hsheltered : Sheltered source.toList :=
    ⟨by decide +kernel, by decide +kernel, fun body hbody => hpassed _ hbody⟩
  cases hparse : Predicate.parse source with
  | error e =>
    rw [hparse] at hread
    cases hread
  | ok p =>
    obtain ⟨hiff, hfree, -⟩ := parse_where_iff (A := .builtin) hparse
    exact ⟨⟨p, rfl⟩, hsheltered, hiff.mpr (hfree hsheltered fun quote body hbody => (hpassed _ hbody).2)⟩

/-- A backslash shields a quote from the lexer, but not from the scan of words. -/
theorem parse_where_of_escaped_quote :
    let source := "name = 'it\\'s'"
    (∃ p, Predicate.parse source = .ok p) ∧ Sheltered source.toList ∧
      parse .builtin ("FROM pods WHERE ".toList ++ source.toList) = .error (.invalidSyntax .unterminatedText) := by
  intro source
  have hread : (Predicate.parse source).toBool = true := by decide +kernel
  have hfragments : fragments source.toList =
      ("name = ".toList.map .plain) ++ [.literal '\'' "it\\'s".toList] := by decide +kernel
  have hsubscripts : ∀ body, .subscript body ∉ fragments source.toList := fun body hbody => by
    rw [hfragments] at hbody
    simp at hbody
  have hsheltered : Sheltered source.toList :=
    ⟨by decide +kernel, by decide +kernel, fun body hbody => (hsubscripts body hbody).elim⟩
  cases hparse : Predicate.parse source with
  | error e =>
    rw [hparse] at hread
    cases hread
  | ok p => exact ⟨⟨p, rfl⟩, hsheltered, by decide +kernel⟩

end Query

end ClusterQuery
