import ClusterQuery.Proofs.Result
import ClusterQuery.Proofs.Text.Characters
import ClusterQuery.Query.Words
import Mathlib.Data.List.Chain

/-! What a text is cut into. The pieces of a text are words and runs of blanks by turns, a word being a text
    that is closed and has no blank outside its brackets and quotes; a text with such pieces has no others. -/

namespace ClusterQuery

open Nesting

namespace Piece

/-! ### Words -/

/-- A text that is one word. -/
def IsWord (cs : List Char) : Prop := cs ≠ [] ∧ Leads .ofWords isBlank outside cs

theorem IsWord.closed {cs : List Char} (h : IsWord cs) : Closed .ofWords cs := h.2.run

theorem IsWord.append {as bs : List Char} (ha : IsWord as) (hb : IsWord bs) : IsWord (as ++ bs) :=
  ⟨fun h => ha.1 (List.append_eq_nil_iff.mp h).1, ha.2.append hb.2⟩

theorem closed_of_blanks {cs : List Char} (h : Blanks cs) : Closed .ofWords cs :=
  closed_of_plain fun c hc => (isPlain_of_isBlank (h c hc)).1

theorem closed_of_trim {cs : List Char} (h : Closed .ofWords (trim cs)) : Closed .ofWords cs := by
  obtain ⟨as, bs, has, hbs, hcs⟩ := exists_trim cs
  rw [hcs]
  exact (closed_of_blanks has).append (h.append (closed_of_blanks hbs))

theorem isWord_of_plain {cs : List Char} (hne : cs ≠ [])
    (h : ∀ c ∈ cs, Brackets.ofWords.isPlain c = true ∧ isBlank c = false) : IsWord cs := ⟨hne, leads_of_plain h⟩

/-! ### Pieces -/

/-- What a piece may be. -/
def Valid : Piece → Prop
  | .blanks cs => cs ≠ [] ∧ Blanks cs
  | .word cs => IsWord cs

def isWord (p : Piece) : Bool := p.word?.isSome

/-- Words and runs of blanks by turns. -/
structure WellCut (ps : List Piece) : Prop where
  valid : ∀ p ∈ ps, p.Valid
  alternating : ps.IsChain fun p q => p.isWord ≠ q.isWord

/-- Whether the first piece is a word. -/
def startsWithWord (ps : List Piece) : Bool := ps.head?.any isWord

@[simp] theorem isWord_word (cs : List Char) : (Piece.word cs).isWord = true := rfl

@[simp] theorem isWord_blanks (cs : List Char) : (Piece.blanks cs).isWord = false := rfl

@[simp] theorem text_word (cs : List Char) : (Piece.word cs).text = cs := rfl

@[simp] theorem text_blanks (cs : List Char) : (Piece.blanks cs).text = cs := rfl

@[simp] theorem join_nil : join [] = [] := rfl

@[simp] theorem join_cons (p : Piece) (ps : List Piece) : join (p :: ps) = p.text ++ join ps := rfl

@[simp] theorem join_append (ps qs : List Piece) : join (ps ++ qs) = join ps ++ join qs := List.flatMap_append

theorem wellCut_nil : WellCut [] := ⟨fun _ hp => (List.not_mem_nil hp).elim, .nil⟩

theorem wellCut_cons_iff {p : Piece} {ps : List Piece} :
    WellCut (p :: ps) ↔ p.Valid ∧ (∀ q ∈ ps.head?, p.isWord ≠ q.isWord) ∧ WellCut ps := by
  constructor
  · intro h
    obtain ⟨hhead, htail⟩ := List.isChain_cons.mp h.alternating
    exact ⟨h.valid p List.mem_cons_self, hhead, fun q hq => h.valid q (List.mem_cons_of_mem p hq), htail⟩
  · rintro ⟨hp, hhead, h⟩
    exact ⟨List.forall_mem_cons.mpr ⟨hp, h.valid⟩, List.isChain_cons.mpr ⟨hhead, h.alternating⟩⟩

theorem WellCut.of_infix {ps qs : List Piece} (h : WellCut ps) (hi : qs <:+: ps) : WellCut qs :=
  ⟨fun q hq => h.valid q (hi.subset hq), h.alternating.infix hi⟩

theorem WellCut.append {ps qs : List Piece} (hp : WellCut ps) (hq : WellCut qs)
    (hne : ∀ p ∈ ps.getLast?, ∀ q ∈ qs.head?, p.isWord ≠ q.isWord) : WellCut (ps ++ qs) := by
  refine ⟨fun p hp' => ?_, hp.alternating.append hq.alternating hne⟩
  rcases List.mem_append.mp hp' with h | h
  · exact hp.valid p h
  · exact hq.valid p h

theorem Valid.closed {p : Piece} (h : p.Valid) : Closed .ofWords p.text := by
  cases p with
  | blanks cs => exact closed_of_blanks h.2
  | word cs => exact IsWord.closed h

theorem WellCut.closed {ps : List Piece} (h : WellCut ps) : Closed .ofWords (join ps) := by
  induction ps with
  | nil => exact closed_nil
  | cons p ps ih =>
    obtain ⟨hp, -, hps⟩ := wellCut_cons_iff.mp h
    exact hp.closed.append (ih hps)

/-! ### Cutting -/

theorem cutFrom_cons (offset : Nat) (s : Nesting) (c : Char) (cs : List Char) :
    cutFrom offset s.depth s.quote (c :: cs) =
      if s = outside ∧ isBlank c = true then (cutFrom (offset + c.utf8Size) 0 none cs).map (consBlank c)
      else
        match next .ofWords s c with
        | some t => (cutFrom (offset + c.utf8Size) t.depth t.quote cs).map (consWord c)
        | none => .error (.unbalanced c offset) := by
  obtain ⟨depth, quote⟩ := s
  cases quote with
  | some q => simp [cutFrom, next, outside]
  | none =>
    by_cases hb : isBlank c = true ∧ depth = 0
    · simp [cutFrom, outside, hb.1, hb.2]
    · have hcond : (isBlank c && decide (depth = 0)) = false := by simpa using hb
      have hout : ¬((⟨depth, none⟩ : Nesting) = outside ∧ isBlank c = true) := fun h => by
        simp only [outside, Nesting.mk.injEq, and_true] at h
        exact hb h.symm
      simp only [cutFrom, hcond, if_neg hout, next, Brackets.ofWords, Bool.true_or, Bool.and_true, Bool.or_eq_true,
        beq_iff_eq, Bool.false_eq_true, if_false]
      split
      · rfl
      · split
        · rfl
        · split
          · cases depth <;> rfl
          · rfl

theorem consWord_of_not_startsWithWord {c : Char} {ps : List Piece} (h : startsWithWord ps = false) :
    consWord c ps = .word [c] :: ps := by
  cases ps with
  | nil => rfl
  | cons p ps =>
    cases p with
    | blanks cs => rfl
    | word cs => cases h

/-- A word and the pieces after it; nothing is added for an empty text. -/
def wordThen : List Char → List Piece → List Piece
  | [], ps => ps
  | c :: cs, ps => .word (c :: cs) :: ps

theorem consWord_wordThen {c : Char} {cs : List Char} {ps : List Piece} (h : startsWithWord ps = false) :
    consWord c (wordThen cs ps) = wordThen (c :: cs) ps := by
  cases cs with
  | nil => exact consWord_of_not_startsWithWord h
  | cons => rfl

theorem join_wordThen (cs : List Char) (ps : List Piece) : join (wordThen cs ps) = cs ++ join ps := by
  cases cs <;> rfl

theorem wellCut_wordThen {cs : List Char} {ps : List Piece} (h : Leads .ofWords isBlank outside cs) (hps : WellCut ps)
    (hs : startsWithWord ps = false) : WellCut (wordThen cs ps) := by
  cases cs with
  | nil => exact hps
  | cons c cs =>
    refine wellCut_cons_iff.mpr ⟨⟨List.cons_ne_nil c cs, h⟩, fun q hq hsame => ?_, hps⟩
    rw [startsWithWord, hq, Option.any_some, ← hsame] at hs
    cases hs

theorem wellCut_consBlank {c : Char} {ps : List Piece} (hc : isBlank c = true) (h : WellCut ps) :
    WellCut (consBlank c ps) ∧ startsWithWord (consBlank c ps) = false := by
  have hone : Blanks [c] := fun d hd => by
    cases List.mem_singleton.mp hd
    exact hc
  unfold consBlank
  split
  · next cs qs =>
    obtain ⟨hp, hhead, hqs⟩ := wellCut_cons_iff.mp h
    exact ⟨wellCut_cons_iff.mpr ⟨⟨List.cons_ne_nil c cs, hone.append hp.2⟩, hhead, hqs⟩, rfl⟩
  · next hnot =>
    refine ⟨wellCut_cons_iff.mpr ⟨⟨List.cons_ne_nil c [], hone⟩, fun q hq => ?_, h⟩, rfl⟩
    cases ps with
    | nil => cases hq
    | cons p ps =>
      cases hq
      cases q with
      | blanks cs => exact (hnot cs ps rfl).elim
      | word cs => exact Bool.false_ne_true

/-- Cutting on from a place gives the end of the word that the place is in, and pieces. -/
theorem exists_of_cutFrom {offset : Nat} {s : Nesting} {cs : List Char} {ps : List Piece}
    (h : cutFrom offset s.depth s.quote cs = .ok ps) :
    ∃ w qs, ps = wordThen w qs ∧ cs = w ++ join qs ∧ Leads .ofWords isBlank s w ∧ WellCut qs ∧ startsWithWord qs = false := by
  induction cs generalizing offset s ps with
  | nil =>
    obtain ⟨depth, quote⟩ := s
    simp only [cutFrom] at h
    split at h
    · cases h
    · next hq =>
      split at h
      · cases h
      · next hd =>
        cases h
        have hs : (⟨depth, quote⟩ : Nesting) = outside := by simp_all [outside]
        exact ⟨[], [], rfl, rfl, hs ▸ .nil, wellCut_nil, rfl⟩
  | cons c cs ih =>
    rw [cutFrom_cons] at h
    split at h
    · next hc =>
      -- A blank outside ends what was before it, be it a word.
      obtain ⟨ps', hps', rfl⟩ := Except.map_eq_ok_iff.mp h
      obtain ⟨w, qs, rfl, rfl, hw, hqs, hstart⟩ := ih (s := outside) hps'
      obtain ⟨hcut, hfirst⟩ := wellCut_consBlank hc.2 (wellCut_wordThen hw hqs hstart)
      refine ⟨[], _, rfl, ?_, hc.1 ▸ .nil, hcut, hfirst⟩
      show c :: (w ++ join qs) = join (consBlank c (wordThen w qs))
      rw [join_consBlank, join_wordThen]
    · next hc =>
      split at h
      · next t ht =>
        obtain ⟨ps', hps', rfl⟩ := Except.map_eq_ok_iff.mp h
        obtain ⟨w, qs, rfl, rfl, hw, hqs, hstart⟩ := ih hps'
        refine ⟨c :: w, qs, consWord_wordThen hstart, rfl, .cons (fun hs => ?_) ht hw, hqs, hstart⟩
        exact Bool.eq_false_iff.mpr fun hb => hc ⟨hs, hb⟩
      · cases h

/-- The end of the word that a place is in, and pieces, are cut off a text that begins with them. -/
theorem cutFrom_of_leads {s : Nesting} {w : List Char} {ps : List Piece} (hw : Leads .ofWords isBlank s w)
    (hs : startsWithWord ps = false) (hps : ∀ offset, cutFrom offset 0 none (join ps) = .ok ps) (offset : Nat) :
    cutFrom offset s.depth s.quote (w ++ join ps) = .ok (wordThen w ps) := by
  induction hw generalizing offset with
  | nil => exact hps offset
  | @cons s t c cs hc hn _ ih =>
    have hnot : ¬(s = outside ∧ isBlank c = true) := fun h => by
      have := hc h.1
      rw [h.2] at this
      cases this
    rw [List.cons_append, cutFrom_cons, if_neg hnot, hn]
    dsimp only
    rw [ih, ← consWord_wordThen hs]
    rfl

theorem cutFrom_of_blanks {bs : List Char} {ps : List Piece} (hne : bs ≠ []) (hb : Blanks bs)
    (hs : ∀ p ∈ ps.head?, p.isWord = true) (hps : ∀ offset, cutFrom offset 0 none (join ps) = .ok ps)
    (offset : Nat) : cutFrom offset 0 none (bs ++ join ps) = .ok (.blanks bs :: ps) := by
  induction bs generalizing offset with
  | nil => exact (hne rfl).elim
  | cons c bs ih =>
    obtain ⟨hc, hb⟩ := List.forall_mem_cons.mp hb
    show cutFrom offset outside.depth outside.quote (c :: (bs ++ join ps)) = _
    rw [cutFrom_cons, if_pos ⟨rfl, hc⟩]
    cases bs with
    | nil =>
      rw [List.nil_append, hps]
      cases ps with
      | nil => rfl
      | cons p ps =>
        have hp := hs p rfl
        cases p with
        | blanks cs => cases hp
        | word cs => rfl
    | cons d bs =>
      rw [ih (List.cons_ne_nil d bs) hb]
      rfl

theorem cutFrom_join {ps : List Piece} (h : WellCut ps) (offset : Nat) : cutFrom offset 0 none (join ps) = .ok ps := by
  induction ps generalizing offset with
  | nil => rfl
  | cons p ps ih =>
    obtain ⟨hp, hhead, hps⟩ := wellCut_cons_iff.mp h
    cases p with
    | blanks cs =>
      refine cutFrom_of_blanks hp.1 hp.2 (fun q hq => ?_) (ih hps) offset
      simpa using hhead q hq
    | word cs =>
      have hs : startsWithWord ps = false := by
        unfold startsWithWord
        cases hq : ps.head? with
        | none => rfl
        | some q => simpa using hhead q hq
      cases cs with
      | nil => exact (hp.1 rfl).elim
      | cons c cs => exact cutFrom_of_leads hp.2 hs (ih hps) offset

/-- A text is cut into these pieces: words and runs of blanks by turns that it consists of. -/
theorem cut_eq_ok_iff {cs : List Char} {ps : List Piece} : cut cs = .ok ps ↔ WellCut ps ∧ join ps = cs := by
  constructor
  · intro h
    obtain ⟨w, qs, rfl, rfl, hw, hqs, hs⟩ := exists_of_cutFrom (s := outside) h
    exact ⟨wellCut_wordThen hw hqs hs, join_wordThen w qs⟩
  · rintro ⟨h, rfl⟩
    exact cutFrom_join h 0

theorem exists_cutFrom (offset : Nat) {s : Nesting} {cs : List Char} (h : run .ofWords s cs = some outside) :
    ∃ ps, cutFrom offset s.depth s.quote cs = .ok ps := by
  induction cs generalizing offset s with
  | nil =>
    cases h
    exact ⟨[], rfl⟩
  | cons c cs ih =>
    obtain ⟨t, ht, h⟩ := Option.bind_eq_some_iff.mp h
    rw [cutFrom_cons]
    split
    · next hc =>
      -- A blank leaves the scan where it is.
      rw [hc.1, next_of_plain sound_outside (isPlain_of_isBlank hc.2).1] at ht
      cases ht
      obtain ⟨ps, hps⟩ := ih (offset + c.utf8Size) h
      exact ⟨_, Except.map_eq_ok_iff.mpr ⟨ps, hps, rfl⟩⟩
    · rw [ht]
      obtain ⟨ps, hps⟩ := ih (offset + c.utf8Size) h
      exact ⟨_, Except.map_eq_ok_iff.mpr ⟨ps, hps, rfl⟩⟩

/-- The texts that can be cut are those whose brackets and quotes are closed. -/
theorem exists_cut_iff {cs : List Char} : (∃ ps, cut cs = .ok ps) ↔ Closed .ofWords cs := by
  refine ⟨?_, exists_cutFrom 0⟩
  rintro ⟨ps, h⟩
  obtain ⟨hps, rfl⟩ := cut_eq_ok_iff.mp h
  exact hps.closed

/-! ### Blanks around pieces -/

theorem last_of_leads {s : Nesting} {cs : List Char} (hs : s.Sound) (h : Leads .ofWords isBlank s cs) :
    ∀ c ∈ cs.getLast?, isBlank c = false := by
  induction h with
  | nil => exact fun c hc => nomatch hc
  | @cons s t c cs hc hn h ih =>
    intro d hd
    cases cs with
    | cons e cs =>
      rw [List.getLast?_cons_cons] at hd
      exact ih (next_sound hs hn) d hd
    | nil =>
      -- A blank would leave the scan where it was, which is then outside.
      obtain rfl : c = d := Option.some.inj hd
      refine Bool.eq_false_iff.mpr fun hb => ?_
      rw [next_of_plain hs (isPlain_of_isBlank hb).1] at hn
      cases hn
      cases h
      rw [hc rfl] at hb
      cases hb

theorem IsWord.trimmed {cs : List Char} (h : IsWord cs) : Trimmed cs := by
  refine ⟨fun c hc => ?_, last_of_leads sound_outside h.2⟩
  obtain ⟨-, h⟩ := h
  cases h with
  | nil => cases hc
  | cons hb _ _ =>
    cases hc
    exact hb rfl

theorem trimmed_join {ps : List Piece} (h : WellCut ps) (hfirst : ∀ p ∈ ps.head?, p.isWord = true)
    (hlast : ∀ p ∈ ps.getLast?, p.isWord = true) : Trimmed (join ps) := by
  constructor
  · cases ps with
    | nil => exact fun c hc => nomatch hc
    | cons p ps =>
      cases p with
      | blanks cs => cases hfirst _ rfl
      | word w =>
        have hw : IsWord w := h.valid _ List.mem_cons_self
        intro c hc
        rw [join_cons, text_word, List.head?_append_of_ne_nil _ hw.1] at hc
        exact hw.trimmed.head c hc
  · rcases List.eq_nil_or_concat ps with rfl | ⟨qs, p, rfl⟩
    · exact fun c hc => nomatch hc
    · rw [List.concat_eq_append] at *
      cases p with
      | blanks cs => cases hlast (.blanks cs) (by simp)
      | word w =>
        have hw : IsWord w := h.valid (.word w) (by simp)
        intro c hc
        rw [join_append, join_cons, join_nil, List.append_nil, text_word, List.getLast?_append_of_ne_nil _ hw.1] at hc
        exact hw.trimmed.last c hc

theorem isWord_head {ps : List Piece} (h : WellCut ps) (ht : Trimmed (join ps)) :
    ∀ p ∈ ps.head?, p.isWord = true := by
  intro p hp
  cases ps with
  | nil => cases hp
  | cons q ps =>
    cases hp
    cases p with
    | word w => rfl
    | blanks cs =>
      obtain ⟨hne, hblank⟩ : cs ≠ [] ∧ Blanks cs := h.valid _ List.mem_cons_self
      cases cs with
      | nil => exact (hne rfl).elim
      | cons c cs =>
        have := ht.head c rfl
        rw [hblank c List.mem_cons_self] at this
        cases this

theorem isWord_getLast {ps : List Piece} (h : WellCut ps) (ht : Trimmed (join ps)) :
    ∀ p ∈ ps.getLast?, p.isWord = true := by
  intro p hp
  rcases List.eq_nil_or_concat ps with rfl | ⟨qs, q, rfl⟩
  · cases hp
  · rw [List.concat_eq_append] at *
    obtain rfl : q = p := by simpa using hp
    cases q with
    | word w => rfl
    | blanks cs =>
      obtain ⟨hne, hblank⟩ : cs ≠ [] ∧ Blanks cs := h.valid (.blanks cs) (by simp)
      obtain ⟨c, hc⟩ := Option.isSome_iff_exists.mp (List.getLast?_isSome.mpr hne)
      have hlast : (join (qs ++ [.blanks cs])).getLast? = some c := by
        rw [join_append, join_cons, join_nil, List.append_nil, text_blanks, List.getLast?_append_of_ne_nil _ hne]
        exact hc
      have := ht.last c hlast
      rw [hblank c (List.mem_of_getLast? hc)] at this
      cases this

theorem WellCut.exists_blanks_append {ps : List Piece} (h : WellCut ps) :
    ∃ lead rest, ps = lead ++ rest ∧ Blanks (join lead) ∧ ∀ p ∈ rest.head?, p.isWord = true := by
  match ps, h with
  | [], _ => exact ⟨[], [], rfl, blanks_nil, fun _ hp => nomatch hp⟩
  | .word w :: ps, _ => exact ⟨[], .word w :: ps, rfl, blanks_nil, fun _ hp => by cases hp; rfl⟩
  | .blanks cs :: ps, h =>
    obtain ⟨hp, hhead, -⟩ := wellCut_cons_iff.mp h
    refine ⟨[.blanks cs], ps, rfl, ?_, fun q hq => by simpa using hhead q hq⟩
    rw [join_cons, join_nil, List.append_nil]
    exact hp.2

theorem WellCut.exists_append_blanks {ps : List Piece} (h : WellCut ps) :
    ∃ front tail, ps = front ++ tail ∧ Blanks (join tail) ∧ ∀ p ∈ front.getLast?, p.isWord = true := by
  rcases List.eq_nil_or_concat ps with rfl | ⟨qs, p, rfl⟩
  · exact ⟨[], [], rfl, blanks_nil, fun _ hp => nomatch hp⟩
  rw [List.concat_eq_append] at *
  cases p with
  | word w =>
    refine ⟨qs ++ [.word w], [], (List.append_nil _).symm, blanks_nil, fun p hp => ?_⟩
    obtain rfl : Piece.word w = p := by simpa using hp
    rfl
  | blanks cs =>
    refine ⟨qs, [.blanks cs], rfl, ?_, fun p hp => ?_⟩
    · rw [join_cons, join_nil, List.append_nil]
      exact (h.valid (.blanks cs) (by simp)).2
    · -- Blanks stand next to words only.
      simpa using (List.isChain_append.mp h.alternating).2.2 p hp (.blanks cs) rfl

/-- The pieces of a trimmed text are among those of the text. -/
theorem WellCut.exists_trim {ps : List Piece} (h : WellCut ps) : ∃ qs, qs <:+: ps ∧ join qs = trim (join ps) := by
  obtain ⟨lead, rest, rfl, hlead, hfirst⟩ := h.exists_blanks_append
  have hrest : WellCut rest := h.of_infix (List.suffix_append lead rest).isInfix
  obtain ⟨qs, tail, rfl, htail, hlast⟩ := hrest.exists_append_blanks
  refine ⟨qs, ⟨lead, tail, by simp⟩, ?_⟩
  have hqs : WellCut qs := hrest.of_infix (List.prefix_append qs tail).isInfix
  have hfirst' : ∀ p ∈ qs.head?, p.isWord = true := fun p hp => hfirst p (by
    rw [List.head?_append, hp]
    rfl)
  rw [join_append, join_append, (trimmed_join hqs hfirst' hlast).trim_between hlead htail]

/-- A word after a text and blanks is the last piece. -/
theorem cut_append_blanks_word {cs gap w : List Char} {ps : List Piece} (hps : cut cs = .ok ps) (ht : Trimmed cs)
    (hgap : Blanks gap) (hne : gap ≠ []) (hw : IsWord w) :
    cut (cs ++ (gap ++ w)) = .ok (ps ++ [.blanks gap, .word w]) := by
  obtain ⟨hcut, rfl⟩ := cut_eq_ok_iff.mp hps
  have hone : WellCut [.word w] := wellCut_cons_iff.mpr ⟨hw, (fun _ hq => nomatch hq), wellCut_nil⟩
  have htwo : WellCut [.blanks gap, .word w] :=
    wellCut_cons_iff.mpr ⟨⟨hne, hgap⟩, (by rintro q ⟨⟩; exact Bool.false_ne_true), hone⟩
  refine cut_eq_ok_iff.mpr ⟨hcut.append htwo fun p hp q hq => ?_, ?_⟩
  · cases hq
    rw [isWord_getLast hcut ht p hp]
    exact Bool.false_ne_true.symm
  · simp

theorem cut_append_word {cs w : List Char} {ps : List Piece} (hps : cut cs = .ok ps) (ht : Trimmed cs) (hw : IsWord w) :
    cut (cs ++ ' ' :: w) = .ok (ps ++ [.blanks [' '], .word w]) :=
  cut_append_blanks_word hps ht blanks_space (List.cons_ne_nil _ _) hw

end Piece

end ClusterQuery
