import ClusterQuery.Proofs.Text.Nesting

/-! What is open behind a text of lists and paths that is read from left to right. A grammar says which brackets match
    each other, and a text leaves open what stands between its matched texts. That is where the scan stands behind the
    text; it stands nowhere only behind a bracket that closes nothing. -/

namespace ClusterQuery

namespace Nesting

variable {s t : Nesting} {n : Nat} {inside : Bool} {q c : Char} {cs ds : List Char}

/-- A text whose brackets match each other, `inside` a bracket or outside of all. Only inside do quotes count: what
    stands between two of a kind is no bracket there. -/
inductive Matched : Bool → List Char → Prop
  | nil {inside : Bool} : Matched inside []
  | char {inside : Bool} {c : Char} {cs : List Char} (hopen : c ≠ '[') (hclose : c ≠ ']')
      (hquote : inside = true → isQuote c = false) (h : Matched inside cs) : Matched inside (c :: cs)
  | quoted {q : Char} {between cs : List Char} (hq : isQuote q = true) (hbetween : q ∉ between) (h : Matched true cs) :
      Matched true (q :: (between ++ q :: cs))
  | bracketed {inside : Bool} {inner cs : List Char} (hinner : Matched true inner) (h : Matched inside cs) :
      Matched inside ('[' :: (inner ++ ']' :: cs))

/-- What is open behind a text: the brackets that nothing in it closes, and the quote that nothing ends. -/
inductive OpenAfter : Nesting → List Char → Prop
  | nothing {cs : List Char} (h : Matched false cs) : OpenAfter ⟨0, none⟩ cs
  | bracket {n : Nat} {before inner : List Char} (h : OpenAfter ⟨n, none⟩ before) (hinner : Matched true inner) :
      OpenAfter ⟨n + 1, none⟩ (before ++ '[' :: inner)
  | quote {n : Nat} {q : Char} {before between : List Char} (h : OpenAfter ⟨n + 1, none⟩ before)
      (hq : isQuote q = true) (hbetween : q ∉ between) : OpenAfter ⟨n + 1, some q⟩ (before ++ q :: between)

/-- A bracket is closed where nothing is open. -/
def ClosesNothing (cs : List Char) : Prop := ∃ before after, cs = before ++ ']' :: after ∧ OpenAfter outside before

/-- A bracket or a quote is left open at the end. -/
def LeavesOpen (cs : List Char) : Prop := ∃ s, OpenAfter s cs ∧ (s.depth ≠ 0 ∨ s.quote ≠ none)

theorem Matched.append (h1 : Matched inside cs) (h2 : Matched inside ds) : Matched inside (cs ++ ds) := by
  induction h1 with
  | nil => exact h2
  | char hopen hclose hquote _ ih => exact .char hopen hclose hquote (ih h2)
  | @quoted q between cs hq hbetween _ ih =>
    have := Matched.quoted hq hbetween (ih h2)
    rwa [List.cons_append, List.append_assoc, List.cons_append]
  | @bracketed inside inner cs hinner _ _ ih =>
    have := Matched.bracketed hinner (ih h2)
    rwa [List.cons_append, List.append_assoc, List.cons_append]

/-! ### What is open is where the scan comes to -/

theorem next_opening (n : Nat) : next .ofLists ⟨n, none⟩ '[' = some ⟨n + 1, none⟩ := by
  simp [next, isQuote, Brackets.ofLists]

theorem next_closing (n : Nat) : next .ofLists ⟨n + 1, none⟩ ']' = some ⟨n, none⟩ := by
  simp [next, isQuote, Brackets.ofLists]

theorem Matched.run (h : Matched inside cs) (hn : inside = decide (0 < n)) :
    run .ofLists ⟨n, none⟩ cs = some ⟨n, none⟩ := by
  induction h generalizing n with
  | nil => rfl
  | @char inside c cs hopen hclose hquote _ ih =>
    have hnext : next .ofLists ⟨n, none⟩ c = some ⟨n, none⟩ := by
      have hcounts : (isQuote c && decide (0 < n)) = false := by
        rw [← hn]
        cases inside with
        | false => exact Bool.and_false _
        | true => rw [hquote rfl, Bool.false_and]
      simp [next, Brackets.ofLists, hcounts, hopen, hclose]
    rw [Nesting.run, hnext]
    exact ih hn
  | @quoted q between cs hq hbetween _ ih =>
    obtain ⟨m, rfl⟩ : ∃ m, n = m + 1 := Nat.exists_eq_add_one.mpr (by simpa using hn)
    rw [Nesting.run, next_quote (b := .ofLists) hq rfl]
    refine run_trans (run_quoted hbetween (m + 1)) ?_
    rw [Nesting.run, next_of_quote rfl, if_pos rfl]
    exact ih hn
  | @bracketed inside inner cs _ _ ihinner ih =>
    rw [Nesting.run, next_opening]
    refine run_trans (ihinner (n := n + 1) rfl) ?_
    rw [Nesting.run, next_closing]
    exact ih hn

theorem OpenAfter.run (h : OpenAfter s cs) : run .ofLists outside cs = some s := by
  induction h with
  | nothing h => exact h.run rfl
  | bracket _ hinner ih =>
    refine run_trans ih ?_
    rw [Nesting.run, next_opening]
    exact hinner.run rfl
  | quote _ hq hbetween ih =>
    refine run_trans ih ?_
    rw [Nesting.run, next_quote (b := .ofLists) hq rfl]
    exact run_quoted hbetween _

/-! ### Where the scan comes to is open -/

/-- Behind what is open stands a matched text, which leaves the same open. -/
theorem OpenAfter.append (h : OpenAfter ⟨n, none⟩ cs) (hds : Matched (decide (0 < n)) ds) :
    OpenAfter ⟨n, none⟩ (cs ++ ds) := by
  cases h with
  | nothing h => exact .nothing (h.append hds)
  | bracket h hinner =>
    rw [List.append_assoc]
    exact .bracket h (hinner.append hds)

theorem OpenAfter.closing (h : OpenAfter ⟨n + 1, none⟩ cs) : OpenAfter ⟨n, none⟩ (cs ++ [']']) := by
  cases h with
  | bracket h hinner =>
    rw [List.append_assoc]
    exact h.append (.bracketed hinner .nil)

/-- One character more, outside of quotes: it is quoted from here on, opens or closes a bracket, or is of no account. -/
theorem OpenAfter.next_of_unquoted (h : OpenAfter ⟨n, none⟩ cs) (hnext : next .ofLists ⟨n, none⟩ c = some t) :
    OpenAfter t (cs ++ [c]) := by
  simp only [Nesting.next, Brackets.ofLists, Bool.false_or, Bool.and_eq_true, decide_eq_true_eq, beq_iff_eq] at hnext
  split at hnext
  · next hquote =>
    cases hnext
    obtain ⟨m, rfl⟩ : ∃ m, n = m + 1 := Nat.exists_eq_add_one.mpr hquote.2
    exact .quote h hquote.1 List.not_mem_nil
  · next hquote =>
    split at hnext
    · next hopen =>
      cases hnext
      subst hopen
      exact .bracket h .nil
    · next hopen =>
      split at hnext
      · next hclose =>
        subst hclose
        cases n with
        | zero => cases hnext
        | succ m =>
          cases hnext
          exact h.closing
      · next hclose =>
        cases hnext
        -- Where nothing is open, a quote is a character like any other.
        refine h.append (.char hopen hclose (fun hin => ?_) .nil)
        exact Bool.eq_false_iff.mpr fun hq => hquote ⟨hq, by simpa using hin⟩

/-- One character more, in a quote: it ends the quote or stands in it. -/
theorem OpenAfter.next_of_quoted (h : OpenAfter ⟨n, some q⟩ cs) (hnext : next .ofLists ⟨n, some q⟩ c = some t) :
    OpenAfter t (cs ++ [c]) := by
  rw [next_of_quote rfl] at hnext
  cases hnext
  cases h with
  | quote h hq hbetween =>
    rw [List.append_assoc]
    by_cases hc : c = q
    · subst hc
      rw [if_pos rfl]
      exact h.append (.quoted hq hbetween .nil)
    · rw [if_neg hc]
      refine .quote h hq fun hmem => ?_
      rcases List.mem_append.mp hmem with hmem | hmem
      · exact hbetween hmem
      · exact hc (List.mem_singleton.mp hmem).symm

theorem OpenAfter.next (h : OpenAfter s cs) (hnext : next .ofLists s c = some t) : OpenAfter t (cs ++ [c]) := by
  obtain ⟨n, quote⟩ := s
  cases quote with
  | none => exact h.next_of_unquoted hnext
  | some q => exact h.next_of_quoted hnext

/-- More text: by induction on it, one character after the other. -/
theorem OpenAfter.append_run (h : OpenAfter s cs) (hrun : Nesting.run .ofLists s ds = some t) :
    OpenAfter t (cs ++ ds) := by
  induction ds generalizing s cs with
  | nil =>
    cases hrun
    rwa [List.append_nil]
  | cons c ds ih =>
    obtain ⟨u, hu, hrun⟩ := Option.bind_eq_some_iff.mp hrun
    rw [List.append_cons]
    exact ih (h.next hu) hrun

/-- The scan stands exactly at what is open behind the text. -/
theorem run_eq_some_iff_openAfter : run .ofLists outside cs = some s ↔ OpenAfter s cs :=
  ⟨fun h => OpenAfter.append_run (.nothing .nil) h, OpenAfter.run⟩

/-! ### Texts that are not closed -/

theorem next_eq_none_iff : next .ofLists s c = none ↔ s = outside ∧ c = ']' := by
  obtain ⟨depth, quote⟩ := s
  cases quote with
  | some q => simp [next, outside]
  | none =>
    constructor
    · intro h
      simp only [next, Brackets.ofLists, beq_iff_eq] at h
      split at h
      · cases h
      · split at h
        · cases h
        · split at h
          · next hclose =>
            cases depth with
            | zero => exact ⟨rfl, hclose⟩
            | succ depth => cases h
          · cases h
    · rintro ⟨hs, rfl⟩
      rw [hs]
      rfl

theorem run_eq_none_iff : run .ofLists s cs = none ↔
    ∃ before after, cs = before ++ ']' :: after ∧ run .ofLists s before = some outside := by
  constructor
  · intro h
    induction cs generalizing s with
    | nil => cases h
    | cons c cs ih =>
      rw [run] at h
      cases hnext : next .ofLists s c with
      | none =>
        obtain ⟨rfl, rfl⟩ := next_eq_none_iff.mp hnext
        exact ⟨[], cs, rfl, rfl⟩
      | some t =>
        rw [hnext] at h
        obtain ⟨before, after, rfl, hbefore⟩ := ih h
        refine ⟨c :: before, after, rfl, ?_⟩
        rw [run, hnext]
        exact hbefore
  · rintro ⟨before, after, rfl, hbefore⟩
    rw [run_append, hbefore]
    rfl

theorem ne_outside_iff : s ≠ outside ↔ s.depth ≠ 0 ∨ s.quote ≠ none := by
  obtain ⟨depth, quote⟩ := s
  rw [← not_and_or, Ne, outside, Nesting.mk.injEq]

theorem run_eq_none_iff_closesNothing : run .ofLists outside cs = none ↔ ClosesNothing cs := by
  simp only [run_eq_none_iff, ClosesNothing, run_eq_some_iff_openAfter]

theorem closed_iff_openAfter : Closed .ofLists cs ↔ OpenAfter outside cs := run_eq_some_iff_openAfter

/-- A text that is not closed goes wrong at a bracket in it or at its end. -/
theorem not_closed_iff : ¬Closed .ofLists cs ↔ ClosesNothing cs ∨ LeavesOpen cs := by
  rw [← run_eq_none_iff_closesNothing, Closed]
  simp only [LeavesOpen, ← run_eq_some_iff_openAfter, ← ne_outside_iff]
  cases run .ofLists outside cs with
  | none => simp
  | some s => simp

end Nesting

end ClusterQuery
