import ClusterQuery.Path.Brackets
import Mathlib.Data.Option.Basic

/-! Scans that count brackets and know whether they are in a quote. Where a scan stands is a place; every
    character leads from a place to at most one other, and no two places to the same one, so that a scan can
    be followed in both directions. Two kinds of scans share this: that of words, and that of lists and paths. -/

namespace ClusterQuery

-- What is said of the characters of a text is decided on the text, not on every character there is.
instance (priority := 1100) decidableForallChars {p : Char → Prop} [DecidablePred p] (cs : List Char) :
    Decidable (∀ c ∈ cs, p c) := List.decidableBAll p cs

instance (priority := 1100) decidableForallChar? {p : Char → Prop} [DecidablePred p] (c? : Option Char) :
    Decidable (∀ c ∈ c?, p c) := c?.decidableForallMem

/-- Where a scan stands: in how many brackets, and in which quote. -/
structure Nesting where
  depth : Nat
  quote : Option Char
deriving DecidableEq

/-- What a scan takes for brackets, and whether it minds quotes outside of them. -/
structure Brackets where
  opens : Char → Bool
  closes : Char → Bool
  quotesOutside : Bool

namespace Brackets

/-- The scan of words. -/
def ofWords : Brackets := ⟨fun c => c == '(' || c == '[', fun c => c == ')' || c == ']', true⟩

/-- The scan of lists and paths. -/
def ofLists : Brackets := ⟨(· == '['), (· == ']'), false⟩

/-- A character that a scan does not mind. -/
def isPlain (b : Brackets) (c : Char) : Bool := !isQuote c && !b.opens c && !b.closes c

/-- The characters that some scan minds. -/
def marks : List Char := ['\'', '"', '(', '[', ')', ']']

theorem isPlain_of_not_mem_marks {c : Char} (h : c ∉ marks) : ofWords.isPlain c = true ∧ ofLists.isPlain c = true := by
  simp only [marks, List.mem_cons, List.not_mem_nil, or_false, not_or] at h
  simp [isPlain, ofWords, ofLists, isQuote, h]

end Brackets

/-- A character of a class is none of those outside the class. -/
theorem not_mem_of_all {p : Char → Bool} {c : Char} {ds : List Char} (hc : p c = true)
    (hds : (ds.all fun d => !p d) = true) : c ∉ ds := fun hmem => by
  have := List.all_eq_true.mp hds c hmem
  rw [hc] at this
  cases this

namespace Nesting

variable {b : Brackets} {s t u : Nesting} {c : Char} {cs ds : List Char}

def outside : Nesting := ⟨0, none⟩

/-- The place after a character; none after a bracket that closes nothing. -/
def next (b : Brackets) (s : Nesting) (c : Char) : Option Nesting :=
  match s.quote with
  | some q => some ⟨s.depth, if c = q then none else some q⟩
  | none =>
    if isQuote c && (b.quotesOutside || 0 < s.depth) then some ⟨s.depth, some c⟩
    else if b.opens c then some ⟨s.depth + 1, none⟩
    else if b.closes c then
      match s.depth with
      | 0 => none
      | depth + 1 => some ⟨depth, none⟩
    else some s

/-- The place after a text. -/
def run (b : Brackets) (s : Nesting) : List Char → Option Nesting
  | [] => some s
  | c :: cs => (next b s c).bind fun t => run b t cs

/-- A place that a scan can come to: quotes are opened by quotes. -/
def Sound (s : Nesting) : Prop := ∀ q ∈ s.quote, isQuote q = true

theorem sound_unquoted (d : Nat) : Sound ⟨d, none⟩ := fun _ hq => nomatch hq

theorem sound_outside : outside.Sound := sound_unquoted 0

theorem run_append : run b s (cs ++ ds) = (run b s cs).bind fun t => run b t ds := by
  induction cs generalizing s with
  | nil => rfl
  | cons c cs ih =>
    cases h : next b s c with
    | none => simp [run, h]
    | some t => simpa [run, h] using ih

theorem run_of_append (h : run b s (cs ++ ds) = some u) : ∃ t, run b s cs = some t ∧ run b t ds = some u := by
  rw [run_append] at h
  exact Option.bind_eq_some_iff.mp h

theorem run_trans (h1 : run b s cs = some t) (h2 : run b t ds = some u) : run b s (cs ++ ds) = some u := by
  rw [run_append, h1]
  exact h2

/-! ### One character -/

theorem next_of_quote {q : Char} (h : s.quote = some q) :
    next b s c = some ⟨s.depth, if c = q then none else some q⟩ := by
  rw [next, h]

theorem next_quote {q : Char} {d : Nat} (hq : isQuote q = true) (hcounts : (b.quotesOutside || decide (0 < d)) = true) :
    next b ⟨d, none⟩ q = some ⟨d, some q⟩ := by
  rw [next]
  exact if_pos (by rw [hq, hcounts]; rfl)

theorem next_of_plain (hs : s.Sound) (hc : b.isPlain c = true) : next b s c = some s := by
  obtain ⟨⟨hq, ho⟩, hcl⟩ : (isQuote c = false ∧ b.opens c = false) ∧ b.closes c = false := by
    simpa [Brackets.isPlain] using hc
  obtain ⟨depth, quote⟩ := s
  cases quote with
  | none => simp [next, hq, ho, hcl]
  | some q =>
    have hne : c ≠ q := fun he => by
      have := hs q rfl
      rw [← he, hq] at this
      cases this
    rw [next_of_quote rfl, if_neg hne]

theorem next_sound (hs : s.Sound) (h : next b s c = some t) : t.Sound := by
  obtain ⟨depth, quote⟩ := s
  intro q hq
  cases quote with
  | some p =>
    rw [next_of_quote rfl] at h
    cases h
    split at hq
    · cases hq
    · cases hq
      exact hs _ rfl
  | none =>
    simp only [next] at h
    split at h
    · next hc =>
      cases h
      cases hq
      exact (Bool.and_eq_true_iff.mp hc).1
    · split at h
      · cases h
        cases hq
      · split at h
        · split at h
          · cases h
          · cases h
            cases hq
        · cases h
          cases hq

theorem run_sound (hs : s.Sound) (h : run b s cs = some t) : t.Sound := by
  induction cs generalizing s with
  | nil =>
    cases h
    exact hs
  | cons c cs ih =>
    obtain ⟨u, hu, h⟩ := Option.bind_eq_some_iff.mp h
    exact ih (next_sound hs hu) h

theorem run_of_plain (hs : s.Sound) (h : ∀ c ∈ cs, b.isPlain c = true) : run b s cs = some s := by
  induction cs with
  | nil => rfl
  | cons c cs ih =>
    rw [run, next_of_plain hs (h c List.mem_cons_self)]
    exact ih fun d hd => h d (List.mem_cons_of_mem c hd)

theorem run_quoted {q : Char} (hcs : q ∉ cs) (d : Nat) : run b ⟨d, some q⟩ cs = some ⟨d, some q⟩ := by
  induction cs with
  | nil => rfl
  | cons c cs ih =>
    obtain ⟨hc, hcs⟩ := List.ne_and_not_mem_of_not_mem_cons hcs
    rw [run, next_of_quote rfl, if_neg hc.symm]
    exact ih hcs

/-! ### Following a scan backwards -/

/-- Outside quotes, a character opens and closes as much at every depth, and behind it a quote is open if it is one. -/
theorem exists_next_unquoted_iff (hb : b.quotesOutside = true) (c : Char) :
    ∃ opened closed, ∀ d t, next b ⟨d, none⟩ c = some t ↔
      t.depth + closed = d + opened ∧ t.quote = if isQuote c then some c else none := by
  by_cases hquote : isQuote c = true
  · refine ⟨0, 0, fun d ⟨e, quote⟩ => ?_⟩
    rw [next_quote hquote (by rw [hb]; rfl), if_pos hquote, Option.some.injEq, Nesting.mk.injEq]
    exact and_congr eq_comm eq_comm
  rw [if_neg hquote]
  by_cases hopen : b.opens c = true
  · refine ⟨1, 0, fun d ⟨e, quote⟩ => ?_⟩
    simp only [next, hb, hquote, hopen, Bool.false_and, Bool.false_eq_true, if_false, if_true, Option.some.injEq,
      Nesting.mk.injEq]
    exact and_congr eq_comm eq_comm
  by_cases hclose : b.closes c = true
  · refine ⟨0, 1, fun d ⟨e, quote⟩ => ?_⟩
    simp only [next, hb, hquote, hopen, hclose, Bool.false_and, Bool.false_eq_true, if_false, if_true]
    cases d with
    | zero => exact iff_of_false (fun h => nomatch h) fun h => Nat.succ_ne_zero e h.1
    | succ d =>
      rw [Option.some.injEq, Nesting.mk.injEq, Nat.add_zero, Nat.succ_inj]
      exact and_congr eq_comm eq_comm
  · refine ⟨0, 0, fun d ⟨e, quote⟩ => ?_⟩
    simp only [next, hb, hquote, hopen, hclose, Bool.false_and, Bool.false_eq_true, if_false, Option.some.injEq,
      Nesting.mk.injEq]
    exact and_congr eq_comm eq_comm

/-- A quote that is open differs from none afterwards as before, whatever the character. -/
theorem next_unquoted_ne (hb : b.quotesOutside = true) {q : Char} (hq : isQuote q = true) {d d' : Nat}
    (h : next b ⟨d, some q⟩ c = some t) : next b ⟨d', none⟩ c ≠ some t := by
  intro h'
  obtain ⟨_, _, hnext⟩ := exists_next_unquoted_iff hb c
  have hquote := ((hnext d' t).mp h').2
  rw [next_of_quote rfl] at h
  cases h
  by_cases hc : c = q
  · rw [if_pos hc, hc, if_pos hq] at hquote
    cases hquote
  · rw [if_neg hc] at hquote
    split at hquote
    · exact hc (Option.some.inj hquote).symm
    · cases hquote

theorem next_injective (hb : b.quotesOutside = true) (hs : s.Sound) (ht : t.Sound) (h1 : next b s c = some u)
    (h2 : next b t c = some u) : s = t := by
  obtain ⟨depth, quote⟩ := s
  obtain ⟨depth', quote'⟩ := t
  cases quote with
  | some q =>
    cases quote' with
    | none => exact (next_unquoted_ne hb (hs q rfl) h1 h2).elim
    | some q' =>
      rw [next_of_quote rfl] at h1 h2
      cases h1
      simp only [Option.some.injEq, Nesting.mk.injEq] at h2 ⊢
      refine ⟨h2.1.symm, ?_⟩
      by_cases hq : c = q <;> by_cases hq' : c = q' <;> simp_all
  | none =>
    cases quote' with
    | some q' => exact (next_unquoted_ne hb (ht q' rfl) h2 h1).elim
    | none =>
      obtain ⟨opened, closed, hnext⟩ := exists_next_unquoted_iff hb c
      have hdepth := ((hnext depth u).mp h1).1.symm.trans ((hnext depth' u).mp h2).1
      rw [Nat.add_right_cancel hdepth]

theorem run_injective (hb : b.quotesOutside = true) (hs : s.Sound) (ht : t.Sound) (h1 : run b s cs = some u)
    (h2 : run b t cs = some u) : s = t := by
  induction cs generalizing s t with
  | nil => exact Option.some.inj (h1.trans h2.symm)
  | cons c cs ih =>
    obtain ⟨s', hs', h1⟩ := Option.bind_eq_some_iff.mp h1
    obtain ⟨t', ht', h2⟩ := Option.bind_eq_some_iff.mp h2
    have := ih (next_sound hs hs') (next_sound ht ht') h1 h2
    subst this
    exact next_injective hb hs ht hs' ht'

/-! ### Inside more brackets -/

/-- A character leads the same way inside more brackets. -/
theorem next_deeper (hb : b.quotesOutside = true) (n : Nat) (h : next b s c = some t) :
    next b ⟨s.depth + n, s.quote⟩ c = some ⟨t.depth + n, t.quote⟩ := by
  obtain ⟨depth, quote⟩ := s
  cases quote with
  | some q =>
    rw [next_of_quote rfl] at h ⊢
    cases h
    rfl
  | none =>
    obtain ⟨opened, closed, hnext⟩ := exists_next_unquoted_iff hb c
    obtain ⟨hdepth, hquote⟩ := (hnext depth t).mp h
    exact (hnext _ _).mpr ⟨by dsimp only; omega, hquote⟩

theorem run_deeper (hb : b.quotesOutside = true) (n : Nat) (h : run b s cs = some t) :
    run b ⟨s.depth + n, s.quote⟩ cs = some ⟨t.depth + n, t.quote⟩ := by
  induction cs generalizing s with
  | nil =>
    cases h
    rfl
  | cons c cs ih =>
    obtain ⟨u, hu, h⟩ := Option.bind_eq_some_iff.mp h
    rw [run, next_deeper hb n hu]
    exact ih h

/-! ### Texts that a scan leaves where it entered -/

/-- A text whose brackets and quotes are closed in it. -/
def Closed (b : Brackets) (cs : List Char) : Prop := run b outside cs = some outside

instance (b : Brackets) (cs : List Char) : Decidable (Closed b cs) := inferInstanceAs (Decidable (_ = _))

theorem closed_nil : Closed b [] := rfl

theorem Closed.append (h1 : Closed b cs) (h2 : Closed b ds) : Closed b (cs ++ ds) := run_trans h1 h2

theorem closed_of_plain (h : ∀ c ∈ cs, b.isPlain c = true) : Closed b cs := run_of_plain sound_outside h

theorem Closed.of_append_left (h : Closed b (cs ++ ds)) (hcs : Closed b cs) : Closed b ds := by
  obtain ⟨t, ht, h⟩ := run_of_append h
  rw [hcs] at ht
  cases ht
  exact h

/-- A closed end of a closed text leaves a closed text before it. -/
theorem Closed.of_append_right (hb : b.quotesOutside = true) (h : Closed b (cs ++ ds)) (hds : Closed b ds) :
    Closed b cs := by
  obtain ⟨t, ht, h⟩ := run_of_append h
  rw [run_injective hb (run_sound sound_outside ht) sound_outside h hds] at ht
  exact ht

/-! ### Texts without a separator outside -/

/-- A text that leads from a place to the outside, with nothing that satisfies `stop` outside before its end. -/
inductive Leads (b : Brackets) (stop : Char → Bool) : Nesting → List Char → Prop
  | nil : Leads b stop outside []
  | cons {s t : Nesting} {c : Char} {cs : List Char} (hc : s = outside → stop c = false) (hn : next b s c = some t)
      (h : Leads b stop t cs) : Leads b stop s (c :: cs)

variable {stop : Char → Bool}

theorem Leads.run (h : Leads b stop s cs) : run b s cs = some outside := by
  induction h with
  | nil => rfl
  | cons _ hn _ ih => rw [Nesting.run, hn]; exact ih

theorem leads_of_run (h : run b s cs = some outside) (hstop : ∀ c ∈ cs, stop c = false) : Leads b stop s cs := by
  induction cs generalizing s with
  | nil =>
    cases h
    exact .nil
  | cons c cs ih =>
    obtain ⟨hc, hstop⟩ := List.forall_mem_cons.mp hstop
    obtain ⟨t, ht, h⟩ := Option.bind_eq_some_iff.mp h
    exact .cons (fun _ => hc) ht (ih h hstop)

theorem Leads.append (h1 : Leads b stop s cs) (h2 : Leads b stop outside ds) : Leads b stop s (cs ++ ds) := by
  induction h1 with
  | nil => exact h2
  | cons hc hn _ ih => exact .cons hc hn ih

theorem Leads.of_append_left (h : Leads b stop outside (cs ++ ds)) (hcs : ∀ c ∈ cs, b.isPlain c = true) :
    Leads b stop outside ds := by
  induction cs with
  | nil => exact h
  | cons c cs ih =>
    obtain ⟨hc, hcs⟩ := List.forall_mem_cons.mp hcs
    cases h with
    | cons _ hn h =>
      rw [next_of_plain sound_outside hc] at hn
      cases hn
      exact ih h hcs

/-- Characters outside that the scan does not mind are none that it stops at. -/
theorem Leads.stop_eq_false (h : Leads b stop outside (cs ++ ds)) (hcs : ∀ c ∈ cs, b.isPlain c = true) :
    ∀ c ∈ cs, stop c = false := by
  induction cs with
  | nil => exact fun _ hc => nomatch hc
  | cons c cs ih =>
    obtain ⟨hc, hcs⟩ := List.forall_mem_cons.mp hcs
    cases h with
    | cons hstop hn h =>
      rw [next_of_plain sound_outside hc] at hn
      cases hn
      exact List.forall_mem_cons.mpr ⟨hstop rfl, ih h hcs⟩

theorem Leads.of_append_right (hs : s.Sound) (h : Leads b stop s (cs ++ ds)) (hds : ∀ c ∈ ds, b.isPlain c = true) :
    Leads b stop s cs := by
  induction cs generalizing s with
  | nil =>
    have hrun := h.run
    rw [List.nil_append, run_of_plain hs hds] at hrun
    cases hrun
    exact .nil
  | cons c cs ih =>
    cases h with
    | cons hc hn h => exact .cons hc hn (ih (next_sound hs hn) h)

theorem Leads.plain_append (hs : s.Sound) (hin : s ≠ outside) (hcs : ∀ c ∈ cs, b.isPlain c = true)
    (h : Leads b stop s ds) : Leads b stop s (cs ++ ds) := by
  induction cs with
  | nil => exact h
  | cons c cs ih =>
    obtain ⟨hc, hcs⟩ := List.forall_mem_cons.mp hcs
    exact .cons (fun hout => (hin hout).elim) (next_of_plain hs hc) (ih hcs)

theorem Leads.quoted_append {n : Nat} {q : Char} (hcs : q ∉ cs) (h : Leads b stop ⟨n, some q⟩ ds) :
    Leads b stop ⟨n, some q⟩ (cs ++ ds) := by
  induction cs with
  | nil => exact h
  | cons c cs ih =>
    have hc : c ≠ q := fun he => hcs (he ▸ List.mem_cons_self)
    refine .cons (fun hout => nomatch hout) (next_of_quote rfl) ?_
    rw [if_neg hc]
    exact ih fun hmem => hcs (List.mem_cons_of_mem c hmem)

/-- Inside one more bracket, up to a text that closes it. -/
theorem Leads.deeper (hb : b.quotesOutside = true) (h : Leads b stop s cs) (hds : Leads b stop ⟨1, none⟩ ds) :
    Leads b stop ⟨s.depth + 1, s.quote⟩ (cs ++ ds) := by
  induction h with
  | nil => exact hds
  | cons _ hn _ ih =>
    exact .cons (fun hout => nomatch congrArg Nesting.depth hout) (next_deeper hb 1 hn) ih

theorem leads_of_plain (h : ∀ c ∈ cs, b.isPlain c = true ∧ stop c = false) : Leads b stop outside cs := by
  induction cs with
  | nil => exact .nil
  | cons c cs ih =>
    obtain ⟨hp, hc⟩ := h c List.mem_cons_self
    exact .cons (fun _ => hc) (next_of_plain sound_outside hp) (ih fun d hd => h d (List.mem_cons_of_mem c hd))

end Nesting

end ClusterQuery
