import ClusterQuery.Proofs.Path.Reading
import ClusterQuery.Proofs.Text.Split

/-! Printed paths and how they are read back. A printed path is cut at its dots into segments again, and in each
    segment the subscripts are cut at their brackets: whatever a key in brackets holds, the scans stay inside of
    the brackets up to their end. -/

namespace ClusterQuery

open Nesting

/-- Whether a step stands between dots; the others stand in brackets. -/
def Step.isDotted : Step → Bool
  | .key _ | .position _ => true
  | .index _ | .mapKey _ | .wildcard => false

/-- A step that its text determines. A key between dots is no number and holds nothing that ends or spoils it, and a
    key in brackets lacks one of the quotes. -/
def Step.Readable : Step → Prop
  | .key name => Path.IsKeyText name.toList ∧ '.' ∉ name.toList ∧ Path.number? name.toList = none
  | .position n | .index n => n < wordLimit
  | .mapKey name => name.toList ≠ [] ∧ ('\'' ∉ name.toList ∨ '"' ∉ name.toList)
  | .wildcard => True

instance : DecidablePred Step.Readable
  | .key name => inferInstanceAs (Decidable (Path.IsKeyText name.toList ∧ '.' ∉ name.toList ∧ Path.number? name.toList = none))
  | .position n | .index n => inferInstanceAs (Decidable (n < wordLimit))
  | .mapKey name => inferInstanceAs (Decidable (name.toList ≠ [] ∧ ('\'' ∉ name.toList ∨ '"' ∉ name.toList)))
  | .wildcard => inferInstanceAs (Decidable True)

/-- A path that its text determines but for blanks around it. -/
structure Path.Readable (p : Path) : Prop where
  dotted : ∃ s ∈ p.steps.head?, s.isDotted = true
  steps : ∀ s ∈ p.steps, s.Readable

instance (p : Path) : Decidable p.Readable :=
  decidable_of_iff ((∃ s ∈ p.steps.head?, s.isDotted = true) ∧ ∀ s ∈ p.steps, s.Readable)
    ⟨fun h => ⟨h.1, h.2⟩, fun h => ⟨h.dotted, h.steps⟩⟩

/-! ### Texts in brackets -/

/-- A text in which no bracket ends: one without any marks, or one between quotes that it does not hold. -/
inductive Enclosed : List Char → Prop
  | bare {cs : List Char} (h : ∀ c ∈ cs, c ∉ Brackets.marks) : Enclosed cs
  | quoted {q : Char} {cs : List Char} (hq : isQuote q = true) (h : q ∉ cs) : Enclosed (q :: (cs ++ [q]))

/-- The scans that a printed path is looked at with. -/
def Brackets.scans : List Brackets := [.ofWords, .ofLists]

theorem Brackets.ofWords_mem_scans : ofWords ∈ scans := List.mem_cons_self

theorem Brackets.ofLists_mem_scans : ofLists ∈ scans := List.mem_cons_of_mem _ List.mem_cons_self

section Scans

variable {b : Brackets} {stop : Char → Bool} {inner after : List Char}

theorem isPlain_of_scans (hb : b ∈ Brackets.scans) {c : Char} (hc : c ∉ Brackets.marks) : b.isPlain c = true := by
  obtain ⟨hwords, hlists⟩ := Brackets.isPlain_of_not_mem_marks hc
  simp only [Brackets.scans, List.mem_cons, List.not_mem_nil, or_false] at hb
  rcases hb with rfl | rfl
  · exact hwords
  · exact hlists

theorem next_brackets (hb : b ∈ Brackets.scans) :
    next b outside '[' = some ⟨1, none⟩ ∧ next b ⟨1, none⟩ ']' = some outside := by
  simp only [Brackets.scans, List.mem_cons, List.not_mem_nil, or_false] at hb
  rcases hb with rfl | rfl <;> exact ⟨rfl, rfl⟩

theorem Enclosed.leads (hb : b ∈ Brackets.scans) (h : Enclosed inner) (hstop : stop '[' = false) :
    Leads b stop outside ('[' :: (inner ++ [']'])) := by
  obtain ⟨hopen, hclose⟩ := next_brackets hb
  have hin : (⟨1, none⟩ : Nesting) ≠ outside := fun hout => nomatch congrArg Nesting.depth hout
  have hend : Leads b stop ⟨1, none⟩ [']'] := .cons (fun hout => (hin hout).elim) hclose .nil
  refine .cons (fun _ => hstop) hopen ?_
  cases h with
  | bare h => exact hend.plain_append (sound_unquoted 1) hin fun c hc => isPlain_of_scans hb (h c hc)
  | @quoted q cs hq h =>
    refine .cons (fun hout => (hin hout).elim) (next_quote hq (Bool.or_true _)) ?_
    show Leads b stop ⟨1, some q⟩ (cs ++ [q] ++ [']'])
    rw [List.append_assoc]
    refine Leads.quoted_append h (.cons (fun hout => nomatch congrArg Nesting.depth hout) (next_of_quote rfl) ?_)
    rw [if_pos rfl]
    exact hend

/-- The end of a bracket is looked for character by character, as the scan of lists goes on inside of the bracket. -/
theorem closeBracket_cons_eq_some_iff {quote : Option Char} {c : Char} {cs : List Char} :
    closeBracket quote (c :: cs) = some (inner, after) ↔
      (quote = none ∧ c = ']' ∧ inner = [] ∧ cs = after) ∨
        ∃ quote' inner', next .ofLists ⟨1, quote⟩ c = some ⟨1, quote'⟩ ∧ closeBracket quote' cs = some (inner', after) ∧
          inner = c :: inner' := by
  have hinside {quote' : Option Char} (hn : next .ofLists ⟨1, quote⟩ c = some ⟨1, quote'⟩) :
      (closeBracket quote' cs).map (fun found => (c :: found.1, found.2)) = some (inner, after) ↔
        ∃ quote' inner', next .ofLists ⟨1, quote⟩ c = some ⟨1, quote'⟩ ∧ closeBracket quote' cs = some (inner', after) ∧
          inner = c :: inner' := by
    constructor
    · intro h
      obtain ⟨⟨inner', after'⟩, h', he⟩ := Option.map_eq_some_iff.mp h
      cases he
      exact ⟨quote', inner', hn, h', rfl⟩
    · rintro ⟨quote'', inner', hn', h', rfl⟩
      cases hn.symm.trans hn'
      rw [h']
      rfl
  cases quote with
  | some q =>
    rw [closeBracket, or_iff_right (by rintro ⟨h, -⟩; cases h)]
    exact hinside (next_of_quote rfl)
  | none =>
    rw [closeBracket]
    split
    · next hq =>
      rw [or_iff_right (by rintro ⟨-, rfl, -⟩; cases hq)]
      exact hinside (next_quote hq rfl)
    · next hq =>
      split
      · next hclose =>
        subst hclose
        rw [or_iff_left (by rintro ⟨_, _, hn, -⟩; cases hn)]
        simp only [Option.some.injEq, Prod.mk.injEq, true_and, eq_comm]
      · next hclose =>
        rw [or_iff_right (by rintro ⟨-, h, -⟩; exact hclose h)]
        split
        · next hopen =>
          subst hopen
          constructor
          · intro h
            cases h
          · rintro ⟨_, _, hn, -⟩
            cases hn
        · next hopen =>
          refine hinside (next_of_plain (sound_unquoted 1) ?_)
          simp [Brackets.isPlain, Brackets.ofLists, hq, hopen, hclose]

theorem closeBracket_of_quoted {q : Char} {cs : List Char} (h : q ∉ cs) :
    closeBracket (some q) (cs ++ q :: ']' :: after) = some (cs ++ [q], after) := by
  induction cs with
  | nil => exact closeBracket_cons_eq_some_iff.mpr (.inr ⟨none, [], by rw [next_of_quote rfl, if_pos rfl], rfl, rfl⟩)
  | cons c cs ih =>
    obtain ⟨hc, hcs⟩ := List.ne_and_not_mem_of_not_mem_cons h
    exact closeBracket_cons_eq_some_iff.mpr
      (.inr ⟨some q, cs ++ [q], by rw [next_of_quote rfl, if_neg hc.symm], ih hcs, rfl⟩)

theorem Enclosed.closeBracket (h : Enclosed inner) : closeBracket none (inner ++ ']' :: after) = some (inner, after) := by
  cases h with
  | @quoted q cs hq h =>
    refine closeBracket_cons_eq_some_iff.mpr (.inr ⟨some q, cs ++ [q], next_quote hq rfl, ?_, rfl⟩)
    show ClusterQuery.closeBracket (some q) (cs ++ [q] ++ ']' :: after) = _
    rw [List.append_assoc]
    exact closeBracket_of_quoted h
  | bare h =>
    induction inner with
    | nil => rfl
    | cons c cs ih =>
      obtain ⟨hc, hcs⟩ := List.forall_mem_cons.mp h
      have hplain := isPlain_of_scans Brackets.ofLists_mem_scans hc
      exact closeBracket_cons_eq_some_iff.mpr
        (.inr ⟨none, cs, next_of_plain (sound_unquoted 1) hplain, ih hcs, rfl⟩)

end Scans

/-! ### Brackets closed behind a text -/

/-- A text that stands in brackets as a whole: the bracket in front of it is closed right behind it. -/
def Closes (inner : List Char) : Prop := closeBracket none (inner ++ [']']) = some (inner, [])

instance : DecidablePred Closes := fun inner =>
  inferInstanceAs (Decidable (closeBracket none (inner ++ [']']) = some (inner, [])))

section Closes

variable {quote : Option Char} {cs inner after : List Char}

/-- What closes a bracket closes it whatever follows. -/
theorem closeBracket_of_prefix (h : closeBracket quote cs = some (inner, after)) (more : List Char) :
    closeBracket quote (inner ++ ']' :: more) = some (inner, more) := by
  induction cs generalizing quote inner with
  | nil => cases h
  | cons c cs ih =>
    rcases closeBracket_cons_eq_some_iff.mp h with ⟨rfl, rfl, rfl, rfl⟩ | ⟨quote', inner', hn, h', rfl⟩
    · rfl
    · exact closeBracket_cons_eq_some_iff.mpr (.inr ⟨quote', inner', hn, ih h', rfl⟩)

theorem Closes.closeBracket (h : Closes inner) (after : List Char) :
    closeBracket none (inner ++ ']' :: after) = some (inner, after) := closeBracket_of_prefix h after

theorem Enclosed.closes (h : Enclosed inner) : Closes inner := h.closeBracket

/-- The scan of lists leaves a bracket where it is closed. -/
theorem leads_of_closeBracket {stop : Char → Bool} (h : closeBracket quote cs = some (inner, after)) :
    Leads .ofLists stop ⟨1, quote⟩ (inner ++ [']']) := by
  have hin {quote : Option Char} {c : Char} : (⟨1, quote⟩ : Nesting) = outside → stop c = false := fun hout =>
    nomatch congrArg Nesting.depth hout
  induction cs generalizing quote inner with
  | nil => cases h
  | cons c cs ih =>
    rcases closeBracket_cons_eq_some_iff.mp h with ⟨rfl, rfl, rfl, rfl⟩ | ⟨quote', inner', hn, h', rfl⟩
    · exact .cons hin rfl .nil
    · exact .cons hin hn (ih h')

theorem Closes.leads {stop : Char → Bool} (h : Closes inner) (hstop : stop '[' = false) :
    Leads .ofLists stop outside ('[' :: (inner ++ [']'])) :=
  .cons (fun _ => hstop) rfl (leads_of_closeBracket h)

end Closes

/-- A step whose text stands in brackets that are closed at its end, and is read as the step. -/
def Step.Bracketed (s : Step) : Prop :=
  ∃ inner, Path.stepText true s = '[' :: (inner ++ [']']) ∧ Closes inner ∧ Path.subscript (trim inner) = .ok s

namespace Path

/-! ### Subscripts -/

theorem number?_of_isDigits {cs : List Char} (h : IsDigits cs) :
    number? cs = if digitsValue 0 cs < wordLimit then some (digitsValue 0 cs) else none := by
  rw [number?, readDigits?_eq_some_iff.mpr ⟨h, rfl⟩, Option.bind_some]

theorem number?_toDigits {n : Nat} (h : n < wordLimit) : number? (Nat.toDigits 10 n) = some n := by
  rw [number?_of_isDigits (isDigits_toDigits n), digitsValue_toDigits, if_pos h]

theorem number?_eq_none_of_not_digit {cs : List Char} {c : Char} (hc : c ∈ cs) (hdigit : isDigit c = false) :
    number? cs = none := by
  have hall : cs.all isDigit = false := List.all_eq_false.mpr ⟨c, hc, by rw [hdigit]; exact Bool.false_ne_true⟩
  rw [number?, readDigits?, hall, Bool.and_false]
  rfl

/-- Digits are the text of a key, and a bracket around them ends behind them. -/
theorem isKeyText_of_isDigits {cs : List Char} (h : IsDigits cs) : IsKeyText cs ∧ '.' ∉ cs ∧ Enclosed cs := by
  have htitle : ∀ c ∈ cs, isTitleChar c = true := fun c hc => isTitleChar_of_isDigit (h.2 c hc)
  refine ⟨⟨h.1, fun c hc => ?_⟩, (fun hdot => nomatch htitle '.' hdot), .bare fun c hc => ?_⟩
  · have hnot : c ∉ ']' :: '[' :: invalidKeyChars := not_mem_of_all (htitle c hc) (by decide)
    simp only [List.mem_cons, not_or] at hnot
    exact ⟨by simpa using hnot.2.2, hnot.1, hnot.2.1⟩
  · exact not_mem_of_all (htitle c hc) (by decide)

theorem isBlank_of_isDigits {cs : List Char} (h : IsDigits cs) : ∀ c ∈ cs, isBlank c = false := fun c hc =>
  isBlank_of_isDigit (h.2 c hc)

theorem subscript_of_number {cs : List Char} {n : Nat} (h : number? cs = some n) : subscript cs = .ok (.index n) := by
  have hnil : cs ≠ [] := fun he => by rw [he] at h; cases h
  have hstar : cs ≠ ['*'] := fun he => by rw [he] at h; cases h
  rw [subscript, if_neg hnil, if_neg hstar, h]

theorem subscript_of_key {cs name : List Char} (hne : cs ≠ []) (hstar : cs ≠ ['*']) (hnumber : number? cs = none)
    (hname : unquote cs = name) (hne' : name ≠ []) : subscript cs = .ok (.mapKey (String.ofList name)) := by
  rw [subscript, if_neg hne, if_neg hstar, hnumber]
  dsimp only
  rw [hname]
  cases name with
  | nil => exact (hne' rfl).elim
  | cons c name => rfl

theorem unquote_quoted {q : Char} (hq : isQuote q = true) (cs : List Char) : unquote (q :: (cs ++ [q])) = cs := by
  have hdrop : dropLast? q (cs ++ [q]) = some cs := dropLast?_eq_some_iff.mpr rfl
  rcases Bool.or_eq_true_iff.mp hq with h | h
  · obtain rfl := beq_iff_eq.mp h
    show (dropLast? '\'' (cs ++ ['\''])).getD _ = cs
    rw [hdrop, Option.getD_some]
  · obtain rfl := beq_iff_eq.mp h
    show (dropLast? '"' (cs ++ ['"'])).getD _ = cs
    rw [hdrop, Option.getD_some]

theorem unquote_eq_self {cs : List Char} (h : ∀ c ∈ cs, isQuote c = false) : unquote cs = cs := by
  unfold unquote
  split
  · cases h '"' List.mem_cons_self
  · cases h '\'' List.mem_cons_self
  · rfl

theorem subscript_of_isPlainKey {cs : List Char} (h : isPlainKey cs = true) :
    Enclosed cs ∧ subscript (trim cs) = .ok (.mapKey (String.ofList cs)) := by
  obtain ⟨⟨hne, hdigits⟩, hchars⟩ : (cs.isEmpty = false ∧ cs.all isDigit = false) ∧
      (cs.all fun c => isAsciiAlphanumeric c || c == '_' || c == '-') = true := by
    simpa [isPlainKey] using h
  have hmarks : ∀ c ∈ cs, c ∉ Brackets.marks := fun c hc =>
    not_mem_of_all (p := fun c => isAsciiAlphanumeric c || c == '_' || c == '-') (List.all_eq_true.mp hchars c hc)
      (by decide)
  have hblank : ∀ c ∈ cs, isBlank c = false := by
    intro c hc
    rcases Bool.or_eq_true_iff.mp (List.all_eq_true.mp hchars c hc) with h | h
    · exact isBlank_of_isTitleChar h
    · obtain rfl := beq_iff_eq.mp h
      rfl
  have hquote : ∀ c ∈ cs, isQuote c = false := by
    intro c hc
    have := (Brackets.isPlain_of_not_mem_marks (hmarks c hc)).1
    simp only [Brackets.isPlain, Bool.and_eq_true, Bool.not_eq_true'] at this
    exact this.1.1
  have hne' : cs ≠ [] := List.isEmpty_eq_false_iff.mp hne
  have hstar : cs ≠ ['*'] := fun he => by
    rw [he] at hchars
    cases hchars
  obtain ⟨c, hc, hdigit⟩ := List.all_eq_false.mp hdigits
  have hnumber := number?_eq_none_of_not_digit hc (Bool.eq_false_iff.mpr hdigit)
  rw [trim_eq_self (trimmed_of_not_blank hblank)]
  exact ⟨.bare hmarks, subscript_of_key hne' hstar hnumber (unquote_eq_self hquote) hne'⟩

theorem subscript_of_quoted {q : Char} {cs : List Char} (hq : isQuote q = true) (hne : cs ≠ []) :
    subscript (trim (q :: (cs ++ [q]))) = .ok (.mapKey (String.ofList cs)) := by
  have hclass : isBlank q = false ∧ isDigit q = false := by
    rcases Bool.or_eq_true_iff.mp hq with h | h
    · obtain rfl := beq_iff_eq.mp h
      exact ⟨rfl, rfl⟩
    · obtain rfl := beq_iff_eq.mp h
      exact ⟨rfl, rfl⟩
  have htrimmed : Trimmed (q :: (cs ++ [q])) := by
    refine ⟨fun c hc => ?_, fun c hc => ?_⟩
    · cases hc
      exact hclass.1
    · rw [List.getLast?_cons_of_ne_nil (by simp), List.getLast?_append_of_ne_nil _ (List.cons_ne_nil _ _)] at hc
      cases hc
      exact hclass.1
  have hstar : q :: (cs ++ [q]) ≠ ['*'] := fun he => by simp at he
  rw [trim_eq_self htrimmed]
  exact subscript_of_key (List.cons_ne_nil _ _) hstar (number?_eq_none_of_not_digit List.mem_cons_self hclass.2)
    (unquote_quoted hq cs) hne

/-- A step in brackets is read back from what stands in them. -/
theorem exists_enclosed {s : Step} (hs : s.Readable) (hdotted : s.isDotted = false) (joined : Bool) :
    ∃ inner, stepText joined s = '[' :: (inner ++ [']']) ∧ Enclosed inner ∧ subscript (trim inner) = .ok s := by
  cases s with
  | key name => cases hdotted
  | position n => cases hdotted
  | index n =>
    have hdigits := isDigits_toDigits n
    refine ⟨Nat.toDigits 10 n, rfl, (isKeyText_of_isDigits hdigits).2.2, ?_⟩
    rw [trim_eq_self (trimmed_of_not_blank (isBlank_of_isDigits hdigits))]
    exact subscript_of_number (number?_toDigits hs)
  | wildcard => exact ⟨['*'], rfl, .bare (by decide), rfl⟩
  | mapKey name =>
    obtain ⟨hne, hquotes⟩ := hs
    show ∃ inner, subscriptText name.toList = _ ∧ _
    have hname : Step.mapKey name = .mapKey (String.ofList name.toList) := by rw [String.ofList_toList]
    rw [hname, subscriptText]
    split
    · next hplain => exact ⟨name.toList, rfl, subscript_of_isPlainKey hplain⟩
    · split
      · next hdouble =>
        have hsingle : '\'' ∉ name.toList := hquotes.resolve_right fun h => h (by simpa using hdouble)
        exact ⟨_, by simp, .quoted (q := '\'') rfl hsingle, subscript_of_quoted rfl hne⟩
      · next hdouble => exact ⟨_, by simp, .quoted (q := '"') rfl (by simpa using hdouble), subscript_of_quoted rfl hne⟩

theorem bracketed_of_readable {s : Step} (hs : s.Readable) (hdotted : s.isDotted = false) : s.Bracketed := by
  obtain ⟨inner, htext, hinner, hread⟩ := exists_enclosed hs hdotted true
  exact ⟨inner, htext, hinner.closes, hread⟩

theorem subscripts_eq_of_closeBracket {cs inner after : List Char} (h : closeBracket none cs = some (inner, after)) :
    subscripts ('[' :: cs) = (do
      let step ← subscript (trim inner)
      let steps ← subscripts after
      return step :: steps) := by
  rw [subscripts, if_pos rfl]
  split
  · next hnone =>
    rw [h] at hnone
    cases hnone
  · next hsome =>
    rw [h] at hsome
    cases hsome
    rfl

theorem subscripts_stepText {steps : List Step} (h : ∀ s ∈ steps, s.Bracketed) :
    subscripts (steps.flatMap (stepText true)) = .ok steps := by
  induction steps with
  | nil =>
    rw [List.flatMap_nil, subscripts]
  | cons s steps ih =>
    obtain ⟨⟨inner, htext, hinner, hread⟩, hsteps⟩ := List.forall_mem_cons.mp h
    have hcons : (s :: steps).flatMap (stepText true) = '[' :: (inner ++ ']' :: steps.flatMap (stepText true)) := by
      rw [List.flatMap_cons, htext]
      simp
    rw [hcons, subscripts_eq_of_closeBracket (hinner.closeBracket _), hread, ih hsteps]
    rfl

/-! ### Segments -/

/-- A step between dots and the subscripts after it. -/
structure Segment where
  key : Step
  subscripts : List Step

namespace Segment

def steps (g : Segment) : List Step := g.key :: g.subscripts

def text (g : Segment) : List Char := stepText false g.key ++ g.subscripts.flatMap (stepText true)

/-- A segment that its text determines. -/
structure Readable (g : Segment) : Prop where
  key : g.key.Readable ∧ g.key.isDotted = true
  subscripts : ∀ s ∈ g.subscripts, s.Bracketed

end Segment

/-- The text of a step between dots is that of a key, which has no dot in it and is read as the step. -/
theorem isKeyText_of_readable {s : Step} (hs : s.Readable) (hdotted : s.isDotted = true) :
    IsKeyText (stepText false s) ∧ '.' ∉ stepText false s ∧ keyStep (stepText false s) = s := by
  cases s with
  | index n => cases hdotted
  | mapKey name => cases hdotted
  | wildcard => cases hdotted
  | key name =>
    obtain ⟨hkey, hdot, hnumber⟩ := hs
    show IsKeyText name.toList ∧ '.' ∉ name.toList ∧ keyStep name.toList = _
    refine ⟨hkey, hdot, ?_⟩
    rw [keyStep, hnumber, String.ofList_toList]
  | position n =>
    obtain ⟨hkey, hdot, -⟩ := isKeyText_of_isDigits (isDigits_toDigits n)
    refine ⟨hkey, hdot, ?_⟩
    show keyStep (Nat.toDigits 10 n) = _
    rw [keyStep, number?_toDigits hs]

theorem segment_text {g : Segment} (h : g.Readable) : segment g.text = .ok g.steps := by
  obtain ⟨hkey, -, hread⟩ := isKeyText_of_readable h.key.1 h.key.2
  have hrest : ∀ c ∈ (g.subscripts.flatMap (stepText true)).head?, c = '[' := by
    intro c hc
    match hsubs : g.subscripts with
    | [] =>
      rw [hsubs] at hc
      cases hc
    | s :: subs =>
      obtain ⟨inner, htext, -, -⟩ := h.subscripts s (by rw [hsubs]; exact List.mem_cons_self)
      rw [hsubs, List.flatMap_cons, htext] at hc
      cases hc
      rfl
  have hsegment := segment_append hkey hrest (subscripts_stepText h.subscripts)
  rwa [hread] at hsegment

theorem exists_segments (steps : List Step) :
    ∃ front segs, steps = front ++ List.flatMap Segment.steps segs ∧ (∀ s ∈ front, s.isDotted = false) ∧
      ∀ g ∈ segs, g.key.isDotted = true ∧ ∀ s ∈ g.subscripts, s.isDotted = false := by
  induction steps with
  | nil => exact ⟨[], [], rfl, (fun _ hs => nomatch hs), fun _ hg => nomatch hg⟩
  | cons s steps ih =>
    obtain ⟨front, segs, rfl, hfront, hsegs⟩ := ih
    cases hs : s.isDotted with
    | false => exact ⟨s :: front, segs, rfl, List.forall_mem_cons.mpr ⟨hs, hfront⟩, hsegs⟩
    | true =>
      refine ⟨[], ⟨s, front⟩ :: segs, ?_, (fun _ hs => nomatch hs), List.forall_mem_cons.mpr ⟨⟨hs, hfront⟩, hsegs⟩⟩
      rw [List.flatMap_cons]
      rfl

/-- A path that begins between dots consists of segments. -/
theorem exists_segments_of_dotted {p : Path} (h : ∃ s ∈ p.steps.head?, s.isDotted = true) :
    ∃ segs, p.steps = List.flatMap Segment.steps segs ∧ segs ≠ [] ∧
      ∀ g ∈ segs, (g.key ∈ p.steps ∧ g.key.isDotted = true) ∧ ∀ s ∈ g.subscripts, s ∈ p.steps ∧ s.isDotted = false := by
  obtain ⟨front, segs, hsteps, hfront, hsegs⟩ := Path.exists_segments p.steps
  obtain ⟨first, hfirst, hdotted⟩ := h
  have hnil : front = [] := by
    cases front with
    | nil => rfl
    | cons s front =>
      rw [hsteps] at hfirst
      cases hfirst
      rw [hfront _ List.mem_cons_self] at hdotted
      cases hdotted
  subst hnil
  refine ⟨segs, hsteps, fun hsegs_nil => ?_, fun g hg => ?_⟩
  · rw [hsteps, hsegs_nil] at hfirst
    cases hfirst
  · have hmem : ∀ s ∈ g.steps, s ∈ p.steps := fun s hs => by
      rw [hsteps]
      exact List.mem_flatMap.mpr ⟨g, hg, hs⟩
    obtain ⟨hkey, hsubs⟩ := hsegs g hg
    exact ⟨⟨hmem _ List.mem_cons_self, hkey⟩, fun s hs => ⟨hmem s (List.mem_cons_of_mem _ hs), hsubs s hs⟩⟩

theorem stepText_true_of_isDotted {s : Step} (h : s.isDotted = true) : stepText true s = '.' :: stepText false s := by
  cases s with
  | key name => rfl
  | position n => rfl
  | index n => cases h
  | mapKey name => cases h
  | wildcard => cases h

/-- A path is printed segment by segment, with dots between them. -/
theorem render_segments {segs : List Segment} (h : ∀ g ∈ segs, g.key.isDotted = true) :
    render ⟨List.flatMap Segment.steps segs⟩ = joinWith ['.'] (segs.map Segment.text) := by
  induction segs with
  | nil => rfl
  | cons g segs ih =>
    obtain ⟨-, hsegs⟩ := List.forall_mem_cons.mp h
    have hrender : render ⟨List.flatMap Segment.steps (g :: segs)⟩ =
        g.text ++ (List.flatMap Segment.steps segs).flatMap (stepText true) := by
      rw [Segment.text, List.append_assoc, ← List.flatMap_append, List.flatMap_cons]
      rfl
    rw [hrender]
    cases segs with
    | nil => exact List.append_nil _
    | cons second segs =>
      obtain ⟨hsecond, -⟩ := List.forall_mem_cons.mp hsegs
      rw [List.map_cons, joinWith_cons_of_ne_nil (by simp), ← ih hsegs, List.append_assoc]
      show g.text ++ (stepText true second.key ++ _) = _
      rw [stepText_true_of_isDotted hsecond]
      rfl

/-! ### Scans over printed paths -/

theorem not_mem_marks_of_isKeyText {cs : List Char} (h : IsKeyText cs) : ∀ c ∈ cs, c ∉ Brackets.marks := by
  intro c hc hmark
  obtain ⟨hchar, hclose, hopen⟩ := h.2 c hc
  have hmarks : ∀ d ∈ Brackets.marks, invalidKeyChars.contains d = true ∨ d = ']' ∨ d = '[' := by decide
  rcases hmarks c hmark with h | h | h
  · rw [hchar] at h
    cases h
  · exact hclose h
  · exact hopen h

theorem IsKeyText.isPlain {cs : List Char} (h : IsKeyText cs) : ∀ c ∈ cs, Brackets.ofLists.isPlain c = true := fun c hc =>
  isPlain_of_scans Brackets.ofLists_mem_scans (not_mem_marks_of_isKeyText h c hc)

theorem IsKeyText.solid {cs : List Char} (h : IsKeyText cs) (hdot : '.' ∉ cs) : Solid '.' cs :=
  leads_of_plain fun c hc => ⟨h.isPlain c hc, beq_eq_false_iff_ne.mpr fun he => hdot (he ▸ hc)⟩

section Scans

variable {b : Brackets} {stop : Char → Bool}

/-- A scan passes a printed step, stopping at none of the characters between brackets. -/
theorem leads_stepText (hb : b ∈ Brackets.scans) {s : Step} (hs : s.Readable) (hopen : stop '[' = false)
    (hkey : s.isDotted = true → ∀ c ∈ stepText false s, stop c = false) : Leads b stop outside (stepText false s) := by
  cases hdotted : s.isDotted with
  | true =>
    obtain ⟨htext, -, -⟩ := isKeyText_of_readable hs hdotted
    exact leads_of_plain fun c hc =>
      ⟨isPlain_of_scans hb (not_mem_marks_of_isKeyText htext c hc), hkey hdotted c hc⟩
  | false =>
    obtain ⟨inner, htext, hinner, -⟩ := exists_enclosed hs hdotted false
    rw [htext]
    exact hinner.leads hb hopen

theorem leads_segment {g : Segment} (hkey : Leads b stop outside (stepText false g.key))
    (hsubs : ∀ s ∈ g.subscripts, Leads b stop outside (stepText true s)) : Leads b stop outside g.text := by
  refine hkey.append ?_
  generalize g.subscripts = subs at hsubs ⊢
  induction subs with
  | nil => exact .nil
  | cons s subs ih =>
    obtain ⟨hs, hsubs⟩ := List.forall_mem_cons.mp hsubs
    rw [List.flatMap_cons]
    exact hs.append (ih hsubs)

theorem leads_joinWith (hdot : b.isPlain '.' = true ∧ stop '.' = false) {css : List (List Char)}
    (h : ∀ cs ∈ css, Leads b stop outside cs) : Leads b stop outside (joinWith ['.'] css) := by
  induction css with
  | nil => exact .nil
  | cons cs css ih =>
    obtain ⟨hcs, hcss⟩ := List.forall_mem_cons.mp h
    cases css with
    | nil => exact hcs
    | cons second css =>
      rw [joinWith_cons_of_ne_nil (List.cons_ne_nil _ _), List.append_assoc]
      refine hcs.append (Leads.append (leads_of_plain fun c hc => ?_) (ih hcss))
      cases List.mem_singleton.mp hc
      exact hdot

/-- A scan passes a printed path if it stops at no dot and at no character of a key between dots. -/
theorem Readable.leads_render (hb : b ∈ Brackets.scans) {p : Path} (h : p.Readable) (hopen : stop '[' = false)
    (hdot : stop '.' = false) (hkeys : ∀ s ∈ p.steps, s.isDotted = true → ∀ c ∈ stepText false s, stop c = false) :
    Leads b stop outside p.render := by
  obtain ⟨segs, hsteps, -, hsegs⟩ := exists_segments_of_dotted h.dotted
  have hrender : p.render = joinWith ['.'] (segs.map Segment.text) := by
    rw [← render_segments fun g hg => (hsegs g hg).1.2, ← hsteps]
  rw [hrender]
  refine leads_joinWith ⟨isPlain_of_scans hb (by decide), hdot⟩ fun cs hcs => ?_
  obtain ⟨g, hg, rfl⟩ := List.mem_map.mp hcs
  obtain ⟨⟨hkey, hdotted⟩, hsubs⟩ := hsegs g hg
  refine leads_segment (leads_stepText hb (h.steps _ hkey) hopen fun _ => hkeys g.key hkey hdotted) fun s hs => ?_
  obtain ⟨hmem, hbracket⟩ := hsubs s hs
  obtain ⟨inner, htext, hinner, -⟩ := exists_enclosed (h.steps s hmem) hbracket true
  rw [htext]
  exact hinner.leads hb hopen

end Scans

/-! ### Reading printed paths -/

theorem Segment.Readable.solid {g : Segment} (h : g.Readable) : Solid '.' g.text := by
  obtain ⟨htext, hdot, -⟩ := isKeyText_of_readable h.key.1 h.key.2
  refine leads_segment (htext.solid hdot) fun s hs => ?_
  obtain ⟨inner, hs, hinner, -⟩ := h.subscripts s hs
  rw [hs]
  exact hinner.leads rfl

/-- A path without blanks around its text is read back from it if each step is read back from its own text. -/
theorem parse_render_of_bracketed {p : Path} (hfirst : ∃ s ∈ p.steps.head?, s.isDotted = true)
    (hkeys : ∀ s ∈ p.steps, s.isDotted = true → s.Readable) (hsubs : ∀ s ∈ p.steps, s.isDotted = false → s.Bracketed)
    (htrimmed : Trimmed p.render) : parse p.render = .ok p := by
  obtain ⟨segs, hsteps, hne, hmem⟩ := exists_segments_of_dotted hfirst
  have hsegs : ∀ g ∈ segs, g.Readable := fun g hg =>
    ⟨⟨hkeys _ (hmem g hg).1.1 (hmem g hg).1.2, (hmem g hg).1.2⟩, fun s hs =>
      hsubs s ((hmem g hg).2 s hs).1 ((hmem g hg).2 s hs).2⟩
  have hrender : p.render = joinWith ['.'] (segs.map Segment.text) := by
    rw [← render_segments fun g hg => (hsegs g hg).key.2, ← hsteps]
  -- The dots between segments are the only ones that count.
  have hsplit : splitTopLevel '.' p.render = some (segs.map Segment.text) := by
    refine (splitTopLevel_eq_some_iff isPlain_dot).mpr ⟨by simpa using hne, fun cs hcs => ?_, hrender.symm⟩
    obtain ⟨g, hg, rfl⟩ := List.mem_map.mp hcs
    exact (hsegs g hg).solid
  have hnil : p.render ≠ [] := by
    intro hnil
    rw [hnil] at hsplit
    obtain ⟨g, segs', rfl⟩ := List.exists_cons_of_ne_nil hne
    have hg : g.text = [] := by
      rw [show splitTopLevel '.' [] = some [[]] from rfl] at hsplit
      exact (List.cons.inj (Option.some.inj hsplit)).1.symm
    have hkey := (isKeyText_of_readable (hsegs g List.mem_cons_self).key.1 (hsegs g List.mem_cons_self).key.2).1.1
    exact hkey (List.append_eq_nil_iff.mp hg).1
  have hread : segments (segs.map Segment.text) = .ok p.steps := by
    refine segments_eq_ok_iff.mpr ⟨segs.map Segment.steps, ?_, hsteps⟩
    rw [List.forall₂_map_left_iff, List.forall₂_map_right_iff, List.forall₂_same]
    exact fun g hg => segment_text (hsegs g hg)
  refine parse_eq_ok_iff.mpr ?_
  rw [trim_eq_self htrimmed]
  exact ⟨hnil, _, hsplit, hread⟩

/-- A readable path without blanks around its text is read back from it. -/
theorem Readable.parse_render {p : Path} (h : p.Readable) (htrimmed : Trimmed p.render) : parse p.render = .ok p :=
  parse_render_of_bracketed h.dotted (fun s hs _ => h.steps s hs) (fun s hs => bracketed_of_readable (h.steps s hs)) htrimmed

end Path

end ClusterQuery
