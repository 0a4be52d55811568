import ClusterQuery.Path.Parser
import ClusterQuery.Path.Printer
import ClusterQuery.Proofs.Number.Digits
import ClusterQuery.Proofs.Result
import ClusterQuery.Proofs.Text.Characters
import ClusterQuery.Proofs.Text.TopLevel

/-! What a path is read from: segments between dots, each a key or a number and its subscripts. -/

namespace ClusterQuery.Path

theorem isPlain_dot : Brackets.ofLists.isPlain '.' = true := by decide

/-- A path is read from a text that is cut at its dots into segments. -/
theorem parse_eq_ok_iff {cs : List Char} {p : Path} :
    parse cs = .ok p ↔ trim cs ≠ [] ∧ ∃ pieces, splitTopLevel '.' (trim cs) = some pieces ∧ segments pieces = .ok p.steps := by
  obtain ⟨steps⟩ := p
  unfold parse
  cases htext : (trim cs).isEmpty with
  | true =>
    have hnil : trim cs = [] := List.isEmpty_iff.mp htext
    simp only [htext, if_true]
    exact ⟨fun h => (nomatch h), fun h => (h.1 hnil).elim⟩
  | false =>
    have hne : trim cs ≠ [] := List.isEmpty_eq_false_iff.mp htext
    simp only [htext, Bool.false_eq_true, if_false]
    cases hpieces : splitTopLevel '.' (trim cs) with
    | none => exact ⟨fun h => (nomatch h), fun ⟨_, _, h, _⟩ => nomatch h⟩
    | some pieces =>
      dsimp only
      cases hsteps : segments pieces with
      | error fault => exact ⟨fun h => (nomatch h), fun ⟨_, pieces', h, h'⟩ => by cases h; rw [hsteps] at h'; cases h'⟩
      | ok found =>
        constructor
        · intro h
          cases h
          exact ⟨hne, pieces, rfl, hsteps⟩
        · rintro ⟨-, pieces', h, h'⟩
          cases h
          rw [hsteps] at h'
          cases h'
          rfl

/-- The text of a key: some characters, none of which a key may not hold. -/
def IsKeyText (cs : List Char) : Prop := cs ≠ [] ∧ ∀ c ∈ cs, invalidKeyChars.contains c = false ∧ c ≠ ']' ∧ c ≠ '['

instance (cs : List Char) : Decidable (IsKeyText cs) :=
  inferInstanceAs (Decidable (cs ≠ [] ∧ ∀ c ∈ cs, invalidKeyChars.contains c = false ∧ c ≠ ']' ∧ c ≠ '['))

theorem toList_of_keyStep {cs : List Char} {name : String} (h : keyStep cs = .key name) : name.toList = cs := by
  unfold keyStep at h
  split at h
  · cases h
  · cases h
    exact String.toList_ofList

theorem segment_eq_ok_iff {cs : List Char} {steps : List Step} :
    segment cs = .ok steps ↔ IsKeyText (cs.takeWhile (· != '[')) ∧
      ∃ more, subscripts (cs.dropWhile (· != '[')) = .ok more ∧ steps = keyStep (cs.takeWhile (· != '[')) :: more := by
  have hopen : ∀ c ∈ cs.takeWhile (· != '['), c ≠ '[' := fun c hc => by simpa using List.mem_takeWhile_imp hc
  unfold segment
  generalize cs.takeWhile (· != '[') = base at hopen ⊢
  generalize cs.dropWhile (· != '[') = rest
  cases hbase : base.isEmpty with
  | true =>
    have hnil : base = [] := List.isEmpty_iff.mp hbase
    simp only [hbase, if_true]
    exact ⟨fun h => (nomatch h), fun h => (h.1.1 hnil).elim⟩
  | false =>
    have hne : base ≠ [] := List.isEmpty_eq_false_iff.mp hbase
    simp only [hbase, Bool.false_eq_true, if_false]
    cases hfind : base.find? fun c => invalidKeyChars.contains c || c == ']' with
    | some c =>
      refine ⟨fun h => (nomatch h), fun ⟨⟨_, hkey⟩, _⟩ => ?_⟩
      obtain ⟨h1, h2, -⟩ := hkey c (List.mem_of_find?_eq_some hfind)
      have hc := List.find?_some hfind
      rw [h1, Bool.false_or, beq_iff_eq] at hc
      exact (h2 hc).elim
    | none =>
      have hkey : IsKeyText base := by
        refine ⟨hne, fun c hc => ?_⟩
        have := List.find?_eq_none.mp hfind c hc
        simp only [Bool.or_eq_true, beq_iff_eq, not_or, Bool.not_eq_true] at this
        exact ⟨this.1, this.2, hopen c hc⟩
      rw [and_iff_right hkey]
      dsimp only
      rw [Except.bind_eq_ok_iff]
      exact exists_congr fun more => and_congr_right fun _ => ⟨fun h => by cases h; rfl, fun h => by rw [h]; rfl⟩

/-- The steps of a key with subscripts behind it. -/
theorem segment_append {base subs : List Char} {steps : List Step} (hbase : IsKeyText base)
    (hbracket : ∀ c ∈ subs.head?, c = '[') (hsubs : subscripts subs = .ok steps) :
    segment (base ++ subs) = .ok (keyStep base :: steps) := by
  obtain ⟨htake, hdrop⟩ := takeWhile_append_bracket (fun c hc => (hbase.2 c hc).2.2) hbracket
  rw [segment_eq_ok_iff, htake, hdrop]
  exact ⟨hbase, steps, hsubs, rfl⟩

theorem segments_eq_ok_iff {css : List (List Char)} {steps : List Step} :
    segments css = .ok steps ↔ ∃ parts, List.Forall₂ (fun cs part => segment cs = .ok part) css parts ∧ steps = parts.flatten := by
  induction css generalizing steps with
  | nil =>
    constructor
    · intro h
      cases h
      exact ⟨[], .nil, rfl⟩
    · rintro ⟨parts, hparts, rfl⟩
      cases hparts
      rfl
  | cons cs css ih =>
    rw [segments]
    simp only [Except.bind_eq_ok_iff]
    constructor
    · rintro ⟨part, hpart, more, hmore, h⟩
      cases h
      obtain ⟨parts, hparts, rfl⟩ := ih.mp hmore
      exact ⟨part :: parts, .cons hpart hparts, rfl⟩
    · rintro ⟨parts, hparts, rfl⟩
      cases hparts with
      | cons hpart hparts => exact ⟨_, hpart, _, ih.mpr ⟨_, hparts, rfl⟩, rfl⟩

/-! ### How a printed path begins -/

theorem head_stepText_keyStep {cs rest : List Char} {c : Char}
    (htext : stepText false (keyStep cs) = c :: rest) : isDigit c = true ∨ c ∈ cs.head? := by
  unfold keyStep at htext
  split at htext
  · next n hn =>
    refine .inl (isDigit_of_mem_toDigits (n := n) ?_)
    have : Nat.toDigits 10 n = c :: rest := htext
    rw [this]
    exact List.mem_cons_self
  · have : (String.ofList cs).toList = c :: rest := htext
    rw [String.toList_ofList] at this
    exact .inr (by rw [this]; rfl)

theorem stepText_keyStep_ne_nil {cs : List Char} (h : IsKeyText cs) : stepText false (keyStep cs) ≠ [] := by
  unfold keyStep
  split
  · exact Nat.toDigits_ne_nil
  · show (String.ofList cs).toList ≠ []
    rw [String.toList_ofList]
    exact h.1

/-- The text of a path that was read begins with a character that is no blank. -/
theorem render_head {cs : List Char} {p : Path} (h : parse cs = .ok p) :
    p.render ≠ [] ∧ ∀ c ∈ p.render.head?, isBlank c = false := by
  obtain ⟨-, pieces, hpieces, hsegments⟩ := parse_eq_ok_iff.mp h
  obtain ⟨hne, -, hjoin⟩ := (splitTopLevel_eq_some_iff isPlain_dot).mp hpieces
  obtain ⟨parts, hparts, hsteps⟩ := segments_eq_ok_iff.mp hsegments
  cases hparts with
  | nil => exact (hne rfl).elim
  | @cons first part rest parts hpart _ =>
    obtain ⟨hkey, more, -, rfl⟩ := segment_eq_ok_iff.mp hpart
    have hrender : p.render = stepText false (keyStep (first.takeWhile (· != '['))) ++
        (more ++ parts.flatten).flatMap (stepText true) := by
      rw [render, hsteps]
      rfl
    have hne := stepText_keyStep_ne_nil hkey
    rw [hrender]
    refine ⟨fun hnil => hne (List.append_eq_nil_iff.mp hnil).1, fun c hc => ?_⟩
    rw [List.head?_append_of_ne_nil _ hne] at hc
    obtain ⟨rest', hrest'⟩ := List.head?_eq_some_iff.mp hc
    rcases head_stepText_keyStep hrest' with hdigit | hhead
    · exact isBlank_of_isDigit hdigit
    · -- The key begins like the text, which is trimmed.
      have hfirst : c ∈ first.head? := by
        rw [← List.takeWhile_append_dropWhile (p := (· != '[')) (l := first), List.head?_append_of_ne_nil _ hkey.1]
        exact hhead
      have hfirst_ne : first ≠ [] := fun hnil => by rw [hnil] at hfirst; cases hfirst
      refine (trimmed_trim cs).head c ?_
      rw [← hjoin]
      cases rest with
      | nil => exact hfirst
      | cons second rest =>
        rw [joinWith_cons_of_ne_nil (List.cons_ne_nil _ _), List.append_assoc, List.head?_append_of_ne_nil _ hfirst_ne]
        exact hfirst

end ClusterQuery.Path
