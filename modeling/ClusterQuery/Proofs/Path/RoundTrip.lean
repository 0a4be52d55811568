import ClusterQuery.Proofs.Path.Printing

/-! Which paths there are, and which of them are read back from their canonical text. Every path that is read is
    well-formed. The text of a well-formed path is read along the texts of its steps, one after the other, unless a
    key in brackets holds both quotes: it is printed between single quotes all the same, and the bracket around it
    may be closed at a quote inside of it. -/

namespace ClusterQuery

/-! ### Well-formed paths -/

/-- A step that a text can spell. -/
def Step.WellFormed : Step → Prop
  | .key name => Path.IsKeyText name.toList ∧ '.' ∉ name.toList ∧ Path.number? name.toList = none
  | .position n | .index n => n < wordLimit
  | .mapKey name => name.toList ≠ []
  | .wildcard => True

instance : DecidablePred Step.WellFormed
  | .key name => inferInstanceAs (Decidable (Path.IsKeyText name.toList ∧ '.' ∉ name.toList ∧ Path.number? name.toList = none))
  | .position n | .index n => inferInstanceAs (Decidable (n < wordLimit))
  | .mapKey name => inferInstanceAs (Decidable (name.toList ≠ []))
  | .wildcard => inferInstanceAs (Decidable True)

/-- The key of a step between dots. -/
def Step.dottedKey : Step → List Char
  | .key name => name.toList
  | _ => []

/-- The key of a step in brackets. -/
def Step.bracketedKey : Step → List Char
  | .mapKey name => name.toList
  | _ => []

/-- Whether the key of a step in brackets holds both quotes, so that it cannot stand between either. -/
def Step.HoldsBothQuotes (s : Step) : Prop := '\'' ∈ s.bracketedKey ∧ '"' ∈ s.bracketedKey

instance : DecidablePred Step.HoldsBothQuotes := fun s =>
  inferInstanceAs (Decidable ('\'' ∈ s.bracketedKey ∧ '"' ∈ s.bracketedKey))

namespace Path

/-- A path that a text can spell: it begins between dots, and no blank stands at either end of it. -/
structure WellFormed (p : Path) : Prop where
  dotted : ∃ s ∈ p.steps.head?, s.isDotted = true
  steps : ∀ s ∈ p.steps, s.WellFormed
  head : ∀ s ∈ p.steps.head?, ∀ c ∈ s.dottedKey.head?, isBlank c = false
  last : ∀ s ∈ p.steps.getLast?, ∀ c ∈ s.dottedKey.getLast?, isBlank c = false

instance (p : Path) : Decidable p.WellFormed :=
  decidable_of_iff ((∃ s ∈ p.steps.head?, s.isDotted = true) ∧ (∀ s ∈ p.steps, s.WellFormed) ∧
      (∀ s ∈ p.steps.head?, ∀ c ∈ s.dottedKey.head?, isBlank c = false) ∧
      ∀ s ∈ p.steps.getLast?, ∀ c ∈ s.dottedKey.getLast?, isBlank c = false)
    ⟨fun h => ⟨h.1, h.2.1, h.2.2.1, h.2.2.2⟩, fun h => ⟨h.dotted, h.steps, h.head, h.last⟩⟩

/-- Whether every key that holds both quotes has its bracket closed at its end when it stands between single quotes. -/
def ClosesQuoted (p : Path) : Prop :=
  ∀ s ∈ p.steps, s.HoldsBothQuotes → Closes ('\'' :: (s.bracketedKey ++ ['\'']))

instance (p : Path) : Decidable p.ClosesQuoted :=
  inferInstanceAs (Decidable (∀ s ∈ p.steps, s.HoldsBothQuotes → Closes ('\'' :: (s.bracketedKey ++ ['\'']))))

variable {p : Path} {s : Step} {steps : List Step} {cs : List Char}

theorem readable_of_wellFormed (h : s.WellFormed) (hquotes : ¬s.HoldsBothQuotes) : s.Readable := by
  cases s with
  | mapKey name => exact ⟨h, not_and_or.mp hquotes⟩
  | _ => exact h

theorem readable_of_isDotted (h : s.WellFormed) (hdotted : s.isDotted = true) : s.Readable := by
  cases s with
  | mapKey name => cases hdotted
  | _ => exact h

/-- A key in brackets that holds both quotes is printed between single quotes. -/
theorem subscriptText_of_quotes {name : List Char} (hsingle : '\'' ∈ name) (hdouble : '"' ∈ name) :
    subscriptText name = '[' :: ('\'' :: (name ++ ['\'']) ++ [']']) := by
  have hplain : isPlainKey name = false := by
    refine Bool.eq_false_iff.mpr fun h => ?_
    obtain ⟨-, hchars⟩ := Bool.and_eq_true_iff.mp h
    have := List.all_eq_true.mp hchars _ hsingle
    revert this
    decide
  have hcontains : name.contains '"' = true := List.contains_iff_mem.mpr hdouble
  rw [subscriptText, hplain, hcontains]
  simp

/-! ### Ends of a printed path -/

theorem exists_stepText_of_not_dotted (h : s.isDotted = false) (joined : Bool) : ∃ cs, stepText joined s = '[' :: cs := by
  cases s with
  | key name => cases h
  | position n => cases h
  | index n => exact ⟨_, rfl⟩
  | wildcard => exact ⟨_, rfl⟩
  | mapKey name =>
    show ∃ cs, subscriptText name.toList = _
    unfold subscriptText
    split
    · exact ⟨_, rfl⟩
    · split <;> exact ⟨_, rfl⟩

theorem stepText_ne_nil (h : s.WellFormed) (joined : Bool) : stepText joined s ≠ [] := by
  cases hdotted : s.isDotted with
  | false =>
    obtain ⟨cs, hcs⟩ := exists_stepText_of_not_dotted hdotted joined
    rw [hcs]
    exact List.cons_ne_nil _ _
  | true =>
    have hne := (isKeyText_of_readable (readable_of_isDotted h hdotted) hdotted).1.1
    cases joined with
    | false => exact hne
    | true =>
      rw [stepText_true_of_isDotted hdotted]
      exact List.cons_ne_nil _ _

/-- A printed step ends with no blank unless it is a key between dots that does. -/
theorem isBlank_getLast?_stepText (h : s.WellFormed) (joined : Bool)
    (hkey : ∀ c ∈ s.dottedKey.getLast?, isBlank c = false) : ∀ c ∈ (stepText joined s).getLast?, isBlank c = false := by
  have hclose (cs : List Char) : ∀ c ∈ (cs ++ [']']).getLast?, isBlank c = false := by
    intro c hc
    rw [List.getLast?_concat] at hc
    cases hc
    rfl
  cases s with
  | key name =>
    intro c hc
    refine hkey c ?_
    rwa [stepText, List.getLast?_append_of_ne_nil _ h.1.1] at hc
  | position n =>
    intro c hc
    rw [stepText, List.getLast?_append_of_ne_nil _ Nat.toDigits_ne_nil] at hc
    exact isBlank_of_isDigit (isDigit_of_mem_toDigits (List.mem_of_mem_getLast? hc))
  | index n => exact hclose ('[' :: _)
  | wildcard => exact hclose ['[', '*']
  | mapKey name =>
    show ∀ c ∈ (subscriptText name.toList).getLast?, _
    unfold subscriptText
    split
    · exact hclose ('[' :: _)
    · split
      · simpa using hclose ('[' :: '\'' :: (name.toList ++ ['\'']))
      · simpa using hclose ('[' :: '"' :: (name.toList ++ ['"']))

theorem exists_render_concat (front : List Step) (s : Step) :
    ∃ cs joined, render ⟨front ++ [s]⟩ = cs ++ stepText joined s := by
  cases front with
  | nil => exact ⟨[], false, List.append_nil _⟩
  | cons first front =>
    refine ⟨stepText false first ++ front.flatMap (stepText true), true, ?_⟩
    show stepText false first ++ (front ++ [s]).flatMap (stepText true) = _
    rw [List.flatMap_append, List.flatMap_singleton, List.append_assoc]

theorem WellFormed.trimmed_render (h : p.WellFormed) : Trimmed p.render := by
  obtain ⟨first, hfirst, hdotted⟩ := h.dotted
  obtain ⟨rest, hsteps⟩ := List.head?_eq_some_iff.mp hfirst
  have hne : p.steps ≠ [] := by
    rw [hsteps]
    exact List.cons_ne_nil _ _
  constructor
  · have hwf := h.steps first (by rw [hsteps]; exact List.mem_cons_self)
    intro c hc
    rw [render, hsteps, List.head?_append_of_ne_nil _ (stepText_ne_nil hwf false)] at hc
    cases first with
    | key name => exact h.head _ hfirst c hc
    | position n =>
      exact isBlank_of_isDigit (isDigit_of_mem_toDigits (List.mem_of_mem_head? hc))
    | index n => cases hdotted
    | mapKey name => cases hdotted
    | wildcard => cases hdotted
  · obtain ⟨cs, joined, htext⟩ := exists_render_concat p.steps.dropLast (p.steps.getLast hne)
    rw [List.dropLast_append_getLast] at htext
    have hwf := h.steps _ (List.getLast_mem hne)
    intro c hc
    rw [show p.render = _ from htext, List.getLast?_append_of_ne_nil _ (stepText_ne_nil hwf joined)] at hc
    exact isBlank_getLast?_stepText hwf joined (h.last _ (List.getLast?_eq_some_getLast hne)) c hc

/-! ### What is read -/

theorem lt_of_number? {n : Nat} (h : number? cs = some n) : n < wordLimit := by
  obtain ⟨m, -, hm⟩ := Option.bind_eq_some_iff.mp h
  split at hm
  · next hlt =>
    cases hm
    exact hlt
  · cases hm

theorem wellFormed_keyStep (hkey : IsKeyText cs) (hdot : '.' ∉ cs) : (keyStep cs).WellFormed ∧ (keyStep cs).isDotted = true := by
  unfold keyStep
  split
  · next n hn => exact ⟨lt_of_number? hn, rfl⟩
  · next hn =>
    refine ⟨?_, rfl⟩
    show IsKeyText (String.ofList cs).toList ∧ '.' ∉ (String.ofList cs).toList ∧ number? (String.ofList cs).toList = none
    rw [String.toList_ofList]
    exact ⟨hkey, hdot, hn⟩

theorem wellFormed_of_subscript (h : subscript cs = .ok s) : s.WellFormed ∧ s.isDotted = false := by
  unfold subscript at h
  split at h
  · cases h
  · split at h
    · cases h
      exact ⟨trivial, rfl⟩
    · split at h
      · next n hn =>
        cases h
        exact ⟨lt_of_number? hn, rfl⟩
      · split at h
        · cases h
        · next hne =>
          cases h
          refine ⟨?_, rfl⟩
          show (String.ofList _).toList ≠ []
          rw [String.toList_ofList]
          exact hne

theorem subscripts_eq_ok_nil_iff : subscripts cs = .ok [] ↔ cs = [] := by
  constructor
  · intro h
    rw [subscripts.eq_def] at h
    split at h
    · rfl
    · split at h
      · split at h
        · cases h
        · obtain ⟨s, -, h⟩ := Except.bind_eq_ok_iff.mp h
          obtain ⟨more, -, h⟩ := Except.bind_eq_ok_iff.mp h
          cases h
      · cases h
  · rintro rfl
    rw [subscripts]

/-- The first subscript reaches up to its closing bracket, and the others are read after it. -/
theorem subscripts_eq_ok_cons_iff : subscripts cs = .ok (s :: steps) ↔
    ∃ rest inner after, cs = '[' :: rest ∧ closeBracket none rest = some (inner, after) ∧
      subscript (trim inner) = .ok s ∧ subscripts after = .ok steps := by
  constructor
  · intro h
    rw [subscripts.eq_def] at h
    split at h
    · cases h
    · next c rest =>
      split at h
      · next hopen =>
        split at h
        · cases h
        · next inner after hclose =>
          obtain ⟨s', hs, h⟩ := Except.bind_eq_ok_iff.mp h
          obtain ⟨more, hmore, h⟩ := Except.bind_eq_ok_iff.mp h
          cases h
          exact ⟨rest, inner, after, by rw [hopen], hclose, hs, hmore⟩
      · cases h
  · rintro ⟨rest, inner, after, rfl, hclose, hs, hmore⟩
    rw [subscripts_eq_of_closeBracket hclose, hs, hmore]
    rfl

theorem wellFormed_of_subscripts (h : subscripts cs = .ok steps) : ∀ s ∈ steps, s.WellFormed ∧ s.isDotted = false := by
  induction steps generalizing cs with
  | nil => exact fun _ hs => nomatch hs
  | cons s steps ih =>
    obtain ⟨rest, inner, after, -, -, hs, hmore⟩ := subscripts_eq_ok_cons_iff.mp h
    exact List.forall_mem_cons.mpr ⟨wellFormed_of_subscript hs, ih hmore⟩

/-- A piece without dots outside of brackets is read as a key or a number without dots and subscripts after it. -/
theorem exists_of_segment (hsolid : Solid '.' cs) (h : segment cs = .ok steps) :
    ∃ base text more, cs = base ++ text ∧ (∀ c ∈ text.head?, c = '[') ∧ IsKeyText base ∧ '.' ∉ base ∧
      subscripts text = .ok more ∧ steps = keyStep base :: more := by
  obtain ⟨hkey, more, hmore, hsteps⟩ := segment_eq_ok_iff.mp h
  refine ⟨_, _, more, List.takeWhile_append_dropWhile.symm, fun c hc => ?_, hkey, fun hdot => ?_, hmore, hsteps⟩
  · simpa using head?_dropWhile_neg _ cs hc
  · unfold Solid at hsolid
    rw [← List.takeWhile_append_dropWhile (p := (· != '[')) (l := cs)] at hsolid
    have := hsolid.stop_eq_false
      (fun c hc => isPlain_of_scans Brackets.ofLists_mem_scans (not_mem_marks_of_isKeyText hkey c hc)) '.' hdot
    cases this

/-- The steps of a segment begin with one that stands between dots. -/
theorem exists_isDotted_head_of_segment (hsolid : Solid '.' cs) (h : segment cs = .ok steps) (parts : List (List Step)) :
    ∃ s ∈ (steps :: parts).flatten.head?, s.isDotted = true := by
  obtain ⟨base, text, more, -, -, hkey, hdot, -, rfl⟩ := exists_of_segment hsolid h
  exact ⟨keyStep base, rfl, (wellFormed_keyStep hkey hdot).2⟩

theorem getLast?_joinWith {sep : Char} {pieces : List (List Char)} {last : List Char} (hlast : last ∈ pieces.getLast?)
    (hne : last ≠ []) : (joinWith [sep] pieces).getLast? = last.getLast? := by
  induction pieces with
  | nil => cases hlast
  | cons piece pieces ih =>
    cases pieces with
    | nil =>
      cases hlast
      rfl
    | cons second pieces =>
      have hmore : joinWith [sep] (second :: pieces) ≠ [] := fun hnil => by
        have := ih hlast
        rw [hnil] at this
        exact hne (List.getLast?_eq_none_iff.mp this.symm)
      rw [joinWith_cons_of_ne_nil (List.cons_ne_nil _ _), List.getLast?_append_of_ne_nil _ hmore]
      exact ih hlast

/-- If the last step is a key between dots, then it is the last piece. -/
theorem mem_getLast?_of_segments {pieces : List (List Char)} {parts : List (List Step)}
    (hsolid : ∀ cs ∈ pieces, Solid '.' cs) (h : List.Forall₂ (fun cs part => segment cs = .ok part) pieces parts)
    {name : String} (hname : .key name ∈ parts.flatten.getLast?) : name.toList ∈ pieces.getLast? := by
  induction h with
  | nil => cases hname
  | @cons cs part pieces parts hpart hparts ih =>
    obtain ⟨hcs, hsolid⟩ := List.forall_mem_cons.mp hsolid
    cases hparts with
    | nil =>
      obtain ⟨base, text, more, rfl, -, -, -, hmore, rfl⟩ := exists_of_segment hcs hpart
      rw [List.flatten_cons, List.flatten_nil, List.append_nil] at hname
      cases more with
      | nil =>
        obtain rfl := subscripts_eq_ok_nil_iff.mp hmore
        rw [toList_of_keyStep (Option.some.inj hname), List.append_nil]
        exact Option.mem_some_self base
      | cons s more =>
        rw [List.getLast?_cons_cons] at hname
        cases (wellFormed_of_subscripts hmore _ (List.mem_of_mem_getLast? hname)).2
    | @cons second part' pieces parts hsecond _ =>
      rw [List.getLast?_cons_cons]
      refine ih hsolid ?_
      have hne : (part' :: parts).flatten ≠ [] := by
        obtain ⟨-, more, -, rfl⟩ := segment_eq_ok_iff.mp hsecond
        exact List.cons_ne_nil _ _
      rwa [List.flatten_cons, List.getLast?_append_of_ne_nil _ hne] at hname

theorem wellFormed_of_parse (h : parse cs = .ok p) : p.WellFormed := by
  obtain ⟨-, pieces, hpieces, hsegments⟩ := parse_eq_ok_iff.mp h
  obtain ⟨hne, hsolid, hjoin⟩ := (splitTopLevel_eq_some_iff isPlain_dot).mp hpieces
  obtain ⟨parts, hparts, hsteps⟩ := segments_eq_ok_iff.mp hsegments
  constructor
  · cases hparts with
    | nil => exact (hne rfl).elim
    | @cons piece part pieces parts hpart _ =>
      obtain ⟨base, text, more, -, -, hkey, hdot, -, rfl⟩ := exists_of_segment (hsolid _ List.mem_cons_self) hpart
      refine ⟨keyStep base, ?_, (wellFormed_keyStep hkey hdot).2⟩
      rw [hsteps]
      rfl
  · intro s hs
    rw [hsteps] at hs
    obtain ⟨part, hpart, hs⟩ := List.mem_flatten.mp hs
    obtain ⟨piece, hpiece, hsegment⟩ := hparts.exists_of_mem_right hpart
    obtain ⟨base, text, more, -, -, hkey, hdot, hmore, rfl⟩ := exists_of_segment (hsolid _ hpiece) hsegment
    rcases List.mem_cons.mp hs with rfl | hs
    · exact (wellFormed_keyStep hkey hdot).1
    · exact (wellFormed_of_subscripts hmore s hs).1
  -- The first key begins the text, which begins with no blank.
  · intro s hs c hc
    cases s with
    | key name =>
      obtain ⟨rest, hrest⟩ := List.head?_eq_some_iff.mp hs
      refine (render_head h).2 c ?_
      have hne : name.toList ≠ [] := List.ne_nil_of_mem (List.mem_of_mem_head? hc)
      rw [render, hrest]
      exact (List.head?_append_of_ne_nil name.toList hne).symm ▸ hc
    | _ => cases hc
  · intro s hs c hc
    cases s with
    | key name =>
      rw [hsteps] at hs
      have hlast := mem_getLast?_of_segments hsolid hparts hs
      refine (trimmed_trim cs).last c ?_
      rwa [← hjoin, getLast?_joinWith hlast (List.ne_nil_of_mem (List.mem_of_mem_getLast? hc))]
    | _ => cases hc

/-! ### Reading along the printed text -/

/-- A text that goes on as itself after one character consists of that character. -/
theorem eq_of_mem_of_append_eq_cons_append {c : Char} {cs ds es : List Char} (h : cs ++ ds = c :: (cs ++ es)) :
    ∀ d ∈ cs, d = c := by
  induction cs with
  | nil => exact fun _ hd => nomatch hd
  | cons d cs ih =>
    obtain ⟨rfl, hrest⟩ := List.cons.inj h
    exact List.forall_mem_cons.mpr ⟨rfl, ih hrest⟩

/-- Texts of one class of characters are the same if others of the class do not follow them. -/
theorem append_inj_of_head {p : Char → Bool} {as bs cs ds : List Char} (has : ∀ c ∈ as, p c = true)
    (hbs : ∀ c ∈ bs.head?, p c = false) (hcs : ∀ c ∈ cs, p c = true) (hds : ∀ c ∈ ds.head?, p c = false)
    (h : as ++ bs = cs ++ ds) : as = cs ∧ bs = ds := by
  have takeWhile_eq {as bs : List Char} (has : ∀ c ∈ as, p c = true) (hbs : ∀ c ∈ bs.head?, p c = false) :
      (as ++ bs).takeWhile p = as := by
    rw [List.takeWhile_append_of_pos has]
    cases bs with
    | nil => exact List.append_nil as
    | cons c bs => rw [List.takeWhile_cons_of_neg (by rw [hbs c rfl]; exact Bool.false_ne_true), List.append_nil]
  have hprefix : as = cs := by rw [← takeWhile_eq has hbs, h, takeWhile_eq hcs hds]
  subst hprefix
  exact ⟨rfl, List.append_cancel_left h⟩

theorem unquote_of_subscript {name : String} (h : subscript cs = .ok (.mapKey name)) : name.toList = unquote cs := by
  unfold subscript at h
  split at h
  · cases h
  · split at h
    · cases h
    · split at h
      · cases h
      · split at h
        · cases h
        · cases h
          exact String.toList_ofList

/-- A key that is read back from its text between single quotes is read up to its end. For a shorter text is no text
    between quotes and thus the key itself, which begins with a quote, then, and with another after it, and so on
    through all of the key; but the key holds a double quote. -/
theorem eq_of_subscript_quoted {name : String} (hdouble : '"' ∈ name.toList) {inner after rest : List Char}
    (htext : inner ++ ']' :: after = '\'' :: (name.toList ++ ['\'']) ++ ']' :: rest)
    (hread : subscript (trim inner) = .ok (.mapKey name)) : inner = '\'' :: (name.toList ++ ['\'']) := by
  have hne : trim inner ≠ [] := fun hnil => by
    rw [hnil] at hread
    cases hread
  obtain ⟨blanks, blanks', hblanks, hblanks', hinner⟩ := exists_trim inner
  obtain ⟨c, key, hkey⟩ := List.exists_cons_of_ne_nil hne
  have hnone : blanks = [] := by
    cases blanks with
    | nil => rfl
    | cons b blanks =>
      rw [hinner] at htext
      obtain ⟨rfl, -⟩ := List.cons.inj htext
      cases hblanks '\'' List.mem_cons_self
  subst hnone
  rw [List.nil_append] at hinner
  rw [hinner, hkey] at htext
  obtain ⟨rfl, -⟩ := List.cons.inj htext
  have hname := unquote_of_subscript hread
  rw [hkey] at hname
  change name.toList = (dropLast? '\'' key).getD _ at hname
  cases hdrop : dropLast? '\'' key with
  | some before =>
    rw [hdrop, Option.getD_some] at hname
    obtain rfl := dropLast?_eq_some_iff.mp hdrop
    rw [← hname] at htext hkey
    rw [List.append_assoc] at htext
    -- No blank stands between the quote and the bracket.
    have hrest := List.append_cancel_left htext
    cases blanks' with
    | nil => rw [hinner, List.append_nil, hkey]
    | cons b blanks' =>
      obtain ⟨rfl, -⟩ := List.cons.inj hrest
      cases hblanks' ']' List.mem_cons_self
  | none =>
    rw [hdrop, Option.getD_none] at hname
    have hself : name.toList ++ (blanks' ++ ']' :: after) = '\'' :: (name.toList ++ '\'' :: ']' :: rest) := by
      rw [hname]
      simpa [hname] using htext
    cases eq_of_mem_of_append_eq_cons_append hself '"' hdouble

/-- The subscripts at the head of a text are those printed at the head of it, and the same follows. -/
theorem bracketed_of_subscripts {rest rest' : List Char} (hread : subscripts cs = .ok steps)
    (htext : cs ++ rest = steps.flatMap (stepText true) ++ rest') : (∀ s ∈ steps, s.Bracketed) ∧ rest = rest' := by
  induction steps generalizing cs with
  | nil =>
    obtain rfl := subscripts_eq_ok_nil_iff.mp hread
    exact ⟨(fun _ hs => nomatch hs), htext⟩
  | cons s steps ih =>
    obtain ⟨hs, -⟩ := List.forall_mem_cons.mp (wellFormed_of_subscripts hread)
    obtain ⟨text, inner, after, rfl, hclose, hsubscript, hmore⟩ := subscripts_eq_ok_cons_iff.mp hread
    obtain rfl := eq_of_closeBracket hclose
    have hprinted : ∃ printed, stepText true s = '[' :: (printed ++ [']']) ∧
        (inner ++ ']' :: (after ++ rest) = printed ++ ']' :: (steps.flatMap (stepText true) ++ rest') → inner = printed) := by
      -- Any other step than a key with both quotes is read back from its text in brackets.
      by_cases hquotes : s.HoldsBothQuotes
      · cases s with
        | mapKey name =>
          exact ⟨_, subscriptText_of_quotes hquotes.1 hquotes.2, fun htext => eq_of_subscript_quoted hquotes.2 htext hsubscript⟩
        | _ => cases hquotes.1
      · obtain ⟨printed, hprinted, hcloses, -⟩ := bracketed_of_readable (readable_of_wellFormed hs.1 hquotes) hs.2
        refine ⟨printed, hprinted, fun htext => ?_⟩
        have hfound := closeBracket_of_prefix hclose (after ++ rest)
        rw [htext, hcloses.closeBracket] at hfound
        exact (Prod.mk.inj (Option.some.inj hfound)).1.symm
    obtain ⟨printed, hprinted, heq⟩ := hprinted
    rw [List.flatMap_cons, hprinted] at htext
    have hinner : inner ++ ']' :: (after ++ rest) = printed ++ ']' :: (steps.flatMap (stepText true) ++ rest') := by
      simpa using htext
    obtain rfl := heq hinner
    obtain ⟨hsteps, hrest⟩ := ih hmore (List.cons.inj (List.append_cancel_left hinner)).2
    exact ⟨List.forall_mem_cons.mpr ⟨⟨inner, hprinted, closeBracket_of_prefix hclose [], hsubscript⟩, hsteps⟩, hrest⟩

/-- What stands between dots in a text is what is printed there. -/
theorem bracketed_of_segment {base text rest rest' : List Char} (hkey : IsKeyText base) (hdot : '.' ∉ base)
    (hhead : ∀ c ∈ text.head?, c = '[') (hread : subscripts text = .ok steps)
    (hrest : ∀ c ∈ rest.head?, c = '.') (hrest' : ∀ c ∈ rest'.head?, c = '.')
    (htext : base ++ (text ++ rest) = stepText false (keyStep base) ++ (steps.flatMap (stepText true) ++ rest')) :
    (∀ s ∈ steps, s.Bracketed) ∧ rest = rest' := by
  have isKey {cs : List Char} (hkey : IsKeyText cs) (hdot : '.' ∉ cs) : ∀ c ∈ cs, (c != '[' && c != '.') = true := by
    intro c hc
    simp only [Bool.and_eq_true, bne_iff_ne]
    exact ⟨(hkey.2 c hc).2.2, fun he => hdot (he ▸ hc)⟩
  have ends {text rest : List Char} (htext : ∀ c ∈ text.head?, c = '[') (hrest : ∀ c ∈ rest.head?, c = '.') :
      ∀ c ∈ (text ++ rest).head?, (c != '[' && c != '.') = false := by
    intro c hc
    cases text with
    | nil =>
      obtain rfl := hrest c hc
      rfl
    | cons d text =>
      obtain rfl := htext c hc
      rfl
  obtain ⟨hwf, hdotted⟩ := wellFormed_keyStep hkey hdot
  obtain ⟨hkey', hdot', -⟩ := isKeyText_of_readable (readable_of_isDotted hwf hdotted) hdotted
  -- Both keys end where the first character stands that belongs to none.
  refine bracketed_of_subscripts hread (append_inj_of_head (isKey hkey hdot) (ends hhead hrest) (isKey hkey' hdot')
    (ends ?_ hrest') htext).2
  intro c hc
  cases steps with
  | nil => cases hc
  | cons s steps =>
    obtain ⟨cs, hcs⟩ := exists_stepText_of_not_dotted (wellFormed_of_subscripts hread s List.mem_cons_self).2 true
    rw [List.flatMap_cons, hcs] at hc
    cases hc
    rfl

theorem flatMap_stepText_of_isDotted (hfirst : ∃ s ∈ steps.head?, s.isDotted = true) :
    steps.flatMap (stepText true) = '.' :: render ⟨steps⟩ := by
  obtain ⟨first, hfirst, hdotted⟩ := hfirst
  obtain ⟨rest, rfl⟩ := List.head?_eq_some_iff.mp hfirst
  rw [List.flatMap_cons, stepText_true_of_isDotted hdotted]
  rfl

/-- If pieces between dots are what is printed of the steps that they are read as, then each step in brackets is
    read from its own text. -/
theorem bracketed_of_segments {pieces : List (List Char)} {parts : List (List Step)}
    (hsolid : ∀ cs ∈ pieces, Solid '.' cs) (h : List.Forall₂ (fun cs part => segment cs = .ok part) pieces parts)
    (htext : joinWith ['.'] pieces = render ⟨parts.flatten⟩) : ∀ s ∈ parts.flatten, s.isDotted = false → s.Bracketed := by
  induction h with
  | nil => exact fun _ hs => nomatch hs
  | @cons cs part pieces parts hpart hparts ih =>
    obtain ⟨hcs, hrest⟩ := List.forall_mem_cons.mp hsolid
    obtain ⟨base, text, more, rfl, hhead, hkey, hdot, hmore, rfl⟩ := exists_of_segment hcs hpart
    have hrender : render ⟨((keyStep base :: more) :: parts).flatten⟩ =
        stepText false (keyStep base) ++ (more.flatMap (stepText true) ++ parts.flatten.flatMap (stepText true)) := by
      rw [← List.flatMap_append]
      rfl
    rw [hrender] at htext
    -- Behind a segment stands a dot or nothing, in the text as in print.
    have hsteps : (∀ s ∈ more, s.Bracketed) ∧ ∀ s ∈ parts.flatten, s.isDotted = false → s.Bracketed := by
      cases hparts with
      | nil =>
        have hend : ∀ c ∈ ([] : List Char).head?, c = '.' := fun _ hc => nomatch hc
        obtain ⟨hmore, -⟩ := bracketed_of_segment hkey hdot hhead hmore hend hend (by simpa [joinWith] using htext)
        exact ⟨hmore, by simp⟩
      | @cons second part' pieces parts hsecond _ =>
        have hfirst := exists_isDotted_head_of_segment (hrest second List.mem_cons_self) hsecond parts
        have hdots {cs : List Char} : ∀ c ∈ ('.' :: cs).head?, c = '.' := fun c hc => by
          cases hc
          rfl
        rw [joinWith_cons_of_ne_nil (List.cons_ne_nil _ _), flatMap_stepText_of_isDotted hfirst, List.append_assoc,
          List.append_assoc] at htext
        obtain ⟨hmore, htail⟩ := bracketed_of_segment hkey hdot hhead hmore hdots hdots htext
        exact ⟨hmore, ih hrest (List.cons.inj htail).2⟩
    intro s hs hdotted
    rcases List.mem_append.mp hs with hs | hs
    · rcases List.mem_cons.mp hs with rfl | hs
      · rw [(wellFormed_keyStep hkey hdot).2] at hdotted
        cases hdotted
      · exact hsteps.1 s hs
    · exact hsteps.2 s hs hdotted

/-! ### The round trip -/

theorem bracketed_of_closes (h : s.WellFormed) (hdotted : s.isDotted = false)
    (hcloses : s.HoldsBothQuotes → Closes ('\'' :: (s.bracketedKey ++ ['\'']))) : s.Bracketed := by
  by_cases hquotes : s.HoldsBothQuotes
  · cases s with
    | mapKey name =>
      refine ⟨_, subscriptText_of_quotes hquotes.1 hquotes.2, hcloses hquotes, ?_⟩
      rw [subscript_of_quoted rfl h, String.ofList_toList]
    | _ => cases hquotes.1
  · exact bracketed_of_readable (readable_of_wellFormed h hquotes) hdotted

/-- A well-formed path is read back from its text if and only if the brackets around its keys with both quotes are
    closed at their ends. -/
theorem WellFormed.parse_render_iff (h : p.WellFormed) : parse p.render = .ok p ↔ p.ClosesQuoted := by
  constructor
  · intro hread s hs hquotes
    obtain ⟨-, pieces, hpieces, hsegments⟩ := parse_eq_ok_iff.mp hread
    rw [trim_eq_self h.trimmed_render] at hpieces
    obtain ⟨-, hsolid, hjoin⟩ := (splitTopLevel_eq_some_iff isPlain_dot).mp hpieces
    obtain ⟨parts, hparts, hsteps⟩ := segments_eq_ok_iff.mp hsegments
    have hjoin' : joinWith ['.'] pieces = render ⟨parts.flatten⟩ := by
      rw [hjoin, ← hsteps]
    rw [hsteps] at hs
    cases s with
    | mapKey name =>
      obtain ⟨inner, htext, hcloses, -⟩ := bracketed_of_segments hsolid hparts hjoin' _ hs rfl
      have hprinted : stepText true (.mapKey name) = _ := subscriptText_of_quotes hquotes.1 hquotes.2
      rw [hprinted] at htext
      have hinner := List.append_cancel_right (List.cons.inj htext).2
      exact hinner ▸ hcloses
    | _ => cases hquotes.1
  · intro hcloses
    exact parse_render_of_bracketed h.dotted (fun s hs hdotted => readable_of_isDotted (h.steps s hs) hdotted)
      (fun s hs hdotted => bracketed_of_closes (h.steps s hs) hdotted (hcloses s hs)) h.trimmed_render

/-- Reading and printing paths. What is read is a well-formed path. Well-formed paths whose keys in brackets lack one
    of the quotes are read back from their texts, so that no two of them have the same text. And any path that was
    read is read back from its text if and only if the brackets around its keys with both quotes, between single
    quotes, are closed at their ends. -/
theorem parse_render_iff_closesQuoted (cs : List Char) (p : Path) :
    (parse cs = .ok p → p.WellFormed) ∧
    (p.WellFormed → (∀ s ∈ p.steps, ¬s.HoldsBothQuotes) → parse p.render = .ok p ∧
      ∀ q : Path, q.WellFormed → (∀ s ∈ q.steps, ¬s.HoldsBothQuotes) → p.render = q.render → p = q) ∧
    (parse cs = .ok p → (parse p.render = .ok p ↔ p.ClosesQuoted)) := by
  have hback {p : Path} (h : p.WellFormed) (hquotes : ∀ s ∈ p.steps, ¬s.HoldsBothQuotes) : parse p.render = .ok p :=
    h.parse_render_iff.mpr fun s hs hboth => (hquotes s hs hboth).elim
  refine ⟨wellFormed_of_parse, fun hp hp' => ⟨hback hp hp', fun q hq hq' htext => ?_⟩, fun h =>
    (wellFormed_of_parse h).parse_render_iff⟩
  have hread := hback hp hp'
  rw [htext, hback hq hq'] at hread
  exact (Except.ok.inj hread).symm

theorem parse_render_of_dots_and_quotes :
    WellFormed ⟨[.key "labels", .mapKey "app.io/name"]⟩ ∧
      parse (render ⟨[.key "labels", .mapKey "app.io/name"]⟩) = .ok ⟨[.key "labels", .mapKey "app.io/name"]⟩ ∧
      parse (render ⟨[.key "a", .mapKey "x'y\"z\"v'w"]⟩) = .ok ⟨[.key "a", .mapKey "x'y\"z\"v'w"]⟩ := by
  have hlabels := parse_render_iff_closesQuoted "labels[ 'app.io/name' ]".toList ⟨[.key "labels", .mapKey "app.io/name"]⟩
  have hquotes := parse_render_iff_closesQuoted "a[x'y\"z\"v'w]".toList ⟨[.key "a", .mapKey "x'y\"z\"v'w"]⟩
  have hread : parse "labels[ 'app.io/name' ]".toList = .ok ⟨[.key "labels", .mapKey "app.io/name"]⟩ :=
    parse_eq_ok_iff.mpr ⟨by decide, ["labels[ 'app.io/name' ]".toList], rfl, by cbv⟩
  have hread' : parse "a[x'y\"z\"v'w]".toList = .ok ⟨[.key "a", .mapKey "x'y\"z\"v'w"]⟩ :=
    parse_eq_ok_iff.mpr ⟨by decide, ["a[x'y\"z\"v'w]".toList], rfl, by cbv⟩
  exact ⟨hlabels.1 hread, (hlabels.2.1 (by decide) (by decide)).1, (hquotes.2.2 hread').mpr (by decide)⟩

/-- The text of a path with one key in brackets can be that of a path with two. -/
theorem parse_render_of_both_quotes :
    ∃ p q, parse "a[x\"']['y\"]".toList = .ok p ∧ parse p.render = .ok q ∧ p ≠ q := by
  refine ⟨⟨[.key "a", .mapKey "x\"']['y\""]⟩, ⟨[.key "a", .mapKey "x\"", .mapKey "y\""]⟩, ?_, ?_, by decide⟩
  · exact parse_eq_ok_iff.mpr ⟨by decide, ["a[x\"']['y\"]".toList], rfl, by cbv⟩
  · exact parse_eq_ok_iff.mpr ⟨by decide, ["a['x\"']['y\"']".toList], rfl, by cbv⟩

end Path

end ClusterQuery
