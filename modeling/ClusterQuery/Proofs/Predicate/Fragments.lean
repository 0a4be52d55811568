import ClusterQuery.Predicate.Basic
import ClusterQuery.Proofs.Predicate.Depth
import ClusterQuery.Proofs.Text.Characters

/-! The text of a predicate as the lexer delimits it: quoted texts, subscripts of words, and the characters outside
    of them. Where no quoted text holds its own quote and every subscript is closed, the scan of words passes each of
    these parts as a whole, and the depth that it comes to is that of the tokens. -/

namespace ClusterQuery

open Nesting

namespace Predicate

/-- A part of the text of a predicate. -/
inductive Fragment where
  | plain (c : Char)
  /-- A quoted text, as it is written between its quotes. -/
  | literal (quote : Char) (body : List Char)
  /-- The text between the brackets of a subscript. -/
  | subscript (body : List Char)
deriving DecidableEq

/-- A quote stands in a text only after a backslash. -/
def Escaped (quote : Char) (body : List Char) : Prop :=
  ∀ front back, body = front ++ quote :: back → front.getLast? = some '\\'

namespace Fragment

def text : Fragment → List Char
  | .plain c => [c]
  | .literal q body => q :: (body ++ [q])
  | .subscript body => '[' :: (body ++ [']'])

/-- A part without what is quoted or in brackets. -/
def masked : Fragment → List Char
  | .plain c => [c]
  | .literal q _ => [q, q]
  | .subscript _ => ['[', ']']

/-- What is known of every part: no quote stands outside the quoted texts and the subscripts, and one of the kind that
    a quoted text is delimited with stands in it only after a backslash. -/
def Delimited : Fragment → Prop
  | .plain c => isQuote c = false
  | .literal q body => isQuote q = true ∧ Escaped q body
  | .subscript _ => True

/-- A part that the scan of words passes as a whole. -/
def Passed : Fragment → Prop
  | .plain c => isQuote c = false
  | .literal q body => isQuote q = true ∧ q ∉ body
  | .subscript body => Closed .ofWords body

instance : DecidablePred Passed
  | .plain c => inferInstanceAs (Decidable (isQuote c = false))
  | .literal q body => inferInstanceAs (Decidable (isQuote q = true ∧ q ∉ body))
  | .subscript body => inferInstanceAs (Decidable (Closed .ofWords body))

end Fragment

/-- Puts a character in front of the subscript that stands first. -/
def growSubscript (c : Char) : List Fragment → List Fragment
  | .subscript body :: fs => .subscript (c :: body) :: fs
  | fs => .subscript [c] :: fs

/-- The parts of a word. -/
def wordFragments : WordPlace → List Char → List Fragment
  | .outside, [] => []
  | .subscript _, [] => [.subscript []]
  | .outside, c :: cs =>
    if c = '[' then wordFragments (.subscript none) cs else .plain c :: wordFragments .outside cs
  | .subscript (some q), c :: cs => growSubscript c (wordFragments (.subscript (if c = q then none else some q)) cs)
  | .subscript none, c :: cs =>
    if isQuote c then growSubscript c (wordFragments (.subscript (some c)) cs)
    else if c = ']' then .subscript [] :: wordFragments .outside cs
    else growSubscript c (wordFragments (.subscript none) cs)

/-- The parts of a token. -/
def Scanned.fragments (s : Scanned) : List Fragment :=
  match s.token with
  | .symbol _ => s.lexeme.map .plain
  | .text _ =>
    match s.lexeme with
    | [] => []
    | q :: written => [.literal q written.dropLast]
  | .word _ => wordFragments .outside s.lexeme

/-- The parts of a text that the lexer accepts. -/
def fragments (cs : List Char) : List Fragment :=
  match cs with
  | [] => []
  | c :: rest =>
    if isBlank c then .plain c :: fragments rest
    else
      match _h : scan 0 c rest with
      | .error _ => []
      | .ok s => s.fragments ++ fragments s.rest
termination_by cs.length
decreasing_by
  · simp
  · exact length_lt_of_scan _h

/-- A text without what is quoted or in subscripts. -/
def masked (cs : List Char) : List Char := (fragments cs).flatMap Fragment.masked

/-! ### Passing one part -/

theorem run_literal {q : Char} {body : List Char} (hq : isQuote q = true) (hbody : q ∉ body) (d : Nat) :
    run .ofWords ⟨d, none⟩ (q :: (body ++ [q])) = some ⟨d, none⟩ := by
  have hclose : run .ofWords ⟨d, some q⟩ [q] = some ⟨d, none⟩ := by
    rw [run, next_of_quote rfl, if_pos rfl]
    rfl
  rw [run, next_quote (b := .ofWords) hq rfl, Option.bind_some]
  exact run_trans (run_quoted hbody d) hclose

theorem run_subscript {body : List Char} (h : Closed .ofWords body) (d : Nat) :
    run .ofWords ⟨d, none⟩ ('[' :: (body ++ [']'])) = some ⟨d, none⟩ := by
  have hopen : next .ofWords ⟨d, none⟩ '[' = some ⟨d + 1, none⟩ := rfl
  have hin : run .ofWords ⟨0 + (d + 1), none⟩ body = some ⟨0 + (d + 1), none⟩ := run_deeper rfl (d + 1) h
  rw [Nat.zero_add] at hin
  rw [run, hopen, Option.bind_some]
  exact run_trans hin rfl

/-! ### The parts of a word -/

/-- A character inside a word. -/
def IsWordChar (c : Char) : Prop := endsWord c = false ∧ c ≠ '['

theorem isPlain_of_isWordChar {c : Char} (h : IsWordChar c) : Brackets.ofWords.isPlain c = true ∧ isQuote c = false := by
  obtain ⟨hends, hopen⟩ := h
  simp only [endsWord, Bool.or_eq_false_iff, beq_eq_false_iff_ne, List.contains_eq_mem, decide_eq_false_iff_not,
    List.mem_cons, List.not_mem_nil, or_false, not_or] at hends
  obtain ⟨⟨-, hclose⟩, hmarks⟩ := hends
  simp [Brackets.isPlain, Brackets.ofWords, isQuote, hclose, hmarks, hopen]

/-- The rest of a word, one character after the other, from each place that a character can stand in. -/
inductive WordRest : WordPlace → List Char → Prop
  | nil : WordRest .outside []
  | char {c : Char} {cs : List Char} (hc : IsWordChar c) (h : WordRest .outside cs) : WordRest .outside (c :: cs)
  | opening {cs : List Char} (h : WordRest (.subscript none) cs) : WordRest .outside ('[' :: cs)
  | inside {c : Char} {cs : List Char} (hc : isQuote c = false ∧ c ≠ ']') (h : WordRest (.subscript none) cs) :
      WordRest (.subscript none) (c :: cs)
  | closing {cs : List Char} (h : WordRest .outside cs) : WordRest (.subscript none) (']' :: cs)
  | quote {q : Char} {cs : List Char} (hq : isQuote q = true) (h : WordRest (.subscript (some q)) cs) :
      WordRest (.subscript none) (q :: cs)
  | quoted {q c : Char} {cs : List Char} (hc : c ≠ q) (h : WordRest (.subscript (some q)) cs) :
      WordRest (.subscript (some q)) (c :: cs)
  | unquote {q : Char} {cs : List Char} (h : WordRest (.subscript none) cs) : WordRest (.subscript (some q)) (q :: cs)

theorem wordRest_of_readWord {place : WordPlace} {cs word rest : List Char} (h : readWord place cs = some (word, rest)) :
    WordRest place word := by
  induction cs generalizing place word with
  | nil =>
    cases place with
    | outside =>
      cases h
      exact .nil
    | subscript quote => cases h
  | cons c cs ih =>
    cases place with
    | outside =>
      rw [readWord] at h
      split at h
      · cases h
        exact .nil
      · next hends =>
        obtain ⟨⟨word', rest'⟩, hread, he⟩ := Option.map_eq_some_iff.mp h
        cases he
        split at hread
        · next hc => exact hc ▸ .opening (ih hread)
        · next hc => exact .char ⟨Bool.eq_false_iff.mpr hends, hc⟩ (ih hread)
    | subscript quote =>
      rw [readWord.eq_def] at h
      obtain ⟨⟨word', rest'⟩, hread, he⟩ := Option.map_eq_some_iff.mp h
      cases he
      cases quote with
      | some q =>
        dsimp only at hread
        split at hread
        · next hc => exact hc ▸ .unquote (ih hread)
        · next hc => exact .quoted hc (ih hread)
      | none =>
        dsimp only at hread
        split at hread
        · next hq => exact .quote hq (ih hread)
        · next hq =>
          split at hread
          · next hc => exact hc ▸ .closing (ih hread)
          · next hc => exact .inside ⟨Bool.eq_false_iff.mpr hq, hc⟩ (ih hread)

/-- What is known of the parts of a word. -/
def Fragment.InWord : Fragment → Prop
  | .plain c => IsWordChar c
  | .literal _ _ => False
  | .subscript _ => True

theorem wordFragments_subscript (quote : Option Char) (cs : List Char) :
    ∃ body fs, wordFragments (.subscript quote) cs = .subscript body :: fs := by
  induction cs generalizing quote with
  | nil => exact ⟨[], [], rfl⟩
  | cons c cs ih =>
    have hgrow : ∀ quote' : Option Char, ∃ body fs,
        growSubscript c (wordFragments (.subscript quote') cs) = .subscript body :: fs := fun quote' => by
      obtain ⟨body, fs, h⟩ := ih quote'
      exact ⟨c :: body, fs, by rw [h]; rfl⟩
    cases quote with
    | some q => exact hgrow _
    | none =>
      rw [wordFragments]
      split
      · exact hgrow _
      · split
        · exact ⟨[], _, rfl⟩
        · exact hgrow _

theorem growSubscript_text {c : Char} {quote : Option Char} {word : List Char}
    (htext : (wordFragments (.subscript quote) word).flatMap Fragment.text = '[' :: word)
    (hmem : ∀ f ∈ wordFragments (.subscript quote) word, f.InWord) :
    (growSubscript c (wordFragments (.subscript quote) word)).flatMap Fragment.text = '[' :: c :: word ∧
      ∀ f ∈ growSubscript c (wordFragments (.subscript quote) word), f.InWord := by
  obtain ⟨body, fs, hfs⟩ := wordFragments_subscript quote word
  rw [hfs] at htext hmem ⊢
  have hbody : body ++ (']' :: fs.flatMap Fragment.text) = word := by
    simpa [Fragment.text] using htext
  refine ⟨?_, List.forall_mem_cons.mpr ⟨trivial, (List.forall_mem_cons.mp hmem).2⟩⟩
  rw [← hbody]
  simp [growSubscript, Fragment.text]

/-- The bracket that a place in a subscript is after. -/
def WordPlace.opening : WordPlace → List Char
  | .outside => []
  | .subscript _ => ['[']

/-- The parts of a word are its text, with the bracket of the subscript that it begins in. -/
theorem fragments_of_wordRest {place : WordPlace} {word : List Char} (h : WordRest place word) :
    (wordFragments place word).flatMap Fragment.text = place.opening ++ word ∧
      ∀ f ∈ wordFragments place word, f.InWord := by
  induction h with
  | nil => exact ⟨rfl, fun _ hf => nomatch hf⟩
  | char hc _ ih =>
    rw [wordFragments, if_neg hc.2, List.flatMap_cons, ih.1]
    exact ⟨rfl, List.forall_mem_cons.mpr ⟨hc, ih.2⟩⟩
  | opening _ ih =>
    rw [wordFragments, if_pos rfl]
    exact ih
  | inside hc _ ih =>
    rw [wordFragments, if_neg (Bool.eq_false_iff.mp hc.1), if_neg hc.2]
    exact growSubscript_text ih.1 ih.2
  | closing _ ih =>
    rw [wordFragments, if_neg (by decide), if_pos rfl, List.flatMap_cons, ih.1]
    exact ⟨rfl, List.forall_mem_cons.mpr ⟨trivial, ih.2⟩⟩
  | quote hq _ ih =>
    rw [wordFragments, if_pos hq]
    exact growSubscript_text ih.1 ih.2
  | quoted hc _ ih =>
    rw [wordFragments, if_neg hc]
    exact growSubscript_text ih.1 ih.2
  | unquote _ ih =>
    rw [wordFragments, if_pos rfl]
    exact growSubscript_text ih.1 ih.2

/-- The scan passes the parts of a word if it passes each subscript. -/
theorem run_of_inWord {fs : List Fragment} (hword : ∀ f ∈ fs, f.InWord) (hpassed : ∀ f ∈ fs, f.Passed) (d : Nat) :
    run .ofWords ⟨d, none⟩ (fs.flatMap Fragment.text) = some ⟨d, none⟩ := by
  induction fs with
  | nil => rfl
  | cons f fs ih =>
    obtain ⟨hf, hword⟩ := List.forall_mem_cons.mp hword
    obtain ⟨hp, hpassed⟩ := List.forall_mem_cons.mp hpassed
    have hfirst : run .ofWords ⟨d, none⟩ f.text = some ⟨d, none⟩ := by
      cases f with
      | plain c =>
        refine run_of_plain (sound_unquoted d) fun c' hc' => ?_
        cases List.mem_singleton.mp hc'
        exact (isPlain_of_isWordChar hf).1
      | literal q body => exact hf.elim
      | subscript body => exact run_subscript hp d
    rw [List.flatMap_cons]
    exact run_trans hfirst (ih hword hpassed)

/-! ### The parts of a token -/

theorem run_spelling {s : Scanned} {cs : List Char} (h : readSymbol? cs = some s) :
    ∃ symbol, s.token = .symbol symbol ∧ (∀ c ∈ s.lexeme, isQuote c = false) ∧
      ∀ d, run .ofWords ⟨d, none⟩ s.lexeme = (s.token.depthAfter d).map fun e => ⟨e, none⟩ := by
  obtain ⟨⟨spelling, symbol⟩, hmem, h⟩ := List.exists_of_findSome?_eq_some h
  obtain ⟨rest, -, he⟩ := Option.map_eq_some_iff.mp h
  cases he
  have hquote : ∀ e ∈ Symbol.spellings, ∀ c ∈ e.1, isQuote c = false := by decide
  have hrun : ∀ e ∈ Symbol.spellings, ∀ d,
      run .ofWords ⟨d, none⟩ e.1 = ((Token.symbol e.2).depthAfter d).map fun e => ⟨e, none⟩ := by
    intro e he d
    simp only [Symbol.spellings, List.mem_cons, List.not_mem_nil, or_false] at he
    rcases he with rfl | rfl | rfl | rfl | rfl | rfl | rfl | rfl | rfl | rfl | rfl | rfl | rfl | rfl | rfl | rfl | rfl | rfl <;>
      cases d <;> rfl
  exact ⟨symbol, rfl, hquote _ hmem, hrun _ hmem⟩

/-- What is written between quotes, in which a quote of their kind stands only after a backslash. -/
theorem exists_of_readQuoted {quote : Char} (hquote : isQuote quote = true) {cs value written rest : List Char}
    (h : readQuoted quote cs = some (value, written, rest)) : ∃ body, written = body ++ [quote] ∧ Escaped quote body := by
  have hback : quote ≠ '\\' := fun he => by
    rw [he] at hquote
    cases hquote
  fun_induction readQuoted quote cs generalizing value written with
  | case1 => cases h
  | case2 c cs ih =>
    -- A backslash takes the next character with it, be that the quote.
    obtain ⟨⟨value', written', rest'⟩, h', he⟩ := Option.map_eq_some_iff.mp h
    cases he
    obtain ⟨body, rfl, hbody⟩ := ih h'
    refine ⟨'\\' :: c :: body, rfl, fun as bs hsplit => ?_⟩
    rcases as with _ | ⟨x, _ | ⟨y, as⟩⟩
    · exact (hback (List.cons.inj hsplit).1.symm).elim
    · exact congrArg some (List.cons.inj hsplit).1.symm
    · have hlast := hbody as bs (List.cons.inj (List.cons.inj hsplit).2).2
      rw [List.getLast?_cons_cons, List.getLast?_cons, hlast]
      rfl
  | case3 =>
    cases h
    exact ⟨[], rfl, fun as bs hsplit => by simp at hsplit⟩
  | case4 c cs _ hne ih =>
    obtain ⟨⟨value', written', rest'⟩, h', he⟩ := Option.map_eq_some_iff.mp h
    cases he
    obtain ⟨body, rfl, hbody⟩ := ih h'
    refine ⟨c :: body, rfl, fun as bs hsplit => ?_⟩
    rcases as with _ | ⟨x, as⟩
    · exact (hne (List.cons.inj hsplit).1).elim
    · have hlast := hbody as bs (List.cons.inj hsplit).2
      rw [List.getLast?_cons, hlast]
      rfl

theorem ne_open_of_readSymbol? {c : Char} {cs : List Char} (h : readSymbol? (c :: cs) = none) : c ≠ '[' := by
  rintro rfl
  have hmem : (['['], Symbol.leftBracket) ∈ Symbol.spellings := by decide
  have := List.findSome?_eq_none_iff.mp h _ hmem
  cases this

/-- The parts of a token are its lexeme, and the scan of words comes to the depth that the token leads to if it passes
    each of them. -/
structure Scanned.Spelled (s : Scanned) : Prop where
  text : s.fragments.flatMap Fragment.text = s.lexeme
  delimited : ∀ f ∈ s.fragments, f.Delimited
  run : (∀ f ∈ s.fragments, f.Passed) → ∀ d,
    Nesting.run .ofWords ⟨d, none⟩ s.lexeme = (s.token.depthAfter d).map fun e => ⟨e, none⟩

theorem spelled_of_readSymbol? {cs : List Char} {s : Scanned} (h : readSymbol? cs = some s) : s.Spelled := by
  obtain ⟨symbol, htoken, hquote, hrun⟩ := run_spelling h
  have hfragments : s.fragments = s.lexeme.map .plain := by rw [Scanned.fragments, htoken]
  refine ⟨?_, ?_, fun _ => hrun⟩
  · rw [hfragments, List.flatMap_map]
    exact List.flatMap_singleton' s.lexeme
  · rw [hfragments]
    exact List.forall_mem_map.mpr hquote

theorem spelled_of_readQuoted {c : Char} {cs value written rest : List Char} (hq : isQuote c = true)
    (h : readQuoted c cs = some (value, written, rest)) :
    Scanned.Spelled ⟨.text (String.ofList value), c :: written, rest⟩ := by
  obtain ⟨body, rfl, hescaped⟩ := exists_of_readQuoted hq h
  have hfragments : Scanned.fragments ⟨.text (String.ofList value), c :: (body ++ [c]), rest⟩ = [.literal c body] := by
    simp [Scanned.fragments]
  constructor
  · rw [hfragments]
    exact List.append_nil _
  · rw [hfragments]
    exact List.forall_mem_singleton.mpr ⟨hq, hescaped⟩
  · rw [hfragments]
    intro hpassed d
    obtain ⟨-, hbody⟩ := hpassed _ List.mem_cons_self
    exact run_literal hq hbody d

theorem Fragment.InWord.delimited {f : Fragment} (h : f.InWord) : f.Delimited := by
  cases f with
  | plain c => exact (isPlain_of_isWordChar h).2
  | literal q body => exact h.elim
  | subscript body => trivial

theorem spelled_of_readWord {c : Char} {cs word rest : List Char} (hc : IsWordChar c)
    (h : readWord .outside cs = some (word, rest)) :
    Scanned.Spelled ⟨.word (String.ofList (c :: word)), c :: word, rest⟩ := by
  obtain ⟨htext, hword⟩ := fragments_of_wordRest (wordRest_of_readWord h)
  have hfragments : Scanned.fragments ⟨.word (String.ofList (c :: word)), c :: word, rest⟩ =
      .plain c :: wordFragments .outside word := by
    show wordFragments .outside (c :: word) = _
    rw [wordFragments, if_neg hc.2]
  have hall : ∀ f ∈ .plain c :: wordFragments .outside word, f.InWord := List.forall_mem_cons.mpr ⟨hc, hword⟩
  have hflat : (Fragment.plain c :: wordFragments .outside word).flatMap Fragment.text = c :: word := by
    rw [List.flatMap_cons, htext]
    rfl
  constructor
  · rw [hfragments, hflat]
  · rw [hfragments]
    exact fun f hf => (hall f hf).delimited
  · rw [hfragments]
    intro hpassed d
    have := run_of_inWord hall hpassed d
    rwa [hflat] at this

theorem spelled_of_scan {offset : Nat} {c : Char} {cs : List Char} {s : Scanned} (h : scan offset c cs = .ok s) :
    s.Spelled := by
  cases scan_eq_ok_iff.mp h with
  | symbol hread => exact spelled_of_readSymbol? hread
  | text _ hq hread => exact spelled_of_readQuoted hq hread
  | word hsymbol hends hread => exact spelled_of_readWord ⟨hends, ne_open_of_readSymbol? hsymbol⟩ hread

/-! ### The parts of a text -/

theorem fragments_nil : fragments [] = [] := by
  rw [fragments.eq_def]

theorem fragments_of_isBlank {c : Char} (hc : isBlank c = true) (cs : List Char) :
    fragments (c :: cs) = .plain c :: fragments cs := by
  rw [fragments.eq_def]
  dsimp only
  rw [if_pos hc]

theorem fragments_of_scan_cons {offset : Nat} {c : Char} {cs : List Char} {s : Scanned} (hc : ¬isBlank c = true)
    (h : scan offset c cs = .ok s) : fragments (c :: cs) = s.fragments ++ fragments s.rest := by
  rw [fragments.eq_def]
  dsimp only
  rw [if_neg hc]
  split
  · next herror =>
    rw [scan_eq_ok_iff.mpr (scan_eq_ok_iff.mp h)] at herror
    cases herror
  · next hok =>
    rw [scan_eq_ok_iff.mpr (scan_eq_ok_iff.mp h)] at hok
    cases hok
    rfl

/-- A text with tokens consists of its parts, and the scan of words comes to the depth of the tokens if it passes each
    part. -/
theorem fragments_of_tokensFrom {offset : Nat} {cs : List Char} {ts : List PlacedToken}
    (h : tokensFrom offset cs = .ok ts) :
    (fragments cs).flatMap Fragment.text = cs ∧ (∀ f ∈ fragments cs, f.Delimited) ∧
      ((∀ f ∈ fragments cs, f.Passed) → ∀ d,
        run .ofWords ⟨d, none⟩ cs = (depthAfter d ts).map fun e => ⟨e, none⟩) := by
  -- The induction is that of the lexer, over blanks and lexemes.
  fun_induction tokensFrom offset cs generalizing ts with
  | case1 =>
    cases h
    rw [fragments_nil]
    exact ⟨rfl, (fun _ hf => (List.not_mem_nil hf).elim), fun _ _ => rfl⟩
  | case2 offset c rest hc ih =>
    obtain ⟨htext, hmem, hrun⟩ := ih h
    have hplain := isPlain_of_isBlank hc
    have hquote : isQuote c = false := by
      have := hplain.1
      simp only [Brackets.isPlain, Bool.and_eq_true, Bool.not_eq_true'] at this
      exact this.1.1
    rw [fragments_of_isBlank hc, List.flatMap_cons, htext]
    refine ⟨rfl, List.forall_mem_cons.mpr ⟨hquote, hmem⟩, fun hpassed d => ?_⟩
    rw [run, next_of_plain (sound_unquoted d) hplain.1, Option.bind_some]
    exact hrun (List.forall_mem_cons.mp hpassed).2 d
  | case3 offset c rest hc e hscan => cases h
  | case4 offset c rest hc s hscan e hrest ih => cases h
  | case5 offset c rest hc s hscan tokens hrest ih =>
    cases h
    obtain ⟨htext, hmem, hrun⟩ := ih hrest
    obtain ⟨htext', hmem', hrun'⟩ := spelled_of_scan hscan
    have hsplit : c :: rest = s.lexeme ++ s.rest := (eq_of_scan hscan).1
    rw [fragments_of_scan_cons hc hscan, List.flatMap_append, htext, htext', List.forall_mem_append]
    refine ⟨hsplit.symm, ⟨hmem', hmem⟩, fun hpassed d => ?_⟩
    obtain ⟨hpassed', hpassed⟩ := List.forall_mem_append.mp hpassed
    rw [hsplit, run_append, hrun' hpassed', depthAfter]
    cases s.token.depthAfter d with
    | none => rfl
    | some e => exact hrun hpassed e

/-- A predicate that is accepted is closed if the scan of words passes each of its parts. -/
theorem closed_of_parse {source : String} {p : Predicate} (h : parse source = .ok p)
    (hpassed : ∀ f ∈ fragments source.toList, f.Passed) : Closed .ofWords source.toList := by
  obtain ⟨ts, hts, h⟩ := Except.bind_eq_ok_iff.mp h
  obtain ⟨e, hexpr, -⟩ := Except.bind_eq_ok_iff.mp h
  have := (fragments_of_tokensFrom hts).2.2 hpassed 0
  rwa [depthAfter_of_parseAll hexpr] at this

theorem fragments_of_parse {source : String} {p : Predicate} (h : parse source = .ok p) :
    (fragments source.toList).flatMap Fragment.text = source.toList ∧ ∀ f ∈ fragments source.toList, f.Delimited := by
  obtain ⟨ts, hts, -⟩ := Except.bind_eq_ok_iff.mp h
  obtain ⟨htext, hmem, -⟩ := fragments_of_tokensFrom hts
  exact ⟨htext, hmem⟩

/-! ### Where the scan of words is outside -/

/-- The scan is in quotes or in brackets everywhere inside a part. -/
theorem Fragment.Passed.run_ne_outside {f : Fragment} (hf : f.Passed) {front back : List Char}
    (htext : f.text = front ++ back) (hfront : front ≠ []) (hback : back ≠ []) (d : Nat) :
    run .ofWords ⟨d, none⟩ front ≠ some outside := by
  obtain ⟨c, front, rfl⟩ := List.exists_cons_of_ne_nil hfront
  -- More of the part follows, so that its last character is not reached.
  have hbegins : ∀ {body : List Char} {e : Char}, body ++ [e] = front ++ back → front <+: body := fun he =>
    (List.prefix_concat_iff.mp ⟨back, he.symm⟩).resolve_left fun hall => by
      rw [hall] at he
      exact hback (List.self_eq_append_right.mp he)
  cases f with
  | plain c' =>
    obtain ⟨-, hnil⟩ := List.cons.inj htext
    exact (hback (List.append_eq_nil_iff.mp hnil.symm).2).elim
  | literal q body =>
    obtain ⟨hq, hbody⟩ := hf
    obtain ⟨rfl, hrest⟩ := List.cons.inj htext
    have hin := run_quoted (b := .ofWords) (fun hmem => hbody ((hbegins hrest).subset hmem)) d
    rw [run, next_quote (b := .ofWords) hq rfl, Option.bind_some, hin]
    intro hout
    cases hout
  | subscript body =>
    obtain ⟨rfl, hrest⟩ := List.cons.inj htext
    obtain ⟨mid, rfl⟩ := hbegins hrest
    obtain ⟨t, ht, -⟩ := run_of_append hf
    have hin : run .ofWords ⟨0 + (d + 1), none⟩ front = some ⟨t.depth + (d + 1), t.quote⟩ := run_deeper rfl (d + 1) ht
    have hopen : next .ofWords ⟨d, none⟩ '[' = some ⟨d + 1, none⟩ := rfl
    rw [Nat.zero_add] at hin
    rw [run, hopen, Option.bind_some, hin]
    intro hout
    cases congrArg Nesting.depth (Option.some.inj hout)

theorem exists_of_next_plain {c : Char} (hc : isQuote c = false) {d : Nat} {t : Nesting}
    (h : next .ofWords ⟨d, none⟩ c = some t) : ∃ e, t = ⟨e, none⟩ := by
  simp only [next, hc, Bool.false_and, Bool.false_eq_true, if_false] at h
  split at h
  · cases h
    exact ⟨_, rfl⟩
  · split at h
    · split at h
      · cases h
      · cases h
        exact ⟨_, rfl⟩
    · cases h
      exact ⟨_, rfl⟩

/-- Where the scan is outside, no part is cut in two. -/
theorem exists_split_of_run {fs : List Fragment} (hpassed : ∀ f ∈ fs, f.Passed) {front back : List Char}
    (htext : fs.flatMap Fragment.text = front ++ back) {d : Nat} (hout : run .ofWords ⟨d, none⟩ front = some outside) :
    ∃ as bs, fs = as ++ bs ∧ as.flatMap Fragment.text = front ∧ bs.flatMap Fragment.text = back := by
  induction fs generalizing front d with
  | nil =>
    obtain ⟨rfl, rfl⟩ := List.append_eq_nil_iff.mp htext.symm
    exact ⟨[], [], rfl, rfl, rfl⟩
  | cons f fs ih =>
    obtain ⟨hf, hfs⟩ := List.forall_mem_cons.mp hpassed
    rw [List.flatMap_cons] at htext
    rcases List.append_eq_append_iff.mp htext with ⟨mid, rfl, hmid⟩ | ⟨mid, hmid, rfl⟩
    · -- The part ends before the place: the scan has passed it.
      obtain ⟨t, ht, hout⟩ := run_of_append hout
      have hstep : ∃ e, t = ⟨e, none⟩ := by
        cases f with
        | plain c =>
          have hnext : next .ofWords ⟨d, none⟩ c = some t := by simpa [Fragment.text, run] using ht
          exact exists_of_next_plain hf hnext
        | literal q body =>
          obtain ⟨hq, hbody⟩ := hf
          exact ⟨d, (Option.some.inj ((run_literal hq hbody d).symm.trans ht)).symm⟩
        | subscript body => exact ⟨d, (Option.some.inj ((run_subscript hf d).symm.trans ht)).symm⟩
      obtain ⟨e, rfl⟩ := hstep
      obtain ⟨as, bs, rfl, hfront, hback⟩ := ih hfs hmid hout
      exact ⟨f :: as, bs, rfl, by rw [List.flatMap_cons, hfront], hback⟩
    · cases hempty : front with
      | nil => exact ⟨[], f :: fs, rfl, rfl, by rw [List.flatMap_cons, hmid, hempty]; rfl⟩
      | cons c rest =>
        have hne : front ≠ [] := by rw [hempty]; exact List.cons_ne_nil c rest
        have hmidnil : mid = [] := by
          by_contra hmidne
          exact hf.run_ne_outside hmid hne hmidne d hout
        rw [hmidnil, List.append_nil] at hmid
        refine ⟨[f], fs, rfl, ?_, ?_⟩
        · rw [List.flatMap_singleton, hmid, hempty]
        · rw [hmidnil]
          rfl

end Predicate

end ClusterQuery
