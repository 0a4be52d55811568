import ClusterQuery.Proofs.Predicate.Completeness
import ClusterQuery.Proofs.Predicate.Identifiers
import ClusterQuery.Proofs.Predicate.Tiling

/-! Words in the texts of predicates. Whatever ends it, a word is read as one token, and every word that is read has the
    text of a word and begins with no subscript. Of these the identifiers are those that are no keywords and do not begin
    like numbers. -/

namespace ClusterQuery

namespace Predicate

variable {offset : Nat} {c q : Char} {cs rest body : List Char}

/-! ### The texts of words -/

theorem wordText_of_isWordChar (h : ∀ c ∈ cs, IsWordChar c) : WordText cs := by
  induction cs with
  | nil => exact .nil
  | cons c cs ih =>
    obtain ⟨hc, hcs⟩ := List.forall_mem_cons.mp h
    exact .char hc (ih hcs)

theorem WordText.append {ds : List Char} (h : WordText cs) (hds : WordText ds) : WordText (cs ++ ds) := by
  induction h with
  | nil => exact hds
  | char hc _ ih => exact .char hc ih
  | @subscript body cs hbody _ ih =>
    rw [List.cons_append, List.append_assoc]
    exact .subscript hbody ih

theorem readWord_of_endsWord (h : ∀ c ∈ rest.head?, endsWord c = true) : readWord .outside rest = some ([], rest) := by
  cases rest with
  | nil => rfl
  | cons c rest => exact if_pos (h c rfl)

theorem readWord_quoted (h : q ∉ cs) (rest : List Char) :
    readWord (.subscript (some q)) (cs ++ q :: rest) =
      (readWord (.subscript none) rest).map fun (word, rest) => (cs ++ q :: word, rest) := by
  induction cs with
  | nil => simp [readWord]
  | cons c cs ih =>
    have hne : c ≠ q := fun he => h (he ▸ List.mem_cons_self)
    rw [List.cons_append, readWord]
    dsimp only
    rw [if_neg hne, ih fun hmem => h (List.mem_cons_of_mem c hmem), Option.map_map]
    rfl

theorem readWord_subscript (h : SubscriptText body) (rest : List Char) :
    readWord (.subscript none) (body ++ ']' :: rest) =
      (readWord .outside rest).map fun (word, rest) => (body ++ ']' :: word, rest) := by
  induction h with
  | nil => rfl
  | @char c cs hc _ ih =>
    rw [List.cons_append, readWord]
    dsimp only
    rw [if_neg (Bool.eq_false_iff.mp hc.1), if_neg hc.2, ih, Option.map_map]
    rfl
  | @quoted q body cs hq hbody _ ih =>
    rw [List.cons_append, List.append_assoc, List.cons_append, readWord]
    dsimp only
    rw [if_pos hq, readWord_quoted hbody, ih, Option.map_map, Option.map_map]
    simp [Function.comp_def]

/-- The text of a word is read up to what ends it. -/
theorem readWord_append (h : WordText cs) (hrest : ∀ c ∈ rest.head?, endsWord c = true) :
    readWord .outside (cs ++ rest) = some (cs, rest) := by
  induction h with
  | nil => exact readWord_of_endsWord hrest
  | @char c cs hc _ ih =>
    rw [List.cons_append, readWord, if_neg (Bool.eq_false_iff.mp hc.1), if_neg hc.2, ih]
    rfl
  | @subscript body cs hbody _ ih =>
    rw [List.cons_append, List.append_assoc, List.cons_append, readWord, if_neg (by decide), if_pos rfl,
      readWord_subscript hbody, ih]
    rfl

/-! ### Tokens one after the other -/

theorem tokensFrom_nil (offset : Nat) : tokensFrom offset [] = .ok [] := by rw [tokensFrom.eq_def]

theorem tokensFrom_blank (hc : isBlank c = true) (offset : Nat) (rest : List Char) :
    tokensFrom offset (c :: rest) = tokensFrom (offset + c.utf8Size) rest := by
  rw [tokensFrom.eq_def]
  exact if_pos hc

theorem tokensFrom_of_scan {s : Scanned} (hc : isBlank c = false) (h : scan offset c cs = .ok s) :
    tokensFrom offset (c :: cs) = (tokensFrom (offset + byteLength s.lexeme) s.rest).map (⟨s.token, offset⟩ :: ·) := by
  rw [tokensFrom.eq_def]
  dsimp only
  rw [if_neg (Bool.eq_false_iff.mp hc)]
  split
  · next herror =>
    rw [h] at herror
    cases herror
  · next hok =>
    rw [h] at hok
    cases hok
    cases tokensFrom (offset + byteLength s.lexeme) s.rest <;> rfl

theorem readSymbol?_eq_none (hc : IsWordChar c) (cs : List Char) : readSymbol? (c :: cs) = none := by
  have hheads : ∀ spelling ∈ Symbol.spellings, spelling.1 ≠ [] ∧ ∀ d ∈ spelling.1.head?, ¬(endsWord d = false ∧ d ≠ '[') := by
    decide
  refine List.findSome?_eq_none_iff.mpr fun spelling hmem => ?_
  obtain ⟨hne, hhead⟩ := hheads spelling hmem
  obtain ⟨d, start, hstart⟩ := List.exists_cons_of_ne_nil hne
  have hdc : d ≠ c := fun he => hhead d (by rw [hstart]; rfl) (he ▸ hc)
  have hdrop : dropPrefix? spelling.1 (c :: cs) = none := by
    rw [hstart]
    exact if_neg hdc
  show (dropPrefix? spelling.1 (c :: cs)).map _ = none
  rw [hdrop]
  rfl

theorem isBlank_of_isWordChar (hc : IsWordChar c) : isBlank c = false := by
  have hends := hc.1
  simp only [endsWord, Bool.or_eq_false_iff] at hends
  exact hends.1.1

theorem tokensFrom_word (hc : IsWordChar c) (hcs : WordText cs) (hrest : ∀ c ∈ rest.head?, endsWord c = true) (offset : Nat) :
    tokensFrom offset (c :: cs ++ rest) =
      (tokensFrom (offset + byteLength (c :: cs)) rest).map (⟨.word (String.ofList (c :: cs)), offset⟩ :: ·) := by
  refine @tokensFrom_of_scan offset c (cs ++ rest) ⟨.word (String.ofList (c :: cs)), c :: cs, rest⟩ (isBlank_of_isWordChar hc) ?_
  exact scan_eq_ok_iff.mpr (.word (readSymbol?_eq_none hc _) hc.1 (readWord_append hcs hrest))

theorem exists_of_scan_word {s : Scanned} {w : String} (h : scan offset c cs = .ok s) (hw : s.token = .word w) :
    ∃ d ds, w.toList = d :: ds ∧ IsWordChar d ∧ WordText ds := by
  cases scan_eq_ok_iff.mp h with
  | symbol hsymbol =>
    obtain ⟨⟨spelling, symbol⟩, -, hread⟩ := List.exists_of_findSome?_eq_some hsymbol
    obtain ⟨rest, -, he⟩ := Option.map_eq_some_iff.mp hread
    cases he
    cases hw
  | text _ _ _ => cases hw
  | @word word _ hsymbol hends hread =>
    cases hw
    exact ⟨c, word, String.toList_ofList, ⟨hends, ne_open_of_readSymbol? hsymbol⟩, reads_of_readWord hread⟩

theorem exists_of_mem_tokensFrom {ts : List PlacedToken} {w : String} (h : tokensFrom offset cs = .ok ts)
    (hw : .word w ∈ tokensOf ts) : ∃ d ds, w.toList = d :: ds ∧ IsWordChar d ∧ WordText ds := by
  fun_induction tokensFrom offset cs generalizing ts with
  | case1 =>
    cases h
    cases hw
  | case2 offset c rest hc ih => exact ih h hw
  | case3 => cases h
  | case4 => cases h
  | case5 offset c rest hc s hscan tokens hrest ih =>
    cases h
    rcases List.mem_cons.mp hw with hw | hw
    · exact exists_of_scan_word hscan hw.symm
    · exact ih hrest hw

/-! ### Identifiers -/

/-- A name that some predicate asks for. -/
def IsIdentifier (x : String) : Prop := ∃ source p, parse source = .ok p ∧ x ∈ p.identifiers

/-- The identifiers of an expression are words among its tokens that are no keywords. -/
theorem word_mem_of_derives {Name : String → Prop} {k : Category} {us : List Token} {e : Expr} (h : Derives Name k us e) {x : String}
    (hx : x ∈ e.mentions) : .word x ∈ us ∧ (∀ k ∈ keywords, isKeyword k (.word x) = false) ∧ Name x := by
  -- Tokens of a part are tokens of the whole.
  have hmono {us vs : List Token} {P : Prop} (h : .word x ∈ us ∧ P) (hsub : ∀ t ∈ us, t ∈ vs) : .word x ∈ vs ∧ P := ⟨hsub _ h.1, h.2⟩
  have hleft {us vs : List Token} : ∀ t ∈ us, t ∈ us ++ vs := fun _ => List.mem_append_left vs
  have hright {us vs : List Token} : ∀ t ∈ vs, t ∈ us ++ vs := fun _ => List.mem_append_right us
  have htail {vs : List Token} {u : Token} : ∀ t ∈ vs, t ∈ u :: vs := fun _ => List.mem_cons_of_mem u
  induction h with
  | ofConjunction _ ih | ofNegation _ ih | ofTest _ ih | ofOperand _ ih | ofSetOperand _ _ _ ih => exact ih hx
  | or _ _ _ iha ihb | and _ _ _ iha ihb | compare _ _ _ iha ihb =>
    rcases List.mem_append.mp hx with hx | hx
    · exact hmono (iha hx) hleft
    · exact hmono (ihb hx) fun t ht => hright t (htail t ht)
  | not _ _ ih => exact hmono (ih hx) htail
  | regex _ _ ih | isNull _ _ _ _ ih | like _ _ _ _ _ ih => exact hmono (ih hx) hleft
  | isIn _ _ _ _ iha ihset =>
    rcases List.mem_append.mp hx with hx | hx
    · exact hmono (iha hx) hleft
    · exact hmono (ihset hx) fun t ht => hright t (hright t (htail t ht))
  | between _ _ _ _ _ _ iha ihlow ihhigh =>
    rcases List.mem_append.mp hx with hx | hx
    · rcases List.mem_append.mp hx with hx | hx
      · exact hmono (iha hx) hleft
      · exact hmono (ihlow hx) fun t ht => hright t (hright t (htail t (hleft t ht)))
    · exact hmono (ihhigh hx) fun t ht => hright t (hright t (htail t (hright t (htail t ht))))
  | inBrackets _ ih | inParens _ ih | parens _ ih | list _ ih => exact hmono (ih hx) fun t ht => htail t (hleft t ht)
  | call _ _ ih => exact hmono (ih hx) fun t ht => htail t (htail t (hleft t ht))
  | noItem => cases hx
  | lastItem _ ih => exact ih (by simpa [Expr.mentions, Expr.mentionsOf] using hx)
  | item _ _ ih ihmore =>
    rcases List.mem_append.mp hx with hx | hx
    · exact hmono (ih hx) hleft
    · exact hmono (ihmore hx) fun t ht => hright t (htail t ht)
  | text s => cases hx
  | word h =>
    cases h with
    | name hw hname =>
      cases List.mem_singleton.mp hx
      exact ⟨List.mem_cons_self, hw, hname⟩
    | _ => cases hx

/-- A word that is no keyword and does not begin like a number is read as an identifier. -/
theorem parse_of_name {x : String} (hx : x.toList = c :: cs) (hc : IsWordChar c) (htext : WordText cs)
    (hkeyword : ∀ k ∈ keywords, isKeyword k (.word x) = false) (hnumeric : startsNumeric x = false) :
    parse x = .ok ⟨x, .ident x⟩ := by
  have hrest := @tokensFrom_word c cs [] hc htext (fun _ h => nomatch h) 0
  rw [List.append_nil, ← hx, String.ofList_toList, tokensFrom_nil] at hrest
  exact parse_of_tree hrest (.ofConjunction (.ofNegation (.ofTest (.ofOperand (.word (.name hkeyword hnumeric))))))

/-- Identifiers are words that begin with no subscript, are no keywords and do not begin like numbers. -/
theorem isIdentifier_iff {x : String} : IsIdentifier x ↔ (∃ c cs, x.toList = c :: cs ∧ IsWordChar c ∧ WordText cs) ∧
    (∀ k ∈ keywords, isKeyword k (.word x) = false) ∧ startsNumeric x = false := by
  constructor
  · rintro ⟨source, p, hp, hx⟩
    obtain ⟨ts, hts, h⟩ := Except.bind_eq_ok_iff.mp hp
    obtain ⟨e, he, h⟩ := Except.bind_eq_ok_iff.mp h
    cases h
    have htree := given_parseOr_eq_some_iff.mp (parseAll_eq_ok_iff.mp he)
    obtain ⟨hmem, hname⟩ := word_mem_of_derives htree (Expr.mem_identifiers.mp hx)
    exact ⟨exists_of_mem_tokensFrom hts hmem, hname⟩
  · rintro ⟨⟨c, cs, hcs, hc, htext⟩, hkeyword, hnumeric⟩
    exact ⟨x, _, parse_of_name hcs hc htext hkeyword hnumeric, Expr.mem_identifiers.mpr List.mem_cons_self⟩

/-- A word that begins with a letter and has a character that no keyword has is an identifier. -/
theorem isIdentifier_of_letter (hletter : isAsciiLetter c = true) (htext : WordText (c :: cs))
    (hmixed : ∃ d ∈ c :: cs, isTitleChar d = false) : IsIdentifier (String.ofList (c :: cs)) := by
  refine isIdentifier_iff.mpr ⟨?_, fun k hk => Bool.eq_false_iff.mpr fun hkeyword => ?_, Bool.eq_false_iff.mpr fun hnumeric => ?_⟩
  · cases htext with
    | char hc htext => exact ⟨c, cs, String.toList_ofList, hc, htext⟩
    | subscript => cases hletter
  · have hletters : ∀ k ∈ keywords, (lowerText k.toList).all isAsciiLetter = true ∧ lowerText k.toList = k.toList := by decide
    have hsame : sameIgnoringCase (c :: cs) k.toList = true := by
      rw [sameIgnoringCase, (hletters k hk).2, ← lowerName_eq_of_isKeyword hkeyword, lowerName, String.toList_ofList,
        String.toList_ofList, beq_self_eq_true]
    obtain ⟨d, hd, hnot⟩ := hmixed
    rw [isTitleChar_of_isAsciiLetter (isAsciiLetter_of_sameIgnoringCase hsame (hletters k hk).1 d hd)] at hnot
    cases hnot
  · obtain ⟨d, ds, hds, hd⟩ := head_of_startsNumeric hnumeric
    rw [String.toList_ofList] at hds
    cases hds
    rw [hletter] at hd
    cases hd

/-- A call of a function with an identifier. -/
def callText (f : Function) (x : String) : String := String.ofList (f.name.toList ++ '(' :: (x.toList ++ [')']))

namespace IsIdentifier

variable {x : String}

theorem tokensFrom_append (h : IsIdentifier x) (hrest : ∀ c ∈ rest.head?, endsWord c = true) (offset : Nat) :
    tokensFrom offset (x.toList ++ rest) =
      (tokensFrom (offset + byteLength x.toList) rest).map (⟨.word x, offset⟩ :: ·) := by
  obtain ⟨⟨c, cs, hx, hc, htext⟩, -, -⟩ := isIdentifier_iff.mp h
  rw [hx, tokensFrom_word hc htext hrest, ← hx, String.ofList_toList]

theorem tree (h : IsIdentifier x) : Tree .operand [.word x] (.ident x) := by
  obtain ⟨-, hkeyword, hnumeric⟩ := isIdentifier_iff.mp h
  exact .word (.name hkeyword hnumeric)

theorem wordExpr_eq (h : IsIdentifier x) (offset : Nat) : wordExpr offset x = .ok (.ident x) := by
  obtain ⟨-, hkeyword, hnumeric⟩ := isIdentifier_iff.mp h
  exact wordExpr_of_name hkeyword hnumeric

/-- An identifier alone is a predicate. -/
theorem parse_eq (h : IsIdentifier x) : parse x = .ok ⟨x, .ident x⟩ := by
  obtain ⟨⟨c, cs, hx, hc, htext⟩, hkeyword, hnumeric⟩ := isIdentifier_iff.mp h
  exact parse_of_name hx hc htext hkeyword hnumeric

theorem parse_callText (h : IsIdentifier x) (f : Function) : parse (callText f x) = .ok ⟨callText f x, .call f (.ident x)⟩ := by
  have hname : ∃ c cs, f.name.toList = c :: cs ∧ IsWordChar c ∧ ∀ c ∈ cs, IsWordChar c := by
    cases f <;> exact ⟨_, _, rfl, ⟨rfl, by decide⟩, by unfold IsWordChar; decide⟩
  obtain ⟨c, cs, hname, hc, hcs⟩ := hname
  have hopen (offset : Nat) (rest : List Char) : scan offset '(' rest = .ok ⟨.symbol .leftParen, ['('], rest⟩ :=
    scan_eq_ok_iff.mpr (.symbol rfl)
  have hclose (offset : Nat) : tokensFrom offset [')'] = .ok [⟨.symbol .rightParen, offset⟩] := by
    have hscan : scan offset ')' [] = .ok ⟨.symbol .rightParen, [')'], []⟩ := scan_eq_ok_iff.mpr (.symbol rfl)
    rw [tokensFrom_of_scan rfl hscan, tokensFrom_nil]
    rfl
  obtain ⟨ts, hts, htokens⟩ : ∃ ts, tokens (callText f x).toList = .ok ts ∧
      tokensOf ts = .word f.name :: .symbol .leftParen :: ([.word x] ++ [.symbol .rightParen]) := by
    have hends : ∀ d ∈ ('(' :: (x.toList ++ [')'])).head?, endsWord d = true := by
      rintro d ⟨⟩
      rfl
    have hword := tokensFrom_word hc (wordText_of_isWordChar hcs) hends 0
    rw [tokensFrom_of_scan rfl (hopen _ _), h.tokensFrom_append (fun c hc => by cases hc; rfl), hclose, ← hname,
      String.ofList_toList] at hword
    rw [callText, String.toList_ofList]
    exact ⟨_, hword, rfl⟩
  refine parse_of_tree hts ?_
  rw [htokens]
  have hnamed : Function.named? f.name = some f := by cases f <;> decide
  have hargument : Tree .disjunction [.word x] (.ident x) := .ofConjunction (.ofNegation (.ofTest (.ofOperand h.tree)))
  exact .ofConjunction (.ofNegation (.ofTest (.ofOperand (.call hnamed hargument))))

end IsIdentifier

end Predicate

end ClusterQuery
