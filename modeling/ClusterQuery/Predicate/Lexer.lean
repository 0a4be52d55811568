import ClusterQuery.Path.Brackets
import ClusterQuery.Predicate.Error
import ClusterQuery.Text.Blank
import ClusterQuery.Text.ByteLength
import ClusterQuery.Text.Split

/-!
The tokens of a text. Blanks separate tokens and belong to none; every other character belongs to one, and the
lexeme of a token is the part of the text that it was read from. A word runs to a blank or an operator, and
the subscripts in it are parts of it whatever they hold.
-/

namespace ClusterQuery

namespace Predicate

/-- A token, its lexeme and the text after it. -/
structure Scanned where
  token : Token
  lexeme : List Char
  rest : List Char

/-- The symbol that a text begins with. -/
def readSymbol? (cs : List Char) : Option Scanned :=
  Symbol.spellings.findSome? fun (spelling, s) => (dropPrefix? spelling cs).map fun rest => ⟨.symbol s, spelling, rest⟩

/-- The rest of a quoted text: what it stands for, how it is written up to and with the closing quote, and the
    text after it. A backslash makes the next character stand for itself. -/
def readQuoted (quote : Char) : List Char → Option (List Char × List Char × List Char)
  | [] => none
  | '\\' :: c :: cs =>
    (readQuoted quote cs).map fun (value, written, rest) => (c :: value, '\\' :: c :: written, rest)
  | c :: cs =>
    if c = quote then some ([], [c], cs)
    else (readQuoted quote cs).map fun (value, written, rest) => (c :: value, c :: written, rest)

/-- The characters that end a word: operators, brackets and quotes. -/
def endsWord (c : Char) : Bool :=
  isBlank c || c == ']' || ['(', ')', ',', '=', '!', '<', '>', '~', '&', '|', '\'', '"'].contains c

/-- Where in a word a character stands. -/
inductive WordPlace where
  | outside
  /-- In a subscript, and maybe in quotes there. -/
  | subscript (quote : Option Char)

/-- The rest of a word, and the text after it; nothing if a subscript is left open. -/
def readWord : WordPlace → List Char → Option (List Char × List Char)
  | .outside, [] => some ([], [])
  | .subscript _, [] => none
  | .outside, c :: cs =>
    if endsWord c then some ([], c :: cs)
    else
      (readWord (if c = '[' then .subscript none else .outside) cs).map fun (word, rest) => (c :: word, rest)
  | .subscript quote, c :: cs =>
    let place : WordPlace := match quote with
      | some q => .subscript (if c = q then none else some q)
      | none => if isQuote c then .subscript (some c) else if c = ']' then .outside else .subscript none
    (readWord place cs).map fun (word, rest) => (c :: word, rest)

/-- The token that a text begins with; the text is `offset` bytes into the source and does not begin with a
    blank. -/
def scan (offset : Nat) (c : Char) (cs : List Char) : Except Error Scanned :=
  match readSymbol? (c :: cs) with
  | some scanned => .ok scanned
  | none =>
    if isQuote c then
      match readQuoted c cs with
      | some (value, written, rest) => .ok ⟨.text (String.ofList value), c :: written, rest⟩
      | none => .error (.unterminatedText offset)
    else if endsWord c then .error (.unexpectedChar offset c)
    else
      match readWord .outside cs with
      | some (word, rest) => .ok ⟨.word (String.ofList (c :: word)), c :: word, rest⟩
      | none => .error (.unbalancedBracket offset)

theorem eq_of_readSymbol? {cs : List Char} {s : Scanned} (h : readSymbol? cs = some s) :
    cs = s.lexeme ++ s.rest ∧ s.lexeme ≠ [] := by
  obtain ⟨⟨spelling, symbol⟩, hmem, h⟩ := List.exists_of_findSome?_eq_some h
  obtain ⟨rest, hrest, he⟩ := Option.map_eq_some_iff.1 h
  cases he
  refine ⟨dropPrefix?_eq_some.1 hrest, ?_⟩
  have : ∀ e ∈ Symbol.spellings, e.1 ≠ [] := by decide
  exact this _ hmem

theorem eq_of_readQuoted {quote : Char} {cs value written rest : List Char}
    (h : readQuoted quote cs = some (value, written, rest)) : cs = written ++ rest := by
  fun_induction readQuoted quote cs generalizing value written with
  | case1 => cases h
  | case2 c cs ih =>
    obtain ⟨⟨value', written', rest'⟩, h', he⟩ := Option.map_eq_some_iff.1 h
    cases he
    simp [ih h']
  | case3 =>
    cases h
    rfl
  | case4 c cs _ _ ih =>
    obtain ⟨⟨value', written', rest'⟩, h', he⟩ := Option.map_eq_some_iff.1 h
    cases he
    simp [ih h']

theorem eq_of_readWord {place : WordPlace} {cs word rest : List Char} (h : readWord place cs = some (word, rest)) :
    cs = word ++ rest := by
  induction cs generalizing place word with
  | nil =>
    cases place with
    | outside =>
      cases h
      rfl
    | subscript quote => cases h
  | cons c cs ih =>
    have step : ∀ {place' : WordPlace},
        (readWord place' cs).map (fun (word, rest) => (c :: word, rest)) = some (word, rest) →
        c :: cs = word ++ rest := by
      intro place' h
      obtain ⟨⟨word', rest'⟩, h', he⟩ := Option.map_eq_some_iff.1 h
      cases he
      simp [ih h']
    cases place with
    | outside =>
      simp only [readWord] at h
      split at h
      · cases h
        rfl
      · exact step h
    | subscript quote => exact step h

theorem endsWord_of_isQuote {c : Char} (h : isQuote c = true) : endsWord c = true := by
  rcases Bool.or_eq_true_iff.1 h with h | h <;> rw [beq_iff_eq.1 h] <;> rfl

/-- The ways in which a token is read. -/
inductive Scans (c : Char) (cs : List Char) : Scanned → Prop
  | symbol {s : Scanned} (h : readSymbol? (c :: cs) = some s) : Scans c cs s
  | text {value written rest : List Char} (hsymbol : readSymbol? (c :: cs) = none) (hq : isQuote c = true)
      (h : readQuoted c cs = some (value, written, rest)) : Scans c cs ⟨.text (String.ofList value), c :: written, rest⟩
  | word {word rest : List Char} (hsymbol : readSymbol? (c :: cs) = none) (hends : endsWord c = false)
      (h : readWord .outside cs = some (word, rest)) : Scans c cs ⟨.word (String.ofList (c :: word)), c :: word, rest⟩

/-- A token is read in one of these ways, wherever the text stands in the source. -/
theorem scan_eq_ok_iff {offset : Nat} {c : Char} {cs : List Char} {s : Scanned} : scan offset c cs = .ok s ↔ Scans c cs s := by
  constructor
  · intro h
    unfold scan at h
    split at h
    · next hsymbol =>
      cases h
      exact .symbol hsymbol
    · next hsymbol =>
      split at h
      · next hq =>
        split at h
        · next hread =>
          cases h
          exact .text hsymbol hq hread
        · cases h
      · split at h
        · cases h
        · next hends =>
          split at h
          · next hread =>
            cases h
            exact .word hsymbol (Bool.eq_false_iff.2 hends) hread
          · cases h
  · intro h
    unfold scan
    cases h with
    | symbol h => rw [h]
    | text hsymbol hq h =>
      rw [hsymbol, h]
      exact if_pos hq
    | word hsymbol hends h =>
      have hq : isQuote c ≠ true := fun hq => Bool.eq_false_iff.1 hends (endsWord_of_isQuote hq)
      rw [hsymbol, h]
      dsimp only
      rw [if_neg hq, if_neg (Bool.eq_false_iff.1 hends)]

/-- A token's lexeme is not empty, and the text is the lexeme and the rest. -/
theorem eq_of_scan {offset : Nat} {c : Char} {cs : List Char} {s : Scanned} (h : scan offset c cs = .ok s) :
    c :: cs = s.lexeme ++ s.rest ∧ s.lexeme ≠ [] := by
  cases scan_eq_ok_iff.1 h with
  | symbol hread => exact eq_of_readSymbol? hread
  | text _ _ hread => exact ⟨congrArg (c :: ·) (eq_of_readQuoted hread), List.cons_ne_nil _ _⟩
  | word _ _ hread => exact ⟨congrArg (c :: ·) (eq_of_readWord hread), List.cons_ne_nil _ _⟩

theorem length_lt_of_scan {offset : Nat} {c : Char} {cs : List Char} {s : Scanned} (h : scan offset c cs = .ok s) :
    s.rest.length < (c :: cs).length := by
  obtain ⟨he, hne⟩ := eq_of_scan h
  rw [he]
  have := List.length_pos_iff.2 hne
  simp
  omega

/-- The tokens of a text that is `offset` bytes into the source. -/
def tokensFrom (offset : Nat) (cs : List Char) : Except Error (List PlacedToken) :=
  match cs with
  | [] => .ok []
  | c :: rest =>
    if isBlank c then tokensFrom (offset + c.utf8Size) rest
    else
      match _h : scan offset c rest with
      | .error e => .error e
      | .ok s =>
        match tokensFrom (offset + byteLength s.lexeme) s.rest with
        | .error e => .error e
        | .ok tokens => .ok (⟨s.token, offset⟩ :: tokens)
termination_by cs.length
decreasing_by
  · simp
  · exact length_lt_of_scan _h

/-- The tokens of a source. -/
def tokens (cs : List Char) : Except Error (List PlacedToken) := tokensFrom 0 cs

end Predicate

end ClusterQuery
