import ClusterQuery.Number.Bounded
import ClusterQuery.Pattern.Tree
import ClusterQuery.Text.Split

/-!
Reading what follows a backslash in a pattern: characters by their codes, classes, properties and positions.
Where blanks do not count, they may stand between the parts of an escape.
-/

namespace ClusterQuery

namespace PatternText

/-- What a reader found, and the text after it, which is shorter than the text it began with. -/
abbrev Found (α : Type) (cs : List Char) := { r : α × List Char // r.2.length < cs.length }

/-! ### Blanks and comments -/

/-- Drops blanks, and comments from `#` to the end of the line. -/
def dropPadding (inComment : Bool) : List Char → List Char
  | [] => []
  | c :: cs =>
    if inComment then dropPadding (c != '\n') cs
    else if isBlank c then dropPadding false cs
    else if c == '#' then dropPadding true cs
    else c :: cs

/-- Drops what does not count. -/
def skip (verbose : Bool) (cs : List Char) : List Char := if verbose then dropPadding false cs else cs

theorem dropPadding_length_le (inComment : Bool) (cs : List Char) :
    (dropPadding inComment cs).length ≤ cs.length := by
  induction cs generalizing inComment with
  | nil => simp [dropPadding]
  | cons c cs ih =>
    simp only [dropPadding]
    have h1 := ih (c != '\n')
    have h2 := ih false
    have h3 := ih true
    split
    · simp; omega
    · split
      · simp; omega
      · split
        · simp; omega
        · simp

theorem skip_length_le (verbose : Bool) (cs : List Char) : (skip verbose cs).length ≤ cs.length := by
  unfold skip
  split
  · exact dropPadding_length_le false cs
  · simp

theorem skip_length_lt (verbose : Bool) (c : Char) (cs : List Char) :
    (skip verbose cs).length < (c :: cs).length :=
  Nat.lt_succ_of_le (skip_length_le verbose cs)

theorem length_lt_of_skip {verbose : Bool} {c : Char} {cs rest : List Char} (h : skip verbose cs = c :: rest) :
    rest.length < cs.length := by
  have := skip_length_le verbose cs
  rw [h] at this
  exact this

theorem length_lt_cons (c : Char) (cs : List Char) : cs.length < (c :: cs).length := Nat.lt_succ_self _

/-! ### Characters by code -/

/-- The character with this code point. -/
def charOf? (n : Nat) : Option Char := if n.isValidChar then some (Char.ofNat n) else none

/-- The number that hexadecimal digits spell. -/
def hexNumber? (cs : List Char) : Option Nat :=
  cs.foldlM (fun n c => (hexValue? c).map (n * 16 + ·)) 0

/-- The character whose code these digits spell. -/
def coded? (digits : List Char) : Option Char := (hexNumber? digits).bind charOf?

/-- Reads a number of characters, with padding after each. -/
def readCount (verbose : Bool) : Nat → List Char → Option (List Char × List Char)
  | 0, cs => some ([], cs)
  | _ + 1, [] => none
  | n + 1, c :: cs => (readCount verbose n (skip verbose cs)).map fun (ds, rest) => (c :: ds, rest)

theorem length_le_of_readCount {verbose : Bool} {n : Nat} {cs ds rest : List Char}
    (h : readCount verbose n cs = some (ds, rest)) : rest.length ≤ cs.length := by
  induction n generalizing cs ds with
  | zero =>
    cases h
    exact Nat.le_refl _
  | succ n ih =>
    cases cs with
    | nil => cases h
    | cons c cs =>
      obtain ⟨⟨ds', rest'⟩, h', he⟩ := Option.map_eq_some_iff.1 h
      cases he
      have := ih h'
      have := skip_length_le verbose cs
      simp
      omega

/-- Reads up to a closing brace, without the padding in between. -/
def readBraced (verbose : Bool) (cs : List Char) : Option (Found (List Char) cs) :=
  match h : skip verbose cs with
  | [] => none
  | c :: rest =>
    have hle := length_lt_of_skip h
    if c = '\x7d' then some ⟨([], rest), hle⟩
    else
      match readBraced verbose rest with
      | some ⟨(inner, after), h'⟩ => some ⟨(c :: inner, after), by simp only at h' ⊢; omega⟩
      | none => none
termination_by cs.length
decreasing_by exact hle

/-- Reads the code of a character: some digits, or any number of them in braces. -/
def readCode (verbose : Bool) (digits : Nat) (cs : List Char) : Option (PatternChar × List Char) :=
  match skip verbose cs with
  | '\x7b' :: rest =>
    match readBraced verbose rest with
    | some ⟨(inner, after), _⟩ =>
      if inner.isEmpty then none else (coded? inner).map fun c => (⟨c, false⟩, skip verbose after)
    | none => none
  | rest =>
    match readCount verbose digits rest with
    | some (ds, after) => (coded? ds).map fun c => (⟨c, digits == 2⟩, after)
    | none => none

theorem length_le_of_readCode {verbose : Bool} {digits : Nat} {cs rest : List Char} {c : PatternChar}
    (h : readCode verbose digits cs = some (c, rest)) : rest.length ≤ cs.length := by
  have hskip := skip_length_le verbose cs
  unfold readCode at h
  split at h
  · next inner hr =>
    rw [hr] at hskip
    split at h
    · next digits after hlt _ =>
      split at h
      · cases h
      · obtain ⟨p, _, he⟩ := Option.map_eq_some_iff.1 h
        cases he
        have := skip_length_le verbose after
        simp at hlt hskip
        omega
    · cases h
  · split at h
    · next ds after hds =>
      obtain ⟨p, _, he⟩ := Option.map_eq_some_iff.1 h
      cases he
      have := length_le_of_readCount hds
      omega
    · cases h

/-! ### Escapes -/

/-- What an escape stands for. -/
inductive Escape where
  | char (c : PatternChar)
  | letter (k : LetterClass) (negated : Bool)
  | property (p : CharSet) (negated : Bool)
  | look (l : LookTree)

/-- Characters that mean something in patterns. -/
def isMeta (c : Char) : Bool :=
  ['\\', '.', '+', '*', '?', '(', ')', '|', '[', ']', '\x7b', '\x7d', '^', '$', '#', '&', '-', '~'].contains c

/-- Whether a backslash before a character makes it stand for itself. -/
def isEscapable (c : Char) : Bool :=
  isMeta c || (c.toNat < 0x80 && !isAsciiAlphanumeric c && c != '<' && c != '>')

/-- The text before and after the first occurrence of another. -/
def splitAt? (sep : List Char) : List Char → Option (List Char × List Char)
  | [] => none
  | c :: cs =>
    match dropPrefix? sep (c :: cs) with
    | some rest => some ([], rest)
    | none => (splitAt? sep cs).map fun (before, rest) => (c :: before, rest)

/-- The set of the text between the braces of a property, and whether it is named as what is left out. -/
def propertyInBraces? (cs : List Char) : Option (CharSet × Bool) :=
  match splitAt? ['!', '='] cs with
  | some (name, value) => (valueSet? name value).map (·, true)
  | none =>
    match splitFirst (· == ':') cs with
    | some (name, value) => (valueSet? name value).map (·, false)
    | none =>
      match splitFirst (· == '=') cs with
      | some (name, value) => (valueSet? name value).map (·, false)
      | none => (namedSet? cs).map (·, false)

/-- Reads the name of a property: one letter or a name in braces. -/
def readProperty (verbose negated : Bool) (cs : List Char) : Option (Escape × List Char) :=
  match skip verbose cs with
  | [] => none
  | '\x7b' :: rest =>
    match readBraced verbose rest with
    | some ⟨(inner, after), _⟩ =>
      (propertyInBraces? inner).map fun (p, reversed) => (.property p (negated != reversed), after)
    | none => none
  | c :: rest => (namedSet? [c]).map fun p => (.property p negated, skip verbose rest)

theorem length_le_of_readProperty {verbose negated : Bool} {cs rest : List Char} {e : Escape}
    (h : readProperty verbose negated cs = some (e, rest)) : rest.length ≤ cs.length := by
  have hskip := skip_length_le verbose cs
  unfold readProperty at h
  split at h
  · cases h
  · next inner hr =>
    rw [hr] at hskip
    split at h
    · next digits after hlt _ =>
      obtain ⟨p, _, he⟩ := Option.map_eq_some_iff.1 h
      cases he
      simp at hlt hskip
      omega
    · cases h
  · next c inner _ hr =>
    rw [hr] at hskip
    obtain ⟨p, _, he⟩ := Option.map_eq_some_iff.1 h
    cases he
    have := skip_length_le verbose inner
    simp at hskip
    omega

/-- Reads letters and hyphens, with padding after each. -/
def readEdgeName (verbose : Bool) (cs : List Char) : List Char × List Char :=
  match cs with
  | [] => ([], [])
  | c :: rest =>
    if isAsciiLetter c || c == '-' then
      have := skip_length_lt verbose c rest
      let (name, after) := readEdgeName verbose (skip verbose rest)
      (c :: name, after)
    else ([], c :: rest)
termination_by cs.length
decreasing_by exact this

theorem readEdgeName_length_le (verbose : Bool) (cs : List Char) :
    (readEdgeName verbose cs).2.length ≤ cs.length := by
  fun_induction readEdgeName verbose cs with
  | case1 => simp
  | case2 c rest _ _ name after he ih =>
    rw [he] at ih
    have := skip_length_le verbose rest
    simp at ih ⊢
    omega
  | case3 => simp

/-- The position with a name in braces. -/
def edgeNamed? (name : List Char) : Option LookTree :=
  match String.ofList name with
  | "start" => some .wordStart
  | "end" => some .wordEnd
  | "start-half" => some .wordStartHalf
  | "end-half" => some .wordEndHalf
  | _ => none

/-- Reads what follows `\b`: a name in braces says which edges of words are meant. Braces with something
    else in them are a repetition and are left. -/
def readEdge (verbose : Bool) (cs : List Char) : Option (LookTree × List Char) :=
  match cs with
  | '\x7b' :: rest =>
    match readEdgeName verbose (skip verbose rest) with
    | ([], []) => none
    | ([], _) => some (.wordEdge, cs)
    | (name, '\x7d' :: after) => (edgeNamed? name).map (·, after)
    | _ => none
  | _ => some (.wordEdge, cs)

theorem length_le_of_readEdge {verbose : Bool} {cs rest : List Char} {l : LookTree}
    (h : readEdge verbose cs = some (l, rest)) : rest.length ≤ cs.length := by
  unfold readEdge at h
  split at h
  · next inner =>
    have h1 := readEdgeName_length_le verbose (skip verbose inner)
    have h2 := skip_length_le verbose inner
    split at h
    · cases h
    · cases h
      exact Nat.le_refl _
    · next name after hn =>
      obtain ⟨p, _, he⟩ := Option.map_eq_some_iff.1 h
      cases he
      rw [hn] at h1
      simp at h1 ⊢
      omega
    · cases h
  · cases h
    exact Nat.le_refl _

/-- Reads an escape after its backslash. -/
def readEscape (verbose : Bool) (cs : List Char) : Option (Found Escape cs) :=
  match cs with
  | [] => none
  | c :: rest =>
    let found (e : Escape) : Option (Found Escape (c :: rest)) := some ⟨(e, rest), length_lt_cons c rest⟩
    let code (digits : Nat) : Option (Found Escape (c :: rest)) :=
      match h : readCode verbose digits rest with
      | some (d, after) =>
      some ⟨(.char d, after), by have := length_le_of_readCode h; simp only [List.length_cons]; omega⟩
      | none => none
    let property (negated : Bool) : Option (Found Escape (c :: rest)) :=
      match h : readProperty verbose negated rest with
      | some (e, after) => some ⟨(e, after), by have := length_le_of_readProperty h; simp only [List.length_cons]; omega⟩
      | none => none
    let single (d : Char) : Option (Found Escape (c :: rest)) := found (.char ⟨d, false⟩)
    match c with
    | 'x' => code 2
    | 'u' => code 4
    | 'U' => code 8
    | 'p' => property false
    | 'P' => property true
    | 'd' => found (.letter .digit false)
    | 'D' => found (.letter .digit true)
    | 's' => found (.letter .blank false)
    | 'S' => found (.letter .blank true)
    | 'w' => found (.letter .wordChar false)
    | 'W' => found (.letter .wordChar true)
    | 'a' => single '\x07'
    | 'f' => single '\x0c'
    | 't' => single '\t'
    | 'n' => single '\n'
    | 'r' => single '\r'
    | 'v' => single '\x0b'
    | 'A' => found (.look .textStart)
    | 'z' => found (.look .textEnd)
    | 'B' => found (.look .notWordEdge)
    | '<' => found (.look .wordStart)
    | '>' => found (.look .wordEnd)
    | 'b' =>
      match h : readEdge verbose rest with
      | some (l, after) => some ⟨(.look l, after), by have := length_le_of_readEdge h; simp only [List.length_cons]; omega⟩
      | none => none
    | c => if isEscapable c then single c else none

end PatternText

end ClusterQuery
