import ClusterQuery.Pattern.Escape

/-!
Reading patterns. `PatternText.parse?` gives the tree of a pattern, or nothing when a bracket is left open, a
repetition repeats nothing, a name or an escape is unknown, or a range or a count is out of order.
-/

namespace ClusterQuery

namespace PatternText

/-! ### Classes -/

/-- The ASCII classes with a name. -/
def asciiClass? (name : List Char) : Option CharSet :=
  match String.ofList name with
  | "alnum" => some (.unionOf [asciiDigits, asciiLower, asciiUpper])
  | "alpha" => some (.union asciiLower asciiUpper)
  | "ascii" => some .asciiRange
  | "blank" => some (.union (.single '\t') (.single ' '))
  | "cntrl" => some (.ranges [(0, 0x1F), (0x7F, 0x7F)])
  | "digit" => some asciiDigits
  | "graph" => some (.range 0x21 0x7E)
  | "lower" => some asciiLower
  | "print" => some (.range 0x20 0x7E)
  | "punct" => some (.ranges [(0x21, 0x2F), (0x3A, 0x40), (0x5B, 0x60), (0x7B, 0x7E)])
  | "space" => some (.ranges [(9, 13), (32, 32)])
  | "upper" => some asciiUpper
  | "word" => some (.unionOf [asciiDigits, asciiLower, asciiUpper, .single '_'])
  | "xdigit" => some .asciiHexDigits
  | _ => none

/-- Reads a named class between colons, after its opening bracket. -/
def readAsciiClass (cs : List Char) : Option (Found ClassTree cs) :=
  match cs with
  | ':' :: rest =>
    let (negated, start) := match rest with
      | '^' :: start => (true, start)
      | start => (false, start)
    match asciiClass? (start.takeWhile (· != ':')), h : start.dropWhile (· != ':') with
    | some s, ':' :: ']' :: after =>
      if hle : after.length < rest.length then
        some ⟨(.ascii s negated, after), by simp only [List.length_cons]; omega⟩
      else none
    | _, _ => none
  | _ => none

/-- One member is that member, several are a union. -/
def unionOf : List ClassTree → ClassTree
  | [s] => s
  | members => .union members

/-- Joins what was read with what stood before an operation. -/
def joined : Option (ClassOperation × ClassTree) → ClassTree → ClassTree
  | none, s => s
  | some (op, a), s => .operation op a s

/-- The character after a hyphen, as far as it decides whether the hyphen makes a range. -/
def afterHyphen? (verbose : Bool) (cs : List Char) : Option Char :=
  if verbose then
    match cs.dropWhile isBlank with
    | '#' :: rest => (rest.dropWhile isBlank).head?
    | rest => rest.head?
  else cs.head?

/-- A member of a class that an escape stands for. -/
def Escape.member? : Escape → Option ClassTree
  | .char c => some (.literal c)
  | .letter k negated => some (.letter k negated)
  | .property p negated => some (.property p negated)
  | .look _ => none

/-- Reads a character or an escape in a class. -/
def readMember (verbose : Bool) (cs : List Char) : Option (Found ClassTree cs) :=
  match cs with
  | [] => none
  | '\\' :: rest =>
    match readEscape verbose rest with
    | some ⟨(e, after), h⟩ => e.member?.map fun s => ⟨(s, after), by simp only [List.length_cons] at h ⊢; omega⟩
    | none => none
  | c :: rest => some ⟨(.literal ⟨c, false⟩, rest), length_lt_cons c rest⟩

/-- Reads a member of a class or a range of characters. -/
def readRange (verbose : Bool) (cs : List Char) : Option (Found ClassTree cs) :=
  match readMember verbose cs with
  | none => none
  | some ⟨(first, rest), h1⟩ =>
    have h2 := skip_length_le verbose rest
    match h3 : skip verbose rest with
    | '-' :: tail =>
      let next := afterHyphen? verbose tail
      if next == some ']' || next == some '-' then
        some ⟨(first, '-' :: tail), by rw [h3] at h2; simp only [List.length_cons] at h1 h2 ⊢; omega⟩
      else
        have h4 := skip_length_le verbose tail
        match readMember verbose (skip verbose tail) with
        | none => none
        | some ⟨(last, after), h5⟩ =>
          match first, last with
          | .literal low, .literal high =>
            if low.char.toNat ≤ high.char.toNat then
              some ⟨(.range low high, after), by rw [h3] at h2; simp only [List.length_cons] at h1 h2 h5 ⊢; omega⟩
            else none
          | _, _ => none
    | other => some ⟨(first, other), by rw [h3] at h2; simp only at h1 h2 ⊢; omega⟩

/-- Reads hyphens that stand for themselves, with padding after each, in front of `members`. -/
def readHyphens (verbose : Bool) (members : List ClassTree) (cs : List Char) : List ClassTree × List Char :=
  match cs with
  | '-' :: rest =>
    have := skip_length_lt verbose '-' rest
    readHyphens verbose (.literal ⟨'-', false⟩ :: members) (skip verbose rest)
  | cs => (members, cs)
termination_by cs.length
decreasing_by exact this

theorem readHyphens_length_le (verbose : Bool) (members : List ClassTree) (cs : List Char) :
    (readHyphens verbose members cs).2.length ≤ cs.length := by
  fun_induction readHyphens verbose members cs with
  | case1 members rest _ ih =>
    have := skip_length_le verbose rest
    simp
    omega
  | case2 => simp

/-- Reads the beginning of a class after its opening bracket: whether it is negated, and members that would
    otherwise mean something. -/
def readClassStart (verbose : Bool) (cs : List Char) : Bool × List ClassTree × List Char :=
  let (negated, start) := match skip verbose cs with
    | '^' :: rest => (true, skip verbose rest)
    | rest => (false, rest)
  match readHyphens verbose [] start with
  | ([], ']' :: rest) => (negated, [.literal ⟨']', false⟩], skip verbose rest)
  | (members, rest) => (negated, members, rest)

theorem readClassStart_length_le (verbose : Bool) (cs : List Char) :
    (readClassStart verbose cs).2.2.length ≤ cs.length := by
  have h1 := skip_length_le verbose cs
  have key : ∀ (negated : Bool) (start : List Char), start.length ≤ cs.length →
      (match readHyphens verbose [] start with
        | ([], ']' :: rest) => (negated, [ClassTree.literal ⟨']', false⟩], skip verbose rest)
        | (members, rest) => (negated, members, rest)).2.2.length ≤ cs.length := by
    intro negated start hstart
    have h2 := readHyphens_length_le verbose [] start
    split
    · next rest hr =>
      have := skip_length_le verbose rest
      rw [hr] at h2
      simp at h2 ⊢
      omega
    · next members rest _ hr =>
      rw [hr] at h2
      simp at h2 ⊢
      omega
  unfold readClassStart
  split
  next negated start he =>
  apply key
  split at he
  · next rest hr =>
    cases he
    have := skip_length_le verbose rest
    rw [hr] at h1
    simp at h1
    omega
  · cases he
    exact h1

mutual

/-- Reads a class after its opening bracket. -/
def readClass (verbose : Bool) (cs : List Char) : Option (Found ClassTree cs) :=
  have h1 := readClassStart_length_le verbose cs
  match hs : readClassStart verbose cs with
  | (negated, members, rest) =>
    match readMembers verbose none members rest with
    | some ⟨(inner, after), h2⟩ =>
      some ⟨(.bracketed negated inner, after), by rw [hs] at h1; simp only at h1 h2 ⊢; omega⟩
    | none => none
termination_by 2 * cs.length + 1
decreasing_by
  rw [hs] at h1
  simp at h1
  omega

/-- Reads the members of a class and its closing bracket, after an operation and members in reverse order. -/
def readMembers (verbose : Bool) (before : Option (ClassOperation × ClassTree)) (members : List ClassTree)
    (cs : List Char) : Option (Found ClassTree cs) :=
  have h0 := skip_length_le verbose cs
  let here := joined before (unionOf members.reverse)
  match hs : skip verbose cs with
  | [] => none
  | ']' :: rest => some ⟨(here, rest), by rw [hs] at h0; simp only [List.length_cons] at h0 ⊢; omega⟩
  | '&' :: '&' :: rest =>
    match readMembers verbose (some (.both, here)) [] rest with
    | some ⟨(s, after), h⟩ => some ⟨(s, after), by rw [hs] at h0; simp only [List.length_cons] at h0 h ⊢; omega⟩
    | none => none
  | '-' :: '-' :: rest =>
    match readMembers verbose (some (.without, here)) [] rest with
    | some ⟨(s, after), h⟩ => some ⟨(s, after), by rw [hs] at h0; simp only [List.length_cons] at h0 h ⊢; omega⟩
    | none => none
  | '~' :: '~' :: rest =>
    match readMembers verbose (some (.eitherOnly, here)) [] rest with
    | some ⟨(s, after), h⟩ => some ⟨(s, after), by rw [hs] at h0; simp only [List.length_cons] at h0 h ⊢; omega⟩
    | none => none
  | c :: rest =>
    let member : Option (Found ClassTree (c :: rest)) :=
      if c = '[' then
        match readAsciiClass rest with
        | some ⟨(s, after), h⟩ => some ⟨(s, after), by simp only [List.length_cons] at h ⊢; omega⟩
        | none =>
          match readClass verbose rest with
          | some ⟨(s, after), h⟩ => some ⟨(s, after), by simp only [List.length_cons] at h ⊢; omega⟩
          | none => none
      else readRange verbose (c :: rest)
    match member with
    | none => none
    | some ⟨(s, after), h1⟩ =>
      match readMembers verbose before (s :: members) after with
      | some ⟨(t, last), h2⟩ => some ⟨(t, last), by rw [hs] at h0; simp only [List.length_cons] at h0 h1 h2 ⊢; omega⟩
      | none => none
termination_by 2 * cs.length
decreasing_by
  all_goals
    rw [hs] at h0
    simp at *
    omega

end

/-! ### Repetitions -/

/-- Reads digits, with padding after each. -/
def readDigits (verbose : Bool) (cs : List Char) : List Char × List Char :=
  match cs with
  | [] => ([], [])
  | c :: rest =>
    if isDigit c then
      have := skip_length_lt verbose c rest
      let (ds, after) := readDigits verbose (skip verbose rest)
      (c :: ds, after)
    else ([], c :: rest)
termination_by cs.length
decreasing_by exact this

theorem readDigits_length_le (verbose : Bool) (cs : List Char) : (readDigits verbose cs).2.length ≤ cs.length := by
  fun_induction readDigits verbose cs with
  | case1 => simp
  | case2 c rest _ _ ds after he ih =>
    rw [he] at ih
    have := skip_length_le verbose rest
    simp at ih ⊢
    omega
  | case3 => simp

/-- Counts fit 32 bits. -/
def countLimit : Nat := 0x100000000

/-- Reads a count with blanks around it, or none where there are no digits. -/
def readNumber (verbose : Bool) (cs : List Char) : Option (Option Nat × List Char) :=
  let (ds, rest) := readDigits verbose (cs.dropWhile isBlank)
  let n := digitsValue 0 ds
  let after := skip verbose (rest.dropWhile isBlank)
  if ds.isEmpty then some (none, after) else if n < countLimit then some (some n, after) else none

theorem length_le_of_readNumber {verbose : Bool} {cs rest : List Char} {n : Option Nat}
    (h : readNumber verbose cs = some (n, rest)) : rest.length ≤ cs.length := by
  have h1 := List.IsSuffix.length_le (List.dropWhile_suffix isBlank (l := cs))
  have h2 := readDigits_length_le verbose (cs.dropWhile isBlank)
  unfold readNumber at h
  split at h
  next ds after hd =>
  rw [hd] at h2
  have h3 := List.IsSuffix.length_le (List.dropWhile_suffix isBlank (l := after))
  have h4 := skip_length_le verbose (after.dropWhile isBlank)
  dsimp only at h h2
  split at h
  · cases h
    omega
  · split at h
    · cases h
      omega
    · cases h

/-- Reads the counts of a repetition after the opening brace, and the closing one. -/
def readCounts (verbose : Bool) (cs : List Char) : Option (Found (Nat × Option Nat) cs) :=
  have h0 := skip_length_le verbose cs
  match h1 : readNumber verbose (skip verbose cs) with
  | some (some least, '\x7d' :: after) =>
    some ⟨((least, some least), after), by
      have := length_le_of_readNumber h1; simp only [List.length_cons] at this ⊢; omega⟩
  | some (some least, ',' :: rest) =>
    have h2 := skip_length_le verbose rest
    match h3 : skip verbose rest with
    | '\x7d' :: after =>
      some ⟨((least, none), after), by
        have := length_le_of_readNumber h1; rw [h3] at h2; simp at this h2 ⊢; omega⟩
    | rest' =>
      match h4 : readNumber verbose rest' with
      | some (some most, '\x7d' :: after) =>
        if least ≤ most then
          some ⟨((least, some most), after), by
            have := length_le_of_readNumber h1
            have := length_le_of_readNumber h4
            rw [h3] at h2
            simp at *
            omega⟩
        else none
      | _ => none
  | _ => none

/-- Reads the mark after a repetition that makes it match as little as it can. -/
def skipLazy : List Char → List Char
  | '?' :: cs => cs
  | cs => cs

theorem skipLazy_length_le (cs : List Char) : (skipLazy cs).length ≤ cs.length := by
  unfold skipLazy
  split
  · simp
  · simp

/-- Repeats the last of the trees read so far, which are in reverse order. Changes of flags cannot be
    repeated. -/
def repeatLast? (least : Nat) (most : Option Nat) : List Tree → Option (List Tree)
  | [] | .flags _ :: _ => none
  | t :: done => some (.times t least most :: done)

/-! ### Groups -/

/-- The flag with a letter. -/
def flagOf? : Char → Option Flag
  | 'i' => some .ignoreCase
  | 'm' => some .manyLines
  | 's' => some .dotAll
  | 'R' => some .anyLineEnd
  | 'u' => some .allChars
  | 'x' => some .verbose
  | 'U' => some .swapGreed
  | _ => none

/-- The change that a text of flags means: those after a hyphen are cleared. Each may occur once. -/
def flagChange? (cs : List Char) : Option FlagChange :=
  let on := cs.takeWhile (· != '-')
  let off := cs.dropWhile (· != '-')
  let change? (cs : List Char) (value : Bool) : Option FlagChange :=
    cs.mapM fun c => (flagOf? c).map (·, value)
  match off with
  | ['-'] => none
  | _ =>
    match change? on true, change? (off.drop 1) false with
    | some set, some cleared =>
      if ((set ++ cleared).map Prod.fst).Nodup then some (set ++ cleared) else none
    | _, _ => none

/-- How a group opens. -/
inductive Opening where
  /-- A change of flags for the rest of the group that it is in. -/
  | flags (change : FlagChange)
  | group (name : Option (List Char)) (change : FlagChange)

/-- Whether blanks do not count after a change of flags. -/
def verboseAfter (verbose : Bool) (change : FlagChange) : Bool :=
  match change.find? fun p => p.1 == .verbose with
  | some (_, on) => on
  | none => verbose

/-- Whether a text is a name for a group. -/
def isGroupName : List Char → Bool
  | [] => false
  | c :: cs =>
    let isLetter (c : Char) : Bool := c == '_' || CharSet.alphabetic.contains c
    let isNumber (c : Char) : Bool := (CharSet.categories [.nd, .nl, .no]).contains c
    isLetter c && cs.all fun c => isLetter c || isNumber c || c == '.' || c == '[' || c == ']'

/-- Reads the opening of a group after its name's opening bracket. -/
def readGroupName (cs : List Char) : Option (Opening × List Char) :=
  let name := cs.takeWhile (· != '>')
  match cs.dropWhile (· != '>') with
  | _ :: rest => if isGroupName name then some (.group (some name) [], rest) else none
  | [] => none

/-- Reads the opening of a group after its bracket. -/
def readOpening (verbose : Bool) (cs : List Char) : Option (Opening × List Char) :=
  match skip verbose cs with
  | '?' :: 'P' :: '<' :: rest => readGroupName rest
  | '?' :: '<' :: rest => readGroupName rest
  | '?' :: rest =>
    let isEnd (c : Char) : Bool := c == ':' || c == ')'
    let flags := rest.takeWhile (!isEnd ·)
    match flagChange? flags, rest.dropWhile (!isEnd ·) with
    | some change, ':' :: rest => some (.group none change, rest)
    | some change, _ :: rest => if flags.isEmpty then none else some (.flags change, rest)
    | _, _ => none
  | rest => some (.group none [], rest)

theorem length_le_of_readGroupName {cs rest : List Char} {o : Opening}
    (h : readGroupName cs = some (o, rest)) : rest.length ≤ cs.length := by
  have hle := List.IsSuffix.length_le (List.dropWhile_suffix (· != '>') (l := cs))
  unfold readGroupName at h
  dsimp only at h
  split at h
  · next after hd =>
    split at h
    · cases h
      rw [hd] at hle
      simp at hle
      omega
    · cases h
  · cases h

theorem length_le_of_readOpening {verbose : Bool} {cs rest : List Char} {o : Opening}
    (h : readOpening verbose cs = some (o, rest)) : rest.length ≤ cs.length := by
  have hskip := skip_length_le verbose cs
  unfold readOpening at h
  split at h
  · next inner hr =>
    rw [hr] at hskip
    have := length_le_of_readGroupName h
    simp at hskip
    omega
  · next inner hr =>
    rw [hr] at hskip
    have := length_le_of_readGroupName h
    simp at hskip
    omega
  · next inner _ _ hr =>
    rw [hr] at hskip
    have hle := List.IsSuffix.length_le
      (List.dropWhile_suffix (fun c => !(c == ':' || c == ')')) (l := inner))
    dsimp only at h
    split at h
    · next hd =>
      cases h
      rw [hd] at hle
      simp at hle hskip
      omega
    · next hd =>
      split at h
      · cases h
      · cases h
        rw [hd] at hle
        simp at hle hskip
        omega
    · cases h
  · cases h
    exact hskip

/-! ### Patterns -/

/-- A tree that an escape stands for. -/
def Escape.tree : Escape → Tree
  | .char c => .literal c
  | .letter k negated => .oneOf (.letter k negated)
  | .property p negated => .oneOf (.property p negated)
  | .look l => .look l

/-- One part is that part. -/
def catOf : List Tree → Tree
  | [t] => t
  | parts => .cat parts

/-- One branch is that branch. -/
def altOf : List Tree → Tree
  | [t] => t
  | branches => .alt branches

/-- What a character does where a part of a pattern may begin. -/
inductive Role where
  /-- It ends a branch. -/
  | ends
  /-- It is a part by itself. -/
  | part (t : Tree)
  /-- It repeats the part before it, at most without a bound. -/
  | repeats (least : Nat) (most : Option Nat)
  /-- It opens the counts of a repetition. -/
  | counts
  | escapes
  | opensClass
  | opensGroup

/-- The role of each character. -/
def Role.ofChar : Char → Role
  | '|' | ')' => .ends
  | '(' => .opensGroup
  | '[' => .opensClass
  | '?' => .repeats 0 (some 1)
  | '*' => .repeats 0 none
  | '+' => .repeats 1 none
  | '\x7b' => .counts
  | '\\' => .escapes
  | '.' => .part .dot
  | '^' => .part (.look .caret)
  | '$' => .part (.look .dollar)
  | c => .part (.literal ⟨c, false⟩)

/-- What a reader found, and the text after it, which is no longer than the text it began with. -/
abbrev FoundUpTo (α : Type) (cs : List Char) := { r : α × List Char // r.2.length ≤ cs.length }

mutual

/-- Reads branches up to the end of their group, which is left. -/
def readBranches (verbose : Bool) (cs : List Char) : Option (FoundUpTo (List Tree) cs) :=
  match readParts verbose [] cs with
  | none => none
  | some ⟨((parts, verbose), rest), h1⟩ =>
    match rest with
    | [] => some ⟨([catOf parts], []), Nat.zero_le _⟩
    | c :: next =>
      if c = '|' then
        match readBranches verbose next with
        | some ⟨(branches, after), h2⟩ =>
          some ⟨(catOf parts :: branches, after), by simp only [List.length_cons] at h1 h2 ⊢; omega⟩
        | none => none
      else some ⟨([catOf parts], c :: next), h1⟩
termination_by 2 * cs.length + 1
decreasing_by
  · omega
  · simp at h1
    omega

/-- Reads the parts of a branch after those in `done`, which are in reverse order. Whether blanks count after
    them is found with them. -/
def readParts (verbose : Bool) (done : List Tree) (cs : List Char) :
    Option (FoundUpTo (List Tree × Bool) cs) :=
  have h0 := skip_length_le verbose cs
  /- Reads on after a part. -/
  let goOn (verbose : Bool) (done : List Tree) (rest : List Char) (h : rest.length < cs.length) :
      Option (FoundUpTo (List Tree × Bool) cs) :=
    match readParts verbose done rest with
    | some ⟨r, hr⟩ => some ⟨r, by omega⟩
    | none => none
  /- Reads on after a repetition. -/
  let again (least : Nat) (most : Option Nat) (rest : List Char) (h : rest.length < cs.length) :
      Option (FoundUpTo (List Tree × Bool) cs) :=
    match repeatLast? least most done with
    | some done => goOn verbose done (skipLazy rest) (by have := skipLazy_length_le rest; omega)
    | none => none
  match hs : skip verbose cs with
  | [] => some ⟨((done.reverse, verbose), []), Nat.zero_le _⟩
  | c :: rest =>
    have hle : (c :: rest).length ≤ cs.length := hs ▸ h0
    have hlt : rest.length < cs.length := Nat.lt_of_lt_of_le (length_lt_cons c rest) hle
    match Role.ofChar c with
    | .ends => some ⟨((done.reverse, verbose), c :: rest), hle⟩
    | .part t => goOn verbose (t :: done) rest hlt
    | .repeats least most => again least most rest hlt
    | .counts =>
      match readCounts verbose rest with
      | some ⟨((least, most), after), h⟩ =>
        again least most (skip verbose after) (by have := skip_length_le verbose after; simp only at h; omega)
      | none => none
    | .escapes =>
      match readEscape verbose rest with
      | some ⟨(e, after), h⟩ => goOn verbose (e.tree :: done) after (by simp only at h; omega)
      | none => none
    | .opensClass =>
      match readClass verbose rest with
      | some ⟨(s, after), h⟩ => goOn verbose (.oneOf s :: done) after (by simp only at h; omega)
      | none => none
    | .opensGroup =>
      match ho : readOpening verbose rest with
      | none => none
      | some (.flags change, after) =>
        goOn (verboseAfter verbose change) (.flags change :: done) after
          (by have := length_le_of_readOpening ho; omega)
      | some (.group name change, inner) =>
        have hi := length_le_of_readOpening ho
        match readBranches (verboseAfter verbose change) inner with
        | some ⟨(branches, next :: after), h⟩ =>
          if next = ')' then
            goOn verbose (.group name change (altOf branches) :: done) after
              (by simp only [List.length_cons] at h; omega)
          else none
        | _ => none
termination_by 2 * cs.length
decreasing_by
  · omega
  · omega

end

/-- The tree of a pattern. -/
def parse? (cs : List Char) : Option Tree :=
  match readBranches false cs with
  | some ⟨(branches, []), _⟩ => some (altOf branches)
  | _ => none

end PatternText

/-- The expression of a pattern, if it is well formed and not too large. -/
def Regex.ofPattern? (cs : List Char) : Option Regex := (PatternText.parse? cs).bind Tree.regex?

end ClusterQuery
