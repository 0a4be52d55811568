import ClusterQuery.Yaml.Scalar

/-!
The tokens of a YAML text, with the lines and columns where they begin. Texts stay within a line, and there are
no anchors, tags, blocks of text or explicit keys.
-/

namespace ClusterQuery

namespace Yaml

inductive Symbol where
  | dash | colon | comma | openList | closeList | openMap | closeMap | documentStart | documentEnd
deriving DecidableEq

inductive Content where
  | symbol (s : Symbol)
  /-- A text, and whether it has no quotes. -/
  | text (cs : List Char) (plain : Bool)
deriving DecidableEq

structure Token where
  line : Nat
  column : Nat
  content : Content
deriving DecidableEq

/-! ### Texts -/

/-- The characters of a text between single quotes and what follows it. -/
def takeSingle? : List Char → Option (List Char × List Char)
  | '\'' :: '\'' :: rest => (takeSingle? rest).map fun (cs, after) => ('\'' :: cs, after)
  | c :: rest =>
    if c = '\'' then some ([], rest)
    else if isBreak c then none
    else (takeSingle? rest).map fun (cs, after) => (c :: cs, after)
  | [] => none

/-- The character that a letter after a backslash stands for. -/
def escaped? : Char → Option Char
  | '0' => some '\x00'
  | 'a' => some '\x07'
  | 'b' => some '\x08'
  | 't' | '\t' => some '\t'
  | 'n' => some '\n'
  | 'v' => some '\x0b'
  | 'f' => some '\x0c'
  | 'r' => some '\r'
  | 'e' => some '\x1b'
  | ' ' => some ' '
  | '"' => some '"'
  | '/' => some '/'
  | '\\' => some '\\'
  | 'N' => some '\x85'
  | '_' => some '\xa0'
  | 'L' => some '\u2028'
  | 'P' => some '\u2029'
  | _ => none

/-- The character with a hexadecimal number. -/
def numbered? (digits : List Char) : Option Char := do
  let n ← readBase? 16 digits
  if h : n.isValidChar then some (Char.ofNatAux n h) else none

/-- The characters of a text between double quotes and what follows it. -/
def takeDouble? : List Char → Option (List Char × List Char)
  | '"' :: rest => some ([], rest)
  | '\\' :: 'x' :: a :: b :: rest => do
    let c ← numbered? [a, b]
    (takeDouble? rest).map fun (cs, after) => (c :: cs, after)
  | '\\' :: 'u' :: a :: b :: c :: d :: rest => do
    let e ← numbered? [a, b, c, d]
    (takeDouble? rest).map fun (cs, after) => (e :: cs, after)
  | '\\' :: e :: rest => do
    let c ← escaped? e
    (takeDouble? rest).map fun (cs, after) => (c :: cs, after)
  | c :: rest =>
    if isBreak c || c = '\\' then none else (takeDouble? rest).map fun (cs, after) => (c :: cs, after)
  | [] => none

def isFlowMark (c : Char) : Bool := [',', '[', ']', '\x7b', '\x7d'].contains c

/-- How many characters of a line belong to a text without quotes; `blank` says whether a blank stands before
    them. Such a text ends at a colon before a gap and at a comment, within brackets also at their marks. -/
def plainLength (inFlow blank : Bool) : List Char → Nat
  | [] => 0
  | c :: rest =>
    let endsHere := isBreak c || (c == ':' && rest.head?.all isGap) || (c == '#' && blank) || (inFlow && isFlowMark c)
    if endsHere then 0 else plainLength inFlow (isGap c) rest + 1

def dropBlanksAtEnd (cs : List Char) : List Char := (cs.reverse.dropWhile isGap).reverse

/-- A text without quotes and what follows it. Within brackets no colon stands before their marks. -/
def takePlain? (inFlow : Bool) (cs : List Char) : Option (List Char × List Char) :=
  let length := plainLength inFlow false cs
  let text := cs.take length
  let isCut := hasNeighbours (· == ':') (fun c => isFlowMark c || c == '?') (cs.take (length + 1))
  if text.isEmpty || startsWithMark cs || (inFlow && isCut) then none
  else some (dropBlanksAtEnd text, cs.drop text.length)

/-! ### Tokens -/

/-- Where a reader is: line, column, and how many brackets are open. -/
structure Position where
  line : Nat := 0
  column : Nat := 0
  depth : Nat := 0

def flowSymbol? : Char → Option Symbol
  | '[' => some .openList
  | ']' => some .closeList
  | '\x7b' => some .openMap
  | '\x7d' => some .closeMap
  | _ => none

/-- How many brackets are open after a symbol. -/
def Symbol.depthAfter (s : Symbol) (depth : Nat) : Nat :=
  match s with
  | .openList | .openMap => depth + 1
  | .closeList | .closeMap => depth - 1
  | _ => depth

/-- The symbol at the front and how many characters it has. -/
def symbol? (p : Position) (cs : List Char) : Option (Symbol × Nat) :=
  match cs with
  | c :: rest =>
    let beforeGap := rest.head?.all isGap
    if p.column = 0 && cs.take 3 == ['-', '-', '-'] && (cs.drop 3).head?.all isGap then some (.documentStart, 3)
    else if p.column = 0 && cs.take 3 == ['.', '.', '.'] && (cs.drop 3).head?.all isGap then some (.documentEnd, 3)
    else if c == ':' && (beforeGap || 0 < p.depth) then some (.colon, 1)
    else if c == '-' && beforeGap && p.depth = 0 then some (.dash, 1)
    else if c == ',' && 0 < p.depth then some (.comma, 1)
    else (flowSymbol? c).map fun s => (s, 1)
  | [] => none

/-- A text at the front and what follows it. -/
def takeText? (inFlow : Bool) (cs : List Char) : Option (Content × List Char) :=
  match cs with
  | c :: rest =>
    if c = '\'' then (takeSingle? rest).map fun (text, after) => (.text text false, after)
    else if c = '"' then (takeDouble? rest).map fun (text, after) => (.text text false, after)
    else (takePlain? inFlow cs).map fun (text, after) => (.text text true, after)
  | [] => none

/-- The tokens of a text. A token takes a character or more. -/
def tokens? (fuel : Nat) (p : Position) (cs : List Char) : Option (List Token) :=
  match fuel, cs with
  | _, [] => some []
  | 0, _ => none
  | fuel + 1, c :: rest =>
    if c = '\n' then tokens? fuel { p with line := p.line + 1, column := 0 } rest
    else if isGap c then tokens? fuel { p with column := p.column + 1 } rest
    else if c = '#' then tokens? fuel p (rest.dropWhile (!isBreak ·))
    else
      match symbol? p cs with
      | some (s, length) =>
        (tokens? fuel { p with column := p.column + length, depth := s.depthAfter p.depth } (cs.drop length)).map
          (⟨p.line, p.column, .symbol s⟩ :: ·)
      | none =>
        match takeText? (0 < p.depth) cs with
        | none => none
        | some (content, after) =>
          (tokens? fuel { p with column := p.column + (cs.length - after.length) } after).map
            (⟨p.line, p.column, content⟩ :: ·)

end Yaml

end ClusterQuery
