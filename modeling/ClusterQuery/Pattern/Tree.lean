import ClusterQuery.Pattern.Property
import ClusterQuery.Pattern.Regex

/-!
Patterns as written: trees with groups, repetitions and changes of flags. Flags hold from where they are set to
the end of the group; `Tree.regex?` gives the expression that a tree stands for under the flags at its place.
It refuses patterns that would match parts of characters, and those that are nested too deeply or too large.
-/

namespace ClusterQuery

/-! ### Flags -/

/-- The flags that decide what a pattern means. -/
structure Flags where
  /-- Letters stand for their case variants. -/
  ignoreCase : Bool := false
  /-- `^` and `$` also match at the ends of lines. -/
  manyLines : Bool := false
  /-- `.` also matches the end of a line. -/
  dotAll : Bool := false
  /-- A carriage return also ends a line. -/
  anyLineEnd : Bool := false
  /-- Classes and case variants are those of all characters, and not of ASCII alone. -/
  allChars : Bool := true

inductive Flag where
  | ignoreCase | manyLines | dotAll | anyLineEnd | allChars
  /-- Blanks and comments in the pattern do not count. -/
  | verbose
  /-- Greed has no bearing on whether there is a match. -/
  | swapGreed
deriving DecidableEq

def Flags.set (f : Flags) (flag : Flag) (on : Bool) : Flags :=
  match flag with
  | .ignoreCase => { f with ignoreCase := on }
  | .manyLines => { f with manyLines := on }
  | .dotAll => { f with dotAll := on }
  | .anyLineEnd => { f with anyLineEnd := on }
  | .allChars => { f with allChars := on }
  | .verbose | .swapGreed => f

/-- Flags to be set or cleared. -/
abbrev FlagChange := List (Flag × Bool)

def Flags.apply (f : Flags) (change : FlagChange) : Flags := change.foldl (fun f (flag, on) => f.set flag on) f

/-! ### Trees -/

/-- Classes with a letter of their own. -/
inductive LetterClass where
  | digit | blank | wordChar
deriving DecidableEq

/-- A character of a pattern. One that is written as two hexadecimal digits is a byte where the classes are
    those of ASCII. -/
structure PatternChar where
  char : Char
  isByte : Bool := false

inductive ClassOperation where
  | both | without | eitherOnly

/-- A class as written. -/
inductive ClassTree where
  | literal (c : PatternChar)
  | range (low high : PatternChar)
  | letter (k : LetterClass) (negated : Bool)
  | property (p : CharSet) (negated : Bool)
  /-- A class of ASCII characters between colons. -/
  | ascii (set : CharSet) (negated : Bool)
  | bracketed (negated : Bool) (inner : ClassTree)
  | union (members : List ClassTree)
  | operation (op : ClassOperation) (a b : ClassTree)

/-- Positions as written; what they mean depends on the flags. -/
inductive LookTree where
  | caret | dollar
  | textStart | textEnd
  | wordEdge | notWordEdge | wordStart | wordEnd | wordStartHalf | wordEndHalf

inductive Tree where
  | literal (c : PatternChar)
  | dot
  | look (l : LookTree)
  | oneOf (s : ClassTree)
  | flags (change : FlagChange)
  /-- A group, with its name if it has one. -/
  | group (name : Option (List Char)) (change : FlagChange) (inner : Tree)
  | times (inner : Tree) (least : Nat) (most : Option Nat)
  /-- Several trees after each other; none at all stands for nothing. -/
  | cat (parts : List Tree)
  | alt (branches : List Tree)

/-! ### Classes -/

def asciiDigits : CharSet := .range '0'.toNat '9'.toNat

def asciiLower : CharSet := .range 'a'.toNat 'z'.toNat

def asciiUpper : CharSet := .range 'A'.toNat 'Z'.toNat

/-- The members of a class with a letter. -/
def LetterClass.set (allChars : Bool) : LetterClass → CharSet
  | .digit => if allChars then .property .digit else asciiDigits
  | .blank => if allChars then .property .blank else .ranges [(9, 13), (32, 32)]
  | .wordChar =>
    if allChars then .property .wordChar else .unionOf [asciiLower, asciiUpper, asciiDigits, .single '_']

/-- The case variants that the flags allow. -/
def Flags.fold (f : Flags) (s : CharSet) : CharSet :=
  if !f.ignoreCase then s
  else if f.allChars then .folded s
  else .union s (.both .asciiRange (.folded (.both .asciiRange s)))

/-- A set or what is not in it. -/
def negatedIf (negated : Bool) (s : CharSet) : CharSet := if negated then .complement s else s

def ClassOperation.join (op : ClassOperation) (a b : CharSet) : CharSet :=
  match op with
  | .both => .both a b
  | .without => .without a b
  | .eitherOnly => .union (.without a b) (.without b a)

namespace ClassTree

mutual

/-- The members of a class. Where classes are those of ASCII, a code point below 256 stands for a byte. -/
def set (f : Flags) : ClassTree → CharSet
  | .literal c => .single c.char
  | .range low high => .range low.char.toNat high.char.toNat
  | .letter k negated => negatedIf negated (k.set f.allChars)
  | .property p negated => negatedIf negated (f.fold p)
  | .ascii s negated => negatedIf negated s
  | .bracketed negated inner => negatedIf negated (f.fold (inner.set f))
  | .union members => .unionOf (sets f members)
  | .operation op a b => op.join (f.fold (a.set f)) (f.fold (b.set f))

def sets (f : Flags) : List ClassTree → List CharSet
  | [] => []
  | s :: ss => s.set f :: sets f ss

end

/-- Whether a set has no member among the bytes that are parts of other characters. -/
def hasAsciiBytesOnly (s : CharSet) : Bool :=
  (List.range 128).all fun n => !s.contains (Char.ofNat (128 + n))

/-- Whether a character stands for a byte. -/
def isByteChar (c : PatternChar) : Bool := c.isByte || c.char.toNat < 0x80

mutual

/-- Whether a class is one of bytes and matches ASCII characters only. -/
def isAscii (f : Flags) : ClassTree → Bool
  | .literal c => isByteChar c
  | .range low high => isByteChar low && isByteChar high
  | .letter _ negated => !negated
  | .property _ _ => false
  | .ascii _ _ => true
  | .bracketed negated inner => inner.isAscii f && hasAsciiBytesOnly ((bracketed negated inner).set f)
  | .union members => areAscii f members
  | .operation _ a b => a.isAscii f && b.isAscii f

def areAscii (f : Flags) : List ClassTree → Bool
  | [] => true
  | s :: ss => s.isAscii f && areAscii f ss

end

/-- The set of a class, unless it would match parts of characters. -/
def set? (f : Flags) (s : ClassTree) : Option CharSet :=
  if f.allChars then some (s.set f)
  else if s.isAscii f then some (.both .asciiRange (s.set f))
  else none

mutual

/-- How deep a class nests. -/
def depth : ClassTree → Nat
  | .bracketed _ inner => inner.depth + 1
  | .union members => depths members + 1
  | .operation _ a b => max a.depth b.depth + 1
  | _ => 0

def depths : List ClassTree → Nat
  | [] => 0
  | s :: ss => max s.depth (depths ss)

end

end ClassTree

/-! ### Positions and single characters -/

/-- The condition that a position means under the flags. -/
def LookTree.condition (f : Flags) : LookTree → Look
  | .caret => if f.manyLines then if f.anyLineEnd then .anyLineStart else .lineStart else .textStart
  | .dollar => if f.manyLines then if f.anyLineEnd then .anyLineEnd else .lineEnd else .textEnd
  | .textStart => .textStart
  | .textEnd => .textEnd
  | .wordEdge => .wordEdge (!f.allChars)
  | .notWordEdge => .notWordEdge (!f.allChars)
  | .wordStart => .wordStart (!f.allChars)
  | .wordEnd => .wordEnd (!f.allChars)
  | .wordStartHalf => .wordStartHalf (!f.allChars)
  | .wordEndHalf => .wordEndHalf (!f.allChars)

/-- The characters that a dot matches. -/
def Flags.dotSet (f : Flags) : CharSet :=
  if f.dotAll then .any
  else if f.anyLineEnd then .complement (.union (.single '\n') (.single '\r'))
  else .complement (.single '\n')

/-- The set of a character, unless it is a part of one. -/
def PatternChar.set? (f : Flags) (c : PatternChar) : Option CharSet :=
  if !f.allChars && c.isByte && 0x80 ≤ c.char.toNat then none else some (f.fold (.single c.char))

/-! ### What a tree stands for -/

namespace Tree

mutual

/-- The expression of a tree, and the flags after it. -/
def regexWith (f : Flags) : Tree → Option (Regex × Flags)
  | .literal c => (c.set? f).map fun s => (.chars s, f)
  | .dot => if f.allChars then some (.chars f.dotSet, f) else none
  | .look l => some (.look (l.condition f), f)
  | .oneOf s => (s.set? f).map fun s => (.chars s, f)
  | .flags change => some (.empty, f.apply change)
  | .group _ change inner => (inner.regexWith (f.apply change)).map fun (r, _) => (r, f)
  | .times inner least most => (inner.regexWith f).map fun (r, f) => (.times r least most, f)
  | .cat parts => (regexesWith f parts).map fun (rs, f) => (.catAll rs, f)
  | .alt branches => (regexesWith f branches).map fun (rs, f) => (.altAll rs, f)

def regexesWith (f : Flags) : List Tree → Option (List Regex × Flags)
  | [] => some ([], f)
  | t :: ts => do
    let (r, f) ← t.regexWith f
    let (rs, f) ← regexesWith f ts
    return (r :: rs, f)

end

mutual

/-- How deep a tree nests. -/
def depth : Tree → Nat
  | .oneOf s => s.depth
  | .group _ _ inner | .times inner _ _ => inner.depth + 1
  | .cat [] => 0
  | .cat parts | .alt parts => depths parts + 1
  | _ => 0

def depths : List Tree → Nat
  | [] => 0
  | t :: ts => max t.depth (depths ts)

end

mutual

/-- The names of the groups. -/
def names : Tree → List (List Char)
  | .group name _ inner => name.toList ++ inner.names
  | .times inner _ _ => inner.names
  | .cat parts | .alt parts => namesOf parts
  | _ => []

def namesOf : List Tree → List (List Char)
  | [] => []
  | t :: ts => t.names ++ namesOf ts

end

/-- About how many states a machine for a class has. -/
def classSize : ClassTree → Nat
  | .letter .wordChar _ => 1450
  | .letter .digit _ => 180
  | .letter .blank _ => 20
  | .property _ _ => 500
  | _ => 8

mutual

/-- About how many states a machine for the tree has: repetitions count as often as they may be needed. -/
def size : Tree → Nat
  | .literal c => c.char.utf8Size
  | .dot => 10
  | .oneOf s => classSize s
  | .look _ => 1
  | .flags _ => 0
  | .group _ _ inner => inner.size + 2
  | .times inner least most =>
    match most with
    | some most => inner.size * max least most + (most - least)
    | none => inner.size * max least 1 + 1
  | .cat parts => sizes parts
  | .alt branches => sizes branches + 1

def sizes : List Tree → Nat
  | [] => 0
  | t :: ts => t.size + sizes ts

end

/-- How deep a pattern may be nested. -/
def depthLimit : Nat := 250

/-- How many states a machine for a pattern may have. -/
def sizeLimit : Nat := 327680

/-- The expression of a pattern. -/
def regex? (t : Tree) : Option Regex :=
  if t.depth ≤ depthLimit && t.names.eraseDups.length == t.names.length && t.size ≤ sizeLimit then
    (t.regexWith {}).map Prod.fst
  else none

end Tree

end ClusterQuery
