/-!
ASCII letters and digits. Keywords, reducer names and resource names are compared with the case of
ASCII letters ignored; every other character stands for itself.
-/

namespace ClusterQuery

def isDigit (c : Char) : Bool := '0' ≤ c && c ≤ '9'

def isAsciiLetter (c : Char) : Bool := ('a' ≤ c && c ≤ 'z') || ('A' ≤ c && c ≤ 'Z')

def isAsciiAlphanumeric (c : Char) : Bool := isAsciiLetter c || isDigit c

/-- The lower-case form of an ASCII letter; any other character unchanged. -/
def lowerAscii (c : Char) : Char :=
  if 'A' ≤ c ∧ c ≤ 'Z' then Char.ofNat (c.toNat + 32) else c

def lowerText (cs : List Char) : List Char := cs.map lowerAscii

/-- A name in lower case as far as ASCII letters go. -/
def lowerName (s : String) : String := String.ofList (lowerText s.toList)

/-- Equality with the case of ASCII letters ignored. -/
def sameIgnoringCase (a b : List Char) : Bool := lowerText a == lowerText b

/-- The number a digit stands for. -/
def digitValue (c : Char) : Nat := c.toNat - '0'.toNat

/-- The number a hexadecimal digit stands for. -/
def hexValue? (c : Char) : Option Nat :=
  if isDigit c then some (digitValue c)
  else if 'a' ≤ c ∧ c ≤ 'f' then some (c.toNat - 'a'.toNat + 10)
  else if 'A' ≤ c ∧ c ≤ 'F' then some (c.toNat - 'A'.toNat + 10)
  else none

/-- The number that a run of digits spells, read on from `n`. -/
def digitsValue (n : Nat) (cs : List Char) : Nat := cs.foldl (fun n c => n * 10 + digitValue c) n

/-- The number of a text that consists of one digit or more. -/
def readDigits? (cs : List Char) : Option Nat :=
  if !cs.isEmpty && cs.all isDigit then some (digitsValue 0 cs) else none

end ClusterQuery
