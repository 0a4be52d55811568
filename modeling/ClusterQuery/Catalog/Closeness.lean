import ClusterQuery.Text.Ascii

/-!
How close a name comes to a word. The letters of the word are found in the name one after the other; each
gets points, more at the start of a part of the name and directly after the letter before it, and gaps cost
points. `closeness?` gives the points of the best way to find them.

The best ways are counted letter by letter of the word in rows. A `Cell` of a row stands for a beginning of the
name.
-/

namespace ClusterQuery

namespace Closeness

/-! ### Points -/

def matchPoints : Int := 16

/-- For a letter in another case. -/
def caseCost : Int := 2

/-- For the first character of the name that a gap passes over, and for each one after it. -/
def gapCost : Int := 3

def gapStepCost : Int := 1

/-- For a letter directly after the one before it. -/
def adjacentPoints : Int := 4

/-- How much more the first character of a name counts. -/
def firstFactor : Int := 2

inductive CharClass where
  | upper | lower | digit | wideSeparator | narrowSeparator
deriving DecidableEq

def isWideSeparator (c : Char) : Bool :=
  [' ', '/', '\\', '|', '(', ')', '[', ']', '\x7b', '\x7d'].contains c

def isNarrowSeparator (c : Char) : Bool :=
  ('!' ≤ c && c ≤ '\'') || ('*' ≤ c && c ≤ '.') || (':' ≤ c && c ≤ '@') || ('^' ≤ c && c ≤ '\x60') || c == '~'

/-- The class of a character; whatever is nothing else is a lower-case letter. -/
def CharClass.of (c : Char) : CharClass :=
  if isWideSeparator c then .wideSeparator
  else if isNarrowSeparator c then .narrowSeparator
  else if isDigit c then .digit
  else if 'A' ≤ c ∧ c ≤ 'Z' then .upper
  else .lower

/-- The points of a place in a name, by the characters before it and at it: most after a wide separator, fewer
    after a narrow one, fewer still where an upper-case letter follows a lower-case one or a digit. -/
def placePoints (before : CharClass) (c : CharClass) : Int :=
  match before, c with
  | .wideSeparator, _ => 8
  | .narrowSeparator, _ => 7
  | .lower, .upper | .digit, .upper => 6
  | _, _ => 0

/-- The characters of a name with the points of their places; before its start the name counts as separated. -/
def placed : List Char → List (Char × Int)
  | [] => []
  | c :: cs =>
    let first := firstFactor * placePoints .wideSeparator (.of c)
    (c, first) :: List.zipWith (fun b c => (c, placePoints (.of b) (.of c))) (c :: cs) cs

/-! ### Rows -/

/-- The most points for finding the letters of the word so far in a beginning of the name. -/
structure Cell where
  /-- Where the last letter is found at the very end. -/
  ended : Option Int
  /-- Where something is passed over after the last letter. -/
  passed : Option Int

/-- The larger number, if any. -/
def most : Option Int → Option Int → Option Int
  | some a, some b => some (max a b)
  | some a, none => some a
  | none, b => b

/-- The points for finding the letter `p` at the character `c`, after the beginning that `before` stands for. -/
def found (p c : Char) (points : Int) (before : Cell) : Option Int :=
  if lowerAscii p = lowerAscii c then
    let matched := if p = c then matchPoints else matchPoints - caseCost
    (most (before.ended.map (· + max points adjacentPoints)) (before.passed.map (· + points))).map (· + matched)
  else none

/-- The cells of a row after the first one: `last` is the cell before them, and the cells of the row before
    begin one place further to the left. -/
def nextCells (p : Char) (last : Cell) : List Cell → List (Char × Int) → List Cell
  | before :: cells, (c, points) :: name =>
    let cell : Cell :=
      ⟨found p c points before, most (last.ended.map (· - gapCost)) (last.passed.map (· - gapStepCost))⟩
    cell :: nextCells p cell cells name
  | _, _ => []

/-- The row after one more letter of the word. -/
def nextRow (name : List (Char × Int)) (row : List Cell) (p : Char) : List Cell :=
  ⟨none, none⟩ :: nextCells p ⟨none, none⟩ row name

/-- The row before any letter: everything is passed over. -/
def firstRow (name : List (Char × Int)) : List Cell := ⟨none, some 0⟩ :: name.map fun _ => ⟨none, some 0⟩

/-- The most points that end somewhere in a row. -/
def best (row : List Cell) : Option Int := row.foldl (fun most? cell => most most? cell.ended) none

end Closeness

/-- How close a name comes to a word, if the letters of the word occur in it in their order. The case of ASCII
    letters hardly counts. -/
def closeness? (word name : List Char) : Option Int :=
  if word.isEmpty then some 0
  else
    let places := Closeness.placed name
    Closeness.best (word.foldl (Closeness.nextRow places) (Closeness.firstRow places))

end ClusterQuery
