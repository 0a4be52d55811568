import ClusterQuery.Path.Basic
import ClusterQuery.Number.Bounded

/-!
The canonical text of a path. A key in brackets is written without quotes if it consists of letters, digits,
underscores and hyphens and is no number, and otherwise between quotes that it does not hold.
-/

namespace ClusterQuery.Path

/-- Keys that need no quotes in brackets. -/
def isPlainKey (cs : List Char) : Bool :=
  !cs.isEmpty && !cs.all isDigit && cs.all fun c => isAsciiAlphanumeric c || c == '_' || c == '-'

/-- A key in brackets. -/
def subscriptText (cs : List Char) : List Char :=
  if isPlainKey cs then '[' :: cs ++ [']']
  else if cs.contains '"' then ['[', '\''] ++ cs ++ ['\'', ']']
  else ['[', '"'] ++ cs ++ ['"', ']']

/-- The text of a step; `joined` tells whether a dot is needed in front of a key. -/
def stepText (joined : Bool) : Step → List Char
  | .key name => (if joined then ['.'] else []) ++ name.toList
  | .position n => (if joined then ['.'] else []) ++ Nat.toDigits 10 n
  | .index n => '[' :: Nat.toDigits 10 n ++ [']']
  | .wildcard => ['[', '*', ']']
  | .mapKey name => subscriptText name.toList

/-- The canonical text. -/
def render (p : Path) : List Char :=
  match p.steps with
  | [] => []
  | step :: steps => stepText false step ++ steps.flatMap (stepText true)

end ClusterQuery.Path
