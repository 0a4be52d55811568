/-!
Cutting a text at a character. `splitOn` cuts at every occurrence, so that joining the pieces with the
character gives the text back; `splitFirst` and `splitLast` cut once.
-/

namespace ClusterQuery

/-- The pieces between the occurrences of `sep`; there is always at least one. -/
def splitOn (sep : Char) : List Char → List (List Char)
  | [] => [[]]
  | c :: cs =>
    if c = sep then [] :: splitOn sep cs
    else
      match splitOn sep cs with
      | [] => [[c]]
      | piece :: pieces => (c :: piece) :: pieces

/-- The pieces in order with `sep` between neighbours. -/
def joinWith (sep : List Char) : List (List Char) → List Char
  | [] => []
  | [piece] => piece
  | piece :: pieces => piece ++ sep ++ joinWith sep pieces

/-- The text before and after the first character that satisfies `p`. -/
def splitFirst (p : Char → Bool) (cs : List Char) : Option (List Char × List Char) :=
  match cs.dropWhile (fun c => !p c) with
  | [] => none
  | _ :: rest => some (cs.takeWhile (fun c => !p c), rest)

/-- The text before and after the last character that satisfies `p`. -/
def splitLast (p : Char → Bool) (cs : List Char) : Option (List Char × List Char) :=
  (splitFirst p cs.reverse).map fun (after, before) => (before.reverse, after.reverse)

/-- The text after `start`, when it begins with it. -/
def dropPrefix? : List Char → List Char → Option (List Char)
  | [], cs => some cs
  | _ :: _, [] => none
  | s :: start, c :: cs => if s = c then dropPrefix? start cs else none

/-- The text before `last`, when it ends with that character. -/
def dropLast? (last : Char) (cs : List Char) : Option (List Char) :=
  match cs.reverse with
  | c :: before => if c = last then some before.reverse else none
  | [] => none

theorem splitOn_ne_nil (sep : Char) (cs : List Char) : splitOn sep cs ≠ [] := by
  cases cs with
  | nil => simp [splitOn]
  | cons c cs =>
    by_cases h : c = sep
    · simp [splitOn, h]
    · simp only [splitOn, h, if_false]
      split <;> simp

theorem joinWith_cons_of_ne_nil {sep piece : List Char} {pieces : List (List Char)} (h : pieces ≠ []) :
    joinWith sep (piece :: pieces) = piece ++ sep ++ joinWith sep pieces := by
  cases pieces with
  | nil => exact absurd rfl h
  | cons => rfl

/-- Joining the pieces gives the text back. -/
theorem joinWith_splitOn (sep : Char) (cs : List Char) : joinWith [sep] (splitOn sep cs) = cs := by
  induction cs with
  | nil => rfl
  | cons c cs ih =>
    by_cases h : c = sep
    · simp [splitOn, h, joinWith_cons_of_ne_nil (splitOn_ne_nil sep cs), ih]
    · simp only [splitOn, h, if_false]
      match hp : splitOn sep cs with
      | [] => exact absurd hp (splitOn_ne_nil sep cs)
      | [piece] => simpa [hp, joinWith] using ih
      | piece :: second :: pieces => simpa [hp, joinWith] using ih

theorem dropPrefix?_eq_some {start cs rest : List Char} : dropPrefix? start cs = some rest ↔ cs = start ++ rest := by
  induction start generalizing cs with
  | nil => simp [dropPrefix?, eq_comm]
  | cons s start ih =>
    cases cs with
    | nil => simp [dropPrefix?]
    | cons c cs =>
      by_cases h : s = c
      · simp [dropPrefix?, h, ih]
      · simp [dropPrefix?, h, eq_comm]

end ClusterQuery
