import ClusterQuery.Path.Basic
import ClusterQuery.Path.Brackets
import ClusterQuery.Number.Bounded
import ClusterQuery.Text.Blank
import ClusterQuery.Text.Split

/-!
Reading paths. A path is cut at its dots into segments; a segment is a key or a number and subscripts after
it: `key[0]`, `key[*]`, `key[name]`, `key["dotted.name"]`.
-/

namespace ClusterQuery.Path

/-- Characters that no key between dots holds. -/
def invalidKeyChars : List Char :=
  [' ', '\t', '\n', '\r', '\x7b', '\x7d', '(', ')', '\'', '+', '*', '/', '%', '&', '|', '^', '!', '=', '<', '>',
    ',', ';', ':', '\x60', '"']

/-- The number that a text of digits spells, if it fits a word. -/
def number? (cs : List Char) : Option Nat := (readDigits? cs).bind fun n => if n < wordLimit then some n else none

/-- The text between two quotes of one kind, or the text itself. -/
def unquote (cs : List Char) : List Char :=
  match cs with
  | '"' :: rest => (dropLast? '"' rest).getD cs
  | '\'' :: rest => (dropLast? '\'' rest).getD cs
  | _ => cs

/-- The step of a subscript, from the text between its brackets. -/
def subscript (cs : List Char) : Except Fault Step :=
  if cs = [] then .error .emptySubscript
  else if cs = ['*'] then .ok .wildcard
  else
    match number? cs with
    | some n => .ok (.index n)
    | none =>
      match unquote cs with
      | [] => .error .emptySubscript
      | name => .ok (.mapKey (String.ofList name))

/-- The steps of the subscripts that follow a key. -/
def subscripts (cs : List Char) : Except Fault (List Step) :=
  match cs with
  | [] => .ok []
  | c :: rest =>
    if c = '[' then
      match _h : closeBracket none rest with
      | none => .error .unbalanced
      | some (inner, after) => do
        let step ← subscript (trim inner)
        let steps ← subscripts after
        return step :: steps
    else .error (.trailingText (String.ofList (c :: rest)))
termination_by cs.length
decreasing_by
  have := length_lt_of_closeBracket _h
  simp
  omega

/-- The step of the text between dots and before any bracket. -/
def keyStep (cs : List Char) : Step :=
  match number? cs with
  | some n => .position n
  | none => .key (String.ofList cs)

/-- The steps of a segment. -/
def segment (cs : List Char) : Except Fault (List Step) :=
  let base := cs.takeWhile (· != '[')
  if base.isEmpty then .error .emptySegment
  else
    match base.find? fun c => invalidKeyChars.contains c || c == ']' with
    | some c => .error (.invalidChar (String.ofList cs) c)
    | none => do
      let steps ← subscripts (cs.dropWhile (· != '['))
      return keyStep base :: steps

/-- The steps of several segments. -/
def segments : List (List Char) → Except Fault (List Step)
  | [] => .ok []
  | cs :: rest => do
    let steps ← segment cs
    let more ← segments rest
    return steps ++ more

/-- Reads a path; blanks around it do not count. -/
def parse (cs : List Char) : Except Error Path :=
  let text := trim cs
  let found : Except Fault (List Step) :=
    if text.isEmpty then .error .empty
    else
      match splitTopLevel '.' text with
      | none => .error .unbalanced
      | some pieces => segments pieces
  match found with
  | .ok steps => .ok ⟨steps⟩
  | .error fault => .error ⟨String.ofList text, fault⟩

end ClusterQuery.Path
