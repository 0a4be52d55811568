import ClusterQuery.Query.Error
import ClusterQuery.Path.Brackets
import ClusterQuery.Text.Blank

/-!
The words of a query. Blanks separate words, except in quotes, parentheses and brackets. A text is cut into
words and the blanks between them, so that joining the pieces gives the text back.
-/

namespace ClusterQuery

inductive Piece where
  | blanks (cs : List Char)
  | word (cs : List Char)
deriving DecidableEq

namespace Piece

def text : Piece → List Char
  | .blanks cs | .word cs => cs

/-- The text that pieces were cut from. -/
def join (pieces : List Piece) : List Char := pieces.flatMap text

def word? : Piece → Option (List Char)
  | .word cs => some cs
  | .blanks _ => none

/-- Puts a blank in front. -/
def consBlank (c : Char) : List Piece → List Piece
  | .blanks cs :: pieces => .blanks (c :: cs) :: pieces
  | pieces => .blanks [c] :: pieces

/-- Puts a character of a word in front. -/
def consWord (c : Char) : List Piece → List Piece
  | .word cs :: pieces => .word (c :: cs) :: pieces
  | pieces => .word [c] :: pieces

/-- The pieces of the rest of a text, `offset` bytes into it, inside `depth` brackets and maybe a quote. -/
def cutFrom (offset depth : Nat) (quote : Option Char) : List Char → Except SyntaxError (List Piece)
  | [] =>
    if quote.isSome then .error .unterminatedText
    else if depth ≠ 0 then .error .openBrackets
    else .ok []
  | c :: cs =>
    let next := offset + c.utf8Size
    match quote with
    | some q => (cutFrom next depth (if c = q then none else some q) cs).map (consWord c)
    | none =>
      if isBlank c && depth = 0 then (cutFrom next depth none cs).map (consBlank c)
      else if isQuote c then (cutFrom next depth (some c) cs).map (consWord c)
      else if c = '(' ∨ c = '[' then (cutFrom next (depth + 1) none cs).map (consWord c)
      else if c = ')' ∨ c = ']' then
        match depth with
        | 0 => .error (.unbalanced c offset)
        | depth + 1 => (cutFrom next depth none cs).map (consWord c)
      else (cutFrom next depth none cs).map (consWord c)

/-- The pieces of a text. -/
def cut (cs : List Char) : Except SyntaxError (List Piece) := cutFrom 0 0 none cs

theorem join_consBlank (c : Char) (pieces : List Piece) : join (consBlank c pieces) = c :: join pieces := by
  unfold consBlank
  split <;> simp [join, text]

end Piece

end ClusterQuery
