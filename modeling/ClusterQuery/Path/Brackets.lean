/-!
Texts with square brackets, in which quotes count only inside brackets. `splitTopLevel` cuts a text at the
separators outside all brackets, and `closeBracket` finds the end of a subscript.
-/

namespace ClusterQuery

def isQuote (c : Char) : Bool := c == '\'' || c == '"'

/-- Puts a character in front of the first piece. -/
def growFirst (c : Char) : List (List Char) → List (List Char)
  | [] => [[c]]
  | piece :: pieces => (c :: piece) :: pieces

/-- The pieces of the rest of a text, inside `depth` brackets and maybe a quote. -/
def splitInside (sep : Char) (depth : Nat) (quote : Option Char) : List Char → Option (List (List Char))
  | [] => if depth = 0 && quote.isNone then some [[]] else none
  | c :: cs =>
    match quote with
    | some q => (splitInside sep depth (if c = q then none else some q) cs).map (growFirst c)
    | none =>
      if isQuote c && 0 < depth then (splitInside sep depth (some c) cs).map (growFirst c)
      else if c = '[' then (splitInside sep (depth + 1) none cs).map (growFirst c)
      else if c = ']' then
        match depth with
        | 0 => none
        | depth + 1 => (splitInside sep depth none cs).map (growFirst c)
      else if c = sep && depth = 0 then (splitInside sep 0 none cs).map ([] :: ·)
      else (splitInside sep depth none cs).map (growFirst c)

/-- The pieces of a text between the separators outside brackets; nothing if a bracket or a quote in one is
    left open or a bracket closes nothing. -/
def splitTopLevel (sep : Char) (cs : List Char) : Option (List (List Char)) := splitInside sep 0 none cs

/-- The text up to the closing bracket and after it. Quotes shield brackets; an opening bracket outside them
    is refused. -/
def closeBracket (quote : Option Char) : List Char → Option (List Char × List Char)
  | [] => none
  | c :: cs =>
    match quote with
    | some q => (closeBracket (if c = q then none else some q) cs).map fun (inner, rest) => (c :: inner, rest)
    | none =>
      if isQuote c then (closeBracket (some c) cs).map fun (inner, rest) => (c :: inner, rest)
      else if c = ']' then some ([], cs)
      else if c = '[' then none
      else (closeBracket none cs).map fun (inner, rest) => (c :: inner, rest)

/-- The text before the closing bracket, the bracket and the rest are the text. -/
theorem eq_of_closeBracket {quote : Option Char} {cs inner rest : List Char}
    (h : closeBracket quote cs = some (inner, rest)) : cs = inner ++ ']' :: rest := by
  induction cs generalizing quote inner with
  | nil => simp [closeBracket] at h
  | cons c cs ih =>
    have step : ∀ {quote' : Option Char},
        (closeBracket quote' cs).map (fun (inner, rest) => (c :: inner, rest)) = some (inner, rest) →
        c :: cs = inner ++ ']' :: rest := by
      intro quote' h
      obtain ⟨⟨inner', rest'⟩, h', he⟩ := Option.map_eq_some_iff.1 h
      cases he
      rw [ih h']
      rfl
    cases quote with
    | some q => exact step h
    | none =>
      simp only [closeBracket] at h
      split at h
      · exact step h
      · split at h
        · next hc =>
          cases h
          rw [hc]
          rfl
        · split at h
          · cases h
          · exact step h

theorem length_lt_of_closeBracket {quote : Option Char} {cs inner rest : List Char}
    (h : closeBracket quote cs = some (inner, rest)) : rest.length < cs.length := by
  rw [eq_of_closeBracket h]
  simp
  omega

end ClusterQuery
