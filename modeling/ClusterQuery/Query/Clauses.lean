import ClusterQuery.Query.Words

/-!
The clauses of a query as texts. A clause begins with its keyword and ends before the next one; keywords count
only as words outside quotes, parentheses and brackets.
-/

namespace ClusterQuery

/-- A clause and the text after its keyword. -/
structure ClauseText where
  clause : Clause
  body : List Char
deriving DecidableEq

namespace ClauseText

/-- The clause that a keyword of one word begins. -/
def clauseOf? (word : List Char) : Option Clause :=
  if sameIgnoringCase word "select".toList then some .select
  else if sameIgnoringCase word "from".toList then some .from
  else if sameIgnoringCase word "where".toList then some .where
  else if sameIgnoringCase word "limit".toList then some .limit
  else none

/-- Whether two words are `ORDER BY`. -/
def isOrderBy (first second : List Char) : Bool :=
  sameIgnoringCase first "order".toList && sameIgnoringCase second "by".toList

/-- The text before the first clause, and the clauses. -/
def split : List Piece → List Char × List ClauseText
  | [] => ([], [])
  | .word first :: .blanks gap :: .word second :: pieces =>
    if isOrderBy first second then
      let (body, clauses) := split pieces
      ([], ⟨.orderBy, body⟩ :: clauses)
    else
      let (body, clauses) := split (.blanks gap :: .word second :: pieces)
      match clauseOf? first with
      | some clause => ([], ⟨clause, body⟩ :: clauses)
      | none => (first ++ body, clauses)
  | piece :: pieces =>
    let (body, clauses) := split pieces
    match piece.word?.bind clauseOf? with
    | some clause => ([], ⟨clause, body⟩ :: clauses)
    | none => (piece.text ++ body, clauses)

/-- The first clause that does not come after the one before it, and that one. -/
def misplaced? : List ClauseText → Option (Clause × Clause)
  | a :: b :: rest => if a.clause.rank < b.clause.rank then misplaced? (b :: rest) else some (b.clause, a.clause)
  | _ => none

/-- The text of a clause, without the blanks around it. -/
def body? (clauses : List ClauseText) (clause : Clause) : Option (List Char) :=
  (clauses.find? fun c => c.clause == clause).map fun c => trim c.body

/-- The clauses of a text, which is not empty and has no blanks around it. -/
def ofText (cs : List Char) : Except SyntaxError (List ClauseText) := do
  let (before, clauses) := split (← Piece.cut cs)
  match misplaced? clauses with
  | some (clause, last) => .error (.clauseOrder clause last)
  | none =>
    match clauses with
    | [] => .error (.noClause (String.ofList cs))
    | first :: _ =>
      if before.isEmpty then .ok clauses else .error (.textBefore first.clause (String.ofList (trim before)))

end ClauseText

end ClusterQuery
