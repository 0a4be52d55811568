import ClusterQuery.Query.Basic
import ClusterQuery.Query.Clauses
import ClusterQuery.Text.ByteLength

/-!
Reading queries. Every clause is read from its own text, and aliases are resolved; nothing depends on what the
cluster holds.
-/

namespace ClusterQuery

namespace Query

/-! ### Selection -/

/-- Pieces split at the last word that satisfies `p`. -/
def splitAtLastWord (p : List Char → Bool) : List Piece → Option (List Piece × List Char × List Piece)
  | [] => none
  | piece :: pieces =>
    match splitAtLastWord p pieces with
    | some (before, word, after) => some (piece :: before, word, after)
    | none =>
      match piece with
      | .word w => if p w then some ([], w, pieces) else none
      | .blanks _ => none

def isTitleText (cs : List Char) : Bool := !cs.isEmpty && cs.all fun c => isAsciiAlphanumeric c || c == '_'

/-- Reads `field` or `field AS alias`. -/
def parseSelectItem (aliases : AliasTable) (cs : List Char) : Except QueryError SelectItem := do
  let pieces ← (Piece.cut cs).mapError .invalidSyntax
  match splitAtLastWord (sameIgnoringCase · "as".toList) pieces with
  | some (before, _, after) =>
    if !before.any (·.word?.isSome) then malformed (.missingBeforeAs (String.ofList cs))
    let title := trim (Piece.join after)
    if !isTitleText title then malformed (.invalidTitle (String.ofList title))
    let (field, _) ← Field.parse aliases (trim (Piece.join before))
    return ⟨field, String.ofList title, true⟩
  | none =>
    let (field, text) ← Field.parse aliases cs
    return .implicit field text

/-- Reads the items after `items`, which are in reverse order. -/
def parseItems (aliases : AliasTable) (items : List SelectItem) : List (List Char) → Except QueryError (List SelectItem)
  | [] => .ok items.reverse
  | cs :: rest => do
    let text := trim cs
    if text.isEmpty then malformed (.emptyItem (items.length + 1))
    if text = ['*'] then malformed .starWithOthers
    let item ← parseSelectItem aliases text
    if items.any (·.title == item.title) then malformed (.duplicateColumn item.title)
    parseItems aliases (item :: items) rest

/-- Reads the text of a `SELECT` clause. -/
def parseSelection (aliases : AliasTable) (body : List Char) : Except QueryError Selection :=
  if body.isEmpty then malformed .emptySelect
  else if body = ['*'] then .ok .all
  else
    match splitTopLevel ',' body with
    | none => malformed (.unbalancedSelect (String.ofList body))
    | some items => (parseItems aliases [] items).map .only

/-! ### Source -/

def isLabelEnd (c : Char) : Bool := ('a' ≤ c && c ≤ 'z') || isDigit c

/-- Whether a text is a label: lower-case letters, digits and hyphens, the latter only inside. -/
def isLabel (cs : List Char) : Bool :=
  cs.head?.any isLabelEnd && cs.getLast?.any isLabelEnd && cs.all fun c => isLabelEnd c || c == '-'

/-- Checks a name: labels with dots between them. -/
def checkName (role : NameRole) (cs : List Char) : Except QueryError Unit :=
  if cs.isEmpty then malformed (.emptyName role)
  else if nameLimit < byteLength cs then malformed (.longName role (String.ofList cs))
  else if (splitOn '.' cs).all isLabel then .ok ()
  else malformed (.invalidName role (String.ofList cs))

/-- Reads the text of a `FROM` clause: a resource, maybe after a namespace or `*` and a slash. -/
def parseSource (body : List Char) : Except QueryError Source := do
  if body.isEmpty then malformed .emptyFrom
  match splitFirst (· == '/') body with
  | some (scope, name) =>
    if scope = ['*'] then
      checkName .resource name
      return ⟨String.ofList name, .everywhere⟩
    else
      checkName .namespace scope
      checkName .resource name
      return ⟨String.ofList name, .namespace (String.ofList scope)⟩
  | none =>
    checkName .resource body
    return ⟨String.ofList body, .current⟩

/-! ### Condition and limit -/

/-- Reads the text of a `WHERE` clause, which stays text. -/
def parseFilter (body : List Char) : Except QueryError String :=
  if body.isEmpty then malformed .emptyWhere else .ok (String.ofList body)

/-- Reads the text of a `LIMIT` clause. -/
def parseLimit (body : List Char) : Except QueryError Nat :=
  match readWord? body with
  | some n => .ok n
  | none => malformed (.invalidLimit (String.ofList body))

/-! ### Order -/

/-- The item that a text orders by: the selected one with this title, else the selected one with the same field,
    else one of its own. -/
def orderTarget (aliases : AliasTable) (selected : List SelectItem) (cs : List Char) :
    Except QueryError SelectItem :=
  match selected.find? fun i => i.title == String.ofList cs with
  | some item => .ok item
  | none => do
    let (field, text) ← Field.parse aliases cs
    return (selected.find? fun i => i.field == field).getD (.implicit field text)

/-- The text of an item without its direction, and whether that is descending; `none` for an empty item. -/
def splitDirection (cs : List Char) : Except QueryError (Option (List Char × Bool)) := do
  let pieces ← (Piece.cut cs).mapError .invalidSyntax
  match splitAtLastWord (fun _ => true) pieces with
  | none => return none
  | some (before, last, _) =>
    if sameIgnoringCase last "desc".toList then return some (trim (Piece.join before), true)
    else if sameIgnoringCase last "asc".toList then return some (trim (Piece.join before), false)
    else return some (cs, false)

/-- Reads an item of an `ORDER BY` clause. -/
def parseOrderItem (aliases : AliasTable) (selected : List SelectItem) (cs : List Char) :
    Except QueryError OrderItem := do
  match ← splitDirection cs with
  | none => malformed .emptyOrderItem
  | some (text, descending) =>
    if text.isEmpty then malformed (.orderWithoutField (String.ofList cs))
    let item ← orderTarget aliases selected text
    return ⟨item, descending⟩

/-- Reads the text of an `ORDER BY` clause. -/
def parseOrder (aliases : AliasTable) (selected : List SelectItem) (body : List Char) :
    Except QueryError (List OrderItem) :=
  if body.isEmpty then malformed .emptyOrderBy
  else
    match splitTopLevel ',' body with
    | none => malformed (.unbalancedOrderBy (String.ofList body))
    | some items => items.mapM fun cs => parseOrderItem aliases selected (trim cs)

/-! ### Queries -/

/-- Reads the clauses of a query. -/
def ofClauses (aliases : AliasTable) (clauses : List ClauseText) : Except QueryError Query := do
  let source? ← (ClauseText.body? clauses .from).mapM parseSource
  let filter ← (ClauseText.body? clauses .where).mapM parseFilter
  let limit ← (ClauseText.body? clauses .limit).mapM parseLimit
  match source? with
  | none => malformed .missingFrom
  | some source =>
    let selection ← match ClauseText.body? clauses .select with
      | some body => parseSelection aliases body
      | none => pure .all
    let orderBy ← match ClauseText.body? clauses .orderBy with
      | some body => parseOrder aliases selection.named body
      | none => pure []
    return { selection, source, filter, orderBy, limit }

/-- Reads a query. -/
def parse (aliases : AliasTable) (cs : List Char) : Except QueryError Query := do
  let text := trim cs
  if text.isEmpty then malformed .empty
  let clauses ← (ClauseText.ofText text).mapError .invalidSyntax
  ofClauses aliases clauses

end Query

end ClusterQuery
