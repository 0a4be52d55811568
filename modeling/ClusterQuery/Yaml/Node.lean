import ClusterQuery.Yaml.Token

/-!
YAML texts as trees. Lists and mappings are indented blocks or stand in brackets. A mapping binds a key once.
-/

namespace ClusterQuery

namespace Yaml

inductive Node where
  | null
  /-- A text, and whether it has no quotes. -/
  | text (cs : List Char) (plain : Bool)
  | list (items : List Node)
  | map (entries : List (List Char × Node))
deriving Inhabited

/-- What a reader found, and the tokens after it, of which there are fewer than it began with. -/
abbrev Found (α : Type) (ts : List Token) := { r : α × List Token // r.2.length < ts.length }

/-- The same with perhaps nothing read. -/
abbrev Remaining (α : Type) (ts : List Token) := { r : α × List Token // r.2.length ≤ ts.length }

def Token.is (t : Token) (s : Symbol) : Bool := t.content == .symbol s

/-- The entries with one more in front, if its key is new. -/
def bindKey? (key : List Char) (value : Node) (entries : List (List Char × Node)) : Option (List (List Char × Node)) :=
  if entries.any fun e => e.1 == key then none else some ((key, value) :: entries)

/-- The text at the front of a block entry: a key if a colon follows in its line. -/
def key? (ts : List Token) : Option (List Char × Nat × List Token) :=
  match ts with
  | ⟨line, _, .text cs _⟩ :: colon :: rest =>
    if colon.is .colon && colon.line == line then some (cs, line, rest) else none
  | _ => none

theorem length_lt_of_key? {ts rest : List Token} {cs : List Char} {line : Nat} (h : key? ts = some (cs, line, rest)) :
    rest.length < ts.length := by
  unfold key? at h
  split at h
  · split at h
    · cases h
      exact Nat.lt_succ_of_lt (Nat.lt_succ_self _)
    · cases h
  · cases h

/-! ### In brackets -/

mutual

/-- A node in brackets. -/
def readFlow (ts : List Token) : Option (Found Node ts) :=
  match ts with
  | [] => none
  | t :: rest =>
    match t.content with
    | .text cs plain => some ⟨(.text cs plain, rest), by simp⟩
    | .symbol .openList =>
      (readFlowItems rest).map fun ⟨(items, after), h⟩ => ⟨(.list items, after), by simp at h ⊢; omega⟩
    | .symbol .openMap =>
      (readFlowEntries rest).map fun ⟨(entries, after), h⟩ => ⟨(.map entries, after), by simp at h ⊢; omega⟩
    | _ => none
termination_by 2 * ts.length

/-- The items up to the closing bracket. -/
def readFlowItems (ts : List Token) : Option (Found (List Node) ts) :=
  match ts with
  | [] => none
  | t :: rest =>
    if t.is .closeList then some ⟨([], rest), by simp⟩
    else
      match readFlow (t :: rest) with
      | some ⟨(item, next :: after), h⟩ =>
        if next.is .closeList then some ⟨([item], after), by simp at h ⊢; omega⟩
        else if next.is .comma then
          match readFlowItems after with
          | some ⟨(items, after), h2⟩ => some ⟨(item :: items, after), by simp at h h2 ⊢; omega⟩
          | none => none
        else none
      | _ => none
termination_by 2 * ts.length + 1
decreasing_by
  · simp
  · simp at h ⊢
    omega

/-- The entries up to the closing brace. A key without a value is bound to null. -/
def readFlowEntries (ts : List Token) : Option (Found (List (List Char × Node)) ts) :=
  match ts with
  | [] => none
  | t :: rest =>
    if t.is .closeMap then some ⟨([], rest), by simp⟩
    else
      match t.content with
      | .symbol _ => none
      | .text key _ =>
        match readFlowValue rest with
        | some ⟨(value, next :: after), h⟩ =>
          if next.is .closeMap then some ⟨([(key, value)], after), by simp at h ⊢; omega⟩
          else if next.is .comma then
            match readFlowEntries after with
            | some ⟨(entries, after), h2⟩ =>
              (bindKey? key value entries).map fun entries => ⟨(entries, after), by simp at h h2 ⊢; omega⟩
            | none => none
          else none
        | _ => none
termination_by 2 * ts.length + 1
decreasing_by
  · simp
  · simp at h ⊢
    omega

/-- The value after a key in braces. -/
def readFlowValue (ts : List Token) : Option (Remaining Node ts) :=
  match ts with
  | colon :: t :: rest =>
    if !colon.is .colon then some ⟨(.null, colon :: t :: rest), by simp⟩
    else if t.is .comma || t.is .closeMap then some ⟨(.null, t :: rest), by simp⟩
    else
      match readFlow (t :: rest) with
      | some ⟨(value, after), h⟩ => some ⟨(value, after), by simp at h ⊢; omega⟩
      | none => none
  | ts => some ⟨(.null, ts), by simp⟩
termination_by 2 * ts.length + 1
decreasing_by simp only [List.length_cons]; omega

end

/-! ### In blocks -/

mutual

/-- A node that begins in a column of its own. -/
def readBlock (ts : List Token) : Option (Found Node ts) :=
  match ts with
  | [] => none
  | t :: rest =>
    if t.is .dash then
      match readNested t.column rest with
      | none => none
      | some ⟨(item, after), h⟩ =>
        match readItems t.column after with
        | none => none
        | some ⟨(items, after), h2⟩ => some ⟨(.list (item :: items), after), by simp at h h2 ⊢; omega⟩
    else
      match hk : key? (t :: rest) with
      | none => readFlow (t :: rest)
      | some (key, line, afterKey) =>
        have hlt := length_lt_of_key? hk
        match readValue line t.column afterKey with
        | none => none
        | some ⟨(value, afterValue), h⟩ =>
          match readEntries t.column afterValue with
          | none => none
          | some ⟨(entries, after), h2⟩ =>
            (bindKey? key value entries).map fun entries => ⟨(.map entries, after), by simp at hlt h h2 ⊢; omega⟩
termination_by 6 * ts.length + 2
decreasing_by
  · simp
    omega
  · simp at h ⊢
    omega
  · simp at hlt ⊢
    omega
  · simp at hlt h ⊢
    omega

/-- The items whose dashes stand in a column. -/
def readItems (column : Nat) (ts : List Token) : Option (Remaining (List Node) ts) :=
  match ts with
  | [] => some ⟨([], []), by simp⟩
  | t :: rest =>
    if t.is .dash && t.column == column then
      match readNested column rest with
      | none => none
      | some ⟨(item, after), h⟩ =>
        match readItems column after with
        | none => none
        | some ⟨(items, after), h2⟩ => some ⟨(item :: items, after), by simp at h h2 ⊢; omega⟩
    else some ⟨([], t :: rest), by simp⟩
termination_by 6 * ts.length
decreasing_by
  · simp
    omega
  · simp at h ⊢
    omega

/-- The node to the right of a column, or null. -/
def readNested (column : Nat) (ts : List Token) : Option (Remaining Node ts) :=
  match ts with
  | [] => some ⟨(.null, []), by simp⟩
  | t :: rest =>
    if column < t.column then
      match readBlock (t :: rest) with
      | some ⟨(node, after), h⟩ => some ⟨(node, after), by simp at h ⊢; omega⟩
      | none => none
    else some ⟨(.null, t :: rest), by simp⟩
termination_by 6 * ts.length + 3

/-- The value after a key in a line and column: in the same line, further to the right, or a list whose dashes
    stand in the column of the key. -/
def readValue (line column : Nat) (ts : List Token) : Option (Remaining Node ts) :=
  match ts with
  | [] => some ⟨(.null, []), by simp⟩
  | t :: rest =>
    if t.line == line then
      match readFlow (t :: rest) with
      | some ⟨(node, after), h⟩ => some ⟨(node, after), by simp at h ⊢; omega⟩
      | none => none
    else if t.is .dash && t.column == column then
      match readItems column (t :: rest) with
      | some ⟨(items, after), h⟩ => some ⟨(.list items, after), h⟩
      | none => none
    else readNested column (t :: rest)
termination_by 6 * ts.length + 4

/-- The entries whose keys stand in a column. -/
def readEntries (column : Nat) (ts : List Token) : Option (Remaining (List (List Char × Node)) ts) :=
  match ts with
  | [] => some ⟨([], []), by simp⟩
  | t :: rest =>
    if t.column != column then some ⟨([], t :: rest), by simp⟩
    else
      match hk : key? (t :: rest) with
      | none => some ⟨([], t :: rest), by simp⟩
      | some (key, line, afterKey) =>
        have hlt := length_lt_of_key? hk
        match readValue line column afterKey with
        | none => none
        | some ⟨(value, afterValue), h⟩ =>
          match readEntries column afterValue with
          | none => none
          | some ⟨(entries, after), h2⟩ =>
            (bindKey? key value entries).map fun entries => ⟨(entries, after), by simp at hlt h h2 ⊢; omega⟩
termination_by 6 * ts.length + 1
decreasing_by
  · simp at hlt ⊢
    omega
  · simp at hlt h ⊢
    omega

end

/-! ### Documents -/

/-- The node that all tokens make up; no tokens are null. -/
def nodeOf? (ts : List Token) : Option Node :=
  match ts with
  | [] => some .null
  | ts =>
    match readBlock ts with
    | some ⟨(node, []), _⟩ => some node
    | _ => none

/-- The tokens of the documents of a text: cut where documents start and end. A text begins with a document
    whether that is said or not, unless it is empty. -/
def cutDocuments : List Token → List (List Token)
  | [] => [[]]
  | t :: ts =>
    match cutDocuments ts with
    | [] => [[t]]
    | document :: documents =>
      if t.is .documentStart || t.is .documentEnd then [] :: document :: documents
      else (t :: document) :: documents

/-- The documents of a text. -/
def documents? (cs : List Char) : Option (List Node) := do
  let ts ← tokens? (cs.length + 1) {} cs
  ((cutDocuments ts).filter fun document => !document.isEmpty).mapM nodeOf?

/-! ### Typed parts -/

namespace Node

/-- Whether a node is null, by its text or as nothing. -/
def isNull : Node → Bool
  | .null => true
  | .text cs plain => plain && isNullText cs
  | _ => false

/-- The text of a node, unless it reads as something else. -/
def text? : Node → Option String
  | .text cs plain =>
    if plain && (isNullText cs || isBoolText cs || isIntegerText cs || isFloatText cs) then none
    else some (String.ofList cs)
  | _ => none

def list? : Node → Option (List Node)
  | .list items => some items
  | _ => none

def map? : Node → Option (List (List Char × Node))
  | .map entries => some entries
  | _ => none

/-- An entry that is there and not null. -/
def valueOf? (key : String) (entries : List (List Char × Node)) : Option Node :=
  match entries.find? fun e => e.1 == key.toList with
  | some (_, value) => if value.isNull then none else some value
  | none => none

/-- An entry of one form, if there is one. -/
def optional? {α : Type} (read? : Node → Option α) (key : String) (entries : List (List Char × Node)) :
    Option (Option α) :=
  match valueOf? key entries with
  | none => some none
  | some value => (read? value).map some

end Node

end Yaml

end ClusterQuery
