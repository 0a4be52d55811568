import ClusterQuery.Alias
import ClusterQuery.Json.Reader
import ClusterQuery.Projection.Table

/-!
The settings file: more aliases, and columns for kinds. Settings and columns are objects, or arrays of their
fields in order; fields of other names are skipped, a field given twice is refused, and of entries with one
key the last counts.
-/

namespace ClusterQuery

structure Settings where
  aliases : List (String × String) := []
  /-- The columns of each kind. -/
  tableFields : List (String × List TableField) := []
deriving DecidableEq

namespace Settings

/-- The only field with a name, if there is at most one. -/
def onlyField? (name : String) (fields : List (Option String × JsonText)) : Option (Option JsonText) :=
  match fields.filter fun (key, _) => key == some name with
  | [] => some none
  | [(_, value)] => some (some value)
  | _ => none

/-- The fields with these names, in their order, and whether nothing speaks against the object: no name occurs
    twice and every key is a text. -/
def fieldsNamed? (names : List String) (fields : List (Option String × JsonText)) :
    Option (List (Option JsonText)) :=
  if fields.all (fun (key, _) => key.isSome) then names.mapM fun name => onlyField? name fields else none

def readText? : JsonText → Option String
  | .string text => text
  | _ => none

/-- The entries of an object whose values all have one form, ordered by key. -/
def readEntries? {α : Type} (read? : JsonText → Option α) : JsonText → Option (List (String × α))
  | .object fields => do
    let entries ← fields.mapM fun (key, value) => do return (← key, ← read? value)
    let distinct : Dictionary α := Dictionary.insertAll [] entries
    return distinct.mergeSort fun a b => a.1 ≤ b.1
  | _ => none

/-- A column: a title and an expression. -/
def readField? : JsonText → Option TableField
  | .array [title, expression] => do return ⟨← readText? title, ← readText? expression⟩
  | .object fields => do
    match ← fieldsNamed? ["title", "name"] fields with
    | [some title, some expression] => return ⟨← readText? title, ← readText? expression⟩
    | _ => none
  | _ => none

def readFields? : JsonText → Option (List TableField)
  | .array items => items.mapM readField?
  | _ => none

/-- Settings from the two fields, either of which may be missing. -/
def ofFields? (aliases tableFields : Option JsonText) : Option Settings := do
  let aliases ← match aliases with
    | some text => readEntries? readText? text
    | none => some []
  let tableFields ← match tableFields with
    | some text => readEntries? readFields? text
    | none => some []
  return { aliases, tableFields }

/-- The settings that a text spells. -/
def ofText? : JsonText → Option Settings
  | .array [] => ofFields? none none
  | .array [aliases] => ofFields? aliases none
  | .array [aliases, tableFields] => ofFields? aliases tableFields
  | .object fields => do
    match ← fieldsNamed? ["aliases", "table-fields"] fields with
    | [aliases, tableFields] => ofFields? aliases tableFields
    | _ => none
  | _ => none

/-- Reads a settings file. -/
def parse? (cs : List Char) : Option Settings := (JsonText.parse? cs).bind ofText?

/-- The built-in aliases and those of the settings. -/
def aliasTable (s : Settings) : AliasTable := AliasTable.builtin.extend s.aliases

/-- The built-in columns and those of the settings. -/
def projectionTable (s : Settings) : ProjectionTable := ProjectionTable.builtin.extend s.tableFields

end Settings

end ClusterQuery
