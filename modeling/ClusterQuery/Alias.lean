import ClusterQuery.Dictionary
import ClusterQuery.Text.Ascii
import ClusterQuery.Text.Blank
import ClusterQuery.Text.Split

/-!
Aliases: short names of fields. `AliasTable.resolve` turns a field as it is typed into the text of a path. It
reaches into reducer calls, keeps subscripts, and takes the rest of `labels.` and `annotations.` as one key.
-/

namespace ClusterQuery

/-- The name and the argument of a call `name(argument)` that is the whole text. -/
def splitCall (cs : List Char) : Option (List Char × List Char) :=
  match cs.dropWhile (· != '(') with
  | [] => none
  | _ :: rest =>
    let name := trim (cs.takeWhile (· != '('))
    if name.isEmpty || !name.all (fun c => isAsciiAlphanumeric c || c == '_') then none
    else (dropLast? ')' rest).map fun argument => (name, argument)

theorem length_dropLast?_lt {last : Char} {cs before : List Char} (h : dropLast? last cs = some before) :
    before.length < cs.length := by
  unfold dropLast? at h
  split at h
  · next c rest hr =>
    split at h
    · cases h
      have := congrArg List.length hr
      simp at this ⊢
      omega
    · cases h
  · cases h

theorem length_lt_of_splitCall {cs name argument : List Char} (h : splitCall cs = some (name, argument)) :
    argument.length < cs.length := by
  unfold splitCall at h
  split at h
  · cases h
  · next c rest hr =>
    dsimp only at h
    split at h
    · cases h
    · obtain ⟨a, ha, he⟩ := Option.map_eq_some_iff.1 h
      cases he
      have h1 := length_dropLast?_lt ha
      have h2 := List.IsSuffix.length_le (List.dropWhile_suffix (· != '(') (l := cs))
      rw [hr] at h2
      simp at h2
      omega

/-- What field names stand for. -/
structure AliasTable where
  entries : Dictionary String

namespace AliasTable

/-- The aliases that every query knows. -/
def builtin : AliasTable where
  entries :=
    [("name", "metadata.name"), ("namespace", "metadata.namespace"), ("labels", "metadata.labels"),
      ("annotations", "metadata.annotations"), ("created", "metadata.creationTimestamp"),
      ("deleted", "metadata.deletionTimestamp"), ("phase", "status.phase"), ("replicas", "spec.replicas"),
      ("conditions", "status.conditions"), ("uid", "metadata.uid")]

def get? (t : AliasTable) (name : String) : Option String := t.entries.get? name

/-- The table with more aliases; they replace those with the same name. -/
def extend (t : AliasTable) (aliases : List (String × String)) : AliasTable := ⟨t.entries.insertAll aliases⟩

/-- The prefixes whose rest is one key of a map, and the map. -/
def mapPrefixes : List (List Char × List Char) :=
  ["labels", "annotations"].map fun kind => (kind.toList ++ ['.'], "metadata.".toList ++ kind.toList)

/-- The key after one of the prefixes, and the map that it is a key of. -/
def mapEntry? (base : List Char) : Option (List Char × List Char) :=
  mapPrefixes.findSome? fun (start, map) =>
    match dropPrefix? start base with
    | some (c :: key) => some (map, c :: key)
    | _ => none

/-- Drops spaces and dots at both ends. -/
def trimName (cs : List Char) : List Char :=
  let isPadding (c : Char) : Bool := c == ' ' || c == '.'
  dropEndWhile isPadding (cs.dropWhile isPadding)

/-- The path text of a name and the subscripts after it. -/
def resolveName (t : AliasTable) (name subscripts : List Char) : List Char :=
  match t.get? (String.ofList name) with
  | some target => target.toList ++ subscripts
  | none =>
    match mapEntry? name with
    | some (map, key) => map ++ ['[', '"'] ++ key ++ ['"', ']'] ++ subscripts
    | none => name ++ subscripts

theorem length_trimStart_le (cs : List Char) : (trimStart cs).length ≤ cs.length :=
  List.IsSuffix.length_le (List.dropWhile_suffix isBlank)

theorem length_trim_le (cs : List Char) : (trim cs).length ≤ cs.length := by
  have h1 := List.IsSuffix.length_le (List.dropWhile_suffix isBlank (l := (trimStart cs).reverse))
  have h2 := length_trimStart_le cs
  simp [trim, trimEnd, dropEndWhile] at h1 h2 ⊢
  omega

/-- The path text of a field as typed; a call keeps its name. -/
def resolve (t : AliasTable) (field : List Char) : List Char :=
  match _h : splitCall (trim field) with
  | some (name, argument) => name ++ '(' :: resolve t argument ++ [')']
  | none =>
    let text := trim field
    resolveName t (trimName (text.takeWhile (· != '['))) (text.dropWhile (· != '['))
termination_by field.length
decreasing_by
  have := length_lt_of_splitCall _h
  have := length_trim_le field
  omega

end AliasTable

end ClusterQuery
