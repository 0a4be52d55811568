import ClusterQuery.Query.Engine
import ClusterQuery.Report.Table
import ClusterQuery.Yaml.Printer

/-!
Answers as texts: tables, JSON, YAML, and the names alone.
-/

namespace ClusterQuery

inductive Format where
  | table | json | yaml | name
deriving DecidableEq

namespace Format

def text : Format → String
  | .table => "table"
  | .json => "json"
  | .yaml => "yaml"
  | .name => "name"

def named? (s : String) : Option Format := [table, json, yaml, name].find? fun f => f.text == s

end Format

/-- What is reported: titles, and rows of cells. No row of an answer is longer than the titles; cells behind the last
    title are left out of tables. -/
structure Report where
  titles : List String
  rows : List (List (Option Value))

namespace Report

def ofResult (r : QueryResult) : Report := ⟨r.columns.map (·.title), r.rows⟩

/-- The text of a cell; an absent value has none. -/
def cellText : Option Value → List Char
  | some v => v.display
  | none => []

/-- What is printed instead of a table without rows. -/
def emptyTable : List Char := "No resources found\n".toList

def table (headers : Bool) (r : Report) : List Char :=
  if r.rows.isEmpty then emptyTable
  else Table.render headers (r.titles.map String.toList) (r.rows.map fun row => row.map cellText)

/-- A row as an object with the titles as keys. -/
def rowObject (titles : List String) (row : List (Option Value)) : Json :=
  .object (List.zipWith (fun title cell => (title, (cell.map Value.toJson).getD .null)) titles row)

def objects (r : Report) : List Json := r.rows.map (rowObject r.titles)

def json (r : Report) : List Char := (Json.array r.objects).indented 0 ++ ['\n']

def yaml (r : Report) : List Char := Yaml.listDocument r.objects

/-- The texts of the first cells, those that are not empty. -/
def names (r : Report) : List Char :=
  r.rows.flatMap fun row =>
    let name := cellText (row.head?.join)
    if name.isEmpty then [] else name ++ ['\n']

/-- The text of a report. Only tables have headers. -/
def render (format : Format) (headers : Bool) (r : Report) : List Char :=
  match format with
  | .table => r.table headers
  | .json => r.json
  | .yaml => r.yaml
  | .name => r.names

end Report

end ClusterQuery
