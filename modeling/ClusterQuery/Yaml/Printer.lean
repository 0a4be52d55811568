import ClusterQuery.Json.Printer
import ClusterQuery.Text.ByteLength
import ClusterQuery.Yaml.Scalar

/-!
Writing JSON values as YAML in block style. The items of a list in a mapping are not indented, and collections
without members are written in brackets.
-/

namespace ClusterQuery

namespace Yaml

/-- Numbers are written as in JSON, without a plus sign in exponents. -/
def floatStyle : Binary64.FloatStyle := { Json.floatStyle with signsExponent := false }

def numberText : JsonNumber → List Char
  | .whole i => decimalText i
  | .float x => if x.isFinite then x.render floatStyle else ['n', 'u', 'l', 'l']

/-- Ends the line of a text; a literal block may have ended it. -/
def endLine (cs : List Char) : List Char := if cs.getLast?.any isBreak then cs else cs ++ ['\n']

/-- Keys longer than this, or of several lines, are written after a question mark. -/
def simpleKeyLimit : Nat := 128

def isSimpleKey (cs : List Char) : Bool := !cs.any isBreak && byteLength cs ≤ simpleKeyLimit

/-- A key and its value, which is written in one of two ways. -/
def fieldText (indent : Nat) (key : List Char) (afterKey inLine : Unit → List Char) : List Char :=
  let keyText := textScalar (indent + indentStep) key
  if isSimpleKey key then keyText ++ ':' :: afterKey ()
  else endLine ('?' :: ' ' :: keyText) ++ spaces indent ++ ':' :: inLine ()

mutual

/-- A value after a hyphen or a colon. Collections begin on the same line; `indent` is that of what the value is
    a part of. -/
def inLine (indent : Nat) : Json → List Char
  | .null => " null".toList
  | .bool b => ' ' :: Json.boolText b
  | .number n => ' ' :: numberText n
  | .string s => ' ' :: textScalar (indent + indentStep) s.toList
  | .array [] => " []".toList
  | .array (item :: items) => ' ' :: itemLines (indent + indentStep) (item :: items)
  | .object [] => " \x7b\x7d".toList
  | .object (field :: fields) => ' ' :: fieldLines (indent + indentStep) (field :: fields)

/-- A value after a key and a colon. Collections begin on a line of their own. -/
def afterKey (indent : Nat) : Json → List Char
  | .null => " null".toList
  | .bool b => ' ' :: Json.boolText b
  | .number n => ' ' :: numberText n
  | .string s => ' ' :: textScalar (indent + indentStep) s.toList
  | .array [] => " []".toList
  | .array (item :: items) => '\n' :: spaces indent ++ itemLines indent (item :: items)
  | .object [] => " \x7b\x7d".toList
  | .object (field :: fields) =>
    '\n' :: spaces (indent + indentStep) ++ fieldLines (indent + indentStep) (field :: fields)

/-- The items of a list, each on a line of its own; the first one stands where the text stands. -/
def itemLines (indent : Nat) : List Json → List Char
  | [] => []
  | [item] => '-' :: inLine indent item
  | item :: items => endLine ('-' :: inLine indent item) ++ spaces indent ++ itemLines indent items

/-- The fields of an object, each on a line of its own; the first one stands where the text stands. -/
def fieldLines (indent : Nat) : List (String × Json) → List Char
  | [] => []
  | [(key, value)] => fieldText indent key.toList (fun _ => afterKey indent value) (fun _ => inLine indent value)
  | (key, value) :: fields =>
    endLine (fieldText indent key.toList (fun _ => afterKey indent value) (fun _ => inLine indent value)) ++
      spaces indent ++ fieldLines indent fields

end

/-- A document that is a list. -/
def listDocument (items : List Json) : List Char :=
  if items.isEmpty then "[]\n".toList else endLine (itemLines 0 items)

end Yaml

end ClusterQuery
