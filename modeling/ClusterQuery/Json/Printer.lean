import ClusterQuery.Json.Basic
import ClusterQuery.Number.Decimal

/-!
Writing JSON values, in one line or indented by two spaces a level. Fields are written in the order in which
an object holds them.
-/

namespace ClusterQuery.Json

/-- Numbers have a point or an exponent when they are not whole numbers of their type; the point is written
    positionally between `1e-5` and `1e16`. -/
def floatStyle : Binary64.FloatStyle :=
  { fixedFrom := some (-4), fixedBelow := some 17, keepsPoint := true, signsExponent := true, tieUp := false }

def hexDigit (n : Nat) : Char := Char.ofNat (if n < 10 then '0'.toNat + n else 'a'.toNat + (n - 10))

/-- How a character stands in a string literal. -/
def escape (c : Char) : List Char :=
  match c with
  | '"' => ['\\', '"']
  | '\\' => ['\\', '\\']
  | '\x08' => ['\\', 'b']
  | '\x0c' => ['\\', 'f']
  | '\n' => ['\\', 'n']
  | '\r' => ['\\', 'r']
  | '\t' => ['\\', 't']
  | c => if c.toNat < 0x20 then ['\\', 'u', '0', '0', hexDigit (c.toNat / 16), hexDigit (c.toNat % 16)] else [c]

/-- A string literal. -/
def quote (s : String) : List Char := '"' :: s.toList.flatMap escape ++ ['"']

/-- The text of a number; those that no literal spells are null. -/
def numberText : JsonNumber → List Char
  | .whole i => decimalText i
  | .float x => if x.isFinite then x.render floatStyle else ['n', 'u', 'l', 'l']

def boolText (b : Bool) : List Char := if b then ['t', 'r', 'u', 'e'] else ['f', 'a', 'l', 's', 'e']

mutual

/-- The text without any blanks. -/
def compact : Json → List Char
  | .null => ['n', 'u', 'l', 'l']
  | .bool b => boolText b
  | .number n => numberText n
  | .string s => quote s
  | .array items => '[' :: compactItems items ++ [']']
  | .object fields => '\x7b' :: compactFields fields ++ ['\x7d']

def compactItems : List Json → List Char
  | [] => []
  | [item] => compact item
  | item :: items => compact item ++ ',' :: compactItems items

def compactFields : List (String × Json) → List Char
  | [] => []
  | [(key, value)] => quote key ++ ':' :: compact value
  | (key, value) :: fields => quote key ++ ':' :: compact value ++ ',' :: compactFields fields

end

/-- A new line at a level. -/
def newLine (level : Nat) : List Char := '\n' :: List.replicate (2 * level) ' '

mutual

/-- The text with each item and field on a line of its own, at a level of nesting. -/
def indented (level : Nat) : Json → List Char
  | .null => ['n', 'u', 'l', 'l']
  | .bool b => boolText b
  | .number n => numberText n
  | .string s => quote s
  | .array [] => ['[', ']']
  | .array (item :: items) =>
    '[' :: indentedItems (level + 1) (item :: items) ++ newLine level ++ [']']
  | .object [] => ['\x7b', '\x7d']
  | .object (field :: fields) =>
    '\x7b' :: indentedFields (level + 1) (field :: fields) ++ newLine level ++ ['\x7d']

def indentedItems (level : Nat) : List Json → List Char
  | [] => []
  | [item] => newLine level ++ indented level item
  | item :: items => newLine level ++ indented level item ++ ',' :: indentedItems level items

def indentedFields (level : Nat) : List (String × Json) → List Char
  | [] => []
  | [(key, value)] => newLine level ++ quote key ++ ':' :: ' ' :: indented level value
  | (key, value) :: fields =>
    newLine level ++ quote key ++ ':' :: ' ' :: indented level value ++ ',' :: indentedFields level fields

end

end ClusterQuery.Json
