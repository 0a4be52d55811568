import ClusterQuery.Number.Decimal
import ClusterQuery.Text.Ascii
import ClusterQuery.Text.Split

/-!
How YAML reads texts without quotes, and how texts are written so that they stay texts. A text with line feeds
is written as a literal block, one that reads as something else between single quotes, and one with characters
that do not print between double quotes. Every other text is written as it is, if its characters allow it.
-/

namespace ClusterQuery

namespace Yaml

/-! ### What a text reads as -/

def isNullText (cs : List Char) : Bool :=
  match String.ofList cs with
  | "" | "~" | "null" | "Null" | "NULL" => true
  | _ => false

def isBoolText (cs : List Char) : Bool :=
  match String.ofList cs with
  | "true" | "True" | "TRUE" | "false" | "False" | "FALSE" => true
  | _ => false

/-- The number that digits to a base spell. -/
def readBase? (base : Nat) (cs : List Char) : Option Nat :=
  if cs.isEmpty then none
  else cs.foldlM (fun n c => (hexValue? c).bind fun d => if d < base then some (n * base + d) else none) 0

/-- Whether a text is zeros and other digits, with a zero in front. -/
def hasLeadingZero (cs : List Char) : Bool :=
  let digits := match cs with
    | '-' :: rest | '+' :: rest => rest
    | _ => cs
  match digits with
  | '0' :: d :: rest => (d :: rest).all isDigit
  | _ => false

/-- The whole number without a sign that a text spells: in decimal, or to the base 16, 8 or 2 after its mark. -/
def readMagnitude? (cs : List Char) : Option Nat :=
  let marked? := match cs with
    | '0' :: 'x' :: digits => readBase? 16 digits
    | '0' :: 'o' :: digits => readBase? 8 digits
    | '0' :: 'b' :: digits => readBase? 2 digits
    | _ => none
  marked? <|> if hasLeadingZero cs then none else readBase? 10 cs

/-- Whether a text spells a whole number that is written with 128 bits. -/
def isIntegerText (cs : List Char) : Bool :=
  match cs with
  | '-' :: rest => (readMagnitude? rest).any (· ≤ Nat.pow 2 127)
  | '+' :: rest => (readMagnitude? rest).any (· < Nat.pow 2 128)
  | _ => (readMagnitude? cs).any (· < Nat.pow 2 128)

/-- Whether a text spells another number. -/
def isFloatText (cs : List Char) : Bool :=
  let unsigned := match cs with
    | '+' :: rest => rest
    | _ => cs
  match String.ofList unsigned with
  | ".inf" | ".Inf" | ".INF" => true
  | _ =>
    match String.ofList cs with
    | "-.inf" | "-.Inf" | "-.INF" | ".nan" | ".NaN" | ".NAN" => true
    | _ =>
      match cs with
      | '+' :: '+' :: _ | '+' :: '-' :: _ => false
      | _ => (Binary64.read? unsigned).any (·.isFinite)

/-- Whether a text without quotes reads as something else, or looks like a number to people. -/
def readsOtherwise (cs : List Char) : Bool :=
  isNullText cs || isBoolText cs || isIntegerText cs || hasLeadingZero cs || isFloatText cs

/-! ### What the characters of a text allow -/

def isBreak (c : Char) : Bool :=
  c == '\n' || c == '\r' || c == '\x85' || c == '\u2028' || c == '\u2029'

/-- Whether a character ends a word, as the end of the text does. -/
def isGap (c : Char) : Bool := c == ' ' || c == '\t' || c == '\x00' || isBreak c

/-- Characters that are written as they are. -/
def isPrintable (c : Char) : Bool :=
  let n := c.toNat
  n == 0x0A || (0x20 ≤ n && n ≤ 0x7E) || (0xA0 ≤ n && n ≤ 0xD7FF) || (0xE000 ≤ n && n ≤ 0xFFFD && n != 0xFEFF) ||
    0x10000 ≤ n

/-- Whether two neighbours satisfy `p` and `q`. -/
def hasNeighbours (p q : Char → Bool) : List Char → Bool
  | a :: b :: rest => (p a && q b) || hasNeighbours p q (b :: rest)
  | _ => false

/-- Whether a text begins with a mark of YAML. -/
def startsWithMark : List Char → Bool
  | '-' :: '-' :: '-' :: _ | '.' :: '.' :: '.' :: _ => true
  | c :: rest =>
    ['#', ',', '[', ']', '\x7b', '\x7d', '&', '*', '!', '|', '>', '\'', '"', '%', '@', '\x60'].contains c ||
      ((c == '?' || c == ':' || c == '-') && rest.head?.all isGap)
  | [] => false

/-- Whether a text has a colon before a gap or its end, or a number sign after a gap. -/
def hasInnerMark (cs : List Char) : Bool :=
  hasNeighbours (· == ':') isGap cs || cs.getLast? == some ':' || hasNeighbours isGap (· == '#') cs

def isSpace (c : Char) : Bool := c == ' '

/-- Whether a text may stand as it is. -/
def allowsPlain (cs : List Char) : Bool :=
  !(startsWithMark cs || hasInnerMark cs || cs.head?.any isSpace || cs.getLast?.any isSpace || cs.any isBreak) &&
    cs.all isPrintable

/-- Whether a text may stand between single quotes. -/
def allowsSingle (cs : List Char) : Bool :=
  !(hasNeighbours isBreak isSpace cs || hasNeighbours isSpace isBreak cs) && cs.all isPrintable

/-- Whether a text may be a literal block. -/
def allowsBlock (cs : List Char) : Bool :=
  !(cs.getLast?.any isSpace || hasNeighbours isSpace isBreak cs) && cs.all isPrintable

/-! ### Writing a text -/

inductive Style where
  | plain | single | double | block
deriving DecidableEq

/-- The style of a text. -/
def styleOf (cs : List Char) : Style :=
  if cs.contains '\n' then if allowsBlock cs then .block else .double
  else if !readsOtherwise cs && allowsPlain cs then .plain
  else if allowsSingle cs then .single
  else .double

def spaces (n : Nat) : List Char := List.replicate n ' '

/-- The characters with an indentation at the start of each line that is not empty. -/
def indentLines (indent : Nat) (atStart : Bool) : List Char → List Char
  | [] => []
  | c :: cs =>
    if isBreak c then c :: indentLines indent true cs
    else (if atStart then spaces indent else []) ++ c :: indentLines indent false cs

/-- A text between single quotes, in which a quote is written twice. -/
def singleQuoted (indent : Nat) (cs : List Char) : List Char :=
  let doubled := cs.flatMap fun c => if c = '\'' then [c, c] else [c]
  let closing := if cs.getLast?.any isBreak then spaces indent else []
  '\'' :: indentLines indent false doubled ++ closing ++ ['\'']

/-- A hexadecimal number with a count of digits. -/
def hexText (digits n : Nat) : List Char :=
  let ds := (Nat.toDigits 16 n).map fun c => if 'a' ≤ c then Char.ofNat (c.toNat - 32) else c
  List.replicate (digits - ds.length) '0' ++ ds

/-- How a character stands between double quotes. -/
def escape (c : Char) : List Char :=
  if isPrintable c && !isBreak c && c != '"' && c != '\\' then [c]
  else
    '\\' :: match c with
      | '\x00' => ['0']
      | '\x07' => ['a']
      | '\x08' => ['b']
      | '\t' => ['t']
      | '\n' => ['n']
      | '\x0b' => ['v']
      | '\x0c' => ['f']
      | '\r' => ['r']
      | '\x1b' => ['e']
      | '"' => ['"']
      | '\\' => ['\\']
      | '\x85' => ['N']
      | '\u2028' => ['L']
      | '\u2029' => ['P']
      | c =>
        let n := c.toNat
        if n ≤ 0xFF then 'x' :: hexText 2 n else if n ≤ 0xFFFF then 'u' :: hexText 4 n else 'U' :: hexText 8 n

def doubleQuoted (cs : List Char) : List Char := '"' :: cs.flatMap escape ++ ['"']

/-- How many spaces a level of nesting takes. -/
def indentStep : Nat := 2

/-- The marks of a literal block: how far it is indented, where its first line does not show it, and whether
    the text ends without a line end or with more than one. -/
def blockMarks (cs : List Char) : List Char :=
  let indentMark := if cs.head?.any fun c => isSpace c || isBreak c then Nat.toDigits 10 indentStep else []
  let endMark := match cs.reverse with
    | [] => ['-']
    | [c] => if isBreak c then ['+'] else ['-']
    | c :: d :: _ => if !isBreak c then ['-'] else if isBreak d then ['+'] else []
  indentMark ++ endMark

def blockText (indent : Nat) (cs : List Char) : List Char :=
  '|' :: blockMarks cs ++ '\n' :: indentLines indent true cs

/-- A text; its further lines are indented. -/
def textScalar (indent : Nat) (cs : List Char) : List Char :=
  match styleOf cs with
  | .plain => cs
  | .single => singleQuoted indent cs
  | .double => doubleQuoted cs
  | .block => blockText indent cs

end Yaml

end ClusterQuery
