import ClusterQuery.Pattern.CharSet
import ClusterQuery.Text.Letter
import ClusterQuery.Text.Script

/-!
The properties that patterns name: general categories, scripts and a few others. Names are compared without
spaces, hyphens, underscores, case and a leading `is`.
-/

namespace ClusterQuery

namespace CharSet

def asciiRange : CharSet := .range 0 0x7F

def assigned : CharSet := .complement (.property (.inCategory .cn))

def alphabetic : CharSet :=
  .union (categories [.lu, .ll, .lt, .lm, .lo, .nl]) (ranges LetterTable.otherAlphabetic)

def lower : CharSet := .union (categories [.ll]) (ranges LetterTable.otherLower)

def upper : CharSet := .union (categories [.lu]) (ranges LetterTable.otherUpper)

def asciiHexDigits : CharSet := ranges [(0x30, 0x39), (0x41, 0x46), (0x61, 0x66)]

end CharSet

/-- A name as it is compared. The category `isc` is not the category `c`. -/
def plainName (cs : List Char) : String :=
  let plain (cs : List Char) : List Char :=
    lowerText (cs.filter fun c => c.toNat < 0x80 && c != ' ' && c != '_' && c != '-')
  match cs with
  | i :: s :: rest =>
    if lowerText [i, s] = ['i', 's'] then
      if plain rest = ['c'] then "isc" else String.ofList (plain rest)
    else String.ofList (plain cs)
  | _ => String.ofList (plain cs)

/-- The names of the general categories and of groups of them. -/
def categoryNames : List (List String × List Category) :=
  [(["l", "letter"], [.lu, .ll, .lt, .lm, .lo]),
    (["lc", "casedletter"], [.lu, .ll, .lt]),
    (["lu", "uppercaseletter"], [.lu]),
    (["ll", "lowercaseletter"], [.ll]),
    (["lt", "titlecaseletter"], [.lt]),
    (["lm", "modifierletter"], [.lm]),
    (["lo", "otherletter"], [.lo]),
    (["m", "mark", "combiningmark"], [.mn, .mc, .me]),
    (["mn", "nonspacingmark"], [.mn]),
    (["mc", "spacingmark"], [.mc]),
    (["me", "enclosingmark"], [.me]),
    (["n", "number"], [.nd, .nl, .no]),
    (["nd", "decimalnumber", "digit"], [.nd]),
    (["nl", "letternumber"], [.nl]),
    (["no", "othernumber"], [.no]),
    (["p", "punctuation", "punct"], [.pc, .pd, .ps, .pe, .pi, .pf, .po]),
    (["pc", "connectorpunctuation"], [.pc]),
    (["pd", "dashpunctuation"], [.pd]),
    (["ps", "openpunctuation"], [.ps]),
    (["pe", "closepunctuation"], [.pe]),
    (["pi", "initialpunctuation"], [.pi]),
    (["pf", "finalpunctuation"], [.pf]),
    (["po", "otherpunctuation"], [.po]),
    (["s", "symbol"], [.sm, .sc, .sk, .so]),
    (["sm", "mathsymbol"], [.sm]),
    (["sc", "currencysymbol"], [.sc]),
    (["sk", "modifiersymbol"], [.sk]),
    (["so", "othersymbol"], [.so]),
    (["z", "separator"], [.zs, .zl, .zp]),
    (["zs", "spaceseparator"], [.zs]),
    (["zl", "lineseparator"], [.zl]),
    (["zp", "paragraphseparator"], [.zp]),
    (["c", "other"], [.cc, .cf, .co, .cn]),
    (["cc", "control", "cntrl"], [.cc]),
    (["cf", "format"], [.cf]),
    (["co", "privateuse"], [.co]),
    (["cn", "unassigned"], [.cn])]

/-- The set of a general category. -/
def categorySet? (name : String) : Option CharSet :=
  match name with
  | "any" => some .any
  | "assigned" => some .assigned
  | "ascii" => some .asciiRange
  | name => (categoryNames.find? fun entry => entry.1.contains name).map fun entry => .categories entry.2

/-- The set of a script. -/
def scriptSet? (name : String) : Option CharSet := (script? name).map .ranges

/-- The set of a property that a character has or has not. -/
def yesNoSet? (name : String) : Option CharSet :=
  match name with
  | "alpha" | "alphabetic" => some .alphabetic
  | "lower" | "lowercase" => some .lower
  | "upper" | "uppercase" => some .upper
  | "space" | "wspace" | "whitespace" => some (.property .blank)
  | "ahex" | "asciihexdigit" => some .asciiHexDigits
  | _ => none

/-- The set that a name stands for. -/
def namedSet? (cs : List Char) : Option CharSet :=
  let name := plainName cs
  yesNoSet? name <|> categorySet? name <|> scriptSet? name

/-- The set of the characters with a value of a property. -/
def valueSet? (property value : List Char) : Option CharSet :=
  match plainName property with
  | "gc" | "generalcategory" => categorySet? (plainName value)
  | "sc" | "script" => scriptSet? (plainName value)
  | _ => none

end ClusterQuery
