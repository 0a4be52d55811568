import ClusterQuery.Text.Category

/-!
Quoted texts in messages. A text stands between double quotes and a character between single ones; quotes of
the same kind, backslashes and characters that do not print are escaped, the latter by their code point.
-/

namespace ClusterQuery

/-- Characters that are drawn: all but controls, unassigned and private ones, and separators other than the
    space. -/
def isPrintable (c : Char) : Bool :=
  match category c with
  | .cc | .cf | .cs | .co | .cn | .zl | .zp => false
  | .zs => c == ' '
  | _ => true

/-- Spacing marks and others that extend the character before them like a nonspacing mark. -/
def extendingRanges : List (Nat × Nat) :=
  [(0x9BE, 0x9BE), (0x9D7, 0x9D7), (0xB3E, 0xB3E), (0xB57, 0xB57), (0xBBE, 0xBBE), (0xBD7, 0xBD7), (0xCC2, 0xCC2),
    (0xCD5, 0xCD6), (0xD3E, 0xD3E), (0xD57, 0xD57), (0xDCF, 0xDCF), (0xDDF, 0xDDF), (0x1B35, 0x1B35),
    (0x200C, 0x200C), (0x302E, 0x302F), (0xFF9E, 0xFF9F), (0x1133E, 0x1133E), (0x11357, 0x11357),
    (0x114B0, 0x114B0), (0x114BD, 0x114BD), (0x115AF, 0x115AF), (0x11930, 0x11930), (0x1D165, 0x1D165),
    (0x1D16E, 0x1D172), (0xE0020, 0xE007F)]

/-- Characters drawn onto the one before them. -/
def isExtending (c : Char) : Bool :=
  match category c with
  | .mn | .me => true
  | _ => extendingRanges.any fun (low, high) => low ≤ c.toNat && c.toNat ≤ high

/-- A character by its code point. -/
def escapeCode (c : Char) : List Char := ['\\', 'u', '\x7b'] ++ Nat.toDigits 16 c.toNat ++ ['\x7d']

/-- How a character stands between quotes of the kind `quote`. -/
def escapeFor (quote c : Char) : List Char :=
  match c with
  | '\x00' => ['\\', '0']
  | '\t' => ['\\', 't']
  | '\r' => ['\\', 'r']
  | '\n' => ['\\', 'n']
  | '\\' => ['\\', '\\']
  | c =>
    if c == quote then ['\\', c]
    else if c.toNat < 0x80 then if c.toNat < 0x20 || c.toNat == 0x7F then escapeCode c else [c]
    else if isExtending c || !isPrintable c then escapeCode c
    else [c]

/-- A text between double quotes. -/
def quotedText (cs : List Char) : List Char := '"' :: cs.flatMap (escapeFor '"') ++ ['"']

/-- A character between single quotes. -/
def quotedChar (c : Char) : List Char := '\'' :: escapeFor '\'' c ++ ['\'']

/-- A text between double quotes. -/
def quoted (s : String) : String := String.ofList (quotedText s.toList)

end ClusterQuery
