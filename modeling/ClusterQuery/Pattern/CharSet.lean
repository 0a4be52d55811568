import ClusterQuery.Pattern.CaseFolding
import ClusterQuery.Text.Ascii
import ClusterQuery.Text.Blank
import ClusterQuery.Text.Category

/-!
Sets of characters, as patterns write them. A set is a term, and membership is decided from the term; it is
never spelled out as a list.
-/

namespace ClusterQuery

/-- Properties of characters that patterns name. -/
inductive CharProperty where
  | digit
  | blank
  | wordChar
  | inCategory (g : Category)
deriving DecidableEq, Hashable

/-- Letters, and numbers written as letters. -/
def isAlphabeticCategory : Category → Bool
  | .lu | .ll | .lt | .lm | .lo | .nl => true
  | _ => false

/-- Letters in circles and squares, which are symbols by category. -/
def isEnclosedLetter (code : Nat) : Bool :=
  (0x24B6 ≤ code && code ≤ 0x24E9) || (0x1F130 ≤ code && code ≤ 0x1F149) || (0x1F150 ≤ code && code ≤ 0x1F169) ||
    (0x1F170 ≤ code && code ≤ 0x1F189)

/-- Letters, marks, digits, connectors and the two joiners. -/
def isWordChar (c : Char) : Bool :=
  let code := c.toNat
  if code < 0x80 then isAsciiAlphanumeric c || c == '_'
  else
    let g := category c
    isAlphabeticCategory g || g == .mn || g == .mc || g == .me || g == .nd || g == .pc || isEnclosedLetter code ||
      code == 0x200C || code == 0x200D

/-- ASCII letters, digits and the underscore. -/
def isAsciiWordChar (c : Char) : Bool := isAsciiAlphanumeric c || c == '_'

def CharProperty.holds (c : Char) : CharProperty → Bool
  | .digit => category c == .nd
  | .blank => isBlank c
  | .wordChar => isWordChar c
  | .inCategory g => category c == g

inductive CharSet where
  | none
  | range (low high : Nat)
  | property (p : CharProperty)
  | union (a b : CharSet)
  | both (a b : CharSet)
  | without (a b : CharSet)
  | complement (a : CharSet)
  /-- The set with the case variants of its members. -/
  | folded (a : CharSet)
deriving DecidableEq, Hashable

namespace CharSet

def contains : CharSet → Char → Bool
  | .none, _ => false
  | .range low high, c => low ≤ c.toNat && c.toNat ≤ high
  | .property p, c => p.holds c
  | .union a b, c => a.contains c || b.contains c
  | .both a b, c => a.contains c && b.contains c
  | .without a b, c => a.contains c && !b.contains c
  | .complement a, c => !a.contains c
  | .folded a, c => (caseVariants c).any fun d => a.contains d

def single (c : Char) : CharSet := .range c.toNat c.toNat

def any : CharSet := .complement .none

/-- The union of several sets. -/
def unionOf (sets : List CharSet) : CharSet := sets.foldr .union .none

/-- The union of several ranges of code points. -/
def ranges (rs : List (Nat × Nat)) : CharSet := unionOf (rs.map fun (low, high) => .range low high)

/-- The characters of several categories. -/
def categories (gs : List Category) : CharSet := unionOf (gs.map fun g => .property (.inCategory g))

theorem contains_single {c d : Char} : (single c).contains d = true ↔ d = c := by
  simp only [single, contains, Bool.and_eq_true, decide_eq_true_eq]
  constructor
  · rintro ⟨h1, h2⟩
    exact Char.toNat_inj.1 (by omega)
  · rintro rfl
    exact ⟨Nat.le_refl _, Nat.le_refl _⟩

end CharSet

end ClusterQuery
