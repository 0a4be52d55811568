import ClusterQuery.Text.Ascii

/-!
Whole numbers of a fixed width and their decimal texts. Arithmetic on `Int64` is exact or refused:
`toInt64?` gives nothing outside the range, and no operation wraps.
-/

namespace ClusterQuery

/-- One more than the largest number of 64 bits without a sign. -/
def wordLimit : Nat := 0x10000000000000000

/-- How far below zero the numbers of 64 bits with a sign reach; above it they end one earlier. -/
def signedReach : Nat := 0x8000000000000000

/-- The 64-bit number of this value, when it is in range. -/
def toInt64? (i : Int) : Option Int64 :=
  if -(signedReach : Int) ≤ i ∧ i < signedReach then some (Int64.ofInt i) else none

/-- The sum, when it is in range. -/
def checkedAdd (a b : Int64) : Option Int64 := toInt64? (a.toInt + b.toInt)

/-- The product with a number of any size, when it is in range. -/
def checkedScale (a : Int64) (factor : Nat) : Option Int64 := toInt64? (a.toInt * factor)

theorem toInt_of_toInt64? {i : Int} {n : Int64} (h : toInt64? i = some n) : n.toInt = i := by
  unfold toInt64? at h
  split at h
  · next hr =>
    cases h
    exact Int64.toInt_ofInt_of_le hr.1 hr.2
  · cases h

theorem toInt64?_toInt (n : Int64) : toInt64? n.toInt = some n := by
  unfold toInt64?
  rw [if_pos ⟨n.le_toInt, n.toInt_lt⟩, Int64.ofInt_toInt]

theorem toInt64?_isSome_iff {i : Int} : (toInt64? i).isSome ↔ -(signedReach : Int) ≤ i ∧ i < signedReach := by
  unfold toInt64?
  split <;> simp_all

/-! ### Decimal texts -/

/-- The decimal text of a whole number. -/
def decimalText (i : Int) : List Char :=
  match i with
  | .ofNat n => Nat.toDigits 10 n
  | .negSucc n => '-' :: Nat.toDigits 10 (n + 1)

/-- Reads an optional sign and digits. -/
def readInteger? : List Char → Option Int
  | '-' :: cs => (readDigits? cs).map fun n => -(n : Int)
  | '+' :: cs => (readDigits? cs).map fun n => (n : Int)
  | cs => (readDigits? cs).map fun n => (n : Int)

/-- Reads a 64-bit number with an optional sign. -/
def readInt64? (cs : List Char) : Option Int64 := (readInteger? cs).bind toInt64?

/-- Reads a number of 64 bits that may have a plus sign but no minus sign. -/
def readWord? (cs : List Char) : Option Nat :=
  let digits := match cs with
    | '+' :: rest => rest
    | _ => cs
  (readDigits? digits).bind fun n => if n < wordLimit then some n else none

end ClusterQuery
