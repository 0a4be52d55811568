import ClusterQuery.Number.Bounded

/-!
Binary floating-point numbers of 64 bits, with exact integer arithmetic underneath.

A number is a sign and a magnitude; the magnitude is the lower 63 bits of the number's pattern, so it
grows with the absolute value. A finite number is a whole multiple of the smallest positive one, and
`units` gives the multiple. Every operation computes exactly in units and rounds once, to the nearest
number and in a tie to the one with the even last bit.
-/

namespace ClusterQuery

structure Binary64 where
  negative : Bool
  magnitude : Nat
  magnitude_lt : magnitude < signedReach := by decide
deriving DecidableEq

namespace Binary64

/-- How many magnitudes have one exponent: `2 ^ 52`. -/
def binade : Nat := 0x10000000000000

/-- The magnitude of infinity; everything above it is not a number. -/
def infiniteMagnitude : Nat := 2047 * binade

/-- The exponent of the smallest positive number, `2 ^ (-unitExponent)`. -/
def unitExponent : Nat := 1074

/-- How many units make one. -/
def unitsPerOne : Nat := Nat.pow 2 unitExponent

def zero : Binary64 := ⟨false, 0, by decide⟩

def infinity (negative : Bool) : Binary64 := ⟨negative, infiniteMagnitude, by decide⟩

/-- The number that is not a number. -/
def nan (negative : Bool) : Binary64 := ⟨negative, infiniteMagnitude + binade / 2, by decide⟩

/-- What an operation without a meaningful result gives; its sign is set. -/
def invalid : Binary64 := nan true

instance : Inhabited Binary64 := ⟨zero⟩

def isNaN (x : Binary64) : Bool := infiniteMagnitude < x.magnitude

def isInfinite (x : Binary64) : Bool := x.magnitude == infiniteMagnitude

def isFinite (x : Binary64) : Bool := x.magnitude < infiniteMagnitude

def isZero (x : Binary64) : Bool := x.magnitude == 0

def neg (x : Binary64) : Binary64 := { x with negative := !x.negative }

/-- The same magnitude with the sign given. -/
def withSign (negative : Bool) (x : Binary64) : Binary64 := { x with negative }

/-! ### Units -/

/-- The multiple of the smallest positive number that a finite magnitude stands for. -/
def unitsOf (magnitude : Nat) : Nat :=
  if magnitude / binade = 0 then magnitude
  else (magnitude % binade + binade) * Nat.pow 2 (magnitude / binade - 1)

def units (x : Binary64) : Nat := unitsOf x.magnitude

/-- The units with the sign of the number. -/
def signedUnits (x : Binary64) : Int := if x.negative then -(x.units : Int) else x.units

/-- The whole number nearest to `num / den`, in a tie the even one. -/
def roundQuotient (num den : Nat) : Nat :=
  let q := num / den
  let r := num % den
  if 2 * r < den then q else if den < 2 * r then q + 1 else if q % 2 = 0 then q else q + 1

/-- The magnitude nearest to `num / den` units; infinity from half a step above the largest number on. -/
def roundMagnitude (num den : Nat) : Nat :=
  let shift := (num / den).log2 - 52
  min (shift * binade + roundQuotient num (den * Nat.pow 2 shift)) infiniteMagnitude

theorem roundMagnitude_lt (num den : Nat) : roundMagnitude num den < signedReach :=
  Nat.lt_of_le_of_lt (Nat.min_le_right _ _) (by decide)

/-- The number nearest to `num / den` units. -/
def roundUnits (negative : Bool) (num den : Nat) : Binary64 :=
  ⟨negative, roundMagnitude num den, roundMagnitude_lt num den⟩

/-- The number nearest to `num / den`. -/
def ofRatio (negative : Bool) (num den : Nat) : Binary64 := roundUnits negative (num * unitsPerOne) den

/-- The number nearest to a whole number. -/
def ofInt (i : Int) : Binary64 := ofRatio (i < 0) i.natAbs 1

def ofNat (n : Nat) : Binary64 := ofRatio false n 1

/-- The number nearest to `digits * 10 ^ exponent`. Exponents far outside the range are not computed:
    they give infinity or zero at once. -/
def ofDecimal (negative : Bool) (digits : Nat) (exponent : Int) : Binary64 :=
  if digits = 0 then ⟨negative, 0, by decide⟩
  else
    let size : Int := (Nat.toDigits 10 digits).length + exponent
    if 400 < size then infinity negative
    else if size < -400 then ⟨negative, 0, by decide⟩
    else
      match exponent with
      | .ofNat e => ofRatio negative (digits * Nat.pow 10 e) 1
      | .negSucc e => ofRatio negative digits (Nat.pow 10 (e + 1))

/-! ### Arithmetic -/

def add (x y : Binary64) : Binary64 :=
  if x.isNaN then x
  else if y.isNaN then y
  else if x.isInfinite then if y.isInfinite && x.negative != y.negative then invalid else x
  else if y.isInfinite then y
  else
    match x.signedUnits + y.signedUnits with
    | 0 => ⟨x.negative && y.negative, 0, by decide⟩
    | s => roundUnits (s < 0) s.natAbs 1

def mul (x y : Binary64) : Binary64 :=
  if x.isNaN then x
  else if y.isNaN then y
  else
    let negative := x.negative != y.negative
    if x.isInfinite || y.isInfinite then if x.isZero || y.isZero then invalid else infinity negative
    else roundUnits negative (x.units * y.units) unitsPerOne

def div (x y : Binary64) : Binary64 :=
  if x.isNaN then x
  else if y.isNaN then y
  else
    let negative := x.negative != y.negative
    if x.isInfinite then if y.isInfinite then invalid else infinity negative
    else if y.isInfinite then ⟨negative, 0, by decide⟩
    else if y.isZero then if x.isZero then invalid else infinity negative
    else roundUnits negative (x.units * unitsPerOne) y.units

/-! ### Orders -/

/-- The place of a number on the line; both zeros have the same. -/
def place (x : Binary64) : Int := if x.negative then -(x.magnitude : Int) else x.magnitude

/-- The order of two numbers, where neither is NaN. -/
def compare? (x y : Binary64) : Option Ordering :=
  if x.isNaN || y.isNaN then none else some (compare x.place y.place)

/-- The place in the order of all numbers, NaN included, in which -0 is below 0. -/
def rank (x : Binary64) : Int := if x.negative then -(x.magnitude : Int) - 1 else x.magnitude

/-- The total order: every negative number and NaN of negative sign, then all others by magnitude. -/
def totalCompare (x y : Binary64) : Ordering := compare x.rank y.rank

theorem rank_injective {x y : Binary64} (h : x.rank = y.rank) : x = y := by
  obtain ⟨sx, mx, hx⟩ := x
  obtain ⟨sy, my, hy⟩ := y
  cases sx <;> cases sy <;> simp only [rank, if_true, if_false, Bool.false_eq_true] at h <;>
    first
      | (have : mx = my := by omega
         subst this
         rfl)
      | omega

end Binary64

end ClusterQuery
