import ClusterQuery.Number.Binary64
import ClusterQuery.Text.Split

/-!
Decimal texts of binary numbers. `Binary64.read?` reads a text and rounds it correctly. Writing first
picks the digits: the fewest that read back as the same number, and of those the nearest. A `FloatStyle`
then says how a format lays the digits out.
-/

namespace ClusterQuery

namespace Binary64

/-! ### Reading -/

/-- Digits with at most one point among them: the number they spell without the point, and how many
    stand after it. -/
def readPointed? (cs : List Char) : Option (Nat × Nat) :=
  let whole := cs.takeWhile isDigit
  let after := match cs.dropWhile isDigit with
    | '.' :: rest => some rest
    | [] => some []
    | _ => none
  after.bind fun fraction =>
    if fraction.all isDigit && !(whole.isEmpty && fraction.isEmpty) then
      some (digitsValue 0 (whole ++ fraction), fraction.length)
    else none

/-- A number without its sign: digits, a point and an exponent, or the name of a number that no digits
    spell. -/
def readUnsigned? (negative : Bool) (cs : List Char) : Option Binary64 :=
  let isExponentMark (c : Char) : Bool := c == 'e' || c == 'E'
  let word := lowerText cs
  if word = ['i', 'n', 'f'] || word = ['i', 'n', 'f', 'i', 'n', 'i', 't', 'y'] then some (infinity negative)
  else if word = ['n', 'a', 'n'] then some (nan negative)
  else
    match splitFirst isExponentMark cs with
    | none => (readPointed? cs).map fun (digits, places) => ofDecimal negative digits (-(places : Int))
    | some (mantissa, exponent) =>
      (readPointed? mantissa).bind fun (digits, places) =>
        (readInteger? exponent).map fun e => ofDecimal negative digits (e - places)

/-- Reads a decimal text: an optional sign, digits with an optional point, an optional exponent. -/
def read? : List Char → Option Binary64
  | '-' :: cs => readUnsigned? true cs
  | '+' :: cs => readUnsigned? false cs
  | cs => readUnsigned? false cs

/-! ### The shortest digits -/

/-- Decimal digits and the power of ten of the last one. -/
structure Digits where
  digits : Nat
  exponent : Int

/-- The whole number below `units * 2 ^ (-1074) / 10 ^ exponent`, and whether the rest is below a half, a
    half or above. -/
def cutAt (units : Nat) (exponent : Int) : Nat × Ordering :=
  let num := match exponent with
    | .ofNat _ => units
    | .negSucc e => units * Nat.pow 10 (e + 1)
  let den := match exponent with
    | .ofNat e => unitsPerOne * Nat.pow 10 e
    | .negSucc _ => unitsPerOne
  (num / den, compare (2 * (num % den)) den)

/-- The decimal with its last digit at `exponent` that reads back as `x`, the nearer one if both
    neighbours do. A tie goes up or to the even digit. -/
def digitsAt? (tieUp : Bool) (x : Binary64) (exponent : Int) : Option Digits :=
  let (below, rest) := cutAt x.units exponent
  let readsBack (d : Nat) : Bool := (ofDecimal false d exponent).magnitude == x.magnitude
  let upFirst := match rest with
    | .lt => false
    | .eq => tieUp || below % 2 == 1
    | .gt => true
  let candidates := if upFirst then [below + 1, below] else [below, below + 1]
  (candidates.find? readsBack).map fun d => ⟨d, exponent⟩

/-- The power of ten just above a number of units: `10 ^ (k - 1) ≤ x < 10 ^ k`. -/
def decimalSize (units : Nat) : Int :=
  (Nat.toDigits 10 (units * Nat.pow 10 324 / unitsPerOne)).length - 324

/-- All digits of a number, so that it is written exactly. -/
def exactDigits (x : Binary64) : Digits := ⟨x.units * Nat.pow 5 unitExponent, -(unitExponent : Int)⟩

/-- The fewest digits that read back as `x`, of those the nearest to it. -/
def shortestDigits (tieUp : Bool) (x : Binary64) : Digits :=
  let size := decimalSize x.units
  let found := (List.range 17).findSome? fun (n : Nat) => digitsAt? tieUp x (size - (n + 1 : Nat))
  found.getD (exactDigits x)

/-! ### Layout -/

/-- How a format writes numbers. `fixedBelow` and `fixedFrom` bound the place of the decimal point, counted
    in digits from the first one, for which no exponent is written. -/
structure FloatStyle where
  fixedFrom : Option Int
  fixedBelow : Option Int
  /-- Whether a whole number keeps a point and a zero. -/
  keepsPoint : Bool
  /-- Whether a positive exponent has a sign. -/
  signsExponent : Bool
  /-- Whether the greater of two equally near decimals is taken, or else the even one. -/
  tieUp : Bool

/-- The digits without zeros at their end, and the place of the decimal point counted from the first. -/
def Digits.normal (d : Digits) : List Char × Int :=
  let all := Nat.toDigits 10 d.digits
  let kept := (all.reverse.dropWhile (· == '0')).reverse
  (if kept.isEmpty then ['0'] else kept, d.exponent + all.length)

/-- Digits with a point in place `point` and zeros where digits are missing. -/
def layoutFixed (keepsPoint : Bool) (digits : List Char) (point : Int) : List Char :=
  if point ≤ 0 then '0' :: '.' :: List.replicate point.natAbs '0' ++ digits
  else
    let whole := digits.take point.toNat ++ List.replicate (point.toNat - digits.length) '0'
    match digits.drop point.toNat with
    | [] => if keepsPoint then whole ++ ['.', '0'] else whole
    | fraction => whole ++ '.' :: fraction

/-- One digit before the point and the exponent of that digit. -/
def layoutExponent (signsExponent : Bool) (digits : List Char) (point : Int) : List Char :=
  let mantissa := match digits with
    | [] => []
    | [d] => [d]
    | d :: ds => d :: '.' :: ds
  let exponent := point - 1
  let sign := if signsExponent && 0 ≤ exponent then ['+'] else []
  mantissa ++ 'e' :: sign ++ decimalText exponent

/-- The digits in the layout of a style. -/
def FloatStyle.layout (style : FloatStyle) (digits : List Char) (point : Int) : List Char :=
  let above := match style.fixedFrom with
    | some low => decide (low ≤ point)
    | none => true
  let below := match style.fixedBelow with
    | some high => decide (point < high)
    | none => true
  if above && below then layoutFixed style.keepsPoint digits point
  else layoutExponent style.signsExponent digits point

/-- The text of a number in a style. -/
def render (style : FloatStyle) (x : Binary64) : List Char :=
  if x.isNaN then ['N', 'a', 'N']
  else
    let sign := if x.negative then ['-'] else []
    if x.isInfinite then sign ++ ['i', 'n', 'f']
    else if x.isZero then sign ++ (if style.keepsPoint then ['0', '.', '0'] else ['0'])
    else
      let (digits, point) := (shortestDigits style.tieUp x).normal
      sign ++ style.layout digits point

end Binary64

end ClusterQuery
