import ClusterQuery.Json.Basic
import ClusterQuery.Text.Ascii

/-!
Reading JSON texts. A text is first read as it is written (`JsonText`): fields in their order and as often
as they occur, numbers as their literals. `JsonText.toJson?` then gives the value; it refuses numbers out of
range, unpaired surrogates and texts nested too deeply. What a reader skips is never refused for those.
-/

namespace ClusterQuery

/-- A JSON text as written. The text of a string is missing when an escape in it is half a surrogate pair. -/
inductive JsonText where
  | null
  | bool (b : Bool)
  | number (literal : List Char)
  | string (text : Option String)
  | array (items : List JsonText)
  | object (fields : List (Option String × JsonText))
deriving Inhabited

namespace JsonText

/-- What a reader found, and the text after it, which is shorter than the text it began with. -/
abbrev Found (α : Type) (cs : List Char) := { r : α × List Char // r.2.length < cs.length }

def isJsonBlank (c : Char) : Bool := c == ' ' || c == '\t' || c == '\n' || c == '\r'

def skipBlanks (cs : List Char) : List Char := cs.dropWhile isJsonBlank

theorem skipBlanks_length_le (cs : List Char) : (skipBlanks cs).length ≤ cs.length :=
  List.IsSuffix.length_le (List.dropWhile_suffix isJsonBlank)

/-! ### Strings -/

def readHex4? (a b c d : Char) : Option Nat := do
  let a ← hexValue? a
  let b ← hexValue? b
  let c ← hexValue? c
  let d ← hexValue? d
  return ((a * 16 + b) * 16 + c) * 16 + d

def isHighSurrogate (n : Nat) : Bool := 0xD800 ≤ n && n ≤ 0xDBFF

def isLowSurrogate (n : Nat) : Bool := 0xDC00 ≤ n && n ≤ 0xDFFF

/-- The units of a string literal up to its closing quote: numbers of 16 bits for escapes, characters
    otherwise. -/
inductive Unit16 where
  | char (c : Char)
  | escape (n : Nat)

def escapedChar? : Char → Option Char
  | '"' => some '"'
  | '\\' => some '\\'
  | '/' => some '/'
  | 'b' => some '\x08'
  | 'f' => some '\x0c'
  | 'n' => some '\n'
  | 'r' => some '\r'
  | 't' => some '\t'
  | _ => none

/-- Reads the units up to the closing quote. -/
def readUnits (cs : List Char) : Option (Found (List Unit16) cs) :=
  match cs with
  | [] => none
  | '"' :: rest => some ⟨([], rest), by simp⟩
  | '\\' :: 'u' :: a :: b :: c :: d :: rest =>
    match readHex4? a b c d, readUnits rest with
    | some n, some ⟨(us, after), h⟩ => some ⟨(.escape n :: us, after), by simp at h ⊢; omega⟩
    | _, _ => none
  | '\\' :: e :: rest =>
    match escapedChar? e, readUnits rest with
    | some c, some ⟨(us, after), h⟩ => some ⟨(.char c :: us, after), by simp at h ⊢; omega⟩
    | _, _ => none
  | c :: rest =>
    if c == '\\' || c.toNat < 0x20 then none
    else
      match readUnits rest with
      | some ⟨(us, after), h⟩ => some ⟨(.char c :: us, after), by simp at h ⊢; omega⟩
      | none => none

/-- The characters of the units; an escape above the basic plane is a pair. -/
def charsOf? : List Unit16 → Option (List Char)
  | [] => some []
  | .char c :: us => (charsOf? us).map (c :: ·)
  | .escape n :: .escape m :: us =>
    if isHighSurrogate n then
      if isLowSurrogate m then
        (charsOf? us).map (Char.ofNat (0x10000 + (n - 0xD800) * 0x400 + (m - 0xDC00)) :: ·)
      else none
    else if isLowSurrogate n then none
    else (charsOf? (.escape m :: us)).map (Char.ofNat n :: ·)
  | .escape n :: us =>
    if isHighSurrogate n || isLowSurrogate n then none else (charsOf? us).map (Char.ofNat n :: ·)

/-- Reads the rest of a string literal after its opening quote. -/
def readString (cs : List Char) : Option (Found (Option String) cs) :=
  (readUnits cs).map fun ⟨(us, rest), h⟩ => ⟨((charsOf? us).map String.ofList, rest), h⟩

/-! ### Numbers -/

/-- Whether a text is one digit or more, without a zero in front of others. -/
def isWholeLiteral (cs : List Char) : Bool :=
  !cs.isEmpty && cs.all isDigit && (cs.head? != some '0' || cs.length == 1)

def isNumberChar (c : Char) : Bool :=
  isDigit c || c == '-' || c == '+' || c == '.' || c == 'e' || c == 'E'

/-- The parts of an unsigned literal: digits before the point, digits after it, exponent. -/
structure NumberParts where
  whole : List Char
  fraction : Option (List Char)
  /-- The sign of the exponent, set for a negative one, and its digits. -/
  exponent : Option (Bool × List Char)

/-- The sign and the digits of an exponent. -/
def exponentParts (cs : List Char) : Bool × List Char :=
  match cs with
  | '-' :: ds => (true, ds)
  | '+' :: ds => (false, ds)
  | ds => (false, ds)

/-- Takes a literal without its minus sign apart; nothing if it is not a number. -/
def numberParts? (cs : List Char) : Option NumberParts :=
  let whole := cs.takeWhile isDigit
  let afterWhole := cs.dropWhile isDigit
  let (fraction, afterFraction) := match afterWhole with
    | '.' :: rest => (some (rest.takeWhile isDigit), rest.dropWhile isDigit)
    | rest => (none, rest)
  let (exponent, afterExponent) := match afterFraction with
    | c :: rest =>
      if c == 'e' || c == 'E' then
        let (negative, ds) := exponentParts rest
        (some (negative, ds.takeWhile isDigit), ds.dropWhile isDigit)
      else (none, afterFraction)
    | [] => (none, [])
  let fractionOk := fraction.all fun ds => !ds.isEmpty
  let exponentOk := exponent.all fun e => !e.2.isEmpty
  if isWholeLiteral whole && fractionOk && exponentOk && afterExponent.isEmpty then
    some ⟨whole, fraction, exponent⟩
  else none

/-- Whether a text is a number literal. -/
def isNumberLiteral : List Char → Bool
  | '-' :: cs => (numberParts? cs).isSome
  | cs => (numberParts? cs).isSome

/-! ### Values -/

mutual

/-- Reads a value after its leading blanks. -/
def readValue (cs : List Char) : Option (Found JsonText cs) :=
  match cs with
  | 'n' :: 'u' :: 'l' :: 'l' :: rest => some ⟨(.null, rest), by simp; omega⟩
  | 't' :: 'r' :: 'u' :: 'e' :: rest => some ⟨(.bool true, rest), by simp; omega⟩
  | 'f' :: 'a' :: 'l' :: 's' :: 'e' :: rest => some ⟨(.bool false, rest), by simp; omega⟩
  | '"' :: rest =>
    (readString rest).map fun ⟨(text, after), h⟩ => ⟨(.string text, after), by simp at h ⊢; omega⟩
  | '[' :: rest =>
    have := skipBlanks_length_le rest
    match hr : skipBlanks rest with
    | ']' :: after => some ⟨(.array [], after), by rw [hr] at this; simp at this ⊢; omega⟩
    | inner =>
      (readItems inner).map fun ⟨(items, after), h⟩ =>
        ⟨(.array items, after), by rw [hr] at this; simp at h this ⊢; omega⟩
  | '\x7b' :: rest =>
    have := skipBlanks_length_le rest
    match hr : skipBlanks rest with
    | '\x7d' :: after => some ⟨(.object [], after), by rw [hr] at this; simp at this ⊢; omega⟩
    | inner =>
      (readFields inner).map fun ⟨(fields, after), h⟩ =>
        ⟨(.object fields, after), by rw [hr] at this; simp at h this ⊢; omega⟩
  | c :: rest =>
    let literal := c :: rest.takeWhile isNumberChar
    if isNumberLiteral literal then
      some ⟨(.number literal, rest.dropWhile isNumberChar), by
        have := List.IsSuffix.length_le (List.dropWhile_suffix isNumberChar (l := rest))
        simp; omega⟩
    else none
  | [] => none
termination_by 2 * cs.length
decreasing_by
  all_goals
    rw [hr] at this
    simp at this ⊢
    omega

/-- Reads the items of an array from its first value to the closing bracket. -/
def readItems (cs : List Char) : Option (Found (List JsonText) cs) :=
  match readValue cs with
  | none => none
  | some ⟨(item, rest), h⟩ =>
    have h1 := skipBlanks_length_le rest
    match hr : skipBlanks rest with
    | ']' :: after => some ⟨([item], after), by rw [hr] at h1; simp at h h1 ⊢; omega⟩
    | ',' :: next =>
      have h2 := skipBlanks_length_le next
      (readItems (skipBlanks next)).map fun ⟨(items, after), h3⟩ =>
        ⟨(item :: items, after), by rw [hr] at h1; simp at h h1 h2 h3 ⊢; omega⟩
    | _ => none
termination_by 2 * cs.length + 1
decreasing_by
  · omega
  · rw [hr] at h1
    simp at h h1
    omega

/-- Reads the fields of an object from its first key to the closing brace. -/
def readFields (cs : List Char) : Option (Found (List (Option String × JsonText)) cs) :=
  match cs with
  | '"' :: start =>
    match readString start with
    | none => none
    | some ⟨(key, afterKey), hk⟩ =>
      have h1 := skipBlanks_length_le afterKey
      match hc : skipBlanks afterKey with
      | ':' :: rest =>
        have h2 := skipBlanks_length_le rest
        match readValue (skipBlanks rest) with
        | none => none
        | some ⟨(value, afterValue), hv⟩ =>
          have h3 := skipBlanks_length_le afterValue
          match hr : skipBlanks afterValue with
          | '\x7d' :: after =>
            some ⟨([(key, value)], after), by rw [hc] at h1; rw [hr] at h3; simp at hk h1 h2 hv h3 ⊢; omega⟩
          | ',' :: next =>
            have h4 := skipBlanks_length_le next
            (readFields (skipBlanks next)).map fun ⟨(fields, after), h5⟩ =>
              ⟨((key, value) :: fields, after), by
                rw [hc] at h1; rw [hr] at h3; simp at hk h1 h2 hv h3 h4 h5 ⊢; omega⟩
          | _ => none
      | _ => none
  | _ => none
termination_by 2 * cs.length + 1
decreasing_by
  · rw [hc] at h1
    simp at hk h1 ⊢
    omega
  · rw [hc] at h1
    rw [hr] at h3
    simp at hk h1 hv h3 ⊢
    omega

end

/-- Reads a whole text: one value and blanks around it. -/
def parse? (cs : List Char) : Option JsonText :=
  match readValue (skipBlanks cs) with
  | some ⟨(value, rest), _⟩ => if (skipBlanks rest).isEmpty then some value else none
  | none => none

/-! ### The value of a text -/

/-- Powers of ten are exact up to here, and a step of scaling goes no further. -/
def scaleStep : Nat := 308

/-- `x` divided by a power of ten in steps of at most `10 ^ 308`, each rounded. -/
def scaleDown (x : Binary64) (places : Nat) : Binary64 :=
  if places ≤ scaleStep then x.div (Binary64.ofNat (Nat.pow 10 places))
  else if x.isZero then x
  else scaleDown (x.div (Binary64.ofNat (Nat.pow 10 scaleStep))) (places - scaleStep)
termination_by places
decreasing_by
  have : 0 < scaleStep := by decide
  omega

/-- The number with this significand scaled by a power of ten: the significand is rounded first and the
    result once more. Nothing if it is out of range. -/
def scaled? (significand : Nat) (exponent : Int) : Option Binary64 :=
  let x := Binary64.ofNat significand
  if exponent < 0 then some (scaleDown x exponent.natAbs)
  else if exponent ≤ scaleStep then
    let y := x.mul (Binary64.ofNat (Nat.pow 10 exponent.toNat))
    if y.isInfinite then none else some y
  else if x.isZero then some x
  else none

/-- The digits that fit a word, read from the left: the number they spell and how many are left over. -/
def wordPrefix (n : Nat) : List Char → Nat × List Char
  | [] => (n, [])
  | c :: cs =>
    let next := n * 10 + digitValue c
    if next < wordLimit then wordPrefix next cs else (n, c :: cs)

/-- The largest exponent that is read as a number; beyond it only its sign counts. -/
def exponentLimit : Nat := 0x80000000

/-- The number of a literal's parts. Digits that do not fit a word count as zeros before the point and are
    dropped after it. -/
def floatOfParts? (parts : NumberParts) : Option Binary64 :=
  let (whole, extra) := wordPrefix 0 parts.whole
  let (significand, places) := match parts.fraction with
    | none => (whole, (extra.length : Int))
    | some ds =>
      let (n, dropped) := wordPrefix whole ds
      (n, (extra.length : Int) - (ds.length - dropped.length : Nat))
  match parts.exponent with
  | none => scaled? significand places
  | some (negative, ds) =>
    let e := digitsValue 0 ds
    if exponentLimit ≤ e then if negative || significand == 0 then some .zero else none
    else scaled? significand (if negative then places - e else places + e)

/-- The value of a number literal. -/
def numberOf? (literal : List Char) : Option JsonNumber :=
  let (negative, digits) := match literal with
    | '-' :: cs => (true, cs)
    | cs => (false, cs)
  match numberParts? digits with
  | none => none
  | some parts =>
    let n := digitsValue 0 parts.whole
    let isWhole := parts.fraction.isNone && parts.exponent.isNone
    if isWhole && !negative && n < wordLimit then some (.whole n)
    else if isWhole && negative && 0 < n && n ≤ signedReach then some (.whole (-(n : Int)))
    else (floatOfParts? parts).map fun x => .float (if negative then x.neg else x)

/-- How deep arrays and objects may be nested. -/
def depthLimit : Nat := 127

mutual

/-- The value of a text with at most `depth` levels of arrays and objects. -/
def valueOf? (depth : Nat) : JsonText → Option Json
  | .null => some .null
  | .bool b => some (.bool b)
  | .number literal => (numberOf? literal).map .number
  | .string text => text.map .string
  | .array items =>
    match depth with
    | 0 => none
    | depth + 1 => (valuesOf? depth items).map .array
  | .object fields =>
    match depth with
    | 0 => none
    | depth + 1 => (fieldsOf? depth fields).map fun fs => .object (Json.orderFields fs)

def valuesOf? (depth : Nat) : List JsonText → Option (List Json)
  | [] => some []
  | item :: items => do
    let value ← valueOf? depth item
    return value :: (← valuesOf? depth items)

def fieldsOf? (depth : Nat) : List (Option String × JsonText) → Option (List (String × Json))
  | [] => some []
  | (key, value) :: fields => do
    let key ← key
    let value ← valueOf? depth value
    return (key, value) :: (← fieldsOf? depth fields)

end

def toJson? (text : JsonText) : Option Json := valueOf? depthLimit text

end JsonText

/-- The value of a JSON text. -/
def Json.parse? (cs : List Char) : Option Json := (JsonText.parse? cs).bind JsonText.toJson?

end ClusterQuery
