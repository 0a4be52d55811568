import ClusterQuery.Time.Calendar
import ClusterQuery.Number.Bounded

/-!
Instants of universal time and their text. A leap second lies within the last second of its minute: its
nanoseconds go on from one thousand million.
-/

namespace ClusterQuery

structure Instant where
  /-- The day, counted from the first of January 1970. -/
  day : Int
  /-- The second of the day. -/
  second : Nat
  nano : Nat
deriving DecidableEq, Inhabited

namespace Instant

/-- The nanoseconds of a second, and where those of a leap second begin. -/
def secondNanos : Nat := 1000000000

/-- The order in time. -/
def compare (a b : Instant) : Ordering :=
  (Ord.compare a.day b.day).then ((Ord.compare a.second b.second).then (Ord.compare a.nano b.nano))

/-- The instant that is `offset` seconds earlier; nothing beyond the years of the calendar. -/
def earlier? (a : Instant) (offset : Int) : Option Instant :=
  let total : Int := a.second - offset
  let day := a.day + total / 86400
  if isYearInRange (dateOfDay day).1 then some { a with day, second := (total % 86400).toNat } else none

/-- A number with zeros in front up to a width. -/
def padded (width n : Nat) : List Char :=
  let ds := Nat.toDigits 10 n
  List.replicate (width - ds.length) '0' ++ ds

/-- Years of four digits, with a sign outside 0 to 9999. -/
def yearText (year : Int) : List Char :=
  if 0 ≤ year ∧ year ≤ 9999 then padded 4 year.toNat
  else (if year < 0 then '-' else '+') :: padded 4 year.natAbs

/-- The fraction of a second in none, three, six or nine digits, whatever is needed. -/
def fractionText (nano : Nat) : List Char :=
  if nano = 0 then []
  else if nano % 1000000 = 0 then '.' :: padded 3 (nano / 1000000)
  else if nano % 1000 = 0 then '.' :: padded 6 (nano / 1000)
  else '.' :: padded 9 nano

/-- The text of an instant up to a fraction of its second. -/
def renderWith (fraction : Nat → List Char) (a : Instant) : List Char :=
  let (year, month, day) := dateOfDay a.day
  let leap := a.nano / secondNanos
  yearText year ++ '-' :: padded 2 month ++ '-' :: padded 2 day ++ 'T' :: padded 2 (a.second / 3600) ++
    ':' :: padded 2 (a.second / 60 % 60) ++ ':' :: padded 2 (a.second % 60 + leap) ++
    fraction (a.nano % secondNanos) ++ ['Z']

/-- The text of an instant, with as many digits after the second as it needs. -/
def render (a : Instant) : List Char := renderWith fractionText a

end Instant

end ClusterQuery
