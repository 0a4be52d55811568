import ClusterQuery.Time.Instant
import ClusterQuery.Text.Blank
import ClusterQuery.Text.Split

/-!
Reading dates. A text is tried as an internet timestamp, then in layouts without a zone, which mean universal
time, then with a zone named at its end, and last as the date of a mail.

A `Field` reads one part from the front of a text. In a layout numbers may have fewer digits than usual and
blanks before them, and a space stands for any run of blanks.
-/

namespace ClusterQuery

namespace DateReader

/-- The parts of a date that a text gave. -/
structure Parts where
  year : Int := 1970
  month : Nat := 1
  day : Nat := 1
  hour : Nat := 0
  minute : Nat := 0
  second : Nat := 0
  nano : Nat := 0
  weekday : Option Nat := none

/-- The instant of the parts at a distance from universal time, in seconds. A sixtieth second is a leap
    second. -/
def Parts.instant? (p : Parts) (offset : Int) : Option Instant :=
  let leap := p.second = 60
  let second := if leap then 59 else p.second
  let number := dayNumber p.year p.month p.day
  if isDate p.year p.month p.day && p.weekday.all (· == weekdayOf number) &&
      p.hour < 24 && p.minute < 60 && p.second ≤ 60 then
    let nano := if leap then p.nano + Instant.secondNanos else p.nano
    Instant.earlier? ⟨number, p.hour * 3600 + p.minute * 60 + second, nano⟩ offset
  else none

/-! ### Parts of a text -/

/-- A number of `least` to `most` digits at the front. -/
def takeNumber? (least most : Nat) (cs : List Char) : Option (Nat × List Char) :=
  let digits := (cs.take most).takeWhile isDigit
  if least ≤ digits.length then some (digitsValue 0 digits, cs.drop digits.length) else none

/-- A number of any length from `least` digits on. -/
def takeLongNumber? (least : Nat) (cs : List Char) : Option (Nat × List Char) := takeNumber? least cs.length cs

def takeChar? (c : Char) : List Char → Option (List Char)
  | d :: cs => if d = c then some cs else none
  | [] => none

/-- At least one blank. -/
def takeBlanks? (cs : List Char) : Option (List Char) :=
  match cs with
  | c :: rest => if isBlank c then some (trimStart rest) else none
  | [] => none

def monthNames : List (List Char) :=
  [['j', 'a', 'n'], ['f', 'e', 'b'], ['m', 'a', 'r'], ['a', 'p', 'r'], ['m', 'a', 'y'], ['j', 'u', 'n'],
    ['j', 'u', 'l'], ['a', 'u', 'g'], ['s', 'e', 'p'], ['o', 'c', 't'], ['n', 'o', 'v'], ['d', 'e', 'c']]

def weekdayNames : List (List Char) :=
  [['m', 'o', 'n'], ['t', 'u', 'e'], ['w', 'e', 'd'], ['t', 'h', 'u'], ['f', 'r', 'i'], ['s', 'a', 't'],
    ['s', 'u', 'n']]

/-- One of the names of three letters at the front, by its place; case does not count. -/
def takeName? (names : List (List Char)) (cs : List Char) : Option (Nat × List Char) :=
  (names.findIdx? fun name => sameIgnoringCase name (cs.take 3)).map fun place => (place, cs.drop 3)

/-- Hours and minutes with a sign, as seconds; `between` reads what stands between the two. -/
def takeOffset? (isMinus : Char → Bool) (between : List Char → Option (List Char)) (cs : List Char) :
    Option (Int × List Char) :=
  match cs with
  | [] => none
  | c :: rest =>
    if c == '+' || isMinus c then do
      let (hours, rest) ← takeNumber? 2 2 rest
      let rest ← between rest
      let (minutes, rest) ← takeNumber? 2 2 rest
      if minutes < 60 then
        let seconds : Int := hours * 3600 + minutes * 60
        return (if c == '+' then seconds else -seconds, rest)
      else none
    else none

/-- A distance from universal time is less than a day. -/
def isOffset (seconds : Int) : Bool := seconds.natAbs < 86400

/-! ### Internet timestamps -/

/-- The fraction of a second in nanoseconds; digits after the ninth are dropped. -/
def takeFraction? (cs : List Char) : Option (Nat × List Char) :=
  let digits := cs.takeWhile isDigit
  let kept := digits.take 9
  if digits.isEmpty then none
  else some (digitsValue 0 kept * Nat.pow 10 (9 - kept.length), cs.drop digits.length)

/-- A full date, `T` or a space, a time and a distance from universal time or `Z`. -/
def readTimestamp? (cs : List Char) : Option Instant := do
  let (year, cs) ← takeNumber? 4 4 cs
  let cs ← takeChar? '-' cs
  let (month, cs) ← takeNumber? 2 2 cs
  let cs ← takeChar? '-' cs
  let (day, cs) ← takeNumber? 2 2 cs
  let cs ← match cs with
    | c :: rest => if c == 'T' || c == 't' || c == ' ' then some rest else none
    | [] => none
  let (hour, cs) ← takeNumber? 2 2 cs
  let cs ← takeChar? ':' cs
  let (minute, cs) ← takeNumber? 2 2 cs
  let cs ← takeChar? ':' cs
  let (second, cs) ← takeNumber? 2 2 cs
  let (nano, cs) ← match cs with
    | '.' :: rest => takeFraction? rest
    | _ => some (0, cs)
  let parts : Parts := { year, month, day, hour, minute, second, nano }
  match cs with
  | ['Z'] | ['z'] => parts.instant? 0
  | _ =>
    let (offset, rest) ← takeOffset? (fun c => c == '-' || c == '\u2212') (takeChar? ':') cs
    if rest.isEmpty && isOffset offset then parts.instant? offset else none

/-! ### Layouts -/

/-- One part of a layout. -/
inductive Field where
  | year | shortYear | month | day | hour | minute | second | monthName | weekdayName | blanks
  | char (c : Char)

/-- A year: up to four digits, or any number of them after a sign. -/
def takeYear? (cs : List Char) : Option (Int × List Char) :=
  match cs with
  | '-' :: rest => (takeLongNumber? 1 rest).map fun (n, rest) => (-(n : Int), rest)
  | '+' :: rest => (takeLongNumber? 1 rest).map fun (n, rest) => ((n : Int), rest)
  | _ => (takeNumber? 1 4 cs).map fun (n, rest) => ((n : Int), rest)

/-- A two-digit year from 70 on is of the twentieth century, any other of the next. -/
def fullYear (n : Nat) : Int := if n < 70 then 2000 + n else 1900 + n

/-- Reads one field from the front. -/
def Field.read? (field : Field) (parts : Parts) (cs : List Char) : Option (Parts × List Char) :=
  let short := takeNumber? 1 2 (trimStart cs)
  match field with
  | .year => (takeYear? (trimStart cs)).map fun (n, rest) => ({ parts with year := n }, rest)
  | .shortYear => short.map fun (n, rest) => ({ parts with year := fullYear n }, rest)
  | .month => short.map fun (n, rest) => ({ parts with month := n }, rest)
  | .day => short.map fun (n, rest) => ({ parts with day := n }, rest)
  | .hour => short.map fun (n, rest) => ({ parts with hour := n }, rest)
  | .minute => short.map fun (n, rest) => ({ parts with minute := n }, rest)
  | .second => short.map fun (n, rest) => ({ parts with second := n }, rest)
  | .monthName => (takeName? monthNames cs).map fun (place, rest) => ({ parts with month := place + 1 }, rest)
  | .weekdayName => (takeName? weekdayNames cs).map fun (place, rest) => ({ parts with weekday := some place }, rest)
  | .blanks => some (parts, trimStart cs)
  | .char c => (takeChar? c cs).map fun rest => (parts, rest)

/-- Reads the fields of a layout from the front. -/
def takeLayout? (parts : Parts) : List Field → List Char → Option (Parts × List Char)
  | [], cs => some (parts, cs)
  | field :: fields, cs => do
    let (parts, rest) ← field.read? parts cs
    takeLayout? parts fields rest

/-- Reads a text in a layout; nothing may be left over. -/
def readLayout? (parts : Parts) (layout : List Field) (cs : List Char) : Option Parts :=
  match takeLayout? parts layout cs with
  | some (parts, []) => some parts
  | _ => none

def readIn? (layout : List Field) (cs : List Char) (offset : Int) : Option Instant :=
  (readLayout? {} layout cs).bind (·.instant? offset)

def time : List Field := [.hour, .char ':', .minute, .char ':', .second]

/-- The layouts with a time and without, in the order in which they are tried. -/
def plainLayouts : List (List Field) :=
  let date : List Field := [.year, .char '-', .month, .char '-', .day]
  [date ++ .char 'T' :: time, date ++ .blanks :: time, date,
    [.year, .char '/', .month, .char '/', .day], [.month, .char '/', .day, .char '/', .year]]

/-! ### Timestamps of objects -/

/-- The distance from universal time at the end of a loose timestamp: `Z`, `UTC`, or hours and minutes with
    colons or blanks between them if any. -/
def takeLooseZone? (cs : List Char) : Option (Int × List Char) :=
  match cs with
  | c :: rest =>
    if c == 'Z' || c == 'z' then some (0, rest)
    else if sameIgnoringCase (cs.take 3) ['u', 't', 'c'] then some (0, cs.drop 3)
    else
      takeOffset? (fun c => c == '-' || c == '\u2212') (fun cs => some (cs.dropWhile fun c => c == ':' || isBlank c)) cs
  | [] => none

/-- An internet timestamp whose numbers may have fewer digits, with blanks between its parts. -/
def readLooseTimestamp? (cs : List Char) : Option Instant := do
  let (parts, cs) ← takeLayout? {} [.year, .blanks, .char '-', .month, .blanks, .char '-', .day] cs
  let cs ← match cs with
    | c :: rest => if c == 'T' || c == 't' || c == ' ' then some rest else none
    | [] => none
  let (parts, cs) ← takeLayout? parts [.hour, .blanks, .char ':', .minute, .blanks, .char ':', .second] cs
  let (nano, cs) ← match cs with
    | '.' :: rest => takeFraction? rest
    | _ => some (0, cs)
  let (offset, cs) ← takeLooseZone? (trimStart cs)
  if (trimStart cs).isEmpty && isOffset offset then Parts.instant? { parts with nano } offset else none

/-! ### Named zones -/

/-- The hours by which a zone is ahead of universal time. -/
def zoneHours? (name : List Char) : Option Int :=
  match String.ofList name with
  | "UTC" | "GMT" | "UT" | "Z" => some 0
  | "EST" => some (-5)
  | "EDT" => some (-4)
  | "CST" => some (-6)
  | "CDT" => some (-5)
  | "MST" => some (-7)
  | "MDT" => some (-6)
  | "PST" => some (-8)
  | "PDT" => some (-7)
  | _ => none

/-- The layouts before a named zone. -/
def zonedLayouts : List (List Field) :=
  [[.weekdayName, .char ',', .blanks, .day, .blanks, .monthName, .blanks, .year, .blanks] ++ time,
    [.day, .blanks, .monthName, .blanks, .shortYear, .blanks, .hour, .char ':', .minute]]

/-- A date and, after the last space, the name of its zone. -/
def readZoned? (cs : List Char) : Option Instant := do
  let (date, zone) ← splitLast (· == ' ') cs
  let hours ← zoneHours? zone
  let offset := hours * 3600
  let local' ← zonedLayouts.findSome? fun layout =>
    (readLayout? {} layout date).bind fun parts => (parts.instant? 0).map fun _ => parts
  local'.instant? offset

/-! ### Dates of mails -/

/-- Zones of mails: those of North America, universal time, and single letters, which mean it too. -/
def mailZone? (name : List Char) : Option Int :=
  match String.ofList (lowerText name) with
  | "gmt" | "ut" | "z" => some 0
  | "edt" => some (-4)
  | "est" | "cdt" => some (-5)
  | "cst" | "mdt" => some (-6)
  | "mst" | "pdt" => some (-7)
  | "pst" => some (-8)
  | "j" => none
  | _ => if name.length = 1 then some 0 else none

/-- The zone of a mail: letters, or a sign and four digits. -/
def takeMailZone? (cs : List Char) : Option (Int × List Char) :=
  let name := cs.takeWhile isAsciiLetter
  if name.isEmpty then takeOffset? (· == '-') some cs
  else (mailZone? name).map fun hours => (hours * 3600, cs.drop name.length)

/-- The rest after a comment of this depth; a backslash takes the character after it along. -/
def skipComment? (depth : Nat) : List Char → Option (List Char)
  | [] => none
  | ')' :: cs => if depth ≤ 1 then some cs else skipComment? (depth - 1) cs
  | '(' :: cs => skipComment? (depth + 1) cs
  | '\\' :: _ :: cs => skipComment? depth cs
  | ['\\'] => none
  | _ :: cs => skipComment? depth cs

/-- Whether a text holds nothing but comments in parentheses, with blanks before each. -/
def isComments (fuel : Nat) (cs : List Char) : Bool :=
  match fuel, cs with
  | _, [] => true
  | 0, _ => false
  | fuel + 1, cs =>
    match trimStart cs with
    | '(' :: rest =>
      match skipComment? 1 rest with
      | some after => isComments fuel after
      | none => false
    | _ => false

/-- The year of a mail: two digits below 50 are of this century, other years below four digits of the last. -/
def mailYear (digits n : Nat) : Int :=
  if digits = 2 ∧ n < 50 then 2000 + n else if digits = 2 ∨ digits = 3 then 1900 + n else n

/-- A day of the week if any, a date, a time and a zone, with comments at the end. -/
def readMail? (cs : List Char) : Option Instant := do
  let cs := trimStart cs
  let (weekday, cs) ← match takeName? weekdayNames cs with
    | some (place, ',' :: rest) => some (some place, trimStart rest)
    | some _ => none
    | none => some (none, cs)
  let (day, cs) ← takeNumber? 1 2 cs
  let cs ← takeBlanks? cs
  let (month, cs) ← takeName? monthNames cs
  let cs ← takeBlanks? cs
  let (n, rest) ← takeLongNumber? 2 cs
  let year := mailYear (cs.length - rest.length) n
  let cs ← takeBlanks? rest
  let (hour, cs) ← takeNumber? 2 2 cs
  let cs ← takeChar? ':' (trimStart cs)
  let (minute, cs) ← takeNumber? 2 2 (trimStart cs)
  let (second, cs) ← match trimStart cs with
    | ':' :: rest => takeNumber? 2 2 rest
    | _ => some (0, cs)
  let cs ← takeBlanks? cs
  let (offset, cs) ← takeMailZone? cs
  if isComments cs.length cs && isOffset offset then
    Parts.instant? { year, month := month + 1, day, hour, minute, second, weekday } offset
  else none

end DateReader

/-- Reads a date in any of the forms; one without a zone is of universal time. -/
def readDate? (cs : List Char) : Option Instant :=
  (DateReader.readTimestamp? cs).or <|
    (DateReader.plainLayouts.findSome? fun layout => DateReader.readIn? layout cs 0).or <|
      (DateReader.readZoned? cs).or (DateReader.readMail? cs)

end ClusterQuery
