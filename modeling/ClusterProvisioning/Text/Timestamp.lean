import ClusterProvisioning.Text.Blank
import ClusterProvisioning.Text.Integer

/-!
# Points in time

A date, a time of day and an offset from universal time, as API objects write them, and the same
point in universal time to the second. Readers are liberal: numbers may lack leading zeros, and blank
characters may stand before them.
-/

namespace ClusterProvisioning.Text

/-- A day of the calendar. -/
structure Day where
  year : Int
  month : Nat
  day : Nat
  deriving DecidableEq, Repr

namespace Day

def isLeapYear (year : Int) : Bool :=
  year % 4 = 0 && (year % 100 ≠ 0 || year % 400 = 0)

/-- The days of a month, counted from one. -/
def daysIn (year : Int) (month : Nat) : Nat :=
  if month = 2 then (if isLeapYear year then 29 else 28)
  else if month = 4 || month = 6 || month = 9 || month = 11 then 30
  else 31

/-- The first and the last year that a date may have. -/
def firstYear : Int := -262143
def lastYear : Int := 262142

def isValid (d : Day) : Bool :=
  firstYear ≤ d.year && d.year ≤ lastYear && 1 ≤ d.month && d.month ≤ 12 && 1 ≤ d.day
    && d.day ≤ daysIn d.year d.month

def next (d : Day) : Day :=
  if d.day < daysIn d.year d.month then { d with day := d.day + 1 }
  else if d.month < 12 then ⟨d.year, d.month + 1, 1⟩
  else ⟨d.year + 1, 1, 1⟩

def previous (d : Day) : Day :=
  if 1 < d.day then { d with day := d.day - 1 }
  else if 1 < d.month then ⟨d.year, d.month - 1, daysIn d.year (d.month - 1)⟩
  else ⟨d.year - 1, 12, 31⟩

end Day

/-! ### Reading -/

def skipBlank (cs : List Char) : List Char := cs.dropWhile isBlank

/-- What follows a character. -/
def after? (c : Char) : List Char → Option (List Char)
  | d :: rest => if d = c then some rest else none
  | [] => none

/-- A number of at most so many digits after blank characters, and what follows. -/
def number? (width : Nat) (cs : List Char) : Option (Nat × List Char) := do
  let cs := skipBlank cs
  let digits := (cs.take width).takeWhile Char.isDigit
  return (← readDigits digits, cs.drop digits.length)

/-- A mark after blank characters, and the number of at most two digits after it. -/
def markedNumber? (mark : Char) (cs : List Char) : Option (Nat × List Char) := do
  number? 2 (← after? mark (skipBlank cs))

/-- A number of any length, and what follows. -/
def digits? (cs : List Char) : Option (Nat × List Char) := do
  let digits := cs.takeWhile Char.isDigit
  return (← readDigits digits, cs.drop digits.length)

/-- A year after blank characters, and what follows. One with a sign may have any number of
digits. -/
def year? (cs : List Char) : Option (Int × List Char) :=
  match skipBlank cs with
  | '-' :: rest => (digits? rest).map fun (n, rest) => (-Int.ofNat n, rest)
  | '+' :: rest => (digits? rest).map fun (n, rest) => (Int.ofNat n, rest)
  | rest => (number? 4 rest).map fun (n, rest) => (Int.ofNat n, rest)

/-- The text after the fraction of a second, if there is one. -/
def afterFraction? : List Char → Option (List Char)
  | '.' :: rest =>
    let after := rest.dropWhile Char.isDigit
    if after.length < rest.length then some after else none
  | rest => some rest

/-- The two digits of a number below a limit, and what follows. -/
def twoDigits? (limit : Nat) : List Char → Option (Nat × List Char)
  | a :: b :: rest => do
    let n ← readDigits [a, b]
    if n < limit then some (n, rest) else none
  | _ => none

/-- The offset from universal time in minutes, and what follows. -/
def offset? (cs : List Char) : Option (Int × List Char) :=
  match cs with
  | 'Z' :: rest | 'z' :: rest => some (0, rest)
  | sign :: rest => do
    let upper := (cs.take 3).map Char.toUpper
    if upper = ['U', 'T', 'C'] then return (0, cs.drop 3)
    let (hours, rest) ← twoDigits? 24 rest
    let (minutes, rest) ← twoDigits? 60 (rest.dropWhile fun c => c == ':' || isBlank c)
    let offset := Int.ofNat (60 * hours + minutes)
    if sign = '+' then some (offset, rest)
    else if sign = '-' ∨ sign = '\u2212' then some (-offset, rest)
    else none
  | [] => none

/-! ### Points -/

/-- A point in universal time. A minute may have a leap second. -/
structure PointInTime where
  date : Day
  /-- The minutes since the beginning of the day. -/
  minute : Nat
  second : Nat
  deriving DecidableEq, Repr

namespace PointInTime

/-- The point in time that a text writes. -/
def ofText? (s : String) : Option PointInTime := do
  let (year, cs) ← year? s.toList
  let (month, cs) ← markedNumber? '-' cs
  let (dayOfMonth, cs) ← markedNumber? '-' cs
  let cs ← match cs with
    | 'T' :: rest | 't' :: rest | ' ' :: rest => some rest
    | _ => none
  let (hour, cs) ← number? 2 cs
  let (minute, cs) ← markedNumber? ':' cs
  let (second, cs) ← markedNumber? ':' cs
  let (offset, cs) ← offset? (skipBlank (← afterFraction? cs))
  let day : Day := ⟨year, month, dayOfMonth⟩
  if !(skipBlank cs).isEmpty || !day.isValid || 24 ≤ hour || 60 ≤ minute || 61 ≤ second then none
  let minutes := Int.ofNat (60 * hour + minute) - offset
  let (date, minutes) :=
    if minutes < 0 then (day.previous, minutes + 1440)
    else if 1440 ≤ minutes then (day.next, minutes - 1440)
    else (day, minutes)
  if date.isValid then some ⟨date, minutes.toNat, second⟩ else none

/-- A number with leading zeros up to a width. -/
def padded (width n : Nat) : String :=
  let digits := Nat.toDigits 10 n
  String.ofList (List.replicate (width - digits.length) '0' ++ digits)

/-- A year with four digits or more; one that is negative or has more than four has a sign. -/
def yearText (year : Int) : String :=
  let sign := if year < 0 then "-" else if 9999 < year then "+" else ""
  sign ++ padded 4 year.natAbs

instance : ToString PointInTime where
  toString p :=
    s!"{yearText p.date.year}-{padded 2 p.date.month}-{padded 2 p.date.day}" ++
      s!"T{padded 2 (p.minute / 60)}:{padded 2 (p.minute % 60)}:{padded 2 p.second}Z"

/-- The parts of a point in time, the greatest first. -/
def parts (p : PointInTime) : List Int :=
  [p.date.year, p.date.month, p.date.day, p.minute, p.second]

/-- Whether a point comes before another. -/
def isBefore (p q : PointInTime) : Bool := decide (p.parts < q.parts)

end PointInTime

/-- The point in time that a text writes, in universal time to the second. -/
def universalTime? (s : String) : Option String := (PointInTime.ofText? s).map toString

end ClusterProvisioning.Text
