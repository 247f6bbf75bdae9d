import Gradebook.Text.Blank

/-! Moments in Universal Time. A moment is a second since the start of 1970 and a count of nanoseconds into
it; a leap second is the nanoseconds beyond the first thousand million of the second before it.
Moments are written with as few fraction digits as hold them (none, three, six or nine), and read
from a date, a time and an offset with a forgiving attitude to blanks. -/

namespace Gradebook

/-- A moment of Universal Time. -/
structure Timestamp where
  second : Int
  nano : Nat
  deriving DecidableEq, Repr, Inhabited

namespace Timestamp

def epoch : Timestamp := ⟨0, 0⟩

/-- The moment one nanosecond later. -/
def next (t : Timestamp) : Timestamp :=
  if t.nano + 1 < 1000000000 then ⟨t.second, t.nano + 1⟩ else ⟨t.second + 1, 0⟩

/-- A date of the Gregorian calendar. -/
structure Date where
  year : Int
  month : Nat
  day : Nat
  deriving DecidableEq, Repr

def isLeapYear (year : Int) : Bool := year % 4 == 0 && (year % 100 != 0 || year % 400 == 0)

def daysInMonth (year : Int) : Nat → Nat
  | 1 | 3 | 5 | 7 | 8 | 10 | 12 => 31
  | 4 | 6 | 9 | 11 => 30
  | 2 => if isLeapYear year then 29 else 28
  | _ => 0

/-- The first and the last year that a date can have. -/
def firstYear : Int := -262143
def lastYear : Int := 262142

def Date.isValid (d : Date) : Bool :=
  decide (firstYear ≤ d.year) && decide (d.year ≤ lastYear) && decide (1 ≤ d.day)
    && decide (d.day ≤ daysInMonth d.year d.month)

/-- Days from 1 January 1970. Years are counted from March, so that the leap day is the last of its year. -/
def Date.toDays (d : Date) : Int :=
  let year := if d.month ≤ 2 then d.year - 1 else d.year
  let era := year.fdiv 400
  let yearOfEra := year - era * 400
  let monthFromMarch : Int := ((d.month : Int) + 9) % 12
  let dayOfYear := (153 * monthFromMarch + 2) / 5 + d.day - 1
  let dayOfEra := yearOfEra * 365 + yearOfEra / 4 - yearOfEra / 100 + dayOfYear
  era * 146097 + dayOfEra - 719468

/-- The date of a number of days from 1 January 1970. -/
def Date.ofDays (days : Int) : Date :=
  let z := days + 719468
  let era := z.fdiv 146097
  let dayOfEra := z - era * 146097
  let yearOfEra := (dayOfEra - dayOfEra / 1460 + dayOfEra / 36524 - dayOfEra / 146096) / 365
  let dayOfYear := dayOfEra - (365 * yearOfEra + yearOfEra / 4 - yearOfEra / 100)
  let monthFromMarch := (5 * dayOfYear + 2) / 153
  let day := dayOfYear - (153 * monthFromMarch + 2) / 5 + 1
  let month := if monthFromMarch < 10 then monthFromMarch + 3 else monthFromMarch - 9
  let year := yearOfEra + era * 400 + (if month ≤ 2 then 1 else 0)
  ⟨year, month.toNat, day.toNat⟩

/-- A number with zeros before it up to a width. -/
def padded (width n : Nat) : String :=
  let digits := toString n
  String.ofList (List.replicate (width - digits.length) '0') ++ digits

/-- A year: four digits, or a sign and at least four digits outside the years 0 to 9999. -/
def yearText (year : Int) : String :=
  if 0 ≤ year ∧ year ≤ 9999 then padded 4 year.toNat
  else (if year < 0 then "-" else "+") ++ padded 4 year.natAbs

/-- The fraction of a second, with as many of nine digits as hold it in steps of three. -/
def fractionText (nano : Nat) : String :=
  if nano = 0 then ""
  else if nano % 1000000 = 0 then "." ++ padded 3 (nano / 1000000)
  else if nano % 1000 = 0 then "." ++ padded 6 (nano / 1000)
  else "." ++ padded 9 nano

def text (t : Timestamp) : String :=
  let day := t.second.fdiv 86400
  let secondOfDay := (t.second - day * 86400).toNat
  let date := Date.ofDays day
  let leap := t.nano / 1000000000
  yearText date.year ++ "-" ++ padded 2 date.month ++ "-" ++ padded 2 date.day ++ "T"
    ++ padded 2 (secondOfDay / 3600) ++ ":" ++ padded 2 (secondOfDay / 60 % 60) ++ ":"
    ++ padded 2 (secondOfDay % 60 + leap) ++ fractionText (t.nano % 1000000000) ++ "Z"

def digitsNumber (digits : List Char) : Nat := digits.foldl (fun n c => n * 10 + (c.toNat - 48)) 0

/-- Reads at least one and at most `width` digits. -/
def readNumber (width : Nat) (cs : List Char) : Option (Nat × List Char) :=
  match (cs.take width).takeWhile Char.isDigit with
  | [] => none
  | digits => some (digitsNumber digits, cs.drop digits.length)

/-- Reads a number after blanks. -/
def readField (width : Nat) (cs : List Char) : Option (Nat × List Char) :=
  readNumber width (Text.trimLeft cs)

/-- Reads a year: a sign and any number of digits, or at most four digits. -/
def readYear (cs : List Char) : Option (Int × List Char) :=
  match Text.trimLeft cs with
  | '-' :: rest => (readNumber rest.length rest).map fun (n, rest) => (-(n : Int), rest)
  | '+' :: rest => (readNumber rest.length rest).map fun (n, rest) => ((n : Int), rest)
  | rest => (readNumber 4 rest).map fun (n, rest) => ((n : Int), rest)

/-- Reads a character with blanks before and after it. -/
def readMark (mark : Char) (cs : List Char) : Option (List Char) :=
  match Text.trimLeft cs with
  | c :: rest => if c = mark then some (Text.trimLeft rest) else none
  | [] => none

def readDate (cs : List Char) : Option (Date × List Char) := do
  let (year, cs) ← readYear cs
  let cs ← readMark '-' cs
  let (month, cs) ← readField 2 cs
  let cs ← readMark '-' cs
  let (day, cs) ← readField 2 cs
  let date : Date := ⟨year, month, day⟩
  if date.isValid then pure (date, cs) else none

/-- Reads the digits after a point as nanoseconds; digits past the ninth are dropped. -/
def readFraction : List Char → Option (Nat × List Char)
  | '.' :: cs => do
    let (n, rest) ← readNumber 9 cs
    pure (n * Nat.pow 10 (9 - (cs.length - rest.length)), rest.dropWhile Char.isDigit)
  | cs => some (0, cs)

/-- Reads a time of day: seconds since midnight and nanoseconds. The second 60 is the leap second of the
second before it. -/
def readTime (cs : List Char) : Option ((Nat × Nat) × List Char) := do
  let (hour, cs) ← readField 2 cs
  let cs ← readMark ':' cs
  let (minute, cs) ← readField 2 cs
  let cs ← readMark ':' cs
  let (second, cs) ← readField 2 cs
  let (nano, cs) ← readFraction cs
  if hour ≤ 23 ∧ minute ≤ 59 ∧ second ≤ 60 then
    let leap := second / 60
    pure ((hour * 3600 + minute * 60 + second - leap, nano + leap * 1000000000), Text.trimLeft cs)
  else none

/-- Reads the hours and minutes of an offset, in seconds. -/
def readHoursAndMinutes (cs : List Char) : Option (Nat × List Char) :=
  match cs with
  | a :: b :: rest =>
    match rest.dropWhile fun c => c = ':' || Text.isBlank c with
    | c :: d :: rest =>
      if [a, b, c, d].all Char.isDigit && decide (c.toNat ≤ '5'.toNat) then
        some (digitsNumber [a, b] * 3600 + digitsNumber [c, d] * 60, rest)
      else none
    | _ => none
  | _ => none

/-- Reads an offset from Universal Time in seconds: a letter Z, the letters UTC, or a sign with hours and
minutes. -/
def readOffset (cs : List Char) : Option (Int × List Char) :=
  if (cs.take 3).map Char.toUpper = ['U', 'T', 'C'] then some (0, cs.drop 3)
  else
    match cs with
    | 'Z' :: rest => some (0, rest)
    | 'z' :: rest => some (0, rest)
    | '+' :: rest => (readHoursAndMinutes rest).map fun (n, rest) => ((n : Int), rest)
    | '-' :: rest => (readHoursAndMinutes rest).map fun (n, rest) => (-(n : Int), rest)
    | '\u2212' :: rest => (readHoursAndMinutes rest).map fun (n, rest) => (-(n : Int), rest)
    | _ => none

/-- The first second of the first year and the first second after the last year. -/
def firstSecond : Int := (Date.toDays ⟨firstYear, 1, 1⟩) * 86400
def endSecond : Int := (Date.toDays ⟨lastYear + 1, 1, 1⟩) * 86400

/-- Reads a moment from a date, a separator, a time and an offset. -/
def parse? (s : String) : Option Timestamp := do
  let (date, cs) ← readDate s.toList
  let cs ← match cs with
    | 'T' :: rest => some rest
    | 't' :: rest => some rest
    | ' ' :: rest => some rest
    | _ => none
  let ((secondOfDay, nano), cs) ← readTime cs
  let (offset, cs) ← readOffset cs
  let second := date.toDays * 86400 + secondOfDay - offset
  if (Text.trimLeft cs).isEmpty && decide (offset.natAbs < 86400) && decide (firstSecond ≤ second)
      && decide (second < endSecond) then
    some ⟨second, nano⟩
  else none

end Timestamp

end Gradebook
