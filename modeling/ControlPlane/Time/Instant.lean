import ControlPlane.Time.Span

/-!
# Instants of the calendar

An instant is a number of nanoseconds since the start of 1970. The calendar is the Gregorian one,
carried on in both directions, and ends at fixed years: arithmetic that leaves it has no result.
-/

namespace ControlPlane

structure Instant where
  nanos : Int
  deriving DecidableEq, Repr, Inhabited

structure Day where
  year : Int
  month : Nat
  day : Nat
  deriving DecidableEq, Repr

namespace Day

def isLeap (year : Int) : Bool :=
  year % 4 = 0 && (year % 100 ≠ 0 || year % 400 = 0)

def monthLength (year : Int) (month : Nat) : Nat :=
  if month = 2 then (if isLeap year then 29 else 28)
  else if month = 4 ∨ month = 6 ∨ month = 9 ∨ month = 11 then 30
  else 31

/-- The first and the last year of the calendar. -/
def leastYear : Int := -262143

/-- See `leastYear`. -/
def greatestYear : Int := 262142

def isValid (day : Day) : Bool :=
  leastYear ≤ day.year && day.year ≤ greatestYear && 1 ≤ day.month && day.month ≤ 12 &&
    1 ≤ day.day && day.day ≤ monthLength day.year day.month

/-- Days since the start of 1970. The year is counted from March, so that the leap day ends it. -/
def number (day : Day) : Int :=
  let year := if day.month ≤ 2 then day.year - 1 else day.year
  let era := year / 400
  let yearOfEra := year % 400
  let month : Int := ((day.month + 9) % 12 : Nat)
  let dayOfYear := (153 * month + 2) / 5 + day.day - 1
  era * 146097 + yearOfEra * 365 + yearOfEra / 4 - yearOfEra / 100 + dayOfYear - 719468

/-- The day of a number of days since the start of 1970. -/
def ofNumber (number : Int) : Day :=
  let shifted := number + 719468
  let era := shifted / 146097
  let dayOfEra := shifted % 146097
  let yearOfEra := (dayOfEra - dayOfEra / 1460 + dayOfEra / 36524 - dayOfEra / 146096) / 365
  let dayOfYear := dayOfEra - (365 * yearOfEra + yearOfEra / 4 - yearOfEra / 100)
  let month := (5 * dayOfYear + 2) / 153
  let day := dayOfYear - (153 * month + 2) / 5 + 1
  let civilMonth := if month < 10 then month + 3 else month - 9
  let year := yearOfEra + era * 400 + (if civilMonth ≤ 2 then 1 else 0)
  ⟨year, civilMonth.toNat, day.toNat⟩

end Day

namespace Instant

def second : Int := 1000000000

def daySeconds : Int := 86400

def least : Instant :=
  ⟨Day.number ⟨Day.leastYear, 1, 1⟩ * daySeconds * second⟩

def greatest : Instant :=
  ⟨(Day.number ⟨Day.greatestYear, 12, 31⟩ + 1) * daySeconds * second - 1⟩

/-- An instant, if the calendar has it. -/
def ofNanos? (nanos : Int) : Option Instant :=
  if least.nanos ≤ nanos ∧ nanos ≤ greatest.nanos then some ⟨nanos⟩ else none

/-- The instant a number of seconds after the start of 1970. -/
def ofSeconds? (seconds : Int) : Option Instant :=
  ofNanos? (seconds * second)

def addSeconds? (instant : Instant) (seconds : Int) : Option Instant :=
  ofNanos? (instant.nanos + seconds * second)

def after (instant : Instant) (span : Span) : Instant :=
  ⟨instant.nanos + span.nanos⟩

/-- A natural number with at least `width` digits. -/
def padded (width n : Nat) : String :=
  let digits := Nat.toDigits 10 n
  String.ofList (List.replicate (width - digits.length) '0' ++ digits)

/-- The text of a year: four digits, or a sign and at least four beyond them. -/
def yearText (year : Int) : String :=
  if 0 ≤ year ∧ year ≤ 9999 then padded 4 year.toNat
  else (if year < 0 then "-" else "+") ++ padded 4 year.natAbs

/-- The digits of a fraction of a second: none, or three, six or nine. -/
def fractionText (nanos : Nat) : String :=
  if nanos = 0 then ""
  else if nanos % 1000000 = 0 then "." ++ padded 3 (nanos / 1000000)
  else if nanos % 1000 = 0 then "." ++ padded 6 (nanos / 1000)
  else "." ++ padded 9 nanos

/-- The text of an instant, at the zero meridian. -/
def text (instant : Instant) : String :=
  let seconds := instant.nanos / second
  let day := Day.ofNumber (seconds / daySeconds)
  let time := (seconds % daySeconds).toNat
  yearText day.year ++ "-" ++ padded 2 day.month ++ "-" ++ padded 2 day.day ++ "T" ++
    padded 2 (time / 3600) ++ ":" ++ padded 2 (time / 60 % 60) ++ ":" ++ padded 2 (time % 60) ++
    fractionText (instant.nanos % second).toNat ++ "Z"

end Instant

end ControlPlane
