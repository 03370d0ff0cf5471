import ControlPlane.Text.Blank
import ControlPlane.Time.Instant

/-!
# Wall clock texts

A text such as `2024-05-01 13:45:10.123456` gives an instant at the zero meridian. Blanks may stand
before each number and in place of the space, numbers may be shorter than usual, and a year may have
a sign and then any length.
-/

namespace ControlPlane.WallClock

/-- Reads a number of one to `most` digits. -/
def takeNumber (most : Nat) (text : List Char) : Option (Nat × List Char) :=
  let digits := (text.take most).takeWhile Char.isDigit
  if digits.isEmpty then none
  else
    let value := digits.foldl (fun acc c => acc * 10 + (c.toNat - '0'.toNat)) 0
    some (value, text.drop digits.length)

/-- Reads a number after blanks, within bounds. -/
def takeField (least greatest : Nat) (text : List Char) : Option (Nat × List Char) :=
  (takeNumber 2 (Text.trimStart text)).bind fun (value, rest) =>
    if least ≤ value ∧ value ≤ greatest then some (value, rest) else none

/-- Reads a year after blanks. -/
def takeYear (text : List Char) : Option (Int × List Char) :=
  match Text.trimStart text with
  | '-' :: rest => (takeNumber rest.length rest).map fun (value, rest) => (-value, rest)
  | '+' :: rest => (takeNumber rest.length rest).map fun (value, rest) => (value, rest)
  | rest => (takeNumber 4 rest).map fun (value, rest) => (value, rest)

def takeMark (mark : Char) : List Char → Option (List Char)
  | c :: rest => if c = mark then some rest else none
  | [] => none

/-- Reads a fraction of a second, if there is one: nanoseconds, with further digits dropped. -/
def takeFraction : List Char → Option (Nat × List Char)
  | '.' :: rest =>
    (takeNumber 9 rest).map fun (value, after) =>
      let width := rest.length - after.length
      (value * Nat.pow 10 (9 - width), after.dropWhile Char.isDigit)
  | rest => some (0, rest)

def parse? (text : String) : Option Instant := do
  let (year, rest) ← takeYear text.toList
  let (month, rest) ← takeField 1 12 (← takeMark '-' rest)
  let (day, rest) ← takeField 1 31 (← takeMark '-' rest)
  let (hour, rest) ← takeField 0 23 (Text.trimStart rest)
  let (minute, rest) ← takeField 0 59 (← takeMark ':' rest)
  let (second, rest) ← takeField 0 60 (← takeMark ':' rest)
  let (nanos, rest) ← takeFraction rest
  let date : Day := ⟨year, month, day⟩
  if rest.isEmpty ∧ date.isValid then
    let seconds := date.number * Instant.daySeconds + (hour * 3600 + minute * 60 + second : Nat)
    some ⟨seconds * Instant.second + nanos⟩
  else none

end ControlPlane.WallClock
