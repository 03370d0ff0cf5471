import ControlPlane.Text.Ranges
import ControlPlane.Text.Table
import ControlPlane.Url.Domain.Mapping.Table

/-!
# Mapping of domain names

Before a domain name is compared or sent, capitals become small letters, variants of a letter the
letter itself and invisible characters nothing. `Domain.map?` says what a code point becomes, if it
may stand in a domain name at all.
-/

namespace ControlPlane.Url.Domain

/-- Code points that become nothing. -/
def droppedRanges : Array (Nat × Nat) :=
  #[(0xAD, 0xAD), (0x34F, 0x34F), (0x115F, 0x1160), (0x17B4, 0x17B5), (0x180B, 0x180F),
   (0x200B, 0x200B), (0x2060, 0x2064), (0x206A, 0x206F), (0x3164, 0x3164), (0xFE00, 0xFE0F),
   (0xFEFF, 0xFEFF), (0xFFA0, 0xFFA0), (0x1BCA0, 0x1BCA3), (0x1D173, 0x1D17A),
   (0xE0100, 0xE01EF)]

/-- Visible code points that may not stand in a domain name: what would become a point, or a text
with a character of a path, descriptions of letters, and stand-ins for something else. -/
def refusedRanges : Array (Nat × Nat) :=
  #[(0x2024, 0x2026), (0x2488, 0x249B), (0x2FF0, 0x2FFF), (0x31EF, 0x31EF), (0x33C2, 0x33C2),
   (0x33C7, 0x33C7), (0x33D8, 0x33D8), (0xFE12, 0xFE12), (0xFE19, 0xFE19), (0xFE30, 0xFE30),
   (0xFE52, 0xFE52), (0xFFFC, 0xFFFD), (0x1F100, 0x1F100)]

/-- The invisible character that keeps letters apart. -/
def nonJoiner : Nat := 0x200C

/-- The invisible character that makes letters join. -/
def joiner : Nat := 0x200D

/-- First and last code points of the runs in which every second one becomes the next one. -/
def alternatings : List (Nat × Nat) :=
  (Text.rows alternatingLines).filterMap fun row =>
    match row with
    | [first, last] => some (first, last)
    | _ => none

/-- Runs that become other runs; the value is what the first code point becomes. -/
def shifts : List Text.Run :=
  Text.runs shiftLines

/-- Runs in which every code point becomes the same. -/
def merges : List (Nat × Nat × List Nat) :=
  (Text.rows mergeLines).filterMap fun row =>
    match row with
    | first :: last :: codes => some (first, last, codes)
    | _ => none

/-- Single code points and what they become. -/
def substitutes : List (Nat × List Nat) :=
  (Text.rows substituteLines).filterMap fun row =>
    match row with
    | code :: codes => some (code, codes)
    | [] => none

/-- What takes the place of a code point beyond ASCII, if it is mapped. -/
def substitute? (code : Nat) : Option (List Nat) :=
  if alternatings.any fun (first, last) => first ≤ code && code ≤ last && (code - first) % 2 = 0
  then some [code + 1]
  else match Text.runOf? shifts code with
    | some run => some [run.value + (code - run.first)]
    | none =>
      match merges.find? fun (first, last, _) => first ≤ code && code ≤ last with
      | some (_, _, codes) => some codes
      | none => substitutes.lookup code

def lowerAscii (code : Nat) : Nat :=
  if 0x41 ≤ code ∧ code ≤ 0x5A then code + 32 else code

/-- Whether a code point beyond ASCII that is not mapped may not stand in a domain name. -/
def isRefused (code : Nat) : Bool :=
  code ≠ nonJoiner && code ≠ joiner &&
    (Text.inRanges Text.unprintableRanges code || Text.inRanges refusedRanges code)

/-- What a code point becomes in a domain name; nothing if it may not stand in one. -/
def map? (code : Nat) : Option (List Nat) :=
  if code < 0x80 then some [lowerAscii code]
  else if Text.inRanges droppedRanges code then some []
  else match substitute? code with
    | some codes => some codes
    | none => if isRefused code then none else some [code]

end ControlPlane.Url.Domain
