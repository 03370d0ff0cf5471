import ControlPlane.Text.Ranges
import ControlPlane.Text.Table
import ControlPlane.Url.Domain.Direction.Table

/-!
# Writing directions in domain names

A domain name with letters written from right to left must not look like another one. So each of
its labels keeps to one direction: it starts with a letter, ends with a letter or a digit of its
direction, and holds nothing of the other one.
-/

namespace ControlPlane.Url.Domain

inductive Direction where
  | leftToRight
  | rightToLeft
  | arabicNumber
  | europeanNumber
  | neutral
  /-- The direction of the character before. -/
  | mark
  deriving DecidableEq, Repr

/-- Runs that are not written from left to right. -/
def directions : List Text.Run :=
  Text.runs directionLines

/-- Marks without room of their own that are nevertheless written from left to right. -/
def directedMarks : List Nat :=
  [0xCBF, 0xCC6, 0x11A07, 0x11A08, 0x11C3F]

def asciiDirection (code : Nat) : Direction :=
  if 0x30 ≤ code ∧ code ≤ 0x39 then .europeanNumber
  else if (0x41 ≤ code ∧ code ≤ 0x5A) ∨ (0x61 ≤ code ∧ code ≤ 0x7A) then .leftToRight
  else .neutral

def directionOf (code : Nat) : Direction :=
  if code < 0x80 then asciiDirection code
  else if directedMarks.contains code then .leftToRight
  else if Text.isNonspacingMark code then .mark
  else match (Text.runOf? directions code).map Text.Run.value with
    | none => .leftToRight
    | some 0 => .rightToLeft
    | some 1 => .arabicNumber
    | some 2 => .europeanNumber
    | some _ => .neutral

/-- Whether a character makes its whole domain name keep to the rule. -/
def isFromRight (code : Nat) : Bool :=
  let direction := directionOf code
  direction = .rightToLeft || direction = .arabicNumber

/-- Whether the directions of a label keep to the rule. -/
def keepsDirection (label : List Direction) : Bool :=
  let final := (label.reverse.dropWhile (· = .mark)).head?
  let has (direction : Direction) : Bool := label.contains direction
  match label.head? with
  | none => true
  | some .leftToRight =>
    final.any (fun last => last = .leftToRight || last = .europeanNumber) &&
      !has .rightToLeft && !has .arabicNumber
  | some .rightToLeft =>
    final.any (fun last => last ≠ .neutral) && !has .leftToRight &&
      !(has .arabicNumber && has .europeanNumber)
  | some _ => false

/-- Whether the labels of a domain name keep to the rule, if it holds for them. -/
def keepDirections (labels : List (List Nat)) : Bool :=
  !labels.any (·.any isFromRight) || labels.all fun label => keepsDirection (label.map directionOf)

end ControlPlane.Url.Domain
