import ControlPlane.Json.Tree
import ControlPlane.Number.Shortest

/-!
# JSON values

`Value` is what a body says once its numbers and strings are interpreted. The members of a value
that was read stand in ascending order of their keys, and of two members with one key the last one
counts. At most 127 containers may be open at once.
-/

namespace ControlPlane.Json

/-- Integers that fit in 64 bits are kept exactly. -/
inductive Number where
  | natural (value : Nat)
  /-- The integer `-value`, for a positive `value`. -/
  | negative (value : Nat)
  | real (value : Binary64)
  deriving DecidableEq, Repr

inductive Value where
  | null
  | bool (value : Bool)
  | number (value : Number)
  | string (value : String)
  | array (items : List Value)
  | object (members : List (String × Value))
  deriving Inhabited

namespace Numeral

/-- Appends digits to a significand while it stays below `2 ^ 64`: the significand, and how many
digits are left out. -/
def absorb (significand : Nat) : List Nat → Nat × Nat
  | [] => (significand, 0)
  | digit :: rest =>
    if 1 <<< 64 ≤ significand * 10 + digit then (significand, rest.length + 1)
    else absorb (significand * 10 + digit) rest

def value (digits : List Nat) : Nat :=
  digits.foldl (fun acc digit => acc * 10 + digit) 0

/-- Divides by a power of ten in steps that are themselves binary numbers. -/
def scaleDown (x : Binary64) (power : Nat) : Option Binary64 :=
  if power ≤ 308 then (Binary64.ofNat (Nat.pow 10 power)).bind x.div
  else if x.mantissa = 0 then some x
  else (Binary64.ofNat (Nat.pow 10 308)).bind fun step =>
    (x.div step).bind fun smaller => scaleDown smaller (power - 308)
termination_by power

/-- The rounded significand times a rounded power of ten, rounded; nothing beyond the largest
number. -/
def scale (significand : Nat) (power : Int) : Option Binary64 :=
  (Binary64.ofNat significand).bind fun x =>
    if power < 0 then scaleDown x (-power).toNat
    else if power ≤ 308 then (Binary64.ofNat (Nat.pow 10 power.toNat)).bind x.mul
    else if x.mantissa = 0 then some x
    else none

/-- The largest power of ten whose digits are read. -/
def maxPower : Nat := (1 <<< 31) - 1

/-- The number as a binary one. -/
def real? (numeral : Numeral) : Option Binary64 :=
  let (head, droppedWhole) := absorb 0 numeral.whole
  let (significand, droppedFraction) := absorb head numeral.fraction
  let shift : Int := droppedWhole - (numeral.fraction.length - droppedFraction : Nat)
  let magnitude := match numeral.power with
    | none => scale significand shift
    | some (negative, digits) =>
      let power := value digits
      if maxPower < power then
        if significand ≠ 0 ∧ !negative then none else some (.zero false)
      else scale significand (if negative then shift - power else shift + power)
  magnitude.map fun x => { x with negative := numeral.negative }

/-- Whether the number is written as an integer that fits in 64 bits without its sign. -/
def isInteger (numeral : Numeral) : Bool :=
  numeral.fraction.isEmpty && numeral.power.isNone && (absorb 0 numeral.whole).2 = 0

/-- The number itself. A minus sign before zero, or before more than 63 bits, makes it a binary
one. -/
def number? (numeral : Numeral) : Option Number :=
  if numeral.isInteger then
    let magnitude := value numeral.whole
    if !numeral.negative then some (.natural magnitude)
    else if 0 < magnitude ∧ magnitude ≤ 1 <<< 63 then some (.negative magnitude)
    else numeral.real?.map .real
  else numeral.real?.map .real

end Numeral

namespace Value

/-- Puts a member where its key belongs, in place of one with the same key. -/
def insert (key : String) (value : Value) : List (String × Value) → List (String × Value)
  | [] => [(key, value)]
  | (other, held) :: rest =>
    if key < other then (key, value) :: (other, held) :: rest
    else if key = other then (key, value) :: rest
    else (other, held) :: insert key value rest

/-- The members by ascending key; the last of two with one key counts. -/
def sortMembers (members : List (String × Value)) : List (String × Value) :=
  members.foldl (fun sorted member => insert member.1 member.2 sorted) []

mutual

/-- The value of a tree, with `room` more containers allowed. -/
def ofTree? (room : Nat) : Tree → Option Value
  | .null => some .null
  | .bool value => some (.bool value)
  | .number numeral => numeral.number?.map .number
  | .string pieces => (text? pieces).map .string
  | .array items =>
    match room with
    | 0 => none
    | room + 1 => (ofItems? room items).map .array
  | .object members =>
    match room with
    | 0 => none
    | room + 1 => (ofMembers? room members).map fun members => .object (sortMembers members)

def ofItems? (room : Nat) : List Tree → Option (List Value)
  | [] => some []
  | tree :: rest =>
    (ofTree? room tree).bind fun value => (ofItems? room rest).map (value :: ·)

/-- The members of an object, as written. -/
def ofMembers? (room : Nat) : List (List Piece × Tree) → Option (List (String × Value))
  | [] => some []
  | (pieces, tree) :: rest =>
    (text? pieces).bind fun key =>
      (ofTree? room tree).bind fun value => (ofMembers? room rest).map ((key, value) :: ·)

end

/-- How many containers may be open at once. -/
def maxDepth : Nat := 127

/-- The value that a body spells. -/
def parse? (octets : Bytes) : Option Value :=
  (Tree.parse? octets).bind (ofTree? maxDepth)

/-- The name of a constant: a text, or an object whose one member holds `null`. -/
def name? : Value → Option String
  | .string name => some name
  | .object [(name, .null)] => some name
  | _ => none

end Value

end ControlPlane.Json
