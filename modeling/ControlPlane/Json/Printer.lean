import ControlPlane.Json.Value
import ControlPlane.Text.Quoted

/-!
# JSON text

`Value.compact` writes a value on one line without blanks, `Value.pretty` one member or item a line
with an indentation of two spaces. Binary numbers are written with the fewest digits that read back.
-/

namespace ControlPlane.Json

def stringChar (c : Char) : List Char :=
  if c = '"' then ['\\', '"']
  else if c = '\\' then ['\\', '\\']
  else if c = '\x08' then ['\\', 'b']
  else if c = '\x0c' then ['\\', 'f']
  else if c = '\n' then ['\\', 'n']
  else if c = '\r' then ['\\', 'r']
  else if c = '\t' then ['\\', 't']
  else if c.toNat < 0x20 then
    '\\' :: 'u' :: '0' :: '0' :: Nat.digitChar (c.toNat / 16) :: [Nat.digitChar (c.toNat % 16)]
  else [c]

def stringChars (text : String) : List Char :=
  '"' :: text.toList.flatMap stringChar ++ ['"']

/-- Where positional notation ends: for exponents from `least` to `greatest` the point stands among
the digits, with at least one digit after it. -/
structure RealFormat where
  least : Int
  greatest : Int

/-- Reals are positional from `0.00001` to below `10 ^ 16`. -/
def realFormat : RealFormat := ⟨-5, 15⟩

/-- The text of a nonzero decimal without trailing zeros, whose first digit stands at
`10 ^ exponent`. -/
def decimalChars (format : RealFormat) (digits : List Char) (exponent : Int) : List Char :=
  if format.least ≤ exponent ∧ exponent ≤ format.greatest then
    if exponent < 0 then
      '0' :: '.' :: List.replicate ((-exponent).toNat - 1) '0' ++ digits
    else
      let whole := exponent.toNat + 1
      let padded := digits ++ List.replicate (whole - digits.length) '0'
      let fraction := padded.drop whole
      padded.take whole ++ '.' :: (if fraction.isEmpty then ['0'] else fraction)
  else
    let fraction := if digits.length ≤ 1 then [] else '.' :: digits.drop 1
    let sign := if exponent < 0 then '-' else '+'
    digits.take 1 ++ fraction ++ 'e' :: sign :: Nat.toDigits 10 exponent.natAbs

def realChars (x : Binary64) : List Char :=
  let sign := if x.negative then ['-'] else []
  if x.mantissa = 0 then sign ++ ['0', '.', '0']
  else
    let (all, power) := x.shortest
    let (digits, power) := Binary64.dropZeros (Nat.toDigits 10 all) power
    sign ++ decimalChars realFormat digits (power + digits.length - 1)

def numberChars : Number → List Char
  | .natural value => Nat.toDigits 10 value
  | .negative value => '-' :: Nat.toDigits 10 value
  | .real value => realChars value

/-- Items with a comma between each two. -/
def joinComma : List (List Char) → List Char
  | [] => []
  | [item] => item
  | item :: rest => item ++ ',' :: joinComma rest

namespace Value

mutual

/-- The text of a value without blanks. -/
def compactChars : Value → List Char
  | .null => ['n', 'u', 'l', 'l']
  | .bool true => ['t', 'r', 'u', 'e']
  | .bool false => ['f', 'a', 'l', 's', 'e']
  | .number value => numberChars value
  | .string value => stringChars value
  | .array items => '[' :: joinComma (compactItems items) ++ [']']
  | .object members => '\x7b' :: joinComma (compactMembers members) ++ ['\x7d']

def compactItems : List Value → List (List Char)
  | [] => []
  | item :: rest => compactChars item :: compactItems rest

def compactMembers : List (String × Value) → List (List Char)
  | [] => []
  | (key, value) :: rest => (stringChars key ++ ':' :: compactChars value) :: compactMembers rest

end

def newLine (depth : Nat) : List Char :=
  '\n' :: List.replicate (2 * depth) ' '

/-- The lines of a container that is not empty. -/
def block (opening closing : Char) (depth : Nat) (lines : List (List Char)) : List Char :=
  if lines.isEmpty then [opening, closing]
  else opening :: joinComma (lines.map (newLine (depth + 1) ++ ·)) ++ newLine depth ++ [closing]

mutual

/-- The text of a value at a depth, one item or member a line. -/
def prettyChars (depth : Nat) : Value → List Char
  | .array items => block '[' ']' depth (prettyItems (depth + 1) items)
  | .object members => block '\x7b' '\x7d' depth (prettyMembers (depth + 1) members)
  | value => compactChars value

def prettyItems (depth : Nat) : List Value → List (List Char)
  | [] => []
  | item :: rest => prettyChars depth item :: prettyItems depth rest

def prettyMembers (depth : Nat) : List (String × Value) → List (List Char)
  | [] => []
  | (key, value) :: rest =>
    (stringChars key ++ ':' :: ' ' :: prettyChars depth value) :: prettyMembers depth rest

end

/-- The text of a value on one line. -/
def compact (value : Value) : String :=
  String.ofList value.compactChars

/-- The text of a value over several lines. -/
def pretty (value : Value) : String :=
  String.ofList (value.prettyChars 0)

end Value

end ControlPlane.Json
