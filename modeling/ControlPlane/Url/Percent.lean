import ControlPlane.Bytes

/-!
# Percent encoding

Each part of a URL has its own set of ASCII characters that are written as `%` and two hexadecimal
digits; characters beyond ASCII always are, octet by octet.
-/

namespace ControlPlane.Url

/-- An upper case hexadecimal digit. -/
def hexUpper (n : Nat) : Char :=
  if n < 10 then Char.ofNat (n + 0x30) else Char.ofNat (n - 10 + 0x41)

/-- An octet as `%` and two digits. -/
def encodeOctet (octet : UInt8) : List Char :=
  ['%', hexUpper (octet.toNat / 16), hexUpper (octet.toNat % 16)]

/-- A character, encoded if the test asks for it. -/
def encodeChar (test : Char → Bool) (c : Char) : List Char :=
  if test c then (String.utf8EncodeChar c).flatMap encodeOctet else [c]

/-- A text, with the characters encoded for which the test asks. -/
def encodeText (test : Char → Bool) (text : List Char) : List Char :=
  text.flatMap (encodeChar test)

/-- Control characters, and everything beyond ASCII. -/
def isControl (c : Char) : Bool :=
  c.toNat < 0x20 || 0x7E < c.toNat

/-- The characters encoded in a fragment. -/
def inFragmentSet (c : Char) : Bool :=
  isControl c || c = ' ' || c = '"' || c = '<' || c = '>' || c.toNat = 0x60

/-- The characters encoded in a path. -/
def inPathSet (c : Char) : Bool :=
  inFragmentSet c || c = '#' || c = '?' || c = '\x7b' || c = '\x7d'

/-- The characters encoded in a user name and a password. -/
def inUserSet (c : Char) : Bool :=
  inPathSet c || "/:;=@[\\]^|".toList.contains c

/-- The characters encoded in a query; special schemes add the single quote. -/
def inQuerySet (special : Bool) (c : Char) : Bool :=
  isControl c || c = ' ' || c = '"' || c = '#' || c = '<' || c = '>' || (special && c.toNat = 0x27)

def hexValue? (octet : UInt8) : Option Nat :=
  if 0x30 ≤ octet ∧ octet ≤ 0x39 then some (octet.toNat - 0x30)
  else if 0x41 ≤ octet ∧ octet ≤ 0x46 then some (octet.toNat - 0x41 + 10)
  else if 0x61 ≤ octet ∧ octet ≤ 0x66 then some (octet.toNat - 0x61 + 10)
  else none

/-- Undoes percent encoding; a `%` without two hexadecimal digits stands for itself. -/
def percentDecode : Bytes → Bytes
  | 0x25 :: a :: b :: rest =>
    match hexValue? a, hexValue? b with
    | some high, some low => UInt8.ofNat (high * 16 + low) :: percentDecode rest
    | _, _ => 0x25 :: percentDecode (a :: b :: rest)
  | octet :: rest => octet :: percentDecode rest
  | [] => []

end ControlPlane.Url
