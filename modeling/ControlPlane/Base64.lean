import ControlPlane.Bytes

/-!
# Base 64

Three octets are four symbols of six bits each. The padded form of the standard alphabet writes
basic credentials and key files; the form for URLs, without padding, writes signed assertions.
Reading accepts exactly what writing produces: no blanks, whole groups, and no stray bits.
-/

namespace ControlPlane.Base64

/-- The two symbols in which the alphabets differ, and whether short groups are padded. -/
structure Variant where
  symbol62 : Char
  symbol63 : Char
  isPadded : Bool

/-- The standard alphabet, padded. -/
def standard : Variant := ⟨'+', '/', true⟩

/-- The alphabet for URLs, without padding. -/
def urlSafe : Variant := ⟨'-', '_', false⟩

def symbol (variant : Variant) (bits : Nat) : Char :=
  if bits < 26 then Char.ofNat (bits + 0x41)
  else if bits < 52 then Char.ofNat (bits - 26 + 0x61)
  else if bits < 62 then Char.ofNat (bits - 52 + 0x30)
  else if bits = 62 then variant.symbol62
  else variant.symbol63

/-- The six bits of a symbol. -/
def bits? (variant : Variant) (c : Char) : Option Nat :=
  let code := c.toNat
  if 0x41 ≤ code ∧ code ≤ 0x5A then some (code - 0x41)
  else if 0x61 ≤ code ∧ code ≤ 0x7A then some (code - 0x61 + 26)
  else if 0x30 ≤ code ∧ code ≤ 0x39 then some (code - 0x30 + 52)
  else if c = variant.symbol62 then some 62
  else if c = variant.symbol63 then some 63
  else none

def padding (variant : Variant) (count : Nat) : List Char :=
  if variant.isPadded then List.replicate count '=' else []

/-- Writes octets as symbols. -/
def encode (variant : Variant) : Bytes → List Char
  | [] => []
  | [a] =>
    [symbol variant (a.toNat / 4), symbol variant (a.toNat % 4 * 16)] ++ padding variant 2
  | [a, b] =>
    [symbol variant (a.toNat / 4), symbol variant (a.toNat % 4 * 16 + b.toNat / 16),
      symbol variant (b.toNat % 16 * 4)] ++ padding variant 1
  | a :: b :: c :: rest =>
    symbol variant (a.toNat / 4) :: symbol variant (a.toNat % 4 * 16 + b.toNat / 16) ::
      symbol variant (b.toNat % 16 * 4 + c.toNat / 64) :: symbol variant (c.toNat % 64) ::
      encode variant rest

def octet (n : Nat) : UInt8 :=
  UInt8.ofNat n

/-- Reads the padded form of the standard alphabet. -/
def decode? : List Char → Option Bytes
  | [] => some []
  | [a, b, '=', '='] => do
    let x ← bits? standard a
    let y ← bits? standard b
    if y % 16 = 0 then some [octet (x * 4 + y / 16)] else none
  | [a, b, c, '='] => do
    let x ← bits? standard a
    let y ← bits? standard b
    let z ← bits? standard c
    if z % 4 = 0 then some [octet (x * 4 + y / 16), octet (y % 16 * 16 + z / 4)] else none
  | a :: b :: c :: d :: rest => do
    let x ← bits? standard a
    let y ← bits? standard b
    let z ← bits? standard c
    let w ← bits? standard d
    let more ← decode? rest
    some (octet (x * 4 + y / 16) :: octet (y % 16 * 16 + z / 4) :: octet (z % 4 * 64 + w) :: more)
  | _ => none

/-- The credential of a user name and a password, as basic authentication sends it. -/
def basicCredential (username password : String) : String :=
  String.ofList (encode standard (Bytes.ofString (username ++ ":" ++ password)))

end ControlPlane.Base64
