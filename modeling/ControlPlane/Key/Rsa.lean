import ControlPlane.Key.Der
import ControlPlane.Key.Pem
import ControlPlane.Key.Sha256

/-!
# RSA keys

A private key comes as it is or wrapped, and signs the SHA-256 hash of a message. A key is accepted
for signing only if its parts fit together and it is long enough.
-/

namespace ControlPlane

structure RsaKey where
  modulus : Nat
  publicExponent : Nat
  privateExponent : Nat
  prime1 : Nat
  prime2 : Nat
  exponent1 : Nat
  exponent2 : Nat
  coefficient : Nat
  deriving DecidableEq, Repr

namespace RsaKey

def bitLength (n : Nat) : Nat :=
  if n = 0 then 0 else Nat.log2 n + 1

/-- Whether the parts fit together: the modulus fills 256 octets or more, has at most 4096 bits and
is the product of primes of half its length, the public exponent is odd and of 17 to 33 bits, and
the others are what they are meant to be. -/
def isSound (key : RsaKey) : Bool :=
  let bits := bitLength key.modulus
  let half := (bits + 1) / 2
  256 ≤ (bits + 7) / 8 && bits ≤ 4096 &&
    key.publicExponent % 2 = 1 && 65537 ≤ key.publicExponent && key.publicExponent < 1 <<< 33 &&
    key.prime1 * key.prime2 = key.modulus &&
    bitLength key.prime1 = half && bitLength key.prime2 = half && half % 512 = 0 &&
    key.prime1 % 2 = 1 && key.prime2 % 2 = 1 &&
    key.privateExponent % 2 = 1 && key.privateExponent < key.modulus &&
    half < bitLength key.privateExponent &&
    key.exponent1 % 2 = 1 && key.exponent1 < key.prime1 &&
    key.exponent2 % 2 = 1 && key.exponent2 < key.prime2 &&
    key.coefficient < key.prime1 && key.coefficient * key.prime2 % key.prime1 = 1

/-- The key of a plain encoding: the version 0 and eight numbers, and nothing else. -/
def ofDer? (octets : Bytes) : Option RsaKey := do
  let (content, after) ← Der.shortItem? 0x30 octets
  let (numbers, rest) ← Der.takeNaturals 9 content
  match numbers with
  | [0, n, e, d, p, q, dp, dq, c] =>
    if after.isEmpty ∧ rest.isEmpty then some ⟨n, e, d, p, q, dp, dq, c⟩ else none
  | _ => none

def rsaIdentifier : List Nat := [1, 2, 840, 113549, 1, 1, 1]

/-- The identifiers of keys on elliptic curves. -/
def curveIdentifiers : List (List Nat) := [[1, 2, 840, 10045, 2, 1], [1, 3, 101, 112]]

/-- The encoding of an RSA key inside an armoured text: a plain one by its name, a wrapped one by
the first identifier of a kind of key. Whether it is a sound private key is not yet asked. -/
def encodingOf? (text : String) : Option Bytes := do
  let block ← Pem.parse? text
  let items ← Der.items? block.content
  if block.tag = "RSA PRIVATE KEY" ∨ block.tag = "RSA PUBLIC KEY" then some block.content
  else if block.tag = "PRIVATE KEY" ∨ block.tag = "PUBLIC KEY" ∨ block.tag = "CERTIFICATE" then
    let known := (Der.identifiersOf items).find? fun arcs =>
      arcs = rsaIdentifier || curveIdentifiers.contains arcs
    if known = some rsaIdentifier then Der.firstStringOf? items else none
  else none

/-- A power of a number by a modulus, by repeated squaring. -/
def powMod (base exponent modulus : Nat) : Nat :=
  if exponent = 0 then 1 % modulus
  else
    let half := powMod (base * base % modulus) (exponent / 2) modulus
    if exponent % 2 = 1 then half * base % modulus else half
termination_by exponent
decreasing_by omega

def octetsOf (count n : Nat) : Bytes :=
  (List.range count).reverse.map fun i => UInt8.ofNat (n >>> (8 * i))

/-- What stands before a SHA-256 hash to name it. -/
def hashLabel : Bytes := [
  0x30, 0x31, 0x30, 0x0d, 0x06, 0x09, 0x60, 0x86, 0x48, 0x01, 0x65, 0x03, 0x04, 0x02, 0x01, 0x05,
  0x00, 0x04, 0x20]

/-- The number that the private key makes of another one: its roots by either prime, put together.
-/
def root (key : RsaKey) (n : Nat) : Nat :=
  let root1 := powMod n key.exponent1 key.prime1
  let root2 := powMod n key.exponent2 key.prime2
  let difference := (root1 + key.prime1 - root2 % key.prime1) % key.prime1
  root2 + key.prime2 * (difference * key.coefficient % key.prime1)

/-- The number that a message stands for when it is signed. -/
def messageNumber (width : Nat) (message : Bytes) : Nat :=
  let labelled := hashLabel ++ Sha256.hash message
  let filler := List.replicate (width - labelled.length - 3) 0xFF
  let block := 0x00 :: 0x01 :: filler ++ 0x00 :: labelled
  block.foldl (fun acc o => acc * 256 + o.toNat) 0

/-- The signature of a message, unless the public exponent does not undo it. -/
def sign? (key : RsaKey) (message : Bytes) : Option Bytes :=
  let width := (bitLength key.modulus + 7) / 8
  let n := messageNumber width message
  let root := key.root n
  if powMod root key.publicExponent key.modulus = n then some (octetsOf width root) else none

end RsaKey

end ControlPlane
