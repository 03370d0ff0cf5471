import ControlPlane.Url.Percent

/-!
# Form encoding

Pairs of texts joined by `&` and `=`, as in queries and in the bodies sent to token endpoints. A
space is written `+`; letters, digits and `*-._` stand for themselves, and every other octet is
percent-encoded.
-/

namespace ControlPlane.Url.Form

/-- Octets that stand for themselves. -/
def isSafe (octet : UInt8) : Bool :=
  (0x30 ≤ octet && octet ≤ 0x39) || (0x41 ≤ octet && octet ≤ 0x5A) ||
    (0x61 ≤ octet && octet ≤ 0x7A) || octet = 0x2A || octet = 0x2D || octet = 0x2E || octet = 0x5F

def encodeOctet (octet : UInt8) : List Char :=
  if isSafe octet then [Char.ofNat octet.toNat]
  else if octet = 0x20 then ['+']
  else Url.encodeOctet octet

def encodeText (text : String) : List Char :=
  (Bytes.ofString text).flatMap encodeOctet

def encodePair (pair : String × String) : List Char :=
  encodeText pair.1 ++ '=' :: encodeText pair.2

/-- Adds pairs to a text of pairs. -/
def extend (text : List Char) (pairs : List (String × String)) : List Char :=
  pairs.foldl
    (fun text pair => (if text.isEmpty then [] else text ++ ['&']) ++ encodePair pair) text

def encode (pairs : List (String × String)) : String :=
  String.ofList (extend [] pairs)

/-- Cuts octets at each occurrence of a separator. -/
def split (separator : UInt8) : Bytes → List Bytes
  | [] => [[]]
  | octet :: rest =>
    if octet = separator then [] :: split separator rest
    else match split separator rest with
      | [] => [[octet]]
      | part :: parts => (octet :: part) :: parts

def decodeText (octets : Bytes) : String :=
  Bytes.lossy (percentDecode (octets.map fun octet => if octet = 0x2B then 0x20 else octet))

/-- Reads one pair: the name ends at the first `=`. -/
def decodePair (octets : Bytes) : String × String :=
  (decodeText (octets.takeWhile (· ≠ 0x3D)), decodeText ((octets.dropWhile (· ≠ 0x3D)).drop 1))

/-- Reads pairs; empty parts give none. -/
def decode (text : String) : List (String × String) :=
  ((split 0x26 (Bytes.ofString text)).filter (!·.isEmpty)).map decodePair

end ControlPlane.Url.Form
