import ControlPlane.Bytes
import ControlPlane.Url.Domain.Direction
import ControlPlane.Url.Domain.Joiner
import ControlPlane.Url.Domain.Mapping
import ControlPlane.Url.Punycode

/-!
# Domain names

A domain is compared and sent in lower case ASCII. Labels with other characters are mapped first,
composed, and then written in Punycode behind the mark `xn--`. A label that comes in Punycode must
be what this would have given.
-/

namespace ControlPlane.Url.Domain

/-- ASCII characters that no domain name holds. -/
def isForbidden (code : Nat) : Bool :=
  code ≤ 0x20 || code = 0x7F || "%#/:<>?@[\\]^|".toList.any fun c => c.toNat = code

/-- The labels joined by points. -/
def joinLabels : List (List Char) → List Char
  | [] => []
  | [label] => label
  | label :: rest => label ++ '.' :: joinLabels rest

/-- A label: as it is read, and as it is sent. -/
structure Label where
  codes : List Nat
  ascii : List Char
  deriving DecidableEq, Repr

/-- The greatest length of a label that is written in Punycode. -/
def greatestLabel : Nat := 1000

/-- The greatest length of the Punycode of a label. -/
def greatestPunycode : Nat := 2000

/-- Whether a label of mapped characters may be written in Punycode: it holds something beyond
ASCII, no mark stands at its start, and its joiners fit. -/
def isEncodable (codes : List Nat) : Bool :=
  codes.any (0x80 ≤ ·) && codes.length ≤ greatestLabel && !codes.head?.any Text.isMark &&
    joinersFit [] codes

/-- Whether mapping and composition leave a label as it is. -/
def isStable (codes : List Nat) : Bool :=
  codes.all (fun code => map? code = some [code]) && Text.composed codes = codes

/-- The label of mapped and composed code points. -/
def label? (codes : List Nat) : Option Label :=
  let chars := codes.map Char.ofNat
  let isAscii := codes.all (· < 0x80)
  match chars with
  | 'x' :: 'n' :: '-' :: '-' :: encoded =>
    if isAscii ∧ encoded.length ≤ greatestPunycode then
      (Punycode.decode? encoded).bind fun decoded =>
        let decodedCodes := decoded.map Char.toNat
        if isEncodable decodedCodes && isStable decodedCodes then some ⟨decodedCodes, chars⟩
        else none
    else none
  | _ =>
    if isAscii then some ⟨codes, chars⟩
    else if isEncodable codes then
      some ⟨codes, 'x' :: 'n' :: '-' :: '-' :: Punycode.encode chars⟩
    else none

/-- The ASCII form of a domain name given as UTF-8. -/
def toAscii? (octets : Bytes) : Option String := do
  let text ← Bytes.decode? octets
  let mapped ← text.toList.mapM fun c => map? c.toNat
  let codes := Text.composed mapped.flatten
  if codes.any isForbidden then none
  else
    let labels ← (Text.splitOn 0x2E codes).mapM label?
    if keepDirections (labels.map Label.codes) then
      some (String.ofList (joinLabels (labels.map Label.ascii)))
    else none

end ControlPlane.Url.Domain
