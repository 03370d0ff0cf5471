import ControlPlane.Text.Quoted
import ControlPlane.Url.Domain
import ControlPlane.Url.Percent

/-!
# Hosts of URLs

A host is a domain name or an address of version 4 or 6. A domain whose last label is a number is an
address of version 4 or nothing at all.
-/

namespace ControlPlane.Url

/-- Why a text is no URL. -/
inductive UrlError where
  | emptyHost
  | invalidDomain
  | invalidPort
  | invalidIpv4
  | invalidIpv6
  | invalidDomainCharacter
  | noScheme
  deriving DecidableEq, Repr

def UrlError.message : UrlError → String
  | .emptyHost => "empty host"
  | .invalidDomain => "invalid international domain name"
  | .invalidPort => "invalid port number"
  | .invalidIpv4 => "invalid IPv4 address"
  | .invalidIpv6 => "invalid IPv6 address"
  | .invalidDomainCharacter => "invalid domain character"
  | .noScheme => "relative URL without a base"

inductive Host where
  | domain (name : String)
  | ipv4 (address : Nat)
  /-- Eight numbers of 16 bits. -/
  | ipv6 (pieces : List Nat)
  deriving DecidableEq, Repr

namespace Host

def digit? (base : Nat) (c : Char) : Option Nat :=
  let code := c.toNat
  let value :=
    if 0x30 ≤ code ∧ code ≤ 0x39 then code - 0x30
    else if 0x41 ≤ code ∧ code ≤ 0x46 then code - 0x41 + 10
    else if 0x61 ≤ code ∧ code ≤ 0x66 then code - 0x61 + 10
    else base
  if value < base then some value else none

/-- The number that digits of a base write. -/
def number? (base : Nat) (digits : List Char) : Option Nat :=
  (digits.mapM (digit? base)).map fun values => values.foldl (fun acc d => acc * base + d) 0

/-- A part of an address of version 4: decimal, octal after `0`, hexadecimal after `0x`. -/
def ipv4Number? (part : List Char) : Option Nat :=
  match part with
  | [] => none
  | '0' :: 'x' :: digits | '0' :: 'X' :: digits => number? 16 digits
  | '0' :: digit :: digits => number? 8 (digit :: digits)
  | digits => number? 10 digits

/-- The parts of a domain, without an empty one at its end. -/
def ipv4Parts (domain : List Char) : List (List Char) :=
  let parts := Text.splitOn '.' domain
  if 1 < parts.length ∧ parts.getLast? = some [] then parts.dropLast else parts

/-- Whether the last part of a domain is a number. -/
def endsInNumber (domain : List Char) : Bool :=
  match (ipv4Parts domain).getLast? with
  | none => false
  | some last =>
    (!last.isEmpty && last.all fun c => '0' ≤ c && c ≤ '9') || (ipv4Number? last).isSome

/-- The address of version 4 that a domain writes: the last part fills the octets that the others
leave. -/
def ipv4? (domain : List Char) : Option Nat := do
  let parts := ipv4Parts domain
  let numbers ← parts.mapM ipv4Number?
  let last ← numbers.getLast?
  let leading := numbers.dropLast
  let width := 8 * (4 - leading.length)
  if 4 < parts.length ∨ 1 <<< width ≤ last ∨ leading.any (255 < ·) then none
  else some ((leading.foldl (fun acc n => acc * 256 + n) 0) <<< width + last)

/-- A number from 0 to 255 without leading zeros. -/
def octet? (digits : List Char) : Option Nat :=
  if digits.isEmpty ∨ (digits.head? = some '0' ∧ 1 < digits.length) then none
  else (number? 10 digits).bind fun n => if n ≤ 255 then some n else none

/-- The last part of an address of version 6: one number, or four octets as two. -/
def ipv6Last? (part : List Char) : Option (List Nat) :=
  if part.contains '.' then
    match (Text.splitOn '.' part).mapM octet? with
    | some [a, b, c, d] => some [a * 256 + b, c * 256 + d]
    | _ => none
  else if 1 ≤ part.length ∧ part.length ≤ 4 then (number? 16 part).map fun n => [n]
  else none

def ipv6Piece? (part : List Char) : Option Nat :=
  if 1 ≤ part.length ∧ part.length ≤ 4 then number? 16 part else none

/-- Parts between colons. Only at the end of an address four octets may stand. -/
def ipv6Pieces? (isLast : Bool) (text : List Char) : Option (List Nat) :=
  if text.isEmpty then some []
  else do
    let parts := Text.splitOn ':' text
    let leading ← parts.dropLast.mapM ipv6Piece?
    let last ← parts.getLast?
    let final ← if isLast then ipv6Last? last else (ipv6Piece? last).map fun n => [n]
    some (leading ++ final)

/-- Cuts a text at the first pair of colons. -/
def cutAtPair : List Char → Option (List Char × List Char)
  | ':' :: ':' :: rest => some ([], rest)
  | c :: rest => (cutAtPair rest).map fun (before, after) => (c :: before, after)
  | [] => none

/-- The address of version 6 that a text writes; a pair of colons stands for one zero or more. -/
def ipv6? (text : List Char) : Option (List Nat) :=
  match cutAtPair text with
  | none =>
    (ipv6Pieces? true text).bind fun pieces => if pieces.length = 8 then some pieces else none
  | some (before, after) => do
    let leading ← ipv6Pieces? false before
    let trailing ← ipv6Pieces? true after
    let known := leading.length + trailing.length
    if known ≤ 7 then some (leading ++ List.replicate (8 - known) 0 ++ trailing) else none

/-- How many zeros stand at the start. -/
def zeroRun (pieces : List Nat) : Nat :=
  (pieces.takeWhile (· = 0)).length

/-- The first longest run of at least two zeros: where it starts, and its length. -/
def longestZeros (pieces : List Nat) : Option (Nat × Nat) :=
  let runs := (List.range pieces.length).map fun start => (start, zeroRun (pieces.drop start))
  let best := runs.foldl (fun best run => if best.2 < run.2 then run else best) (0, 1)
  if best.2 < 2 then none else some best

/-- Numbers in hexadecimal, with colons between them. -/
def colonText (pieces : List Nat) : String :=
  ":".intercalate (pieces.map fun piece => String.ofList (Text.hexDigits piece))

def text : Host → String
  | .domain name => name
  | .ipv4 address =>
    ".".intercalate ([3, 2, 1, 0].map fun i => toString ((address >>> (8 * i)) % 256))
  | .ipv6 pieces =>
    match longestZeros pieces with
    | none => "[" ++ colonText pieces ++ "]"
    | some (start, length) =>
      "[" ++ colonText (pieces.take start) ++ "::" ++
        colonText (pieces.drop (start + length)) ++ "]"

/-- The address between brackets, or what another reader says. -/
def bracketed (text : List Char) (other : List Char → Except UrlError Host) :
    Except UrlError Host :=
  match text with
  | '[' :: rest =>
    if rest.getLast? = some ']' then
      match ipv6? rest.dropLast with
      | some pieces => .ok (.ipv6 pieces)
      | none => .error .invalidIpv6
    else .error .invalidIpv6
  | _ => other text

/-- The host of a special scheme. -/
def parse (text : List Char) : Except UrlError Host :=
  bracketed text fun text =>
    match Domain.toAscii? (percentDecode (Bytes.ofString (String.ofList text))) with
    | none => .error .invalidDomain
    | some name =>
      if name.isEmpty then .error .emptyHost
      else if endsInNumber name.toList then
        match ipv4? name.toList with
        | some address => .ok (.ipv4 address)
        | none => .error .invalidIpv4
      else .ok (.domain name)

/-- Characters that may not stand in the host of another scheme. -/
def isForbidden (c : Char) : Bool :=
  c.toNat = 0 || "\t\n\r #/:<>?@[\\]^|".toList.contains c

/-- The host of a scheme that is not special: any text. -/
def parseOpaque (text : List Char) : Except UrlError Host :=
  bracketed text fun text =>
    if text.any isForbidden then .error .invalidDomainCharacter
    else .ok (.domain (String.ofList (encodeText isControl text)))

end Host

end ControlPlane.Url
