import ControlPlane.Bytes
import ControlPlane.Time.Instant

/-!
# Distinguished encoding

Keys are nested items, each a tag, a length and that many octets. `Der.items?` reads them as they
come and looks into what it knows: it forgives a length in more octets than needed, but no content
that its tag rules out. `Der.shortItem?` reads one item and insists on the shortest form.
-/

namespace ControlPlane

inductive Der where
  | sequence (items : List Der)
  | set (items : List Der)
  | bits (content : Bytes)
  | string (content : Bytes)
  | identifier (arcs : List Nat)
  | other (content : Bytes)

namespace Der

/-- A kind of item. Universal kinds mean the same everywhere. -/
structure Tag where
  isUniversal : Bool
  number : Nat
  deriving DecidableEq, Repr

/-- Reads a number written in groups of seven bits, of which all but the last have the high bit. -/
def takeGroups (start : Nat) : Bytes → Option (Nat × Bytes)
  | [] => none
  | octet :: rest =>
    let value := start * 128 + octet.toNat % 128
    if octet < 0x80 then some (value, rest) else takeGroups value rest

theorem takeGroups_length {start value : Nat} {octets rest : Bytes}
    (h : takeGroups start octets = some (value, rest)) : rest.length < octets.length := by
  induction octets generalizing start with
  | nil => simp [takeGroups] at h
  | cons octet more ih =>
    simp only [takeGroups] at h
    split at h
    · simp only [Option.some.injEq, Prod.mk.injEq] at h
      simp [h.2]
    · have := ih h
      simp only [List.length_cons]
      omega

/-- Reads a tag: in one octet, or with its number in groups after it. -/
def takeTag : Bytes → Option (Tag × Bytes)
  | [] => none
  | octet :: rest =>
    let isUniversal : Bool := octet < 0x40
    if octet.toNat % 32 = 31 then
      (takeGroups 0 rest).map fun (number, after) => (⟨isUniversal, number⟩, after)
    else some (⟨isUniversal, octet.toNat % 32⟩, rest)

/-- Reads a length: a short one in one octet, or the count of octets that hold it. -/
def takeLength : Bytes → Option (Nat × Bytes)
  | [] => none
  | octet :: rest =>
    if octet < 0x80 then some (octet.toNat, rest)
    else
      let count := octet.toNat - 0x80
      if 8 < count ∨ rest.length < count then none
      else some ((rest.take count).foldl (fun acc o => acc * 256 + o.toNat) 0, rest.drop count)

/-- Reads tag and content of one item. -/
def takeItem (octets : Bytes) : Option (Tag × Bytes × Bytes) := do
  let (tag, afterTag) ← takeTag octets
  let (length, body) ← takeLength afterTag
  if body.length < length then none else some (tag, body.take length, body.drop length)

/-- All numbers that groups of seven bits write. -/
def groups? (octets : Bytes) : Option (List Nat) :=
  match octets with
  | [] => some []
  | octet :: rest =>
    match h : takeGroups 0 (octet :: rest) with
    | none => none
    | some (value, after) =>
      have : after.length < rest.length + 1 := takeGroups_length h
      (groups? after).map (value :: ·)
termination_by octets.length

/-- The numbers of an object identifier; the first octet holds two of them. -/
def arcs? : Bytes → Option (List Nat)
  | [] => none
  | octet :: rest =>
    let first := min (octet.toNat / 40) 2
    (groups? rest).map fun arcs => first :: (octet.toNat - 40 * first) :: arcs

/-- The decimal digits of a content, if it has nothing else. -/
def digits? (content : Bytes) : Option (List Nat) :=
  content.mapM fun octet =>
    if 0x30 ≤ octet ∧ octet ≤ 0x39 then some (octet.toNat - 0x30) else none

/-- Whether digits write a moment: four of the year, and two each of month, day, hour, minute and
second. -/
def isMoment (digits : List Nat) : Bool :=
  match digits with
  | [a, b, c, d, e, f, g, h, i, j, k, l, m, n] =>
    Day.isValid ⟨a * 1000 + b * 100 + c * 10 + d, e * 10 + f, g * 10 + h⟩ &&
      i * 10 + j < 24 && k * 10 + l < 60 && m * 10 + n < 60
  | _ => false

/-- Whether a content is a moment with two digits of the year, from 1950 to 2049. -/
def isShortTime (content : Bytes) : Bool :=
  content.length = 13 && content.getLast? = some 0x5A &&
    match digits? content.dropLast with
    | some (tens :: rest) => isMoment ((if 5 ≤ tens then [1, 9] else [2, 0]) ++ tens :: rest)
    | _ => false

/-- Whether a content is a moment with four digits of the year, and maybe fractions of a second. -/
def isLongTime (content : Bytes) : Bool :=
  15 ≤ content.length && content.getLast? = some 0x5A &&
    ((digits? (content.take 14)).any isMoment) &&
    let fraction := content.dropLast.drop 14
    ((digits? (if fraction.head? = some 0x2E then fraction.drop 1 else fraction)).isSome)

/-- Whether an octet may stand in a text of letters, digits and plain punctuation. -/
def isPrintable (octet : UInt8) : Bool :=
  let code := octet.toNat
  (0x30 ≤ code && code ≤ 0x39) || (0x41 ≤ code && code ≤ 0x5A) || (0x61 ≤ code && code ≤ 0x7A) ||
    (0x27 ≤ code && code ≤ 0x2F && code ≠ 0x2A) || [0x20, 0x3A, 0x3D, 0x3F].contains code

/-- Whether a content without items of its own fits the number of its tag: a truth value has one
octet, texts are UTF-8 or printable, and times are moments. -/
def fits (number : Nat) (content : Bytes) : Bool :=
  if number = 0x01 then content.length = 1
  else if number = 0x0C ∨ number = 0x14 ∨ number = 0x1C ∨ number = 0x1E then
    (Bytes.decode? content).isSome
  else if number = 0x13 then content.all isPrintable
  else if number = 0x17 then isShortTime content
  else if number = 0x18 then isLongTime content
  else true

/-- The bits of a content, whose first octet counts those that do not count. -/
def bits? : Bytes → Option Bytes
  | [] => some []
  | unused :: content => if 8 * content.length < unused.toNat then none else some content

/-- Reads items up to the end, as deep as `depth` allows. Nothing at all is no item. -/
def readItems (depth : Nat) (octets : Bytes) : Option (List Der) :=
  match depth with
  | 0 => none
  | depth + 1 => do
    let (tag, content, rest) ← takeItem octets
    let item ←
      if !tag.isUniversal then some (.other content)
      else if tag.number = 0x10 then (readItems depth content).map .sequence
      else if tag.number = 0x11 then (readItems depth content).map .set
      else if tag.number = 0x03 then (bits? content).map .bits
      else if tag.number = 0x04 then some (.string content)
      else if tag.number = 0x06 then (arcs? content).map .identifier
      else if fits tag.number content then some (.other content)
      else none
    let others ← if rest.isEmpty then some [] else readItems depth rest
    some (item :: others)

/-- The items of an encoding. An item takes two octets or more, so the length bounds the depth. -/
def items? (octets : Bytes) : Option (List Der) :=
  readItems octets.length octets

mutual

/-- The first bit or octet string, at any depth of sequences. -/
def firstString? : Der → Option Bytes
  | .sequence items => firstStringOf? items
  | .bits content => some content
  | .string content => some content
  | _ => none

def firstStringOf? : List Der → Option Bytes
  | [] => none
  | item :: rest => (firstString? item).or (firstStringOf? rest)

end

mutual

/-- The object identifiers, at any depth of sequences, in order. -/
def identifiers : Der → List (List Nat)
  | .sequence items => identifiersOf items
  | .identifier arcs => [arcs]
  | _ => []

def identifiersOf : List Der → List (List Nat)
  | [] => []
  | item :: rest => identifiers item ++ identifiersOf rest

end

/-- Reads a length of at most two octets that is as short as it can be. -/
def takeShortLength : Bytes → Option (Nat × Bytes)
  | [] => none
  | octet :: rest =>
    if octet < 0x80 then some (octet.toNat, rest)
    else if octet = 0x81 then
      match rest with
      | low :: body => if low < 0x80 then none else some (low.toNat, body)
      | [] => none
    else if octet = 0x82 then
      match rest with
      | high :: low :: body => if high = 0 then none else some (high.toNat * 256 + low.toNat, body)
      | _ => none
    else none

/-- Reads an item of a tag in one octet, its length in the shortest form: its content and what
follows. -/
def shortItem? (tag : UInt8) : Bytes → Option (Bytes × Bytes)
  | [] => none
  | octet :: rest =>
    if octet = tag then
      (takeShortLength rest).bind fun (length, body) =>
        if body.length < length then none else some (body.take length, body.drop length)
    else none

/-- The value of a content that is an integer from zero on in its shortest form. -/
def natural? (content : Bytes) : Option Nat :=
  match content with
  | [] => none
  | first :: rest =>
    let isShortest := first ≠ 0 || rest.head?.all fun second => 0x80 ≤ second
    if first < 0x80 ∧ isShortest then
      some (content.foldl (fun acc o => acc * 256 + o.toNat) 0)
    else none

/-- Reads `count` integers from zero on: their values and what follows. -/
def takeNaturals : Nat → Bytes → Option (List Nat × Bytes)
  | 0, octets => some ([], octets)
  | count + 1, octets => do
    let (content, rest) ← shortItem? 0x02 octets
    let value ← natural? content
    let (values, after) ← takeNaturals count rest
    some (value :: values, after)

end Der

end ControlPlane
