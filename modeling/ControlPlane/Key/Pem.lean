import ControlPlane.Base64
import ControlPlane.Text.Blank

/-!
# Armoured keys

A key file names its content between dashes, before and after it, and holds it in base 64, with
blanks anywhere. What stands before an empty line are headers, each with a colon, and does not
belong to the content.
-/

namespace ControlPlane.Pem

/-- What follows the first occurrence of a mark, of which `pending` is still to come. A character
that breaks an occurrence off is not tried as the start of another one, so a dash too many hides a
mark of dashes. -/
def afterMark (mark pending : List Char) : List Char → Option (List Char)
  | [] => none
  | c :: rest =>
    match pending with
    | [] => none
    | wanted :: more =>
      if c = wanted then (if more.isEmpty then some rest else afterMark mark more rest)
      else afterMark mark mark rest

/-- Cuts a text at the first occurrence of a mark: what stands before it and after it. -/
def cutAt (mark : String) (text : List Char) : Option (List Char × List Char) :=
  (afterMark mark.toList mark.toList text).map fun after =>
    (text.take (text.length - after.length - mark.length), after)

/-- Space, tab, line feed or carriage return. -/
def isGap (c : Char) : Bool :=
  c = ' ' || c = '\t' || c = '\n' || c = '\r'

def lines : List Char → List (List Char)
  | [] => []
  | c :: rest =>
    if c = '\n' then [] :: lines rest
    else match lines rest with
      | [] => [[c]]
      | line :: others => (c :: line) :: others

/-- A content and what it is called. -/
structure Block where
  tag : String
  content : Bytes
  deriving DecidableEq, Repr

/-- The headers of a block and what follows them: they end at the first empty line. -/
def cutHeaders (body : List Char) : List Char × List Char :=
  ((cutAt "\n\n" body).or (cutAt "\r\n\r\n" body)).getD ([], body)

/-- The first block of a text. -/
def parse? (text : String) : Option Block := do
  let (_, afterMark) ← cutAt "-----BEGIN " text.toList
  let (tag, afterTag) ← cutAt "-----" afterMark
  let (body, afterBody) ← cutAt "-----END " (afterTag.dropWhile isGap)
  let (endTag, _) ← cutAt "-----" afterBody
  let (headers, data) := cutHeaders body
  if tag.isEmpty ∨ tag ≠ endTag ∨ !(lines headers).all (·.contains ':') then none
  else
    (Base64.decode? (data.filter fun c => !Text.isBlank c)).map fun content =>
      ⟨String.ofList tag, content⟩

end ControlPlane.Pem
