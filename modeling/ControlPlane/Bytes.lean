/-!
# Octets and UTF-8

Bodies, key files and command output are lists of octets. `Bytes.decode?` reads them strictly as
UTF-8; `Bytes.lossy` reads them always, and writes U+FFFD for each maximal part that no character
continues.
-/

namespace ControlPlane

/-- A string of octets. -/
abbrev Bytes := List UInt8

namespace Bytes

/-- The UTF-8 form of a text. -/
def ofString (text : String) : Bytes :=
  text.toByteArray.data.toList

/-- The text whose UTF-8 form this is, if there is one. -/
def decode? (octets : Bytes) : Option String :=
  String.fromUTF8? ⟨octets.toArray⟩

theorem decode?_ofString (text : String) : decode? (ofString text) = some text := by
  have hbytes : (⟨(ofString text).toArray⟩ : ByteArray) = text.toByteArray := by
    simp [ofString]
  unfold decode?
  rw [hbytes]
  simp [String.fromUTF8?, text.isValidUTF8, String.fromUTF8]

/-- What a lead octet asks for: how many octets follow it, the range of the first of them, and the
bits that the lead octet itself gives. -/
def lead? (octet : UInt8) : Option (Nat × UInt8 × UInt8 × Nat) :=
  if 0xC2 ≤ octet ∧ octet ≤ 0xDF then some (1, 0x80, 0xBF, octet.toNat - 0xC0)
  else if octet = 0xE0 then some (2, 0xA0, 0xBF, 0)
  else if octet = 0xED then some (2, 0x80, 0x9F, 13)
  else if 0xE1 ≤ octet ∧ octet ≤ 0xEF then some (2, 0x80, 0xBF, octet.toNat - 0xE0)
  else if octet = 0xF0 then some (3, 0x90, 0xBF, 0)
  else if 0xF1 ≤ octet ∧ octet ≤ 0xF3 then some (3, 0x80, 0xBF, octet.toNat - 0xF0)
  else if octet = 0xF4 then some (3, 0x80, 0x8F, 4)
  else none

/-- Reads the octets that follow a lead octet: the code point, if all of them are there, and how
many were read. -/
def trail (wanted : Nat) (low high : UInt8) (bits : Nat) (octets : Bytes) : Option Nat × Nat :=
  match wanted, octets with
  | 0, _ => (some bits, 0)
  | _ + 1, [] => (none, 0)
  | wanted + 1, octet :: rest =>
    if low ≤ octet ∧ octet ≤ high then
      let (code, read) := trail wanted 0x80 0xBF (bits * 64 + (octet.toNat - 0x80)) rest
      (code, read + 1)
    else (none, 0)

/-- The characters of a text that may be broken: each maximal part that starts a character but
does not finish it, and each octet that starts none, reads as U+FFFD. -/
def lossyChars : Bytes → List Char
  | [] => []
  | octet :: rest =>
    if octet < 0x80 then Char.ofNat octet.toNat :: lossyChars rest
    else match lead? octet with
      | none => '\uFFFD' :: lossyChars rest
      | some (wanted, low, high, bits) =>
        let (code, read) := trail wanted low high bits rest
        (code.map Char.ofNat).getD '\uFFFD' :: lossyChars (rest.drop read)
termination_by octets => octets.length
decreasing_by all_goals simp_wf; try omega

def lossy (octets : Bytes) : String :=
  String.ofList (lossyChars octets)

/-- Space, tab, line feed, form feed or carriage return. -/
def isSpace (octet : UInt8) : Bool :=
  octet = 0x20 || octet = 0x09 || octet = 0x0A || octet = 0x0C || octet = 0x0D

end Bytes

end ControlPlane
