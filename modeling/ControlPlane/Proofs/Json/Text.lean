import ControlPlane.Proofs.Json.Numeral

/-!
# Strings are read as they are written

A character of a text is written as itself, as a letter after a backslash, or, for most control
characters, as its code. In each case the reader finds the octets of the character or its code unit,
and from these the text comes back.
-/

namespace ControlPlane.Json

open Bytes

/-- What is read where a character is written: its octets, or its code unit. -/
def piecesOfChar (c : Char) : List Piece :=
  if c.toNat < 0x20 ∧ c ∉ ['\x08', '\x0c', '\n', '\r', '\t'] then [.unit c.toNat]
  else (String.utf8EncodeChar c).map .octet

def piecesOf (text : String) : List Piece :=
  text.toList.flatMap piecesOfChar

/-- An octet that stands for itself in a string. -/
def Plain (octet : UInt8) : Prop :=
  0x20 ≤ octet.toNat ∧ octet ≠ 0x22 ∧ octet ≠ 0x5C

/-! ### Writing and reading one character -/

theorem takeString_plain {octet : UInt8} (h : Plain octet) (rest : Bytes) :
    takeString (octet :: rest) =
      (takeString rest).map fun (pieces, after) => (.octet octet :: pieces, after) := by
  obtain ⟨hlow, hquote, hslash⟩ := h
  have hstay : ¬ (octet < 0x20 ∨ octet = 0x5C) := by
    rw [not_or, UInt8.lt_iff_toNat_lt]
    exact ⟨Nat.not_lt.mpr hlow, hslash⟩
  rw [takeString.eq_def]
  split
  · next heq => cases heq
  · next heq => exact absurd (List.cons.inj heq).1 hquote
  · next heq => exact absurd (List.cons.inj heq).1 hslash
  · next heq => exact absurd (List.cons.inj heq).1 hslash
  · next heq =>
      obtain ⟨rfl, rfl⟩ := List.cons.inj heq
      rw [if_neg hstay]

theorem takeString_octets {octets : Bytes} (h : ∀ octet ∈ octets, Plain octet) (rest : Bytes) :
    takeString (octets ++ rest) =
      (takeString rest).map fun (pieces, after) => (octets.map .octet ++ pieces, after) := by
  induction octets with
  | nil => simp
  | cons octet octets ih =>
      obtain ⟨hoctet, hoctets⟩ := List.forall_mem_cons.mp h
      rw [List.cons_append, takeString_plain hoctet, ih hoctets, Option.map_map]
      rfl

theorem plain_encodeChar {c : Char} (hlow : 0x20 ≤ c.toNat) (hquote : c ≠ '"') (hslash : c ≠ '\\') :
    ∀ octet ∈ String.utf8EncodeChar c, Plain octet := by
  intro octet hoctet
  by_cases hascii : octet.toNat < 128
  · have hcode := toNat_of_mem_encodeChar hoctet hascii
    refine ⟨hcode ▸ hlow, ?_, ?_⟩
    · rintro rfl
      exact hquote (Char.toNat_inj.mp hcode.symm)
    · rintro rfl
      exact hslash (Char.toNat_inj.mp hcode.symm)
  · refine ⟨by omega, ?_, ?_⟩
    all_goals
      rintro rfl
      exact hascii (by decide)

theorem codeUnit?_digitChar {code : Nat} (h : code < 0x20) :
    codeUnit? 0x30 0x30 (UInt8.ofNat (Nat.digitChar (code / 16)).toNat)
      (UInt8.ofNat (Nat.digitChar (code % 16)).toNat) = some code := by
  have hall : ∀ code < 0x20, codeUnit? 0x30 0x30 (UInt8.ofNat (Nat.digitChar (code / 16)).toNat)
      (UInt8.ofNat (Nat.digitChar (code % 16)).toNat) = some code := by decide
  exact hall code h

theorem takeString_unit {code : Nat} (h : code < 0x20) (rest : Bytes) :
    takeString (ofChars ('\\' :: 'u' :: '0' :: '0' :: Nat.digitChar (code / 16) ::
        [Nat.digitChar (code % 16)]) ++ rest) =
      (takeString rest).map fun (pieces, after) => (.unit code :: pieces, after) := by
  have hascii : ∀ value < 16, (Nat.digitChar value).toNat < 128 := by decide
  have hhex (value : Nat) (hvalue : value < 16) (chars : List Char) :
      ofChars (Nat.digitChar value :: chars) =
        UInt8.ofNat (Nat.digitChar value).toNat :: ofChars chars := by
    rw [ofChars_cons, encodeChar_of_ascii (hascii value hvalue)]
    rfl
  change takeString (0x5C :: 0x75 :: 0x30 :: 0x30 ::
    (ofChars (Nat.digitChar (code / 16) :: [Nat.digitChar (code % 16)]) ++ rest)) = _
  rw [hhex _ (by omega), hhex _ (by omega)]
  simp only [ofChars_nil, List.cons_append, List.nil_append, takeString, codeUnit?_digitChar h]

theorem takeString_stringChar (c : Char) (rest : Bytes) :
    takeString (ofChars (stringChar c) ++ rest) =
      (takeString rest).map fun (pieces, after) => (piecesOfChar c ++ pieces, after) := by
  unfold stringChar
  split
  next h => subst h; rfl
  next hquote =>
  split
  next h => subst h; rfl
  next hslash =>
  split
  next h => subst h; rfl
  next hbackspace =>
  split
  next h => subst h; rfl
  next hformFeed =>
  split
  next h => subst h; rfl
  next hlineFeed =>
  split
  next h => subst h; rfl
  next hreturn =>
  split
  next h => subst h; rfl
  next htab =>
  split
  next hcontrol =>
    have hpieces : piecesOfChar c = [.unit c.toNat] :=
      if_pos ⟨hcontrol, by simp [*]⟩
    rw [takeString_unit hcontrol, hpieces]
    rfl
  next hcontrol =>
    have hpieces : piecesOfChar c = (String.utf8EncodeChar c).map .octet :=
      if_neg fun h => hcontrol h.1
    have hplain := plain_encodeChar (Nat.not_lt.mp hcontrol) hquote hslash
    rw [ofChars_cons, ofChars_nil, List.append_nil, takeString_octets hplain, hpieces]

/-! ### Writing and reading a text -/

/-- **A string is read where it is written.** -/
theorem takeToken_string (text : String) (rest : Bytes) :
    takeToken (ofChars (stringChars text) ++ rest) = some (.string (piecesOf text), rest) := by
  have hchars (chars : List Char) :
      takeString (ofChars (chars.flatMap stringChar ++ ['"']) ++ rest) =
        some (chars.flatMap piecesOfChar, rest) := by
    induction chars with
    | nil => rfl
    | cons c chars ih =>
        rw [List.flatMap_cons, List.append_assoc, ofChars_append, List.append_assoc,
          takeString_stringChar, ih]
        rfl
  change (takeString (ofChars (text.toList.flatMap stringChar ++ ['"']) ++ rest)).map _ = _
  rw [hchars]
  rfl

theorem octets?_map_octet (octets : Bytes) (pieces : List Piece) :
    octets? (octets.map .octet ++ pieces) = (octets? pieces).map (octets ++ ·) := by
  induction octets with
  | nil => simp
  | cons octet octets ih =>
      rw [List.map_cons, List.cons_append, octets?, ih, Option.map_map]
      rfl

theorem octets?_unit {code : Nat} (h : code < 0xD800) (pieces : List Piece) :
    octets? (.unit code :: pieces) = (octets? pieces).map (utf8 code ++ ·) := by
  rw [octets?.eq_def]
  split
  · next heq => cases heq
  · next heq => cases heq
  · next heq =>
      cases heq
      rw [if_neg (by omega), if_neg (by omega)]
  · next heq =>
      cases heq
      rw [if_neg (by omega)]

theorem octets?_piecesOfChar (c : Char) (pieces : List Piece) :
    octets? (piecesOfChar c ++ pieces) = (octets? pieces).map (String.utf8EncodeChar c ++ ·) := by
  unfold piecesOfChar
  split
  next hcontrol =>
    rw [List.cons_append, List.nil_append, octets?_unit (by omega), utf8, Char.ofNat_toNat]
  next => exact octets?_map_octet _ _

/-- **A text is read back from its string.** -/
theorem text?_piecesOf (text : String) : text? (piecesOf text) = some text := by
  have hchars (chars : List Char) :
      octets? (chars.flatMap piecesOfChar) = some (chars.flatMap String.utf8EncodeChar) := by
    induction chars with
    | nil => rfl
    | cons c chars ih => rw [List.flatMap_cons, octets?_piecesOfChar, ih]; rfl
  rw [text?, piecesOf, hchars, ← Bytes.ofString_eq_flatMap]
  exact Bytes.decode?_ofString text

end ControlPlane.Json
