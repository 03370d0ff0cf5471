import ControlPlane.Proofs.Bytes
import ControlPlane.Text.Table
import ControlPlane.Url.Form

/-!
# Pairs are read back from a form

An encoded octet has none of the marks that a form is cut at, and reading undoes it. So what is
added to a text of pairs is read after the pairs that stood there, whatever text that is.
-/

namespace ControlPlane.Url.Form

/-! ### Octets -/

/-- What an encoded octet is in octets. -/
def encodedOctets (octet : UInt8) : Bytes :=
  (encodeOctet octet).flatMap String.utf8EncodeChar

/-- A plus sign stands for a space. -/
def unplus (octet : UInt8) : UInt8 :=
  if octet = 0x2B then 0x20 else octet

/-- What reads as one octet: the octet itself, or a percent sign and two digits. -/
inductive ReadsAs (octet : UInt8) : Bytes → Prop where
  | itself (hmark : octet ≠ 0x25) : ReadsAs octet [octet]
  | digits (high low : UInt8) (hhigh : hexValue? high = some (octet.toNat / 16))
      (hlow : hexValue? low = some (octet.toNat % 16)) : ReadsAs octet [0x25, high, low]

instance (octet : UInt8) : DecidablePred (ReadsAs octet)
  | [one] =>
    decidable_of_iff (one = octet ∧ octet ≠ 0x25)
      ⟨by rintro ⟨rfl, hmark⟩; exact .itself hmark, fun | .itself hmark => ⟨rfl, hmark⟩⟩
  | [mark, high, low] =>
    decidable_of_iff (mark = 0x25 ∧ hexValue? high = some (octet.toNat / 16) ∧
        hexValue? low = some (octet.toNat % 16))
      ⟨fun ⟨hmark, hhigh, hlow⟩ => hmark ▸ .digits high low hhigh hlow,
        fun | .digits _ _ hhigh hlow => ⟨rfl, hhigh, hlow⟩⟩
  | [] => .isFalse nofun
  | [_, _] => .isFalse nofun
  | _ :: _ :: _ :: _ :: _ => .isFalse nofun

/-- No octet is encoded to anything with a mark between pairs or within one. -/
theorem encodedOctets_spec (octet : UInt8) :
    ReadsAs octet ((encodedOctets octet).map unplus) ∧
      0x26 ∉ encodedOctets octet ∧ 0x3D ∉ encodedOctets octet := by
  have hall : ∀ n < 256, ReadsAs (UInt8.ofNat n) ((encodedOctets (UInt8.ofNat n)).map unplus) ∧
      0x26 ∉ encodedOctets (UInt8.ofNat n) ∧ 0x3D ∉ encodedOctets (UInt8.ofNat n) := by
    decide +kernel
  have hoctet := hall octet.toNat octet.toNat_lt
  rwa [UInt8.ofNat_toNat] at hoctet

theorem percentDecode_of_readsAs {octet : UInt8} {octets : Bytes} (h : ReadsAs octet octets)
    (rest : Bytes) : percentDecode (octets ++ rest) = octet :: percentDecode rest := by
  cases h with
  | itself hmark =>
      exact percentDecode.eq_2 octet rest fun _ _ _ heq => absurd heq hmark
  | digits high low hhigh hlow =>
      have hoctet : octet.toNat / 16 * 16 + octet.toNat % 16 = octet.toNat := by omega
      change percentDecode (0x25 :: high :: low :: rest) = _
      rw [percentDecode.eq_1, hhigh, hlow]
      simp only [hoctet, UInt8.ofNat_toNat]

/-! ### Texts -/

theorem ofString_encodeText (text : String) :
    Bytes.ofString (String.ofList (encodeText text)) =
      (Bytes.ofString text).flatMap encodedOctets := by
  rw [Bytes.ofString_ofList, encodeText, List.flatMap_assoc]
  rfl

theorem decodeText_encodeText (text : String) :
    decodeText ((Bytes.ofString text).flatMap encodedOctets) = text := by
  have hoctets (octets : Bytes) :
      percentDecode ((octets.flatMap encodedOctets).map unplus) = octets := by
    induction octets with
    | nil => simp [percentDecode]
    | cons octet octets ih =>
        rw [List.flatMap_cons, List.map_append,
          percentDecode_of_readsAs (encodedOctets_spec octet).1, ih]
  have hunplus : decodeText ((Bytes.ofString text).flatMap encodedOctets) =
      Bytes.lossy (percentDecode (((Bytes.ofString text).flatMap encodedOctets).map unplus)) := rfl
  rw [hunplus, hoctets, Bytes.lossy_ofString]

/-! ### Pairs -/

/-- A pair in octets. -/
def pairOctets (pair : String × String) : Bytes :=
  (Bytes.ofString pair.1).flatMap encodedOctets ++
    0x3D :: (Bytes.ofString pair.2).flatMap encodedOctets

theorem ofString_append (front tail : List Char) : Bytes.ofString (String.ofList (front ++ tail)) =
    Bytes.ofString (String.ofList front) ++ Bytes.ofString (String.ofList tail) := by
  simp only [Bytes.ofString_ofList, List.flatMap_append]

theorem ofString_encodePair (pair : String × String) :
    Bytes.ofString (String.ofList (encodePair pair)) = pairOctets pair := by
  have hmark (tail : List Char) :
      Bytes.ofString (String.ofList ('=' :: tail)) = 0x3D :: Bytes.ofString (String.ofList tail) :=
    ofString_append ['='] tail
  rw [encodePair, ofString_append, hmark, ofString_encodeText, ofString_encodeText, pairOctets]

theorem decodePair_mark {name : Bytes} (h : 0x3D ∉ name) (text : Bytes) :
    decodePair (name ++ 0x3D :: text) = (decodeText name, decodeText text) := by
  have hall : ∀ octet ∈ name, (octet ≠ 0x3D : Bool) := by
    intro octet hoctet
    exact decide_eq_true fun hmark => h (hmark ▸ hoctet)
  rw [decodePair, List.takeWhile_append_of_pos hall, List.dropWhile_append_of_pos hall]
  simp

theorem not_mem_flatMap {mark : UInt8} (hmark : ∀ octet, mark ∉ encodedOctets octet)
    (octets : Bytes) : mark ∉ octets.flatMap encodedOctets := by
  intro hmem
  obtain ⟨octet, _, hoctet⟩ := List.mem_flatMap.mp hmem
  exact hmark octet hoctet

theorem decodePair_pairOctets (pair : String × String) : decodePair (pairOctets pair) = pair := by
  have hname := not_mem_flatMap (fun octet => (encodedOctets_spec octet).2.2)
    (Bytes.ofString pair.1)
  rw [pairOctets, decodePair_mark hname, decodeText_encodeText, decodeText_encodeText]

theorem not_mem_pairOctets (pair : String × String) : 0x26 ∉ pairOctets pair := by
  have hpart := not_mem_flatMap fun octet => (encodedOctets_spec octet).2.1
  rw [pairOctets, List.mem_append, List.mem_cons]
  rintro (hname | hmark | htext)
  · exact hpart _ hname
  · exact absurd hmark (by decide)
  · exact hpart _ htext

/-! ### Parts -/

theorem split_eq_splitOn (separator : UInt8) (octets : Bytes) :
    split separator octets = Text.splitOn separator octets := by
  induction octets with
  | nil => rfl
  | cons octet rest ih =>
      rw [split, Text.splitOn, ih]
      cases Text.splitOn separator rest <;> rfl

theorem split_of_not_mem {separator : UInt8} {part : Bytes} (h : separator ∉ part) :
    split separator part = [part] := by
  induction part with
  | nil => rfl
  | cons octet part ih =>
      rw [List.mem_cons, not_or] at h
      rw [split, if_neg (Ne.symm h.1), ih h.2]

theorem split_append (separator : UInt8) (front tail : Bytes) :
    split separator (front ++ separator :: tail) =
      split separator front ++ split separator tail := by
  simp only [split_eq_splitOn, Text.splitOn_append]

theorem decode_append (text more : List Char) :
    decode (String.ofList (text ++ '&' :: more)) =
      decode (String.ofList text) ++ decode (String.ofList more) := by
  have hmark :
      Bytes.ofString (String.ofList ('&' :: more)) = 0x26 :: Bytes.ofString (String.ofList more) :=
    ofString_append ['&'] more
  simp only [decode, ofString_append, hmark, split_append, List.filter_append, List.map_append]

theorem decode_encodePair (pair : String × String) :
    decode (String.ofList (encodePair pair)) = [pair] := by
  have hfull : (pairOctets pair).isEmpty = false := by
    rw [pairOctets, List.isEmpty_eq_false_iff]
    exact List.append_ne_nil_of_right_ne_nil _ (List.cons_ne_nil _ _)
  rw [decode, ofString_encodePair, split_of_not_mem (not_mem_pairOctets pair)]
  simp only [List.filter_cons, hfull, Bool.not_false, if_true, List.filter_nil, List.map_cons,
    List.map_nil, decodePair_pairOctets]

/-- What is added to a text is read after what it held. -/
theorem decode_extend (text : List Char) (pairs : List (String × String)) :
    decode (String.ofList (extend text pairs)) = decode (String.ofList text) ++ pairs := by
  induction pairs generalizing text with
  | nil => simp [extend]
  | cons pair pairs ih =>
      have hstep : decode (String.ofList
          ((if text.isEmpty then [] else text ++ ['&']) ++ encodePair pair)) =
            decode (String.ofList text) ++ [pair] := by
        cases text with
        | nil => exact decode_encodePair pair
        | cons c text =>
            rw [← decode_encodePair pair, ← decode_append]
            simp
      calc decode (String.ofList (extend text (pair :: pairs)))
        _ = decode (String.ofList
              ((if text.isEmpty then [] else text ++ ['&']) ++ encodePair pair)) ++ pairs := ih _
        _ = decode (String.ofList text) ++ pair :: pairs := by rw [hstep, List.append_assoc]; rfl

end ControlPlane.Url.Form
