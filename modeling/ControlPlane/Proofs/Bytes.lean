import ControlPlane.Bytes

/-!
# UTF-8 is read back, and keeps the order of texts

A character of `n` octets is a lead octet, which says how many octets follow and where the first of
them may lie, and `n - 1` octets with six bits each. So the lenient reader finds every character of
a text that is not broken. Lead octets grow with the number of octets and with the bits they give,
so texts compare like their octets.
-/

namespace ControlPlane.Bytes

theorem ofString_ofList (chars : List Char) :
    ofString (String.ofList chars) = chars.flatMap String.utf8EncodeChar := by
  rw [ofString, String.toByteArray_ofList, List.utf8Encode, List.data_toByteArray,
    List.toList_toArray]

theorem ofString_eq_flatMap (text : String) :
    ofString text = text.toList.flatMap String.utf8EncodeChar := by
  rw [← ofString_ofList, String.ofList_toList]

theorem eq_ofString_of_decode? {octets : Bytes} {text : String} (h : decode? octets = some text) :
    octets = ofString text := by
  unfold decode? String.fromUTF8? at h
  split at h
  · obtain rfl := Option.some.inj h
    rfl
  · cases h

/-- In UTF-8 an octet below 128 is a character of its own. -/
theorem toNat_of_mem_encodeChar {c : Char} {octet : UInt8} (h : octet ∈ String.utf8EncodeChar c)
    (hascii : octet.toNat < 128) : octet.toNat = c.toNat := by
  have hval : c.val.toNat = c.toNat := rfl
  have hbound : c.toNat < 0x110000 := by
    rcases c.valid with hlow | ⟨-, hhigh⟩ <;> rw [← hval] <;> omega
  -- Beyond one octet every octet has its highest bit set.
  have hhigh {code : Nat} (hcode : 128 ≤ code ∧ code < 256) (heq : octet = UInt8.ofNat code) :
      False := by
    rw [heq, UInt8.toNat_ofNat', Nat.mod_eq_of_lt hcode.2] at hascii
    omega
  unfold String.utf8EncodeChar at h
  simp only [hval] at h
  generalize c.toNat = code at *
  split at h
  · rw [List.mem_singleton.mp h, UInt8.toNat_ofNat', Nat.mod_eq_of_lt (by omega)]
  split at h
  · simp only [List.mem_cons, List.not_mem_nil, or_false] at h
    rcases h with h | h
    all_goals exact (hhigh (by omega) h).elim
  split at h
  · simp only [List.mem_cons, List.not_mem_nil, or_false] at h
    rcases h with h | h | h
    all_goals exact (hhigh (by omega) h).elim
  · simp only [List.mem_cons, List.not_mem_nil, or_false] at h
    rcases h with h | h | h | h
    all_goals exact (hhigh (by omega) h).elim

/-! ### Reading one character -/

theorem lead?_two {bits : Nat} (hlow : 2 ≤ bits) (hhigh : bits < 32) :
    lead? (UInt8.ofNat (bits + 192)) = some (1, 0x80, 0xBF, bits) := by
  have hall : ∀ bits < 30,
      lead? (UInt8.ofNat (bits + 2 + 192)) = some (1, 0x80, 0xBF, bits + 2) := by decide
  obtain ⟨rest, rfl⟩ := Nat.exists_eq_add_of_le' hlow
  exact hall rest (by omega)

theorem lead?_three {bits : Nat} (hbits : bits < 16) :
    lead? (UInt8.ofNat (bits + 224)) =
      some (2, if bits = 0 then 0xA0 else 0x80, if bits = 13 then 0x9F else 0xBF, bits) := by
  have hall : ∀ bits < 16, lead? (UInt8.ofNat (bits + 224)) =
      some (2, if bits = 0 then 0xA0 else 0x80, if bits = 13 then 0x9F else 0xBF, bits) := by decide
  exact hall bits hbits

theorem lead?_four {bits : Nat} (hbits : bits < 5) :
    lead? (UInt8.ofNat (bits + 240)) =
      some (3, if bits = 0 then 0x90 else 0x80, if bits = 4 then 0x8F else 0xBF, bits) := by
  have hall : ∀ bits < 5, lead? (UInt8.ofNat (bits + 240)) =
      some (3, if bits = 0 then 0x90 else 0x80, if bits = 4 then 0x8F else 0xBF, bits) := by decide
  exact hall bits hbits

theorem trail_succ (low high : UInt8) {six : Nat} (hsix : six < 64)
    (hlow : low.toNat ≤ six + 128) (hhigh : six + 128 ≤ high.toNat) (wanted bits : Nat)
    (rest : Bytes) :
    trail (wanted + 1) low high bits (UInt8.ofNat (six + 128) :: rest) =
      ((trail wanted 0x80 0xBF (bits * 64 + six) rest).1,
        (trail wanted 0x80 0xBF (bits * 64 + six) rest).2 + 1) := by
  have hoctet : (UInt8.ofNat (six + 128)).toNat = six + 128 := by
    rw [UInt8.toNat_ofNat', Nat.mod_eq_of_lt (by omega)]
  have hrange : low ≤ UInt8.ofNat (six + 128) ∧ UInt8.ofNat (six + 128) ≤ high := by
    rw [UInt8.le_iff_toNat_le, UInt8.le_iff_toNat_le, hoctet]
    exact ⟨hlow, hhigh⟩
  rw [trail, if_pos hrange, hoctet, Nat.add_sub_cancel]

theorem lossyChars_lead {octet : Nat} (hlow : 128 ≤ octet) (hhigh : octet < 256)
    {wanted bits code read : Nat} {low high : UInt8} {rest : Bytes}
    (hlead : lead? (UInt8.ofNat octet) = some (wanted, low, high, bits))
    (htrail : trail wanted low high bits rest = (some code, read)) :
    lossyChars (UInt8.ofNat octet :: rest) = Char.ofNat code :: lossyChars (rest.drop read) := by
  have hlarge : ¬ UInt8.ofNat octet < 0x80 := by
    rw [UInt8.lt_iff_toNat_lt, UInt8.toNat_ofNat', Nat.mod_eq_of_lt hhigh]
    exact Nat.not_lt.mpr hlow
  rw [lossyChars, if_neg hlarge, hlead]
  simp [htrail]

/-- The lenient reader takes the octets of one character for that character. -/
theorem lossyChars_encodeChar (c : Char) (rest : Bytes) :
    lossyChars (String.utf8EncodeChar c ++ rest) = c :: lossyChars rest := by
  have hvalid : c.toNat < 0xD800 ∨ 0xDFFF < c.toNat ∧ c.toNat < 0x110000 := c.valid
  have hchar := Char.ofNat_toNat c
  have hval : c.val.toNat = c.toNat := rfl
  generalize c.toNat = code at hvalid hchar hval
  -- The second octet of three or four lies where the lead octet says: a shorter form, a surrogate
  -- or a code point beyond the last would lie elsewhere.
  unfold String.utf8EncodeChar
  simp only [hval]
  split
  · next hone =>
      have hoctet : (UInt8.ofNat code).toNat = code := by
        rw [UInt8.toNat_ofNat', Nat.mod_eq_of_lt (by omega)]
      have hsmall : UInt8.ofNat code < 0x80 := by
        rw [UInt8.lt_iff_toNat_lt, hoctet]
        exact Nat.lt_succ_of_le hone
      rw [List.cons_append, List.nil_append, lossyChars, if_pos hsmall, hoctet, hchar]
  split
  · next hone htwo =>
      have htrail := trail_succ 0x80 0xBF (show code % 64 < 64 by omega)
        (by simp) (by simp; omega) 0 (code / 64 % 32) rest
      have hcode : code / 64 % 32 * 64 + code % 64 = code := by omega
      rw [trail, hcode] at htrail
      have hread := lossyChars_lead (by omega) (by omega) (lead?_two (by omega) (by omega)) htrail
      rw [hchar] at hread
      exact hread
  split
  · next hone htwo hthree =>
      have hthird := trail_succ 0x80 0xBF (show code % 64 < 64 by omega)
        (by simp) (by simp; omega) 0 (code / 4096 % 16 * 64 + code / 64 % 64) rest
      have hsecond := trail_succ (if code / 4096 % 16 = 0 then 0xA0 else 0x80)
        (if code / 4096 % 16 = 13 then 0x9F else 0xBF) (show code / 64 % 64 < 64 by omega)
        (by split <;> simp; omega) (by split <;> simp <;> omega) 1 (code / 4096 % 16)
        (UInt8.ofNat (code % 64 + 128) :: rest)
      have hcode : (code / 4096 % 16 * 64 + code / 64 % 64) * 64 + code % 64 = code := by omega
      rw [hthird, trail, hcode] at hsecond
      have hread := lossyChars_lead (by omega) (by omega) (lead?_three (by omega)) hsecond
      rw [hchar] at hread
      exact hread
  · next hone htwo hthree =>
      have hfourth := trail_succ 0x80 0xBF (show code % 64 < 64 by omega)
        (by simp) (by simp; omega) 0
        ((code / 262144 % 8 * 64 + code / 4096 % 64) * 64 + code / 64 % 64) rest
      have hthird := trail_succ 0x80 0xBF (show code / 64 % 64 < 64 by omega)
        (by simp) (by simp; omega) 1 (code / 262144 % 8 * 64 + code / 4096 % 64)
        (UInt8.ofNat (code % 64 + 128) :: rest)
      have hsecond := trail_succ (if code / 262144 % 8 = 0 then 0x90 else 0x80)
        (if code / 262144 % 8 = 4 then 0x8F else 0xBF) (show code / 4096 % 64 < 64 by omega)
        (by split <;> simp; omega) (by split <;> simp <;> omega) 2 (code / 262144 % 8)
        (UInt8.ofNat (code / 64 % 64 + 128) :: UInt8.ofNat (code % 64 + 128) :: rest)
      have hcode : ((code / 262144 % 8 * 64 + code / 4096 % 64) * 64 + code / 64 % 64) * 64 +
          code % 64 = code := by omega
      rw [hthird, hfourth, trail, hcode] at hsecond
      have hread := lossyChars_lead (by omega) (by omega) (lead?_four (by omega)) hsecond
      rw [hchar] at hread
      exact hread

/-- **A text is read back from its octets.** -/
theorem lossy_ofString (text : String) : lossy (ofString text) = text := by
  have hchars (chars : List Char) :
      lossyChars (chars.flatMap String.utf8EncodeChar) = chars := by
    induction chars with
    | nil => simp [lossyChars]
    | cons c chars ih => rw [List.flatMap_cons, lossyChars_encodeChar, ih]
  rw [lossy, ofString_eq_flatMap, hchars, String.ofList_toList]

/-! ### The order of texts -/

theorem cons_lt_cons {first second : Nat} (hsecond : second < 256) {front tail : Bytes}
    (h : first < second ∨ first = second ∧ front < tail) :
    UInt8.ofNat first :: front < UInt8.ofNat second :: tail := by
  rw [List.cons_lt_cons_iff]
  rcases h with hlt | ⟨rfl, hrest⟩
  · left
    rw [UInt8.lt_iff_toNat_lt, UInt8.toNat_ofNat', UInt8.toNat_ofNat',
      Nat.mod_eq_of_lt (by omega), Nat.mod_eq_of_lt hsecond]
    exact hlt
  · exact .inr ⟨rfl, hrest⟩

/-- Of two characters the lesser one has the lesser octets, whatever follows. -/
theorem encodeChar_lt {c d : Char} (h : c < d) (front tail : Bytes) :
    String.utf8EncodeChar c ++ front < String.utf8EncodeChar d ++ tail := by
  have hlt : c.val.toNat < d.val.toNat := h
  have hbound : d.val.toNat < 0xD800 ∨ 0xDFFF < d.val.toNat ∧ d.val.toNat < 0x110000 := d.valid
  simp only [String.utf8EncodeChar]
  generalize c.val.toNat = low at *
  generalize d.val.toNat = high at *
  -- A character of fewer octets has the lesser lead octet. Of two with as many octets, the bits of
  -- an octet decide where those of the octets before it are the same.
  split
  · split
    · exact cons_lt_cons (by omega) (.inl hlt)
    split
    · exact cons_lt_cons (by omega) (.inl (by omega))
    split
    · exact cons_lt_cons (by omega) (.inl (by omega))
    · exact cons_lt_cons (by omega) (.inl (by omega))
  rw [if_neg (show ¬ high ≤ 127 by omega)]
  split
  · split
    · simp only [List.cons_append, List.nil_append]
      refine cons_lt_cons (by omega) ?_
      by_cases hlead : low / 64 < high / 64
      · exact .inl (by omega)
      · exact .inr ⟨by omega, cons_lt_cons (by omega) (.inl (by omega))⟩
    split
    · exact cons_lt_cons (by omega) (.inl (by omega))
    · exact cons_lt_cons (by omega) (.inl (by omega))
  rw [if_neg (show ¬ high ≤ 2047 by omega)]
  split
  · split
    · simp only [List.cons_append, List.nil_append]
      refine cons_lt_cons (by omega) ?_
      by_cases hlead : low / 4096 < high / 4096
      · exact .inl (by omega)
      refine .inr ⟨by omega, cons_lt_cons (by omega) ?_⟩
      by_cases hsecond : low / 64 < high / 64
      · exact .inl (by omega)
      · exact .inr ⟨by omega, cons_lt_cons (by omega) (.inl (by omega))⟩
    · exact cons_lt_cons (by omega) (.inl (by omega))
  · rw [if_neg (show ¬ high ≤ 65535 by omega)]
    simp only [List.cons_append, List.nil_append]
    refine cons_lt_cons (by omega) ?_
    by_cases hlead : low / 262144 < high / 262144
    · exact .inl (by omega)
    refine .inr ⟨by omega, cons_lt_cons (by omega) ?_⟩
    by_cases hsecond : low / 4096 < high / 4096
    · exact .inl (by omega)
    refine .inr ⟨by omega, cons_lt_cons (by omega) ?_⟩
    by_cases hthird : low / 64 < high / 64
    · exact .inl (by omega)
    · exact .inr ⟨by omega, cons_lt_cons (by omega) (.inl (by omega))⟩

theorem flatMap_encodeChar_lt {first second : List Char} (h : first < second) :
    first.flatMap String.utf8EncodeChar < second.flatMap String.utf8EncodeChar := by
  induction first generalizing second with
  | nil =>
      cases second with
      | nil => cases h
      | cons d second =>
          have hne : String.utf8EncodeChar d ≠ [] := by
            rw [← List.length_pos_iff, String.length_utf8EncodeChar]
            exact Char.utf8Size_pos d
          rw [List.flatMap_nil, List.flatMap_cons]
          obtain ⟨octet, octets, heq⟩ := List.exists_cons_of_ne_nil hne
          rw [heq]
          exact List.nil_lt_cons _ _
  | cons c first ih =>
      cases second with
      | nil => exact absurd h (List.not_lt_nil _)
      | cons d second =>
          rw [List.flatMap_cons, List.flatMap_cons]
          rcases List.cons_lt_cons_iff.mp h with hlt | ⟨rfl, hrest⟩
          · exact encodeChar_lt hlt _ _
          · exact List.append_left_lt (ih hrest)

/-- **Texts compare like their octets.** -/
theorem ofString_lt {first second : String} (h : first < second) :
    ofString first < ofString second := by
  rw [ofString_eq_flatMap, ofString_eq_flatMap]
  exact flatMap_encodeChar_lt (String.lt_iff.mp h)

end ControlPlane.Bytes
