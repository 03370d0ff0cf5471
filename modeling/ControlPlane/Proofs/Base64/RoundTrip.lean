import ControlPlane.Base64

/-!
# Base 64 is read back

Each symbol stands for its six bits and none of them is the padding, so the reader sees where the
last group ends. Three octets share their bits among four symbols, and a shorter last group fills up
with zeros, which the reader asks for.
-/

namespace ControlPlane.Base64

theorem bits?_symbol {bits : Nat} (h : bits < 64) :
    bits? standard (symbol standard bits) = some bits :=
  (by decide : ∀ bits < 64, bits? standard (symbol standard bits) = some bits) bits h

/-! ### The bits of an octet

The upper bits of an octet are the lower ones of a symbol, whose upper bits are of the octet before;
its lower bits are the upper ones of the next symbol, whose lower bits are of the octet after. -/

theorem octet_eq {a : UInt8} {n : Nat} (h : n = a.toNat) : octet n = a := by
  rw [h]
  exact UInt8.ofNat_toNat

theorem octet_first (a : UInt8) {after : Nat} (h : after < 16) :
    octet (a.toNat / 4 * 4 + (a.toNat % 4 * 16 + after) / 16) = a :=
  octet_eq (by omega)

theorem octet_second (before : Nat) (b : UInt8) {after : Nat} (h : after < 4) :
    octet ((before * 16 + b.toNat / 16) % 16 * 16 + (b.toNat % 16 * 4 + after) / 4) = b := by
  have hb := b.toNat_lt
  exact octet_eq (by omega)

theorem octet_third (before : Nat) (c : UInt8) :
    octet ((before * 4 + c.toNat / 64) % 4 * 64 + c.toNat % 64) = c := by
  have hc := c.toNat_lt
  exact octet_eq (by omega)

/-! ### Groups -/

variable {a b c d : Char} {x y z w : Nat}

theorem ne_pad_of_bits? (h : bits? standard c = some z) : c ≠ '=' := by
  rintro rfl
  cases h

theorem decode?_one (ha : bits? standard a = some x) (hb : bits? standard b = some y)
    (hzeros : y % 16 = 0) : decode? [a, b, '=', '='] = some [octet (x * 4 + y / 16)] := by
  simp [decode?, ha, hb, hzeros]

theorem decode?_two (ha : bits? standard a = some x) (hb : bits? standard b = some y)
    (hc : bits? standard c = some z) (hzeros : z % 4 = 0) :
    decode? [a, b, c, '='] = some [octet (x * 4 + y / 16), octet (y % 16 * 16 + z / 4)] := by
  have hpad := ne_pad_of_bits? hc
  rw [decode?.eq_3 _ _ _ (by simpa using hpad)]
  simp [ha, hb, hc, hzeros]

theorem decode?_three (ha : bits? standard a = some x) (hb : bits? standard b = some y)
    (hc : bits? standard c = some z) (hd : bits? standard d = some w) (rest : List Char) :
    decode? (a :: b :: c :: d :: rest) = (decode? rest).map fun more =>
      octet (x * 4 + y / 16) :: octet (y % 16 * 16 + z / 4) :: octet (z % 4 * 64 + w) :: more := by
  have hpad := ne_pad_of_bits? hd
  rw [decode?.eq_4 _ _ _ _ _ (by simp [hpad]) (by simp [hpad])]
  simp [ha, hb, hc, hd]
  cases decode? rest <;> rfl

/-- **Octets are read back.** -/
theorem decode?_encode (octets : Bytes) : decode? (encode standard octets) = some octets := by
  induction octets using encode.induct with
  | case1 => rfl
  | case2 a =>
      have ha := a.toNat_lt
      have hread := decode?_one (bits?_symbol (by omega : a.toNat / 4 < 64))
        (bits?_symbol (by omega : a.toNat % 4 * 16 + 0 < 64)) (by omega)
      rwa [octet_first a (by omega)] at hread
  | case3 a b =>
      have ha := a.toNat_lt
      have hb := b.toNat_lt
      have hread := decode?_two (bits?_symbol (by omega : a.toNat / 4 < 64))
        (bits?_symbol (by omega : a.toNat % 4 * 16 + b.toNat / 16 < 64))
        (bits?_symbol (by omega : b.toNat % 16 * 4 + 0 < 64)) (by omega)
      rwa [octet_first a (by omega), octet_second _ b (by omega)] at hread
  | case4 a b c rest ih =>
      have ha := a.toNat_lt
      have hb := b.toNat_lt
      have hc := c.toNat_lt
      have hread := decode?_three (bits?_symbol (by omega : a.toNat / 4 < 64))
        (bits?_symbol (by omega : a.toNat % 4 * 16 + b.toNat / 16 < 64))
        (bits?_symbol (by omega : b.toNat % 16 * 4 + c.toNat / 64 < 64))
        (bits?_symbol (by omega : c.toNat % 64 < 64)) (encode standard rest)
      rwa [octet_first a (by omega), octet_second _ b (by omega), octet_third, ih] at hread

end ControlPlane.Base64
