import ControlPlane.Key.Rsa
import Mathlib.FieldTheory.Finite.Basic

/-!
# What RSA keys sign

A signature is a root that is computed by either prime and put together. A key that was made as RSA
keys are made signs every message, since there its public exponent undoes the root.
-/

namespace ControlPlane

theorem Sha256.length_hash (message : Bytes) : (hash message).length = 32 :=
  rfl

namespace RsaKey

variable {key : RsaKey}

theorem powMod_eq (base exponent modulus : Nat) :
    powMod base exponent modulus = base ^ exponent % modulus := by
  fun_induction powMod base exponent modulus with
  | case1 base => rw [pow_zero]
  | case2 base exponent hpos half hodd ih =>
      have hhalf : half = (base * base) ^ (exponent / 2) % modulus := ih.trans (Nat.pow_mod ..).symm
      rw [hhalf, Nat.mod_mul_mod, ← pow_two, ← pow_mul, ← pow_succ]
      congr 2
      omega
  | case3 base exponent hpos half heven ih =>
      have hhalf : half = (base * base) ^ (exponent / 2) % modulus := ih.trans (Nat.pow_mod ..).symm
      rw [hhalf, ← pow_two, ← pow_mul]
      congr 2
      omega

/-! ### Roots -/

/-- Keys as they are made: the factors are primes, and by either of them the private exponent
inverts the public one. -/
structure Genuine (key : RsaKey) : Prop where
  prime1 : key.prime1.Prime
  prime2 : key.prime2.Prime
  exponent1 : key.exponent1 * key.publicExponent ≡ 1 [MOD key.prime1 - 1]
  exponent2 : key.exponent2 * key.publicExponent ≡ 1 [MOD key.prime2 - 1]

/-- What a signature needs of the checks that a key passes. -/
structure Fits (key : RsaKey) : Prop where
  modulus : key.prime1 * key.prime2 = key.modulus
  long : 256 ≤ (bitLength key.modulus + 7) / 8
  publicExponent : 0 < key.publicExponent
  exponent1 : 0 < key.exponent1
  exponent2 : 0 < key.exponent2
  coefficient : key.coefficient * key.prime2 ≡ 1 [MOD key.prime1]

theorem fits_of_isSound (h : key.isSound) : key.Fits := by
  simp only [isSound, Bool.and_eq_true, decide_eq_true_eq, and_assoc] at h
  obtain ⟨hlong, -, -, hexponent, -, hmodulus, -, -, -, -, -, -, -, -, hodd1, -, hodd2, -,
    hcoefficient, hinverse⟩ := h
  refine ⟨hmodulus, hlong, by omega, by omega, by omega, ?_⟩
  have hone : 1 < key.prime1 := by
    by_contra hle
    have hcases : key.prime1 = 0 ∨ key.prime1 = 1 := by omega
    rcases hcases with hzero | hone
    · omega
    · rw [hone, Nat.mod_one] at hinverse
      omega
  rw [Nat.ModEq, hinverse, Nat.mod_eq_of_lt hone]

/-- Fermat's little theorem, for exponents that are one more than a multiple of the order. -/
theorem pow_modEq_self {p exponent : Nat} (hp : p.Prime) (hpos : 0 < exponent)
    (h : exponent ≡ 1 [MOD p - 1]) (n : Nat) : n ^ exponent ≡ n [MOD p] := by
  have := Fact.mk hp
  have hfermat : n ^ p ≡ n [MOD p] := by
    rw [← ZMod.natCast_eq_natCast_iff, Nat.cast_pow, ZMod.pow_card]
  obtain ⟨count, hcount⟩ := (Nat.modEq_iff_dvd' hpos).mp h.symm
  obtain rfl : exponent = (p - 1) * count + 1 := by omega
  clear h hpos hcount
  induction count with
  | zero => rw [Nat.mul_zero, Nat.zero_add, pow_one]
  | succ count ih =>
      have hp1 : 1 ≤ p := hp.one_le
      calc n ^ ((p - 1) * (count + 1) + 1)
          = n ^ (p - 1) * n ^ ((p - 1) * count + 1) := by rw [← pow_add]; ring_nf
        _ ≡ n ^ (p - 1) * n [MOD p] := ih.mul_left _
        _ = n ^ p := by rw [← pow_succ, Nat.sub_add_cancel hp1]
        _ ≡ n [MOD p] := hfermat

/-- The power of a root by a prime is what it is a root of. -/
theorem root_pow_modEq_self {p root exponent inverse n : Nat} (hp : p.Prime)
    (hroot : root ≡ n ^ exponent [MOD p]) (hexponent : 0 < exponent) (hinverse : 0 < inverse)
    (h : exponent * inverse ≡ 1 [MOD p - 1]) : root ^ inverse ≡ n [MOD p] :=
  calc root ^ inverse
      ≡ (n ^ exponent) ^ inverse [MOD p] := hroot.pow inverse
    _ = n ^ (exponent * inverse) := (pow_mul ..).symm
    _ ≡ n [MOD p] := pow_modEq_self hp (Nat.mul_pos hexponent hinverse) h n

theorem root_modEq_prime2 (key : RsaKey) (n : Nat) :
    key.root n ≡ n ^ key.exponent2 [MOD key.prime2] := by
  unfold root
  dsimp only
  rw [powMod_eq n key.exponent2, Nat.ModEq, Nat.add_mul_mod_self_left, Nat.mod_mod]

theorem Fits.root_modEq_prime1 (h : key.Fits) (hpos : 0 < key.prime1) (n : Nat) :
    key.root n ≡ n ^ key.exponent1 [MOD key.prime1] := by
  unfold root
  dsimp only
  rw [powMod_eq n key.exponent1]
  generalize powMod n key.exponent2 key.prime2 = root2
  -- The second summand makes up for the difference of the two roots.
  have hdifference (difference : Nat) :
      key.prime2 * (difference * key.coefficient % key.prime1) ≡ difference [MOD key.prime1] :=
    calc key.prime2 * (difference * key.coefficient % key.prime1)
        ≡ key.prime2 * (difference * key.coefficient) [MOD key.prime1] :=
          (Nat.mod_modEq _ _).mul_left _
      _ = difference * (key.coefficient * key.prime2) := by ring
      _ ≡ difference * 1 [MOD key.prime1] := h.coefficient.mul_left _
      _ = difference := Nat.mul_one _
  have hsmall : root2 % key.prime1 ≤ key.prime1 := (Nat.mod_lt _ hpos).le
  calc root2 + key.prime2 * ((n ^ key.exponent1 % key.prime1 + key.prime1 - root2 % key.prime1) %
          key.prime1 * key.coefficient % key.prime1)
      ≡ root2 % key.prime1 + (n ^ key.exponent1 % key.prime1 + key.prime1 - root2 % key.prime1)
          [MOD key.prime1] :=
        (Nat.mod_modEq _ _).symm.add ((hdifference _).trans (Nat.mod_modEq _ _))
    _ = n ^ key.exponent1 % key.prime1 + key.prime1 := by omega
    _ ≡ n ^ key.exponent1 % key.prime1 [MOD key.prime1] := by
        rw [Nat.ModEq, Nat.add_mod_right]
    _ ≡ n ^ key.exponent1 [MOD key.prime1] := Nat.mod_modEq _ _

/-- The public exponent undoes a root. -/
theorem Genuine.root_pow_modEq (h : key.Genuine) (hfits : key.Fits) (n : Nat) :
    key.root n ^ key.publicExponent ≡ n [MOD key.modulus] := by
  have hcoprime : key.prime1.Coprime key.prime2 := by
    apply Nat.Coprime.symm
    apply Nat.coprime_of_mul_modEq_one key.coefficient
    rw [Nat.mul_comm]
    exact hfits.coefficient
  rw [← hfits.modulus, ← Nat.modEq_and_modEq_iff_modEq_mul hcoprime]
  constructor
  · exact root_pow_modEq_self h.prime1 (hfits.root_modEq_prime1 h.prime1.pos n) hfits.exponent1
      hfits.publicExponent h.exponent1
  · exact root_pow_modEq_self h.prime2 (key.root_modEq_prime2 n) hfits.exponent2
      hfits.publicExponent h.exponent2

/-! ### Messages -/

theorem foldl_octets_lt (octets : Bytes) (start : Nat) :
    octets.foldl (fun acc octet => acc * 256 + octet.toNat) start <
      (start + 1) * 256 ^ octets.length := by
  induction octets generalizing start with
  | nil => simp
  | cons octet rest ih =>
      have hoctet : octet.toNat < 256 := octet.toNat_lt
      calc (octet :: rest).foldl (fun acc octet => acc * 256 + octet.toNat) start
          < (start * 256 + octet.toNat + 1) * 256 ^ rest.length := ih _
        _ ≤ ((start + 1) * 256) * 256 ^ rest.length := by
            apply Nat.mul_le_mul_right
            omega
        _ = (start + 1) * 256 ^ (rest.length + 1) := by ring

theorem messageNumber_lt {width : Nat} (hwidth : 54 ≤ width) (message : Bytes) :
    messageNumber width message < 2 * 256 ^ (width - 2) := by
  unfold messageNumber
  dsimp only
  have hlabelled : (hashLabel ++ Sha256.hash message).length = 51 := by
    rw [List.length_append, Sha256.length_hash]
    rfl
  generalize hashLabel ++ Sha256.hash message = labelled at hlabelled
  have hlength : (List.replicate (width - labelled.length - 3) (0xFF : UInt8) ++
      0x00 :: labelled).length = width - 2 := by
    rw [List.length_append, List.length_replicate, List.length_cons, hlabelled]
    omega
  rw [← hlength]
  exact foldl_octets_lt _ 1

/-- The number of a message is smaller than the modulus, which is as wide. -/
theorem Fits.messageNumber_lt_modulus (h : key.Fits) (message : Bytes) :
    messageNumber ((bitLength key.modulus + 7) / 8) message < key.modulus := by
  have hne : key.modulus ≠ 0 := by
    intro hzero
    have hlong := h.long
    rw [hzero] at hlong
    exact absurd hlong (by decide)
  have hbits : bitLength key.modulus = Nat.log2 key.modulus + 1 := if_neg hne
  have hlong := h.long
  generalize hwidth : (bitLength key.modulus + 7) / 8 = width at hlong ⊢
  have hexponent : 8 * (width - 2) + 1 ≤ Nat.log2 key.modulus := by omega
  calc messageNumber width message
      < 2 * 256 ^ (width - 2) := messageNumber_lt (by omega) message
    _ = 2 ^ (8 * (width - 2) + 1) := by
        rw [pow_succ, pow_mul, Nat.mul_comm]
        rfl
    _ ≤ 2 ^ Nat.log2 key.modulus := Nat.pow_le_pow_right (by decide) hexponent
    _ ≤ key.modulus := Nat.log2_self_le hne

/-- **A key that is one signs every message.** -/
theorem Genuine.isSome_sign? (h : key.Genuine) (hsound : key.isSound) (message : Bytes) :
    (key.sign? message).isSome := by
  have hfits := fits_of_isSound hsound
  unfold sign?
  dsimp only
  rw [powMod_eq, h.root_pow_modEq hfits, Nat.mod_eq_of_lt (hfits.messageNumber_lt_modulus message),
    if_pos rfl]
  rfl

end RsaKey

end ControlPlane
