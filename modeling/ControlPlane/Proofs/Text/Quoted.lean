import ControlPlane.Text.Quoted
import ControlPlane.Text.Table
import Mathlib.Data.Nat.Digits.Defs

/-!
# Quoted texts can be read back

`takeQuoted?` reads one character of a quoted text, whichever way it was written, and leaves what
follows it. No two texts are therefore quoted alike, and no two settings have one debug form.
-/

namespace ControlPlane.Text

/-! ### Numbers in base 16 -/

theorem hexNumber_append_singleton (digits : List Char) (digit : Char) :
    hexNumber (digits ++ [digit]) = hexNumber digits * 16 + hexNumber [digit] := by
  simp [hexNumber]

theorem hexNumber_digitChar {d : Nat} (h : d < 16) : hexNumber [Nat.digitChar d] = d := by
  have hall : ∀ d < 16, hexNumber [Nat.digitChar d] = d := by decide
  exact hall d h

theorem hexNumber_hexDigits (n : Nat) : hexNumber (hexDigits n) = n := by
  induction n using Nat.strongRecOn with
  | ind n ih =>
      unfold hexDigits at ih ⊢
      by_cases hsmall : n < 16
      · rw [Nat.toDigits_of_lt_base hsmall, hexNumber_digitChar hsmall]
      · have hdigit : n % 16 < 16 := Nat.mod_lt n (by decide)
        have hquotient : n / 16 < n := Nat.div_lt_self (by omega) (by decide)
        rw [Nat.toDigits_of_base_le (by decide) (by omega), hexNumber_append_singleton,
          ih (n / 16) hquotient, hexNumber_digitChar hdigit]
        omega

theorem ne_brace_of_mem_hexDigits (n : Nat) : ∀ c ∈ hexDigits n, c ≠ '\x7d' := by
  induction n using Nat.strongRecOn with
  | ind n ih =>
      unfold hexDigits at ih ⊢
      by_cases hsmall : n < 16
      · rw [Nat.toDigits_of_lt_base hsmall]
        simp
      · have hquotient : n / 16 < n := Nat.div_lt_self (by omega) (by decide)
        rw [Nat.toDigits_of_base_le (by decide) (by omega), List.forall_mem_append]
        exact ⟨ih (n / 16) hquotient, by simp⟩

/-! ### Reading -/

/-- Reads the first character of what stands between the quotes. -/
def takeQuoted? : List Char → Option (Char × List Char)
  | '\\' :: '0' :: rest => some ('\u0000', rest)
  | '\\' :: 't' :: rest => some ('\t', rest)
  | '\\' :: 'n' :: rest => some ('\n', rest)
  | '\\' :: 'r' :: rest => some ('\r', rest)
  | '\\' :: '"' :: rest => some ('"', rest)
  | '\\' :: '\\' :: rest => some ('\\', rest)
  | '\\' :: 'u' :: '\x7b' :: rest =>
    some (Char.ofNat (hexNumber (rest.takeWhile (· ≠ '\x7d'))),
      (rest.dropWhile (· ≠ '\x7d')).drop 1)
  | c :: rest => some (c, rest)
  | [] => none

theorem takeQuoted?_unicode (c : Char) (rest : List Char) :
    takeQuoted? ('\\' :: 'u' :: '\x7b' :: (hexDigits c.toNat ++ '\x7d' :: rest)) =
      some (c, rest) := by
  have hdigits : ∀ d ∈ hexDigits c.toNat, decide (d ≠ '\x7d') = true := fun d hd =>
    decide_eq_true (ne_brace_of_mem_hexDigits _ d hd)
  have htake : (hexDigits c.toNat ++ '\x7d' :: rest).takeWhile (· ≠ '\x7d') =
      hexDigits c.toNat := by
    rw [List.takeWhile_append_of_pos hdigits]
    simp
  have hdrop : (hexDigits c.toNat ++ '\x7d' :: rest).dropWhile (· ≠ '\x7d') = '\x7d' :: rest := by
    rw [List.dropWhile_append_of_pos hdigits]
    simp
  rw [takeQuoted?, htake, hdrop, hexNumber_hexDigits, Char.ofNat_toNat]
  rfl

theorem takeQuoted?_plain {c : Char} (h : c ≠ '\\') (rest : List Char) :
    takeQuoted? (c :: rest) = some (c, rest) := by
  unfold takeQuoted?
  split <;> simp_all

/-- **Every character can be read back.** -/
theorem takeQuoted?_quotedChar (c : Char) (rest : List Char) :
    takeQuoted? (quotedChar c ++ rest) = some (c, rest) := by
  unfold quotedChar
  split
  · next h => rw [h]; rfl
  split
  · next h => rw [h]; rfl
  split
  · next h => rw [h]; rfl
  split
  · next h => rw [h]; rfl
  split
  · next h => rw [h]; rfl
  split
  · next h => rw [h]; rfl
  · next hbackslash =>
      split
      · exact takeQuoted?_plain hbackslash rest
      · rw [List.append_assoc]
        exact takeQuoted?_unicode c rest

theorem flatMap_quotedChar_injective {first second : List Char}
    (h : first.flatMap quotedChar = second.flatMap quotedChar) : first = second := by
  induction first generalizing second with
  | nil =>
      cases second with
      | nil => rfl
      | cons c rest =>
          have hread := takeQuoted?_quotedChar c (rest.flatMap quotedChar)
          rw [← List.flatMap_cons, ← h] at hread
          cases hread
  | cons c first ih =>
      have hfirst := takeQuoted?_quotedChar c (first.flatMap quotedChar)
      rw [← List.flatMap_cons, h] at hfirst
      cases second with
      | nil => cases hfirst
      | cons d second =>
          rw [List.flatMap_cons, takeQuoted?_quotedChar d] at hfirst
          obtain ⟨hsame, hrest⟩ := Prod.mk.inj (Option.some.inj hfirst)
          rw [hsame, ih hrest.symm]

theorem quoted_injective {first second : String} (h : quoted first = quoted second) :
    first = second := by
  have hchars := congrArg String.toList h
  simp only [quoted, String.toList_ofList, List.cons_append, List.cons.injEq, true_and] at hchars
  exact String.ext (flatMap_quotedChar_injective (List.append_cancel_right hchars))

end ControlPlane.Text
