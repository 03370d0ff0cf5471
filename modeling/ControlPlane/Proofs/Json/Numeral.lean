import Mathlib.Tactic.IntervalCases
import ControlPlane.Json.Printer
import ControlPlane.Proofs.Bytes

/-!
# Numbers are read as they are written

A number is written as digits, perhaps with a fraction and a power of ten, and never with a zero
before other digits. Such a text is read up to its end, wherever something follows that is no part of
a number. Natural numbers below `2 ^ 64` keep their value.
-/

namespace ControlPlane

namespace Bytes

def ofChars (chars : List Char) : Bytes :=
  chars.flatMap String.utf8EncodeChar

@[simp]
theorem ofChars_nil : ofChars [] = [] := rfl

@[simp]
theorem ofChars_append (front tail : List Char) :
    ofChars (front ++ tail) = ofChars front ++ ofChars tail :=
  List.flatMap_append

theorem ofChars_cons (c : Char) (chars : List Char) :
    ofChars (c :: chars) = String.utf8EncodeChar c ++ ofChars chars :=
  List.flatMap_cons

theorem encodeChar_of_ascii {c : Char} (h : c.toNat < 128) :
    String.utf8EncodeChar c = [UInt8.ofNat c.toNat] := by
  have hval : c.val.toNat = c.toNat := rfl
  unfold String.utf8EncodeChar
  rw [hval, if_pos (by omega)]

end Bytes

namespace Json

open Bytes

/-! ### Digits -/

def IsDigits (chars : List Char) : Prop :=
  ∀ c ∈ chars, c.isDigit = true

def digitsOf (chars : List Char) : List Nat :=
  chars.map fun c => c.toNat - 48

/-- Octets that do not go on with a number: none, a blank, a comma or a closing bracket first. -/
def Ends (octets : Bytes) : Prop :=
  ∀ octet ∈ octets.head?, isGap octet = true ∨ octet = 0x2C ∨ octet = 0x5D ∨ octet = 0x7D

theorem toNat_of_isDigit {c : Char} (h : c.isDigit = true) : 48 ≤ c.toNat ∧ c.toNat ≤ 57 := by
  simpa [Char.isDigit, UInt32.le_iff_toNat_le] using h

theorem digit?_ofNat {code : Nat} (h : 48 ≤ code ∧ code ≤ 57) :
    digit? (UInt8.ofNat code) = some (code - 48) := by
  have hall : ∀ value < 10, digit? (UInt8.ofNat (value + 48)) = some value := by decide
  obtain ⟨value, rfl⟩ := Nat.exists_eq_add_of_le' h.1
  rw [Nat.add_sub_cancel]
  exact hall value (by omega)

theorem ofChars_digit {c : Char} (h : c.isDigit = true) (chars : List Char) :
    ofChars (c :: chars) = UInt8.ofNat c.toNat :: ofChars chars := by
  have hcode := toNat_of_isDigit h
  rw [ofChars_cons, encodeChar_of_ascii (by omega)]
  rfl

/-- An octet that may stand where a number ends is no part of one. -/
theorem Ends.facts {octet : UInt8} {more : Bytes} (h : Ends (octet :: more)) :
    digit? octet = none ∧ octet ≠ 0x2E ∧ ¬ (octet = 0x65 ∨ octet = 0x45) := by
  have hoctet := h octet rfl
  simp only [isGap, Bool.or_eq_true, decide_eq_true_eq] at hoctet
  rcases hoctet with (((rfl | rfl) | rfl) | rfl) | rfl | rfl | rfl <;> decide

variable {rest : Bytes}

theorem Ends.head_not_digit (h : Ends rest) : ∀ octet ∈ rest.head?, digit? octet = none := by
  cases rest with
  | nil => nofun
  | cons octet more =>
      rintro _ ⟨⟩
      exact h.facts.1

theorem takeDigits_ofChars {digits : List Char} (h : IsDigits digits)
    (hrest : ∀ octet ∈ rest.head?, digit? octet = none) :
    takeDigits (ofChars digits ++ rest) = (digitsOf digits, rest) := by
  induction digits with
  | nil =>
      cases rest with
      | nil => rfl
      | cons octet more => simp [takeDigits, hrest octet rfl, digitsOf]
  | cons c digits ih =>
      obtain ⟨hc, hdigits⟩ := List.forall_mem_cons.mp h
      rw [ofChars_digit hc, List.cons_append, takeDigits, digit?_ofNat (toNat_of_isDigit hc)]
      simp only [ih hdigits]
      rfl

theorem exists_digitsOf {digits : List Char} (h : digits ≠ []) :
    ∃ first others, digitsOf digits = first :: others :=
  List.exists_cons_of_ne_nil (by simpa [digitsOf] using h)

/-! ### Parts of a number -/

/-- The text of a number without its sign, in parts: the power of ten has a sign of its own. -/
structure Decimal where
  whole : List Char
  fraction : List Char := []
  power : Option (Bool × List Char) := none

namespace Decimal

def powerChars : Option (Bool × List Char) → List Char
  | none => []
  | some (negative, digits) => 'e' :: (if negative then '-' else '+') :: digits

def fractionChars : List Char → List Char
  | [] => []
  | first :: others => '.' :: first :: others

def chars (decimal : Decimal) : List Char :=
  decimal.whole ++ (fractionChars decimal.fraction ++ powerChars decimal.power)

def numeral (decimal : Decimal) (negative : Bool) : Numeral :=
  ⟨negative, digitsOf decimal.whole, digitsOf decimal.fraction,
    decimal.power.map fun power => (power.1, digitsOf power.2)⟩

/-- Digits stand where they are due, and a zero stands alone before the point. -/
structure WellFormed (decimal : Decimal) : Prop where
  whole : IsDigits decimal.whole
  nonempty : decimal.whole ≠ []
  leading : decimal.whole.head? = some '0' → decimal.whole = ['0']
  fraction : IsDigits decimal.fraction
  power : ∀ part ∈ decimal.power, IsDigits part.2 ∧ part.2 ≠ []

theorem takePower_powerChars {power : Option (Bool × List Char)}
    (h : ∀ part ∈ power, IsDigits part.2 ∧ part.2 ≠ []) (hrest : Ends rest) :
    takePower (ofChars (powerChars power) ++ rest) =
      some (power.map fun part => (part.1, digitsOf part.2), rest) := by
  cases power with
  | none =>
      cases rest with
      | nil => rfl
      | cons octet more => exact if_neg hrest.facts.2.2
  | some part =>
      obtain ⟨negative, digits⟩ := part
      obtain ⟨hdigits, hne⟩ := h _ rfl
      have hread := takeDigits_ofChars hdigits hrest.head_not_digit
      obtain ⟨first, others, hfirst⟩ := exists_digitsOf hne
      have hmark : ofChars (powerChars (some (negative, digits))) =
          0x65 :: (if negative then 0x2D else 0x2B) :: ofChars digits := by
        cases negative <;> rfl
      rw [hmark]
      cases negative <;> simp [takePower, hread, hfirst]

/-- What follows the fraction is no digit: the mark of a power, or the end of the number. -/
theorem head_powerChars (power : Option (Bool × List Char)) (hrest : Ends rest) :
    ∀ octet ∈ (ofChars (powerChars power) ++ rest).head?, digit? octet = none ∧ octet ≠ 0x2E := by
  cases power with
  | none =>
      cases rest with
      | nil => nofun
      | cons octet more =>
          rintro _ ⟨⟩
          exact ⟨hrest.facts.1, hrest.facts.2.1⟩
  | some part =>
      rintro _ ⟨⟩
      decide

theorem takeFraction_fractionChars {fraction : List Char} (h : IsDigits fraction)
    (hrest : ∀ octet ∈ rest.head?, digit? octet = none ∧ octet ≠ 0x2E) :
    takeFraction (ofChars (fractionChars fraction) ++ rest) = some (digitsOf fraction, rest) := by
  cases fraction with
  | nil =>
      cases rest with
      | nil => rfl
      | cons octet more =>
          have hpoint := (hrest octet rfl).2
          rw [fractionChars, ofChars_nil, List.nil_append]
          unfold takeFraction
          split
          · next heq => exact absurd (List.cons.inj heq).1 hpoint
          · rfl
  | cons first others =>
      have hread := takeDigits_ofChars h fun octet hmem => (hrest octet hmem).1
      change takeFraction (0x2E :: (ofChars (first :: others) ++ rest)) = _
      rw [takeFraction, hread]
      rfl

theorem head_fractionChars (fraction : List Char)
    (hrest : ∀ octet ∈ rest.head?, digit? octet = none) :
    ∀ octet ∈ (ofChars (fractionChars fraction) ++ rest).head?, digit? octet = none := by
  cases fraction with
  | nil => exact hrest
  | cons first others =>
      rintro _ ⟨⟩
      decide

theorem leading_digitsOf {digits : List Char} (h : IsDigits digits)
    (hleading : digits.head? = some '0' → digits = ['0']) :
    ¬ ((digitsOf digits).head? = some 0 ∧ digitsOf digits ≠ [0]) := by
  rintro ⟨hhead, hne⟩
  cases digits with
  | nil => cases hhead
  | cons c digits =>
      have hcode := toNat_of_isDigit (h c (List.mem_cons_self ..))
      have hzero : c.toNat - 48 = 0 := by simpa [digitsOf] using hhead
      have hc : c = '0' := Char.toNat_inj.mp (by change c.toNat = 48; omega)
      subst hc
      exact hne (by rw [hleading rfl]; rfl)

/-- **A number is read up to its end.** -/
theorem WellFormed.takeNumeral {decimal : Decimal} (h : decimal.WellFormed) (negative : Bool)
    (hrest : Ends rest) :
    takeNumeral negative (ofChars decimal.chars ++ rest) =
      some (decimal.numeral negative, rest) := by
  have hpower := takePower_powerChars h.power hrest
  have hbehind := head_powerChars decimal.power hrest
  have hfraction := takeFraction_fractionChars h.fraction hbehind
  have hwhole := takeDigits_ofChars h.whole
    (head_fractionChars decimal.fraction fun octet hmem => (hbehind octet hmem).1)
  obtain ⟨first, others, hfirst⟩ := exists_digitsOf h.nonempty
  have hleading := leading_digitsOf h.whole h.leading
  rw [hfirst] at hleading hwhole
  simp only [Json.takeNumeral, chars, ofChars_append, List.append_assoc, hwhole, hfraction,
    hpower, Option.bind_some, Option.map_some, numeral, hfirst]
  rw [if_neg (by simpa using hleading)]

end Decimal

/-! ### Digits that a number starts with -/

theorem isDigits_toDigits (n : Nat) : IsDigits (Nat.toDigits 10 n) :=
  fun _ hmem => Nat.isDigit_of_mem_toDigits (by decide) (by decide) hmem

/-- Digits of which the first is no zero. -/
structure Significant (digits : List Char) : Prop where
  isDigits : IsDigits digits
  head : ∃ first others, digits = first :: others ∧ first ≠ '0'

theorem significant_toDigits {n : Nat} (h : 0 < n) : Significant (Nat.toDigits 10 n) := by
  refine ⟨isDigits_toDigits n, ?_⟩
  induction n using Nat.strongRecOn with
  | ind n ih =>
      by_cases hsmall : n < 10
      · refine ⟨Nat.digitChar n, [], Nat.toDigits_of_lt_base hsmall, ?_⟩
        rw [Ne, Nat.digitChar_eq_zero]
        exact Nat.ne_of_gt h
      · obtain ⟨first, others, heq, hfirst⟩ := ih (n / 10) (by omega) (by omega)
        refine ⟨first, others ++ [Nat.digitChar (n % 10)], ?_, hfirst⟩
        rw [Nat.toDigits_of_base_le (by decide : 1 < 10) (Nat.le_of_not_lt hsmall), heq]
        rfl

/-- The zeros at the end can go: one digit is no zero. -/
theorem Significant.dropZeros {digits : List Char} (h : Significant digits) (power : Int) :
    Significant (Binary64.dropZeros digits power).1 := by
  obtain ⟨hdigits, first, others, rfl, hfirst⟩ := h
  refine ⟨fun c hmem => hdigits c (List.mem_of_mem_take hmem), first, ?_⟩
  have hzeros : ((first :: others).reverse.takeWhile (· = '0')).length ≤ others.length := by
    rw [List.reverse_cons, List.takeWhile_append]
    split
    · simp [hfirst]
    · next hne =>
        have := (List.takeWhile_sublist (· = '0') (l := others.reverse)).length_le
        simpa using this
  simp only [Binary64.dropZeros]
  rw [List.length_cons, Nat.succ_sub hzeros, List.take_succ_cons]
  exact ⟨_, rfl, hfirst⟩

/-! ### The parts of each number -/

namespace Decimal

def ofNat (n : Nat) : Decimal where
  whole := Nat.toDigits 10 n

theorem wellFormed_ofNat (n : Nat) : (ofNat n).WellFormed where
  whole := isDigits_toDigits n
  nonempty := Nat.toDigits_ne_nil
  leading hzero := by
    rcases Nat.eq_zero_or_pos n with rfl | hpos
    · rfl
    · obtain ⟨-, first, others, heq, hfirst⟩ := significant_toDigits hpos
      rw [ofNat, heq] at hzero
      exact absurd (Option.some.inj hzero) hfirst
  fraction := nofun
  power := nofun

/-- The parts of a decimal in positional notation, or with a power of ten. -/
def ofDigits (format : RealFormat) (digits : List Char) (exponent : Int) : Decimal :=
  if format.least ≤ exponent ∧ exponent ≤ format.greatest then
    if exponent < 0 then
      { whole := ['0'], fraction := List.replicate ((-exponent).toNat - 1) '0' ++ digits }
    else
      let whole := exponent.toNat + 1
      let padded := digits ++ List.replicate (whole - digits.length) '0'
      let fraction := padded.drop whole
      { whole := padded.take whole, fraction := if fraction.isEmpty then ['0'] else fraction }
  else
    { whole := digits.take 1, fraction := digits.drop 1,
      power := some (decide (exponent < 0), Nat.toDigits 10 exponent.natAbs) }

theorem fractionChars_of_ne_nil {fraction : List Char} (h : fraction ≠ []) :
    fractionChars fraction = '.' :: fraction := by
  obtain ⟨first, others, rfl⟩ := List.exists_cons_of_ne_nil h
  rfl

theorem decimalChars_eq (format : RealFormat) {digits : List Char} (h : Significant digits)
    (exponent : Int) : decimalChars format digits exponent = (ofDigits format digits exponent).chars := by
  obtain ⟨-, first, others, rfl, -⟩ := h
  unfold decimalChars ofDigits
  split
  · split
    · simp [chars, powerChars, fractionChars_of_ne_nil]
    · have hne (fraction : List Char) : (if fraction.isEmpty then ['0'] else fraction) ≠ [] := by
        split <;> simp_all
      simp only [chars, powerChars, fractionChars_of_ne_nil (hne _), List.append_nil]
  · cases others <;> by_cases hsign : exponent < 0 <;> simp [chars, fractionChars, powerChars, hsign]

theorem isDigits_replicate (n : Nat) : IsDigits (List.replicate n '0') := by
  intro c hmem
  rw [List.eq_of_mem_replicate hmem]
  rfl

theorem isDigits_append {front tail : List Char} (hfront : IsDigits front) (htail : IsDigits tail) :
    IsDigits (front ++ tail) :=
  List.forall_mem_append.mpr ⟨hfront, htail⟩

theorem wellFormed_ofDigits (format : RealFormat) {digits : List Char} (h : Significant digits)
    (exponent : Int) : (ofDigits format digits exponent).WellFormed := by
  obtain ⟨hdigits, first, others, rfl, hfirst⟩ := h
  have hzeros := fun n => isDigits_append hdigits (isDigits_replicate n)
  unfold ofDigits
  split
  · split
    · exact ⟨isDigits_replicate 1, by simp, fun _ => rfl, isDigits_append (isDigits_replicate _) hdigits,
        nofun⟩
    · refine ⟨fun c hmem => hzeros _ c (List.mem_of_mem_take hmem), by simp, fun hzero => ?_, ?_,
        nofun⟩
      · exact absurd (by simpa using hzero) hfirst
      · simp only
        split
        · exact isDigits_replicate 1
        · exact fun c hmem => hzeros _ c (List.mem_of_mem_drop hmem)
  · refine ⟨fun c hmem => hdigits c (List.mem_of_mem_take hmem), by simp, fun hzero => ?_,
      fun c hmem => hdigits c (List.mem_of_mem_drop hmem), ?_⟩
    · exact absurd (by simpa using hzero) hfirst
    · rintro _ ⟨⟩
      exact ⟨isDigits_toDigits _, Nat.toDigits_ne_nil⟩

def ofReal (x : Binary64) : Decimal :=
  if x.mantissa = 0 then { whole := ['0'], fraction := ['0'] }
  else
    let (all, power) := x.shortest
    let (digits, power) := Binary64.dropZeros (Nat.toDigits 10 all) power
    ofDigits realFormat digits (power + digits.length - 1)

end Decimal

end Json

namespace Binary64

theorem scaleQuarters_pos (x : Binary64) {quarters : Nat} (h : 0 < quarters) :
    0 < scaleQuarters x quarters := by
  have hten (power : Nat) : 0 < Nat.pow 10 power := Nat.pow_pos (by decide)
  rw [scaleQuarters, Nat.shiftLeft_eq]
  exact Nat.mul_pos (Nat.mul_pos h (hten tenShift)) (Nat.two_pow_pos _)

/-- No digits at all do not read back, unless the number is zero. -/
theorem readsBack_zero {x : Binary64} (h : x.mantissa ≠ 0) (exponent : Int) :
    readsBack x 0 exponent = false := by
  have hzero : scaleDecimal 0 exponent = 0 := by
    rw [scaleDecimal, Nat.zero_mul, Nat.zero_shiftLeft]
  have hbelow : (if x.mantissa = 1 <<< 52 ∧ minExponent < x.exponent then 1 else 2) ≤ 2 := by
    split <;> decide
  simp only [readsBack, hzero]
  generalize (if x.mantissa = 1 <<< 52 ∧ minExponent < x.exponent then 1 else 2) = below at hbelow ⊢
  have hlow := scaleQuarters_pos x (show 0 < 4 * x.mantissa - below by omega)
  split
  · rw [decide_eq_false (Nat.not_le.mpr hlow), Bool.false_and]
  · rw [decide_eq_false (Nat.not_lt_zero _), Bool.false_and]

theorem onGrid?_pos {x : Binary64} (h : x.mantissa ≠ 0) {count digits : Nat} {exponent : Int}
    (hgrid : x.onGrid? count = some (digits, exponent)) : 0 < digits := by
  simp only [onGrid?] at hgrid
  generalize x.fraction.1 * Nat.pow 10 _ / _ = lower at hgrid
  have hlower : readsBack x lower (x.magnitude - count) = true → 0 < lower := by
    intro hreads
    rcases Nat.eq_zero_or_pos lower with rfl | hpos
    · rw [readsBack_zero h] at hreads
      cases hreads
    · exact hpos
  split at hgrid
  · cases hgrid
  · next hreads _ =>
      cases hgrid
      exact hlower hreads
  · cases hgrid
    exact Nat.succ_pos lower
  · next hreads _ =>
      have hpos := hlower hreads
      split at hgrid
      · cases hgrid
        exact hpos
      split at hgrid
      · cases hgrid
        exact Nat.succ_pos lower
      · cases hgrid
        exact Nat.add_pos_left hpos _

theorem shortest_pos {x : Binary64} (h : x.mantissa ≠ 0) :
    x.shortest = (0, 0) ∨ 0 < x.shortest.1 := by
  rw [shortest, if_neg h]
  cases hfound : (List.range 17).findSome? fun count => x.onGrid? (count + 1) with
  | none => exact .inl rfl
  | some found =>
      obtain ⟨count, -, hgrid⟩ := List.exists_of_findSome?_eq_some hfound
      exact .inr (onGrid?_pos h hgrid)

end Binary64

namespace Json

open Bytes

namespace Decimal

/-- A real is written as its parts, and these stand where they are due. -/
theorem realChars_eq (x : Binary64) :
    realChars x = (if x.negative then ['-'] else []) ++ (ofReal x).chars ∧
      (ofReal x).WellFormed := by
  have hzero : ({ whole := ['0'], fraction := ['0'] } : Decimal).WellFormed :=
    ⟨isDigits_replicate 1, by simp, fun _ => rfl, isDigits_replicate 1, nofun⟩
  unfold realChars ofReal
  by_cases hmantissa : x.mantissa = 0
  · rw [if_pos hmantissa, if_pos hmantissa]
    exact ⟨rfl, hzero⟩
  rw [if_neg hmantissa, if_neg hmantissa]
  rcases Binary64.shortest_pos hmantissa with heq | hpos
  · rw [heq]
    exact ⟨rfl, hzero⟩
  · have hdigits := (significant_toDigits hpos).dropZeros x.shortest.2
    exact ⟨congrArg _ (decimalChars_eq realFormat hdigits _),
      wellFormed_ofDigits realFormat hdigits _⟩

end Decimal

namespace Number

def isNegative : Number → Bool
  | .natural _ => false
  | .negative _ => true
  | .real x => x.negative

def decimal : Number → Decimal
  | .natural value => .ofNat value
  | .negative value => .ofNat value
  | .real x => .ofReal x

def numeral (number : Number) : Numeral :=
  number.decimal.numeral number.isNegative

theorem numberChars_eq (number : Number) :
    numberChars number = (if number.isNegative then ['-'] else []) ++ number.decimal.chars := by
  cases number with
  | natural value => simp [numberChars, isNegative, decimal, Decimal.ofNat, Decimal.chars,
      Decimal.fractionChars, Decimal.powerChars]
  | negative value => simp [numberChars, isNegative, decimal, Decimal.ofNat, Decimal.chars,
      Decimal.fractionChars, Decimal.powerChars]
  | real x => exact (Decimal.realChars_eq x).1

theorem wellFormed_decimal (number : Number) : number.decimal.WellFormed := by
  cases number with
  | natural value => exact Decimal.wellFormed_ofNat value
  | negative value => exact Decimal.wellFormed_ofNat value
  | real x => exact (Decimal.realChars_eq x).2

end Number

theorem takeToken_digit {code : Nat} (h : 48 ≤ code ∧ code ≤ 57) (octets : Bytes) :
    takeToken (UInt8.ofNat code :: octets) =
      (takeNumeral false (UInt8.ofNat code :: octets)).map fun (numeral, after) =>
        (.number numeral, after) := by
  obtain ⟨value, rfl⟩ := Nat.exists_eq_add_of_le' h.1
  have hvalue : value < 10 := by omega
  interval_cases value <;> rfl

/-- **A number is the token that is read where it is written.** -/
theorem takeToken_number (number : Number) {rest : Bytes} (hrest : Ends rest) :
    takeToken (ofChars (numberChars number) ++ rest) = some (.number number.numeral, rest) := by
  have hread := fun negative => (number.wellFormed_decimal).takeNumeral negative hrest
  rw [Number.numberChars_eq, Number.numeral]
  cases number.isNegative with
  | true =>
      change (takeNumeral true (ofChars number.decimal.chars ++ rest)).map _ = _
      rw [hread]
      rfl
  | false =>
      obtain ⟨c, others, hwhole⟩ := List.exists_cons_of_ne_nil number.wellFormed_decimal.nonempty
      have hc : c.isDigit = true :=
        number.wellFormed_decimal.whole c (by rw [hwhole]; exact List.mem_cons_self ..)
      have hchars : ofChars number.decimal.chars ++ rest = UInt8.ofNat c.toNat ::
          (ofChars (others ++ (Decimal.fractionChars number.decimal.fraction ++
            Decimal.powerChars number.decimal.power)) ++ rest) := by
        rw [Decimal.chars, hwhole, List.cons_append, ofChars_digit hc, List.cons_append]
      have hnumeral := hread false
      rw [hchars] at hnumeral
      change takeToken (ofChars number.decimal.chars ++ rest) = _
      rw [hchars, takeToken_digit (toNat_of_isDigit hc), hnumeral]
      rfl

/-! ### The value of a natural number -/

theorem value_digitsOf_toDigits (n : Nat) :
    Numeral.value (digitsOf (Nat.toDigits 10 n)) = n := by
  have hread := Nat.ofDigitChars_toDigits (b := 10) (n := n) (by decide) (by decide)
  rw [Nat.ofDigitChars_eq_foldl] at hread
  rw [Numeral.value, digitsOf, List.foldl_map]
  simpa only [Nat.mul_comm, Char.reduceToNat] using hread

theorem le_foldl_digits (digits : List Nat) (significand : Nat) :
    significand ≤ digits.foldl (fun acc digit => acc * 10 + digit) significand := by
  induction digits generalizing significand with
  | nil => exact Nat.le_refl _
  | cons digit digits ih => exact Nat.le_trans (by omega) (ih (significand * 10 + digit))

theorem absorb_of_lt {digits : List Nat} {significand : Nat}
    (h : digits.foldl (fun acc digit => acc * 10 + digit) significand < 1 <<< 64) :
    (Numeral.absorb significand digits).2 = 0 := by
  induction digits generalizing significand with
  | nil => rfl
  | cons digit digits ih =>
      rw [List.foldl_cons] at h
      have hlt := Nat.lt_of_le_of_lt (le_foldl_digits digits _) h
      rw [Numeral.absorb, if_neg (Nat.not_le.mpr hlt)]
      exact ih h

theorem number?_natural {n : Nat} (h : n < 1 <<< 64) :
    (Number.natural n).numeral.number? = some (.natural n) := by
  have hvalue := value_digitsOf_toDigits n
  have hinteger : (Number.natural n).numeral.isInteger = true := by
    have habsorb : (Numeral.absorb 0 (digitsOf (Nat.toDigits 10 n))).2 = 0 :=
      absorb_of_lt (by rw [← Numeral.value, hvalue]; exact h)
    simp [Numeral.isInteger, Number.numeral, Number.decimal, Decimal.ofNat, Decimal.numeral,
      digitsOf] at habsorb ⊢
    exact habsorb
  rw [Numeral.number?, if_pos hinteger]
  exact congrArg (fun value => some (Number.natural value)) hvalue

end Json

end ControlPlane
