import ControlPlane.Bytes

/-!
# Tokens of JSON text

`Json.tokens?` cuts a body into tokens. Nothing is interpreted yet: a number keeps its digits, and a
string keeps its octets and code units, so that a reader who skips a value need not ask whether its
numbers are in range or its strings are well-formed UTF-8.
-/

namespace ControlPlane.Json

/-- A part of a string: an octet, or a code unit written as a `\u` escape. -/
inductive Piece where
  | octet (value : UInt8)
  | unit (value : Nat)
  deriving DecidableEq, Repr

/-- A number as written. -/
structure Numeral where
  negative : Bool
  whole : List Nat
  fraction : List Nat
  /-- Whether the power of ten has a minus sign, and its digits. -/
  power : Option (Bool × List Nat)
  deriving DecidableEq, Repr

inductive Token where
  | openObject
  | closeObject
  | openArray
  | closeArray
  | colon
  | comma
  | null
  | bool (value : Bool)
  | number (numeral : Numeral)
  | string (pieces : List Piece)
  deriving DecidableEq, Repr

/-- The blanks between tokens. -/
def isGap (octet : UInt8) : Bool :=
  octet = 0x20 || octet = 0x09 || octet = 0x0A || octet = 0x0D

def digit? (octet : UInt8) : Option Nat :=
  if 0x30 ≤ octet ∧ octet ≤ 0x39 then some (octet.toNat - 0x30) else none

def hexDigit? (octet : UInt8) : Option Nat :=
  if 0x30 ≤ octet ∧ octet ≤ 0x39 then some (octet.toNat - 0x30)
  else if 0x41 ≤ octet ∧ octet ≤ 0x46 then some (octet.toNat - 0x41 + 10)
  else if 0x61 ≤ octet ∧ octet ≤ 0x66 then some (octet.toNat - 0x61 + 10)
  else none

/-- The digits at the start, and the rest. -/
def takeDigits : Bytes → List Nat × Bytes
  | [] => ([], [])
  | octet :: rest =>
    match digit? octet with
    | none => ([], octet :: rest)
    | some digit => (digit :: (takeDigits rest).1, (takeDigits rest).2)

/-- The octet that a one-letter escape stands for. -/
def shortEscape? (letter : UInt8) : Option UInt8 :=
  if letter = 0x22 then some 0x22
  else if letter = 0x5C then some 0x5C
  else if letter = 0x2F then some 0x2F
  else if letter = 0x62 then some 0x08
  else if letter = 0x66 then some 0x0C
  else if letter = 0x6E then some 0x0A
  else if letter = 0x72 then some 0x0D
  else if letter = 0x74 then some 0x09
  else none

/-- The code unit of four hexadecimal digits. -/
def codeUnit? (a b c d : UInt8) : Option Nat := do
  return (((← hexDigit? a) * 16 + (← hexDigit? b)) * 16 + (← hexDigit? c)) * 16 + (← hexDigit? d)

/-- Reads a string after its opening quote: its pieces, and what follows the closing quote. -/
def takeString : Bytes → Option (List Piece × Bytes)
  | [] => none
  | 0x22 :: rest => some ([], rest)
  | 0x5C :: 0x75 :: a :: b :: c :: d :: rest =>
    match codeUnit? a b c d with
    | none => none
    | some unit => (takeString rest).map fun (pieces, after) => (.unit unit :: pieces, after)
  | 0x5C :: letter :: rest =>
    match shortEscape? letter with
    | none => none
    | some octet => (takeString rest).map fun (pieces, after) => (.octet octet :: pieces, after)
  | octet :: rest =>
    if octet < 0x20 ∨ octet = 0x5C then none
    else (takeString rest).map fun (pieces, after) => (.octet octet :: pieces, after)

/-- Reads the power of ten of a number, if there is one. -/
def takePower (octets : Bytes) : Option (Option (Bool × List Nat) × Bytes) :=
  match octets with
  | mark :: rest =>
    if mark = 0x65 ∨ mark = 0x45 then
      let (negative, unsigned) := match rest with
        | 0x2B :: more => (false, more)
        | 0x2D :: more => (true, more)
        | more => (false, more)
      match takeDigits unsigned with
      | ([], _) => none
      | (digits, after) => some (some (negative, digits), after)
    else some (none, octets)
  | [] => some (none, [])

/-- Reads the digits after the decimal point, if there is one. -/
def takeFraction (octets : Bytes) : Option (List Nat × Bytes) :=
  match octets with
  | 0x2E :: rest =>
    match takeDigits rest with
    | ([], _) => none
    | (digits, after) => some (digits, after)
  | _ => some ([], octets)

/-- Reads a number after its sign. A leading zero stands alone. -/
def takeNumeral (negative : Bool) (octets : Bytes) : Option (Numeral × Bytes) :=
  let (whole, afterWhole) := takeDigits octets
  if whole = [] ∨ (whole.head? = some 0 ∧ whole ≠ [0]) then none
  else
    (takeFraction afterWhole).bind fun (fraction, afterFraction) =>
      (takePower afterFraction).map fun (power, after) =>
        (⟨negative, whole, fraction, power⟩, after)

/-- Reads one token from octets that do not start with a blank. -/
def takeToken : Bytes → Option (Token × Bytes)
  | [] => none
  | 0x7B :: rest => some (.openObject, rest)
  | 0x7D :: rest => some (.closeObject, rest)
  | 0x5B :: rest => some (.openArray, rest)
  | 0x5D :: rest => some (.closeArray, rest)
  | 0x3A :: rest => some (.colon, rest)
  | 0x2C :: rest => some (.comma, rest)
  | 0x6E :: 0x75 :: 0x6C :: 0x6C :: rest => some (.null, rest)
  | 0x74 :: 0x72 :: 0x75 :: 0x65 :: rest => some (.bool true, rest)
  | 0x66 :: 0x61 :: 0x6C :: 0x73 :: 0x65 :: rest => some (.bool false, rest)
  | 0x22 :: rest => (takeString rest).map fun (pieces, after) => (.string pieces, after)
  | 0x2D :: rest => (takeNumeral true rest).map fun (numeral, after) => (.number numeral, after)
  | octets => (takeNumeral false octets).map fun (numeral, after) => (.number numeral, after)

theorem takeDigits_length (octets : Bytes) :
    (takeDigits octets).1.length + (takeDigits octets).2.length = octets.length := by
  induction octets with
  | nil => rfl
  | cons octet rest ih =>
    unfold takeDigits
    split
    · simp
    · simp only [List.length_cons]
      omega

theorem takeString_length {octets : Bytes} {pieces : List Piece} {after : Bytes}
    (h : takeString octets = some (pieces, after)) : after.length < octets.length := by
  fun_induction takeString octets generalizing pieces after with
  | case1 => simp at h
  | case2 rest =>
    simp only [Option.some.injEq, Prod.mk.injEq] at h
    obtain ⟨-, rfl⟩ := h
    simp
  | case3 => simp at h
  | case5 => simp at h
  | case7 => simp at h
  | _ =>
    rename_i ih
    simp only [Option.map_eq_some_iff, Prod.mk.injEq, Prod.exists] at h
    obtain ⟨inner, rest', hinner, -, rfl⟩ := h
    have := ih hinner
    simp only [List.length_cons]
    omega

theorem takePower_length {octets : Bytes} {power : Option (Bool × List Nat)} {after : Bytes}
    (h : takePower octets = some (power, after)) : after.length ≤ octets.length := by
  unfold takePower at h
  split at h
  next mark rest =>
    split at h
    · simp only at h
      split at h
      · simp at h
      next digits after' _ hdigits =>
        simp only [Option.some.injEq, Prod.mk.injEq] at h
        obtain ⟨-, rfl⟩ := h
        have hsplit := takeDigits_length
          (match rest with
            | 0x2B :: more => (false, more)
            | 0x2D :: more => (true, more)
            | more => (false, more)).2
        rw [hdigits] at hsplit
        simp only at hsplit
        have hle : (match rest with
            | 0x2B :: more => (false, more)
            | 0x2D :: more => (true, more)
            | more => (false, more)).2.length ≤ rest.length := by
          split <;> simp
        simp only [List.length_cons]
        omega
    · simp only [Option.some.injEq, Prod.mk.injEq] at h
      obtain ⟨-, rfl⟩ := h
      exact Nat.le_refl _
  next =>
    simp only [Option.some.injEq, Prod.mk.injEq] at h
    obtain ⟨-, rfl⟩ := h
    exact Nat.le_refl _

theorem takeFraction_length {octets : Bytes} {fraction : List Nat} {after : Bytes}
    (h : takeFraction octets = some (fraction, after)) : after.length ≤ octets.length := by
  unfold takeFraction at h
  split at h
  next rest =>
    split at h
    · simp at h
    next digits after' _ hdigits =>
      simp only [Option.some.injEq, Prod.mk.injEq] at h
      obtain ⟨-, rfl⟩ := h
      have hsplit := takeDigits_length rest
      rw [hdigits] at hsplit
      simp only at hsplit
      simp only [List.length_cons]
      omega
  next =>
    simp only [Option.some.injEq, Prod.mk.injEq] at h
    obtain ⟨-, rfl⟩ := h
    exact Nat.le_refl _

theorem takeNumeral_length {negative : Bool} {octets : Bytes} {numeral : Numeral} {after : Bytes}
    (h : takeNumeral negative octets = some (numeral, after)) : after.length < octets.length := by
  unfold takeNumeral at h
  simp only at h
  split at h
  · simp at h
  next hwhole =>
    simp only [Option.bind_eq_some_iff, Option.map_eq_some_iff, Prod.mk.injEq, Prod.exists] at h
    obtain ⟨fraction, rest, hfraction, power, rest', hpower, -, rfl⟩ := h
    have h1 := takeDigits_length octets
    have h2 := takeFraction_length hfraction
    have h3 := takePower_length hpower
    have h4 : 0 < (takeDigits octets).1.length :=
      List.length_pos_iff.mpr fun hnil => hwhole (Or.inl hnil)
    omega

theorem takeToken_length {octets : Bytes} {token : Token} {after : Bytes}
    (h : takeToken octets = some (token, after)) : after.length < octets.length := by
  unfold takeToken at h
  split at h
  case h_1 => simp at h
  case h_11 rest =>
    simp only [Option.map_eq_some_iff] at h
    obtain ⟨⟨pieces, rest'⟩, hstring, h⟩ := h
    simp only [Prod.mk.injEq] at h
    obtain ⟨-, rfl⟩ := h
    have := takeString_length hstring
    simp only [List.length_cons]
    omega
  case h_12 rest =>
    simp only [Option.map_eq_some_iff] at h
    obtain ⟨⟨numeral, rest'⟩, hnumeral, h⟩ := h
    simp only [Prod.mk.injEq] at h
    obtain ⟨-, rfl⟩ := h
    have := takeNumeral_length hnumeral
    simp only [List.length_cons]
    omega
  case h_13 =>
    simp only [Option.map_eq_some_iff] at h
    obtain ⟨⟨numeral, rest'⟩, hnumeral, h⟩ := h
    simp only [Prod.mk.injEq] at h
    obtain ⟨-, rfl⟩ := h
    exact takeNumeral_length hnumeral
  all_goals
    simp only [Option.some.injEq, Prod.mk.injEq] at h
    obtain ⟨-, rfl⟩ := h
    simp only [List.length_cons]
    omega

def tokens? (octets : Bytes) : Option (List Token) :=
  match octets with
  | [] => some []
  | octet :: rest =>
    if isGap octet then tokens? rest
    else match h : takeToken (octet :: rest) with
      | none => none
      | some (token, after) =>
        have : after.length < rest.length + 1 := takeToken_length h
        (tokens? after).map (token :: ·)
termination_by octets.length

end ControlPlane.Json
