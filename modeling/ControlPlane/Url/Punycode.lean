/-!
# Punycode

The ASCII form of a label that holds other characters: the ASCII characters first, then, in digits
of base 36, where the others go. The threshold between digits adapts to the differences seen so far.
-/

namespace ControlPlane.Url.Punycode

def digitChar (digit : Nat) : Char :=
  if digit < 26 then Char.ofNat (digit + 0x61) else Char.ofNat (digit - 26 + 0x30)

def digit? (c : Char) : Option Nat :=
  let code := c.toNat
  if 0x61 ≤ code ∧ code ≤ 0x7A then some (code - 0x61)
  else if 0x41 ≤ code ∧ code ≤ 0x5A then some (code - 0x41)
  else if 0x30 ≤ code ∧ code ≤ 0x39 then some (code - 0x30 + 26)
  else none

def threshold (position bias : Nat) : Nat :=
  min (max (position - bias) 1) 26

/-- Scales a difference down to at most 455: what is left, and 36 for each step. -/
def scaleDown (delta steps : Nat) : Nat × Nat :=
  if 455 < delta then scaleDown (delta / 35) (steps + 36) else (delta, steps)
termination_by delta
decreasing_by exact Nat.div_lt_self (by omega) (by omega)

def adapt (delta count : Nat) (isFirst : Bool) : Nat :=
  let halved := if isFirst then delta / 700 else delta / 2
  let (small, steps) := scaleDown (halved + halved / count) 0
  steps + 36 * small / (small + 38)

/-- The digits of a difference. -/
def encodeDelta (bias delta position : Nat) : List Char :=
  let least := threshold position bias
  if h : delta < least then [digitChar delta]
  else
    digitChar (least + (delta - least) % (36 - least)) ::
      encodeDelta bias ((delta - least) / (36 - least)) (position + 36)
termination_by delta
decreasing_by
  have hpos : 1 ≤ threshold position bias := by unfold threshold; omega
  have hle : threshold position bias ≤ 26 := by unfold threshold; omega
  have hstep := Nat.div_le_self (delta - threshold position bias) (36 - threshold position bias)
  simp only [least] at h
  omega

/-- The state of an encoder while it goes through one code point. -/
structure State where
  delta : Nat
  bias : Nat
  handled : Nat
  output : List Char

/-- Inserts every occurrence of one code point. -/
def insertAll (code basic : Nat) (state : State) (text : List Nat) : State :=
  text.foldl
    (fun state c =>
      if c < code then { state with delta := state.delta + 1 }
      else if c = code then
        { delta := 0
          bias := adapt state.delta (state.handled + 1) (state.handled = basic)
          handled := state.handled + 1
          output := state.output ++ encodeDelta state.bias state.delta 36 }
      else state)
    state

/-- Goes through the code points beyond ASCII in ascending order. -/
def encodeFrom (text : List Nat) (basic previous : Nat) (state : State) : List Nat → List Char
  | [] => state.output
  | code :: rest =>
    let shifted := { state with delta := state.delta + (code - previous) * (state.handled + 1) }
    let inserted := insertAll code basic shifted text
    encodeFrom text basic (code + 1) { inserted with delta := inserted.delta + 1 } rest

/-- The ASCII form of a label, without its mark. -/
def encode (label : List Char) : List Char :=
  let text := label.map Char.toNat
  let basic := label.filter fun c => c.toNat < 0x80
  let others := ((text.filter (0x80 ≤ ·)).mergeSort (· ≤ ·)).eraseReps
  let start := if basic.isEmpty then [] else basic ++ ['-']
  encodeFrom text basic.length 0x80 ⟨0, 72, basic.length, start⟩ others

/-- Numbers of 32 bits, in which places are counted. -/
def placeBound : Nat := 1 <<< 32

/-- Reads the digits of a difference: the place it leads to from `place`, and the rest. -/
def takePlace (bias position weight place : Nat) : List Char → Option (Nat × List Char)
  | [] => none
  | c :: rest =>
    (digit? c).bind fun digit =>
      let place := place + digit * weight
      let least := threshold position bias
      if placeBound ≤ place then none
      else if digit < least then some (place, rest)
      else if placeBound ≤ weight * (36 - least) then none
      else takePlace bias (position + 36) (weight * (36 - least)) place rest

theorem takePlace_length {bias position weight start place : Nat} {text rest : List Char}
    (h : takePlace bias position weight start text = some (place, rest)) :
    rest.length < text.length := by
  induction text generalizing position weight start with
  | nil => simp [takePlace] at h
  | cons c more ih =>
    simp only [takePlace, Option.bind_eq_some_iff] at h
    obtain ⟨digit, -, h⟩ := h
    split at h
    · simp at h
    · split at h
      · simp only [Option.some.injEq, Prod.mk.injEq] at h
        obtain ⟨-, rfl⟩ := h
        simp
      · split at h
        · simp at h
        · have := ih h
          simp only [List.length_cons]
          omega

/-- Reads differences and inserts the code points they give. -/
def decodeFrom (output : List Char) (code index bias : Nat) (isFirst : Bool) (text : List Char) :
    Option (List Char) :=
  if text.isEmpty then some output
  else match h : takePlace bias 36 1 index text with
    | none => none
    | some (place, rest) =>
      let count := output.length + 1
      let next := code + place / count
      if next < 0x110000 ∧ ¬(0xD800 ≤ next ∧ next < 0xE000) then
        have := takePlace_length h
        decodeFrom (output.insertIdx (place % count) (Char.ofNat next)) next (place % count + 1)
          (adapt (place - index) count isFirst) false rest
      else none
termination_by text.length

/-- The label of an ASCII form without its mark. A hyphen at the very start ends no characters, and
so is no digit either. -/
def decode? (text : List Char) : Option (List Char) :=
  let reversed := text.reverse
  let basic := ((reversed.dropWhile (· ≠ '-')).drop 1).reverse
  let digits := if basic.isEmpty then text else (reversed.takeWhile (· ≠ '-')).reverse
  if basic.all (·.toNat < 0x80) then decodeFrom basic 0x80 0 72 true digits else none

end ControlPlane.Url.Punycode
