import ControlPlane.Json.Token
import ControlPlane.Text.Blank

/-!
# Reading profile text

The small readers from which profile files are read: a place in a text, the text up to a mark with
escapes undone, and values, parts of which may be quoted and then keep their blanks.
-/

namespace ControlPlane.Profile

/-- A place in a text: the character before it, and what follows. -/
structure Cursor where
  previous : Option Char
  rest : List Char
  deriving DecidableEq, Repr

namespace Cursor

/-- The place after the next character. -/
def next (cursor : Cursor) : Cursor :=
  match cursor.rest with
  | [] => cursor
  | c :: rest => ⟨some c, rest⟩

def isLineStart (cursor : Cursor) : Bool :=
  cursor.previous = none || cursor.previous = some '\n'

/-- Skips the characters that satisfy a test. -/
def skipWhile (test : Char → Bool) (previous : Option Char) : List Char → Cursor
  | [] => ⟨previous, []⟩
  | c :: rest => if test c then skipWhile test (some c) rest else ⟨previous, c :: rest⟩

def isIndent (c : Char) : Bool :=
  c = ' ' || c = '\t'

/-- Whether a line starts with spaces or tabs, and then neither ends nor opens a section. -/
def isIndented (line : List Char) : Bool :=
  let content := line.dropWhile isIndent
  content.length < line.length &&
    match content with
    | [] => false
    | c :: _ => c ≠ '\n' && c ≠ '\r' && c ≠ '['

/-- Skips blanks, but stays before an indented line. -/
def skipBlank (previous : Option Char) : List Char → Cursor
  | [] => ⟨previous, []⟩
  | c :: rest =>
    if c = '\n' ∨ c = '\r' then
      if isIndented rest then ⟨some c, rest⟩ else skipBlank (some c) rest
    else if Text.isBlank c then skipBlank (some c) rest
    else ⟨previous, c :: rest⟩

/-- The place of the first item of a text. One line end is passed over together with the blanks
after it; an indented line stays, and so does every other blank than a space or a tab. -/
def start (text : List Char) : Cursor :=
  match text with
  | [] => ⟨none, []⟩
  | c :: rest =>
    if c = '\n' ∨ c = '\r' then skipBlank (some c) rest
    else if isIndent c ∧ !isIndented text then skipBlank none text
    else ⟨none, text⟩

theorem skipWhile_length (test : Char → Bool) (previous : Option Char) (text : List Char) :
    (skipWhile test previous text).rest.length ≤ text.length := by
  induction text generalizing previous with
  | nil => simp [skipWhile]
  | cons c rest ih =>
    unfold skipWhile
    split
    · have := ih (some c)
      simp only [List.length_cons]
      omega
    · simp

theorem skipBlank_length (previous : Option Char) (text : List Char) :
    (skipBlank previous text).rest.length ≤ text.length := by
  induction text generalizing previous with
  | nil => simp [skipBlank]
  | cons c rest ih =>
    have := ih (some c)
    unfold skipBlank
    split
    · split
      · simp
      · simp only [List.length_cons]
        omega
    · split
      · simp only [List.length_cons]
        omega
      · simp

end Cursor

/-- The character of an escape without digits; the end of a line stands for nothing. -/
def escaped (letter : Char) : List Char :=
  if letter = '0' then ['\x00']
  else if letter = 'a' then ['\x07']
  else if letter = 'b' then ['\x08']
  else if letter = 't' then ['\t']
  else if letter = 'r' then ['\r']
  else if letter = 'n' then ['\n']
  else if letter = '\n' then []
  else [letter]

def hexDigit? (c : Char) : Option Nat :=
  if c.toNat < 0x80 then Json.hexDigit? (UInt8.ofNat c.toNat) else none

/-- The number of hexadecimal digits after an optional plus sign. -/
def hexNumber? (digits : List Char) : Option Nat :=
  let unsigned := match digits with
    | '+' :: rest => rest
    | rest => rest
  (unsigned.mapM hexDigit?).map fun values => values.foldl (fun acc d => acc * 16 + d) 0

/-- The character of a code point written with four digits. -/
def charOf? (a b c d : Char) : Option Char :=
  (hexNumber? [a, b, c, d]).bind fun code =>
    if code < 0xD800 ∨ 0xE000 ≤ code then some (Char.ofNat code) else none

/-- A text that was read and the place after it, or the place where reading failed. -/
abbrev Reading := Except Cursor (List Char × Cursor)

namespace Reading

/-- The place where reading ended, one way or the other. -/
def place : Reading → Cursor
  | .ok (_, cursor) => cursor
  | .error cursor => cursor

/-- Puts text before what was read. -/
def prepend (start : List Char) : Reading → Reading
  | .ok (text, cursor) => .ok (start ++ text, cursor)
  | .error cursor => .error cursor

@[simp]
theorem place_prepend (start : List Char) (reading : Reading) :
    (reading.prepend start).place = reading.place := by
  cases reading <;> rfl

end Reading

/-- The place where the digits of an escape turn out to be no character: before the last of them, or
before the character that follows a backslash among them. `left` digits come after the next. -/
def badDigitPlace (left : Nat) (previous : Option Char) (text : List Char) : Cursor :=
  match text with
  | [] => ⟨previous, []⟩
  | c :: rest =>
    if c = '\\' then
      match left, rest with
      | left + 1, '\n' :: more => badDigitPlace left (some '\n') more
      | _, rest => ⟨some c, rest⟩
    else match left with
      | 0 => ⟨previous, c :: rest⟩
      | left + 1 => badDigitPlace left (some c) rest

/-- Reads an escape after its backslash. -/
def takeEscape : List Char → Reading
  | [] => .error ⟨some '\\', []⟩
  | letter :: more =>
    if letter = 'x' then
      match more with
      | a :: b :: c :: d :: after =>
        match charOf? a b c d with
        | some char => .ok ([char], ⟨some d, after⟩)
        | none => .error (badDigitPlace 3 (some letter) more)
      | _ => .error (badDigitPlace 3 (some letter) more)
    else .ok (escaped letter, ⟨some letter, more⟩)

theorem badDigitPlace_length (left : Nat) (previous : Option Char) (text : List Char) :
    (badDigitPlace left previous text).rest.length ≤ text.length := by
  fun_induction badDigitPlace left previous text <;>
    simp_all only [List.length_cons, List.length_nil, Nat.le_refl] <;> omega

theorem takeEscape_length (text : List Char) :
    (takeEscape text).place.rest.length ≤ text.length := by
  fun_cases takeEscape text with
  | case3 a b c d after =>
    have := badDigitPlace_length 3 (some 'x') (a :: b :: c :: d :: after)
    simp only [Reading.place, List.length_cons] at *
    omega
  | case4 more =>
    have := badDigitPlace_length 3 (some 'x') more
    simp only [Reading.place, List.length_cons]
    omega
  | _ =>
    simp only [Reading.place, List.length_cons, List.length_nil]
    omega

/-- Reads up to a character that satisfies a test, or to the end of the text if that is allowed,
with escapes undone. -/
def readUntil (stop : Char → Bool) (endStops : Bool) (previous : Option Char) (text : List Char) :
    Reading :=
  match text with
  | [] => if endStops then .ok ([], ⟨previous, []⟩) else .error ⟨previous, []⟩
  | c :: rest =>
    if stop c then .ok ([], ⟨previous, c :: rest⟩)
    else if c = '\\' then
      if rest.isEmpty && endStops then .ok ([c], ⟨some c, []⟩)
      else match h : takeEscape rest with
        | .error cursor => .error cursor
        | .ok (chars, cursor) =>
          have hlength := takeEscape_length rest
          have : cursor.rest.length ≤ rest.length := by simpa [h, Reading.place] using hlength
          (readUntil stop endStops cursor.previous cursor.rest).prepend chars
    else (readUntil stop endStops (some c) rest).prepend [c]
termination_by text.length

theorem readUntil_length (stop : Char → Bool) (endStops : Bool) (previous : Option Char)
    (text : List Char) :
    (readUntil stop endStops previous text).place.rest.length ≤ text.length := by
  fun_induction readUntil stop endStops previous text with
  | case5 previous rest _ cursor h _ =>
    have hlength := takeEscape_length rest
    rw [h] at hlength
    simp only [Reading.place, List.length_cons] at *
    omega
  | case6 previous rest _ _ chars cursor h hlength hle ih =>
    simp only [Reading.place_prepend, List.length_cons]
    omega
  | case7 previous c rest _ _ ih =>
    simp only [Reading.place_prepend, List.length_cons]
    omega
  | _ => simp [Reading.place]

/-- Reading a text that does not start with a mark goes on by at least one character. -/
theorem readUntil_length_lt {stop : Char → Bool} {c : Char} (hstop : stop c = false)
    (endStops : Bool) (previous : Option Char) (rest : List Char) :
    (readUntil stop endStops previous (c :: rest)).place.rest.length < (c :: rest).length := by
  rw [readUntil]
  simp only [hstop, Bool.false_eq_true, if_false, List.length_cons]
  split
  · split
    · simp [Reading.place]
    · have hescape := takeEscape_length rest
      split
      · next cursor h =>
        simp only [h, Reading.place] at *
        omega
      · next chars cursor h =>
        have := readUntil_length stop endStops cursor.previous cursor.rest
        simp only [h, Reading.place_prepend] at *
        simp only [Reading.place] at hescape
        omega
  · have := readUntil_length stop endStops (some c) rest
    simp only [Reading.place_prepend]
    omega

def isLineEnd (c : Char) : Bool :=
  c = '\n' || c = '\r'

def isInlineBlank (c : Char) : Bool :=
  Text.isBlank c && !isLineEnd c

/-- A quotation mark, of which the same one closes. -/
def isQuote (c : Char) : Bool :=
  c = '"' || c.toNat = 0x27

theorem Cursor.next_length (cursor : Cursor) : cursor.next.rest.length ≤ cursor.rest.length := by
  unfold Cursor.next
  split <;> simp_all

/-- Reads the parts of a value: any number of quoted ones, which may go over several lines, and then
the rest of the line. Blanks at the start count only after a quoted part. -/
def readParts (isFirst : Bool) (previous : Option Char) (text : List Char) : Reading :=
  match text with
  | [] => .ok ([], ⟨previous, []⟩)
  | c :: rest =>
    if isQuote c then
      match h : readUntil (· = c) false (some c) rest with
      | .error cursor => .error cursor
      | .ok (quoted, cursor) =>
        have hlength := readUntil_length (· = c) false (some c) rest
        have : cursor.next.rest.length ≤ rest.length := by
          have := cursor.next_length
          simp only [h, Reading.place] at hlength
          omega
        (readParts false cursor.next.previous cursor.next.rest).prepend quoted
    else
      match readUntil isLineEnd true previous (c :: rest) with
      | .error cursor => .error cursor
      | .ok (line, cursor) => .ok (if isFirst then Text.trim line else Text.trimEnd line, cursor)
termination_by text.length

theorem readParts_length (isFirst : Bool) (previous : Option Char) (text : List Char) :
    (readParts isFirst previous text).place.rest.length ≤ text.length := by
  fun_induction readParts isFirst previous text with
  | case1 => simp [Reading.place]
  | case2 _ _ c rest _ cursor h =>
    have := readUntil_length (· = c) false (some c) rest
    simp only [h, Reading.place, List.length_cons] at *
    omega
  | case3 _ _ c rest _ quoted cursor h _ _ ih =>
    simp only [Reading.place_prepend, List.length_cons]
    omega
  | case4 _ previous c rest _ cursor h =>
    have := readUntil_length isLineEnd true previous (c :: rest)
    simpa only [h, Reading.place] using this
  | case5 _ previous c rest _ line cursor h =>
    have := readUntil_length isLineEnd true previous (c :: rest)
    simpa only [h, Reading.place] using this

/-- Reads a value after its separator. -/
def readValue (previous : Option Char) (text : List Char) : Reading :=
  let cursor := Cursor.skipWhile isInlineBlank previous text
  readParts true cursor.previous cursor.rest

theorem readValue_length (previous : Option Char) (text : List Char) :
    (readValue previous text).place.rest.length ≤ text.length := by
  have h1 := Cursor.skipWhile_length isInlineBlank previous text
  have h2 := readParts_length true (Cursor.skipWhile isInlineBlank previous text).previous
    (Cursor.skipWhile isInlineBlank previous text).rest
  unfold readValue
  simp only
  omega

end ControlPlane.Profile
