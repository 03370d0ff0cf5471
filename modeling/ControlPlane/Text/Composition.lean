import ControlPlane.Text.Composition.Table
import ControlPlane.Text.Table

/-!
# Composition

A letter with marks may be written as one code point or as several. `Text.composed` gives the
canonical form: all that can come apart comes apart, marks are put into the order of their classes,
and what can be one code point is made one again. Syllables of the Korean alphabet follow a rule,
all else a table.
-/

namespace ControlPlane.Text

/-- Runs of code points whose combining class is not zero. -/
def combiningClasses : List Run :=
  runs combiningClassLines

/-- The combining class of a code point: marks of different classes do not touch each other. -/
def combiningClass (code : Nat) : Nat :=
  if code < 0x300 then 0 else ((runOf? combiningClasses code).map Run.value).getD 0

/-- A code point that two others make. -/
structure Composite where
  whole : Nat
  first : Nat
  second : Nat
  deriving DecidableEq, Repr

/-- Composites beyond Korean syllables. -/
def composites : List Composite :=
  (rows compositeLines).filterMap fun row =>
    match row with
    | [whole, first, second] => some ⟨whole, first, second⟩
    | _ => none

/-- The two code points that make a Korean syllable. -/
def syllableParts? (code : Nat) : Option (Nat × Nat) :=
  if 0xAC00 ≤ code ∧ code < 0xAC00 + 11172 then
    let index := code - 0xAC00
    if index % 28 = 0 then some (0x1100 + index / 588, 0x1161 + index % 588 / 28)
    else some (code - index % 28, 0x11A7 + index % 28)
  else none

/-- The Korean syllable of an initial and a vowel, or of an open syllable and a final. -/
def syllable? (first second : Nat) : Option Nat :=
  if 0x1100 ≤ first ∧ first < 0x1113 ∧ 0x1161 ≤ second ∧ second < 0x1176 then
    some (0xAC00 + ((first - 0x1100) * 21 + (second - 0x1161)) * 28)
  else if 0xAC00 ≤ first ∧ first < 0xAC00 + 11172 ∧ (first - 0xAC00) % 28 = 0 ∧
      0x11A8 ≤ second ∧ second < 0x11C3 then
    some (first + (second - 0x11A7))
  else none

def parts? (code : Nat) : Option (Nat × Nat) :=
  if code < 0xC0 then none
  else (syllableParts? code).or
    ((composites.find? (·.whole = code)).map fun entry => (entry.first, entry.second))

/-- The code point that two others make. -/
def whole? (first second : Nat) : Option Nat :=
  if second < 0x300 then none
  else (syllable? first second).or
    ((composites.find? fun entry => entry.first = first && entry.second = second).map (·.whole))

/-- A code point that comes apart, as deep as `depth` allows: its first part may do so again. -/
def decompose (depth code : Nat) : List Nat :=
  match depth, parts? code with
  | depth + 1, some (first, second) => decompose depth first ++ [second]
  | _, _ => [code]

/-- How often the first part of a code point comes apart at most. -/
def greatestDepth : Nat := 3

/-- Adds a code point to a text, last first: behind it come the marks before it of greater class. -/
def insertMark (code : Nat) : List Nat → List Nat
  | [] => [code]
  | last :: before =>
    if combiningClass code ≠ 0 ∧ combiningClass code < combiningClass last then
      last :: insertMark code before
    else code :: last :: before

/-- A text with the marks of each letter in the order of their classes. -/
def ordered (codes : List Nat) : List Nat :=
  (codes.foldl (fun done code => insertMark code done) []).reverse

/-- A text while it is composed: what is done, last first, the letter that may still grow, and its
marks, last first. -/
structure Composer where
  done : List Nat := []
  letter : Option Nat := none
  marks : List Nat := []
  deriving DecidableEq, Repr

namespace Composer

/-- Everything so far, last first. -/
def all (composer : Composer) : List Nat :=
  composer.marks ++ composer.letter.toList ++ composer.done

/-- Adds a code point: to the letter, unless a mark of no lesser class stands between, or else as a
mark or as the next letter. -/
def add (composer : Composer) (code : Nat) : Composer :=
  let isBlocked := composer.marks.head?.any fun last => combiningClass code ≤ combiningClass last
  match if isBlocked then none else composer.letter.bind (whole? · code) with
  | some whole => { composer with letter := some whole }
  | none =>
    if combiningClass code = 0 then { done := composer.all, letter := some code }
    else { composer with marks := code :: composer.marks }

end Composer

/-- The canonical form of a text. -/
def composed (codes : List Nat) : List Nat :=
  ((ordered (codes.flatMap (decompose greatestDepth))).foldl Composer.add {}).all.reverse

end ControlPlane.Text
