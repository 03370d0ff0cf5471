import ControlPlane.Config
import ControlPlane.Profile.Reader

/-!
# Profile files

A profile file holds sections of pairs: `[name]` on a line starts one, `key = value` adds a pair to
the section it stands in, and `;` or `#` at the start of a line makes the line a comment. Pairs
before the first section belong to no profile by name, but to the default one. Of several sections
with one name the first counts, of several pairs with one key the last.
-/

namespace ControlPlane.Profile

/-- A section: its name, none before the first header, and its pairs. -/
structure Section where
  name : Option String
  pairs : List (String × String) := []
  deriving DecidableEq, Repr

structure File where
  sections : List Section
  deriving DecidableEq, Repr

/-- What has been read of a file: the sections, last first, and the key whose value is due. -/
structure State where
  sections : List Section := [⟨none, []⟩]
  key : List Char := []
  deriving DecidableEq, Repr

namespace State

def openSection (state : State) (name : List Char) : State :=
  { state with sections := ⟨some (String.ofList (Text.trim name)), []⟩ :: state.sections }

def withKey (state : State) (key : List Char) : State :=
  { state with key := Text.trim key }

/-- Adds a pair of the key that was kept. -/
def addValue (state : State) (value : List Char) : State :=
  match state.sections with
  | [] => state
  | current :: others =>
    let pair := (String.ofList state.key, String.ofList value)
    { sections := { current with pairs := current.pairs ++ [pair] } :: others, key := [] }

/-- The file, once everything is read. -/
def file (state : State) : File :=
  ⟨state.sections.reverse⟩

end State

def isSeparator (c : Char) : Bool :=
  c = '=' || c = ':'

/-- Reads one item that starts with `c`: what is known after it, and the place where it ends;
nothing if the file is broken there. The key of an indented line may fail to be one, by a bad escape
or without a separator up to the end of the text: what was read of it is passed over. -/
def readItem (state : State) (previous : Option Char) (c : Char) (rest : List Char) :
    Option (State × Cursor) :=
  if c = ';' ∨ c = '#' then
    if (Cursor.mk previous rest).isLineStart then
      some (state, (Cursor.skipWhile (· ≠ '\n') (some c) rest).next)
    else none
  else if c = '[' then
    match readUntil (· = ']') false (some c) rest with
    | .error _ => none
    | .ok (name, cursor) => some (state.openSection name, cursor.next)
  else if isSeparator c then
    if state.key.isEmpty then none
    else match readValue (some c) rest with
      | .error _ => none
      | .ok (value, cursor) => some (state.addValue value, cursor)
  else
    match readUntil isSeparator false previous (c :: rest) with
    | .ok (key, cursor) => some (state.withKey key, cursor)
    | .error cursor => if Cursor.isIndent c then some (state, cursor) else none

theorem readItem_length {state after : State} {previous : Option Char} {c : Char}
    {rest : List Char} {cursor : Cursor}
    (h : readItem state previous c rest = some (after, cursor)) :
    cursor.rest.length < (c :: rest).length := by
  unfold readItem at h
  split at h
  · split at h
    · simp only [Option.some.injEq, Prod.mk.injEq] at h
      obtain ⟨-, rfl⟩ := h
      have h1 := (Cursor.skipWhile (· ≠ '\n') (some c) rest).next_length
      have h2 := Cursor.skipWhile_length (· ≠ '\n') (some c) rest
      simp only [List.length_cons]
      omega
    · simp at h
  · split at h
    · have hread := readUntil_length (· = ']') false (some c) rest
      split at h
      · simp at h
      · next name place heq =>
        simp only [Option.some.injEq, Prod.mk.injEq] at h
        obtain ⟨-, rfl⟩ := h
        have := place.next_length
        rw [heq] at hread
        simp only [Reading.place, List.length_cons] at *
        omega
    · split at h
      · split at h
        · simp at h
        · have hread := readValue_length (some c) rest
          split at h
          · simp at h
          · next value place heq =>
            simp only [Option.some.injEq, Prod.mk.injEq] at h
            obtain ⟨-, rfl⟩ := h
            rw [heq] at hread
            simp only [Reading.place, List.length_cons] at *
            omega
      · next hseparator =>
        have hread := readUntil_length_lt (Bool.eq_false_iff.2 hseparator) false previous rest
        split at h
        · next key place heq =>
          simp only [Option.some.injEq, Prod.mk.injEq] at h
          obtain ⟨-, rfl⟩ := h
          rw [heq] at hread
          exact hread
        · next place heq =>
          split at h
          · simp only [Option.some.injEq, Prod.mk.injEq] at h
            obtain ⟨-, rfl⟩ := h
            rw [heq] at hread
            exact hread
          · simp at h

/-- Reads items up to the end of the text. -/
def readItems (state : State) (previous : Option Char) (text : List Char) : Option State :=
  match text with
  | [] => some state
  | c :: rest =>
    match h : readItem state previous c rest with
    | none => none
    | some (after, cursor) =>
      have : (Cursor.skipBlank cursor.previous cursor.rest).rest.length < rest.length + 1 :=
        Nat.lt_of_le_of_lt (Cursor.skipBlank_length cursor.previous cursor.rest) (readItem_length h)
      let place := Cursor.skipBlank cursor.previous cursor.rest
      readItems after place.previous place.rest
termination_by text.length

/-- The file that a text writes, unless it is broken. -/
def File.parse? (text : String) : Option File :=
  let place := Cursor.start text.toList
  (readItems {} place.previous place.rest).map State.file

namespace File

def pairsOf (file : File) (name : Option String) : List (String × String) :=
  ((file.sections.find? fun entry => entry.name = name).map Section.pairs).getD []

/-- The pairs of a profile; those before the first header come first in the default one. -/
def profile (file : File) (name : String) : List (String × String) :=
  (if name = defaultProfile then file.pairsOf none else []) ++ file.pairsOf (some name)

end File

/-- The value of a key: the last one given. -/
def valueOf (pairs : List (String × String)) (key : String) : Option String :=
  ((pairs.reverse.find? fun pair => pair.1 = key).map Prod.snd)

end ControlPlane.Profile
