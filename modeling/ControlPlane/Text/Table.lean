/-!
# Tables as text

Large tables are written as lines of text: commas between rows, spaces between the numbers of a row,
and numbers in base 16. Most tables give runs of code points a value.
-/

namespace ControlPlane.Text

/-- Cuts a list at each occurrence of a separator. -/
def splitOn {α : Type} [DecidableEq α] (separator : α) : List α → List (List α)
  | [] => [[]]
  | item :: rest =>
    if item = separator then [] :: splitOn separator rest
    else match splitOn separator rest with
      | [] => [[item]]
      | part :: parts => (item :: part) :: parts

theorem splitOn_ne_nil {α : Type} [DecidableEq α] (separator : α) (items : List α) :
    splitOn separator items ≠ [] := by
  cases items with
  | nil => simp [splitOn]
  | cons item rest =>
    unfold splitOn
    split
    · simp
    · split <;> simp

theorem splitOn_append {α : Type} [DecidableEq α] (separator : α) (front tail : List α) :
    splitOn separator (front ++ separator :: tail) =
      splitOn separator front ++ splitOn separator tail := by
  induction front with
  | nil => simp [splitOn]
  | cons item front ih =>
    obtain ⟨part, parts, hparts⟩ := List.exists_cons_of_ne_nil (splitOn_ne_nil separator front)
    rw [List.cons_append, splitOn, splitOn, ih, hparts]
    split <;> simp only [List.cons_append]

/-- The number that digits and small letters write in base 16. -/
def hexNumber (digits : List Char) : Nat :=
  digits.foldl (fun acc c => acc * 16 + (if c.toNat < 0x61 then c.toNat - 0x30 else c.toNat - 0x57))
    0

/-- The rows of a table. -/
def rows (lines : List String) : List (List Nat) :=
  lines.flatMap fun line =>
    (splitOn ',' line.toList).map fun row => (splitOn ' ' row).map hexNumber

/-- Code points from the first to the last that have one value. -/
structure Run where
  first : Nat
  last : Nat
  value : Nat
  deriving DecidableEq, Repr

/-- The runs of a table of first, last and value. -/
def runs (lines : List String) : List Run :=
  (rows lines).filterMap fun row =>
    match row with
    | [first, last, value] => some ⟨first, last, value⟩
    | _ => none

/-- The run that a code point lies in. -/
def runOf? (table : List Run) (code : Nat) : Option Run :=
  table.find? fun run => run.first ≤ code && code ≤ run.last

end ControlPlane.Text
