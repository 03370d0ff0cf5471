import ControlPlane.Text.Ranges

/-!
# Quoted text

The form in which debug texts show a string: between double quotes, on one line, with every
character that has no visible form of its own written as an escape.
-/

namespace ControlPlane.Text

/-- Lower case hexadecimal digits, without leading zeros. -/
def hexDigits (n : Nat) : List Char :=
  Nat.toDigits 16 n

/-- Whether a character has a visible form of its own. -/
def isPlain (c : Char) : Bool :=
  (0x20 ≤ c.toNat && c.toNat < 0x7F) ||
    (0x7F ≤ c.toNat && !inRanges unprintableRanges c.toNat &&
      !inRanges graphemeExtendRanges c.toNat && !isFiller c.toNat)

/-- One character inside quotes. -/
def quotedChar (c : Char) : List Char :=
  if c = '\u0000' then ['\\', '0']
  else if c = '\t' then ['\\', 't']
  else if c = '\n' then ['\\', 'n']
  else if c = '\r' then ['\\', 'r']
  else if c = '"' then ['\\', '"']
  else if c = '\\' then ['\\', '\\']
  else if isPlain c then [c]
  else '\\' :: 'u' :: Char.ofNat 0x7B :: hexDigits c.toNat ++ [Char.ofNat 0x7D]

/-- A text between double quotes. -/
def quoted (text : String) : String :=
  String.ofList ('"' :: text.toList.flatMap quotedChar ++ ['"'])

/-- The debug form of a value that may be absent. -/
def debugOption {α : Type} (render : α → String) : Option α → String
  | none => "None"
  | some value => "Some(" ++ render value ++ ")"

/-- The debug form of a list. -/
def debugList {α : Type} (render : α → String) (items : List α) : String :=
  "[" ++ ", ".intercalate (items.map render) ++ "]"

/-- The debug form of a record, whose hidden fields, if any, are written as two dots. -/
def debugRecord (name : String) (fields : List (String × String)) (hidden : Bool) : String :=
  let shown := fields.map fun field => field.1 ++ ": " ++ field.2
  let all := if hidden then shown ++ [".."] else shown
  name ++ " \x7b " ++ ", ".intercalate all ++ " \x7d"

end ControlPlane.Text
