import ControlPlane.Json.Token

/-!
# The tree of a JSON text

`Tree.ofTokens?` is a machine with a stack of open containers, so nesting has no limit of its own.
A tree still holds numbers and strings as written; `Json.Value` and the record readers interpret
them.
-/

namespace ControlPlane.Json

inductive Tree where
  | null
  | bool (value : Bool)
  | number (numeral : Numeral)
  | string (pieces : List Piece)
  | array (items : List Tree)
  | object (members : List (List Piece × Tree))

namespace Tree

/-- A container that is still open, with what it holds so far, last first. -/
inductive Frame where
  | items (reversed : List Tree)
  | members (reversed : List (List Piece × Tree)) (key : List Piece)

/-- What may come next. -/
inductive State where
  /-- A value. -/
  | value (stack : List Frame)
  /-- A value, or the end of an array that is still empty. -/
  | firstItem (stack : List Frame)
  /-- A key, or the end of an object that is still empty. -/
  | firstKey (stack : List Frame)
  /-- A key, after a comma. -/
  | key (reversed : List (List Piece × Tree)) (stack : List Frame)
  /-- The colon after a key. -/
  | colon (reversed : List (List Piece × Tree)) (key : List Piece) (stack : List Frame)
  /-- A comma or the end of the innermost container, after a value in it. -/
  | next (frame : Frame) (stack : List Frame)
  /-- Nothing. -/
  | complete (tree : Tree)

/-- A value is complete: it goes into the innermost container. -/
def deliver (tree : Tree) : List Frame → State
  | [] => .complete tree
  | .items reversed :: stack => .next (.items (tree :: reversed)) stack
  | .members reversed key :: stack => .next (.members ((key, tree) :: reversed) key) stack

/-- A token where a value is due. -/
def stepValue (stack : List Frame) : Token → Option State
  | .null => some (deliver .null stack)
  | .bool value => some (deliver (.bool value) stack)
  | .number numeral => some (deliver (.number numeral) stack)
  | .string pieces => some (deliver (.string pieces) stack)
  | .openArray => some (.firstItem stack)
  | .openObject => some (.firstKey stack)
  | _ => none

def step : State → Token → Option State
  | .value stack, token => stepValue stack token
  | .firstItem stack, .closeArray => some (deliver (.array []) stack)
  | .firstItem stack, token => stepValue (.items [] :: stack) token
  | .firstKey stack, .closeObject => some (deliver (.object []) stack)
  | .firstKey stack, .string key => some (.colon [] key stack)
  | .key reversed stack, .string key => some (.colon reversed key stack)
  | .colon reversed key stack, .colon => some (.value (.members reversed key :: stack))
  | .next (.items reversed) stack, .comma => some (.value (.items reversed :: stack))
  | .next (.items reversed) stack, .closeArray => some (deliver (.array reversed.reverse) stack)
  | .next (.members reversed _) stack, .comma => some (.key reversed stack)
  | .next (.members reversed _) stack, .closeObject =>
    some (deliver (.object reversed.reverse) stack)
  | _, _ => none

/-- The one value that the tokens spell. -/
def ofTokens? (tokens : List Token) : Option Tree :=
  match tokens.foldlM step (.value []) with
  | some (.complete tree) => some tree
  | _ => none

def parse? (octets : Bytes) : Option Tree :=
  (tokens? octets).bind ofTokens?

end Tree

/-- The octets of a code point in UTF-8. -/
def utf8 (code : Nat) : Bytes :=
  String.utf8EncodeChar (Char.ofNat code)

/-- The octets of a string. The code units of an escaped surrogate pair stand side by side; one
without the other has no text. -/
def octets? : List Piece → Option Bytes
  | [] => some []
  | .octet value :: rest => (octets? rest).map (value :: ·)
  | .unit high :: .unit low :: rest =>
    if 0xD800 ≤ high ∧ high < 0xDC00 then
      if 0xDC00 ≤ low ∧ low < 0xE000 then
        (octets? rest).map (utf8 (0x10000 + (high - 0xD800) * 0x400 + (low - 0xDC00)) ++ ·)
      else none
    else if 0xDC00 ≤ high ∧ high < 0xE000 then none
    else (octets? (.unit low :: rest)).map (utf8 high ++ ·)
  | .unit code :: rest =>
    if 0xD800 ≤ code ∧ code < 0xE000 then none
    else (octets? rest).map (utf8 code ++ ·)

/-- The text of a string, if its octets are UTF-8. -/
def text? (pieces : List Piece) : Option String :=
  (octets? pieces).bind Bytes.decode?

end ControlPlane.Json
