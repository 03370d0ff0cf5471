import ControlPlane.Json.Value

/-!
# Reading typed values

A `Decoder` reads a value of a known type from a tree. A `Schema` reads a record: from an object,
whose unknown members are skipped whatever they hold, or from an array of the fields in their order.
A field that is given twice is refused; one that is not given keeps the value it starts with.
-/

namespace ControlPlane.Json

/-- Reads a value of one type from a tree. -/
abbrev Decoder (α : Type) := Tree → Option α

namespace Decoder

def string : Decoder String
  | .string pieces => text? pieces
  | _ => none

def bool : Decoder Bool
  | .bool value => some value
  | _ => none

def unit : Decoder Unit
  | .null => some ()
  | _ => none

/-- An integer from zero to below `2 ^ bits`, written without fraction or power. -/
def natural (bits : Nat) : Decoder Nat
  | .number numeral =>
    match numeral.number? with
    | some (.natural value) => if value < 1 <<< bits then some value else none
    | _ => none
  | _ => none

/-- An integer of 64 bits with a sign. -/
def integer : Decoder Int
  | .number numeral =>
    match numeral.number? with
    | some (.natural value) => if value < 1 <<< 63 then some value else none
    | some (.negative value) => some (-value)
    | _ => none
  | _ => none

/-- A value, or `null` for none. -/
def optional {α : Type} (decoder : Decoder α) : Decoder (Option α)
  | .null => some none
  | tree => (decoder tree).map some

def list {α : Type} (decoder : Decoder α) : Decoder (List α)
  | .array items => items.mapM decoder
  | _ => none

def value : Decoder Value :=
  Value.ofTree? Value.maxDepth

/-- Reads a whole body. -/
def decode? {α : Type} (decoder : Decoder α) (octets : Bytes) : Option α :=
  (Tree.parse? octets).bind decoder

end Decoder

/-- One field of a record: its name and how it is read into the record. -/
structure Field (ρ : Type) where
  name : String
  read : Decoder (ρ → ρ)

/-- A field that holds what a decoder reads. -/
def Field.of {ρ α : Type} (name : String) (decoder : Decoder α) (set : α → ρ → ρ) : Field ρ where
  name := name
  read tree := (decoder tree).map set

/-- The fields of a record in their order, and how many of them an array must give. -/
structure Schema (ρ : Type) where
  fields : List (Field ρ)
  leastItems : Nat

namespace Schema

variable {ρ : Type}

def find? (schema : Schema ρ) (name : String) : Option (Field ρ) :=
  schema.fields.find? fun field => field.name = name

/-- Reads the members of an object into a record; `seen` holds the fields given so far. -/
def readMembers (schema : Schema ρ) (seen : List String) (record : ρ) :
    List (List Piece × Tree) → Option ρ
  | [] => some record
  | (pieces, tree) :: rest =>
    match text? pieces with
    | none => none
    | some key =>
      match schema.find? key with
      | none => readMembers schema seen record rest
      | some field =>
        if key ∈ seen then none
        else match field.read tree with
          | none => none
          | some set => readMembers schema (key :: seen) (set record) rest

/-- Reads the items of an array into the fields in their order. -/
def readItems (record : ρ) : List (Field ρ) → List Tree → Option ρ
  | _, [] => some record
  | [], _ :: _ => none
  | field :: fields, tree :: rest =>
    match field.read tree with
    | none => none
    | some set => readItems (set record) fields rest

/-- Reads a record that starts as `initial`. -/
def decoder (schema : Schema ρ) (initial : ρ) : Decoder ρ
  | .object members => schema.readMembers [] initial members
  | .array items =>
    if items.length < schema.leastItems then none else readItems initial schema.fields items
  | _ => none

end Schema

end ControlPlane.Json
