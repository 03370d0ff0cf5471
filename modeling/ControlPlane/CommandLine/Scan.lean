import ControlPlane.CommandLine.Rule

/-!
# Reading arguments

Arguments are read from left to right at one level: before the command, or after it. An option's
value may be attached to it or be the next argument; the value of the latter kind is looked at only
when the next option comes or the level ends, so that another fault met before then counts first.
After `--` nothing is an option.
-/

namespace ControlPlane.CommandLine

/-- What may stand at a level. -/
structure Level where
  rules : List Rule
  /-- How many arguments there are besides options; all of them are required. -/
  arguments : Nat := 0
  /-- The names that start the next level. -/
  commands : List String := []

/-- What has been read at a level. -/
structure Scan where
  given : Given := {}
  /-- The options read, by name. -/
  seen : List String := []
  /-- The arguments read, in order. -/
  arguments : List String := []
  /-- The option read last, while its value is due or has not been looked at. -/
  pending : Option (Rule × Option String) := none

namespace Scan

def isDue (scan : Scan) : Bool :=
  match scan.pending with
  | some (_, none) => true
  | _ => false

def mark (scan : Scan) (rule : Rule) (set : Given → Given) : Scan :=
  { scan with given := set scan.given, seen := rule.long :: scan.seen }

def apply (scan : Scan) (rule : Rule) (value : Option String) : Except Usage Scan :=
  match rule.effect, value with
  | .stop usage, _ => .error usage
  | .value _, none => .error .invalidValue
  | .value read, some text =>
    if rule.long ∈ scan.seen then .error .repeatedOption
    else (read text).map (scan.mark rule)
  | .switch set, _ =>
    if rule.long ∈ scan.seen then .error .repeatedOption else .ok (scan.mark rule set)

/-- Looks at the option that has not been looked at, if there is one. -/
def settle (scan : Scan) : Except Usage Scan :=
  match scan.pending with
  | none => .ok scan
  | some (rule, value) => { scan with pending := none }.apply rule value

/-- Reads an option whose value, if it has one, is attached or due. -/
def option (scan : Scan) (rule : Rule) (attached : Option String) : Except Usage Scan := do
  let scan ← scan.settle
  match rule.effect, attached with
  | .value _, none => return { scan with pending := some (rule, none) }
  | _, value => scan.apply rule value

end Scan

namespace Level

def long? (level : Level) (name : String) : Option Rule :=
  level.rules.find? fun rule => rule.long = name

def short? (level : Level) (name : Char) : Option Rule :=
  level.rules.find? fun rule => rule.short = some name

def takesValue (rule : Rule) : Bool :=
  match rule.effect with
  | .value _ => true
  | _ => false

/-- Reads what follows two dashes. -/
def readLong (level : Level) (scan : Scan) (text : List Char) : Except Usage Scan :=
  let attached := (text.dropWhile (· ≠ '=')).tail?.map String.ofList
  match level.long? (String.ofList (text.takeWhile (· ≠ '='))) with
  | none => .error .unknownArgument
  | some rule =>
    if attached.isSome && !takesValue rule then .error .surplusValue else scan.option rule attached

/-- The value attached to a short option: an equals sign before it does not count. -/
def attachedValue : List Char → Option String
  | [] => none
  | '=' :: text => some (String.ofList text)
  | text => some (String.ofList text)

/-- Reads what follows one dash: short options without a value, and at the end one with a value. -/
def readShort (level : Level) (scan : Scan) : List Char → Except Usage Scan
  | [] => .ok scan
  | c :: rest =>
    match level.short? c with
    | none => .error .unknownArgument
    | some rule =>
      if takesValue rule then scan.option rule (attachedValue rest)
      else (scan.option rule none).bind fun scan => readShort level scan rest

/-- The fault of an argument for which there is no place. -/
def misplaced (level : Level) (isTrailing : Bool) (text : String) : Usage :=
  if level.commands.isEmpty || (isTrailing && level.commands.contains text) then .unknownArgument
  else .unknownCommand

/-- Reads an argument that is no option. -/
def readArgument (level : Level) (scan : Scan) (isTrailing : Bool) (text : String) :
    Except Usage Scan :=
  if scan.arguments.length < level.arguments then
    scan.settle.map fun scan => { scan with arguments := scan.arguments ++ [text] }
  else .error (level.misplaced isTrailing text)

/-- Reads one argument before any `--`. -/
def readNext (level : Level) (scan : Scan) (text : String) : Except Usage Scan :=
  match text.toList, scan.pending with
  | '-' :: '-' :: name, _ => level.readLong scan name
  | '-' :: c :: names, _ => level.readShort scan (c :: names)
  | _, some (rule, none) => .ok { scan with pending := some (rule, some text) }
  | _, _ => level.readArgument scan false text

/-- Reads arguments up to a command: what was read, and the command with what follows it. -/
def read (level : Level) (isTrailing : Bool) (scan : Scan) :
    List String → Except Usage (Scan × Option (String × List String))
  | [] => .ok (scan, none)
  | text :: rest =>
    if isTrailing then
      (level.readArgument scan true text).bind fun scan => read level true scan rest
    else if !scan.isDue && level.commands.contains text then .ok (scan, some (text, rest))
    else if text = "--" then read level true scan rest
    else (level.readNext scan text).bind fun scan => read level false scan rest

end Level

end ControlPlane.CommandLine
