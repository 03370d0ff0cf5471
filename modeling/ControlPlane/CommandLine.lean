import ControlPlane.Client
import ControlPlane.CommandLine.Scan
import ControlPlane.ConfigFile

/-!
# The command line

Three commands: show how authentication comes out, fetch a path, and send any request. A
`CommandLine` is what the arguments and the environment ask for, and `CommandLine.run` does it.
-/

namespace ControlPlane

/-- What is to be done. -/
inductive Command where
  /-- Authenticate and say how. -/
  | auth
  /-- Fetch a path, with a query that is a JSON text. -/
  | get (path : String) (query : Option String)
  /-- Send a request, with a body that is a JSON text. -/
  | request (method path : String) (body : Option String)
  deriving DecidableEq, Repr

structure CommandLine where
  config : Option String := none
  overrides : Overrides := {}
  format : CommandLine.Format := .pretty
  verbose : Bool := false
  command : Command
  deriving DecidableEq, Repr

namespace CommandLine

def outerLevel : Level where
  rules := commonRules ++ [versionRule]
  commands := ["auth", "get", "request", "help"]

def innerLevel (command : String) : Level :=
  if command = "get" then { rules := commonRules ++ [payloadRule "query"], arguments := 1 }
  else if command = "request" then { rules := commonRules ++ [payloadRule "body"], arguments := 2 }
  else { rules := commonRules }

/-- What comes of asking for help about commands. -/
def helpAbout : List String → Usage
  | [] => .help
  | [command] => if outerLevel.commands.contains command then .help else .unknownCommand
  | _ => .unknownCommand

/-- The command of a name with its arguments. -/
def commandOf (name : String) (arguments : List String) (payload : Option String) :
    Except Usage Command :=
  if name = "get" then
    match arguments with
    | [path] => .ok (.get path payload)
    | _ => .error .missingArgument
  else if name = "request" then
    match arguments with
    | [method, path] => .ok (.request method path payload)
    | _ => .error .missingArgument
  else .ok .auth

/-- What no command asks for: help, unless options or the environment say something. -/
def withoutCommand (scan : Scan) (environment : Given) : Usage :=
  if scan.seen.isEmpty && environment = {} then .helpInstead else .missingCommand

/-- What arguments and the environment ask for. What is said after the command counts before what is
said in front of it, and both before the environment. -/
def parse (environment : String → Option String) (arguments : List String) :
    Except Usage CommandLine := do
  let defaults := Given.ofEnvironment environment
  let (outer, found) ← outerLevel.read false {} arguments
  match found with
  | none => throw (withoutCommand (← outer.settle) defaults)
  | some ("help", rest) => throw (helpAbout rest)
  | some (name, rest) =>
    let (inner, _) ← (innerLevel name).read false {} rest
    let inner ← inner.settle
    let command ← commandOf name inner.arguments inner.given.payload
    let outer ← outer.settle
    let given := (inner.given.orElse outer.given).orElse defaults
    return {
      config := given.config
      overrides := given.overrides
      format := given.format.getD .pretty
      verbose := given.verbose
      command := command }

/-- The settings: those of the file, if one is named, and then what the command line says. -/
def clientConfig [Wording] (line : CommandLine) : Program (Except Error Config) := do
  match line.config with
  | none => return .ok (line.overrides.apply {})
  | some path =>
    match ← Config.load path with
    | .ok config => return .ok (line.overrides.apply config)
    | .error error => return .error (error.inContext ("loading --config " ++ path))

open Json

variable [Wording]

/-- A value as it is printed, with the end of its line. -/
def render (format : Format) (value : Value) : String :=
  match format with
  | .compact => value.compact ++ "\n"
  | .pretty => value.pretty ++ "\n"

def authReport (resolved : Resolved) (cloud : Cloud) : Value :=
  .object [
    ("auth", .object [
      ("authenticator", .string resolved.authenticator),
      ("cloud", .string cloud.text),
      ("host", .string resolved.host),
      ("kind", .string resolved.signer.kind.jsonName)]),
    ("type", .string "AUTH")]

/-- The value of a JSON text that goes with a request. -/
def readPayload (what : String) : Option String → Except Error (Option Value)
  | none => .ok none
  | some text =>
    match Value.parse? (Bytes.ofString text) with
    | some value => .ok (some value)
    | none =>
      let words := Wording.json Decoder.value (Bytes.ofString text)
      .error (.config ("Invalid " ++ what ++ " JSON: " ++ words))

/-- A character in upper case, as far as the result can be part of a method. -/
def upperChar (c : Char) : List Char :=
  let special : List (Nat × String) :=
    [(0xDF, "SS"), (0x131, "I"), (0x17F, "S"), (0xFB00, "FF"), (0xFB01, "FI"), (0xFB02, "FL"),
     (0xFB03, "FFI"), (0xFB04, "FFL"), (0xFB05, "ST"), (0xFB06, "ST")]
  match special.lookup c.toNat with
  | some text => text.toList
  | none => [c.toUpper]

/-- The method that a text names, without regard to case. -/
def readMethod (text : String) : Except Error Method :=
  match Method.ofText? (String.ofList (text.toList.flatMap upperChar)) with
  | some method => .ok method
  | none => .error (.config ("invalid HTTP method " ++ text ++ ": invalid HTTP method"))

def sendCall (client : Client) (method : Method) (path : String) (body : Option Value) :
    Program (Except Failure Value) := do
  let (_, outcome) ← client.send method path body Decoder.value
  return outcome

def perform (client : Client) : Command → Program (Except Failure Value)
  | .auth => do
    let (client, outcome) ← client.authenticate
    return outcome.map fun resolved => authReport resolved client.session.cloud
  | .get path query =>
    match readPayload "query" query with
    | .error error => return .error (.error error)
    | .ok query => sendCall client .get path query
  | .request method path body =>
    match readMethod method, readPayload "body" body with
    | .error error, _ => return .error (.error error)
    | _, .error error => return .error (.error error)
    | .ok method, .ok body => sendCall client method path body

/-- Does what a command line asks for, and gives what is to be printed. -/
def run (line : CommandLine) : Program (Except Failure String) := do
  match ← line.clientConfig with
  | .error error => return .error (.error error)
  | .ok config =>
    let client := Client.standard config
    let outcome ← client.overWire (perform client line.command)
    return outcome.map (render line.format)

end CommandLine

end ControlPlane
