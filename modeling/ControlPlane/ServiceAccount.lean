import ControlPlane.Home
import ControlPlane.Json.Printer
import ControlPlane.Json.Record
import ControlPlane.Key.Rsa
import ControlPlane.Wording

/-!
# Service account keys

The key of a service account is a JSON text, given as such or in a file. It signs assertions: three
parts in base 64, the last of which is the signature of the others.
-/

namespace ControlPlane

/-- The parts of a key file that count. -/
structure ServiceAccountKey where
  clientEmail : String
  privateKey : String
  /-- Where assertions are exchanged for tokens. -/
  tokenUri : Option String := none
  deriving DecidableEq, Repr

namespace ServiceAccountKey

open Json

variable [Wording]

/-- The fields of a key file while it is read. -/
structure Draft where
  clientEmail : Option String := none
  privateKey : Option String := none
  tokenUri : Option String := none

/-- An array must give the first two fields. -/
def Draft.schema : Schema Draft where
  fields := [
    Field.of "client_email" Decoder.string fun value draft =>
      { draft with clientEmail := some value },
    Field.of "private_key" Decoder.string fun value draft =>
      { draft with privateKey := some value },
    Field.of "token_uri" (Decoder.optional Decoder.string) fun value draft =>
      { draft with tokenUri := value }]
  leastItems := 2

/-- The key that a draft gives, once it has both required fields. -/
def Draft.key? (draft : Draft) : Option ServiceAccountKey :=
  match draft.clientEmail, draft.privateKey with
  | some email, some key => some ⟨email, key, draft.tokenUri⟩
  | _, _ => none

def decoder : Decoder ServiceAccountKey := fun tree =>
  (Draft.schema.decoder {} tree).bind Draft.key?

/-- The key that a JSON text writes. -/
def parse (text : String) : Except Error ServiceAccountKey :=
  match decoder.decode? (Bytes.ofString text) with
  | some key => .ok key
  | none => .error (.json (Wording.json decoder (Bytes.ofString text)))

/-- The key that a setting gives: the JSON text itself if it starts with a brace after blanks, else
the path of a file. -/
def load (credentials : String) : Program (Except Error ServiceAccountKey) := do
  let inline := Text.trimStart credentials.toList
  if inline.head? = some '\x7b' then
    return parse (String.ofList inline)
  match ← Home.expandPath credentials with
  | .error error => return .error error
  | .ok path =>
    match ← Program.readText path with
    | .ok text => return parse text
    | .error fault =>
      return .error (.config ("cannot read google_credentials " ++ path ++ ": " ++ fault.message))

/-- The debug text, which does not show the private key. -/
def debugText (key : ServiceAccountKey) : String :=
  Text.debugRecord "ServiceAccountKey" [
    ("client_email", Text.quoted key.clientEmail),
    ("private_key", Text.quoted "***"),
    ("token_uri", Text.debugOption Text.quoted key.tokenUri)] false

def defaultTokenUri : String := "https://oauth2.googleapis.com/token"

def effectiveTokenUri (key : ServiceAccountKey) : String :=
  match key.tokenUri with
  | some uri => if uri.isEmpty then defaultTokenUri else uri
  | none => defaultTokenUri

/-- How many seconds an assertion holds, and a token whose end is not stated. -/
def assertionSeconds : Int := 3600

def integerValue (n : Int) : Value :=
  .number (if 0 ≤ n then .natural n.toNat else .negative n.natAbs)

/-- What an assertion claims at a number of seconds since the start of 1970. -/
def claims (key : ServiceAccountKey) (now : Int) (claim value : String) : Value :=
  .object [
    ("iss", .string key.clientEmail),
    ("sub", .string key.clientEmail),
    ("aud", .string key.effectiveTokenUri),
    ("iat", integerValue now),
    ("exp", integerValue (now + assertionSeconds)),
    (claim, .string value)]

/-- What every assertion says of itself. -/
def assertionHeader : Value :=
  .object [("typ", .string "JWT"), ("alg", .string "RS256")]

def part (octets : Bytes) : String :=
  String.ofList (Base64.encode Base64.urlSafe octets)

/-- The assertion of one claim, signed, or why the key cannot sign. -/
def assertion (key : ServiceAccountKey) (now : Int) (claim value : String) : Except Error String :=
  match RsaKey.encodingOf? key.privateKey with
  | none => .error (.jwt ("Invalid private key: " ++ Wording.key key.privateKey))
  | some encoding =>
    match (RsaKey.ofDer? encoding).filter RsaKey.isSound with
    | none => .error (.jwt ("Failed to encode JWT: " ++ Wording.signing encoding))
    | some rsa =>
      let header := part (Bytes.ofString assertionHeader.compact)
      let body := part (Bytes.ofString (key.claims now claim value).compact)
      let signed := header ++ "." ++ body
      match rsa.sign? (Bytes.ofString signed) with
      | none => .error (.jwt ("Failed to encode JWT: " ++ Wording.signing encoding))
      | some signature => .ok (signed ++ "." ++ part signature)

end ServiceAccountKey

end ControlPlane
