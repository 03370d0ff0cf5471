import ControlPlane.Error
import ControlPlane.Http
import ControlPlane.Json.Printer
import ControlPlane.Json.Record
import ControlPlane.Journal
import ControlPlane.Wording

/-!
# Calls

A call has a method, a URL and, if it has one, a body in JSON. Calls that fetch or delete carry the
body in the query of the URL, all others carry it as it is. The answer is read as a value of the
type that the caller asks for, and an answer without content reads as `null`.
-/

namespace ControlPlane.Call

open Json

def jsonType : HeaderValue := ⟨"application/json", false⟩

/-- A value as text in a query. -/
def queryText : Value → String
  | .string text => text
  | value => value.compact

/-- The pairs of one member: none for `null`, and one for each item of an array. -/
def memberPairs (key : String) : Value → List (String × String)
  | .null => []
  | .array items => items.map fun item => (key, queryText item)
  | value => [(key, queryText value)]

/-- The pairs of a body: only an object has any, and only `null` may stand for none. -/
def queryPairs : Value → Except Error (List (String × String))
  | .null => .ok []
  | .object members => .ok (members.flatMap fun member => memberPairs member.1 member.2)
  | value => .error (.config ("query parameters must be an object, got " ++ value.compact))

def baseHeaders : HeaderMap :=
  HeaderMap.insert {} .accept jsonType

/-- The request of a call, not signed yet. -/
def request (method : Method) (url : Url) : Option Value → Except Error Request
  | none => .ok { method := method, url := url, headers := baseHeaders }
  | some body =>
    if method.takesQuery then
      (queryPairs body).map fun pairs =>
        { method := method
          url := if pairs.isEmpty then url else url.appendPairs pairs
          headers := baseHeaders }
    else
      .ok
        { method := method
          url := url
          headers := baseHeaders.insert .contentType jsonType
          body := .octets (Bytes.ofString body.compact) }

/-- What is read of an answer's body. -/
def content (body : Bytes) : Bytes :=
  if body.all Bytes.isSpace then Bytes.ofString "null" else body

/-- The value that an answer's body spells. -/
def read [Wording] {α : Type} (decoder : Decoder α) (truncation : Nat) (body : Bytes) :
    Except Error α :=
  match decoder.decode? (content body) with
  | some value => .ok value
  | none =>
    .error (.decode (Wording.json decoder (content body) ++ " in response body " ++
      Journal.truncate truncation (content body)))

end ControlPlane.Call
