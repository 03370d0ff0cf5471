import ControlPlane.Error
import ControlPlane.Http
import ControlPlane.Text.Quoted

/-!
# Requests and answers in logs

Logs show a request or an answer on one line. A body is cut after a number of characters, and
headers, if they are shown at all, keep their secrets.
-/

namespace ControlPlane.Journal

/-- A body as text, cut after a number of characters; what is cut off is counted. -/
def truncate (most : Nat) (body : Bytes) : String :=
  let text := Bytes.lossyChars body
  if text.length ≤ most then String.ofList text
  else
    String.ofList (text.take most) ++ "... (" ++ toString (text.length - most) ++ " more chars)"

/-- What stands for a secret. -/
def redacted : String := "**REDACTED**"

/-- Whether headers of a name hold secrets. -/
def isSecret (name : HeaderName) : Bool :=
  name = .authorization ||
    ("x-databricks-".toList.isPrefixOf name.text.toList &&
      "-token".toList.isSuffixOf name.text.toList)

/-- A value as logs show it. -/
def shownValue (name : HeaderName) (value : HeaderValue) : String :=
  if isSecret name || value.isSensitive then redacted else value.text

def headersText (headers : HeaderMap) : String :=
  Text.debugList
    (fun field =>
      "(" ++ Text.quoted field.1.text ++ ", " ++ Text.quoted (shownValue field.1 field.2) ++ ")")
    headers.toList

/-- How much logs show. -/
structure Detail where
  /-- How many characters of a body. -/
  truncation : Nat
  /-- Whether headers. -/
  headers : Bool
  deriving DecidableEq, Repr

/-- What stands between the start of a line and the body. -/
def headersPart (detail : Detail) (headers : HeaderMap) : String :=
  if detail.headers then " " ++ headersText headers else ""

def requestLine (detail : Detail) (request : Request) : String :=
  "> " ++ request.method.text ++ " " ++ request.url.text ++ headersPart detail request.headers ++
    " " ++ truncate detail.truncation request.bodyOctets

def responseLine (detail : Detail) (response : Response) : String :=
  "< " ++ response.statusText ++ headersPart detail response.headers ++ " " ++
    truncate detail.truncation response.body

/-- The line of a request that had no answer. -/
def failureLine (error : Error) : String :=
  "< " ++ error.message

end ControlPlane.Journal
