import ControlPlane.Json.Record
import ControlPlane.Text.Search
import ControlPlane.Url.Host

/-!
# Errors

One constructor for each way in which a call can fail, its wording, and the three questions that
callers ask of it: which HTTP status it carries, whether another attempt may succeed, and whether
the settings are to blame. `Error.ofResponse` turns an answer that is no success into an error.
-/

namespace ControlPlane

/-- Why a request had no answer. -/
inductive HttpFault where
  /-- The request cannot be formed; the URL is named if there is one. -/
  | unformed (url : Option String)
  /-- The request could not be sent, or no answer came. -/
  | unsent (url : String)
  /-- The answer's body is not what the caller needs. -/
  | undecodable
  deriving DecidableEq, Repr

def HttpFault.message : HttpFault → String
  | .unformed none => "builder error"
  | .unformed (some url) => "builder error for url (" ++ url ++ ")"
  | .unsent url => "error sending request for url (" ++ url ++ ")"
  | .undecodable => "error decoding response body"

inductive Error where
  | config (message : String)
  | missingField (field : String)
  | notConfigured (message : String)
  | profileNotFound (path profile : String)
  | corruptProfile (path profile field : String)
  | json (detail : String)
  | auth (message : String)
  | jwt (message : String)
  | oauth (message : String)
  | command (program message : String)
  | http (fault : HttpFault)
  /-- An answer that is no success, with its body. -/
  | status (code : Nat) (body : String)
  /-- An answer that is no success and says why. -/
  | api (code : Nat) (errorCode message : String)
  | connection (message : String)
  | timeout (millis : Nat)
  | invalidUrl (cause : Url.UrlError)
  | decode (message : String)
  | io (message : String)
  | other (message : String)
  /-- An error of another library, shown as it is. -/
  | wrapped (message : String)
  deriving DecidableEq, Repr

namespace Error

def message : Error → String
  | .config message => "Configuration error: " ++ message
  | .missingField field => "Missing required config field: " ++ field
  | .notConfigured message => message
  | .profileNotFound path profile => path ++ " has no " ++ profile ++ " profile configured"
  | .corruptProfile path profile field =>
    "config file " ++ path ++ " is corrupt: cannot find " ++ field ++ " in " ++ profile ++
      " profile"
  | .json detail => "Failed to parse JSON: " ++ detail
  | .auth message => "Authentication failed: " ++ message
  | .jwt message => "JWT generation failed: " ++ message
  | .oauth message => "OAuth2 error: " ++ message
  | .command program message => "Command \x60" ++ program ++ "\x60 failed: " ++ message
  | .http fault => "HTTP request failed: " ++ fault.message
  | .status code body => "HTTP " ++ toString code ++ ": " ++ body
  | .api _ errorCode message => errorCode ++ ": " ++ message
  | .connection message => "Connection error: " ++ message
  | .timeout millis => "Request timeout after " ++ toString millis ++ "ms"
  | .invalidUrl cause => "Invalid URL: " ++ cause.message
  | .decode message => "Failed to decode response: " ++ message
  | .io message => "IO error: " ++ message
  | .other message => message
  | .wrapped message => message

def status? : Error → Option Nat
  | .status code _ => some code
  | .api code _ _ => some code
  | _ => none

/-- The statuses that may pass by themselves. -/
def isRetryableStatus (code : Nat) : Bool :=
  code = 429 || code = 500 || code = 502 || code = 503 || code = 504

/-- What workspaces say for a while after they were created. -/
def transientMessages : List String := [
  "com.databricks.backend.manager.util.UnknownWorkerEnvironmentException",
  "does not have any associated worker environments",
  "There is no worker environment with id",
  "Unknown worker environment",
  "ClusterNotReadyException",
  "Timed out after ",
  "requests are being throttled"]

/-- Whether a text holds one of the transient messages. -/
def mentionsTransient (text : String) : Bool :=
  transientMessages.any fun needle => Text.occursIn needle.toList text.toList

/-- Whether a status and the text that came with it may pass by themselves. -/
def isTransient (code : Nat) (text : String) : Bool :=
  isRetryableStatus code || (code = 400 && mentionsTransient text)

/-- Whether another attempt may succeed. -/
def isRetryable : Error → Bool
  | .http (.unsent _) => true
  | .connection _ => true
  | .timeout _ => true
  | .status code body => isTransient code body
  | .api code _ message => isTransient code message
  | _ => false

/-- Whether incomplete or contradictory settings are to blame. -/
def isConfig : Error → Bool
  | .config _ | .missingField _ | .notConfigured _ | .profileNotFound _ _
  | .corruptProfile _ _ _ => true
  | _ => false

/-- An error with what was being done. -/
def inContext (context : String) (error : Error) : Error :=
  .other (context ++ ": " ++ error.message)

/-- The body of an answer that says why it is no success, in either of the two known shapes. -/
structure Body where
  errorCode : Option String := none
  message : Option String := none
  detail : Option String := none
  scimType : Option String := none
  deriving DecidableEq, Repr

open Json in
/-- An array must give all four fields. -/
def Body.schema : Schema Body where
  fields := [
    Field.of "error_code" (Decoder.optional Decoder.string) fun value body =>
      { body with errorCode := value },
    Field.of "message" (Decoder.optional Decoder.string) fun value body =>
      { body with message := value },
    Field.of "detail" (Decoder.optional Decoder.string) fun value body =>
      { body with detail := value },
    Field.of "scimType" (Decoder.optional Decoder.string) fun value body =>
      { body with scimType := value }]
  leastItems := 4

/-- The error of an answer that is no success. -/
def ofResponse (code : Nat) (octets : Bytes) : Error :=
  match (Body.schema.decoder {}).decode? octets with
  | some body =>
    match body.message <|> body.detail with
    | some message =>
      .api code ((body.errorCode <|> body.scimType).getD ("HTTP_" ++ toString code)) message
    | none => .status code (Bytes.lossy octets)
  | none => .status code (Bytes.lossy octets)

end Error

/-- How a computation ends short of a result: with an error that its caller sees, or because date
arithmetic left the calendar, which stops the program. -/
inductive Failure where
  | error (cause : Error)
  | outOfCalendar
  deriving DecidableEq, Repr

end ControlPlane
