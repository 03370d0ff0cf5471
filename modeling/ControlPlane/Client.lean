import ControlPlane.Call
import ControlPlane.RateLimit
import ControlPlane.Retry
import ControlPlane.Session
import ControlPlane.Transport

/-!
# Clients

A client sends calls: it authenticates once, draws a permit, forms and signs the request, sends it
with retries and reads the answer. A call that fails before its request is signed sends nothing.
-/

namespace ControlPlane

structure Client where
  session : Session
  retry : RetryPolicy
  limit : RateLimit
  /-- How long one attempt over the wire may take. -/
  timeout : Span
  /-- How much logs show. -/
  detail : Journal.Detail

namespace Client

variable [Wording]

def ofConfig (config : Config) (chain : List Authenticator) (retry : RetryPolicy)
    (limit : RateLimit) : Client :=
  { session := Session.start config chain
    retry := retry
    limit := limit
    timeout := (TransportConfig.ofConfig config).timeout
    detail := ⟨config.debugTruncateBytes, config.debugHeaders⟩ }

/-- A client with the given settings and all else as usual. -/
def standard (config : Config) : Client :=
  ofConfig config Authenticator.standardChain .standard ⟨config.rateLimit, 1⟩

/-- The result of authentication, found now unless it is known. -/
def authenticate (client : Client) : Program (Client × Except Failure Resolved) := do
  let (session, outcome) ← client.session.authenticate
  return ({ client with session := session }, outcome)

/-- The request of a call to a host, not signed yet. -/
def prepare (host : String) (method : Method) (path : String) (body : Option Json.Value) :
    Except Error Request :=
  match Url.parse (Workspace.formatUrl host [path]) with
  | .error cause => .error (.invalidUrl cause)
  | .ok url => Call.request method url body

/-- Sends a signed request with retries, one attempt at a time. -/
def exchange (client : Client) (request : Request) : Program (Except Error Response) := do
  Program.debug (Journal.requestLine client.detail request)
  match ← client.retry.execute Program.attempt request with
  | .error error =>
    Program.debug (Journal.failureLine error)
    return .error error
  | .ok response =>
    Program.debug (Journal.responseLine client.detail response)
    return .ok response

/-- Signs the request of a call and sends it. -/
def signAndExchange (client : Client) (resolved : Resolved) (request : Request) :
    Program (Client × Except Failure Response) := do
  let (signer, signed) ← resolved.signer.sign request.headers
  let client := { client with session := client.session.withSigner signer }
  match signed.outcome with
  | .error failure => return (client, .error failure)
  | .ok () =>
    let answer ← client.exchange { request with headers := signed.headers }
    return (client, answer.mapError .error)

/-- Sends a call and reads its answer. -/
def send {α : Type} (client : Client) (method : Method) (path : String) (body : Option Json.Value)
    (decoder : Json.Decoder α) : Program (Client × Except Failure α) := do
  let (client, outcome) ← client.authenticate
  match outcome with
  | .error failure => return (client, .error failure)
  | .ok resolved =>
    Program.permit
    match prepare resolved.host method path body with
    | .error error => return (client, .error (.error error))
    | .ok request =>
      let (client, answer) ← client.signAndExchange resolved request
      return (client, answer.bind fun response =>
        (Call.read decoder client.detail.truncation response.body).mapError .error)

/-- Makes the attempts of a client's program over the wire. -/
def overWire {α : Type} (client : Client) (program : Program α) : Program α :=
  program.attemptBy (Transport.overWire client.timeout)

/-- Joins the host, as well as it is known, with the segments of a path. -/
def formatUrl (client : Client) (segments : List String) : String :=
  Workspace.formatUrl (client.session.host.getD "") segments

def debugText (client : Client) : String :=
  Text.debugRecord "ApiClient" [
    ("state", client.session.debugText),
    ("limiter", client.limit.debugText),
    ("retry", client.retry.debugText)] true

end Client

end ControlPlane
