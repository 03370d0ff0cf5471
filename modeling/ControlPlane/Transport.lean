import ControlPlane.Config
import ControlPlane.Wire

/-!
# Transports

What a client needs to know to reach a server, and the transport that goes over the wire. An answer
that is no success is still an answer here; only a failure to get one is an error.
-/

namespace ControlPlane

def clientName : String := "dbx-client"

def clientVersion : String := "0.1.0"

/-- How long a connection may stay idle, for a general client. -/
def baseIdleTimeout : Span := Span.ofSeconds 90

/-- How long a handshake may take, for a general client. -/
def baseHandshakeTimeout : Span := Span.ofSeconds 10

/-- How many times longer both may take here: calls after a federated login often meet a workspace
that is still starting. -/
def timeoutFactor : Nat := 3

structure TransportConfig where
  timeout : Span := Span.ofSeconds defaultTimeoutSeconds
  idleTimeout : Span := ⟨baseIdleTimeout.nanos * timeoutFactor⟩
  connectTimeout : Span := ⟨baseHandshakeTimeout.nanos * timeoutFactor⟩
  insecureSkipVerify : Bool := false
  userAgent : String := clientName ++ "/" ++ clientVersion
  deriving DecidableEq, Repr

namespace TransportConfig

/-- What the settings of a client say about its transport. -/
def ofConfig (config : Config) : TransportConfig :=
  { timeout := Span.ofSeconds config.timeoutSeconds
    insecureSkipVerify := config.insecureSkipVerify }

/-- Whether a client can be built: its name has to be a header value. -/
def check (config : TransportConfig) : Except Error Unit :=
  match HeaderValue.ofText? config.userAgent with
  | some _ => .ok ()
  | none => .error (.http (.unformed none))

end TransportConfig

namespace Transport

/-- The error of an exchange that came to nothing. -/
def wireError (timeout : Span) : WireFault → Error
  | .failed fault => .http fault
  | .timedOut _ => .timeout timeout.millis

/-- One attempt over the wire, with a limit to its time. -/
def overWire (timeout : Span) (request : Request) : Program (Except Error Response) := do
  match ← sendOverWire request with
  | .error fault => return .error (wireError timeout fault)
  | .ok response =>
    Program.debug (request.method.text ++ " " ++ request.url.text ++ " -> " ++
      toString response.status)
    return .ok response

end Transport

end ControlPlane
