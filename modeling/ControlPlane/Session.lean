import ControlPlane.Authenticator
import ControlPlane.Workspace

/-!
# Sessions

A session holds the settings of a client and, once authentication went through, its result: the
host, the authenticator that found the credential, and the signer. The authenticators are asked in
turn, one caller at a time; the first that neither declines nor fails decides. The result stays; a
failure does not, so the next call asks them all again.
-/

namespace ControlPlane

/-- The result of authentication. -/
structure Resolved where
  /-- The host, with its scheme. -/
  host : String
  /-- The name of the authenticator that found the credential. -/
  authenticator : String
  signer : Signer

/-- The settings of a client and the result of its authentication. -/
structure Session where
  chain : List Authenticator
  /-- The host in the settings at the start, with its scheme. -/
  configuredHost : Option String
  /-- The resource id in the settings at the start. -/
  azureResourceId : Option String
  /-- The settings, with what authenticators changed in them. -/
  config : Config
  resolved : Option Resolved := none

def Resolved.debugText (resolved : Resolved) : String :=
  Text.debugRecord "ResolvedAuth" [
    ("host", Text.quoted resolved.host),
    ("authenticator", Text.quoted resolved.authenticator),
    ("signer", resolved.signer.debugText)] false

namespace Session

/-- A session that nobody has used. -/
def start (config : Config) (chain : List Authenticator) : Session :=
  { chain := chain
    configuredHost := (nonEmpty config.host).map Workspace.normalizeHost
    azureResourceId := nonEmpty config.azure.resourceId
    config := config }

/-- The error of an authenticator that found a credential but no host. -/
def hostless (name : String) : Error :=
  .config (name ++ " authentication did not produce a host")

/-- Keeps the signer that an authenticator found, if the settings name a host by now. -/
def keep (session : Session) (name : String) (signer : Signer) :
    Program (Session × Except Failure Resolved) := do
  let host := Workspace.normalizeHost ((nonEmpty session.config.host).getD "")
  if host.isEmpty then
    return (session, .error (.error (hostless name)))
  let resolved : Resolved := ⟨host, name, signer⟩
  Program.info ("Authenticated with " ++ name ++ " (" ++ signer.kind.text ++ ") against " ++ host)
  let config := { session.config with host := some host }
  return ({ session with config := config, resolved := resolved }, .ok resolved)

/-- Asks one authenticator. -/
def askAuthenticator (authenticator : Authenticator) : Stage Session Resolved := fun session => do
  Program.debug ("Trying " ++ authenticator.name ++ " authentication")
  let (config, verdict) ← authenticator.resolve session.config
  let session := { session with config := config }
  match verdict with
  | .ok none => return (session, none)
  | .ok (some signer) =>
    let (session, outcome) ← session.keep authenticator.name signer
    return (session, some outcome)
  | .error (.error error) =>
    Program.warn (authenticator.name ++ " authentication failed: " ++ error.message)
    return (session, some (.error (.error error)))
  | .error failure => return (session, some (.error failure))

/-- The gate before the result: the authenticators of a chain are the stages of finding it. -/
def gate (chain : List Authenticator) : Gate Session Resolved where
  look session := return session.resolved
  stages := chain.map askAuthenticator
  last session := return (session, .error (.error Authenticator.notConfigured))

/-- The result of authentication, found now unless it is known. -/
def authenticate (session : Session) : Program (Session × Except Failure Resolved) :=
  (gate session.chain).get session

/-- What several callers are told who ask at once. -/
def authenticateEach (session : Session) (callers : Nat) :
    Program (Session × List (Except Failure Resolved)) :=
  (gate session.chain).getEach callers session

/-- The host, as well as it is known. -/
def host (session : Session) : Option String :=
  (session.resolved.map Resolved.host).or session.configuredHost

def cloud (session : Session) : Cloud :=
  Workspace.cloudOf (session.host.getD "") session.azureResourceId.isSome

/-- The session with the signer in a later state. -/
def withSigner (session : Session) (signer : Signer) : Session :=
  let resolved := session.resolved.map fun resolved => { resolved with signer := signer }
  { session with resolved := resolved }

def debugText (session : Session) : String :=
  Text.debugRecord "ClientState" [
    ("resolved", Text.debugOption Resolved.debugText session.resolved),
    ("chain", Text.debugList (fun authenticator => Text.quoted authenticator.name) session.chain),
    ("configured_host", debugSetting session.configuredHost)] true

end Session

end ControlPlane
