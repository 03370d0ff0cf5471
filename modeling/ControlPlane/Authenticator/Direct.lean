import ControlPlane.Authenticator.Basic
import ControlPlane.Base64

/-!
# Direct credentials

User name and password, or else a token, given in the settings together with a host. The password is
dropped from the settings once it is encoded.
-/

namespace ControlPlane.Authenticator

/-- A credential, the kind it is used as, and the setting that asks for a host. -/
structure Credential where
  kind : AuthKind
  text : String
  setting : String
  deriving DecidableEq, Repr

/-- The credential in the settings: user name and password first, then the token. -/
def directCredential? (config : Config) : Option Credential :=
  match nonEmpty config.username, nonEmpty config.password with
  | some username, some password =>
    some ⟨.basic, Base64.basicCredential username password, "basic_auth"⟩
  | _, _ => (nonEmpty config.token).map fun token => ⟨.bearer, token, "token"⟩

/-- Uses a credential with the host in the settings. -/
def useDirect (config : Config) (credential : Credential) : Program (Config × Verdict) := do
  if credential.kind = .basic then
    Program.info ("Using basic auth for user \x27" ++ (nonEmpty config.username).getD "" ++ "\x27")
  match nonEmpty config.host with
  | none => return (config, .error (.error (hostRequired credential.setting)))
  | some _ =>
    let kept := if credential.kind = .basic then { config with password := none } else config
    Program.info ("Using directly configured host+" ++ credential.setting ++ " authentication")
    match Signer.ofCredential credential.kind credential.text with
    | .error error => return (kept, .error (.error error))
    | .ok signer => return (kept, .ok (some signer))

def direct : Authenticator where
  name := "direct"
  resolve config :=
    match directCredential? config with
    | none => return (config, .ok none)
    | some credential => useDirect config credential

end ControlPlane.Authenticator
