import ControlPlane.Config
import ControlPlane.Signer

/-!
# Authenticators

An authenticator is one way to find a credential. Given the settings it yields a signer, or declines
because the settings are not meant for it, or fails because they are meant for it but do not
suffice. It hands back the settings, which it may have completed or cleared of a secret, in every
case.
-/

namespace ControlPlane

/-- What an authenticator comes to: a signer, none if it declines, or a failure. -/
abbrev Verdict := Except Failure (Option Signer)

structure Authenticator where
  name : String
  resolve : Config → Program (Config × Verdict)

namespace Authenticator

/-- An authenticator that reads the settings and leaves them as they are. -/
def ofReader (name : String) (find : Config → Attempt (Option Signer)) : Authenticator where
  name := name
  resolve config := do return (config, ← (find config).run)

def hostRequired (method : String) : Error :=
  .config ("host is empty, but is required by " ++ method)

def requireHost (config : Config) (method : String) : Attempt Unit :=
  match nonEmpty config.host with
  | none => Attempt.fail (hostRequired method)
  | some _ => return ()

/-- A line in the log at level info. -/
def announce (line : String) : Attempt Unit :=
  (Program.info line : Program Unit)

end Authenticator

end ControlPlane
