import ControlPlane.Authenticator.Basic
import ControlPlane.Base64
import ControlPlane.Home
import ControlPlane.Profile
import ControlPlane.Wording

/-!
# Credentials from a profile

The profile file names a host and either user name and password or a token. Without the file there
is nothing to offer; a file that does not describe the profile in full is an error.
-/

namespace ControlPlane.Authenticator

/-- The credential of a profile: user name and password if both are given, else the token. -/
def profileCredential (pairs : List (String × String)) : AuthKind × String :=
  match Profile.valueOf pairs "username", Profile.valueOf pairs "password" with
  | some username, some password => (.basic, Base64.basicCredential username password)
  | _, _ => (.bearer, (Profile.valueOf pairs "token").getD "")

/-- Uses a profile whose pairs are known. The host is kept in the settings even if the credential
turns out to be missing. -/
def useProfile (config : Config) (path name : String) (pairs : List (String × String)) :
    Program (Config × Verdict) := do
  if pairs.isEmpty then
    return (config, .error (.error (.profileNotFound path name)))
  match nonEmpty (Profile.valueOf pairs "host") with
  | none => return (config, .error (.error (.corruptProfile path name "host")))
  | some host =>
    let completed := { config with host := some host }
    let (kind, credential) := profileCredential pairs
    if credential.isEmpty then
      return (completed, .error (.error (.corruptProfile path name "token")))
    Program.info ("Using " ++ kind.text ++ " authentication from " ++ path)
    match Signer.ofCredential kind credential with
    | .error error => return (completed, .error (.error error))
    | .ok signer => return (completed, .ok (some signer))

/-- Uses the profile that the settings name, or the default one, which they name from then on. -/
def useFile (config : Config) (path : String) (file : Profile.File) :
    Program (Config × Verdict) := do
  match nonEmpty config.profile with
  | some name => useProfile config path name (file.profile name)
  | none =>
    Program.info ("Using " ++ defaultProfile ++ " profile from " ++ path)
    useProfile { config with profile := some defaultProfile } path defaultProfile
      (file.profile defaultProfile)

def profile [Wording] : Authenticator where
  name := "profile"
  resolve config := do
    match ← Home.expandPath ((nonEmpty config.configFile).getD defaultProfileFile) with
    | .error error => return (config, .error (.error error))
    | .ok path =>
      match ← Program.readText path with
      | .error .notFound =>
        Program.info (path ++ " not found on current host")
        return (config, .ok none)
      | .error fault => return (config, .error (.error (.io fault.message)))
      | .ok text =>
        match Profile.File.parse? text with
        | none =>
          let words := Wording.profile text
          return (config, .error (.error (.config ("cannot parse " ++ path ++ ": " ++ words))))
        | some file => useFile config path file

end ControlPlane.Authenticator
