import ControlPlane.Authenticator.Profile
import ControlPlane.Proofs.Authenticator.Decision
import ControlPlane.Proofs.Setting

/-!
# What a profile leaves in the settings

The profile file completes the settings by its host as soon as it names one, even if it has no
credential to offer. Nothing else in them changes but that the default profile is named.
-/

namespace ControlPlane.Authenticator

variable {answers : Answers} {config : Config}

def profileName (config : Config) : String :=
  (nonEmpty config.profile).getD defaultProfile

def profilePath (answers : Answers) (config : Config) : Except Error String :=
  (Home.expandPath ((nonEmpty config.configFile).getD defaultProfileFile)).answerAll answers

def profileText (answers : Answers) (config : Config) : Option String :=
  match profilePath answers config with
  | .error _ => none
  | .ok path => ((Program.readText path).answerAll answers).toOption

/-- The host that the profile file names for the profile that the settings select. -/
def profileHost (answers : Answers) (config : Config) : Option String :=
  ((profileText answers config).bind Profile.File.parse?).bind fun file =>
    nonEmpty (Profile.valueOf (file.profile (profileName config)) "host")

theorem config_useProfile (path name : String) (pairs : List (String × String)) :
    ((useProfile config path name pairs).answerAll answers).1 =
      { config with host := (nonEmpty (Profile.valueOf pairs "host")).or config.host } := by
  unfold useProfile
  split
  · next hempty =>
      obtain rfl := List.isEmpty_iff.mp hempty
      rfl
  · cases nonEmpty (Profile.valueOf pairs "host") with
    | none => rfl
    | some host =>
        obtain ⟨kind, credential⟩ := profileCredential pairs
        simp only []
        split
        · rfl
        · rw [Program.answerAll_bind]
          cases Signer.ofCredential kind credential <;> rfl

theorem config_useFile (path : String) (file : Profile.File) :
    ∃ name, (nonEmpty name).getD defaultProfile = profileName config ∧
      ((useFile config path file).answerAll answers).1 =
        { config with
          host := (nonEmpty (Profile.valueOf (file.profile (profileName config)) "host")).or
            config.host
          profile := name } := by
  unfold useFile profileName
  cases hname : nonEmpty config.profile with
  | some name =>
      refine ⟨config.profile, by rw [hname], ?_⟩
      simp only [Option.getD_some]
      exact config_useProfile path name _
  | none =>
      refine ⟨some defaultProfile, by decide, ?_⟩
      simp only [Option.getD_none, Program.answerAll_bind]
      exact config_useProfile path defaultProfile _

theorem nonEmpty_profileHost (answers : Answers) (config : Config) :
    nonEmpty (profileHost answers config) = profileHost answers config := by
  unfold profileHost
  cases (profileText answers config).bind Profile.File.parse? with
  | none => rfl
  | some file => exact nonEmpty_nonEmpty _

variable [Wording]

/-- **What a profile leaves.** Whether or not there is a credential in it. -/
theorem config_profile (answers : Answers) (config : Config) :
    ∃ name, (nonEmpty name).getD defaultProfile = profileName config ∧
      (profile.outcome answers config).1 =
        { config with host := (profileHost answers config).or config.host, profile := name } := by
  unfold profileHost profileText outcome profile
  simp only [Program.answerAll_bind]
  rw [← profilePath]
  cases profilePath answers config with
  | error error => exact ⟨config.profile, rfl, rfl⟩
  | ok path =>
      simp only [Program.answerAll_bind]
      cases (Program.readText path).answerAll answers with
      | error fault => exact ⟨config.profile, rfl, by cases fault <;> rfl⟩
      | ok text =>
          simp only [Except.toOption, Option.bind_some]
          cases Profile.File.parse? text with
          | none => exact ⟨config.profile, rfl, rfl⟩
          | some file => exact config_useFile path file

end ControlPlane.Authenticator
