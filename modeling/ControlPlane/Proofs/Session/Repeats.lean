import ControlPlane.Proofs.Authenticator.Verdicts
import ControlPlane.Proofs.Program.Outline
import ControlPlane.Proofs.Session.Runs

/-!
# What authenticators do again

A failed call may have completed the host and the profile in the settings. With the same answers, an
authenticator that declined before declines again with the same questions; and the profile file says
the same of the same profile, whatever host the settings name by now.
-/

namespace ControlPlane.Authenticator

open Program

variable {answers : Answers} {config other : Config}

theorem askAll_ofReader (name : String) (find : Config → Attempt (Option Signer))
    (config : Config) :
    ((ofReader name find).resolve config).askAll answers = (find config).run.askAll answers := by
  unfold ofReader
  rw [askAll_bind]
  simp [askAll]

/-! ### Authenticators that decline -/

variable [Wording]

/-- The command line tool is asked without regard to the settings, once they name a host. -/
theorem askAll_azureCli_eq (hazure : other.azure = config.azure)
    (hconfig : nonEmpty config.azure.resourceId = none ∨ (nonEmpty config.host).isSome)
    (hother : nonEmpty config.azure.resourceId = none ∨ (nonEmpty other.host).isSome) :
    (azureCli.resolve other).askAll answers = (azureCli.resolve config).askAll answers := by
  rw [azureCli, askAll_ofReader, askAll_ofReader, hazure]
  cases hresource : nonEmpty config.azure.resourceId with
  | none => rfl
  | some resourceId =>
      rw [hresource] at hconfig hother
      obtain ⟨host, hhost⟩ := Option.isSome_iff_exists.mp (hconfig.resolve_left (by simp))
      obtain ⟨otherHost, hotherHost⟩ :=
        Option.isSome_iff_exists.mp (hother.resolve_left (by simp))
      dsimp only
      rw [requireHost_bind_of_some hhost, requireHost_bind_of_some hotherHost]

/-! ### The profile -/

/-- What is told of a profile, and what is asked on the way, as far as it is done again. -/
structure SameReport (answers : Answers) (left right : Program (Config × Verdict)) : Prop where
  report : Session.report profile.name (left.answerAll answers) =
    Session.report profile.name (right.answerAll answers)
  verdict : (left.answerAll answers).2 = (right.answerAll answers).2
  outline : outline (left.askAll answers) = outline (right.askAll answers)

theorem SameReport.refl (program : Program (Config × Verdict)) :
    SameReport answers program program :=
  ⟨rfl, rfl, rfl⟩

theorem SameReport.bind {α : Type} (program : Program α)
    {left right : α → Program (Config × Verdict)}
    (h : ∀ value, SameReport answers (left value) (right value)) :
    SameReport answers (program >>= left) (program >>= right) where
  report := by rw [answerAll_bind, answerAll_bind, (h _).report]
  verdict := by rw [answerAll_bind, answerAll_bind, (h _).verdict]
  outline := by rw [askAll_bind, askAll_bind, outline_append, outline_append, (h _).outline]

/-- A line of level info is no part of an outline. -/
theorem SameReport.info (line : String) {left right : Program (Config × Verdict)}
    (h : SameReport answers left right) :
    SameReport answers (Program.info line >>= fun _ => left) right where
  report := by rw [answerAll_bind, h.report]
  verdict := by rw [answerAll_bind, h.verdict]
  outline := by
    rw [askAll_bind, outline_append, h.outline]
    rfl

theorem SameReport.symm {left right : Program (Config × Verdict)}
    (h : SameReport answers left right) : SameReport answers right left :=
  ⟨h.report.symm, h.verdict.symm, h.outline.symm⟩

theorem SameReport.trans {left middle right : Program (Config × Verdict)}
    (h : SameReport answers left middle) (hright : SameReport answers middle right) :
    SameReport answers left right :=
  ⟨h.report.trans hright.report, h.verdict.trans hright.verdict, h.outline.trans hright.outline⟩

theorem sameReport_error (error : Error) :
    SameReport answers (.done (other, .error (.error error)))
      (.done (config, .error (.error error))) :=
  ⟨rfl, rfl, rfl⟩

theorem sameReport_signer (hhost : other.host = config.host) (signer : Signer) :
    SameReport answers (.done (other, .ok (some signer))) (.done (config, .ok (some signer))) where
  report := by simp [Session.report, hhost]
  verdict := rfl
  outline := rfl

theorem sameReport_useProfile (path name : String) (pairs : List (String × String)) :
    SameReport answers (useProfile other path name pairs) (useProfile config path name pairs) := by
  unfold useProfile
  by_cases hempty : pairs.isEmpty
  · simp only [hempty, if_true]
    exact sameReport_error _
  · simp only [hempty, Bool.false_eq_true, if_false]
    cases nonEmpty (Profile.valueOf pairs "host") with
    | none => exact sameReport_error _
    | some host =>
        obtain ⟨kind, credential⟩ := profileCredential pairs
        dsimp only
        by_cases hcredential : credential.isEmpty
        · simp only [hcredential, if_true]
          exact sameReport_error _
        · simp only [hcredential, Bool.false_eq_true, if_false]
          apply SameReport.bind
          intro _
          cases Signer.ofCredential kind credential with
          | error error => exact sameReport_error _
          | ok signer =>
              refine sameReport_signer ?_ signer
              rfl

/-- The profile that the settings name is used as if they had named it in so many words. -/
theorem sameReport_useFile_name (answers : Answers) (config : Config) (path : String) (file : Profile.File) :
    SameReport answers (useFile config path file)
      (useProfile config path (profileName config) (file.profile (profileName config))) := by
  unfold useFile profileName
  cases nonEmpty config.profile with
  | some name => exact .refl _
  | none => exact (sameReport_useProfile path defaultProfile _).info _

theorem sameReport_useFile (hname : profileName other = profileName config) (path : String)
    (file : Profile.File) :
    SameReport answers (useFile other path file) (useFile config path file) := by
  have hother := sameReport_useFile_name answers other path file
  have hconfig := sameReport_useFile_name answers config path file
  rw [hname] at hother
  exact (hother.trans (sameReport_useProfile path _ _)).trans hconfig.symm

/-- **The same profile again.** -/
theorem sameReport_profile (hfile : other.configFile = config.configFile)
    (hname : profileName other = profileName config) :
    SameReport answers (profile.resolve other) (profile.resolve config) := by
  unfold profile
  dsimp only
  rw [hfile]
  apply SameReport.bind
  intro path
  cases path with
  | error error => exact sameReport_error _
  | ok path =>
      apply SameReport.bind
      intro text
      rcases text with (_ | message) | text
      · exact SameReport.bind _ fun _ => ⟨rfl, rfl, rfl⟩
      · exact sameReport_error _
      · dsimp only
        cases Profile.File.parse? text with
        | none => exact sameReport_error _
        | some file => exact sameReport_useFile hname path file

end ControlPlane.Authenticator
