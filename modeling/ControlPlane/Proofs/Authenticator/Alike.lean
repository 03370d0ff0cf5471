import ControlPlane.Authenticator
import ControlPlane.Proofs.Authenticator.Decision
import ControlPlane.Proofs.Authenticator.Grants
import ControlPlane.Proofs.Base64

/-!
# Authenticators in two runs

Settings are alike if they differ only in token and password, and both or neither give a direct
credential of one kind. From alike settings every authenticator asks alike questions, and comes to
alike signers, declines or fails in both runs.
-/

namespace ControlPlane

open Program

def Config.withoutLogin (config : Config) : Config :=
  { config with token := none, password := none }

namespace Authenticator

structure Credential.Alike (credential twin : Credential) : Prop where
  kind : credential.kind = twin.kind
  setting : credential.setting = twin.setting
  text : Interchangeable credential.text twin.text

end Authenticator

open Authenticator

structure Config.Alike (config twin : Config) : Prop where
  rest : config.withoutLogin = twin.withoutLogin
  credential : Option.Rel Credential.Alike (directCredential? config) (directCredential? twin)

/-- Whatever reads no secret reads the same. -/
theorem Config.Alike.same {config twin : Config} {α : Type} (h : config.Alike twin)
    (read : Config → α) (hread : ∀ config : Config, read config.withoutLogin = read config) :
    read config = read twin := by
  rw [← hread config, h.rest, hread]

/-- A change that touches neither secret. -/
theorem Config.Alike.change {config twin : Config} (h : config.Alike twin)
    (change : Config → Config)
    (hsecrets : ∀ config, (change config).withoutLogin = change config.withoutLogin)
    (hcredential : ∀ config, directCredential? (change config) = directCredential? config) :
    (change config).Alike (change twin) where
  rest := by rw [hsecrets, h.rest, hsecrets]
  credential := by
    rw [hcredential, hcredential]
    exact h.credential

namespace Authenticator

open Profile

variable {pairs twins : List (String × String)}

/-- Credentials of one kind, neither of which is missing unless the other is. -/
structure CredentialsAlike (credential twin : AuthKind × String) : Prop where
  kind : credential.1 = twin.1
  isEmpty : credential.2.isEmpty = twin.2.isEmpty
  text : Interchangeable credential.2 twin.2

theorem profileCredential_alike (h : List.Forall₂ PairsAlike pairs twins) :
    CredentialsAlike (profileCredential pairs) (profileCredential twins) := by
  have htoken : CredentialsAlike (.bearer, (valueOf pairs "token").getD "")
      (.bearer, (valueOf twins "token").getD "") := by
    have halike := valueOf_alike h "token"
    generalize valueOf pairs "token" = value, valueOf twins "token" = twin at halike
    cases halike with
    | none => exact ⟨rfl, rfl, .refl _⟩
    | some hvalue =>
        rcases hvalue with rfl | hkey | ⟨-, hempty, hsecret⟩
        · exact ⟨rfl, rfl, .refl _⟩
        · exact absurd hkey (by decide)
        · exact ⟨rfl, hempty, hsecret⟩
  have hpassword := valueOf_alike h "password"
  unfold profileCredential
  rw [valueOf_eq h (by decide : "username" ≠ "password") (by decide)]
  generalize valueOf pairs "password" = value, valueOf twins "password" = twin at hpassword
  cases valueOf twins "username" with
  | none => exact htoken
  | some username =>
      cases hpassword with
      | none => exact htoken
      | @some password other _ =>
          refine ⟨rfl, ?_, ?_⟩
          · rw [Base64.isEmpty_basicCredential, Base64.isEmpty_basicCredential]
          · rw [Interchangeable.iff_all, Base64.all_basicCredential, Base64.all_basicCredential]

variable [Wording] {config twin : Config}

/-- What an authenticator finds in both runs. Settings that give their password away stay alike only
in what comes after, which is why a host has to be there. -/
inductive FoundAlike : Config × Verdict → Config × Verdict → Prop where
  | keeps {config twin : Config} {verdict other : Verdict} (hconfig : config.Alike twin)
      (hverdict : SameOutcome (Option.Rel Signer.Alike) verdict other) :
      FoundAlike (config, verdict) (twin, other)
  | signs {config twin : Config} {signer other : Signer} {host : String}
      (hhost : nonEmpty config.host = some host) (htwin : nonEmpty twin.host = some host)
      (hsigner : signer.Alike other) :
      FoundAlike (config, .ok (some signer)) (twin, .ok (some other))

/-- The end of every authenticator that holds one credential. -/
theorem coupled_verdict (h : config.Alike twin) (first second : Except Error Signer) :
    SameOutcome Signer.Alike first second → Coupled FoundAlike TellApart
      (match first with
        | .error error => pure (config, .error (.error error))
        | .ok signer => pure (config, .ok (some signer)))
      (match second with
        | .error error => pure (twin, .error (.error error))
        | .ok signer => pure (twin, .ok (some signer))) := by
  intro hsigner
  cases hsigner with
  | error error => exact .done (.keeps h (.error _))
  | ok hsigner => exact .done (.keeps h (.ok (.some hsigner)))

/-- An authenticator that does not tell alike settings apart. -/
def Discreet (authenticator : Authenticator) : Prop :=
  ∀ config twin : Config, config.Alike twin →
    Coupled FoundAlike TellApart (authenticator.resolve config) (authenticator.resolve twin)

theorem discreet_ofReader {name : String} {find : Config → Attempt (Option Signer)}
    (hfind : ∀ config twin : Config, config.Alike twin →
      Attempt.Coupled (Option.Rel Signer.Alike) (find config) (find twin)) :
    (ofReader name find).Discreet := by
  intro config twin h
  refine Program.Coupled.bind (hfind config twin h) ?_ ?_
  · intro verdict other hverdict
    exact .done (.keeps h hverdict)
  · intro verdict other herrors
    exact apart_done herrors

theorem coupled_requireHost (h : config.Alike twin) (method : String) :
    Attempt.Coupled (fun _ _ => True) (requireHost config method) (requireHost twin method) := by
  have hhost : config.host = twin.host := h.same Config.host fun _ => rfl
  unfold requireHost
  rw [hhost]
  cases nonEmpty twin.host with
  | none => exact Attempt.coupled_fail _
  | some host => exact Attempt.coupled_pure trivial

/-! ### Azure -/

theorem discreet_azureClientSecret : azureClientSecret.Discreet := by
  apply discreet_ofReader
  intro config twin h
  have hazure : config.azure = twin.azure := h.same Config.azure fun _ => rfl
  rw [← hazure]
  cases principal? config.azure with
  | none => exact Attempt.coupled_pure .none
  | some principal =>
      refine (coupled_requireHost h _).bind ?_
      intro _ _ _
      refine principal.coupled_token.bind ?_
      intro token other htoken
      refine Attempt.inStep_lift_bind (inStep_log ..) ?_
      intro _ _ _
      have hsigner := azureSigner_alike .azureClientSecret principal.coupled_token htoken
        (nonEmpty config.azure.resourceId)
      exact (Attempt.coupled_ofExcept hsigner).bind fun _ _ hsigner =>
        Attempt.coupled_pure (.some hsigner)

theorem discreet_azureCli : azureCli.Discreet := by
  apply discreet_ofReader
  intro config twin h
  have hazure : config.azure = twin.azure := h.same Config.azure fun _ => rfl
  rw [← hazure]
  cases nonEmpty config.azure.resourceId with
  | none => exact Attempt.coupled_pure .none
  | some resourceId =>
      refine (coupled_requireHost h _).bind ?_
      intro _ _ _
      refine coupled_runAzure.bind ?_
      rintro _ _ (htoken | _)
      · refine Attempt.inStep_lift_bind (inStep_log ..) ?_
        intro _ _ _
        have hsigner := azureSigner_alike .azureCli coupled_azureCliToken htoken (some resourceId)
        exact (Attempt.coupled_ofExcept hsigner).bind fun _ _ hsigner =>
          Attempt.coupled_pure (.some hsigner)
      · exact Attempt.inStep_lift_bind (inStep_log ..) fun _ _ _ => Attempt.coupled_pure .none

/-! ### Files -/

theorem inStep_expandPath (path : String) :
    InStep Eq (Home.expandPath path) (Home.expandPath path) := by
  unfold Home.expandPath
  cases Home.afterTilde path with
  | none => exact .done rfl
  | some rest =>
      refine inStep_homeDirectory.bind ?_
      rintro home _ rfl
      exact .done rfl

theorem inStep_readText (path : String) :
    InStep (SameOutcome TextsAlike) (readText path) (readText path) := by
  refine (inStep_query (.same (.readFile path) rfl) fun _ _ _ => rfl).bind ?_
  intro answer reply hagree
  cases hagree with
  | same =>
      rcases answer with fault | octets
      · exact .done (.error fault)
      · dsimp only
        cases octets.decode? with
        | none => exact .done (.error _)
        | some text => exact .done (.ok (.refl text))
  | reads _ htext htwin h =>
      dsimp only
      rw [htext, htwin]
      exact .done (.ok h)

/-! ### Google -/

theorem inStep_load (credentials : String) :
    InStep Eq (ServiceAccountKey.load credentials) (ServiceAccountKey.load credentials) := by
  unfold ServiceAccountKey.load
  dsimp only
  split
  · exact .done rfl
  · refine (inStep_expandPath credentials).bind ?_
    rintro expanded _ rfl
    rcases expanded with error | path
    · exact .done rfl
    · refine (inStep_readText path).bind ?_
      rintro _ _ (fault | htext)
      · exact .done rfl
      · exact .done htext.key

theorem coupled_loadKey (h : config.Alike twin) (serviceAccount : String) :
    Attempt.Coupled Eq (loadKey config serviceAccount) (loadKey twin serviceAccount) := by
  have hgoogle : config.google = twin.google := h.same Config.google fun _ => rfl
  unfold loadKey
  rw [hgoogle]
  cases nonEmpty twin.google.credentials with
  | none => exact Attempt.coupled_fail _
  | some credentials =>
      refine Attempt.inStep_lift_bind (inStep_load credentials) ?_
      rintro loaded _ rfl
      refine (Attempt.coupled_ofExcept (.refl Eq.refl loaded)).bind ?_
      rintro key _ rfl
      dsimp only
      split
      · exact Attempt.coupled_fail _
      · exact Attempt.coupled_pure rfl

theorem discreet_google (surface : Surface) : (google surface).Discreet := by
  apply discreet_ofReader
  intro config twin h
  have hgoogle : config.google = twin.google := h.same Config.google fun _ => rfl
  have hhost : config.host = twin.host := h.same Config.host fun _ => rfl
  have hsurface : Surface.ofConfig config = Surface.ofConfig twin :=
    h.same Surface.ofConfig fun _ => rfl
  rw [← hgoogle, ← hhost]
  cases nonEmpty config.google.serviceAccount with
  | none => exact Attempt.coupled_pure .none
  | some serviceAccount =>
      dsimp only
      rw [← hsurface]
      split
      · exact Attempt.coupled_pure .none
      · refine (coupled_requireHost h _).bind ?_
        intro _ _ _
        refine (coupled_loadKey h serviceAccount).bind ?_
        rintro key _ rfl
        refine (GoogleAccount.coupled_token _).bind ?_
        intro token other htoken
        refine Attempt.inStep_lift_bind (inStep_log ..) ?_
        intro _ _ _
        refine Attempt.coupled_pure (.some ⟨rfl, .refreshing ⟨?_, htoken, rfl⟩⟩)
        exact GoogleAccount.coupled_token _

/-! ### Direct credentials -/

/-- A basic credential can be sent whatever the password is, so the settings lose their password in
both runs, and both have a host. -/
theorem coupled_useDirect (h : config.Alike twin) {credential other : Credential}
    (hcredential : directCredential? config = some credential)
    (hother : directCredential? twin = some other) (halike : credential.Alike other) :
    Coupled FoundAlike TellApart (useDirect config credential) (useDirect twin other) := by
  have hhost : config.host = twin.host := h.same Config.host fun _ => rfl
  have husername : config.username = twin.username := h.same Config.username fun _ => rfl
  have hsigners := Signer.ofCredential_alike credential.kind halike.text
  unfold useDirect
  rw [← halike.kind, ← halike.setting, ← hhost, ← husername]
  by_cases hkind : credential.kind = .basic
  · obtain ⟨signer, hsigner⟩ := ofCredential_of_directCredential hcredential hkind
    obtain ⟨otherSigner, hotherSigner⟩ :=
      ofCredential_of_directCredential hother (halike.kind ▸ hkind)
    rw [← halike.kind] at hotherSigner
    rw [hsigner, hotherSigner] at hsigners
    cases hsigners with
    | ok hsigners =>
    simp only [if_pos hkind, hsigner, hotherSigner]
    apply Coupled.after_log
    cases hfound : nonEmpty config.host with
    | none => exact .done (.keeps h (.error _))
    | some host =>
        apply Coupled.after_log
        exact .done (.signs hfound (hhost ▸ hfound) hsigners)
  · simp only [if_neg hkind]
    cases nonEmpty config.host with
    | none => exact .done (.keeps h (.error _))
    | some host =>
        apply Coupled.after_log
        exact coupled_verdict h _ _ hsigners

theorem discreet_direct : direct.Discreet := by
  intro config twin h
  have halike := h.credential
  unfold direct
  dsimp only
  generalize hcredential : directCredential? config = credential,
    hother : directCredential? twin = other at halike
  cases halike with
  | none => exact .done (.keeps h (.ok .none))
  | some halike => exact coupled_useDirect h hcredential hother halike

/-! ### Profiles -/

theorem coupled_useProfile (h : config.Alike twin) (path name : String)
    (hpairs : List.Forall₂ PairsAlike pairs twins) :
    Coupled FoundAlike TellApart (useProfile config path name pairs) (useProfile twin path name twins) := by
  have hempty : pairs.isEmpty = twins.isEmpty := by cases hpairs <;> rfl
  have hcredential := profileCredential_alike hpairs
  unfold useProfile
  rw [← hempty, ← valueOf_eq hpairs (by decide : "host" ≠ "password") (by decide)]
  split
  · exact .done (.keeps h (.error _))
  · cases nonEmpty (valueOf pairs "host") with
    | none => exact .done (.keeps h (.error _))
    | some host =>
        have hcompleted := h.change (fun config => { config with host := some host })
          (fun _ => rfl) (fun _ => rfl)
        generalize profileCredential pairs = first, profileCredential twins = second at hcredential
        obtain ⟨kind, credential⟩ := first
        obtain ⟨twinKind, other⟩ := second
        obtain ⟨hkind, hmissing, hsecret⟩ := hcredential
        obtain rfl : kind = twinKind := hkind
        dsimp only at hmissing hsecret ⊢
        rw [← hmissing]
        split
        · exact .done (.keeps hcompleted (.error _))
        · apply Coupled.after_log
          exact coupled_verdict hcompleted _ _ (Signer.ofCredential_alike kind hsecret)

theorem coupled_useFile (h : config.Alike twin) (path : String) {file twinFile : File}
    (hfile : file.Alike twinFile) :
    Coupled FoundAlike TellApart (useFile config path file) (useFile twin path twinFile) := by
  have hprofile : config.profile = twin.profile := h.same Config.profile fun _ => rfl
  unfold useFile
  rw [← hprofile]
  cases nonEmpty config.profile with
  | some name => exact coupled_useProfile h path name (profile_alike hfile name)
  | none =>
      apply Coupled.after_log
      have hnamed := h.change (fun config => { config with profile := some defaultProfile })
        (fun _ => rfl) (fun _ => rfl)
      exact coupled_useProfile hnamed path defaultProfile (profile_alike hfile defaultProfile)

theorem discreet_profile : profile.Discreet := by
  intro config twin h
  have hconfigFile : config.configFile = twin.configFile := h.same Config.configFile fun _ => rfl
  unfold profile
  dsimp only
  rw [← hconfigFile]
  refine (inStep_expandPath _).bind ?_
  rintro expanded _ rfl
  rcases expanded with error | path
  · exact .done (.keeps h (.error _))
  · refine (inStep_readText path).bind ?_
    rintro _ _ (fault | @⟨text, twinText, htext⟩)
    · cases fault with
      | notFound =>
          apply Coupled.after_log
          exact .done (.keeps h (.ok .none))
      | other message => exact .done (.keeps h (.error _))
    · have hfile := htext.file
      have hwords := htext.words
      dsimp only
      generalize Profile.File.parse? text = first, Profile.File.parse? twinText = second at hfile hwords
      cases hfile with
      | none =>
          rw [hwords rfl]
          exact .done (.keeps h (.error _))
      | some hfile => exact coupled_useFile h path hfile

theorem discreet_of_mem_standardChain {authenticator : Authenticator}
    (h : authenticator ∈ standardChain) : authenticator.Discreet := by
  simp only [standardChain, List.mem_cons, List.not_mem_nil, or_false] at h
  rcases h with rfl | rfl | rfl | rfl | rfl | rfl
  · exact discreet_direct
  · exact discreet_azureClientSecret
  · exact discreet_azureCli
  · exact discreet_google .accounts
  · exact discreet_google .workspace
  · exact discreet_profile

end Authenticator

end ControlPlane
