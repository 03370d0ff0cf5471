import ControlPlane.Authenticator
import ControlPlane.Proofs.Base64
import ControlPlane.Proofs.Program.Attempt

/-!
# When authenticators decide

Each authenticator declines under one condition on the settings, and the command line tool also if it
is not installed. All but the last bind a credential to the host that the settings name, and leave
the settings as they are unless they found one.
-/

namespace ControlPlane.Authenticator

variable {answers : Answers} {config : Config} {signer : Signer}

/-- The settings and the verdict that an authenticator hands back under fixed answers. -/
def outcome (authenticator : Authenticator) (answers : Answers) (config : Config) :
    Config × Verdict :=
  (authenticator.resolve config).answerAll answers

theorem outcome_ofReader (name : String) (find : Config → Attempt (Option Signer)) :
    (ofReader name find).outcome answers config = (config, (find config).outcome answers) := by
  rw [outcome, ofReader, Program.answerAll_bind]
  rfl

theorem outcome_requireHost {method : String} :
    (requireHost config method).outcome answers = .ok () ↔ (nonEmpty config.host).isSome := by
  unfold requireHost
  cases nonEmpty config.host <;> simp

@[simp]
theorem outcome_announce (line : String) : (announce line).outcome answers = .ok () :=
  Attempt.outcome_lift answers _

/-- An authenticator that binds a credential to the host in the settings, and changes nothing unless
it found one. -/
structure UsesHost (authenticator : Authenticator) : Prop where
  unchanged {answers : Answers} {config : Config} :
    (∀ signer, (authenticator.outcome answers config).2 ≠ .ok (some signer)) →
      (authenticator.outcome answers config).1 = config
  host {answers : Answers} {config : Config} {signer : Signer} :
    (authenticator.outcome answers config).2 = .ok (some signer) →
      (authenticator.outcome answers config).1.host = config.host ∧ (nonEmpty config.host).isSome

theorem UsesHost.outcome_of_declines {authenticator : Authenticator} (h : authenticator.UsesHost)
    (hdeclines : (authenticator.outcome answers config).2 = .ok none) :
    authenticator.outcome answers config = (config, .ok none) :=
  Prod.ext (h.unchanged fun signer hsigner => by simp [hdeclines] at hsigner) hdeclines

theorem UsesHost.outcome_of_fails {authenticator : Authenticator} (h : authenticator.UsesHost)
    {failure : Failure} (hfails : (authenticator.outcome answers config).2 = .error failure) :
    authenticator.outcome answers config = (config, .error failure) :=
  Prod.ext (h.unchanged fun signer hsigner => by simp [hfails] at hsigner) hfails

theorem usesHost_ofReader {name : String} {find : Config → Attempt (Option Signer)}
    (h : ∀ {answers config signer}, (find config).outcome answers = .ok (some signer) →
      (nonEmpty config.host).isSome) : (ofReader name find).UsesHost where
  unchanged _ := by rw [outcome_ofReader]
  host hsigner := by
    rw [outcome_ofReader] at hsigner ⊢
    exact ⟨rfl, h hsigner⟩

/-! ### Direct credentials -/

theorem outcome_direct_of_none (h : directCredential? config = none) :
    direct.outcome answers config = (config, .ok none) := by
  simp [outcome, direct, h]

theorem outcome_direct_of_hostless {credential : Credential}
    (h : directCredential? config = some credential) (hhost : nonEmpty config.host = none) :
    direct.outcome answers config =
      (config, .error (.error (hostRequired credential.setting))) := by
  simp only [outcome, direct, h, useDirect, hhost]
  split <;> simp

theorem outcome_direct_of_host {credential : Credential} {host : String}
    (h : directCredential? config = some credential) (hhost : nonEmpty config.host = some host) :
    direct.outcome answers config =
      (if credential.kind = .basic then { config with password := none } else config,
        ((Signer.ofCredential credential.kind credential.text).mapError .error).map some) := by
  simp only [outcome, direct, h, useDirect, hhost]
  cases Signer.ofCredential credential.kind credential.text <;>
    split <;> rfl

/-- The password is dropped only with a signer in hand: a basic credential can always be sent. -/
theorem ofCredential_of_directCredential {credential : Credential}
    (h : directCredential? config = some credential) (hkind : credential.kind = .basic) :
    ∃ signer, Signer.ofCredential credential.kind credential.text = .ok signer := by
  unfold directCredential? at h
  split at h
  · obtain rfl := Option.some.inj h
    exact ⟨_, Signer.ofCredential_basic _ _⟩
  · obtain ⟨token, -, rfl⟩ := Option.map_eq_some_iff.mp h
    cases hkind

theorem declines_direct :
    (direct.outcome answers config).2 = .ok none ↔ directCredential? config = none := by
  refine ⟨fun h => ?_, fun h => by rw [outcome_direct_of_none h]⟩
  cases hcredential : directCredential? config with
  | none => rfl
  | some credential =>
      cases hhost : nonEmpty config.host with
      | none => simp [outcome_direct_of_hostless hcredential hhost] at h
      | some host =>
          rw [outcome_direct_of_host hcredential hhost] at h
          cases hsigner : Signer.ofCredential credential.kind credential.text <;>
            rw [hsigner] at h <;> cases h

theorem usesHost_direct : direct.UsesHost where
  unchanged {answers config} h := by
    cases hcredential : directCredential? config with
    | none => rw [outcome_direct_of_none hcredential]
    | some credential =>
        cases hhost : nonEmpty config.host with
        | none => rw [outcome_direct_of_hostless hcredential hhost]
        | some host =>
            rw [outcome_direct_of_host hcredential hhost] at h ⊢
            by_cases hkind : credential.kind = .basic
            · obtain ⟨signer, hsigner⟩ := ofCredential_of_directCredential hcredential hkind
              rw [hsigner] at h
              exact absurd rfl (h signer)
            · rw [if_neg hkind]
  host {answers config signer} h := by
    cases hcredential : directCredential? config with
    | none => simp [outcome_direct_of_none hcredential] at h
    | some credential =>
        cases hhost : nonEmpty config.host with
        | none => simp [outcome_direct_of_hostless hcredential hhost] at h
        | some host =>
            rw [outcome_direct_of_host hcredential hhost]
            refine ⟨?_, rfl⟩
            split <;> rfl

/-! ### Azure -/

theorem usesHost_azureClientSecret : azureClientSecret.UsesHost := by
  refine usesHost_ofReader fun {answers config signer} h => ?_
  cases hprincipal : principal? config.azure with
  | none => simp [hprincipal] at h
  | some principal =>
      simp only [hprincipal, Attempt.outcome_bind_eq_ok] at h
      obtain ⟨_, hhost, -⟩ := h
      exact outcome_requireHost.mp hhost

theorem declines_azureClientSecret :
    (azureClientSecret.outcome answers config).2 = .ok none ↔ principal? config.azure = none := by
  rw [azureClientSecret, outcome_ofReader]
  cases hprincipal : principal? config.azure with
  | none => simp
  | some principal =>
      simp only [Attempt.outcome_bind_eq_ok]
      simp

def LacksAzure (answers : Answers) : Prop :=
  answers (.runCommand azureProgram azureArguments) = .error .notInstalled

instance (answers : Answers) : Decidable (LacksAzure answers) :=
  match h : answers (.runCommand azureProgram azureArguments) with
  | .error .notInstalled => .isTrue h
  | .error (.other _) => .isFalse (by simp [LacksAzure, h])
  | .ok _ => .isFalse (by simp [LacksAzure, h])

variable [Wording]

theorem outcome_runAzure_eq_none : runAzure.outcome answers = .ok none ↔ LacksAzure answers := by
  unfold runAzure LacksAzure
  rw [Attempt.outcome_lift_bind, Attempt.outcome_lift_bind, Program.runCommand,
    Program.answerAll_query]
  split
  · next hlacks => simp [hlacks]
  · next hfault => simp [hfault]
  · next output houtput =>
      simp only [houtput]
      cases output.succeeded <;> cases readPrinted? output.stdout <;> simp

theorem usesHost_azureCli : azureCli.UsesHost := by
  refine usesHost_ofReader fun {answers config signer} h => ?_
  cases hresource : nonEmpty config.azure.resourceId with
  | none => simp [hresource] at h
  | some resourceId =>
      simp only [hresource, Attempt.outcome_bind_eq_ok] at h
      obtain ⟨_, hhost, -⟩ := h
      exact outcome_requireHost.mp hhost

theorem declines_azureCli :
    (azureCli.outcome answers config).2 = .ok none ↔
      nonEmpty config.azure.resourceId = none ∨
        (nonEmpty config.host).isSome ∧ LacksAzure answers := by
  rw [azureCli, outcome_ofReader]
  cases hresource : nonEmpty config.azure.resourceId with
  | none => simp
  | some resourceId =>
      simp only [Attempt.outcome_bind_eq_ok, ← outcome_runAzure_eq_none]
      constructor
      · rintro ⟨_, hhost, token, hrun, hrest⟩
        cases token with
        | none => exact .inr ⟨outcome_requireHost.mp hhost, hrun⟩
        | some token => simp at hrest
      · rintro (hnone | ⟨hhost, hrun⟩)
        · cases hnone
        · exact ⟨(), outcome_requireHost.mpr hhost, none, hrun, by simp⟩

/-! ### Google -/

theorem usesHost_google (surface : Surface) : (google surface).UsesHost := by
  refine usesHost_ofReader fun {answers config signer} h => ?_
  cases haccount : nonEmpty config.google.serviceAccount with
  | none => simp [haccount] at h
  | some serviceAccount =>
      simp only [haccount] at h
      split at h
      · simp at h
      · simp only [Attempt.outcome_bind_eq_ok] at h
        obtain ⟨_, hhost, -⟩ := h
        exact outcome_requireHost.mp hhost

theorem declines_google (surface : Surface) :
    ((google surface).outcome answers config).2 = .ok none ↔
      nonEmpty config.google.serviceAccount = none ∨ Surface.ofConfig config ≠ surface := by
  rw [google, outcome_ofReader]
  cases haccount : nonEmpty config.google.serviceAccount with
  | none => simp
  | some serviceAccount =>
      simp only [ne_eq]
      split
      · next hother => simp [hother]
      · next hsame => simp [hsame]

end ControlPlane.Authenticator
