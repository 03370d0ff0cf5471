import ControlPlane.Proofs.Authenticator.Alike
import ControlPlane.Proofs.Session.Walk

/-!
# Sessions in two runs

Sessions that differ in their secrets authenticate alike: they try the same authenticators, and keep
signers that differ in nothing but what they sign with.
-/

namespace ControlPlane

open Program

variable [Wording]

structure Resolved.Alike (resolved twin : Resolved) : Prop where
  host : resolved.host = twin.host
  authenticator : resolved.authenticator = twin.authenticator
  signer : resolved.signer.Alike twin.signer

namespace Session

/-- Once a result is known, nobody asks for the settings again. -/
structure Alike (session twin : Session) : Prop where
  chain : session.chain = twin.chain
  discreet : ∀ authenticator ∈ session.chain, authenticator.Discreet
  configuredHost : session.configuredHost = twin.configuredHost
  azureResourceId : session.azureResourceId = twin.azureResourceId
  resolved : Option.Rel Resolved.Alike session.resolved twin.resolved
  config : session.resolved = none → session.config.Alike twin.config

/-- Sessions that have no result yet. -/
def OpenAlike (session twin : Session) : Prop :=
  session.Alike twin ∧ session.resolved = none

variable {session twin : Session} {config other : Config}

theorem OpenAlike.withConfig (h : OpenAlike session twin) (hconfig : config.Alike other) :
    OpenAlike { session with config := config } { twin with config := other } :=
  ⟨{ h.1 with config := fun _ => hconfig }, h.2⟩

theorem Alike.withResolved (h : session.Alike twin) {resolved result : Resolved}
    (hresolved : resolved.Alike result) :
    Alike { session with config := config, resolved := resolved }
      { twin with config := other, resolved := result } where
  chain := h.chain
  discreet := h.discreet
  configuredHost := h.configuredHost
  azureResourceId := h.azureResourceId
  resolved := .some hresolved
  config hnone := by cases hnone

theorem Alike.withSigner (h : session.Alike twin) {signer result : Signer}
    (hsigner : signer.Alike result) :
    (session.withSigner signer).Alike (twin.withSigner result) := by
  obtain ⟨chain, configuredHost, azureResourceId, config, resolved⟩ := session
  obtain ⟨twinChain, twinHost, twinResourceId, twinConfig, twinResolved⟩ := twin
  obtain ⟨hchain, hdiscreet, hhost, hresourceId, hresolved, hconfig⟩ := h
  cases hresolved with
  | none => exact ⟨hchain, hdiscreet, hhost, hresourceId, .none, hconfig⟩
  | some hresolved =>
      refine ⟨hchain, hdiscreet, hhost, hresourceId, .some ?_, ?_⟩
      · exact ⟨hresolved.host, hresolved.authenticator, hsigner⟩
      · intro hnone
        cases hnone

/-! ### One authenticator -/

/-- What an authenticator came to is kept in both runs, or in neither, which is when the settings
have to be alike still. -/
theorem coupled_keep (h : OpenAlike session twin) (name : String)
    {signer twinSigner : Signer} (hsigner : signer.Alike twinSigner)
    (hhost : nonEmpty config.host = nonEmpty other.host)
    (hconfig : config.Alike other ∨ nonEmpty config.host ≠ none) :
    InStep (Gate.LeavesAlike Alike Resolved.Alike)
      (keep { session with config := config } name signer)
      (keep { twin with config := other } name twinSigner) := by
  unfold keep
  dsimp only
  rw [← hhost, ← hsigner.kind]
  cases hfound : nonEmpty config.host with
  | none =>
      have halike := hconfig.resolve_right fun hsome => hsome hfound
      exact .done ⟨(h.withConfig halike).1, .error _⟩
  | some host =>
      rw [Option.getD_some, normalizeHost_ne_empty (nonEmpty_eq_some_iff.mp hfound).2]
      apply Coupled.after_log
      have hresolved : Resolved.Alike ⟨Workspace.normalizeHost host, name, signer⟩
          ⟨Workspace.normalizeHost host, name, twinSigner⟩ := ⟨rfl, rfl, hsigner⟩
      exact .done ⟨h.1.withResolved hresolved, .ok hresolved⟩

theorem stagesAlike_askAuthenticator {authenticator : Authenticator}
    (hdiscreet : authenticator.Discreet) :
    Gate.StagesAlike Alike OpenAlike Resolved.Alike (askAuthenticator authenticator)
      (askAuthenticator authenticator) := by
  intro session twin h
  apply Coupled.after_log
  refine (hdiscreet session.config twin.config (h.1.config h.2)).bind ?_ ?_
  · rintro _ _ (@⟨config, other, verdict, twinVerdict, hconfig, hverdict⟩ |
      @⟨config, other, signer, twinSigner, host, hhost, htwin, hsigner⟩)
    · have hopen := h.withConfig hconfig
      rcases hverdict with failure | (hsigner | _)
      · cases failure with
        | error error =>
            apply Coupled.after_log
            exact .done (.ends hopen.1 (.error _))
        | outOfCalendar => exact .done (.ends hopen.1 (.error _))
      · have hhost : nonEmpty config.host = nonEmpty other.host :=
          hconfig.same (fun config => nonEmpty config.host) fun _ => rfl
        refine (coupled_keep h authenticator.name hsigner hhost (.inl hconfig)).bind ?_
        intro left result hleaves
        exact .done (.ends hleaves.1 hleaves.2)
      · exact .done (.goesOn hopen)
    · have hsome : nonEmpty config.host ≠ none := by simp [hhost]
      refine (coupled_keep h authenticator.name hsigner (hhost.trans htwin.symm) (.inr hsome)).bind ?_
      intro left result hleaves
      exact .done (.ends hleaves.1 hleaves.2)
  · rintro ⟨config, _⟩ ⟨other, _⟩ ⟨herrors⟩
    exact apart_bind fun _ _ => apart_done (.mk (.mk herrors))

/-! ### A whole walk -/

theorem gate_alike {chain : List Authenticator}
    (hchain : ∀ authenticator ∈ chain, authenticator.Discreet) :
    (gate chain).Alike (gate chain) Alike OpenAlike Resolved.Alike where
  look session twin h := .done ⟨h.resolved, fun hnone => ⟨h, hnone⟩⟩
  stages := by
    unfold gate
    rw [List.forall₂_map_left_iff, List.forall₂_map_right_iff, List.forall₂_same]
    intro authenticator hmem
    exact stagesAlike_askAuthenticator (hchain authenticator hmem)
  last session twin h := .done ⟨h.1, .error _⟩

theorem Alike.authenticate (h : session.Alike twin) :
    Coupled (Gate.LeavesAlike Alike Resolved.Alike) TellApart session.authenticate
      twin.authenticate := by
  unfold Session.authenticate
  rw [← h.chain]
  exact (gate_alike h.discreet).get h

theorem start_alike (h : config.Alike other) {chain : List Authenticator}
    (hchain : ∀ authenticator ∈ chain, authenticator.Discreet) :
    (start config chain).Alike (start other chain) where
  chain := rfl
  discreet := hchain
  configuredHost := h.same (fun config => (start config chain).configuredHost) fun _ => rfl
  azureResourceId := h.same (fun config => (start config chain).azureResourceId) fun _ => rfl
  resolved := .none
  config _ := h

end Session

end ControlPlane
