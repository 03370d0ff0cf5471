import ControlPlane.Proofs.Authenticator.Fetch

/-!
# What authenticators leave and what they find

In every run, whatever is answered: the profile may complete the host in the settings and name the
default profile, a basic credential takes the password out of them, and nothing else in them changes.
A signer of a service account draws from an account whose audience is the host, and the token it
starts with was granted for that audience.
-/

namespace ControlPlane

open Program

theorem Signer.kind_of_ofCredential {kind : AuthKind} {credential : String} {signer : Signer}
    (h : ofCredential kind credential = .ok signer) : signer.kind = kind := by
  unfold ofCredential at h
  cases hheader : authorizationHeader kind.scheme credential with
  | error error =>
      rw [hheader] at h
      cases h
  | ok header =>
      rw [hheader] at h
      rw [← Except.ok.inj h]

namespace Authenticator

variable {config : Config} {trace : List Asked} {found : Config × Verdict} {signer : Signer}

/-! ### Direct credentials -/

/-- The password goes with a basic credential that was found, and only then. -/
theorem runs_direct_leaves (h : (direct.resolve config).Runs trace found) :
    (nonEmpty config.host).isSome ∧ (∃ signer, found.2 = .ok (some signer) ∧ signer.kind = .basic) ∧
        found.1 = { config with password := none } ∨
      (∀ signer, found.2 = .ok (some signer) → signer.kind ≠ .basic) ∧ found.1 = config := by
  obtain ⟨-, rfl⟩ := runs_direct Answers.bare h
  cases hcredential : directCredential? config with
  | none =>
      rw [outcome_direct_of_none hcredential]
      exact .inr ⟨by simp, rfl⟩
  | some credential =>
      cases hhost : nonEmpty config.host with
      | none =>
          rw [outcome_direct_of_hostless hcredential hhost]
          exact .inr ⟨by simp, rfl⟩
      | some host =>
          rw [outcome_direct_of_host hcredential hhost]
          by_cases hkind : credential.kind = .basic
          · obtain ⟨signer, hsigner⟩ := ofCredential_of_directCredential hcredential hkind
            rw [hsigner, if_pos hkind]
            refine .inl ⟨rfl, ⟨signer, rfl, ?_⟩, rfl⟩
            rw [Signer.kind_of_ofCredential hsigner, hkind]
          · rw [if_neg hkind]
            refine .inr ⟨?_, rfl⟩
            intro signer hfound
            cases hsigner : Signer.ofCredential credential.kind credential.text with
            | error error =>
                rw [hsigner] at hfound
                cases hfound
            | ok found =>
                rw [hsigner] at hfound
                obtain rfl := Option.some.inj (Except.ok.inj hfound)
                rwa [Signer.kind_of_ofCredential hsigner]

/-! ### Google -/

variable [Wording]

/-- An identity token of the account's audience was asked for, and this one was granted. -/
def GoogleAccount.Requested (account : GoogleAccount) (token : Token) (trace : List Asked) : Prop :=
  ∃ now assertion request response grant,
    (⟨.wallClock, now⟩ : Asked) ∈ trace ∧
    account.key.assertion (now.nanos / Instant.second) "target_audience" account.audience =
      .ok assertion ∧
    Endpoint.Posts account.key.effectiveTokenUri
      [("grant_type", assertionGrant), ("assertion", assertion)] request ∧
    (⟨.exchange request, .ok response⟩ : Asked) ∈ trace ∧
    (Endpoint.Grant.schema.decoder {}).decode? response.body = some grant ∧
    grant.idToken = some token.text

theorem GoogleAccount.Requested.mono {account : GoogleAccount} {token : Token}
    {more : List Asked} (h : account.Requested token trace) (hmore : trace ⊆ more) :
    account.Requested token more := by
  obtain ⟨now, assertion, request, response, grant, hclock, hassertion, hposts, hexchange, h⟩ := h
  exact ⟨now, assertion, request, response, grant, hmore hclock, hassertion, hposts,
    hmore hexchange, h⟩

theorem GoogleAccount.GrantsIdentity.requested {account : GoogleAccount}
    {identity : Endpoint.Receipt} {token : Token} (h : account.GrantsIdentity trace identity)
    (htext : token.text = identity.text) : account.Requested token trace := by
  obtain ⟨grant, ⟨now, request, response, hasserts, rfl, -, hgrant⟩, htoken, -⟩ := h
  obtain ⟨assertion, hassertion, hsends⟩ := hasserts
  exact ⟨now, assertion, request, response, grant, by simp, hassertion, hsends.posts, by simp,
    hgrant, by rw [htoken, htext]⟩

theorem GoogleAccount.requested_of_token {account : GoogleAccount} {token : Token}
    (h : account.token.run.Runs trace (.ok token)) : account.Requested token trace := by
  obtain ⟨identity, access?, hfetched, rfl⟩ := GoogleAccount.runs_token_iff.mp h
  cases hfetched with
  | one _ hgrants => exact (hgrants.requested rfl).mono (List.subset_append_left _ _)
  | both _ hgrants =>
      rw [List.append_assoc]
      exact (hgrants.requested rfl).mono (List.subset_append_left _ _)

/-- The signer of a service account starts with a token from the source that it draws from. -/
theorem runs_google_ok {surface : Surface} (h : ((google surface).resolve config).Runs trace found)
    (hsigner : found.2 = .ok (some signer)) :
    ∃ (account : GoogleAccount) (token : Token) (fetching : List Asked),
      signer = ⟨surface.kind, .refreshing { source := account.token, cached := token }⟩ ∧
        account.surface = surface ∧
        account.audience = Workspace.normalizeHost ((nonEmpty config.host).getD "") ∧
        fetching <:+: trace ∧ account.token.run.Runs fetching (.ok token) := by
  have hfind := (runs_ofReader h).2
  rw [hsigner] at hfind
  cases haccount : nonEmpty config.google.serviceAccount with
  | none =>
      simp only [haccount] at hfind
      cases (runs_done_iff.mp hfind).2
  | some serviceAccount =>
      simp only [haccount] at hfind
      split at hfind
      · cases (runs_done_iff.mp hfind).2
      · obtain ⟨checking, _, _, rfl, -, hloaded⟩ := Attempt.runs_bind_ok hfind
        obtain ⟨loading, key, _, rfl, -, hfetched⟩ := Attempt.runs_bind_ok hloaded
        obtain ⟨fetching, token, rest, rfl, htoken, hannounced⟩ := Attempt.runs_bind_ok hfetched
        obtain ⟨announcing, _, last, rfl, -, hdone⟩ := Attempt.runs_bind_ok hannounced
        obtain ⟨-, hresult⟩ := runs_done_iff.mp hdone
        refine ⟨_, token, fetching, Option.some.inj (Except.ok.inj hresult), rfl, rfl, ?_, htoken⟩
        exact ⟨checking ++ loading, announcing ++ last, by simp only [List.append_assoc]⟩

/-! ### All together -/

omit [Wording] in
@[simp] theorem name_direct : direct.name = "direct" := rfl

omit [Wording] in
@[simp] theorem name_azureClientSecret : azureClientSecret.name = "azure-client-secret" := rfl

@[simp] theorem name_azureCli : azureCli.name = "azure-cli" := rfl

@[simp] theorem name_google (surface : Surface) :
    (google surface).name = "google-" ++ surface.text := rfl

@[simp] theorem name_googleAccounts : googleAccounts.name = "google-accounts" := rfl

@[simp] theorem name_googleWorkspace : googleWorkspace.name = "google-workspace" := rfl

@[simp] theorem name_profile : profile.name = "profile" := rfl

/-- What a run of an authenticator of this name leaves in the settings, and what it finds. -/
structure Contributes (name : String) (config : Config) (trace : List Asked)
    (found : Config × Verdict) : Prop where
  others : { found.1 with
    host := config.host, profile := config.profile, password := config.password } = config
  profile : found.1.profile = config.profile ∨
    nonEmpty config.profile = none ∧ found.1.profile = some defaultProfile
  password_dropped {signer : Signer} : name = direct.name → found.2 = .ok (some signer) →
    signer.kind = .basic → (nonEmpty found.1.host).isSome ∧ found.1.password = none
  password_kept : (∀ signer, name = direct.name → found.2 = .ok (some signer) →
    signer.kind ≠ .basic) → found.1.password = config.password
  audience {signer : Signer} : name = googleAccounts.name ∨ name = googleWorkspace.name →
    found.2 = .ok (some signer) → ∃ (account : GoogleAccount) (token : Token),
      signer.rule = .refreshing { source := account.token, cached := token } ∧
        account.audience = Workspace.normalizeHost ((nonEmpty found.1.host).getD "") ∧
        account.Requested token trace

theorem Completes.contributes {name : String} (h : Completes config found.1)
    (hdirect : name ≠ direct.name)
    (hgoogle : name ≠ googleAccounts.name ∧ name ≠ googleWorkspace.name) :
    Contributes name config trace found := by
  obtain ⟨host, profileName, hfound, hprofile⟩ := h
  refine ⟨?_, ?_, fun hname => absurd hname hdirect, fun _ => ?_, fun hname => ?_⟩
  · rw [hfound]
  · rwa [hfound]
  · rw [hfound]
  · rcases hname with hname | hname
    · exact absurd hname hgoogle.1
    · exact absurd hname hgoogle.2

theorem contributes_direct (h : (direct.resolve config).Runs trace found) :
    Contributes direct.name config trace found := by
  have hgoogle : ¬ (direct.name = googleAccounts.name ∨ direct.name = googleWorkspace.name) := by
    simp
  rcases runs_direct_leaves h with ⟨hhost, ⟨signer, hsigner, hkind⟩, hfound⟩ | ⟨hother, hfound⟩
  · refine ⟨by rw [hfound], .inl (by rw [hfound]), fun _ _ _ => by rw [hfound]; exact ⟨hhost, rfl⟩,
      ?_, ?_⟩
    · intro hnone
      exact absurd hkind (hnone signer rfl hsigner)
    · intro _ hname
      exact absurd hname hgoogle
  · refine ⟨by rw [hfound], .inl (by rw [hfound]), ?_, fun _ => by rw [hfound], ?_⟩
    · intro signer _ hsigner hkind
      exact absurd hkind (hother signer hsigner)
    · intro _ hname
      exact absurd hname hgoogle

theorem contributes_google {surface : Surface}
    (h : ((google surface).resolve config).Runs trace found) :
    Contributes (google surface).name config trace found := by
  have hdirect : (google surface).name ≠ direct.name := by
    cases surface <;> simp [Surface.text]
  have hfound := (runs_ofReader h).1
  refine ⟨by rw [hfound], .inl (by rw [hfound]), fun hname => absurd hname hdirect,
    fun _ => by rw [hfound], ?_⟩
  intro signer _ hsigner
  obtain ⟨account, token, fetching, rfl, -, haudience, hpart, htoken⟩ := runs_google_ok h hsigner
  exact ⟨account, token, rfl, by rw [haudience, hfound],
    (GoogleAccount.requested_of_token htoken).mono hpart.subset⟩

/-- **What one authenticator contributes.** -/
theorem contributes_of_mem_standardChain {authenticator : Authenticator}
    (hmem : authenticator ∈ standardChain) (h : (authenticator.resolve config).Runs trace found) :
    Contributes authenticator.name config trace found := by
  simp only [standardChain, List.mem_cons, List.not_mem_nil, or_false] at hmem
  rcases hmem with rfl | rfl | rfl | rfl | rfl | rfl
  · exact contributes_direct h
  · have hsame : Completes config found.1 := by rw [(runs_ofReader h).1]; exact .same config
    exact hsame.contributes (by simp) (by simp)
  · have hsame : Completes config found.1 := by rw [(runs_ofReader h).1]; exact .same config
    exact hsame.contributes (by simp) (by simp)
  · exact contributes_google h
  · exact contributes_google h
  · exact (h.every (every_profile config)).2.contributes (by simp) (by simp)

end Authenticator

end ControlPlane
