import ControlPlane.Proofs.Authenticator.Verdicts

/-!
# Signers that authorize

A signer authorizes if it sets an authorization, whatever else it sets: one with fixed headers has
it as the first of them, one that keeps a token makes it of the token. All signers that the standard
authenticators find are of these two forms.
-/

namespace ControlPlane

open Program

def Signer.Authorizes (signer : Signer) : Prop :=
  (∃ value more, signer.rule = .fixed ((.authorization, value) :: more)) ∨
    ∃ inner, signer.rule = .refreshing inner

theorem Signer.authorizes_of_ofCredential {kind : AuthKind} {credential : String} {signer : Signer}
    (h : ofCredential kind credential = .ok signer) : signer.Authorizes := by
  unfold ofCredential authorizationHeader at h
  cases hvalue : FixedHeader.sensitive (kind.scheme ++ " " ++ credential) with
  | error error =>
      rw [hvalue] at h
      cases h
  | ok value =>
      rw [hvalue] at h
      obtain rfl := Except.ok.inj h
      exact .inl ⟨value, [], rfl⟩

namespace Authenticator

/-- The signer of a verdict, if it has one, authorizes. -/
def YieldsAuthorized (verdict : Verdict) : Prop :=
  ∀ signer, verdict = .ok (some signer) → signer.Authorizes

/-- Whatever an authenticator is answered, the signer that it finds authorizes. -/
def Authorizes (authenticator : Authenticator) : Prop :=
  ∀ config, (authenticator.resolve config).Every fun found => YieldsAuthorized found.2

theorem yieldsAuthorized_error (failure : Failure) : YieldsAuthorized (.error failure) := by
  intro signer h
  cases h

theorem yieldsAuthorized_none : YieldsAuthorized (.ok none) := by
  intro signer h
  cases h

theorem FixedVerdict.yieldsAuthorized {verdict : Verdict} (h : FixedVerdict verdict) :
    YieldsAuthorized verdict := by
  cases h with
  | fails error => exact yieldsAuthorized_error _
  | declines => exact yieldsAuthorized_none
  | signs hsigner =>
      rintro signer ⟨⟩
      exact Signer.authorizes_of_ofCredential hsigner

theorem RefreshingVerdict.yieldsAuthorized {sources : TokenSource → Prop} {verdict : Verdict}
    (h : RefreshingVerdict sources verdict) : YieldsAuthorized verdict := by
  cases h with
  | fails failure => exact yieldsAuthorized_error _
  | signs kind hsource =>
      rintro signer ⟨⟩
      exact .inr ⟨_, rfl⟩

theorem authorizes_direct : direct.Authorizes := fun config =>
  (every_direct config).mono fun _ h => h.yieldsAuthorized

variable [Wording]

theorem authorizes_profile : profile.Authorizes := fun config =>
  (every_profile config).mono fun _ h => h.1.yieldsAuthorized

omit [Wording] in
theorem authorizes_azureClientSecret : azureClientSecret.Authorizes := by
  intro config
  cases hprincipal : principal? config.azure with
  | none =>
      apply every_ofReader
      simp only [hprincipal]
      exact yieldsAuthorized_none
  | some principal =>
      exact (every_azureClientSecret hprincipal).mono fun _ h => h.yieldsAuthorized

theorem authorizes_azureCli : azureCli.Authorizes := by
  intro config
  apply every_ofReader
  cases nonEmpty config.azure.resourceId with
  | none => exact yieldsAuthorized_none
  | some resourceId =>
      apply Attempt.every_bind_of_fails yieldsAuthorized_error
      intro _
      apply Attempt.every_bind_of_fails yieldsAuthorized_error
      intro token
      cases token with
      | none =>
          exact Attempt.every_bind_of_fails yieldsAuthorized_error fun _ => yieldsAuthorized_none
      | some token =>
          apply Attempt.every_bind_of_fails yieldsAuthorized_error
          intro _
          exact (every_azureSigner ..).mono fun _ h => h.yieldsAuthorized

theorem authorizes_google (surface : Surface) : (google surface).Authorizes := by
  intro config
  cases haccount : nonEmpty config.google.serviceAccount with
  | none =>
      apply every_ofReader
      simp only [haccount]
      exact yieldsAuthorized_none
  | some serviceAccount =>
      by_cases hsurface : Surface.ofConfig config = surface
      · exact (every_google hsurface haccount).mono fun _ h => h.yieldsAuthorized
      · apply every_ofReader
        simp only [haccount, if_pos hsurface]
        exact yieldsAuthorized_none

/-- **The standard authenticators authorize.** -/
theorem authorizes_of_mem_standardChain {authenticator : Authenticator}
    (h : authenticator ∈ standardChain) : authenticator.Authorizes := by
  simp only [standardChain, List.mem_cons, List.not_mem_nil, or_false] at h
  rcases h with rfl | rfl | rfl | rfl | rfl | rfl
  · exact authorizes_direct
  · exact authorizes_azureClientSecret
  · exact authorizes_azureCli
  · exact authorizes_google .accounts
  · exact authorizes_google .workspace
  · exact authorizes_profile

end Authenticator

end ControlPlane
