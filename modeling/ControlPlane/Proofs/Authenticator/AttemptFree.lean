import ControlPlane.Proofs.Authenticator.Verdicts

/-!
# Authentication makes no attempt

An attempt is the sending of a call. Finding a credential and signing with it ask for files,
commands and token endpoints, but never for an attempt, nor does the signer that is found when it
refreshes its token.
-/

namespace ControlPlane

open Program

def Signer.AttemptFree (signer : Signer) : Prop :=
  match signer.rule with
  | .fixed _ => True
  | .refreshing inner => inner.source.run.AttemptFree

namespace Authenticator

/-- The signer of a verdict, if it has one, refreshes its token without an attempt. -/
def YieldsAttemptFree (verdict : Verdict) : Prop :=
  ∀ signer, verdict = .ok (some signer) → signer.AttemptFree

structure AttemptFree (authenticator : Authenticator) : Prop where
  asks (config : Config) : (authenticator.resolve config).AttemptFree
  signer (config : Config) :
    (authenticator.resolve config).Every fun found => YieldsAttemptFree found.2

theorem yields_error (failure : Failure) : YieldsAttemptFree (.error failure) := by
  intro signer h
  cases h

theorem yields_none : YieldsAttemptFree (.ok none) := by
  intro signer h
  cases h

theorem yields_some {signer : Signer} (h : signer.AttemptFree) :
    YieldsAttemptFree (.ok (some signer)) := by
  rintro other ⟨⟩
  exact h

theorem FixedVerdict.yieldsAttemptFree {verdict : Verdict} (h : FixedVerdict verdict) :
    YieldsAttemptFree verdict := by
  cases h with
  | fails error => exact yields_error _
  | declines => exact yields_none
  | @signs kind credential signer hsigner =>
      unfold Signer.ofCredential at hsigner
      cases hheader : Signer.authorizationHeader kind.scheme credential with
      | error error =>
          rw [hheader] at hsigner
          cases hsigner
      | ok header =>
          rw [hheader] at hsigner
          obtain rfl := Except.ok.inj hsigner
          exact yields_some trivial

theorem RefreshingVerdict.yieldsAttemptFree {sources : TokenSource → Prop} {verdict : Verdict}
    (h : RefreshingVerdict sources verdict)
    (hsources : ∀ source, sources source → source.run.AttemptFree) :
    YieldsAttemptFree verdict := by
  cases h with
  | fails failure => exact yields_error _
  | @signs kind inner hsource => exact yields_some (hsources inner.source hsource)

theorem attemptFree_direct : direct.AttemptFree where
  asks config := (asks_direct config).attemptFree fun _ h => h
  signer config := (every_direct config).mono fun _ h => h.yieldsAttemptFree

variable [Wording]

omit [Wording] in
theorem attemptFree_azureClientSecret : azureClientSecret.AttemptFree where
  asks config := by
    cases hprincipal : principal? config.azure with
    | none =>
        apply asks_ofReader
        simp only [hprincipal]
        exact Attempt.asks_pure _
    | some principal => exact (asks_azureClientSecret hprincipal).attemptFree fun _ h => h
  signer config := by
    cases hprincipal : principal? config.azure with
    | none =>
        apply every_ofReader
        simp only [hprincipal]
        exact yields_none
    | some principal =>
        refine (every_azureClientSecret hprincipal).mono fun found h => ?_
        apply h.yieldsAttemptFree
        rintro source rfl
        exact principal.asks_token.attemptFree fun _ h => h

theorem attemptFree_azureCli : azureCli.AttemptFree where
  asks config := (asks_azureCli config).attemptFree fun _ h => h
  signer config := by
    apply every_ofReader
    cases nonEmpty config.azure.resourceId with
    | none => exact yields_none
    | some resourceId =>
        apply Attempt.every_bind_of_fails yields_error
        intro _
        apply Attempt.every_bind_of_fails yields_error
        intro token
        cases token with
        | none => exact Attempt.every_bind_of_fails yields_error fun _ => yields_none
        | some token =>
            apply Attempt.every_bind_of_fails yields_error
            intro _
            refine (every_azureSigner ..).mono fun verdict h => h.yieldsAttemptFree ?_
            rintro source rfl
            exact asks_azureCliToken.attemptFree fun _ h => h

theorem attemptFree_google (surface : Surface) : (google surface).AttemptFree where
  asks config := (asks_google surface config).attemptFree fun _ h => h
  signer config := by
    cases haccount : nonEmpty config.google.serviceAccount with
    | none =>
        apply every_ofReader
        simp only [haccount]
        exact yields_none
    | some serviceAccount =>
        by_cases hsurface : Surface.ofConfig config = surface
        · refine (every_google hsurface haccount).mono fun found h => h.yieldsAttemptFree ?_
          rintro source ⟨account, rfl⟩
          exact (GoogleAccount.asks_token account config).attemptFree fun _ h => h
        · apply every_ofReader
          simp only [haccount, if_pos hsurface]
          exact yields_none

theorem attemptFree_profile : profile.AttemptFree where
  asks config := (asks_profile config).attemptFree fun _ h => h
  signer config := (every_profile config).mono fun _ h => h.1.yieldsAttemptFree

theorem attemptFree_of_mem_standardChain {authenticator : Authenticator}
    (h : authenticator ∈ standardChain) : authenticator.AttemptFree := by
  simp only [standardChain, List.mem_cons, List.not_mem_nil, or_false] at h
  rcases h with rfl | rfl | rfl | rfl | rfl | rfl
  · exact attemptFree_direct
  · exact attemptFree_azureClientSecret
  · exact attemptFree_azureCli
  · exact attemptFree_google .accounts
  · exact attemptFree_google .workspace
  · exact attemptFree_profile

end Authenticator

end ControlPlane
