import ControlPlane.Proofs.Authenticator.Lifetimes
import ControlPlane.Proofs.Signer.Refresh
import ControlPlane.Surroundings.Wording

/-!
# How asking a token endpoint ends

**Answers of token endpoints** (`outOfCalendar_iff_endsBeyond`). An authenticator that gets its
tokens from an endpoint comes to a result or to an error, and so does every later signing with what
it found, whatever the endpoint answers to the first exchange or to one of the refreshing ones. The
one exception is a grant whose lifetime ends beyond the calendar, and it is one: the expiry is added
up without a check.
-/

namespace ControlPlane

open Program

namespace TokenSigner

variable {signer later : TokenSigner} {headers : HeaderMap} {trace : List Asked}

theorem outcome_setTexts (headers : HeaderMap) (texts : List (String × String)) :
    (setTexts headers texts).outcome ≠ .error .outOfCalendar := by
  induction texts generalizing headers with
  | nil => simp [setTexts]
  | cons text texts ih =>
      unfold setTexts
      cases FixedHeader.ofTexts text.1 text.2 with
      | error error => simp
      | ok header => exact ih _

theorem outcome_setToken (headers : HeaderMap) (token : Token) (fixed : List FixedHeader) :
    (setToken headers token fixed).outcome ≠ .error .outOfCalendar := by
  unfold setToken
  cases FixedHeader.sensitive ("Bearer " ++ token.text) with
  | error error => simp
  | ok value =>
      have htexts := outcome_setTexts (headers.insert .authorization value) token.headers
      dsimp only
      split
      · exact htexts
      · simpa using htexts

theorem outcome_conclude (headers : HeaderMap) (fixed : List FixedHeader)
    (found : Except Failure Token) :
    (conclude headers fixed found).outcome = .error .outOfCalendar ↔
      found = .error .outOfCalendar := by
  cases found with
  | error failure => simp [conclude]
  | ok token => simpa [conclude] using outcome_setToken headers token fixed

/-- Signing leaves the calendar where its source does. -/
theorem exact_sign {signed : Signed}
    (hsource : ∀ past, Calm past → signer.source.ExactAfter past)
    (h : (signer.sign headers).Runs trace (later, signed)) :
    later.source = signer.source ∧
      (signed.outcome = .error .outOfCalendar ↔ EndsBeyond trace) := by
  obtain ⟨looking, ⟨kept, found⟩, rest, rfl, hfresh, hdone⟩ := runs_bind_iff.mp h
  obtain ⟨rfl, hresult⟩ := runs_done_iff.mp hdone
  obtain ⟨rfl, rfl⟩ := Prod.mk.inj hresult
  obtain ⟨hkept, -, hfound⟩ := runs_freshToken hfresh
  refine ⟨hkept, ?_⟩
  rw [outcome_conclude, List.append_nil]
  rcases hfound with ⟨rfl, hclocks⟩ | ⟨looks, line, fetching, rfl, hrun⟩
  · refine iff_of_false (by simp) fun hends => ?_
    obtain ⟨asked, hmem, request, hexchange⟩ := hends.exists_exchange
    have hclock := hclocks asked hmem
    rw [hexchange] at hclock
    cases hclock
  · have hcalm : Calm (looks ++ [⟨.log .debug line, ()⟩]) :=
      Calm.concat (EndsBeyond.not_concat (by simp)) (by simp)
    exact hsource _ hcalm fetching _ hrun

end TokenSigner

namespace Signer

variable {signer later : Signer} {headers : HeaderMap} {trace : List Asked}

/-- A later state of a signer, which has signed requests since. -/
inductive Becomes (signer : Signer) : Signer → Prop where
  | same : Becomes signer signer
  | signs {before after : Signer} {headers : HeaderMap} {trace : List Asked} {signed : Signed}
      (h : Becomes signer before) (hrun : (before.sign headers).Runs trace (after, signed)) :
      Becomes signer after

/-- A signer whose source leaves the calendar exactly where a grant does. -/
def Exact (signer : Signer) : Prop :=
  ∃ inner, signer.rule = .refreshing inner ∧
    ∀ past, Calm past → inner.source.ExactAfter past

theorem Exact.sign {signed : Signed} (hexact : signer.Exact)
    (h : (signer.sign headers).Runs trace (later, signed)) :
    later.Exact ∧ (signed.outcome = .error .outOfCalendar ↔ EndsBeyond trace) := by
  obtain ⟨inner, hrule, hsource⟩ := hexact
  unfold Signer.sign at h
  rw [hrule] at h
  obtain ⟨first, ⟨kept, result⟩, second, rfl, hsign, hdone⟩ := runs_bind_iff.mp h
  obtain ⟨rfl, hlater⟩ := runs_done_iff.mp hdone
  obtain ⟨rfl, rfl⟩ := Prod.mk.inj hlater
  obtain ⟨hkept, hiff⟩ := TokenSigner.exact_sign hsource hsign
  rw [List.append_nil]
  exact ⟨⟨kept, rfl, hkept ▸ hsource⟩, hiff⟩

theorem Exact.becomes (hexact : signer.Exact) (h : signer.Becomes later) : later.Exact := by
  induction h with
  | same => exact hexact
  | signs _ hrun ih => exact (ih.sign hrun).1

end Signer

namespace Authenticator

section

variable [Wording]

/-- The authenticators that get their tokens from an endpoint. -/
def endpointChain : List Authenticator :=
  [azureClientSecret, googleAccounts, googleWorkspace]

omit [Wording] in
theorem RefreshingVerdict.exact {sources : TokenSource → Prop} {verdict : Verdict}
    {signer : Signer} (h : RefreshingVerdict sources verdict)
    (hsources : ∀ source, sources source → ∀ past, Calm past → source.ExactAfter past)
    (hsigner : verdict = .ok (some signer)) : signer.Exact := by
  cases h with
  | fails failure => cases hsigner
  | @signs kind inner hsource =>
      obtain rfl := Option.some.inj (Except.ok.inj hsigner)
      exact ⟨inner, rfl, hsources inner.source hsource⟩

omit [Wording] in
theorem exact_of_azureClientSecret {config : Config} {trace : List Asked}
    {found : Config × Verdict} {signer : Signer}
    (hrun : (azureClientSecret.resolve config).Runs trace found)
    (hsigner : found.2 = .ok (some signer)) : signer.Exact := by
  cases hprincipal : principal? config.azure with
  | none =>
      obtain ⟨-, rfl⟩ := runs_azureClientSecret_of_none hprincipal hrun
      cases hsigner
  | some principal =>
      have hverdict := hrun.every (every_azureClientSecret hprincipal)
      apply hverdict.exact _ hsigner
      rintro source rfl past hpast
      exact principal.exactAfter_token hpast.within

theorem exact_of_google {surface : Surface} {config : Config} {trace : List Asked}
    {found : Config × Verdict} {signer : Signer}
    (hrun : ((google surface).resolve config).Runs trace found)
    (hsigner : found.2 = .ok (some signer)) : signer.Exact := by
  cases haccount : nonEmpty config.google.serviceAccount with
  | none =>
      obtain ⟨-, rfl⟩ := runs_google_of_none (.inl haccount) hrun
      cases hsigner
  | some serviceAccount =>
      by_cases hsurface : Surface.ofConfig config = surface
      · have hverdict := hrun.every (every_google hsurface haccount)
        apply hverdict.exact _ hsigner
        rintro source ⟨account, rfl⟩ past hpast
        exact account.exactAfter_token hpast
      · obtain ⟨-, rfl⟩ := runs_google_of_none (.inr hsurface) hrun
        cases hsigner

/-- **Answers of token endpoints.** -/
theorem outOfCalendar_iff_endsBeyond {authenticator : Authenticator} {config : Config}
    {trace : List Asked} {found : Config × Verdict} (hmem : authenticator ∈ endpointChain)
    (hrun : (authenticator.resolve config).Runs trace found) :
    (found.2 = .error .outOfCalendar ↔ EndsBeyond trace) ∧
      ∀ signer later, found.2 = .ok (some signer) → signer.Becomes later →
        ∀ headers past signed, (later.sign headers).Runs past signed →
          (signed.2.outcome = .error .outOfCalendar ↔ EndsBeyond past) := by
  suffices hexact : authenticator.Exact ∧
      ∀ signer, found.2 = .ok (some signer) → signer.Exact by
    refine ⟨hexact.1 config trace found hrun, ?_⟩
    intro signer later hsigner hlater headers past signed hsign
    exact (((hexact.2 signer hsigner).becomes hlater).sign hsign).2
  simp only [endpointChain, List.mem_cons, List.not_mem_nil, or_false] at hmem
  rcases hmem with rfl | rfl | rfl
  · exact ⟨exact_azureClientSecret, fun signer => exact_of_azureClientSecret hrun⟩
  · exact ⟨exact_google .accounts, fun signer => exact_of_google hrun⟩
  · exact ⟨exact_google .workspace, fun signer => exact_of_google hrun⟩

end

/-! ### A grant for as long as a number can say -/

/-- Settings of a service principal with a login endpoint at hand. -/
def principalSettings : Config :=
  { host := some "h"
    azure := {
      clientId := some "c"
      clientSecret := some "s"
      tenantId := some "t"
      loginEndpoint := some "http://[::1]" } }

/-- A token endpoint that grants a token for a number of seconds. -/
def granting (seconds : Nat) : Answers
  | .exchange _ =>
    .ok {
      status := 200
      body := Bytes.ofString
        ("\x7b\"access_token\": \"t\", \"expires_in\": " ++ toString seconds ++ "\x7d") }
  | query => Answers.bare query

/-- The greatest number that a lifetime can be. -/
def longest : Nat := 9223372036854775807

def failure? {α : Type} : Except Failure α → Option Failure
  | .ok _ => none
  | .error failure => some failure

theorem eq_error_of_failure? {α : Type} {result : Except Failure α} {failure : Failure}
    (h : failure? result = some failure) : result = .error failure := by
  cases result with
  | ok value => cases h
  | error other => rw [Option.some.inj h]

def signerOf? : Verdict → Option Signer
  | .ok signer => signer
  | .error _ => none

theorem eq_ok_of_signerOf? {verdict : Verdict} {signer : Signer}
    (h : signerOf? verdict = some signer) : verdict = .ok (some signer) := by
  cases verdict with
  | ok found => exact congrArg _ h
  | error failure => cases h

theorem endsBeyond_longest :
    EndsBeyond ((azureClientSecret.resolve principalSettings).askAll (granting longest)) := by
  have hresult : failure? ((azureClientSecret.resolve principalSettings).answerAll
      (granting longest)).2 = some .outOfCalendar := by
    decide +kernel
  have hiff := outOfCalendar_iff_endsBeyond (List.mem_cons_self ..)
    (runs_askAll (granting longest) (azureClientSecret.resolve principalSettings))
  exact hiff.1.mp (eq_error_of_failure? hresult)

/-- A signer whose token has ended refreshes it, and comes to neither a result nor an error. -/
theorem exists_signed_neither_ok_nor_error :
    ∃ trace found signer past signed,
      (azureClientSecret.resolve principalSettings).Runs trace found ∧
        found.2 = .ok (some signer) ∧ (signer.sign {}).Runs past signed ∧
        signed.2.outcome ≠ .ok () ∧ ∀ error, signed.2.outcome ≠ .error (.error error) := by
  have hrefresh : (signerOf? ((azureClientSecret.resolve principalSettings).answerAll
      (granting 0)).2).bind (fun signer =>
        failure? ((signer.sign {}).answerAll (granting longest)).2.outcome) =
      some .outOfCalendar := by
    decide +kernel
  obtain ⟨signer, hsigner, hfailure⟩ := Option.bind_eq_some_iff.mp hrefresh
  have houtcome := eq_error_of_failure? hfailure
  refine ⟨_, _, signer, _, _, runs_askAll (granting 0) _, eq_ok_of_signerOf? hsigner,
    runs_askAll (granting longest) _, ?_, ?_⟩
  · rw [houtcome]
    simp
  · intro error
    rw [houtcome]
    simp

end Authenticator

end ControlPlane
