import ControlPlane.Proofs.Authenticator.Leaves
import ControlPlane.Proofs.Signer.Origin
import ControlPlane.Proofs.Signer.Signature
import ControlPlane.Surroundings.Wording

/-!
# Tokens that end together

The two tokens of one fetch are kept as one, which ends with the first of them, so whatever is sent
while it has not expired carries two tokens that live. As they are also fetched again together, the
two that a request carries come from one fetch.
-/

namespace ControlPlane

open Program

namespace Endpoint.Receipt

variable {receipt : Receipt} {now : Instant}

/-- If the token ends, it ends later than at this instant. -/
def EndsAfter (receipt : Receipt) (instant : Instant) : Prop :=
  ∀ seconds, receipt.seconds = some seconds →
    instant.nanos < receipt.received.nanos + seconds * Instant.second

theorem nanos_of_addSeconds? {instant later : Instant} {seconds : Int}
    (h : instant.addSeconds? seconds = some later) :
    later.nanos = instant.nanos + seconds * Instant.second := by
  unfold Instant.addSeconds? Instant.ofNanos? at h
  split at h
  · rw [← Option.some.inj h]
  · cases h

theorem isLive_token_iff (h : receipt.InCalendar) :
    receipt.token.IsLive now ↔ receipt.EndsAfter now := by
  obtain ⟨text, received, _ | seconds⟩ := receipt
  · exact ⟨nofun, nofun⟩
  · obtain ⟨instant, hinstant⟩ := Option.isSome_iff_exists.mp (h seconds rfl)
    simp [Token.IsLive, EndsAfter, token, hinstant, nanos_of_addSeconds? hinstant]

end Endpoint.Receipt

namespace Authenticator.GoogleAccount

open Endpoint

variable {account : GoogleAccount} {trace : List Asked} {token : Token} {identity access : Receipt}
  {access? : Option Receipt}

/-! ### One end -/

/-- Tokens that all end at a date, the identity token in any case. -/
structure Dated (identity : Receipt) (access? : Option Receipt) : Prop where
  identity_lasts : identity.seconds.isSome
  identity_in : identity.InCalendar
  access_in {access : Receipt} : access? = some access → access.InCalendar

theorem Fetched.dated [Wording] (h : account.Fetched trace identity access?) : Dated identity access? := by
  cases h with
  | one _ hgrants hin =>
      obtain ⟨grant, -, -, hseconds⟩ := hgrants
      exact ⟨by rw [hseconds]; rfl, hin, nofun⟩
  | both _ hgrants hin _ hother =>
      obtain ⟨grant, -, -, hseconds⟩ := hgrants
      refine ⟨by rw [hseconds]; rfl, hin, ?_⟩
      rintro _ ⟨⟩
      exact hother

theorem Dated.expiresAt_identity (h : Dated identity access?) :
    ∃ instant, identity.token.expiresAt = some instant := by
  obtain ⟨seconds, hseconds⟩ := Option.isSome_iff_exists.mp h.identity_lasts
  obtain ⟨instant, hinstant⟩ := Option.isSome_iff_exists.mp (h.identity_in seconds hseconds)
  exact ⟨instant, by rw [Receipt.token, hseconds, Option.bind_some, hinstant]⟩

theorem joinTokens_expiresAt {identity access : Token} {instant : Instant}
    (h : identity.expiresAt = some instant) :
    (joinTokens identity access).expiresAt =
      some (access.expiresAt.elim instant fun other => ⟨min other.nanos instant.nanos⟩) := by
  cases hother : access.expiresAt <;> simp [joinTokens, Token.withHeader, h, hother]

/-- Two tokens as one live as long as both do. -/
theorem isLive_joinTokens_iff {identity access : Token} {instant now : Instant}
    (h : identity.expiresAt = some instant) :
    (joinTokens identity access).IsLive now ↔ identity.IsLive now ∧ access.IsLive now := by
  unfold Token.IsLive
  rw [joinTokens_expiresAt h, h]
  cases access.expiresAt with
  | none => simp
  | some other => simp only [Option.elim_some, Option.some.injEq, forall_eq', Int.lt_min, and_comm]

theorem Dated.expiresAt_isSome (h : Dated identity access?) :
    (fetchedToken identity access?).expiresAt.isSome := by
  obtain ⟨instant, hinstant⟩ := h.expiresAt_identity
  cases access? with
  | none => exact Option.isSome_iff_exists.mpr ⟨instant, hinstant⟩
  | some access => rw [fetchedToken, joinTokens_expiresAt hinstant, Option.isSome_some]

/-- **One end for all tokens of a fetch.** -/
theorem Dated.not_isExpired_iff (h : Dated identity access?) (now : Instant) :
    (fetchedToken identity access?).isExpired now = false ↔
      identity.EndsAfter (now.after Token.margin) ∧
        ∀ access, access? = some access → access.EndsAfter (now.after Token.margin) := by
  rw [Token.not_isExpired_iff]
  cases access? with
  | none => simp [fetchedToken, Receipt.isLive_token_iff h.identity_in]
  | some access =>
      obtain ⟨instant, hinstant⟩ := h.expiresAt_identity
      rw [fetchedToken, isLive_joinTokens_iff hinstant, Receipt.isLive_token_iff h.identity_in,
        Receipt.isLive_token_iff (h.access_in rfl)]
      simp

/-! ### One fetch -/

/-- Headers that carry these two tokens, each in the header that is meant for it. -/
structure Carries (headers : HeaderMap) (identity access : Receipt) : Prop where
  authorization : headers.values .authorization = [⟨"Bearer " ++ identity.text, true⟩]
  accessToken : headers.values ⟨"x-databricks-gcp-sa-access-token"⟩ = [⟨access.text, true⟩]

theorem ofText?_accessTokenHeader :
    HeaderName.ofText? accessTokenHeader = some ⟨"x-databricks-gcp-sa-access-token"⟩ := by
  decide

theorem carries_of_conclude {headers : HeaderMap}
    (hok : (TokenSigner.conclude headers []
      (.ok (fetchedToken identity (some access)))).outcome = .ok ()) :
    Carries (TokenSigner.conclude headers []
      (.ok (fetchedToken identity (some access)))).headers identity access := by
  rw [TokenSigner.conclude] at hok ⊢
  obtain ⟨own, hown, hheaders⟩ := TokenSigner.setToken_of_ok hok
  obtain ⟨-, extra, hextra, rfl⟩ := TokenSigner.made_of_tokenHeaders hown
  have hsets := Signature.sets_insertAll
    ⟨"Bearer", identity.text, [(accessTokenHeader, access.text)], []⟩ hextra .nil headers
  rw [hheaders]
  refine ⟨hsets.set ?_, hsets.set ?_⟩
  · simp [Signature.text?, Signature.lastText?, ofText?_accessTokenHeader, HeaderName.authorization]
  · simp [Signature.text?, Signature.lastText?, ofText?_accessTokenHeader]

section

variable [Wording]

theorem Fetched.exists_access (h : account.Fetched trace identity access?)
    (hsurface : account.surface = .accounts) : ∃ access, access? = some access := by
  cases h with
  | one hother =>
      rw [hsurface] at hother
      cases hother
  | both => exact ⟨_, rfl⟩

/-- **One fetch for both tokens.** Whoever signs on the accounts surface has the tokens that were
kept at first, or those of a fetch in between. -/
theorem pair_of_run? {kept keptAccess : Receipt} {events : List Gate.Event}
    {crowd : Gate.Crowd Token Token} {caller : Nat} (hsurface : account.surface = .accounts)
    (hrun : Gate.Crowd.run? (TokenSigner.gate account.token)
      (TokenSigner.opening (fetchedToken kept (some keptAccess))) events = some crowd)
    (hphase : crowd.phase caller = .finished (.ok token)) :
    ∃ identity access, token = fetchedToken identity (some access) ∧
      (identity = kept ∧ access = keptAccess ∨
        ∃ fetching, account.Fetched fetching identity (some access) ∧
          fetching <:+: Gate.Crowd.transcript (TokenSigner.gate account.token)
            (TokenSigner.opening (fetchedToken kept (some keptAccess))) events) := by
  have htold : (crowd.phase caller).outcome? = some (.ok token) := by
    rw [hphase]
    rfl
  rcases TokenSigner.originates_of_run? hrun htold with rfl | ⟨fetching, hpart, hruns⟩
  · exact ⟨kept, keptAccess, rfl, .inl ⟨rfl, rfl⟩⟩
  · obtain ⟨identity, access?, hfetched, rfl⟩ := runs_token_iff.mp hruns
    obtain ⟨access, rfl⟩ := hfetched.exists_access hsurface
    exact ⟨identity, access, rfl, .inr ⟨fetching, hfetched, hpart⟩⟩

/-- What holds of the tokens of an account. -/
structure EndTogether (account : GoogleAccount) : Prop where
  /-- With the tokens that the surface needs, a fetch comes to these as one. -/
  comes {trace : List Asked} {identity : Receipt} {access? : Option Receipt}
    {result : Except Failure Token} : account.Fetched trace identity access? →
      (account.token.run.Runs trace result ↔ result = .ok (fetchedToken identity access?))
  /-- In no other way does it come to a token. -/
  granted {trace : List Asked} {token : Token} : account.token.run.Runs trace (.ok token) →
    ∃ identity access?, account.Fetched trace identity access? ∧
      token = fetchedToken identity access?
  dated {trace : List Asked} {identity : Receipt} {access? : Option Receipt} :
    account.Fetched trace identity access? → Dated identity access?
  /-- The tokens as one have an end. -/
  ends {identity : Receipt} {access? : Option Receipt} : Dated identity access? →
    (fetchedToken identity access?).expiresAt.isSome
  /-- While they have not expired, each of them lasts half a minute more. -/
  lasts {identity : Receipt} {access? : Option Receipt} (now : Instant) : Dated identity access? →
    ((fetchedToken identity access?).isExpired now = false ↔
      identity.EndsAfter (now.after (Span.ofSeconds 30)) ∧
        ∀ access, access? = some access → access.EndsAfter (now.after (Span.ofSeconds 30)))
  stays {identity : Receipt} {access? : Option Receipt} {now later : Instant} :
    now.nanos ≤ later.nanos → (fetchedToken identity access?).isExpired now = true →
      (fetchedToken identity access?).isExpired later = true
  /-- Whoever signs on the accounts surface sends two tokens of one fetch: those that were kept at
  first, or those of a fetch in between, whose questions follow each other in the transcript. -/
  signed {kept keptAccess : Receipt} {events : List Gate.Event} {crowd : Gate.Crowd Token Token}
    {caller : Nat} {outcome : Except Failure Token} (headers : HeaderMap) :
      account.surface = .accounts →
      Gate.Crowd.run? (TokenSigner.gate account.token)
        (TokenSigner.opening (fetchedToken kept (some keptAccess))) events = some crowd →
      crowd.phase caller = .finished outcome →
      (TokenSigner.conclude headers [] outcome).outcome = .ok () →
        ∃ identity access, outcome = .ok (fetchedToken identity (some access)) ∧
          Carries (TokenSigner.conclude headers [] outcome).headers identity access ∧
            (identity = kept ∧ access = keptAccess ∨
              ∃ fetching, account.Fetched fetching identity (some access) ∧
                fetching <:+: Gate.Crowd.transcript (TokenSigner.gate account.token)
                  (TokenSigner.opening (fetchedToken kept (some keptAccess))) events)

theorem endTogether (account : GoogleAccount) : account.EndTogether where
  comes {trace identity access? result} hfetched := by
    have hruns := runs_token_iff.mpr ⟨identity, access?, hfetched, rfl⟩
    exact ⟨hruns.unique, fun hresult => hresult ▸ hruns⟩
  granted := runs_token_iff.mp
  dated := Fetched.dated
  ends := Dated.expiresAt_isSome
  lasts now hdated := hdated.not_isExpired_iff now
  stays := Token.isExpired_mono
  signed {kept keptAccess events crowd caller outcome} headers hsurface hrun hphase hok := by
    cases outcome with
    | error failure => cases hok
    | ok token =>
        obtain ⟨identity, access, rfl, horigin⟩ := pair_of_run? hsurface hrun hphase
        exact ⟨identity, access, rfl, carries_of_conclude hok, horigin⟩

/-- **Google tokens end together.** Whatever account, and whatever its endpoint answers at whatever
times; and the signer of the accounts surface keeps two tokens of one fetch from the start. -/
theorem google_tokens_end_together :
    (∀ account : GoogleAccount, account.EndTogether) ∧
      ∀ {config : Config} {trace : List Asked} {found : Config × Verdict} {signer : Signer},
        (googleAccounts.resolve config).Runs trace found → found.2 = .ok (some signer) →
          ∃ (account : GoogleAccount) (fetching : List Asked) (identity access : Receipt),
            signer = ⟨.googleAccounts, .refreshing
              { source := account.token, cached := fetchedToken identity (some access) }⟩ ∧
              account.surface = .accounts ∧ fetching <:+: trace ∧
                account.Fetched fetching identity (some access) := by
  refine ⟨endTogether, fun hrun hsigner => ?_⟩
  obtain ⟨account, token, fetching, rfl, hsurface, -, hpart, hruns⟩ := runs_google_ok hrun hsigner
  obtain ⟨identity, access?, hfetched, rfl⟩ := runs_token_iff.mp hruns
  obtain ⟨access, rfl⟩ := hfetched.exists_access hsurface
  exact ⟨account, fetching, identity, access, rfl, hsurface, hpart, hfetched⟩

end

def minuteAccount : GoogleAccount :=
  { key := { clientEmail := "e", privateKey := "k" }
    audience := "https://a.b"
    surface := .accounts }

/-- An identity token of an hour. -/
def hourIdentity : Receipt := ⟨"i", ⟨0⟩, some 3600⟩

/-- An access token of a minute, which came a second later. -/
def minuteAccess : Receipt := ⟨"a", ⟨Instant.second⟩, some 60⟩

/-- The access token ends first: half a minute after it came both are used for the last time. -/
theorem google_tokens_end_together_minute :
    let kept := fetchedToken hourIdentity (some minuteAccess)
    let gate := TokenSigner.gate minuteAccount.token
    kept.isExpired ⟨31 * Instant.second - 1⟩ = false ∧
      minuteAccess.EndsAfter ⟨61 * Instant.second - 1⟩ ∧
      kept.isExpired ⟨31 * Instant.second⟩ = true ∧ ¬ minuteAccess.EndsAfter ⟨61 * Instant.second⟩ ∧
      hourIdentity.EndsAfter ⟨61 * Instant.second⟩ ∧
      ∃ crowd outcome,
        Gate.Crowd.run? gate (TokenSigner.opening kept) [.look 0 .bare] = some crowd ∧
          crowd.phase 0 = .finished outcome ∧
          ∃ identity access, outcome = .ok (fetchedToken identity (some access)) ∧
            Carries (TokenSigner.conclude {} [] outcome).headers identity access := by
  intro kept gate
  have hdated : Dated hourIdentity (some minuteAccess) := by
    refine ⟨rfl, ?_, ?_⟩
    · rintro _ ⟨⟩
      decide
    · rintro _ ⟨⟩ _ ⟨⟩
      decide
  have htogether := google_tokens_end_together.1 minuteAccount
  have hlast : kept.isExpired ⟨31 * Instant.second - 1⟩ = false := by decide
  have hover : kept.isExpired ⟨31 * Instant.second⟩ = true := by decide
  have hboth := (htogether.lasts _ hdated).mp hlast
  have hidentity : hourIdentity.EndsAfter ⟨61 * Instant.second⟩ := by
    rintro _ ⟨⟩
    decide
  refine ⟨hlast, hboth.2 _ rfl, hover, fun hends => ?_, hidentity, ?_⟩
  · have hafter : Instant.after ⟨31 * Instant.second⟩ (Span.ofSeconds 30) =
        ⟨61 * Instant.second⟩ := by decide
    have hiff := htogether.lasts ⟨31 * Instant.second⟩ hdated
    rw [hafter, hover] at hiff
    cases hiff.mpr ⟨hidentity, by rintro _ ⟨⟩; exact hends⟩
  · have hsigned : (TokenSigner.conclude {} [] (.ok kept)).outcome = .ok () := by decide +kernel
    obtain ⟨identity, access, houtcome, hcarries, -⟩ :=
      @EndTogether.signed _ _ htogether hourIdentity minuteAccess [.look 0 .bare] _ 0 (.ok kept) {}
        rfl rfl rfl hsigned
    exact ⟨_, _, rfl, rfl, identity, access, houtcome, hcarries⟩

end Authenticator.GoogleAccount

end ControlPlane
