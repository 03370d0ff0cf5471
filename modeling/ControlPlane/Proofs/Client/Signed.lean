import ControlPlane.Proofs.Authenticator.Authorizes
import ControlPlane.Proofs.Client.Alone
import ControlPlane.Proofs.Header
import ControlPlane.Proofs.Session.Runs
import ControlPlane.Surroundings.Wording

/-!
# Only signed requests leave

Whatever calls share a client, and whatever steps they take in whatever order: each attempt is of
the request that its call formed for the resolved host, with the headers that the resolved signer
set, and one authorization among them. A call that meets a failure before its request is signed
attempts nothing and comes to that failure.
-/

namespace ControlPlane

open Program

/-! ### The slot -/

namespace Session

open Gate Gate.Crowd

/-- The signer in the slot authorizes. -/
def Authorized (session : Session) : Prop :=
  ∀ resolved, session.resolved = some resolved → resolved.signer.Authorizes

theorem authorized_settled {session : Session} {name : String} {found : Config × Verdict}
    (hopen : session.resolved = none) (hfound : Authenticator.YieldsAuthorized found.2) :
    (settled session name found).1.Authorized := by
  unfold settled
  split
  · next resolved hreport =>
      obtain ⟨signer, host, hsigner, -, rfl⟩ := report_eq_ok hreport
      rintro other ⟨⟩
      exact hfound signer hsigner
  · intro resolved hresolved
    rw [hopen] at hresolved
    cases hresolved

theorem kept_authorized {chain : List Authenticator}
    (hchain : ∀ authenticator ∈ chain, authenticator.Authorizes) :
    Kept (gate chain) (fun session => session.resolved = none)
      fun session _ => session.Authorized where
  mono h _ := h
  stage {session past part result} hopen h hpart stage hstage hrun := by
    rcases List.mem_cons.mp hstage with rfl | hstage
    · simp only [lastStage, gate] at hrun
      obtain ⟨-, rfl⟩ := runs_done_iff.mp hrun
      exact h
    · obtain ⟨authenticator, hmem, rfl⟩ := List.mem_map.mp hstage
      obtain ⟨asked, found, after, -, hresolve, -, rfl⟩ := runs_askAuthenticator hrun
      exact authorized_settled hopen (hresolve.every (hchain authenticator hmem session.config))

theorem authorized_of_run? {config : Config} {chain : List Authenticator}
    (hchain : ∀ authenticator ∈ chain, authenticator.Authorizes) {events : List Event}
    {crowd : Gate.Crowd Session Resolved}
    (hrun : run? (gate chain) (opening config chain) events = some crowd) :
    crowd.state.Authorized := by
  refine property_of_run? (contract chain) (kept_authorized hchain) ?_ hrun
  intro resolved hresolved
  cases hresolved

end Session

namespace Client

variable {α : Type} {config : Config} {chain : List Authenticator} {retry : RetryPolicy}
  {limit : RateLimit} {client : Client} {wishes : Nat → Wish α} {wish : Wish α}

/-! ### Requests before and after they are signed -/

/-- The headers of a request that is not signed yet go by its body. -/
theorem headers_of_request {method : Method} {url : Url} {body : Option Json.Value}
    {request : Request} (h : Call.request method url body = .ok request) :
    request.method = method ∧ request.headers.Distinct ∧
      request.headers.toList = (.accept, Call.jsonType) ::
        if request.body = .absent then [] else [(.contentType, Call.jsonType)] := by
  have hempty : HeaderMap.Distinct {} := List.nodup_nil
  have hbase : Call.baseHeaders.Distinct := hempty.insert _ _
  unfold Call.request at h
  split at h
  · obtain rfl := Except.ok.inj h
    exact ⟨rfl, hbase, rfl⟩
  · split at h
    · cases hpairs : Call.queryPairs _ with
      | error error =>
          rw [hpairs] at h
          cases h
      | ok pairs =>
          rw [hpairs] at h
          obtain rfl := Except.ok.inj h
          exact ⟨rfl, hbase, rfl⟩
    · obtain rfl := Except.ok.inj h
      exact ⟨rfl, hbase.insert _ _, rfl⟩

/-- The headers that a signer sets for a call: its own, and those of the token that the call was
told. -/
inductive Updates (crowd : Crowd α) (caller : Nat) (signer : Signer) : List FixedHeader → Prop where
  | fixed {fixed : List FixedHeader} (hrule : signer.rule = .fixed fixed) :
      Updates crowd caller signer fixed
  | refreshing {inner : TokenSigner} {token : Token} {own : List FixedHeader}
      (hrule : signer.rule = .refreshing inner)
      (htold : (crowd.tokensOf inner).phase caller = .finished (.ok token))
      (hown : TokenSigner.tokenHeaders token = .ok own) :
      Updates crowd caller signer (own ++ inner.headers)

variable {crowd : Crowd α} {caller : Nat} {request : Request} {failure : Failure}

theorem updates_of_signed? {signer : Signer} {headers signed : HeaderMap}
    (h : crowd.signed? caller signer headers = some ⟨signed, .ok ()⟩) :
    ∃ updates, Updates crowd caller signer updates ∧
      signed = FixedHeader.insertAll headers updates := by
  unfold Crowd.signed? at h
  cases hrule : signer.rule with
  | fixed fixed =>
      simp only [hrule] at h
      obtain ⟨rfl, -⟩ := Signed.mk.inj (Option.some.inj h)
      exact ⟨fixed, .fixed hrule, rfl⟩
  | refreshing inner =>
      simp only [hrule] at h
      split at h
      · next outcome htold =>
          cases outcome with
          | error failure => cases Option.some.inj h
          | ok token =>
              have hok := Option.some.inj h
              rw [TokenSigner.conclude] at hok
              have houtcome : (TokenSigner.setToken headers token inner.headers).outcome = .ok () :=
                by rw [hok]
              obtain ⟨own, hown, hheaders⟩ := TokenSigner.setToken_of_ok houtcome
              rw [hok] at hheaders
              exact ⟨_, .refreshing hrule htold hown, hheaders⟩
      · cases h

theorem authorization_mem_of_updates {signer : Signer} (hsigner : signer.Authorizes)
    {updates : List FixedHeader} (h : Updates crowd caller signer updates) :
    HeaderName.authorization ∈ updates.map Prod.fst := by
  cases h with
  | fixed hrule =>
      rcases hsigner with ⟨value, more, hfixed⟩ | ⟨inner, hinner⟩
      · obtain rfl := SignerRule.fixed.inj (hrule.symm.trans hfixed)
        exact List.mem_cons_self ..
      · rw [hinner] at hrule
        cases hrule
  | @refreshing inner token own hrule htold hown =>
      unfold TokenSigner.tokenHeaders at hown
      cases hvalue : FixedHeader.sensitive ("Bearer " ++ token.text) with
      | error error =>
          rw [hvalue] at hown
          cases hown
      | ok value =>
          rw [hvalue] at hown
          cases hmore : token.headers.mapM fun header => FixedHeader.ofTexts header.1 header.2 with
          | error error =>
              simp only [hmore] at hown
              cases hown
          | ok more =>
              simp only [hmore] at hown
              obtain rfl := Except.ok.inj hown
              exact List.mem_cons_self ..

/-- A request as its call means it: to the URL of the call's path at the resolved host, and with the
headers of its kind as the signer set them. -/
structure Proper (wish : Wish α) (resolved : Resolved) (updates : List FixedHeader)
    (request : Request) : Prop where
  formed : ∃ url unsigned, Url.parse (Workspace.formatUrl resolved.host [wish.path]) = .ok url ∧
    Call.request wish.method url wish.body = .ok unsigned ∧
      unsigned.headers.toList = (.accept, Call.jsonType) ::
        (if unsigned.body = .absent then [] else [(.contentType, Call.jsonType)]) ∧
      request = { unsigned with headers := FixedHeader.insertAll unsigned.headers updates }
  method_eq : request.method = wish.method
  one_authorization : ∃ value,
    request.headers.toList.filter (·.1 = .authorization) = [(.authorization, value)]

theorem proper_of_signs {resolved : Resolved} {request : Request} {headers : HeaderMap}
    (hsigner : resolved.signer.Authorizes)
    (hprepare : prepare resolved.host wish.method wish.path wish.body = .ok request)
    (hsigned : crowd.signed? caller resolved.signer request.headers = some ⟨headers, .ok ()⟩) :
    ∃ updates, Updates crowd caller resolved.signer updates ∧
      Proper wish resolved updates { request with headers } := by
  obtain ⟨url, hparse, hrequest⟩ := request_of_prepare hprepare
  obtain ⟨hmethod, hdistinct, hheaders⟩ := headers_of_request hrequest
  obtain ⟨updates, hupdates, rfl⟩ := updates_of_signed? hsigned
  have hauthorization := authorization_mem_of_updates hsigner hupdates
  exact ⟨updates, hupdates,
    { formed := ⟨url, request, hparse, hrequest, hheaders, rfl⟩
      method_eq := hmethod
      one_authorization := FixedHeader.exists_field_insertAll hdistinct hauthorization }⟩

/-! ### Calls that fail -/

namespace Crowd

variable {resolved : Resolved}

section

variable [Wording]

theorem comes_of_told_signing (hphase : crowd.phase caller = .signing resolved request)
    (htold : crowd.sessions.phase caller = .finished (.ok resolved))
    (hprepare : prepare resolved.host wish.method wish.path wish.body = .ok request)
    (hfails : crowd.Fails caller wish failure) :
    Comes client wishes crowd caller (.error failure) [] := by
  rcases hfails.of_told htold with ⟨error, hfailed, -⟩ | ⟨formed, headers, hformed, hsigned⟩
  · rw [hprepare] at hfailed
    cases hfailed
  · rw [hprepare] at hformed
    obtain rfl := Except.ok.inj hformed
    exact comes_of_unsigned hphase hsigned

theorem comes_of_granted (hphase : crowd.phase caller = .granted resolved)
    (htold : crowd.sessions.phase caller = .finished (.ok resolved))
    (hfails : crowd.Fails caller (wishes caller) failure) :
    Comes client wishes crowd caller (.error failure) [] := by
  rcases hfails.of_told htold with ⟨error, hprepare, rfl⟩ | ⟨request, headers, hprepare, hsigned⟩
  · exact .after (.unprepared hphase hprepare) (attemptsOf_permit ..) (.now (phase_place_self ..))
  · exact .after (.prepared hphase hprepare) (attemptsOf_permit ..)
      (comes_of_unsigned (phase_place_self ..) hsigned)

theorem comes_of_authenticating (hphase : crowd.phase caller = .authenticating)
    (hfails : crowd.Fails caller (wishes caller) failure) :
    Comes client wishes crowd caller (.error failure) [] := by
  have hgranted {resolved : Resolved}
      (htold : crowd.sessions.phase caller = .finished (.ok resolved)) :
      Comes client wishes crowd caller (.error failure) [] :=
    .after (.admitted hphase htold) rfl (comes_of_granted (phase_place_self ..) htold
      (hfails.later (.of_same rfl rfl)))
  cases hfails with
  | authentication htold => exact .after (.refused hphase htold) rfl (.now (phase_place_self ..))
  | preparation htold => exact hgranted htold
  | signature htold => exact hgranted htold

omit [Wording] in
theorem attemptsOf_of_prefix_permit {own : List Asked} (h : own <+: [permitDrawn]) :
    attemptsOf own = [] := by
  obtain ⟨rest, hrest⟩ := h
  have happend := attemptsOf_append own rest
  rw [hrest] at happend
  exact (List.append_eq_nil_iff.mp happend.symm).1

omit [Wording] in
theorem Sends.signs_of_mem {current : Program (Except Error Response)} {sent : Request}
    (h : Sends client wish crowd caller request current)
    (hsent : sent ∈ attemptsOf (crowd.ownPast caller)) : crowd.Signs caller wish sent := by
  obtain ⟨hsigns, part, hown, hgoes⟩ := h
  -- The exchange comes to an end in some way, and then its attempts are known.
  have hruns := hgoes _ _ (runs_askAll .bare current)
  have hmem : sent ∈ attemptsOf (part ++ current.askAll .bare) := by
    rw [hown] at hsent
    rw [attemptsOf_append]
    exact List.mem_append_left _ hsent
  rw [eq_of_mem_attemptsOf hruns hmem]
  exact hsigns

/-! ### All calls -/

/-- What holds of the calls of a client whatever they do. -/
structure OnlySigned (client : Client) (wishes : Nat → Wish α) (crowd : Crowd α) : Prop where
  /-- An attempt is of the request of its call, signed by the signer in the slot. -/
  attempted {caller : Nat} {request : Request} : request ∈ attemptsOf (crowd.ownPast caller) →
    ∃ resolved updates, crowd.sessions.state.resolved = some resolved ∧
      Updates crowd caller resolved.signer updates ∧
        Proper (wishes caller) resolved updates request
  /-- A call that fails before its request is signed attempts nothing, has no other answer than that
  failure, and comes to it unless it went away. -/
  failed {caller : Nat} {failure : Failure} : crowd.Fails caller (wishes caller) failure →
    attemptsOf (crowd.ownPast caller) = [] ∧
      (∀ answer, crowd.phase caller = .answered answer → answer = .error failure) ∧
        (crowd.phase caller ≠ .gone → Comes client wishes crowd caller (.error failure) [])

theorem Gated.failed (h : Gated config chain client wishes crowd)
    (hfails : crowd.Fails caller (wishes caller) failure) :
    attemptsOf (crowd.ownPast caller) = [] ∧
      (∀ answer, crowd.phase caller = .answered answer → answer = .error failure) ∧
        (crowd.phase caller ≠ .gone → Comes client wishes crowd caller (.error failure) []) := by
  have hstand := h.stand caller
  have hsilent {request : Request} {current : Program (Except Error Response)} :
      ¬ Sends client (wishes caller) crowd caller request current :=
    fun hsends => hfails.not_signs hsends.1
  have hanswer (answer : Except Failure α) (hphase : crowd.phase caller = .answered answer) :
      answer = .error failure := by
    rw [hphase] at hstand
    rcases hstand with ⟨other, hother, rfl, -⟩ | ⟨request, result, hsends, -⟩
    · rw [hfails.unique hother]
    · exact absurd hsends hsilent
  refine ⟨?_, hanswer, fun hgone => ?_⟩
  · rcases hstand.gone with hown | ⟨request, current, hsends⟩
    · exact attemptsOf_of_prefix_permit hown
    · exact absurd hsends hsilent
  · cases hphase : crowd.phase caller with
    | authenticating => exact comes_of_authenticating hphase hfails
    | granted resolved =>
        rw [hphase] at hstand
        exact comes_of_granted hphase hstand.2 hfails
    | signing resolved request =>
        rw [hphase] at hstand
        obtain ⟨-, htold, hprepare⟩ := hstand
        exact comes_of_told_signing hphase htold hprepare hfails
    | sending request current =>
        rw [hphase] at hstand
        exact absurd hstand hsilent
    | answered answer => exact .now (by rw [hphase, hanswer answer hphase])
    | gone => exact absurd hphase hgone

end

/-- One call on its own goes all the way to its signed request. -/
def signsAlone : List Event :=
  [.session (.look 0 .bare), .session (.enter 0), .session (.lookAgain 0 .bare),
    .session (.advance 0 .bare), .session (.advance 0 .bare), .session (.advance 0 .bare),
    .session (.advance 0 .bare), .session (.leave 0), .receive 0, .permit 0, .sign 0]

/-- It goes on through its first attempt, which is not answered. -/
def firstAttempt : List Event :=
  signsAlone ++ [.advance 0 .bare, .advance 0 .bare, .advance 0 .bare]

def addressConfig : Config := { host := some "[::1]", token := some "t" }

/-- A client whose calls wait a second before they try again. -/
def addressClient : Client :=
  ofConfig addressConfig [.direct] ⟨Span.ofSeconds 1, Span.ofSeconds 10, none⟩ .standard

def readX (_ : Nat) : Wish Unit :=
  ⟨.get, "/x", none, Json.Decoder.unit⟩

end Crowd

end Client

end ControlPlane
