import ControlPlane.Client
import ControlPlane.Proofs.Journal
import ControlPlane.Proofs.Authenticator.AttemptFree
import ControlPlane.Proofs.Session.Runs
import ControlPlane.Proofs.Workspace

/-!
# The attempts of a send

A send makes its attempts only after authentication went through, and all of them are of one
request: that of the call to the resolved host, as it was signed.
-/

namespace ControlPlane

open Program

/-! ### Retries -/

/-- Attempts of one request, and what the retries between them need. -/
def RetryPolicy.Allows (request : Request) : Query → Prop
  | .attempt sent => sent = request
  | .steadyClock => True
  | .sleep _ => True
  | .log _ _ => True
  | _ => False

namespace RetryPolicy

variable {policy : RetryPolicy} {request : Request}

theorem asks_settle (started : Span) (number : Nat)
    {again? : Option (Unit → Program (Except Error Response))}
    (hagain : ∀ again ∈ again?, (again ()).Asks (Allows request))
    (outcome : Except Error Response) :
    (policy.settle request started number again? outcome).Asks (Allows request) := by
  have hgiveUp (outcome : Except Error Response) :
      (giveUp request number outcome).Asks (Allows request) :=
    Asks.bind ((asks_query _).mpr trivial) fun _ => asks_done _
  unfold settle
  split
  · next error _ =>
      cases again? with
      | none => exact hgiveUp _
      | some again =>
          refine Asks.bind ((asks_query _).mpr trivial) fun now => ?_
          dsimp only
          split
          · exact hgiveUp _
          · refine Asks.bind ((asks_query _).mpr trivial) fun _ => ?_
            refine Asks.bind ((asks_query _).mpr trivial) fun _ => ?_
            exact hagain again rfl
  · exact asks_done _

theorem asks_attemptFrom (started : Span) (number left : Nat) :
    (policy.attemptFrom Program.attempt request started number left).Asks (Allows request) := by
  induction left generalizing number with
  | zero =>
      refine Asks.bind ((asks_query _).mpr rfl) fun raw => ?_
      exact asks_settle started number (by simp) _
  | succ left ih =>
      refine Asks.bind ((asks_query _).mpr rfl) fun raw => ?_
      refine asks_settle started number ?_ _
      rintro again ⟨⟩
      exact ih (number + 1)

/-- Every attempt is of the request that was handed over. -/
theorem asks_execute (policy : RetryPolicy) (request : Request) :
    (policy.execute Program.attempt request).Asks (Allows request) := by
  unfold execute
  refine Asks.bind ((asks_query _).mpr trivial) fun started => ?_
  cases hcopy : request.copy? with
  | none => exact asks_done _
  | some copy =>
      obtain rfl := Request.copy?_eq hcopy
      exact asks_attemptFrom started 1 _

end RetryPolicy

/-! ### Signing -/

theorem TokenSigner.attemptFree_sign {signer : TokenSigner} (h : signer.source.run.AttemptFree)
    (headers : HeaderMap) : (signer.sign headers).AttemptFree := by
  have hlook : ((gate signer.source).look signer.cached).AttemptFree :=
    Asks.bind ((asks_query _).mpr rfl) fun now => asks_done _
  have hlast : ((gate signer.source).last signer.cached).AttemptFree := by
    refine Asks.bind ((asks_query _).mpr rfl) fun _ => ?_
    refine Asks.bind h fun result => ?_
    cases result <;> exact asks_done _
  have hget : ((gate signer.source).get signer.cached).AttemptFree := by
    refine Asks.bind hlook fun found => ?_
    cases found with
    | some token => exact asks_done _
    | none =>
        refine Asks.bind hlook fun found => ?_
        cases found with
        | some token => exact asks_done _
        | none => exact hlast
  refine Asks.bind (Asks.bind hget fun _ => asks_done _) fun _ => asks_done _

theorem Signer.attemptFree_sign {signer : Signer} (h : signer.AttemptFree) (headers : HeaderMap) :
    (signer.sign headers).AttemptFree := by
  obtain ⟨kind, rule⟩ := signer
  cases rule with
  | fixed fixed => exact asks_done _
  | refreshing inner =>
      exact Asks.bind (TokenSigner.attemptFree_sign h headers) fun _ => asks_done _

theorem Signer.every_sign {signer : Signer} (h : signer.AttemptFree) (headers : HeaderMap) :
    (signer.sign headers).Every fun signed => signed.1.AttemptFree := by
  obtain ⟨kind, rule⟩ := signer
  cases rule with
  | fixed fixed => exact trivial
  | refreshing inner =>
      change Every _ (TokenSigner.sign inner headers >>= _)
      rw [every_bind, TokenSigner.sign, every_bind, TokenSigner.freshToken, every_bind]
      apply every_of_forall
      intro _
      exact h

/-! ### Sessions -/

/-- A session that makes no attempt, neither while it authenticates nor when its signer signs. -/
structure Session.AttemptFree (session : Session) : Prop where
  chain : ∀ authenticator ∈ session.chain, authenticator.AttemptFree
  resolved : ∀ resolved, session.resolved = some resolved → resolved.signer.AttemptFree

namespace Session

variable {session later : Session} {trace : List Asked} {outcome : Except Failure Resolved}

theorem attemptFree_start [Wording] (config : Config) :
    (start config Authenticator.standardChain).AttemptFree where
  chain _ h := Authenticator.attemptFree_of_mem_standardChain h
  resolved resolved h := by cases h

theorem AttemptFree.withSigner (h : session.AttemptFree) {signer : Signer}
    (hsigner : signer.AttemptFree) : (session.withSigner signer).AttemptFree where
  chain := h.chain
  resolved resolved hresolved := by
    obtain ⟨before, -, rfl⟩ := Option.map_eq_some_iff.mp hresolved
    exact hsigner

/-- What a call of `authenticate` leaves behind it. -/
structure Authenticated (later : Session) (trace : List Asked)
    (outcome : Except Failure Resolved) : Prop where
  attemptFree : later.AttemptFree
  no_attempt : attemptsOf trace = []
  resolved : ∀ resolved, outcome = .ok resolved → later.resolved = some resolved

theorem attemptsOf_of_quiet (h : Quiet trace) : attemptsOf trace = [] := by
  apply List.filterMap_eq_nil_iff.mpr
  intro asked hasked
  have hlog := h asked hasked
  cases hquery : asked.query with
  | log level line => rfl
  | _ => simp [hquery, Query.IsLog] at hlog

/-- An authenticator that succeeds fills the slot with its signer; otherwise the slot stays. -/
theorem attemptFree_of_settled {name : String} {found : Config × Verdict}
    {answer : Option (Except Failure Resolved)} (hfree : session.AttemptFree)
    (hfound : Authenticator.YieldsAttemptFree found.2)
    (hsettled : settled session name found = (later, answer)) :
    later.AttemptFree ∧
      ∀ resolved, answer = some (.ok resolved) → later.resolved = some resolved := by
  unfold settled at hsettled
  split at hsettled
  · next resolved hreport =>
      obtain ⟨rfl, rfl⟩ := Prod.mk.inj hsettled
      obtain ⟨signer, host, hsigner, -, rfl⟩ := report_eq_ok hreport
      constructor
      · refine ⟨hfree.chain, ?_⟩
        rintro resolved ⟨⟩
        exact hfound signer hsigner
      · rintro resolved ⟨⟩
        rfl
  · next hother =>
      obtain ⟨rfl, rfl⟩ := Prod.mk.inj hsettled
      exact ⟨⟨hfree.chain, hfree.resolved⟩, fun resolved hok => absurd hok (hother resolved)⟩

theorem authenticated_of_work {gate : Gate Session Resolved} {chain : List Authenticator}
    (hlast : ∀ session, gate.last session =
      .done (session, .error (.error Authenticator.notConfigured)))
    (hfree : session.AttemptFree) (hchain : ∀ authenticator ∈ chain, authenticator.AttemptFree)
    (h : (gate.work (chain.map askAuthenticator) session).Runs trace (later, outcome)) :
    Authenticated later trace outcome := by
  induction chain generalizing session trace with
  | nil =>
      rw [List.map_nil, Gate.work, hlast] at h
      obtain ⟨rfl, heq⟩ := runs_done_iff.mp h
      obtain ⟨rfl, rfl⟩ := Prod.mk.inj heq
      exact ⟨hfree, rfl, by simp⟩
  | cons authenticator rest ih =>
      rw [List.forall_mem_cons] at hchain
      obtain ⟨part, found, after, walk, rfl, hpart, hcloses, hend⟩ := runs_work_cons h
      have hyields := hpart.every (hchain.1.signer _)
      have hasked : attemptsOf (trying authenticator :: (part ++ after)) = [] := by
        change attemptsOf (part ++ after) = []
        rw [attemptsOf_append, (hchain.1.asks _).attemptsOf_eq_nil hpart,
          attemptsOf_of_quiet hcloses.quiet, List.append_nil]
      rw [← List.append_assoc, ← List.cons_append]
      rcases hend with ⟨next, told, hsettled, rfl, heq⟩ | ⟨next, hsettled, hwalk⟩
      · obtain ⟨rfl, rfl⟩ := Prod.mk.inj heq
        obtain ⟨hlater, hreport⟩ := attemptFree_of_settled hfree hyields hsettled
        refine ⟨hlater, ?_, fun resolved hok => hreport resolved (by rw [hok])⟩
        rwa [List.append_nil]
      · obtain ⟨hnext, -⟩ := attemptFree_of_settled hfree hyields hsettled
        obtain ⟨hlater, hwalked, hresolved⟩ := ih hnext hchain.2 hwalk
        refine ⟨hlater, ?_, hresolved⟩
        rw [attemptsOf_append, hasked, hwalked, List.append_nil]

theorem authenticated_of_runs (hfree : session.AttemptFree)
    (h : session.authenticate.Runs trace (later, outcome)) :
    Authenticated later trace outcome := by
  rw [runs_authenticate_iff] at h
  cases hresolved : session.resolved with
  | none =>
      rw [hresolved] at h
      exact authenticated_of_work (fun _ => rfl) hfree hfree.chain h
  | some resolved =>
      rw [hresolved] at h
      obtain ⟨rfl, heq⟩ := h
      obtain ⟨rfl, rfl⟩ := Prod.mk.inj heq
      constructor
      · exact hfree
      · rfl
      · rintro other ⟨⟩
        exact hresolved

end Session

/-! ### Sends -/

namespace Client

/-- A call as its caller states it. -/
structure Wish (α : Type) where
  method : Method
  path : String
  body : Option Json.Value
  decoder : Json.Decoder α

variable {α : Type} {client later : Client} {method : Method} {path : String}
  {body : Option Json.Value} {decoder : Json.Decoder α} {trace : List Asked}
  {answer : Except Failure α}

theorem asks_exchange (client : Client) (request : Request) :
    (client.exchange request).Asks (RetryPolicy.Allows request) := by
  refine Asks.bind ((asks_query _).mpr trivial) fun _ => ?_
  refine Asks.bind (RetryPolicy.asks_execute client.retry request) fun result => ?_
  cases result with
  | error error => exact Asks.bind ((asks_query _).mpr trivial) fun _ => asks_done _
  | ok response => exact Asks.bind ((asks_query _).mpr trivial) fun _ => asks_done _

/-- The request of a call to a URL goes there, or to that URL with pairs in its query. Its body is
known, and it says what it accepts. -/
structure Formed (url : Url) (request : Request) : Prop where
  url_eq : request.url = url ∨ ∃ pairs, request.url = url.appendPairs pairs
  body : request.body ≠ .streamed
  accept : request.headers.Has .accept

theorem formed_of_request {url : Url} {request : Request}
    (h : Call.request method url body = .ok request) : Formed url request := by
  have haccept : Call.baseHeaders.Has .accept := HeaderMap.has_insert_self _ _ _
  unfold Call.request at h
  cases body with
  | none =>
      obtain rfl := Except.ok.inj h
      exact ⟨.inl rfl, by simp, haccept⟩
  | some value =>
      dsimp only at h
      split at h
      · cases hpairs : Call.queryPairs value with
        | error error =>
            rw [hpairs] at h
            cases h
        | ok pairs =>
            rw [hpairs] at h
            obtain rfl := Except.ok.inj h
            refine ⟨?_, by simp, haccept⟩
            dsimp only
            split
            · exact .inl rfl
            · exact .inr ⟨pairs, rfl⟩
      · obtain rfl := Except.ok.inj h
        exact ⟨.inl rfl, by simp, haccept.insert _ _⟩

theorem request_of_prepare {host : String} {request : Request}
    (h : prepare host method path body = .ok request) :
    ∃ url, Url.parse (Workspace.formatUrl host [path]) = .ok url ∧
      Call.request method url body = .ok request := by
  unfold prepare at h
  cases hparse : Url.parse (Workspace.formatUrl host [path]) with
  | error cause =>
      rw [hparse] at h
      cases h
  | ok url =>
      rw [hparse] at h
      exact ⟨url, rfl, h⟩

theorem server_of_prepare {host : String} {request : Request}
    (h : prepare host method path body = .ok request) :
    (Url.parse (Workspace.formatUrl host [path])).map Url.server = .ok request.url.server := by
  obtain ⟨url, hparse, hrequest⟩ := request_of_prepare h
  rw [hparse]
  rcases (formed_of_request hrequest).url_eq with hurl | ⟨pairs, hurl⟩
  · rw [hurl]
    rfl
  · rw [hurl]
    rfl

theorem body_ne_of_prepare {host : String} {request : Request}
    (h : prepare host method path body = .ok request) : request.body ≠ .streamed := by
  obtain ⟨url, -, hrequest⟩ := request_of_prepare h
  exact (formed_of_request hrequest).body

/-- What a run of a send leaves behind it: a session as free of attempts as before, and attempts to
the server of the call on the resolved host. -/
structure Sent (path : String) (later : Client) (trace : List Asked) : Prop where
  attemptFree : later.session.AttemptFree
  attempted : ∀ request ∈ attemptsOf trace,
    ∃ resolved, later.session.resolved = some resolved ∧
      (Url.parse (Workspace.formatUrl resolved.host [path])).map Url.server =
        .ok request.url.server

theorem sent_nil (hfree : later.session.AttemptFree) : Sent path later [] where
  attemptFree := hfree
  attempted := by simp [attemptsOf]

theorem Sent.after {first : List Asked} (hfirst : attemptsOf first = [])
    (h : Sent path later trace) : Sent path later (first ++ trace) where
  attemptFree := h.attemptFree
  attempted := by
    rw [attemptsOf_append, hfirst]
    exact h.attempted

/-- The attempts of an exchange are of the request that is exchanged. -/
theorem eq_of_mem_attemptsOf {request sent : Request} {answer : Except Error Response}
    (h : (client.exchange request).Runs trace answer) (hsent : sent ∈ attemptsOf trace) :
    sent = request := by
  obtain ⟨asked, hasked, hquery⟩ := List.mem_filterMap.mp hsent
  have hallowed := h.asks (asks_exchange client request) asked hasked
  cases hattempt : asked.query with
  | attempt other =>
      rw [hattempt] at hquery hallowed
      exact (Option.some.inj hquery).symm.trans hallowed
  | _ => simp [hattempt, Query.attempted?] at hquery

variable [Wording]

omit [Wording] in
theorem sent_of_signAndExchange {resolved : Resolved} {request : Request}
    {response : Except Failure Response} (hfree : client.session.AttemptFree)
    (hresolved : client.session.resolved = some resolved)
    (hprepare : prepare resolved.host method path body = .ok request)
    (h : (client.signAndExchange resolved request).Runs trace (later, response)) :
    Sent path later trace := by
  have hsigner := hfree.resolved resolved hresolved
  unfold signAndExchange at h
  obtain ⟨signing, ⟨signer, signed⟩, rest, rfl, hsign, h⟩ := runs_bind_iff.mp h
  have hfresh := hsign.every (Signer.every_sign hsigner _)
  have hsigning := (Signer.attemptFree_sign hsigner _).attemptsOf_eq_nil hsign
  dsimp only at h
  have hkept (attempts : List Asked)
      (hattempts : ∀ sent ∈ attemptsOf attempts, sent.url = request.url) :
      Sent path { client with session := client.session.withSigner signer }
        (signing ++ attempts) := by
    apply Sent.after hsigning
    constructor
    · exact hfree.withSigner hfresh
    · intro sent hsent
      refine ⟨{ resolved with signer }, ?_, ?_⟩
      · simp [Session.withSigner, hresolved]
      · rw [hattempts sent hsent]
        exact server_of_prepare hprepare
  cases hsigned : signed.outcome with
  | error failure =>
      rw [hsigned] at h
      obtain ⟨rfl, heq⟩ := runs_done_iff.mp h
      obtain ⟨rfl, rfl⟩ := Prod.mk.inj heq
      exact hkept [] (by simp [attemptsOf])
  | ok _ =>
      rw [hsigned] at h
      obtain ⟨attempts, answer, last, rfl, hattempts, hdone⟩ := runs_bind_iff.mp h
      obtain ⟨rfl, heq⟩ := runs_done_iff.mp hdone
      obtain ⟨rfl, rfl⟩ := Prod.mk.inj heq
      rw [List.append_nil]
      apply hkept
      intro sent hsent
      rw [eq_of_mem_attemptsOf hattempts hsent]

theorem sent_of_runs (hfree : client.session.AttemptFree)
    (h : (client.send method path body decoder).Runs trace (later, answer)) :
    Sent path later trace := by
  unfold send at h
  obtain ⟨walk, ⟨entered, outcome⟩, rest, rfl, hwalk, h⟩ := runs_bind_iff.mp h
  unfold authenticate at hwalk
  obtain ⟨first, ⟨session, told⟩, last, rfl, hauth, hdone⟩ := runs_bind_iff.mp hwalk
  obtain ⟨rfl, heq⟩ := runs_done_iff.mp hdone
  obtain ⟨rfl, rfl⟩ := Prod.mk.inj heq
  have hsession := Session.authenticated_of_runs hfree hauth
  rw [List.append_nil]
  apply Sent.after hsession.no_attempt
  cases outcome with
  | error failure =>
      obtain ⟨rfl, heq⟩ := runs_done_iff.mp h
      obtain ⟨rfl, rfl⟩ := Prod.mk.inj heq
      exact sent_nil hsession.attemptFree
  | ok resolved =>
      dsimp only at h
      obtain ⟨permit, mark, calls, rfl, hpermit, hrest⟩ := runs_bind_iff.mp h
      obtain rfl := runs_query_iff.mp hpermit
      apply Sent.after (by rfl)
      cases hprepare : prepare resolved.host method path body with
      | error error =>
          rw [hprepare] at hrest
          obtain ⟨rfl, heq⟩ := runs_done_iff.mp hrest
          obtain ⟨rfl, rfl⟩ := Prod.mk.inj heq
          exact sent_nil hsession.attemptFree
      | ok request =>
          rw [hprepare] at hrest
          obtain ⟨calls, ⟨signed, response⟩, last, rfl, hcalls, hdone⟩ := runs_bind_iff.mp hrest
          obtain ⟨rfl, heq⟩ := runs_done_iff.mp hdone
          obtain ⟨rfl, rfl⟩ := Prod.mk.inj heq
          rw [List.append_nil]
          exact sent_of_signAndExchange hsession.attemptFree (hsession.resolved resolved rfl)
            hprepare hcalls

end Client

end ControlPlane
