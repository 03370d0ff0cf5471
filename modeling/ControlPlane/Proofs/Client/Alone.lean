import ControlPlane.Proofs.Client.Standing

/-!
# A call that nobody disturbs

The steps of one call, taken one after the other while nobody else moves, can come to whatever a run
of `Client.send` comes to, with the same attempts: what the program of a call can do, the crowd can
do.
-/

namespace ControlPlane.Client.Crowd

open Program

variable {α : Type} {client : Client} {wishes : Nat → Wish α} {crowd next : Crowd α} {event : Event}
  {caller : Nat} {trace : List Asked} {answer : Except Failure α} {first attempts : List Request}
  {resolved : Resolved} {request : Request} {failure : Failure} {headers : HeaderMap}

/-! ### Calls that come to an answer -/

variable [Wording]

/-- A call can come to an answer, with these attempts on the way. -/
def Comes (client : Client) (wishes : Nat → Wish α) (crowd : Crowd α) (caller : Nat)
    (answer : Except Failure α) (attempts : List Request) : Prop :=
  ∃ events last, run? client wishes crowd events = some last ∧
    last.phase caller = .answered answer ∧
      attemptsOf (last.ownPast caller) = attemptsOf (crowd.ownPast caller) ++ attempts

theorem Comes.now (h : crowd.phase caller = .answered answer) :
    Comes client wishes crowd caller answer [] :=
  ⟨[], crowd, rfl, h, (List.append_nil _).symm⟩

theorem Comes.move (hmove : Move client wishes crowd event next)
    (hpast : attemptsOf (next.ownPast caller) = attemptsOf (crowd.ownPast caller) ++ first)
    (h : Comes client wishes next caller answer attempts) :
    Comes client wishes crowd caller answer (first ++ attempts) := by
  obtain ⟨events, last, hrun, hanswer, hlast⟩ := h
  refine ⟨event :: events, last, ?_, hanswer, ?_⟩
  · rw [run?, step?_of_move hmove]
    exact hrun
  · rw [hlast, hpast, List.append_assoc]

theorem Comes.after (hmove : Move client wishes crowd event next)
    (hpast : attemptsOf (next.ownPast caller) = attemptsOf (crowd.ownPast caller))
    (h : Comes client wishes next caller answer attempts) :
    Comes client wishes crowd caller answer attempts :=
  .move hmove (hpast.trans (List.append_nil _).symm) h

omit [Wording] in
theorem attemptsOf_permit (crowd : Crowd α) (caller : Nat) :
    attemptsOf ((crowd.note caller permitDrawn).ownPast caller) =
      attemptsOf (crowd.ownPast caller) := by
  rw [ownPast_note_self, attemptsOf_append]
  exact List.append_nil _

theorem comes_of_sending {current : Program (Except Error Response)}
    {result : Except Error Response} (hruns : current.Runs trace result)
    (hphase : crowd.phase caller = .sending request current) :
    Comes client wishes crowd caller (client.conclude (wishes caller) result)
      (attemptsOf trace) := by
  induction hruns generalizing crowd with
  | done result => exact .after (.ends .bare hphase) rfl (.now (phase_place_self ..))
  | @ask query resume later result answer hlater ih =>
      obtain ⟨answers, rfl⟩ := Answers.exists_answer query answer
      have hnote := ownPast_note_self crowd caller ⟨query, answers query⟩
      rw [← List.singleton_append, attemptsOf_append]
      exact .move (.asks answers hphase) ((congrArg _ hnote).trans (attemptsOf_append ..))
        (ih (phase_place_self ..))

theorem comes_of_unsigned (hphase : crowd.phase caller = .signing resolved request)
    (hsigned : crowd.signed? caller resolved.signer request.headers =
      some ⟨headers, .error failure⟩) : Comes client wishes crowd caller (.error failure) [] :=
  .after (.unsigned hphase hsigned) rfl (.now (phase_place_self ..))

theorem comes_of_signed (hphase : crowd.phase caller = .signing resolved request)
    (hsigned : crowd.signed? caller resolved.signer request.headers = some ⟨headers, .ok ()⟩)
    {result : Except Error Response}
    (hruns : (client.exchange { request with headers }).Runs trace result) :
    Comes client wishes crowd caller (client.conclude (wishes caller) result)
      (attemptsOf trace) :=
  .after (.signed hphase hsigned) rfl (comes_of_sending hruns (phase_place_self ..))

/-! ### Steps at the gates -/

theorem Comes.sessions {sessions : Gate.Crowd Session Resolved}
    (hphase : crowd.phase caller = .authenticating)
    (hbrings : Gate.Crowd.Brings (Session.gate client.session.chain) caller crowd.sessions
      sessions)
    (h : Comes client wishes { crowd with sessions } caller answer attempts) :
    Comes client wishes crowd caller answer attempts := by
  obtain ⟨events, hevents, hrun⟩ := hbrings
  induction events generalizing crowd with
  | nil =>
      obtain rfl := Option.some.inj hrun
      exact h
  | cons event rest ih =>
      rw [Gate.Crowd.run?_cons, Option.bind_eq_some_iff] at hrun
      obtain ⟨middle, hmiddle, hrest⟩ := hrun
      obtain ⟨rfl, hcallers⟩ := List.forall_mem_cons.mp hevents
      have hlater : Comes client wishes { crowd with sessions := middle } event.caller answer
          attempts := ih hphase h hcallers hrest
      exact .after (.session hphase hmiddle) rfl hlater

theorem Comes.tokens {inner : TokenSigner} {last : Gate.Crowd Token Token}
    (hphase : crowd.phase caller = .signing resolved request)
    (hrule : resolved.signer.rule = .refreshing inner)
    (hbrings : Gate.Crowd.Brings (TokenSigner.gate inner.source) caller (crowd.tokensOf inner) last)
    (h : ∀ tokens, tokens.getD (TokenSigner.opening inner.cached) = last →
      Comes client wishes { crowd with tokens } caller answer attempts) :
    Comes client wishes crowd caller answer attempts := by
  obtain ⟨events, hevents, hrun⟩ := hbrings
  induction events generalizing crowd with
  | nil => exact h crowd.tokens (Option.some.inj hrun)
  | cons event rest ih =>
      rw [Gate.Crowd.run?_cons, Option.bind_eq_some_iff] at hrun
      obtain ⟨middle, hmiddle, hrest⟩ := hrun
      obtain ⟨rfl, hcallers⟩ := List.forall_mem_cons.mp hevents
      have hlater : Comes client wishes { crowd with tokens := some middle } event.caller answer
          attempts := ih hphase h hcallers hrest
      exact .after (.token hphase hrule hmiddle) rfl hlater

omit [Wording] in
theorem runs_sign {inner kept : TokenSigner} {signed : Signed}
    (hruns : (inner.sign headers).Runs trace (kept, signed)) :
    ∃ outcome part, ((TokenSigner.gate inner.source).get inner.cached).Runs part outcome ∧
      signed = TokenSigner.conclude headers inner.headers outcome.2 := by
  obtain ⟨_, ⟨fresh, told⟩, _, -, hfresh, hdone⟩ := runs_bind_iff.mp hruns
  obtain ⟨-, heq⟩ := runs_done_iff.mp hdone
  obtain ⟨-, rfl⟩ := Prod.mk.inj heq
  obtain ⟨part, outcome, _, -, hget, hkept⟩ := runs_bind_iff.mp hfresh
  obtain ⟨-, heq⟩ := runs_done_iff.mp hkept
  obtain ⟨rfl, rfl⟩ := Prod.mk.inj heq
  exact ⟨outcome, part, hget, rfl⟩

omit [Wording] in
theorem exists_look {source : TokenSource} {kept : Token} {found : Option Token}
    (hruns : ((TokenSigner.gate source).look kept).Runs trace found) :
    ∃ answers, ((TokenSigner.gate source).look kept).answerAll answers = found := by
  obtain ⟨_, now, _, -, -, hdone⟩ := runs_bind_iff.mp hruns
  obtain ⟨answers, rfl⟩ := Answers.exists_answer .wallClock now
  exact ⟨answers, (runs_done_iff.mp hdone).2.symm⟩

theorem Comes.sign {signer : Signer} {signed : Signed}
    (hphase : crowd.phase caller = .signing resolved request) (htokens : crowd.tokens = none)
    (hruns : (resolved.signer.sign request.headers).Runs trace (signer, signed))
    (h : ∀ tokens, ({ crowd with tokens } : Crowd α).signed? caller resolved.signer
        request.headers = some signed →
      Comes client wishes { crowd with tokens } caller answer attempts) :
    Comes client wishes crowd caller answer attempts := by
  unfold Signer.sign at hruns
  cases hrule : resolved.signer.rule with
  | fixed fixed =>
      simp only [hrule] at hruns
      obtain ⟨-, heq⟩ := runs_done_iff.mp hruns
      obtain ⟨-, rfl⟩ := Prod.mk.inj heq
      exact h crowd.tokens (by simp only [Crowd.signed?, hrule])
  | refreshing inner =>
      simp only [hrule] at hruns
      obtain ⟨signing, ⟨kept, told⟩, _, -, hinner, hdone⟩ := runs_bind_iff.mp hruns
      obtain ⟨-, heq⟩ := runs_done_iff.mp hdone
      obtain ⟨-, rfl⟩ := Prod.mk.inj heq
      obtain ⟨outcome, fetching, hget, rfl⟩ := runs_sign hinner
      obtain ⟨last, hbrings, htold, -⟩ := Gate.Crowd.brings_get exists_look hget caller
      refine .tokens hphase hrule (by rwa [tokensOf, htokens]) fun tokens hheld => h tokens ?_
      simp only [Crowd.signed?, hrule, tokensOf, hheld, htold]

/-! ### Whole calls -/

theorem comes_of_signing (hphase : crowd.phase caller = .signing resolved request)
    (htokens : crowd.tokens = none) (hsigner : resolved.signer.AttemptFree) {session : Session}
    {later : Client} {response : Except Failure Response}
    (hruns : (({ client with session } : Client).signAndExchange resolved request).Runs trace
      (later, response)) :
    Comes client wishes crowd caller
      (response.bind fun response =>
        (Call.read (wishes caller).decoder later.detail.truncation response.body).mapError .error)
      (attemptsOf trace) := by
  obtain ⟨signing, ⟨signer, headers, outcome⟩, rest, rfl, hsign, hrest⟩ := runs_bind_iff.mp hruns
  have hquiet := (Signer.attemptFree_sign hsigner request.headers).attemptsOf_eq_nil hsign
  rw [attemptsOf_append, hquiet, List.nil_append]
  refine .sign hphase htokens hsign fun tokens hsigned => ?_
  have hwaits : ({ crowd with tokens } : Crowd α).phase caller = .signing resolved request := hphase
  cases outcome with
  | error failure =>
      obtain ⟨rfl, heq⟩ := runs_done_iff.mp hrest
      obtain ⟨-, rfl⟩ := Prod.mk.inj heq
      exact comes_of_unsigned hwaits hsigned
  | ok _ =>
      obtain ⟨sending, result, _, rfl, hexchange, hdone⟩ := runs_bind_iff.mp hrest
      obtain ⟨rfl, heq⟩ := runs_done_iff.mp hdone
      obtain ⟨rfl, rfl⟩ := Prod.mk.inj heq
      rw [List.append_nil]
      exact comes_of_signed hwaits hsigned hexchange

/-- **Whatever a call can do, the crowd can do.** A call that is alone at a client can take steps to
the answer of any run of the program of the call, with the attempts of that run. -/
theorem comes_of_runs_send (hfree : client.session.AttemptFree) {wishes : Nat → Wish α}
    {later : Client} (hruns : (client.send (wishes caller).method (wishes caller).path
      (wishes caller).body (wishes caller).decoder).Runs trace (later, answer)) :
    Comes client wishes (opening client) caller answer (attemptsOf trace) := by
  obtain ⟨_, ⟨entered, outcome⟩, rest, rfl, hwalk, hrest⟩ := runs_bind_iff.mp hruns
  obtain ⟨walk, ⟨session, told⟩, _, rfl, hauth, hdone⟩ := runs_bind_iff.mp hwalk
  obtain ⟨rfl, heq⟩ := runs_done_iff.mp hdone
  obtain ⟨rfl, rfl⟩ := Prod.mk.inj heq
  -- Authentication attempts nothing, so all attempts are of what follows it.
  have hsession := Session.authenticated_of_runs hfree hauth
  rw [List.append_nil, attemptsOf_append, hsession.no_attempt, List.nil_append]
  obtain ⟨sessions, hbrings, htold, -⟩ := Gate.Crowd.brings_get
    (fun {trace found} hlook => ⟨.bare, (runs_done_iff.mp hlook).2.symm⟩) hauth caller
  refine .sessions rfl hbrings ?_
  cases outcome with
  | error failure =>
      obtain ⟨rfl, heq⟩ := runs_done_iff.mp hrest
      obtain ⟨-, rfl⟩ := Prod.mk.inj heq
      exact .after (.refused rfl htold) rfl (.now (phase_place_self ..))
  | ok resolved =>
      refine .after (.admitted rfl htold) rfl ?_
      obtain ⟨permit, _, calls, rfl, hpermit, hcalls⟩ := runs_bind_iff.mp hrest
      obtain rfl := runs_query_iff.mp hpermit
      change Comes client wishes _ caller answer (attemptsOf calls)
      cases hprepare : prepare resolved.host (wishes caller).method (wishes caller).path
          (wishes caller).body with
      | error error =>
          rw [hprepare] at hcalls
          obtain ⟨rfl, heq⟩ := runs_done_iff.mp hcalls
          obtain ⟨-, rfl⟩ := Prod.mk.inj heq
          exact .after (.unprepared (phase_place_self ..) hprepare) (attemptsOf_permit ..)
            (.now (phase_place_self ..))
      | ok request =>
          rw [hprepare] at hcalls
          obtain ⟨signing, ⟨signed, response⟩, _, rfl, hsigning, hlast⟩ :=
            runs_bind_iff.mp hcalls
          obtain ⟨rfl, heq⟩ := runs_done_iff.mp hlast
          obtain ⟨-, rfl⟩ := Prod.mk.inj heq
          rw [List.append_nil]
          exact .after (.prepared (phase_place_self ..) hprepare) (attemptsOf_permit ..)
            (comes_of_signing (phase_place_self ..) rfl
              (hsession.attemptFree.resolved _ (hsession.resolved _ rfl)) hsigning)

end ControlPlane.Client.Crowd
