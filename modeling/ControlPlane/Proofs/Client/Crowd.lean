import ControlPlane.Proofs.Client.Attempts
import ControlPlane.Proofs.Gate.Reach
import ControlPlane.Proofs.Session.SingleWalk
import ControlPlane.Proofs.Signer.SingleFlight

/-!
# Calls at once

Any number of calls share a client and take their steps in any order: a call passes the gate of
authentication, waits for its permit, forms its request, passes the gate of the token if the signer
has one, and sends its signed request one question at a time. A call may go away at any point.

On record is what calls ask of the limiter and while they send; authenticators and token sources
have connections of their own. An attempt is one step, taken when the request is handed over; its
answer is whatever the transport makes of it, however long that takes. Calls one after the other are
those of which each begins when the one before has its answer.
-/

namespace ControlPlane.Client

/-! ### Calls -/

/-- Where a call stands. -/
inductive Phase (α : Type) where
  /-- Waits for the result of authentication. -/
  | authenticating
  /-- Waits for its permit. -/
  | granted (resolved : Resolved)
  /-- Has its request, and waits for what it is signed with. -/
  | signing (resolved : Resolved) (request : Request)
  /-- Sends its signed request. -/
  | sending (request : Request) (current : Program (Except Error Response))
  | answered (answer : Except Failure α)
  /-- Went away before it had an answer. -/
  | gone

/-- The calls of one client: who stands where at its two gates and beside them. -/
structure Crowd (α : Type) where
  sessions : Gate.Crowd Session Resolved
  /-- The callers at the gate of the token, once the first of them has come there. -/
  tokens : Option (Gate.Crowd Token Token) := none
  phase : Nat → Phase α := fun _ => .authenticating
  /-- What calls asked when they drew their permits and sent their requests. -/
  past : List (Nat × Asked) := []

/-- One step of one call. -/
inductive Event where
  | session (event : Gate.Event)
  /-- Takes what authentication came to. -/
  | receive (caller : Nat)
  | permit (caller : Nat)
  | token (event : Gate.Event)
  | sign (caller : Nat)
  | advance (caller : Nat) (answers : Answers)
  | goAway (caller : Nat)

variable {α : Type}

variable [Wording]

/-- What a caller is told whose request was sent. -/
def conclude (client : Client) (wish : Wish α) (answer : Except Error Response) :
    Except Failure α :=
  (answer.mapError .error).bind fun response =>
    (Call.read wish.decoder client.detail.truncation response.body).mapError .error

namespace Crowd

/-- Calls that have not begun, at a client that nobody has used. -/
def opening (client : Client) : Crowd α :=
  { sessions := { state := client.session } }

/-- Moves a call. -/
def place (crowd : Crowd α) (caller : Nat) (phase : Phase α) : Crowd α :=
  { crowd with phase := fun other => if other = caller then phase else crowd.phase other }

/-- Puts a question of a call on record. -/
def note (crowd : Crowd α) (caller : Nat) (asked : Asked) : Crowd α :=
  { crowd with past := crowd.past ++ [(caller, asked)] }

/-- The callers at the gate of the token that a signer keeps. -/
def tokensOf (crowd : Crowd α) (signer : TokenSigner) : Gate.Crowd Token Token :=
  crowd.tokens.getD (TokenSigner.opening signer.cached)

/-- Takes a call out of the gates. -/
def withdraw (crowd : Crowd α) (caller : Nat) : Crowd α :=
  { crowd with
    sessions := crowd.sessions.withdraw caller
    tokens := crowd.tokens.map (·.withdraw caller) }

/-- What signing makes of headers, once the call has what they are signed with. -/
def signed? (crowd : Crowd α) (caller : Nat) (signer : Signer) (headers : HeaderMap) :
    Option Signed :=
  match signer.rule with
  | .fixed fixed => some ⟨FixedHeader.insertAll headers fixed, .ok ()⟩
  | .refreshing inner =>
    match (crowd.tokensOf inner).phase caller with
    | .finished outcome => some (TokenSigner.conclude headers inner.headers outcome)
    | _ => none

/-- The calls after a step, if the step can be taken. -/
def step? (client : Client) (wishes : Nat → Wish α) (crowd : Crowd α) : Event → Option (Crowd α)
  | .session event =>
    match crowd.phase event.caller with
    | .authenticating =>
      (Gate.Crowd.step? (Session.gate client.session.chain) crowd.sessions event).map
        fun sessions => { crowd with sessions }
    | _ => none
  | .receive caller =>
    match crowd.phase caller, crowd.sessions.phase caller with
    | .authenticating, .finished (.error failure) =>
      some (crowd.place caller (.answered (.error failure)))
    | .authenticating, .finished (.ok resolved) => some (crowd.place caller (.granted resolved))
    | _, _ => none
  | .permit caller =>
    match crowd.phase caller with
    | .granted resolved =>
      let wish := wishes caller
      let crowd := crowd.note caller ⟨.permit, ()⟩
      match prepare resolved.host wish.method wish.path wish.body with
      | .error error => some (crowd.place caller (.answered (.error (.error error))))
      | .ok request => some (crowd.place caller (.signing resolved request))
    | _ => none
  | .token event =>
    match crowd.phase event.caller with
    | .signing resolved _ =>
      match resolved.signer.rule with
      | .refreshing inner =>
        (Gate.Crowd.step? (TokenSigner.gate inner.source) (crowd.tokensOf inner) event).map
          fun tokens => { crowd with tokens := some tokens }
      | .fixed _ => none
    | _ => none
  | .sign caller =>
    match crowd.phase caller with
    | .signing resolved request =>
      match crowd.signed? caller resolved.signer request.headers with
      | some ⟨_, .error failure⟩ => some (crowd.place caller (.answered (.error failure)))
      | some ⟨headers, .ok ()⟩ =>
        let request := { request with headers := headers }
        some (crowd.place caller (.sending request (client.exchange request)))
      | none => none
    | _ => none
  | .advance caller answers =>
    match crowd.phase caller with
    | .sending _ (.done answer) =>
      some (crowd.place caller (.answered (client.conclude (wishes caller) answer)))
    | .sending request (.ask query resume) =>
      some ((crowd.note caller ⟨query, answers query⟩).place caller
        (.sending request (resume (answers query))))
    | _ => none
  | .goAway caller =>
    match crowd.phase caller with
    | .answered _ | .gone => none
    | _ => some ((crowd.withdraw caller).place caller .gone)

/-- The calls after steps, if all of them can be taken. -/
def run? (client : Client) (wishes : Nat → Wish α) (crowd : Crowd α) :
    List Event → Option (Crowd α)
  | [] => some crowd
  | event :: rest => (step? client wishes crowd event).bind fun next => run? client wishes next rest

/-- Everything that one step can do. -/
inductive Move (client : Client) (wishes : Nat → Wish α) (crowd : Crowd α) :
    Event → Crowd α → Prop where
  | session {event : Gate.Event} {sessions : Gate.Crowd Session Resolved}
      (hphase : crowd.phase event.caller = .authenticating)
      (hstep : Gate.Crowd.step? (Session.gate client.session.chain) crowd.sessions event =
        some sessions) :
      Move client wishes crowd (.session event) { crowd with sessions }
  | refused {caller : Nat} {failure : Failure} (hphase : crowd.phase caller = .authenticating)
      (htold : crowd.sessions.phase caller = .finished (.error failure)) :
      Move client wishes crowd (.receive caller) (crowd.place caller (.answered (.error failure)))
  | admitted {caller : Nat} {resolved : Resolved} (hphase : crowd.phase caller = .authenticating)
      (htold : crowd.sessions.phase caller = .finished (.ok resolved)) :
      Move client wishes crowd (.receive caller) (crowd.place caller (.granted resolved))
  | unprepared {caller : Nat} {resolved : Resolved} {error : Error}
      (hphase : crowd.phase caller = .granted resolved)
      (hprepare : prepare resolved.host (wishes caller).method (wishes caller).path
        (wishes caller).body = .error error) :
      Move client wishes crowd (.permit caller)
        ((crowd.note caller ⟨.permit, ()⟩).place caller (.answered (.error (.error error))))
  | prepared {caller : Nat} {resolved : Resolved} {request : Request}
      (hphase : crowd.phase caller = .granted resolved)
      (hprepare : prepare resolved.host (wishes caller).method (wishes caller).path
        (wishes caller).body = .ok request) :
      Move client wishes crowd (.permit caller)
        ((crowd.note caller ⟨.permit, ()⟩).place caller (.signing resolved request))
  | token {event : Gate.Event} {resolved : Resolved} {request : Request} {inner : TokenSigner}
      {tokens : Gate.Crowd Token Token}
      (hphase : crowd.phase event.caller = .signing resolved request)
      (hrule : resolved.signer.rule = .refreshing inner)
      (hstep : Gate.Crowd.step? (TokenSigner.gate inner.source) (crowd.tokensOf inner) event =
        some tokens) :
      Move client wishes crowd (.token event) { crowd with tokens := some tokens }
  | unsigned {caller : Nat} {resolved : Resolved} {request : Request} {headers : HeaderMap}
      {failure : Failure} (hphase : crowd.phase caller = .signing resolved request)
      (hsigned : crowd.signed? caller resolved.signer request.headers =
        some ⟨headers, .error failure⟩) :
      Move client wishes crowd (.sign caller) (crowd.place caller (.answered (.error failure)))
  | signed {caller : Nat} {resolved : Resolved} {request : Request} {headers : HeaderMap}
      (hphase : crowd.phase caller = .signing resolved request)
      (hsigned : crowd.signed? caller resolved.signer request.headers = some ⟨headers, .ok ()⟩) :
      Move client wishes crowd (.sign caller)
        (crowd.place caller (.sending { request with headers }
          (client.exchange { request with headers })))
  | asks {caller : Nat} (answers : Answers) {request : Request} {query : Query}
      {resume : query.Answer → Program (Except Error Response)}
      (hphase : crowd.phase caller = .sending request (.ask query resume)) :
      Move client wishes crowd (.advance caller answers)
        ((crowd.note caller ⟨query, answers query⟩).place caller
          (.sending request (resume (answers query))))
  | ends {caller : Nat} (answers : Answers) {request : Request} {answer : Except Error Response}
      (hphase : crowd.phase caller = .sending request (.done answer)) :
      Move client wishes crowd (.advance caller answers)
        (crowd.place caller (.answered (client.conclude (wishes caller) answer)))
  | goes {caller : Nat} (hanswer : ∀ answer, crowd.phase caller ≠ .answered answer)
      (hgone : crowd.phase caller ≠ .gone) :
      Move client wishes crowd (.goAway caller) ((crowd.withdraw caller).place caller .gone)

variable {client : Client} {wishes : Nat → Wish α} {crowd next : Crowd α} {event : Event}

theorem move_of_step? (h : step? client wishes crowd event = some next) :
    Move client wishes crowd event next := by
  cases event with
  | session event =>
      simp only [step?] at h
      split at h
      · next hphase =>
          obtain ⟨sessions, hstep, rfl⟩ := Option.map_eq_some_iff.mp h
          exact .session hphase hstep
      · cases h
  | receive caller =>
      simp only [step?] at h
      split at h
      · next hphase htold => exact Option.some.inj h ▸ .refused hphase htold
      · next hphase htold => exact Option.some.inj h ▸ .admitted hphase htold
      · cases h
  | permit caller =>
      simp only [step?] at h
      split at h
      · next hphase =>
          split at h
          · next hprepare => exact Option.some.inj h ▸ .unprepared hphase hprepare
          · next hprepare => exact Option.some.inj h ▸ .prepared hphase hprepare
      · cases h
  | token event =>
      simp only [step?] at h
      split at h
      · next hphase =>
          split at h
          · next hrule =>
              obtain ⟨tokens, hstep, rfl⟩ := Option.map_eq_some_iff.mp h
              exact .token hphase hrule hstep
          · cases h
      · cases h
  | sign caller =>
      simp only [step?] at h
      split at h
      · next hphase =>
          split at h
          · next hsigned => exact Option.some.inj h ▸ .unsigned hphase hsigned
          · next hsigned => exact Option.some.inj h ▸ .signed hphase hsigned
          · cases h
      · cases h
  | advance caller answers =>
      simp only [step?] at h
      split at h
      · next hphase => exact Option.some.inj h ▸ .ends _ hphase
      · next hphase => exact Option.some.inj h ▸ .asks _ hphase
      · cases h
  | goAway caller =>
      simp only [step?] at h
      split at h
      · cases h
      · cases h
      · next hanswer hgone => exact Option.some.inj h ▸ .goes hanswer hgone

theorem step?_of_move (h : Move client wishes crowd event next) :
    step? client wishes crowd event = some next := by
  cases h with
  | session hphase hstep => simp [step?, hphase, hstep]
  | refused hphase htold | admitted hphase htold => simp [step?, hphase, htold]
  | unprepared hphase hprepare | prepared hphase hprepare => simp [step?, hphase, hprepare]
  | token hphase hrule hstep => simp [step?, hphase, hrule, hstep]
  | unsigned hphase hsigned | signed hphase hsigned => simp [step?, hphase, hsigned]
  | asks answers hphase | ends answers hphase => simp [step?, hphase]
  | goes hanswer hgone => simp only [step?]

/-! ### Runs -/

/-- What holds of calls and is kept by every step holds after every run. -/
theorem run?_induction (property : Crowd α → Prop)
    (hstep : ∀ {crowd next event}, property crowd → Move client wishes crowd event next →
      property next) {events : List Event} (hstart : property crowd)
    (hrun : run? client wishes crowd events = some next) : property next := by
  induction events generalizing crowd with
  | nil => exact Option.some.inj hrun ▸ hstart
  | cons event rest ih =>
      obtain ⟨middle, hmiddle, hrest⟩ := Option.bind_eq_some_iff.mp hrun
      exact ih (hstep hstart (move_of_step? hmiddle)) hrest

end Crowd

end ControlPlane.Client
