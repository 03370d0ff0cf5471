import ControlPlane.Proofs.Client.Crowd
import ControlPlane.Proofs.Gate.Transcript

/-!
# Where calls stand

What a call has asked by now goes by where it stands: nothing until it is authenticated, then a
permit, and then what the exchange of its signed request asks. Steps of other calls change nothing
of that, and what a call was told at a gate stays what it was told.
-/

namespace ControlPlane.Client.Crowd

variable {α : Type} {config : Config} {chain : List Authenticator} {retry : RetryPolicy}
  {limit : RateLimit} {client : Client} {wishes : Nat → Wish α} {wish : Wish α}
  {crowd next : Crowd α} {event : Event} {caller : Nat} {request : Request} {failure : Failure}

/-! ### What a call asked -/

def permitDrawn : Asked :=
  ⟨.permit, ()⟩

/-- What a call asked, in order. -/
def ownPast (crowd : Crowd α) (caller : Nat) : List Asked :=
  (crowd.past.filter (·.1 = caller)).map Prod.snd

theorem ownPast_note_self (crowd : Crowd α) (caller : Nat) (asked : Asked) :
    (crowd.note caller asked).ownPast caller = crowd.ownPast caller ++ [asked] := by
  simp [ownPast, note]

theorem ownPast_note_ne (crowd : Crowd α) {caller other : Nat} (h : other ≠ caller)
    (asked : Asked) : (crowd.note caller asked).ownPast other = crowd.ownPast other := by
  simp [ownPast, note, Ne.symm h]

theorem ownPast_note_permit (h : crowd.ownPast caller = []) :
    (crowd.note caller permitDrawn).ownPast caller = [permitDrawn] := by
  rw [ownPast_note_self, h, List.nil_append]

theorem phase_place_self (crowd : Crowd α) (caller : Nat) (phase : Phase α) :
    (crowd.place caller phase).phase caller = phase :=
  if_pos rfl

theorem phase_place_ne (crowd : Crowd α) {caller other : Nat} (h : other ≠ caller)
    (phase : Phase α) : (crowd.place caller phase).phase other = crowd.phase other :=
  if_neg h

/-! ### What a call was told at the gates -/

/-- The failure that a call meets before its request is sent. -/
inductive Fails (crowd : Crowd α) (caller : Nat) (wish : Wish α) : Failure → Prop where
  | authentication {failure : Failure}
      (htold : crowd.sessions.phase caller = .finished (.error failure)) :
      Fails crowd caller wish failure
  | preparation {resolved : Resolved} {error : Error}
      (htold : crowd.sessions.phase caller = .finished (.ok resolved))
      (hprepare : prepare resolved.host wish.method wish.path wish.body = .error error) :
      Fails crowd caller wish (.error error)
  | signature {resolved : Resolved} {request : Request} {headers : HeaderMap} {failure : Failure}
      (htold : crowd.sessions.phase caller = .finished (.ok resolved))
      (hprepare : prepare resolved.host wish.method wish.path wish.body = .ok request)
      (hsigned : crowd.signed? caller resolved.signer request.headers =
        some ⟨headers, .error failure⟩) :
      Fails crowd caller wish failure

/-- The request that a call sends: the one it formed, as it was signed. -/
inductive Signs (crowd : Crowd α) (caller : Nat) (wish : Wish α) : Request → Prop where
  | of {resolved : Resolved} {request : Request} {headers : HeaderMap}
      (htold : crowd.sessions.phase caller = .finished (.ok resolved))
      (hprepare : prepare resolved.host wish.method wish.path wish.body = .ok request)
      (hsigned : crowd.signed? caller resolved.signer request.headers = some ⟨headers, .ok ()⟩) :
      Signs crowd caller wish { request with headers }

/-- The request that a call is ready to send, or its failure, once it was told all it needs. -/
def readied? (crowd : Crowd α) (caller : Nat) (wish : Wish α) : Option (Except Failure Request) :=
  match crowd.sessions.phase caller with
  | .finished (.error failure) => some (.error failure)
  | .finished (.ok resolved) =>
    match prepare resolved.host wish.method wish.path wish.body with
    | .error error => some (.error (.error error))
    | .ok request => (crowd.signed? caller resolved.signer request.headers).map fun signed =>
        signed.outcome.map fun _ => { request with headers := signed.headers }
  | _ => none

theorem Fails.readied (h : crowd.Fails caller wish failure) :
    crowd.readied? caller wish = some (.error failure) := by
  cases h with
  | authentication htold => simp only [readied?, htold]
  | preparation htold hprepare => simp only [readied?, htold, hprepare]
  | signature htold hprepare hsigned =>
      simp only [readied?, htold, hprepare, hsigned]
      rfl

theorem Signs.readied (h : crowd.Signs caller wish request) :
    crowd.readied? caller wish = some (.ok request) := by
  obtain ⟨htold, hprepare, hsigned⟩ := h
  simp only [readied?, htold, hprepare, hsigned]
  rfl

theorem Fails.not_signs (h : crowd.Fails caller wish failure) :
    ¬ crowd.Signs caller wish request := by
  intro hsigns
  have hready := h.readied.symm.trans hsigns.readied
  cases hready

theorem Fails.unique {other : Failure} (h : crowd.Fails caller wish failure)
    (hother : crowd.Fails caller wish other) : other = failure :=
  Except.error.inj (Option.some.inj (hother.readied.symm.trans h.readied))

theorem Fails.of_told {resolved : Resolved} (h : crowd.Fails caller wish failure)
    (htold : crowd.sessions.phase caller = .finished (.ok resolved)) :
    (∃ error, prepare resolved.host wish.method wish.path wish.body = .error error ∧
      failure = .error error) ∨
    ∃ request headers, prepare resolved.host wish.method wish.path wish.body = .ok request ∧
      crowd.signed? caller resolved.signer request.headers = some ⟨headers, .error failure⟩ := by
  cases h with
  | authentication hfailed =>
      rw [hfailed] at htold
      cases htold
  | @preparation other error hother hprepare =>
      rw [hother] at htold
      obtain rfl := Except.ok.inj (Gate.Phase.finished.inj htold)
      exact .inl ⟨error, hprepare, rfl⟩
  | @signature other request headers failure hother hprepare hsigned =>
      rw [hother] at htold
      obtain rfl := Except.ok.inj (Gate.Phase.finished.inj htold)
      exact .inr ⟨request, headers, hprepare, hsigned⟩

/-- Whatever was told at the gates is still known. -/
structure Later (crowd next : Crowd α) : Prop where
  session {caller : Nat} {outcome : Except Failure Resolved} :
    crowd.sessions.phase caller = .finished outcome → next.sessions.phase caller = .finished outcome
  token {caller : Nat} {outcome : Except Failure Token} (inner : TokenSigner) :
    (crowd.tokensOf inner).phase caller = .finished outcome →
      (next.tokensOf inner).phase caller = .finished outcome

theorem Later.of_same (hsessions : next.sessions = crowd.sessions)
    (htokens : next.tokens = crowd.tokens) : Later crowd next where
  session h := by rwa [hsessions]
  token inner h := by rwa [tokensOf, htokens]

variable [Wording]

theorem later_of_move (h : Move client wishes crowd event next) : Later crowd next := by
  cases h with
  | session hphase hstep => exact ⟨Gate.Crowd.finished_of_step? hstep, fun _ => id⟩
  | @token event resolved request inner tokens hphase hrule hstep =>
      refine ⟨id, fun other htold => ?_⟩
      cases htokens : crowd.tokens with
      | none => simp [tokensOf, htokens, TokenSigner.opening] at htold
      | some held =>
          simp only [tokensOf, htokens, Option.getD_some] at hstep htold
          exact Gate.Crowd.finished_of_step? hstep htold
  | goes hanswer hgone =>
      refine ⟨fun htold => Gate.Crowd.finished_withdraw htold _, fun other htold => ?_⟩
      cases htokens : crowd.tokens with
      | none => simp [tokensOf, htokens, TokenSigner.opening] at htold
      | some held =>
          simp only [tokensOf, htokens, Option.getD_some] at htold
          simpa [tokensOf, place, withdraw, htokens] using Gate.Crowd.finished_withdraw htold _
  | _ => exact .of_same rfl rfl

omit [Wording] in
theorem Later.signed? (h : Later crowd next) {signer : Signer} {headers : HeaderMap}
    {signed : Signed} (hsigned : crowd.signed? caller signer headers = some signed) :
    next.signed? caller signer headers = some signed := by
  unfold Crowd.signed? at hsigned ⊢
  cases hrule : signer.rule with
  | fixed fixed =>
      rw [hrule] at hsigned
      exact hsigned
  | refreshing inner =>
      simp only [hrule] at hsigned
      split at hsigned
      · next htold =>
          simp only [h.token inner htold]
          exact hsigned
      · cases hsigned

omit [Wording] in
theorem Fails.later (h : crowd.Fails caller wish failure) (hlater : Later crowd next) :
    next.Fails caller wish failure := by
  cases h with
  | authentication htold => exact .authentication (hlater.session htold)
  | preparation htold hprepare => exact .preparation (hlater.session htold) hprepare
  | signature htold hprepare hsigned =>
      exact .signature (hlater.session htold) hprepare (hlater.signed? hsigned)

omit [Wording] in
theorem Signs.later (h : crowd.Signs caller wish request) (hlater : Later crowd next) :
    next.Signs caller wish request := by
  obtain ⟨htold, hprepare, hsigned⟩ := h
  exact .of (hlater.session htold) hprepare (hlater.signed? hsigned)

/-! ### Where a call stands -/

/-- A call has drawn its permit and is on its way through the exchange of its signed request. -/
def Sends (client : Client) (wish : Wish α) (crowd : Crowd α) (caller : Nat) (request : Request)
    (current : Program (Except Error Response)) : Prop :=
  crowd.Signs caller wish request ∧ ∃ part, crowd.ownPast caller = permitDrawn :: part ∧
    (client.exchange request).GoesOn part current

/-- What holds of a call that stands here. -/
def Standing (client : Client) (wish : Wish α) (crowd : Crowd α) (caller : Nat) :
    Phase α → Prop
  | .authenticating => crowd.ownPast caller = []
  | .granted resolved =>
    crowd.ownPast caller = [] ∧ crowd.sessions.phase caller = .finished (.ok resolved)
  | .signing resolved request =>
    crowd.ownPast caller = [permitDrawn] ∧
      crowd.sessions.phase caller = .finished (.ok resolved) ∧
        prepare resolved.host wish.method wish.path wish.body = .ok request
  | .sending request current => Sends client wish crowd caller request current
  | .answered answer =>
    (∃ failure, crowd.Fails caller wish failure ∧ answer = .error failure ∧
      crowd.ownPast caller <+: [permitDrawn]) ∨
    ∃ request result, Sends client wish crowd caller request (.done result) ∧
      answer = client.conclude wish result
  | .gone =>
    crowd.ownPast caller <+: [permitDrawn] ∨
      ∃ request current, Sends client wish crowd caller request current

omit [Wording] in
theorem Sends.later {current : Program (Except Error Response)}
    (h : Sends client wish crowd caller request current) (hlater : Later crowd next)
    (hpast : next.ownPast caller = crowd.ownPast caller) :
    Sends client wish next caller request current :=
  ⟨h.1.later hlater, by rw [hpast]; exact h.2⟩

theorem Standing.later {phase : Phase α} (h : Standing client wish crowd caller phase)
    (hlater : Later crowd next) (hpast : next.ownPast caller = crowd.ownPast caller) :
    Standing client wish next caller phase := by
  cases phase with
  | authenticating => exact hpast.trans h
  | granted resolved => exact ⟨hpast.trans h.1, hlater.session h.2⟩
  | signing resolved request => exact ⟨hpast.trans h.1, hlater.session h.2.1, h.2.2⟩
  | sending request current => exact Sends.later h hlater hpast
  | answered answer =>
      rcases h with ⟨failure, hfails, hanswer, hown⟩ | ⟨request, result, hsends, hanswer⟩
      · exact .inl ⟨failure, hfails.later hlater, hanswer, by rwa [hpast]⟩
      · exact .inr ⟨request, result, hsends.later hlater hpast, hanswer⟩
  | gone =>
      rcases h with hown | ⟨request, current, hsends⟩
      · exact .inl (by rwa [hpast])
      · exact .inr ⟨request, current, hsends.later hlater hpast⟩

/-- Wherever a call stands, it has no more than a permit or is on the way through its exchange; so
it leaves no more behind if it goes away. -/
theorem Standing.gone {phase : Phase α} (h : Standing client wish crowd caller phase) :
    Standing client wish crowd caller .gone := by
  cases phase with
  | authenticating => exact .inl (h ▸ List.nil_prefix)
  | granted resolved => exact .inl (h.1 ▸ List.nil_prefix)
  | signing resolved request => exact .inl (h.1 ▸ List.prefix_rfl)
  | sending request current => exact .inr ⟨request, current, h⟩
  | answered answer =>
      rcases h with ⟨failure, -, -, hown⟩ | ⟨request, result, hsends, -⟩
      · exact .inl hown
      · exact .inr ⟨request, _, hsends⟩
  | gone => exact h

def AllStand (client : Client) (wishes : Nat → Wish α) (crowd : Crowd α) : Prop :=
  ∀ caller, Standing client (wishes caller) crowd caller (crowd.phase caller)

theorem AllStand.place (hall : AllStand client wishes crowd) {changed : Crowd α} {phase : Phase α}
    (hlater : Later crowd (changed.place caller phase)) (hphases : changed.phase = crowd.phase)
    (hpast : ∀ other, other ≠ caller → changed.ownPast other = crowd.ownPast other)
    (hmover : Standing client (wishes caller) (changed.place caller phase) caller phase) :
    AllStand client wishes (changed.place caller phase) := by
  intro other
  by_cases hother : other = caller
  · rw [hother, phase_place_self]
    exact hmover
  · rw [phase_place_ne _ hother, hphases]
    exact (hall other).later hlater (hpast other hother)

theorem AllStand.move (hall : AllStand client wishes crowd)
    (hmove : Move client wishes crowd event next) : AllStand client wishes next := by
  have hlater := later_of_move hmove
  have hstands {caller : Nat} {phase : Phase α} (hphase : crowd.phase caller = phase) :
      Standing client (wishes caller) crowd caller phase := hphase ▸ hall caller
  -- The others stay as they are; what is left in each case is where the mover stands now.
  have hnote (caller : Nat) (asked : Asked) (other : Nat) (hother : other ≠ caller) :
      (crowd.note caller asked).ownPast other = crowd.ownPast other :=
    ownPast_note_ne crowd hother _
  cases hmove with
  | session => exact fun caller => (hall caller).later hlater rfl
  | token => exact fun caller => (hall caller).later hlater rfl
  | refused hphase htold =>
      have hown : crowd.ownPast _ = [] := hstands hphase
      exact hall.place hlater rfl (fun _ _ => rfl)
        (.inl ⟨_, .authentication (hlater.session htold), rfl, hown ▸ List.nil_prefix⟩)
  | admitted hphase htold =>
      have hown : crowd.ownPast _ = [] := hstands hphase
      exact hall.place hlater rfl (fun _ _ => rfl) ⟨hown, hlater.session htold⟩
  | @unprepared caller resolved error hphase hprepare =>
      obtain ⟨hown, htold⟩ := hstands hphase
      have hdrawn := ownPast_note_permit hown
      exact hall.place hlater rfl (hnote caller _)
        (.inl ⟨_, .preparation (hlater.session htold) hprepare, rfl, hdrawn ▸ List.prefix_rfl⟩)
  | @prepared caller resolved request hphase hprepare =>
      obtain ⟨hown, htold⟩ := hstands hphase
      have hdrawn := ownPast_note_permit hown
      exact hall.place hlater rfl (hnote caller _) ⟨hdrawn, hlater.session htold, hprepare⟩
  | unsigned hphase hsigned =>
      obtain ⟨hown, htold, hprepare⟩ := hstands hphase
      exact hall.place hlater rfl (fun _ _ => rfl)
        (.inl ⟨_, .signature (hlater.session htold) hprepare (hlater.signed? hsigned), rfl,
          hown ▸ List.prefix_rfl⟩)
  | signed hphase hsigned =>
      obtain ⟨hown, htold, hprepare⟩ := hstands hphase
      exact hall.place hlater rfl (fun _ _ => rfl)
        ⟨.of (hlater.session htold) hprepare (hlater.signed? hsigned), [], hown, fun _ _ => id⟩
  | @asks caller answers request query resume hphase =>
      obtain ⟨hsigns, part, hown, hgoes⟩ := hstands hphase
      refine hall.place hlater rfl (hnote caller _)
        ⟨hsigns.later hlater, part ++ [⟨query, answers query⟩], ?_, hgoes.answer (answers query)⟩
      exact (ownPast_note_self crowd caller _).trans (by rw [hown]; rfl)
  | ends answers hphase =>
      have hsends : Sends client _ crowd _ _ (.done _) := hstands hphase
      exact hall.place hlater rfl (fun _ _ => rfl) (.inr ⟨_, _, hsends.later hlater rfl, rfl⟩)
  | goes hanswer hgone =>
      exact hall.place hlater rfl (fun _ _ => rfl) ((hall _).gone.later hlater rfl)

theorem allStand_opening (client : Client) (wishes : Nat → Wish α) :
    AllStand client wishes (opening client) :=
  fun _ => rfl

/-- **Where calls stand after a run.** -/
theorem allStand_of_run? {events : List Event}
    (hrun : run? client wishes (opening client) events = some crowd) :
    AllStand client wishes crowd :=
  run?_induction (AllStand client wishes) AllStand.move (allStand_opening client wishes) hrun

/-! ### The gates of a client -/

/-- Calls that stand where they may, and the gates as their callers brought them about. -/
structure Gated (config : Config) (chain : List Authenticator) (client : Client)
    (wishes : Nat → Wish α) (crowd : Crowd α) : Prop where
  stand : AllStand client wishes crowd
  sessions : Gate.Crowd.Reaches (Session.gate chain) (Session.opening config chain) crowd.sessions
  tokens {tokens : Gate.Crowd Token Token} : crowd.tokens = some tokens →
    ∃ resolved inner, crowd.sessions.state.resolved = some resolved ∧
      resolved.signer.rule = .refreshing inner ∧
        Gate.Crowd.Reaches (TokenSigner.gate inner.source) (TokenSigner.opening inner.cached) tokens

/-- Whoever was told a result was told the one in the slot. -/
theorem Gated.resolved_of_told (h : Gated config chain client wishes crowd) {resolved : Resolved}
    (htold : crowd.sessions.phase caller = .finished (.ok resolved)) :
    crowd.sessions.state.resolved = some resolved := by
  obtain ⟨events, hrun⟩ := h.sessions
  exact (Session.consistent_of_run? hrun).told (by rw [htold]; rfl)

theorem Gated.move (h : Gated config chain client wishes crowd)
    (hclient : client.session.chain = chain) (hmove : Move client wishes crowd event next) :
    Gated config chain client wishes next := by
  have hstand := h.stand.move hmove
  cases hmove with
  | session hphase hstep =>
      rw [hclient] at hstep
      refine ⟨hstand, h.sessions.step hstep, fun htokens => ?_⟩
      obtain ⟨resolved, inner, hresolved, hrule, hreached⟩ := h.tokens htokens
      obtain ⟨events, hrun⟩ := h.sessions
      have hslot := (Session.consistent_of_run? hrun).resolved_of_step hstep hresolved
      exact ⟨resolved, inner, hslot, hrule, hreached⟩
  | @token event resolved request inner tokens hphase hrule hstep =>
      refine ⟨hstand, h.sessions, ?_⟩
      rintro _ ⟨⟩
      have hcaller := h.stand event.caller
      rw [hphase] at hcaller
      have hslot := h.resolved_of_told hcaller.2.1
      refine ⟨resolved, inner, hslot, hrule, ?_⟩
      cases htokens : crowd.tokens with
      | none =>
          rw [tokensOf, htokens] at hstep
          exact Gate.Crowd.Reaches.step ⟨[], rfl⟩ hstep
      | some held =>
          -- The slot names one signer only, so its gate is the one that is there already.
          obtain ⟨other, holder, hother, hholder, hreached⟩ := h.tokens htokens
          obtain rfl := Option.some.inj (hslot.symm.trans hother)
          obtain rfl := SignerRule.refreshing.inj (hrule.symm.trans hholder)
          rw [tokensOf, htokens] at hstep
          exact hreached.step hstep
  | @goes caller hanswer hgone =>
      refine ⟨hstand, h.sessions.withdraw caller, fun htokens => ?_⟩
      obtain ⟨held, hheld, rfl⟩ := Option.map_eq_some_iff.mp htokens
      obtain ⟨resolved, inner, hresolved, hrule, hreached⟩ := h.tokens hheld
      refine ⟨resolved, inner, ?_, hrule, hreached.withdraw caller⟩
      exact (congrArg Session.resolved (Gate.Crowd.state_withdraw _ caller)).trans hresolved
  | _ => exact ⟨hstand, h.sessions, h.tokens⟩

theorem gated_of_run? {events : List Event}
    (hrun : run? (ofConfig config chain retry limit) wishes
      (opening (ofConfig config chain retry limit)) events = some crowd) :
    Gated config chain (ofConfig config chain retry limit) wishes crowd :=
  run?_induction (Gated config chain (ofConfig config chain retry limit) wishes)
    (fun h hmove => h.move rfl hmove) ⟨allStand_opening _ wishes, ⟨[], rfl⟩, nofun⟩ hrun

end ControlPlane.Client.Crowd
