import ControlPlane.Proofs.Gate.Outcome
import ControlPlane.Endpoint
import ControlPlane.Signer

/-!
# One fetch at a time

Callers who sign with one refreshing signer fetch tokens one at a time, and only when the kept token
was seen expired under the guard. The token that a fetch brings is kept; a fetch that fails or is
dropped leaves the kept one as it was. While the tokens that were fetched last, there is no second
fetch that succeeds. Whatever a request is signed with comes from one token.
-/

namespace ControlPlane.TokenSigner

open Gate Gate.Crowd

variable {source : TokenSource} {crowd next : Crowd Token Token} {event : Event}
  {deed : Option (Deed Token)} {past : List (Deed Token)}

/-- A signer that keeps this token, and callers who have not come yet. -/
def opening (kept : Token) : Crowd Token Token :=
  { state := kept }

/-! ### The contract of a fetch -/

/-- A fetch that succeeds leaves its token, one that fails the token that was kept. -/
def Refreshes (kept : Token) : Token × Option (Except Failure Token) → Prop
  | (_, none) => False
  | (left, some (.ok token)) => left = token
  | (left, some (.error _)) => left = kept

theorem every_lastStage (source : TokenSource) (kept : Token) :
    ((gate source).lastStage kept).Every (Refreshes kept) := by
  simp only [lastStage, gate, Program.debug, Program.log, Program.query, Program.ask_bind,
    Program.every_ask, Program.done_bind, Program.every_bind]
  intro _
  refine Program.every_of_forall (fun result => ?_) _
  cases result with
  | ok token => simp [Refreshes]
  | error failure => simp [Refreshes]

theorem contract (source : TokenSource) : Contract (gate source) (fun _ => True) Refreshes where
  ready_of_look _ := trivial
  stage _ _ hstage := by simp [gate] at hstage
  last _ := every_lastStage source _
  ready_of_ends _ _ := trivial

theorem answerAll_look (answers : Answers) (kept : Token) :
    ((gate source).look kept).answerAll answers =
      if kept.isExpired (answers .wallClock) then none else some kept := rfl

/-! ### The kept token -/

abbrev Orderly (source : TokenSource) (crowd : Crowd Token Token) : Prop :=
  crowd.Orderly (gate source) (fun _ => True) Refreshes

theorem state_of_move (h : Orderly source crowd)
    (hmove : Move (gate source) crowd event deed next)
    (hdeed : ∀ caller token, deed ≠ some (.made caller token)) : next.state = crowd.state := by
  have hchanges := h.changes hmove
  match deed with
  | none => exact hchanges.elim id fun hends => hends.2.elim
  | some (.made caller token) => exact absurd rfl (hdeed caller token)
  | some (.failed ..) => exact hchanges.2
  | some (.found ..) | some (.began ..) | some (.dropped ..) => exact hchanges

theorem state_of_made (h : Orderly source crowd) {caller : Nat} {token : Token}
    (hmove : Move (gate source) crowd event (some (.made caller token)) next) :
    next.state = token :=
  (h.changes hmove).2

theorem look_eq_some_iff {answers : Answers} {kept token : Token} :
    ((gate source).look kept).answerAll answers = some token ↔
      kept = token ∧ kept.isExpired (answers .wallClock) = false := by
  rw [answerAll_look]
  split <;> simp_all

theorem isExpired_of_began {caller : Nat} {answers : Answers}
    (horderly : Orderly source crowd)
    (hmove : Move (gate source) crowd event (some (.began caller answers)) next) :
    event = .lookAgain caller answers ∧ crowd.holder = some caller ∧
      crowd.state.isExpired (answers .wallClock) = true := by
  cases hmove with
  | begins hphase hlook =>
      rw [answerAll_look] at hlook
      exact ⟨rfl, (horderly.guarded caller).1 (by simp [hphase, Phase.HoldsGuard]),
        by simpa using hlook⟩

/-! ### Along a run -/

/-- How the kept token, the callers and their history fit together, if no token that was fetched has
expired by `finish` and no fetch has begun after it. -/
def Lasting (finish : Instant) (crowd : Crowd Token Token) (past : List (Deed Token)) : Prop :=
  (∀ caller answers, .began caller answers ∈ past →
    (answers .wallClock).nanos ≤ finish.nanos) →
  (∀ caller token, .made caller token ∈ past → token.isExpired finish = false) →
    past.countP Deed.isMade = 0 ∨ past.countP Deed.isMade = 1 ∧
      (∀ caller, ¬ (crowd.phase caller).IsWorking) ∧ crowd.state.isExpired finish = false

theorem Lasting.step {finish : Instant} (h : Lasting finish crowd past)
    (horderly : Orderly source crowd) (hmove : Move (gate source) crowd event deed next) :
    Lasting finish next (past ++ deed.toList) := by
  intro hclock hlast
  have hnext := horderly.move (contract source) hmove
  have hbefore := h (fun caller answers hmem => hclock caller answers (List.mem_append_left _ hmem))
    (fun caller token hmem => hlast caller token (List.mem_append_left _ hmem))
  by_cases hmade : ∃ caller token, deed = some (.made caller token)
  · -- The caller who fetched was making a token, so there had been no success.
    obtain ⟨caller, token, rfl⟩ := hmade
    have hkept := state_of_made horderly hmove
    cases hmove with
    | @makes _ _ _ _ _ hphase =>
        rcases hbefore with hzero | ⟨-, hidle, -⟩
        · refine .inr ⟨by simp [hzero, Deed.isMade], fun other hworking => ?_, ?_⟩
          · have hone : other = caller := hnext.guarded.unique hworking.holdsGuard
              (by simp [Phase.HoldsGuard])
            simp [hone, Phase.IsWorking] at hworking
          · rw [hkept]
            exact hlast caller token (by simp)
        · exact absurd (Phase.isWorking_of_eq hphase) (hidle caller)
  · have hnone : deed.toList.countP Deed.isMade = 0 := by
      rw [List.countP_eq_zero]
      intro done hdone his
      obtain ⟨caller, token, rfl⟩ := Deed.isMade_iff.mp his
      exact hmade ⟨caller, token, Option.mem_toList.mp hdone⟩
    rw [List.countP_append, hnone, Nat.add_zero]
    refine hbefore.imp_right ?_
    rintro ⟨hone, hidle, hfresh⟩
    refine ⟨hone, fun caller hworking => ?_, ?_⟩
    · -- Whoever began would have seen a token expired that has not expired even in the end.
      rcases isWorking_of_move hmove hworking with hbusy | ⟨answers, rfl⟩
      · exact hidle caller hbusy
      · have hexpired := (isExpired_of_began horderly hmove).2.2
        have hend := Token.isExpired_mono (hclock caller answers (by simp)) hexpired
        rw [hfresh] at hend
        cases hend
    · rw [state_of_move horderly hmove fun caller token hdeed => hmade ⟨caller, token, hdeed⟩]
      exact hfresh

theorem lasting_of_run? {initial : Token} {events : List Event}
    (hrun : run? (gate source) (opening initial) events = some crowd) (finish : Instant) :
    Lasting finish crowd (history (gate source) (opening initial) events) := by
  refine (run?_induction (fun crowd past => Orderly source crowd ∧ Lasting finish crowd past)
    ⟨orderly_start initial, fun _ _ => .inl rfl⟩ ?_ hrun).2
  intro crowd next past event h hstep
  have hmove := move_of_step? hstep
  exact ⟨h.1.move (contract source) hmove, h.2.step h.1 hmove⟩

/-! ### Signing -/

/-- The headers of a token: the one that carries its text, and its own. -/
def tokenHeaders (token : Token) : Except Error (List FixedHeader) := do
  let value ← FixedHeader.sensitive ("Bearer " ++ token.text)
  let own ← token.headers.mapM fun header => FixedHeader.ofTexts header.1 header.2
  return (.authorization, value) :: own

theorem insertAll_append (headers : HeaderMap) (first last : List FixedHeader) :
    FixedHeader.insertAll headers (first ++ last) =
      FixedHeader.insertAll (FixedHeader.insertAll headers first) last := by
  simp [FixedHeader.insertAll]

theorem setTexts_of_ok {texts : List (String × String)} {headers : HeaderMap}
    (hok : (setTexts headers texts).outcome = .ok ()) :
    ∃ own, texts.mapM (fun header => FixedHeader.ofTexts header.1 header.2) = .ok own ∧
      (setTexts headers texts).headers = FixedHeader.insertAll headers own := by
  induction texts generalizing headers with
  | nil => exact ⟨[], rfl, rfl⟩
  | cons text rest ih =>
      simp only [setTexts] at hok ⊢
      cases hheader : FixedHeader.ofTexts text.1 text.2 with
      | error error => simp [hheader] at hok
      | ok header =>
          simp only [hheader] at hok ⊢
          obtain ⟨own, hown, hheaders⟩ := ih hok
          refine ⟨header :: own, ?_, hheaders⟩
          rw [List.mapM_cons, hheader, hown]
          rfl

/-- Whatever a request is signed with comes from one token. -/
theorem setToken_of_ok {headers : HeaderMap} {token : Token} {fixed : List FixedHeader}
    (hok : (setToken headers token fixed).outcome = .ok ()) :
    ∃ own, tokenHeaders token = .ok own ∧
      (setToken headers token fixed).headers = FixedHeader.insertAll headers (own ++ fixed) := by
  unfold setToken at hok ⊢
  cases hvalue : FixedHeader.sensitive ("Bearer " ++ token.text) with
  | error error => simp [hvalue] at hok
  | ok value =>
      simp only [hvalue] at hok ⊢
      cases hset : (setTexts (headers.insert .authorization value) token.headers).outcome with
      | error failure => simp [hset] at hok
      | ok _ =>
          obtain ⟨own, hown, hheaders⟩ := setTexts_of_ok hset
          refine ⟨(.authorization, value) :: own, ?_, ?_⟩
          · rw [tokenHeaders, hvalue, hown]
            rfl
          · rw [hheaders, insertAll_append]
            rfl

/-- Callers who sign with one signer, after these steps of theirs. -/
structure SingleFlight (source : TokenSource) (initial : Token) (events : List Event)
    (crowd : Crowd Token Token) : Prop where
  /-- At most one fetch is under way. -/
  one_fetch {caller other : Nat} : (crowd.phase caller).IsWorking →
    (crowd.phase other).IsWorking → caller = other
  /-- A fetch begins only by a look under the guard that sees the kept token within half a minute of
  its end. -/
  begins_expired {event : Event} {next : Crowd Token Token} {caller : Nat} :
    step? (gate source) crowd event = some next → (next.phase caller).IsWorking →
      ¬ (crowd.phase caller).IsWorking →
        ∃ answers instant, event = .lookAgain caller answers ∧ crowd.holder = some caller ∧
          crowd.state.expiresAt = some instant ∧
            instant.nanos ≤ (answers .wallClock).nanos + 30 * Instant.second
  /-- If no clock was read under the guard later than `finish`, and no token that was fetched has
  expired by then, no more than one fetch has succeeded. -/
  one_success {finish : Instant} :
    (∀ caller answers, .lookAgain caller answers ∈ events →
      (answers .wallClock).nanos ≤ finish.nanos) →
    (∀ caller token, .made caller token ∈ history (gate source) (opening initial) events →
      token.isExpired finish = false) →
    (history (gate source) (opening initial) events).countP Deed.isMade ≤ 1
  /-- A fetch that fails or is dropped leaves the kept token as it was, as does every other step but
  a success. -/
  kept {event : Event} {next : Crowd Token Token} :
    step? (gate source) crowd event = some next →
      (∀ caller token, deed? (gate source) crowd event ≠ some (.made caller token)) →
        next.state = crowd.state
  replaced {event : Event} {next : Crowd Token Token} {caller : Nat} {token : Token} :
    step? (gate source) crowd event = some next →
      deed? (gate source) crowd event = some (.made caller token) → next.state = token
  /-- Signing that succeeds sets the headers of one token, which the caller fetched or had read
  before it expired. -/
  signed {caller : Nat} {outcome : Except Failure Token} (headers : HeaderMap)
    (fixed : List FixedHeader) : crowd.phase caller = .finished outcome →
      (conclude headers fixed outcome).outcome = .ok () →
        ∃ token own, outcome = .ok token ∧ tokenHeaders token = .ok own ∧
          (conclude headers fixed outcome).headers =
            FixedHeader.insertAll headers (own ++ fixed) ∧
          (.made caller token ∈ history (gate source) (opening initial) events ∨
            ∃ answers, .found caller token answers ∈
              history (gate source) (opening initial) events ∧
                token.isExpired (answers .wallClock) = false)

/-- **One fetch at a time.** Whatever source and first token, and whatever steps callers take in
whatever order. -/
theorem sign_single_flight (source : TokenSource) (initial : Token) {events : List Event}
    {crowd : Crowd Token Token} (hrun : run? (gate source) (opening initial) events = some crowd) :
    SingleFlight source initial events crowd := by
  have h : Orderly source crowd := orderly_of_run? (contract source) hrun
  refine
    { one_fetch := fun hcaller hother =>
        h.guarded.unique hcaller.holdsGuard hother.holdsGuard
      begins_expired := fun hstep hworking hidle => ?begins
      one_success := @fun finish hclock hlast => ?one
      kept := fun hstep hdeed => state_of_move h (move_of_step? hstep) hdeed
      replaced := fun hstep hdeed => state_of_made h (hdeed ▸ move_of_step? hstep)
      signed := @fun caller outcome headers fixed hphase hok => ?signed }
  case begins =>
    rcases isWorking_of_move (move_of_step? hstep) hworking with hbusy | ⟨answers, hdeed⟩
    · exact absurd hbusy hidle
    · obtain ⟨hevent, hholder, hexpired⟩ := isExpired_of_began h (hdeed ▸ move_of_step? hstep)
      obtain ⟨instant, hends, hle⟩ := Token.isExpired_iff.mp hexpired
      exact ⟨answers, instant, hevent, hholder, hends, hle⟩
  case one =>
    have hbegan : ∀ caller answers,
        .began caller answers ∈ history (gate source) (opening initial) events →
          (answers .wallClock).nanos ≤ finish.nanos :=
      fun caller answers hbegan => hclock caller answers (lookAgain_of_began hbegan)
    rcases lasting_of_run? hrun finish hbegan hlast with hzero | ⟨hone, -⟩ <;> omega
  case signed =>
    match outcome with
    | .error failure => simp [conclude] at hok
    | .ok token =>
      obtain ⟨own, hown, hheaders⟩ := setToken_of_ok hok
      refine ⟨token, own, rfl, hown, hheaders, ?_⟩
      have hcauses : Deed.Causes _ caller (.ok token) :=
        causes_of_outcome? (fun _ => rfl) hrun (by rw [hphase]; rfl)
      rcases hcauses with hmade | ⟨answers, hfound⟩
      · exact .inl hmade
      · obtain ⟨kept, hlook⟩ := look_of_found hrun hfound
        obtain ⟨rfl, hfresh⟩ := look_eq_some_iff.mp hlook
        exact .inr ⟨answers, hfound, hfresh⟩

def staleToken : Token := { text := "stale", expiresAt := some ⟨0⟩ }

/-- Two callers see a token expired; the first fetches another and the second finds that. -/
def twoCallers : List Event :=
  [.look 0 .bare, .look 1 .bare, .enter 0, .lookAgain 0 .bare, .advance 0 .bare, .advance 0 .bare,
    .advance 0 .bare, .leave 0, .enter 1, .lookAgain 1 .bare, .leave 1]

theorem sign_single_flight_lasting :
    ∃ crowd outcome,
      run? (gate (Endpoint.lastingToken "t" 3600)) (opening staleToken) twoCallers = some crowd ∧
        crowd.phase 1 = .finished outcome ∧ (conclude {} [] outcome).outcome = .ok () ∧
        (history (gate (Endpoint.lastingToken "t" 3600)) (opening staleToken) twoCallers).countP
          Deed.isMade = 1 ∧
        SingleFlight (Endpoint.lastingToken "t" 3600) staleToken twoCallers crowd := by
  obtain ⟨crowd, hrun⟩ : ∃ crowd,
      run? (gate (Endpoint.lastingToken "t" 3600)) (opening staleToken) twoCallers = some crowd :=
    Option.isSome_iff_exists.mp rfl
  have hflight := sign_single_flight _ _ hrun
  obtain rfl := Option.some.inj hrun
  exact ⟨_, _, hrun, rfl, rfl, rfl, hflight⟩

end ControlPlane.TokenSigner
