import ControlPlane.Proofs.Gate.Outcome
import ControlPlane.Session

/-!
# One walk that succeeds

Callers who authenticate on one session walk its chain one at a time, and only while the slot of the
result is empty. The first walk that succeeds fills the slot for good, and after it nothing happens
but that callers find its result there. A walk that fails or is dropped leaves the slot empty and the
guard free, and its error is told to the caller who walked.
-/

namespace ControlPlane.Session

open Gate Gate.Crowd

variable {chain : List Authenticator} {crowd next : Crowd Session Resolved} {event : Event}
  {deed : Option (Deed Resolved)} {past : List (Deed Resolved)}

/-- A session that nobody has used, and callers who have not come yet. -/
def opening (config : Config) (chain : List Authenticator) : Crowd Session Resolved :=
  { state := start config chain }

/-! ### The contract of a walk -/

/-- A stage that succeeds fills the slot with its result; any other leaves it empty. -/
def Settles (result : Session × Option (Except Failure Resolved)) : Prop :=
  result.1.resolved = result.2.bind Except.toOption

theorem every_askAuthenticator (authenticator : Authenticator) {session : Session}
    (hopen : session.resolved = none) :
    (askAuthenticator authenticator session).Every Settles := by
  simp only [askAuthenticator, Program.debug, Program.log, Program.query, Program.ask_bind,
    Program.every_ask, Program.done_bind, Program.every_bind]
  intro _
  refine Program.every_of_forall (fun result => ?_) _
  obtain ⟨config, verdict⟩ := result
  cases verdict with
  | error failure =>
      cases failure with
      | error error =>
          simpa [Settles, Except.toOption, Program.warn, Program.log, Program.query] using hopen
      | outOfCalendar => simpa [Settles, Except.toOption] using hopen
  | ok found =>
      cases found with
      | none => simpa [Settles] using hopen
      | some signer =>
          simp only [keep]
          split
          · simpa [Settles, Except.toOption] using hopen
          · simp [Settles, Except.toOption, Program.info, Program.log, Program.query]

theorem contract (chain : List Authenticator) :
    Contract (gate chain) (fun session => session.resolved = none) fun _ => Settles where
  ready_of_look hlook := hlook
  stage hopen stage hstage := by
    obtain ⟨authenticator, -, rfl⟩ := List.mem_map.mp hstage
    exact every_askAuthenticator authenticator hopen
  last hopen := by simpa [lastStage, gate, Settles, Except.toOption] using hopen
  ready_of_ends _ hends := by simpa [Settles] using hends

/-! ### The slot -/

abbrev Orderly (chain : List Authenticator) (crowd : Crowd Session Resolved) : Prop :=
  crowd.Orderly (gate chain) (fun session => session.resolved = none) fun _ => Settles

theorem resolved_of_move (h : Orderly chain crowd) (hmove : Move (gate chain) crowd event deed next)
    (hdeed : ∀ caller resolved, deed ≠ some (.made caller resolved)) :
    next.state.resolved = crowd.state.resolved := by
  have hchanges := h.changes hmove
  match deed with
  | none =>
      rcases hchanges with hsame | ⟨hopen, hsettles⟩
      · rw [hsame]
      · exact hsettles.trans hopen.symm
  | some (.made caller resolved) => exact absurd rfl (hdeed caller resolved)
  | some (.failed ..) => exact hchanges.2.trans hchanges.1.symm
  | some (.found ..) | some (.began ..) | some (.dropped ..) => exact congrArg _ hchanges

theorem resolved_of_made (h : Orderly chain crowd) {caller : Nat} {resolved : Resolved}
    (hmove : Move (gate chain) crowd event (some (.made caller resolved)) next) :
    crowd.state.resolved = none ∧ next.state.resolved = some resolved :=
  h.changes hmove

/-- Once the slot is filled, callers do nothing about the result but find it. -/
theorem deed_of_resolved (h : Orderly chain crowd) {resolved : Resolved}
    (hresolved : crowd.state.resolved = some resolved)
    (hmove : Move (gate chain) crowd event (some done) next) :
    ∃ caller answers, done = .found caller resolved answers := by
  have hidle (caller : Nat) : ¬ (crowd.phase caller).IsWorking := fun hworking => by
    simpa [hresolved] using h.ready_of_isWorking hworking
  cases hmove with
  | finds hphase hlook | findsAgain hphase hlook =>
      obtain rfl := Option.some.inj (hresolved.symm.trans hlook)
      exact ⟨_, _, rfl⟩
  | begins hphase hlook => exact absurd (hresolved.symm.trans hlook) (by simp)
  | makes hphase | fails hphase => exact absurd (Phase.isWorking_of_eq hphase) (hidle _)
  | drops hphase => exact absurd hphase (hidle _)

/-! ### Along a run -/

/-- How the slot, the callers and their history fit together. -/
structure Consistent (chain : List Authenticator) (crowd : Crowd Session Resolved)
    (past : List (Deed Resolved)) : Prop where
  orderly : Orderly chain crowd
  told {caller : Nat} {resolved : Resolved} :
    (crowd.phase caller).outcome? = some (.ok resolved) → crowd.state.resolved = some resolved
  failing {caller : Nat} {failure : Failure} :
    crowd.phase caller = .leaving (.error failure) → crowd.state.resolved = none
  made {before after : List (Deed Resolved)} {caller : Nat} {resolved : Resolved} :
    past = before ++ .made caller resolved :: after →
      crowd.state.resolved = some resolved ∧
        ∀ deed ∈ after, ∃ other answers, deed = .found other resolved answers
  maker {resolved : Resolved} :
    crowd.state.resolved = some resolved → ∃ caller, .made caller resolved ∈ past

theorem consistent_opening (config : Config) (chain : List Authenticator) :
    Consistent chain (opening config chain) [] where
  orderly := orderly_start _
  told h := by simp [opening, Phase.outcome?] at h
  failing h := by simp [opening] at h
  made h := by simp at h
  maker h := by simp [opening, start] at h

theorem Consistent.resolved_of_step (h : Consistent chain crowd past)
    (hstep : step? (gate chain) crowd event = some next) {resolved : Resolved}
    (hresolved : crowd.state.resolved = some resolved) :
    next.state.resolved = some resolved := by
  rw [← hresolved]
  refine resolved_of_move h.orderly (move_of_step? hstep) fun caller other hdeed => ?_
  have hopen := (resolved_of_made h.orderly (hdeed ▸ move_of_step? hstep)).1
  rw [hresolved] at hopen
  cases hopen

theorem Consistent.step (h : Consistent chain crowd past)
    (hstep : step? (gate chain) crowd event = some next) :
    Consistent chain next (past ++ (deed? (gate chain) crowd event).toList) := by
  have hslot : ∀ resolved, crowd.state.resolved = some resolved →
      next.state.resolved = some resolved := fun _ => h.resolved_of_step hstep
  have hmove := move_of_step? hstep
  generalize deed? (gate chain) crowd event = deed at hmove
  have hnext := h.orderly.move (contract chain) hmove
  refine ⟨hnext, ?told, ?failing, ?made, ?maker⟩
  case told =>
    intro caller resolved houtcome
    rcases outcome?_of_move hmove houtcome with hbefore | hmade | ⟨answers, hfound⟩
    · exact hslot _ (h.told hbefore)
    · obtain rfl := Option.mem_toList.mp hmade
      exact (resolved_of_made h.orderly hmove).2
    · obtain rfl := Option.mem_toList.mp hfound
      exact hslot _ (look_of_move hmove)
  case failing =>
    intro caller failure hphase
    have hopen : crowd.state.resolved = none :=
      (phase_of_leaving_error hmove hphase).elim h.failing h.orderly.ready_of_isWorking
    rw [← hopen]
    refine resolved_of_move h.orderly hmove fun other resolved hdeed => ?_
    -- The one who made a value and the one who failed would both hold the guard.
    subst hdeed
    cases hmove with
    | makes hworking =>
        have hone : caller = other := hnext.guarded.unique
          (by simp [hphase, Phase.HoldsGuard]) (by simp [Phase.HoldsGuard])
        simp [hone] at hphase
  case made =>
    intro before after caller resolved hpast
    cases deed with
    | none =>
        rw [Option.toList_none, List.append_nil] at hpast
        exact (h.made hpast).imp (hslot _) id
    | some done =>
        rw [Option.toList_some] at hpast
        rcases List.eq_nil_or_concat after with rfl | ⟨init, last, rfl⟩
        · obtain ⟨rfl, hdone⟩ := List.append_inj' hpast rfl
          obtain rfl := List.singleton_inj.mp hdone
          exact ⟨(resolved_of_made h.orderly hmove).2, by simp⟩
        · rw [List.concat_eq_append] at hpast ⊢
          rw [← List.cons_append, ← List.append_assoc] at hpast
          obtain ⟨hbefore, hdone⟩ := List.append_inj' hpast rfl
          obtain rfl := List.singleton_inj.mp hdone
          obtain ⟨hresolved, hfound⟩ := h.made hbefore
          refine ⟨hslot _ hresolved, fun deed hdeed => ?_⟩
          rcases List.mem_append.mp hdeed with hinit | hlast
          · exact hfound deed hinit
          · obtain rfl := List.mem_singleton.mp hlast
            exact deed_of_resolved h.orderly hresolved hmove
  case maker =>
    intro resolved hresolved
    by_cases hmade : ∃ caller other, deed = some (.made caller other)
    · obtain ⟨caller, other, rfl⟩ := hmade
      have hother := (resolved_of_made h.orderly hmove).2
      obtain rfl := Option.some.inj (hresolved.symm.trans hother)
      exact ⟨caller, by simp⟩
    · have hsame := resolved_of_move h.orderly hmove fun caller other hdeed =>
        hmade ⟨caller, other, hdeed⟩
      obtain ⟨caller, hcaller⟩ := h.maker (hsame ▸ hresolved)
      exact ⟨caller, List.mem_append_left _ hcaller⟩

theorem consistent_of_run? {config : Config} {events : List Event}
    (hrun : run? (gate chain) (opening config chain) events = some crowd) :
    Consistent chain crowd (history (gate chain) (opening config chain) events) :=
  run?_induction _ (consistent_opening config chain) Consistent.step hrun

theorem Consistent.slot_stays (h : Consistent chain crowd past) {more : List Event}
    {later : Crowd Session Resolved} (hrun : run? (gate chain) crowd more = some later)
    {resolved : Resolved} (hresolved : crowd.state.resolved = some resolved) :
    later.state.resolved = some resolved := by
  refine (run?_induction (fun crowd past =>
    (∃ past, Consistent chain crowd past) ∧ crowd.state.resolved = some resolved)
    ⟨⟨past, h⟩, hresolved⟩ ?_ hrun).2
  rintro crowd next - event ⟨⟨past, hnow⟩, hslot⟩ hstep
  exact ⟨⟨_, hnow.step hstep⟩, hnow.resolved_of_step hstep hslot⟩

/-! ### The guard after a walk -/

theorem release_of_holdsGuard (h : crowd.Guarded) {caller : Nat}
    (hholds : (crowd.phase caller).HoldsGuard) : (crowd.release caller).holder = none := by
  simp [release, (h caller).1 hholds]

/-- Callers on one session, after this history of theirs. -/
structure SingleWalk (chain : List Authenticator) (crowd : Crowd Session Resolved)
    (past : List (Deed Resolved)) : Prop where
  /-- At most one caller walks the chain. -/
  one_walk {caller other : Nat} : (crowd.phase caller).IsWorking →
    (crowd.phase other).IsWorking → caller = other
  /-- Nobody walks once the slot is filled, and no more than one walk succeeds: what follows the
  success is that callers find its result. -/
  no_walk {resolved : Resolved} : crowd.state.resolved = some resolved →
    ∀ caller, ¬ (crowd.phase caller).IsWorking
  one_success : past.countP Deed.isMade ≤ 1
  found_after {before after : List (Deed Resolved)} {caller : Nat} {resolved : Resolved} :
    past = before ++ .made caller resolved :: after →
      ∀ deed ∈ after, ∃ other answers, deed = .found other resolved answers
  /-- The slot keeps its value in every further run, and each success that a caller is told is that
  value, made by one of the callers. -/
  slot_stays {resolved : Resolved} {more : List Event} {later : Crowd Session Resolved} :
    crowd.state.resolved = some resolved → run? (gate chain) crowd more = some later →
      later.state.resolved = some resolved
  told_slot {caller : Nat} {resolved : Resolved} :
    crowd.phase caller = .finished (.ok resolved) →
      crowd.state.resolved = some resolved ∧ ∃ maker, .made maker resolved ∈ past
  /-- A walk that fails leaves the slot empty, and the guard free when its caller returns. -/
  failed_open {caller : Nat} {failure : Failure} :
    crowd.phase caller = .leaving (.error failure) →
      crowd.state.resolved = none ∧ ∃ next, step? (gate chain) crowd (.leave caller) = some next ∧
        next.state.resolved = none ∧ next.holder = none ∧
          next.phase caller = .finished (.error failure)
  failed_leaving {event : Event} {next : Crowd Session Resolved} {caller : Nat}
    {failure : Failure} : step? (gate chain) crowd event = some next →
      deed? (gate chain) crowd event = some (.failed caller failure) →
        next.phase caller = .leaving (.error failure)
  /-- So does a walk whose caller goes away. -/
  dropped_open {event : Event} {next : Crowd Session Resolved} {caller : Nat} :
    step? (gate chain) crowd event = some next →
      deed? (gate chain) crowd event = some (.dropped caller) →
        next.state.resolved = none ∧ next.holder = none
  /-- The failure that a caller is told is that of a walk of its own. -/
  told_own {caller : Nat} {failure : Failure} :
    crowd.phase caller = .finished (.error failure) → .failed caller failure ∈ past
  /-- A free guard can be taken, and with an empty slot its holder walks the whole chain. -/
  enter {caller : Nat} : crowd.holder = none → crowd.phase caller = .waiting →
    ∃ next, step? (gate chain) crowd (.enter caller) = some next ∧
      next.phase caller = .holding ∧ next.state = crowd.state
  walk {caller : Nat} (answers : Answers) : crowd.state.resolved = none →
    crowd.phase caller = .holding →
      ∃ next, step? (gate chain) crowd (.lookAgain caller answers) = some next ∧
        next.phase caller = beginStage (gate chain) crowd.state (chain.map askAuthenticator)

/-- **One walk that succeeds.** Whatever chain and settings, and whatever steps callers take in
whatever order. -/
theorem authenticate_single_walk (config : Config) (chain : List Authenticator)
    {events : List Event} {crowd : Crowd Session Resolved}
    (hrun : run? (gate chain) (opening config chain) events = some crowd) :
    SingleWalk chain crowd (history (gate chain) (opening config chain) events) := by
  have h := consistent_of_run? hrun
  have hcauses : ∀ caller outcome, crowd.phase caller = .finished outcome →
      Deed.Causes (history (gate chain) (opening config chain) events) caller outcome :=
    fun caller outcome hphase => causes_of_outcome? (fun _ => rfl) hrun (by rw [hphase]; rfl)
  refine
    { one_walk := fun hcaller hother =>
        h.orderly.guarded.unique hcaller.holdsGuard hother.holdsGuard
      no_walk := fun hresolved caller hworking => ?no_walk
      one_success := Deed.countP_isMade_le_one fun before caller resolved after hpast deed hdeed =>
        ?one
      found_after := fun hpast => (h.made hpast).2
      slot_stays := fun hresolved hmore => h.slot_stays hmore hresolved
      told_slot := fun hphase => ?told
      failed_open := fun hphase => ?failed
      failed_leaving := fun hstep hdeed => ?leaving
      dropped_open := fun hstep hdeed => ?dropped
      told_own := fun hphase => hcauses _ _ hphase
      enter := fun hfree hphase => ?enter
      walk := fun answers hopen hphase => ?walk }
  case no_walk =>
    have hopen := h.orderly.ready_of_isWorking hworking
    rw [hresolved] at hopen
    cases hopen
  case one =>
    obtain ⟨other, answers, rfl⟩ := (h.made hpast).2 deed hdeed
    rfl
  case told =>
    have hslot := h.told (by rw [hphase]; rfl)
    exact ⟨hslot, h.maker hslot⟩
  case failed =>
    refine ⟨h.failing hphase, _, step?_leave hphase, ?_, ?_, phase_place_self _ _ _⟩
    · rw [state_place, state_release, h.failing hphase]
    · exact release_of_holdsGuard h.orderly.guarded (by rw [hphase]; trivial)
  case leaving =>
    have hmove := hdeed ▸ move_of_step? hstep
    cases hmove with
    | fails => rw [phase_place_self]
  case dropped =>
    have hmove := hdeed ▸ move_of_step? hstep
    cases hmove with
    | drops hworking =>
        refine ⟨?_, release_of_holdsGuard h.orderly.guarded hworking.holdsGuard⟩
        rw [state_place, state_release, h.orderly.ready_of_isWorking hworking]
  case enter => exact ⟨_, step?_enter hphase hfree, phase_place_self _ _ _, rfl⟩
  case walk => exact ⟨_, step?_begin hphase hopen, phase_place_self _ _ _⟩

/-- A caller goes away in the middle of its walk, the next one succeeds, a third finds the result. -/
def threeCallers : List Event :=
  [.look 0 .bare, .look 1 .bare, .enter 0, .lookAgain 0 .bare, .advance 0 .bare, .goAway 0,
    .enter 1, .lookAgain 1 .bare, .advance 1 .bare, .advance 1 .bare, .advance 1 .bare,
    .advance 1 .bare, .leave 1, .look 2 .bare]

def tokenConfig : Config := { host := some "a.b", token := some "t" }

theorem authenticate_single_walk_direct :
    ∃ crowd resolved,
      run? (gate [.direct]) (opening tokenConfig [.direct]) threeCallers = some crowd ∧
        crowd.phase 2 = .finished (.ok resolved) ∧ crowd.state.resolved = some resolved ∧
        SingleWalk [.direct] crowd
          (history (gate [.direct]) (opening tokenConfig [.direct]) threeCallers) := by
  obtain ⟨crowd, hrun⟩ : ∃ crowd,
      run? (gate [.direct]) (opening tokenConfig [.direct]) threeCallers = some crowd :=
    Option.isSome_iff_exists.mp rfl
  have hwalk := authenticate_single_walk tokenConfig [.direct] hrun
  obtain ⟨resolved, hphase⟩ : ∃ resolved, crowd.phase 2 = .finished (.ok resolved) := by
    obtain rfl := Option.some.inj hrun
    exact ⟨_, rfl⟩
  exact ⟨crowd, resolved, hrun, hphase, (hwalk.told_slot hphase).1, hwalk⟩

end ControlPlane.Session
