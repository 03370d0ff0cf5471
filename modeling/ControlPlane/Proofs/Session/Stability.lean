import ControlPlane.Proofs.Authenticator.Again
import ControlPlane.Proofs.Authenticator.Endings
import ControlPlane.Proofs.Session.Calendar
import ControlPlane.Proofs.Session.Provenance
import ControlPlane.Proofs.Session.Repeats

/-!
# Failures that repeat

A failed call may leave a host and a profile in the settings, and the next call starts from there.
In surroundings that answer the same way each time it comes to the same failure by the same steps,
whatever the time by then: the authenticators before the profile see no difference, since nothing
but the presence of a host matters to those that declined, and the profile reads the same file for
the same profile. Only a lifetime whose end was a date before may by now end beyond the calendar.
-/

namespace ControlPlane.Session

open Authenticator Program

variable {answers : Answers} {session : Session} {authenticator : Authenticator} {config : Config}
  {initial : Config} {trace : List Asked} {result : Session × Except Failure Resolved}

theorem settled_eq_error {name : String} {found : Config × Verdict} {later : Session}
    {failure : Failure} (h : settled session name found = (later, some (.error failure))) :
    later = { session with config := found.1 } ∧ report name found = some (.error failure) := by
  unfold settled at h
  split at h
  · cases (Prod.mk.inj h).2
  · obtain ⟨rfl, hreport⟩ := Prod.mk.inj h
    exact ⟨rfl, hreport⟩

/-! ### Runs of one authenticator -/

section

variable [Wording] {part : List Asked} {found : Config × Verdict}

/-- An authenticator before the profile asks for the time only if it does not decline. -/
theorem timeless_or_decisive (config : Config) (hmem : authenticator ∈ hostBound) :
    (authenticator.resolve config).Timeless ∨
      ∀ part found, (authenticator.resolve config).Runs part found → Decisive found.2 := by
  have hgoogle (surface : Surface) : ((google surface).resolve config).Timeless ∨
      ∀ part found, ((google surface).resolve config).Runs part found → Decisive found.2 := by
    cases haccount : nonEmpty config.google.serviceAccount with
    | none =>
        apply Or.inl
        simp [google, ofReader, haccount, Timeless]
    | some serviceAccount =>
        by_cases hsurface : Surface.ofConfig config = surface
        · refine .inr fun part found hpart => ?_
          exact (hpart.every (every_google hsurface haccount)).decisive
        · apply Or.inl
          simp [google, ofReader, haccount, hsurface, Timeless]
  simp only [hostBound, List.mem_cons, List.not_mem_nil, or_false] at hmem
  rcases hmem with rfl | rfl | rfl | rfl | rfl
  · exact .inl (timeless_direct config)
  · cases hprincipal : principal? config.azure with
    | none =>
        apply Or.inl
        simp [azureClientSecret, ofReader, hprincipal, Timeless]
    | some principal =>
        refine .inr fun part found hpart => ?_
        exact (hpart.every (every_azureClientSecret hprincipal)).decisive
  · exact .inl (timeless_azureCli config)
  · exact hgoogle .accounts
  · exact hgoogle .workspace

theorem runs_of_declines (hmem : authenticator ∈ hostBound)
    (hdeclines : (authenticator.outcome answers config).2 = .ok none)
    (hrun : (authenticator.resolve config).Runs part found) (hgiven : answers.GivenIn part) :
    part = (authenticator.resolve config).askAll answers ∧ found = (config, .ok none) := by
  rcases timeless_or_decisive config hmem with htimeless | hdecisive
  · obtain ⟨hpart, hfound⟩ := hrun.eq_of_givenIn hgiven (htimeless.askAll answers)
    exact ⟨hpart, hfound.trans ((usesHost_of_mem hmem).outcome_of_declines hdeclines)⟩
  · exact absurd hdeclines (hdecisive _ _ (runs_askAll answers _))

theorem decisive_of_runs (hmem : authenticator ∈ hostBound)
    (hdecides : (authenticator.outcome answers config).2 ≠ .ok none)
    (hrun : (authenticator.resolve config).Runs part found) (hgiven : answers.GivenIn part) :
    Decisive found.2 := by
  rcases timeless_or_decisive config hmem with htimeless | hdecisive
  · obtain ⟨-, rfl⟩ := hrun.eq_of_givenIn hgiven (htimeless.askAll answers)
    exact hdecides
  · exact hdecisive part found hrun

/-- A failure before the profile leaves nothing in the session. -/
theorem settled_eq_error_of_mem {later : Session} {failure : Failure}
    (hmem : authenticator ∈ hostBound) (hrun : (authenticator.resolve session.config).Runs part found)
    (hsettled : settled session authenticator.name found = (later, some (.error failure))) :
    later = session := by
  obtain ⟨hlater, hreport⟩ := settled_eq_error hsettled
  suffices hconfig : found.1 = session.config by rw [hlater, hconfig]
  simp only [hostBound, List.mem_cons, List.not_mem_nil, or_false] at hmem
  rcases hmem with rfl | rfl | rfl | rfl | rfl
  · obtain ⟨-, rfl⟩ := runs_direct Answers.bare hrun
    apply usesHost_direct.unchanged
    intro signer hsigner
    obtain ⟨hsame, hsome⟩ := usesHost_direct.host hsigner
    obtain ⟨host, hhost⟩ := Option.isSome_iff_exists.mp hsome
    rw [report_of_signer hsigner (hsame ▸ hhost)] at hreport
    cases hreport
  · exact (runs_ofReader hrun).1
  · exact (runs_ofReader hrun).1
  · exact (runs_ofReader hrun).1
  · exact (runs_ofReader hrun).1

theorem recurs_of_mem (hblind : answers.TimeBlind) (hsteady : SteadyKey answers config)
    (hmem : authenticator ∈ hostBound) : authenticator.Recurs answers config := by
  simp only [hostBound, List.mem_cons, List.not_mem_nil, or_false] at hmem
  rcases hmem with rfl | rfl | rfl | rfl | rfl
  · exact recurs_of_timeless (timeless_direct config)
  · exact recurs_azureClientSecret hblind config
  · exact recurs_of_timeless (timeless_azureCli config)
  · exact recurs_google .accounts hblind hsteady
  · exact recurs_google .workspace hblind hsteady

end

/-! ### Walks that end before the profile -/

section

variable [Wording] {gate : Gate Session Resolved} {plain after : List Authenticator}

/-- A run of a walk that comes to this authenticator by these steps and ends there. -/
inductive EndsWith (answers : Answers) (authenticator : Authenticator) (session : Session)
    (lead trace : List Asked) (result : Session × Except Failure Resolved) : Prop where
  | mk {part : List Asked} {found : Config × Verdict}
      (hpart : (authenticator.resolve session.config).Runs part found)
      (hgiven : answers.GivenIn part)
      (hsettled : settled session authenticator.name found = (result.1, some result.2))
      (houtline : outline trace =
        lead ++ trying authenticator :: (outline part ++ closing authenticator found.2)) :
      EndsWith answers authenticator session lead trace result

omit [Wording] in
theorem outline_stage (first : Authenticator) {part closed walk : List Asked} {verdict : Verdict}
    (hcloses : Closes first verdict closed) :
    outline (trying first :: (part ++ (closed ++ walk))) =
      trying first :: (outline part ++ closing first verdict) ++ outline walk := by
  rw [← hcloses.outline, ← outline_append, List.cons_append, ← outline_append, List.append_assoc]
  rfl

/-- What is done by an authenticator that declines. -/
def declining (answers : Answers) (config : Config) (authenticator : Authenticator) : List Asked :=
  trying authenticator :: outline ((authenticator.resolve config).askAll answers)

/-- An authenticator that declines hands the walk on. -/
theorem runs_work_of_declines {rest : List Authenticator} (hmem : authenticator ∈ hostBound)
    (hdeclines : (authenticator.outcome answers session.config).2 = .ok none)
    (hrun : (gate.work ((authenticator :: rest).map askAuthenticator) session).Runs trace result)
    (hgiven : answers.GivenIn trace) :
    ∃ walk, outline trace = declining answers session.config authenticator ++ outline walk ∧
      (gate.work (rest.map askAuthenticator) session).Runs walk result ∧ answers.GivenIn walk := by
  obtain ⟨part, found, closed, walk, rfl, hpart, hcloses, hend⟩ := runs_work_cons hrun
  rw [Answers.givenIn_cons, Answers.givenIn_append, Answers.givenIn_append] at hgiven
  obtain ⟨rfl, rfl⟩ := runs_of_declines hmem hdeclines hpart hgiven.2.1
  rcases hend with ⟨later, outcome, ⟨⟩, -⟩ | ⟨later, ⟨⟩, hwalk⟩
  refine ⟨walk, ?_, hwalk, hgiven.2.2.2⟩
  rw [outline_stage authenticator hcloses]
  exact congrArg (· ++ outline walk) (congrArg _ (List.append_nil _))

/-- Before the profile, the surroundings tell where a walk ends. -/
theorem endsWith_of_runs (hplain : ∀ authenticator ∈ plain, authenticator ∈ hostBound)
    (hdecides : ∃ authenticator ∈ plain,
      (authenticator.outcome answers session.config).2 ≠ .ok none) :
    ∃ authenticator ∈ hostBound, ∃ lead, ∀ trace result,
      (gate.work ((plain ++ after).map askAuthenticator) session).Runs trace result →
        answers.GivenIn trace → EndsWith answers authenticator session lead trace result := by
  induction plain with
  | nil => simp at hdecides
  | cons first rest ih =>
      rw [List.forall_mem_cons] at hplain
      by_cases hdeclines : (first.outcome answers session.config).2 = .ok none
      · obtain ⟨other, hother, hdecides⟩ := hdecides
        have hrest : other ∈ rest := by
          rcases List.mem_cons.mp hother with rfl | hrest
          · exact absurd hdeclines hdecides
          · exact hrest
        obtain ⟨decider, hmem, lead, hlead⟩ := ih hplain.2 ⟨other, hrest, hdecides⟩
        refine ⟨decider, hmem, declining answers session.config first ++ lead, ?_⟩
        intro trace result hrun hgiven
        obtain ⟨walk, houtline, hwalk, hwalkGiven⟩ :=
          runs_work_of_declines hplain.1 hdeclines hrun hgiven
        obtain ⟨hpart, hpartGiven, hsettled, hends⟩ := hlead walk result hwalk hwalkGiven
        refine ⟨hpart, hpartGiven, hsettled, ?_⟩
        rw [houtline, hends, List.append_assoc]
      · refine ⟨first, hplain.1, [], ?_⟩
        intro trace result hrun hgiven
        obtain ⟨part, found, closed, walk, rfl, hpart, hcloses, hend⟩ := runs_work_cons hrun
        rw [Answers.givenIn_cons, Answers.givenIn_append] at hgiven
        have hdecisive := decisive_of_runs hplain.1 hdeclines hpart hgiven.2.1
        rcases hend with ⟨later, outcome, hsettled, rfl, rfl⟩ | ⟨later, hsettled, -⟩
        · refine ⟨hpart, hgiven.2.1, hsettled, ?_⟩
          rw [outline_stage first hcloses]
          exact List.append_nil _
        · exact absurd (settled_eq_none hsettled).1 hdecisive

/-- Two calls of which the first fails: the other fails in the same way, or leaves the calendar. -/
def FailsLike (error : Error) (trace others : List Asked) (outcome : Except Failure Resolved) :
    Prop :=
  outcome = .error (.error error) ∧ SameSteps trace others ∨ outcome = .error .outOfCalendar

omit [Wording] in
/-- What is told of a failure is told again of whatever comes to the same. -/
theorem report_again {name : String} {found other : Config × Verdict} {error : Error}
    (hsame : SameFound found other) (h : report name found = some (.error (.error error))) :
    report name other = some (.error (.error error)) ∧
      closing authenticator other.2 = closing authenticator found.2 := by
  obtain ⟨config, verdict⟩ := found
  obtain ⟨config, reply⟩ := other
  obtain ⟨rfl, hverdict⟩ := hsame
  dsimp only at hverdict
  cases hverdict with
  | error failure => exact ⟨h, rfl⟩
  | ok hsigner =>
      cases hsigner with
      | none => cases h
      | some =>
          unfold report at h ⊢
          dsimp only at h ⊢
          split at h
          · exact ⟨h, rfl⟩
          · cases h

theorem EndsWith.fails_again {lead others : List Asked} {later : Session × Except Failure Resolved}
    {error : Error} (hrecurs : authenticator.Recurs answers session.config)
    (h : EndsWith answers authenticator session lead trace result)
    (hlater : EndsWith answers authenticator session lead others later)
    (hfails : result.2 = .error (.error error)) : FailsLike error trace others later.2 := by
  obtain ⟨hpart, hgiven, hsettled, houtline⟩ := h
  obtain ⟨hother, hotherGiven, hotherSettled, hotherOutline⟩ := hlater
  have hreport := settled_eq_some hsettled
  have hotherReport := settled_eq_some hotherSettled
  rw [hfails] at hreport
  rcases hrecurs _ _ _ _ hpart hother hgiven hotherGiven with
    ⟨hsteps, hsame⟩ | hbeyond | hbeyond
  · obtain ⟨hagain, hclosing⟩ := @report_again authenticator _ _ _ _ hsame hreport
    refine .inl ⟨Option.some.inj (hotherReport.symm.trans hagain), ?_⟩
    have hrefl (steps : List Asked) : List.Forall₂ Asked.SameButTime steps steps :=
      List.forall₂_same.mpr fun asked _ => .same asked
    rw [SameSteps, houtline, hotherOutline, hclosing]
    exact List.rel_append (hrefl lead) (.cons (.same _) (List.rel_append hsteps (hrefl _)))
  · rw [report_eq_outOfCalendar_iff.mpr hbeyond] at hreport
    cases hreport
  · rw [report_eq_outOfCalendar_iff.mpr hbeyond] at hotherReport
    exact .inr (Option.some.inj hotherReport).symm

theorem EndsWith.left_eq {lead : List Asked} {failure : Failure}
    (hmem : authenticator ∈ hostBound)
    (h : EndsWith answers authenticator session lead trace result)
    (hfails : result.2 = .error failure) : result.1 = session := by
  obtain ⟨hpart, -, hsettled, -⟩ := h
  rw [hfails] at hsettled
  exact settled_eq_error_of_mem hmem hpart hsettled

end

/-! ### Walks as far as the profile -/

section

variable [Wording] {gate : Gate Session Resolved} {plain after : List Authenticator}

theorem runs_work_of_all_decline (hplain : ∀ authenticator ∈ plain, authenticator ∈ hostBound)
    (hdeclines : ∀ authenticator ∈ plain,
      (authenticator.outcome answers session.config).2 = .ok none)
    (hrun : (gate.work ((plain ++ after).map askAuthenticator) session).Runs trace result)
    (hgiven : answers.GivenIn trace) :
    ∃ walk, outline trace = plain.flatMap (declining answers session.config) ++ outline walk ∧
      (gate.work (after.map askAuthenticator) session).Runs walk result ∧
        answers.GivenIn walk := by
  induction plain generalizing trace with
  | nil => exact ⟨trace, rfl, hrun, hgiven⟩
  | cons first rest ih =>
      rw [List.forall_mem_cons] at hplain hdeclines
      obtain ⟨others, houtline, hothers, hothersGiven⟩ :=
        runs_work_of_declines hplain.1 hdeclines.1 hrun hgiven
      obtain ⟨walk, hrest, hwalk, hwalkGiven⟩ := ih hplain.2 hdeclines.2 hothers hothersGiven
      refine ⟨walk, ?_, hwalk, hwalkGiven⟩
      rw [houtline, hrest, List.flatMap_cons, List.append_assoc]

theorem timeless_profile (config : Config) : (profile.resolve config).Timeless :=
  (asks_profile config).timeless id

/-- What is done by the profile, which comes last. -/
def lastly (answers : Answers) (config : Config) : List Asked :=
  trying profile :: (outline ((profile.resolve config).askAll answers) ++
    closing profile (profile.outcome answers config).2)

/-- What is told if all others declined. -/
def toldLastly (answers : Answers) (config : Config) : Except Failure Resolved :=
  (report profile.name (profile.outcome answers config)).getD (.error (.error notConfigured))

theorem runs_work_profile
    (hrun : ((Session.gate standardChain).work ([profile].map askAuthenticator) session).Runs trace
      result)
    (hgiven : answers.GivenIn trace) :
    outline trace = lastly answers session.config ∧ result.2 = toldLastly answers session.config ∧
      ∀ failure, result.2 = .error failure →
        result.1 = { session with config := (profile.outcome answers session.config).1 } := by
  obtain ⟨part, found, closed, walk, rfl, hpart, hcloses, hend⟩ := runs_work_cons hrun
  rw [Answers.givenIn_cons, Answers.givenIn_append] at hgiven
  obtain ⟨rfl, hfound⟩ :=
    hpart.eq_of_givenIn hgiven.2.1 ((timeless_profile session.config).askAll answers)
  obtain rfl : found = profile.outcome answers session.config := hfound
  rw [outline_stage profile hcloses]
  rcases hend with ⟨later, outcome, hsettled, rfl, rfl⟩ | ⟨later, hsettled, hwalk⟩
  · refine ⟨List.append_nil _, ?_, ?_⟩
    · rw [toldLastly, settled_eq_some hsettled]
      rfl
    · rintro failure rfl
      exact (settled_eq_error hsettled).1
  · obtain ⟨rfl, rfl⟩ := runs_done_iff.mp hwalk
    obtain ⟨hdeclines, rfl⟩ := settled_eq_none hsettled
    refine ⟨List.append_nil _, ?_, fun _ _ => rfl⟩
    rw [toldLastly, report_eq_none_iff.mpr hdeclines]
    rfl

/-- A walk on which all decline but the profile. -/
theorem runs_authenticate_of_reachesProfile (hchain : session.chain = standardChain)
    (hopen : session.resolved = none) (hreaches : ReachesProfile answers session.config)
    (hrun : session.authenticate.Runs trace result) (hgiven : answers.GivenIn trace) :
    outline trace = hostBound.flatMap (declining answers session.config) ++
        lastly answers session.config ∧
      result.2 = toldLastly answers session.config ∧
      ∀ failure, result.2 = .error failure →
        result.1 = { session with config := (profile.outcome answers session.config).1 } := by
  rw [runs_authenticate_iff, hopen, hchain, standardChain_eq] at hrun
  obtain ⟨walk, houtline, hwalk, hwalkGiven⟩ :=
    runs_work_of_all_decline (fun _ => id) (reachesProfile_iff.mp hreaches) hrun hgiven
  obtain ⟨hlastly, htold, hleft⟩ := runs_work_profile hwalk hwalkGiven
  exact ⟨by rw [houtline, hlastly], htold, hleft⟩

/-- Those that decline ask the same again, for all that a failed call may have changed. -/
theorem askAll_resolve_eq {other : Config} (hazure : other.azure = config.azure)
    (hconfig : ReachesProfile answers config) (hother : ReachesProfile answers other)
    (hmem : authenticator ∈ hostBound) :
    (authenticator.resolve other).askAll answers =
      (authenticator.resolve config).askAll answers := by
  obtain ⟨hdirect, hprincipal, hresource, haccount⟩ := hconfig
  obtain ⟨hotherDirect, hotherPrincipal, hotherResource, hotherAccount⟩ := hother
  have hasked {authenticator : Authenticator} (config : Config) :=
    runs_askAll answers (authenticator.resolve config)
  simp only [hostBound, List.mem_cons, List.not_mem_nil, or_false] at hmem
  rcases hmem with rfl | rfl | rfl | rfl | rfl
  · rw [(runs_direct_of_none hdirect (hasked _)).1,
      (runs_direct_of_none hotherDirect (hasked _)).1]
  · rw [(runs_azureClientSecret_of_none hprincipal (hasked _)).1,
      (runs_azureClientSecret_of_none hotherPrincipal (hasked _)).1]
  · rw [hazure] at hotherResource
    exact askAll_azureCli_eq hazure (hresource.imp_right And.left)
      (hotherResource.imp_right And.left)
  all_goals
    exact (runs_google_of_none (.inl hotherAccount) (hasked _)).1.trans
      (runs_google_of_none (.inl haccount) (hasked _)).1.symm

theorem Failed.sameWalk {left : Option String} (h : Failed initial left session)
    (hreaches : ReachesProfile answers initial) :
    hostBound.flatMap (declining answers session.config) ++ lastly answers session.config =
        hostBound.flatMap (declining answers initial) ++ lastly answers initial ∧
      toldLastly answers session.config = toldLastly answers initial := by
  have hsession := h.reachesProfile.mpr hreaches
  obtain ⟨name, hname, hconfig⟩ := h.config
  have hsame : SameReport answers (profile.resolve session.config) (profile.resolve initial) := by
    apply sameReport_profile
    · rw [hconfig]
    · rw [hconfig]
      exact hname
  have hazure : session.config.azure = initial.azure := by rw [hconfig]
  have hdeclining : hostBound.map (declining answers session.config) =
      hostBound.map (declining answers initial) := by
    refine List.map_congr_left fun authenticator hmem => ?_
    rw [declining, declining, askAll_resolve_eq hazure hreaches hsession hmem]
  constructor
  · rw [List.flatMap_def, List.flatMap_def, hdeclining, lastly, lastly, hsame.outline,
      Authenticator.outcome, Authenticator.outcome, hsame.verdict]
  · rw [toldLastly, toldLastly, Authenticator.outcome, Authenticator.outcome, hsame.report]

end

/-! ### Any number of calls -/

/-- A call: what was asked, the session that it left, and what the caller was told. -/
structure Call where
  trace : List Asked
  left : Session
  outcome : Except Failure Resolved

/-- Calls one after the other, in surroundings that answer the same way each time. -/
inductive Calls (answers : Answers) : Session → List Call → Prop where
  | nil {session : Session} : Calls answers session []
  | cons {session : Session} {call : Call} {calls : List Call}
      (hrun : session.authenticate.Runs call.trace (call.left, call.outcome))
      (hgiven : answers.GivenIn call.trace) (hlater : Calls answers call.left calls) :
      Calls answers session (call :: calls)

/-- What each call keeps to be so of the session and tells is so of all of them. -/
theorem Calls.forall_mem {calls : List Call} (inv : Session → Prop) (told : Call → Prop)
    (h : Calls answers session calls) (hinv : inv session)
    (hstep : ∀ session call, inv session →
      session.authenticate.Runs call.trace (call.left, call.outcome) →
        answers.GivenIn call.trace → inv call.left ∧ told call) :
    ∀ call ∈ calls, told call := by
  induction h with
  | nil => simp
  | cons hrun hgiven _ ih =>
      obtain ⟨hleft, htold⟩ := hstep _ _ hinv hrun hgiven
      exact List.forall_mem_cons.mpr ⟨htold, ih hleft⟩

section

variable [Wording] {first : Call} {later : List Call} {error : Error}

/-- What a call comes to after one that failed: the same failure by the same steps, unless it ends
beyond the calendar. -/
def FailsAgain (error : Error) (trace : List Asked) (call : Call) : Prop :=
  ¬ EndsBeyond call.trace ∧ call.outcome = .error (.error error) ∧ SameSteps trace call.trace ∨
    EndsBeyond call.trace ∧ call.outcome = .error .outOfCalendar

theorem FailsLike.failsAgain {call : Call} (hchain : session.chain = standardChain)
    (hopen : session.resolved = none)
    (hrun : session.authenticate.Runs call.trace (call.left, call.outcome))
    (h : FailsLike error trace call.trace call.outcome) : FailsAgain error trace call := by
  have hiff := authenticate_outOfCalendar_iff hchain hopen hrun
  rcases h with ⟨houtcome, hsteps⟩ | hbeyond
  · refine .inl ⟨?_, houtcome, hsteps⟩
    rw [← hiff, houtcome]
    simp
  · exact .inr ⟨hiff.mp hbeyond, hbeyond⟩

/-- Before the profile, a failed call leaves the session as it is. -/
theorem fails_again_before_profile (hblind : answers.TimeBlind)
    (hsteady : SteadyKey answers initial) (hreaches : ¬ ReachesProfile answers initial)
    (hcalls : Calls answers (start initial standardChain) (first :: later))
    (hfails : first.outcome = .error (.error error)) :
    ∀ call ∈ later, FailsAgain error first.trace call := by
  have hdecides : ∃ authenticator ∈ hostBound,
      (authenticator.outcome answers initial).2 ≠ .ok none := by
    rw [reachesProfile_iff] at hreaches
    simpa using hreaches
  obtain ⟨authenticator, hmem, lead, hends⟩ := @endsWith_of_runs answers
    (start initial standardChain) _ (gate standardChain) hostBound [profile] (fun _ => id) hdecides
  have hwalk {call : Call}
      (hrun : (start initial standardChain).authenticate.Runs call.trace (call.left, call.outcome))
      (hgiven : answers.GivenIn call.trace) :
      EndsWith answers authenticator (start initial standardChain) lead call.trace
        (call.left, call.outcome) :=
    hends _ _ (runs_authenticate_iff.mp hrun) hgiven
  cases hcalls with
  | cons hrun hgiven hlater =>
      have hfirst := hwalk hrun hgiven
      apply hlater.forall_mem (· = start initial standardChain) (FailsAgain error first.trace)
        (hfirst.left_eq hmem hfails)
      rintro _ call rfl hagain hagainGiven
      have hcall := hwalk hagain hagainGiven
      have hlike := hfirst.fails_again (recurs_of_mem hblind hsteady hmem) hcall hfails
      refine ⟨?_, hlike.failsAgain rfl rfl hagain⟩
      rcases hlike with ⟨houtcome, -⟩ | hbeyond
      · exact hcall.left_eq hmem houtcome
      · exact hcall.left_eq hmem hbeyond

/-- As far as the profile nobody asks for the time. -/
theorem fails_again_at_profile (hreaches : ReachesProfile answers initial)
    (hcalls : Calls answers (start initial standardChain) (first :: later))
    (hfails : first.outcome = .error (.error error)) :
    ∀ call ∈ later, FailsAgain error first.trace call := by
  cases hcalls with
  | cons hrun hgiven hlater =>
      obtain ⟨houtline, htold, hleft⟩ :=
        runs_authenticate_of_reachesProfile rfl rfl hreaches hrun hgiven
      have hfailed : Failed initial ((profileHost answers initial).or none) first.left := by
        have hfirst : first.left = _ := hleft _ hfails
        rw [hfirst]
        exact (failed_start initial).leaves hreaches
      apply hlater.forall_mem (fun session => ∃ left, Failed initial left session)
        (FailsAgain error first.trace) ⟨_, hfailed⟩
      rintro session call ⟨left, hsession⟩ hagain hagainGiven
      have hreachesAgain := hsession.reachesProfile.mpr hreaches
      obtain ⟨hsteps, hsame, hnext⟩ := runs_authenticate_of_reachesProfile hsession.chain
        hsession.unresolved hreachesAgain hagain hagainGiven
      obtain ⟨hsameSteps, hsameTold⟩ := hsession.sameWalk hreaches
      have houtcome : call.outcome = .error (.error error) := by
        rw [← hfails]
        exact hsame.trans (hsameTold.trans htold.symm)
      constructor
      · have hcall : call.left = _ := hnext _ houtcome
        rw [hcall]
        exact ⟨_, hsession.leaves hreachesAgain⟩
      · have hlike : FailsLike error first.trace call.trace call.outcome :=
          .inl ⟨houtcome, .of_outline (houtline.trans (hsteps.trans hsameSteps).symm)⟩
        exact hlike.failsAgain hsession.chain hsession.unresolved hagain

/-- **Failures that repeat.** In surroundings that answer the same way each time, every call after
one that failed comes to the same failure by the same steps, except where a lifetime that was granted
by now ends beyond the calendar. The other exception is a key that only passes for one. -/
theorem authenticate_fails_again (initial : Config) (hblind : answers.TimeBlind)
    (hcalls : Calls answers (start initial standardChain) (first :: later))
    (hfails : first.outcome = .error (.error error)) :
    (∀ call ∈ later, FailsAgain error first.trace call) ∨ FickleKey answers initial := by
  by_cases hfickle : FickleKey answers initial
  · exact .inr hfickle
  · apply Or.inl
    by_cases hreaches : ReachesProfile answers initial
    · exact fails_again_at_profile hreaches hcalls hfails
    · exact fails_again_before_profile hblind (steadyKey_of_not_fickleKey hfickle) hreaches hcalls
        hfails

end

/-! ### Calls at given times -/

/-- Calls one after the other, at these times. -/
def callsAt (answers : Answers) (session : Session) : List Instant → List Call
  | [] => []
  | now :: times =>
    let program := session.authenticate
    let (left, outcome) := program.answerAll (answers.timed now)
    ⟨program.askAll (answers.timed now), left, outcome⟩ :: callsAt answers left times

theorem calls_callsAt (answers : Answers) (session : Session) (times : List Instant) :
    Calls answers session (callsAt answers session times) := by
  induction times generalizing session with
  | nil => exact .nil
  | cons now times ih =>
      exact .cons (runs_askAll _ _) (givenIn_askAll_timed answers now _) (ih _)

theorem timeBlind_granting (seconds : Nat) : (granting seconds).TimeBlind :=
  fun _ _ _ => rfl

/-- A service principal with a resource id that no header can hold. -/
def brokenId : Config :=
  { principalSettings with azure := { principalSettings.azure with resourceId := some "r\n" } }

theorem not_fickleKey_brokenId (answers : Answers) : ¬ FickleKey answers brokenId := by
  rintro ⟨haccount, -⟩
  cases haccount

/-- The last lifetime that, from the start of 1970 on, ends within the calendar. -/
def lastLifetime : Nat := 8210266876799

/-- What is told of a header that cannot be. -/
def headerError : Error :=
  .auth "credential is not a valid header value: failed to parse header value"

/-- A minute is granted each time, and each time the header fails. -/
theorem authenticate_fails_again_brokenId :
    ∃ first second third,
      callsAt (granting 60) (start brokenId standardChain)
          [⟨0⟩, ⟨Instant.second⟩, ⟨2 * Instant.second⟩] = [first, second, third] ∧
        first.outcome = .error (.error headerError) ∧
        FailsAgain headerError first.trace second ∧ FailsAgain headerError first.trace third := by
  have hcalls := calls_callsAt (granting 60) (start brokenId standardChain)
    [⟨0⟩, ⟨Instant.second⟩, ⟨2 * Instant.second⟩]
  have hfailures : (callsAt (granting 60) (start brokenId standardChain)
      [⟨0⟩, ⟨Instant.second⟩, ⟨2 * Instant.second⟩]).map (fun call => failure? call.outcome) =
        List.replicate 3 (some (.error headerError)) := by
    decide +kernel
  obtain ⟨first, others, hall, hfirst, hrest⟩ := List.map_eq_cons_iff.mp hfailures
  obtain ⟨second, others, rfl, -, hrest⟩ := List.map_eq_cons_iff.mp hrest
  obtain ⟨third, others, rfl, -, hrest⟩ := List.map_eq_cons_iff.mp hrest
  obtain rfl := List.map_eq_nil_iff.mp hrest
  have hfails := eq_error_of_failure? hfirst
  rw [hall] at hcalls
  have hagain := (authenticate_fails_again brokenId (timeBlind_granting 60) hcalls
    hfails).resolve_right (not_fickleKey_brokenId _)
  exact ⟨first, second, third, hall, hfails, hagain second (by simp), hagain third (by simp)⟩

/-- A call that failed with an error, and one a second later that comes to none. -/
theorem exists_failure_not_repeated :
    ¬ ∀ (answers : Answers) (initial : Config) (first : Call) (later : List Call) (error : Error),
      answers.TimeBlind → ¬ FickleKey answers initial →
        Calls answers (start initial standardChain) (first :: later) →
          first.outcome = .error (.error error) →
            ∀ call ∈ later, call.outcome = .error (.error error) := by
  intro h
  have hcalls := calls_callsAt (granting lastLifetime) (start brokenId standardChain)
    [⟨0⟩, ⟨Instant.second⟩]
  have hfailures : (callsAt (granting lastLifetime) (start brokenId standardChain)
      [⟨0⟩, ⟨Instant.second⟩]).map (fun call => failure? call.outcome) =
        [some (.error headerError), some .outOfCalendar] := by
    decide +kernel
  obtain ⟨first, others, hall, hfirst, hrest⟩ := List.map_eq_cons_iff.mp hfailures
  obtain ⟨second, others, rfl, hsecond, hrest⟩ := List.map_eq_cons_iff.mp hrest
  rw [hall] at hcalls
  have hagain := h _ brokenId first _ headerError (timeBlind_granting lastLifetime)
    (not_fickleKey_brokenId _) hcalls (eq_error_of_failure? hfirst) second (by simp)
  rw [eq_error_of_failure? hsecond] at hagain
  cases hagain

end ControlPlane.Session
