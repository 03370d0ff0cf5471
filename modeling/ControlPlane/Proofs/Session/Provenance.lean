import ControlPlane.Proofs.Session.Walk
import ControlPlane.Surroundings.Wording

/-!
# Where the host of a credential comes from

A call that fails at a profile without a credential leaves the profile's host in the settings. The
host of a credential that is found later, and not in the profile, is the one in the settings at the
start, unless the command line tool of the cloud gave the credential: that binds it to the host that
was left.
-/

namespace ControlPlane.Session

open Authenticator

variable {initial : Config} {session : Session} {left : Option String} {answers : Answers}
  {authenticator : Authenticator} {resolved : Resolved}

/-- The session after calls, each in surroundings of its own. -/
def afterCalls (session : Session) : List Answers → Session
  | [] => session
  | answers :: rest => afterCalls (session.authenticate.answerAll answers).1 rest

/-- The calls up to the first that succeeds. -/
def failedCalls (session : Session) : List Answers → List Answers
  | [] => []
  | answers :: rest =>
    match session.authenticate.answerAll answers with
    | (_, .ok _) => []
    | (later, .error _) => answers :: failedCalls later rest

/-- The host that a failed call leaves in the settings. -/
def hostLeftBy (initial : Config) (answers : Answers) : Option String :=
  if ReachesProfile answers initial then profileHost answers initial else none

/-- The host that the last of several leaves there. -/
def hostLeft (initial : Config) (calls : List Answers) : Option String :=
  (calls.filterMap (hostLeftBy initial)).getLast?

section

variable [Wording]

/-- A session after failed calls that left this host in the settings. -/
structure Failed (initial : Config) (left : Option String) (session : Session) : Prop where
  chain : session.chain = standardChain
  unresolved : session.resolved = none
  config : ∃ name, (nonEmpty name).getD defaultProfile = profileName initial ∧
    session.config = { initial with host := left.or initial.host, profile := name }
  left_nonEmpty : nonEmpty left = left
  /-- What was left was left by a call that came as far as the profile. -/
  reached : left.isSome → ∃ answers, ReachesProfile answers initial

theorem failed_start (initial : Config) : Failed initial none (start initial standardChain) where
  chain := rfl
  unresolved := rfl
  config := ⟨initial.profile, rfl, rfl⟩
  left_nonEmpty := rfl
  reached h := by simp at h

theorem Failed.reachesProfile (h : Failed initial left session) :
    ReachesProfile answers session.config ↔ ReachesProfile answers initial := by
  obtain ⟨name, -, hconfig⟩ := h.config
  rw [hconfig]
  cases left with
  | none => rfl
  | some host =>
      obtain ⟨earlier, -, -, hresource, -⟩ := h.reached rfl
      have hhost : (nonEmpty (some host)).isSome := by rw [h.left_nonEmpty]; rfl
      -- Only the test of a host could have changed, and a call that left one had passed it.
      refine and_congr_right fun _ => and_congr_right fun _ => and_congr_left fun _ => ?_
      change (_ ∨ (nonEmpty (some host)).isSome ∧ _) ↔ _
      rcases hresource with hnone | ⟨hsome, -⟩
      · exact iff_of_true (.inl hnone) (.inl hnone)
      · rw [hhost, hsome]

theorem Failed.profileHost_eq (h : Failed initial left session) :
    profileHost answers session.config = profileHost answers initial := by
  obtain ⟨name, hname, hconfig⟩ := h.config
  rw [hconfig]
  unfold profileHost
  rw [show profileName { initial with host := left.or initial.host, profile := name } =
    profileName initial from hname]
  rfl

theorem Failed.leaves (h : Failed initial left session)
    (hreaches : ReachesProfile answers session.config) :
    Failed initial ((profileHost answers initial).or left)
      { session with config := (profile.outcome answers session.config).1 } := by
  obtain ⟨name, hname, hconfig⟩ := h.config
  obtain ⟨later, hlater, hleft⟩ := config_profile answers session.config
  refine ⟨h.chain, h.unresolved, ⟨later, ?_, ?_⟩, ?_,
    fun _ => ⟨answers, h.reachesProfile.mp hreaches⟩⟩
  · rw [hlater, profileName, hconfig, hname]
  · rw [hleft, h.profileHost_eq, hconfig, Option.or_assoc]
  · exact nonEmpty_or (nonEmpty_profileHost answers initial) h.left_nonEmpty

/-- **What a failed call leaves.** -/
theorem Failed.step (h : Failed initial left session) {later : Session} {failure : Failure}
    (hcall : session.authenticate.answerAll answers = (later, .error failure)) :
    Failed initial ((hostLeftBy initial answers).or left) later := by
  have hwalk : Walk answers session (session.authenticate.answerAll answers) :=
    walk_authenticate h.chain h.unresolved
  rw [hcall] at hwalk
  cases hwalk with
  | fails hreaches =>
      rw [h.reachesProfile] at hreaches
      rw [hostLeftBy, if_neg hreaches]
      exact h
  | leaves hreaches =>
      rw [hostLeftBy, if_pos (h.reachesProfile.mp hreaches)]
      exact h.leaves hreaches

/-- Once a call came as far as the profile, no other authenticator decides but the command line
tool, which may be installed by now. -/
theorem Failed.declines (h : Failed initial left session) (hleft : left.isSome)
    (hmem : authenticator ∈ hostBound) (hother : authenticator.name ≠ azureCli.name) :
    (authenticator.outcome answers session.config).2 = .ok none := by
  obtain ⟨earlier, hdirect, hprincipal, -, haccount⟩ := h.reached hleft
  obtain ⟨name, -, hconfig⟩ := h.config
  rw [hconfig]
  simp only [hostBound, List.mem_cons, List.not_mem_nil, or_false] at hmem
  rcases hmem with rfl | rfl | rfl | rfl | rfl
  · exact declines_direct.mpr hdirect
  · exact declines_azureClientSecret.mpr hprincipal
  · exact absurd rfl hother
  · exact (declines_google .accounts).mpr (.inl haccount)
  · exact (declines_google .workspace).mpr (.inl haccount)

theorem Failed.host_of_call (h : Failed initial left session) {later : Session}
    (hcall : session.authenticate.answerAll answers = (later, .ok resolved))
    (hother : resolved.authenticator ≠ profile.name) :
    resolved.host = Workspace.normalizeHost
      (((if resolved.authenticator = azureCli.name then left else none).or
        initial.host).getD "") := by
  have hwalk : Walk answers session (session.authenticate.answerAll answers) :=
    walk_authenticate h.chain h.unresolved
  rw [hcall] at hwalk
  cases hwalk with
  | resolvesProfile _ hname => exact absurd hname hother
  | resolves hmem hdecides hname hhost hresolved =>
      obtain ⟨name, -, hconfig⟩ := h.config
      rw [hconfig] at hhost
      have hbound : (left.or initial.host).getD "" = _ := getD_of_nonEmpty hhost
      rw [hresolved, ← hbound]
      split
      · rfl
      · next hdirect =>
          rw [hname] at hdirect
          cases left with
          | none => rfl
          | some host => exact absurd (h.declines rfl hmem hdirect) hdecides

/-! ### Sequences of calls -/

omit [Wording] in
theorem afterCalls_of_resolved (h : session.resolved = some resolved) (calls : List Answers) :
    afterCalls session calls = session := by
  induction calls with
  | nil => rfl
  | cons answers rest ih => rw [afterCalls, authenticate_of_resolved h, ih]

theorem resolved_of_call (h : Failed initial left session) {later : Session}
    (hcall : session.authenticate.answerAll answers = (later, .ok resolved)) :
    later.resolved = some resolved := by
  have hwalk : Walk answers session (session.authenticate.answerAll answers) :=
    walk_authenticate h.chain h.unresolved
  rw [hcall] at hwalk
  cases hwalk with
  | resolves _ _ _ _ _ hlater | resolvesProfile _ _ hlater => exact hlater

omit [Wording] in
theorem hostLeft_cons_or (initial : Config) (answers : Answers) (calls : List Answers)
    (left : Option String) :
    (hostLeft initial (answers :: calls)).or left =
      (hostLeft initial calls).or ((hostLeftBy initial answers).or left) := by
  unfold hostLeft
  cases hhost : hostLeftBy initial answers with
  | none => rw [List.filterMap_cons_none hhost, Option.none_or]
  | some host =>
      rw [List.filterMap_cons_some hhost, List.getLast?_cons, Option.some_or, Option.some_or]
      cases (calls.filterMap (hostLeftBy initial)).getLast? <;> rfl

/-- What the calls that fail left decides about the host of the first that succeeds, and of all that
follow. -/
theorem Failed.host_of_calls (h : Failed initial left session) {calls : List Answers}
    {last : Answers} {later : Session}
    (hcall : (afterCalls session calls).authenticate.answerAll last = (later, .ok resolved))
    (hother : resolved.authenticator ≠ profile.name) :
    resolved.host = Workspace.normalizeHost
      (((if resolved.authenticator = azureCli.name then
        (hostLeft initial (failedCalls session calls)).or left else none).or
          initial.host).getD "") := by
  induction calls generalizing left session with
  | nil => exact h.host_of_call hcall hother
  | cons answers rest ih =>
      rw [afterCalls] at hcall
      rcases hfirst : session.authenticate.answerAll answers with ⟨next, failure | found⟩
      · rw [failedCalls, hfirst]
        rw [hfirst] at hcall
        simp only [hostLeft_cons_or]
        exact ih (h.step hfirst) hcall
      · have hnext : next.resolved = some found := resolved_of_call h hfirst
        rw [hfirst, afterCalls_of_resolved hnext, authenticate_of_resolved hnext] at hcall
        obtain ⟨rfl, hsame⟩ := Prod.mk.inj hcall
        obtain rfl := Except.ok.inj hsame
        rw [failedCalls, hfirst]
        exact h.host_of_call hfirst hother

/-- **Where the host of a credential comes from.** It is the one in the settings at the start exactly
unless the command line tool gave the credential after a failed call had left another. -/
theorem authenticate_host_iff (initial : Config) {calls : List Answers} {last : Answers}
    {later : Session} {resolved : Resolved}
    (hcall : (afterCalls (start initial standardChain) calls).authenticate.answerAll last =
      (later, .ok resolved))
    (hother : resolved.authenticator ≠ profile.name) :
    resolved.host = Workspace.normalizeHost (initial.host.getD "") ↔
      ¬ (resolved.authenticator = azureCli.name ∧
        ∃ host, hostLeft initial (failedCalls (start initial standardChain) calls) = some host ∧
          Workspace.normalizeHost host ≠ Workspace.normalizeHost (initial.host.getD "")) := by
  have hhost := (failed_start initial).host_of_calls hcall hother
  rw [Option.or_none] at hhost
  rw [hhost]
  by_cases hazure : resolved.authenticator = azureCli.name
  · rw [if_pos hazure]
    cases hostLeft initial (failedCalls (start initial standardChain) calls) <;> simp [hazure]
  · rw [if_neg hazure, Option.none_or]
    exact iff_of_true rfl fun h => hazure h.1

end

/-! ### A host that was left -/

def azureConfig : Config :=
  { host := some "a.b", configFile := some "f", azure := { resourceId := some "r" } }

/-- The tool is not installed, and the profile has a host and no credential. -/
def hostOnlyProfile : Answers
  | .readFile _ => .ok (Bytes.ofString "host=c.d")
  | query => Answers.bare query

def azureLogin : Answers
  | .runCommand _ _ => .ok { stdout := Bytes.ofString "[\"t\"]" }
  | query => Answers.bare query

def told (outcome : Except Failure Resolved) : Option (String × String) :=
  outcome.toOption.map fun resolved => (resolved.host, resolved.authenticator)

theorem eq_ok_of_told {outcome : Except Failure Resolved} {host name : String}
    (h : told outcome = some (host, name)) :
    ∃ resolved, outcome = .ok resolved ∧ resolved.host = host ∧ resolved.authenticator = name := by
  cases outcome with
  | error failure => cases h
  | ok resolved =>
      obtain ⟨hhost, hname⟩ := Prod.mk.inj (Option.some.inj h)
      exact ⟨resolved, rfl, hhost, hname⟩

theorem told_azureLogin :
    told ((afterCalls (start azureConfig standardChain) [hostOnlyProfile]).authenticate.answerAll
      azureLogin).2 = some ("https://c.d", azureCli.name) := by
  decide +kernel

theorem exists_azureLogin :
    ∃ later resolved,
      (afterCalls (start azureConfig standardChain) [hostOnlyProfile]).authenticate.answerAll
          azureLogin = (later, .ok resolved) ∧
        resolved.host = "https://c.d" ∧ resolved.authenticator = azureCli.name := by
  obtain ⟨resolved, hcall, hresolved⟩ := eq_ok_of_told told_azureLogin
  exact ⟨_, resolved, Prod.ext rfl hcall, hresolved⟩

/-- A token of the tool is bound to a host that the settings did not name at the start. -/
theorem exists_host_ne_initial :
    ¬ ∀ (initial : Config) (calls : List Answers) (last : Answers) (later : Session)
        (resolved : Resolved),
      (afterCalls (start initial standardChain) calls).authenticate.answerAll last =
          (later, .ok resolved) →
        resolved.authenticator ≠ profile.name →
          resolved.host = Workspace.normalizeHost (initial.host.getD "") := by
  intro h
  obtain ⟨later, resolved, hcall, hhost, hname⟩ := exists_azureLogin
  have hbound := h azureConfig [hostOnlyProfile] azureLogin later resolved hcall
    (by rw [hname]; decide)
  rw [hhost] at hbound
  revert hbound
  decide

theorem authenticate_host_iff_azureLogin :
    ∃ later resolved,
      (afterCalls (start azureConfig standardChain) [hostOnlyProfile]).authenticate.answerAll
          azureLogin = (later, .ok resolved) ∧
        (resolved.host = Workspace.normalizeHost (azureConfig.host.getD "") ↔
          ¬ (resolved.authenticator = azureCli.name ∧
            ∃ host, hostLeft azureConfig
                (failedCalls (start azureConfig standardChain) [hostOnlyProfile]) = some host ∧
              Workspace.normalizeHost host ≠
                Workspace.normalizeHost (azureConfig.host.getD ""))) := by
  obtain ⟨later, resolved, hcall, -, hname⟩ := exists_azureLogin
  exact ⟨later, resolved, hcall, authenticate_host_iff azureConfig hcall (by rw [hname]; decide)⟩

end ControlPlane.Session
