import ControlPlane.Proofs.Authenticator.Profile
import ControlPlane.Session

/-!
# One walk along the chain

`Walk` says what a call can come to on a session without a result, with the standard chain: an
authenticator before the profile decides, or all of these decline and the profile decides. Only the
profile leaves something in the settings of a walk that fails.
-/

namespace ControlPlane.Session

open Authenticator

variable {answers : Answers} {session : Session} {authenticator : Authenticator} {config : Config}

/-! ### One authenticator -/

theorem answerAll_ask :
    (askAuthenticator authenticator session).answerAll answers =
      match authenticator.outcome answers session.config with
      | (config, .ok none) => ({ session with config }, none)
      | (config, .ok (some signer)) =>
        let kept := (keep { session with config } authenticator.name signer).answerAll answers
        (kept.1, some kept.2)
      | (config, .error failure) => ({ session with config }, some (.error failure)) := by
  rw [askAuthenticator, Program.answerAll_bind, Program.answerAll_bind, ← outcome]
  rcases authenticator.outcome answers session.config with ⟨config, failure | _ | signer⟩
  · cases failure with
    | error error => rfl
    | outOfCalendar => rfl
  · rfl
  · simp only [Program.answerAll_bind]
    rfl

theorem normalizeHost_ne_empty {host : String} (h : host ≠ "") :
    (Workspace.normalizeHost host).isEmpty = false := by
  unfold Workspace.normalizeHost
  split <;> simp_all

theorem answerAll_keep (answers : Answers) (session : Session) (name : String) (signer : Signer)
    {host : String} (hhost : nonEmpty session.config.host = some host) :
    ∃ later, later.resolved = some ⟨Workspace.normalizeHost host, name, signer⟩ ∧
      (session.keep name signer).answerAll answers =
        (later, .ok ⟨Workspace.normalizeHost host, name, signer⟩) := by
  rw [keep, hhost, Option.getD_some, normalizeHost_ne_empty (nonEmpty_eq_some_iff.mp hhost).2]
  exact ⟨_, rfl, rfl⟩

theorem answerAll_keep_of_hostless (answers : Answers) (session : Session) (name : String)
    (signer : Signer) (hhost : nonEmpty session.config.host = none) :
    (session.keep name signer).answerAll answers = (session, .error (.error (hostless name))) := by
  rw [keep, hhost]
  rfl

theorem answerAll_ask_of_signer {signer : Signer} {host : String}
    (hsigner : (authenticator.outcome answers session.config).2 = .ok (some signer))
    (hhost : nonEmpty (authenticator.outcome answers session.config).1.host = some host) :
    ∃ later, later.resolved = some ⟨Workspace.normalizeHost host, authenticator.name, signer⟩ ∧
      (askAuthenticator authenticator session).answerAll answers =
        (later, some (.ok ⟨Workspace.normalizeHost host, authenticator.name, signer⟩)) := by
  rw [answerAll_ask]
  rcases houtcome : authenticator.outcome answers session.config with ⟨config, verdict⟩
  rw [houtcome] at hsigner hhost
  obtain rfl := hsigner
  obtain ⟨later, hlater, hkeep⟩ :=
    answerAll_keep answers { session with config } authenticator.name signer hhost
  exact ⟨later, hlater, by simp only [hkeep]⟩

/-! ### The chain -/

variable [Wording]

def hostBound : List Authenticator :=
  [direct, azureClientSecret, azureCli, googleAccounts, googleWorkspace]

theorem standardChain_eq : standardChain = hostBound ++ [profile] := rfl

theorem usesHost_of_mem (h : authenticator ∈ hostBound) : authenticator.UsesHost := by
  simp only [hostBound, List.mem_cons, List.not_mem_nil, or_false] at h
  rcases h with rfl | rfl | rfl | rfl | rfl
  · exact usesHost_direct
  · exact usesHost_azureClientSecret
  · exact usesHost_azureCli
  · exact usesHost_google .accounts
  · exact usesHost_google .workspace

/-- All authenticators before the profile decline. -/
def ReachesProfile (answers : Answers) (config : Config) : Prop :=
  directCredential? config = none ∧ principal? config.azure = none ∧
    (nonEmpty config.azure.resourceId = none ∨
      (nonEmpty config.host).isSome ∧ LacksAzure answers) ∧
    nonEmpty config.google.serviceAccount = none

instance (answers : Answers) (config : Config) : Decidable (ReachesProfile answers config) :=
  inferInstanceAs (Decidable (_ = none ∧ _ = none ∧ (_ = none ∨ _ = true ∧ _) ∧ _ = none))

/-- With a service account one of its two surfaces is meant, so not all decline. -/
theorem reachesProfile_iff :
    ReachesProfile answers config ↔
      ∀ authenticator ∈ hostBound, (authenticator.outcome answers config).2 = .ok none := by
  simp only [hostBound, List.forall_mem_cons, declines_direct, declines_azureClientSecret,
    declines_azureCli, googleAccounts, googleWorkspace, declines_google, ReachesProfile]
  cases Surface.ofConfig config <;> simp

/-- Everything that a call can come to on a session without a result. -/
inductive Walk (answers : Answers) (session : Session) :
    Session × Except Failure Resolved → Prop where
  /-- An authenticator before the profile fails. -/
  | fails {failure : Failure} (hreaches : ¬ ReachesProfile answers session.config) :
      Walk answers session (session, .error failure)
  /-- An authenticator before the profile finds a credential. -/
  | resolves {authenticator : Authenticator} {later : Session} {resolved : Resolved} {host : String}
      (hmem : authenticator ∈ hostBound)
      (hdecides : (authenticator.outcome answers session.config).2 ≠ .ok none)
      (hname : resolved.authenticator = authenticator.name)
      (hhost : nonEmpty session.config.host = some host)
      (hresolved : resolved.host = Workspace.normalizeHost host)
      (hlater : later.resolved = some resolved) :
      Walk answers session (later, .ok resolved)
  /-- The profile fails or declines, and leaves what it completed. -/
  | leaves {failure : Failure} (hreaches : ReachesProfile answers session.config) :
      Walk answers session
        ({ session with config := (profile.outcome answers session.config).1 }, .error failure)
  /-- The profile has a credential. -/
  | resolvesProfile {later : Session} {resolved : Resolved}
      (hreaches : ReachesProfile answers session.config)
      (hname : resolved.authenticator = profile.name) (hlater : later.resolved = some resolved) :
      Walk answers session (later, .ok resolved)

section

variable {gate : Gate Session Resolved} {plain after : List Authenticator}

omit [Wording] in
theorem answerAll_work_cons (stage : Stage Session Resolved) (rest : List (Stage Session Resolved)) :
    (gate.work (stage :: rest) session).answerAll answers =
      match (stage session).answerAll answers with
      | (later, some outcome) => (later, outcome)
      | (later, none) => (gate.work rest later).answerAll answers := by
  rw [Gate.work, Program.answerAll_bind]
  rcases (stage session).answerAll answers with ⟨later, _ | outcome⟩ <;> rfl

theorem work_of_declines (hplain : ∀ authenticator ∈ plain, authenticator ∈ hostBound)
    (hdeclines : ∀ authenticator ∈ plain,
      (authenticator.outcome answers session.config).2 = .ok none) :
    (gate.work ((plain ++ after).map askAuthenticator) session).answerAll answers =
      (gate.work (after.map askAuthenticator) session).answerAll answers := by
  induction plain with
  | nil => rfl
  | cons authenticator rest ih =>
      rw [List.forall_mem_cons] at hplain hdeclines
      rw [List.cons_append, List.map_cons, answerAll_work_cons, answerAll_ask,
        (usesHost_of_mem hplain.1).outcome_of_declines hdeclines.1]
      exact ih hplain.2 hdeclines.2

theorem walk_of_decides (hplain : ∀ authenticator ∈ plain, authenticator ∈ hostBound)
    (hdecides : ∃ authenticator ∈ plain,
      (authenticator.outcome answers session.config).2 ≠ .ok none) :
    Walk answers session
      ((gate.work ((plain ++ after).map askAuthenticator) session).answerAll answers) := by
  induction plain with
  | nil => simp at hdecides
  | cons authenticator rest ih =>
      rw [List.forall_mem_cons] at hplain
      have huses := usesHost_of_mem hplain.1
      rw [List.cons_append, List.map_cons]
      cases hverdict : (authenticator.outcome answers session.config).2 with
      | error failure =>
          rw [answerAll_work_cons, answerAll_ask, huses.outcome_of_fails hverdict]
          refine .fails fun hreaches => ?_
          have hdeclines := reachesProfile_iff.mp hreaches authenticator hplain.1
          simp [hverdict] at hdeclines
      | ok found =>
          cases found with
          | none =>
              rw [answerAll_work_cons, answerAll_ask, huses.outcome_of_declines hverdict]
              refine ih hplain.2 ?_
              obtain ⟨other, hother, hdecides⟩ := hdecides
              rcases List.mem_cons.mp hother with rfl | hrest
              · exact absurd hverdict hdecides
              · exact ⟨other, hrest, hdecides⟩
          | some signer =>
              obtain ⟨hsame, hsome⟩ := huses.host hverdict
              obtain ⟨host, hhost⟩ := Option.isSome_iff_exists.mp hsome
              obtain ⟨later, hlater, hask⟩ :=
                answerAll_ask_of_signer hverdict (hsame.symm ▸ hhost)
              rw [answerAll_work_cons, hask]
              exact .resolves hplain.1 (by simp [hverdict]) rfl hhost rfl hlater

end

theorem walk_profile (hreaches : ReachesProfile answers session.config) :
    Walk answers session
      (((gate standardChain).work [askAuthenticator profile] session).answerAll answers) := by
  rw [answerAll_work_cons, answerAll_ask]
  rcases houtcome : profile.outcome answers session.config with ⟨config, failure | _ | signer⟩
  all_goals
    have hleaves (failure : Failure) :
        Walk answers session ({ session with config }, .error failure) := by
      have hwalk : Walk answers session (_, .error failure) := .leaves hreaches
      rwa [houtcome] at hwalk
  · exact hleaves failure
  · exact hleaves _
  · cases hhost : nonEmpty config.host with
    | none =>
        have hkeep := answerAll_keep_of_hostless answers { session with config } profile.name signer
          hhost
        simp only [hkeep]
        exact hleaves _
    | some host =>
        obtain ⟨later, hlater, hkeep⟩ :=
          answerAll_keep answers { session with config } profile.name signer hhost
        simp only [hkeep]
        exact .resolvesProfile hreaches rfl hlater

/-- **One walk.** -/
theorem walk_authenticate (hchain : session.chain = standardChain)
    (hopen : session.resolved = none) :
    Walk answers session (session.authenticate.answerAll answers) := by
  have hget : session.authenticate.answerAll answers =
      ((gate standardChain).work (standardChain.map askAuthenticator) session).answerAll
        answers := by
    simp [authenticate, Gate.get, gate, hchain, hopen]
  rw [hget, standardChain_eq]
  by_cases hreaches : ReachesProfile answers session.config
  · rw [work_of_declines (fun _ => id) (reachesProfile_iff.mp hreaches)]
    exact walk_profile hreaches
  · rw [reachesProfile_iff] at hreaches
    refine walk_of_decides (fun _ => id) ?_
    simpa using hreaches

omit [Wording] in
theorem authenticate_of_resolved {resolved : Resolved} (h : session.resolved = some resolved) :
    session.authenticate.answerAll answers = (session, .ok resolved) := by
  simp [authenticate, Gate.get, gate, h]

end ControlPlane.Session
