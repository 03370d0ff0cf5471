import ControlPlane.Proofs.Authenticator.Asks
import ControlPlane.Proofs.Program.Outline
import ControlPlane.Proofs.Session.Walk
import ControlPlane.Proofs.Setting

/-!
# Runs of authentication

A walk along a chain asks one authenticator after the other, on the settings that the one before
left. Around what the authenticators ask for there are only log lines.
-/

namespace ControlPlane.Session

open Program

variable {session : Session} {authenticator : Authenticator} {trace : List Asked}

/-- What a caller is told of a verdict: a signer needs a host by now, and an authenticator that
declines leaves it to the next to tell something. -/
def report (name : String) : Config × Verdict → Option (Except Failure Resolved)
  | (_, .ok none) => none
  | (_, .error failure) => some (.error failure)
  | (config, .ok (some signer)) =>
    match nonEmpty config.host with
    | none => some (.error (.error (hostless name)))
    | some host => some (.ok ⟨Workspace.normalizeHost host, name, signer⟩)

/-- What a session keeps of a verdict, and what a caller is told. -/
def settled (session : Session) (name : String) (found : Config × Verdict) :
    Session × Option (Except Failure Resolved) :=
  match report name found with
  | some (.ok resolved) =>
    ({ session with config := { found.1 with host := some resolved.host }, resolved := resolved },
      some (.ok resolved))
  | other => ({ session with config := found.1 }, other)

theorem report_eq_ok {name : String} {found : Config × Verdict} {resolved : Resolved}
    (h : report name found = some (.ok resolved)) :
    ∃ signer host, found.2 = .ok (some signer) ∧ nonEmpty found.1.host = some host ∧
      resolved = ⟨Workspace.normalizeHost host, name, signer⟩ := by
  obtain ⟨config, failure | _ | signer⟩ := found
  · cases h
  · cases h
  · unfold report at h
    dsimp only at h
    split at h
    · cases h
    · next host hhost =>
        obtain rfl := Except.ok.inj (Option.some.inj h)
        exact ⟨signer, host, rfl, hhost, rfl⟩

theorem report_of_signer {name : String} {found : Config × Verdict} {signer : Signer}
    {host : String} (hsigner : found.2 = .ok (some signer))
    (hhost : nonEmpty found.1.host = some host) :
    report name found = some (.ok ⟨Workspace.normalizeHost host, name, signer⟩) := by
  obtain ⟨config, verdict⟩ := found
  obtain rfl : verdict = .ok (some signer) := hsigner
  have hhost : nonEmpty config.host = some host := hhost
  simp [report, hhost]

theorem report_eq_none_iff {name : String} {found : Config × Verdict} :
    report name found = none ↔ found.2 = .ok none := by
  obtain ⟨config, failure | _ | signer⟩ := found
  · simp [report]
  · simp [report]
  · unfold report
    dsimp only
    split <;> simp

theorem report_eq_outOfCalendar_iff {name : String} {found : Config × Verdict} :
    report name found = some (.error .outOfCalendar) ↔ found.2 = .error .outOfCalendar := by
  obtain ⟨config, failure | _ | signer⟩ := found
  · simp [report]
  · simp [report]
  · unfold report
    dsimp only
    split <;> simp

theorem asks_keep (name : String) (signer : Signer) :
    (session.keep name signer).Asks Query.IsLog := by
  unfold keep
  dsimp only
  split
  · exact asks_done _
  · exact Asks.bind ((asks_query _).mpr trivial) fun _ => asks_done _

theorem settled_signer (answers : Answers) (name : String) (signer : Signer) :
    settled session name (session.config, .ok (some signer)) =
      (((session.keep name signer).answerAll answers).1,
        some ((session.keep name signer).answerAll answers).2) := by
  cases hhost : nonEmpty session.config.host with
  | none =>
      rw [answerAll_keep_of_hostless answers session name signer hhost]
      simp [settled, report, hhost]
  | some host =>
      simp only [settled, report, hhost, keep, Option.getD_some,
        normalizeHost_ne_empty (nonEmpty_eq_some_iff.mp hhost).2]
      rfl

/-- What a verdict adds to the outline of a run. -/
def closing (authenticator : Authenticator) : Verdict → List Asked
  | .error (.error error) =>
    [⟨.log .warn (authenticator.name ++ " authentication failed: " ++ error.message), ()⟩]
  | _ => []

/-- What is written after a verdict; beyond the calendar nothing is. -/
structure Closes (authenticator : Authenticator) (verdict : Verdict) (after : List Asked) :
    Prop where
  quiet : Quiet after
  outline : outline after = closing authenticator verdict
  beyond : verdict = .error .outOfCalendar → after = []

theorem closes_keep {name : String} {signer : Signer} {kept : Session × Except Failure Resolved}
    (h : (session.keep name signer).Runs trace kept) :
    Closes authenticator (.ok (some signer)) trace := by
  refine ⟨h.asks (asks_keep ..), ?_, by simp⟩
  unfold keep at h
  dsimp only at h
  split at h
  · obtain ⟨rfl, -⟩ := runs_done_iff.mp h
    rfl
  · obtain ⟨first, mark, rest, rfl, hinfo, hdone⟩ := runs_bind_iff.mp h
    obtain rfl := runs_query_iff.mp hinfo
    obtain ⟨rfl, -⟩ := runs_done_iff.mp hdone
    rfl

/-- The line with which an authenticator is asked. -/
def trying (authenticator : Authenticator) : Asked :=
  ⟨.log .debug ("Trying " ++ authenticator.name ++ " authentication"), ()⟩

/-- What one authenticator contributes to a run. -/
theorem runs_askAuthenticator {result : Session × Option (Except Failure Resolved)}
    (h : (askAuthenticator authenticator session).Runs trace result) :
    ∃ part found after, trace = trying authenticator :: (part ++ after) ∧
      (authenticator.resolve session.config).Runs part found ∧
      Closes authenticator found.2 after ∧ result = settled session authenticator.name found := by
  unfold askAuthenticator at h
  obtain ⟨first, mark, rest, rfl, hfirst, h⟩ := runs_bind_iff.mp h
  obtain ⟨part, ⟨config, verdict⟩, after, rfl, hpart, h⟩ := runs_bind_iff.mp h
  obtain rfl := runs_query_iff.mp hfirst
  dsimp only at h
  suffices hafter : Closes authenticator verdict after ∧
      result = settled session authenticator.name (config, verdict) by
    exact ⟨part, _, after, rfl, hpart, hafter⟩
  rcases verdict with (error | _) | (_ | signer)
  · obtain ⟨warning, written, last, rfl, hwarning, hdone⟩ := runs_bind_iff.mp h
    obtain rfl := runs_query_iff.mp hwarning
    obtain ⟨rfl, rfl⟩ := runs_done_iff.mp hdone
    exact ⟨⟨by simp [Quiet, Query.IsLog], rfl, by simp⟩, rfl⟩
  · obtain ⟨rfl, rfl⟩ := runs_done_iff.mp h
    exact ⟨⟨by simp [Quiet], rfl, fun _ => rfl⟩, rfl⟩
  · obtain ⟨rfl, rfl⟩ := runs_done_iff.mp h
    exact ⟨⟨by simp [Quiet], rfl, by simp⟩, rfl⟩
  · obtain ⟨keeping, kept, last, rfl, hkeep, hdone⟩ := runs_bind_iff.mp h
    obtain ⟨rfl, rfl⟩ := runs_done_iff.mp hdone
    rw [List.append_nil]
    refine ⟨closes_keep hkeep, ?_⟩
    rw [(runs_of_isLog hkeep (asks_keep ..) Answers.bare).2]
    exact (@settled_signer { session with config } _ _ _).symm

/-- The authenticators that are left, of which there is one more. -/
theorem runs_work_cons {gate : Gate Session Resolved} {rest : List (Stage Session Resolved)}
    {result : Session × Except Failure Resolved}
    (h : (gate.work (askAuthenticator authenticator :: rest) session).Runs trace result) :
    ∃ part found after walk, trace = trying authenticator :: (part ++ (after ++ walk)) ∧
      (authenticator.resolve session.config).Runs part found ∧
      Closes authenticator found.2 after ∧
        ((∃ later outcome, settled session authenticator.name found = (later, some outcome) ∧
            walk = [] ∧ result = (later, outcome)) ∨
          ∃ later, settled session authenticator.name found = (later, none) ∧
            (gate.work rest later).Runs walk result) := by
  rw [Gate.work] at h
  obtain ⟨first, ⟨later, outcome⟩, walk, rfl, hask, h⟩ := runs_bind_iff.mp h
  obtain ⟨part, found, after, rfl, hpart, hcloses, hsettled⟩ := runs_askAuthenticator hask
  refine ⟨part, found, after, walk, by simp, hpart, hcloses, ?_⟩
  cases outcome with
  | some outcome =>
      obtain ⟨rfl, rfl⟩ := runs_done_iff.mp h
      exact .inl ⟨later, outcome, hsettled.symm, rfl, rfl⟩
  | none => exact .inr ⟨later, hsettled.symm, h⟩

/-- A session with a result asks nobody, and one without walks along its chain. -/
theorem runs_authenticate_iff {result : Session × Except Failure Resolved} :
    session.authenticate.Runs trace result ↔
      match session.resolved with
      | some resolved => trace = [] ∧ result = (session, .ok resolved)
      | none => ((gate session.chain).work (session.chain.map askAuthenticator) session).Runs
          trace result := by
  cases hresolved : session.resolved <;>
    simp [authenticate, Gate.get, gate, hresolved]

end ControlPlane.Session
