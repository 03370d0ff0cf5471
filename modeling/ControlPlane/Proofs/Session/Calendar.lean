import ControlPlane.Proofs.Session.Selection

/-!
# Calls beyond the calendar

A call comes to neither a result nor an error exactly if the last things that it asked for were an
exchange, which was granted, and the clock, and the lifetime of the grant ends beyond the calendar
from there.
-/

namespace ControlPlane.Session

open Authenticator Program

variable {session : Session} {authenticator : Authenticator} {trace : List Asked}
  {result : Session × Except Failure Resolved}

theorem endsBeyond_stage_iff {part after : List Asked} {found : Config × Verdict}
    (hexact : found.2 = .error .outOfCalendar ↔ EndsBeyond part)
    (hcloses : Closes authenticator found.2 after) :
    EndsBeyond (trying authenticator :: (part ++ after)) ↔ found.2 = .error .outOfCalendar := by
  rcases List.eq_nil_or_concat after with rfl | ⟨before, last, rfl⟩
  · rw [List.append_nil, hexact]
    exact EndsBeyond.after_log_iff [] _ _
  · rw [List.concat_eq_append] at hcloses ⊢
    apply iff_of_false
    · rw [← List.append_assoc, ← List.cons_append]
      have hlast : last.query.IsLog := hcloses.quiet last (by simp)
      apply EndsBeyond.not_concat
      intro hclock
      rw [hclock] at hlast
      exact hlast
    · intro hbeyond
      have hnil := hcloses.beyond hbeyond
      simp at hnil

/-- A walk is over, or starts with the line of the authenticator that is asked next. -/
theorem runs_work_nil_or_trying {gate : Gate Session Resolved} {chain : List Authenticator}
    (hlast : ∀ session, gate.last session = .done (session, .error (.error notConfigured)))
    (h : (gate.work (chain.map askAuthenticator) session).Runs trace result) :
    trace = [] ∨ ∃ authenticator later, trace = trying authenticator :: later := by
  cases chain with
  | nil =>
      rw [List.map_nil, Gate.work, hlast] at h
      exact .inl (runs_done_iff.mp h).1
  | cons authenticator rest =>
      obtain ⟨part, found, after, walk, rfl, -⟩ := runs_work_cons h
      exact .inr ⟨authenticator, _, rfl⟩

theorem outOfCalendar_iff_of_work {gate : Gate Session Resolved} {chain : List Authenticator}
    (hlast : ∀ session, gate.last session = .done (session, .error (.error notConfigured)))
    (hchain : ∀ authenticator ∈ chain, authenticator.Exact)
    (h : (gate.work (chain.map askAuthenticator) session).Runs trace result) :
    result.2 = .error .outOfCalendar ↔ EndsBeyond trace := by
  induction chain generalizing session trace with
  | nil =>
      rw [List.map_nil, Gate.work, hlast] at h
      obtain ⟨rfl, rfl⟩ := runs_done_iff.mp h
      exact iff_of_false (by simp) EndsBeyond.not_nil
  | cons authenticator rest ih =>
      rw [List.forall_mem_cons] at hchain
      obtain ⟨part, found, after, walk, rfl, hpart, hcloses, hend⟩ := runs_work_cons h
      have hstage := endsBeyond_stage_iff (hchain.1 _ _ _ hpart) hcloses
      rw [← List.append_assoc, ← List.cons_append]
      rcases hend with ⟨later, outcome, hsettled, rfl, rfl⟩ | ⟨later, hsettled, hwalk⟩
      · rw [List.append_nil, hstage, ← report_eq_outOfCalendar_iff, settled_eq_some hsettled]
        simp
      · rw [ih hchain.2 hwalk]
        rcases runs_work_nil_or_trying hlast hwalk with rfl | ⟨next, others, rfl⟩
        · rw [List.append_nil, hstage, (settled_eq_none hsettled).1]
          exact iff_of_false EndsBeyond.not_nil (by simp)
        · exact (EndsBeyond.after_log_iff [] _ _).trans (EndsBeyond.after_log_iff _ _ _).symm

/-- **Calls beyond the calendar.** -/
theorem authenticate_outOfCalendar_iff [Wording] (hchain : session.chain = standardChain)
    (hopen : session.resolved = none) (h : session.authenticate.Runs trace result) :
    result.2 = .error .outOfCalendar ↔ EndsBeyond trace := by
  rw [runs_authenticate_iff, hopen, hchain] at h
  exact outOfCalendar_iff_of_work (fun _ => rfl) (fun _ => exact_of_mem_standardChain) h

end ControlPlane.Session
