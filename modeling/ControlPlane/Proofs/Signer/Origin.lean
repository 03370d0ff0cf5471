import ControlPlane.Proofs.Gate.Transcript
import ControlPlane.Proofs.Signer.Refresh
import ControlPlane.Proofs.Signer.SingleFlight

/-!
# Where a token comes from

Callers who sign with one refreshing signer use the token that it kept at first, or one that a fetch
brought. A fetch asks all its questions in one stretch of the transcript, and a token is what one
whole fetch came to: the answers to different fetches are never mixed, also if a fetch before was
dropped on the way.
-/

namespace ControlPlane.TokenSigner

open Gate Gate.Crowd Program

variable {source : TokenSource} {initial : Token} {crowd next : Crowd Token Token} {event : Event}
  {past : List Asked}

/-- A token that was kept at first, or that one whole fetch brought. -/
def Originates (source : TokenSource) (initial token : Token) (past : List Asked) : Prop :=
  token = initial ∨ ∃ fetching, fetching <:+: past ∧ source.run.Runs fetching (.ok token)

theorem Originates.mono {token : Token} {more : List Asked}
    (h : Originates source initial token past) (hmore : past <+: more) :
    Originates source initial token more := by
  rcases h with rfl | ⟨fetching, hpart, hruns⟩
  · exact .inl rfl
  · exact .inr ⟨fetching, hpart.trans hmore.isInfix, hruns⟩

/-- The one stage of a fetch: a line in the log, and then a run of the source. -/
theorem runs_lastStage {kept left : Token} {told : Option (Except Failure Token)}
    {part : List Asked} (h : ((gate source).lastStage kept).Runs part (left, told)) :
    ∃ found line fetching, told = some found ∧ part = ⟨.log .debug line, ()⟩ :: fetching ∧
      source.run.Runs fetching found := by
  obtain ⟨first, ⟨middle, found⟩, rest, rfl, hfetch, hdone⟩ := runs_bind_iff.mp h
  obtain ⟨rfl, heq⟩ := runs_done_iff.mp hdone
  obtain ⟨rfl, rfl⟩ := Prod.mk.inj heq
  obtain ⟨line, fetching, rfl, hsource⟩ := runs_fetch hfetch
  exact ⟨found, line, fetching, rfl, List.append_nil _, hsource⟩

theorem kept_originates (source : TokenSource) (initial : Token) :
    Kept (gate source) (fun _ => True) (Originates source initial) where
  mono h hmore := h.mono hmore
  stage {kept past part result} _ h hpart stage hstage hrun := by
    obtain rfl : stage = (gate source).lastStage := List.mem_singleton.mp hstage
    obtain ⟨left, told⟩ := result
    have hleft : Refreshes kept (left, told) := hrun.every (every_lastStage source kept)
    obtain ⟨found, line, fetching, rfl, rfl, hsource⟩ := runs_lastStage hrun
    cases found with
    | error failure =>
        obtain rfl : left = kept := hleft
        exact h
    | ok token =>
        obtain rfl : left = token := hleft
        exact .inr ⟨fetching, (List.suffix_cons _ _).isInfix.trans hpart.isInfix, hsource⟩

/-- Kept tokens and those that callers were told have an origin. -/
structure Accounted (source : TokenSource) (initial : Token) (crowd : Crowd Token Token)
    (past : List Asked) : Prop where
  recorded : crowd.Recorded (gate source) (fun _ => True) Refreshes (Originates source initial) past
  told {caller : Nat} {token : Token} : (crowd.phase caller).outcome? = some (.ok token) →
    Originates source initial token past

theorem Accounted.step (h : Accounted source initial crowd past)
    (hstep : step? (gate source) crowd event = some next) :
    Accounted source initial next (past ++ (crowd.asked? event).toList) := by
  have hmove := move_of_step? hstep
  have hmore : past <+: past ++ (crowd.asked? event).toList := List.prefix_append _ _
  have hnext := h.recorded.move (contract source) (kept_originates source initial) hmove
  refine ⟨hnext, fun {caller token} htold => ?_⟩
  rcases outcome?_of_move hmove htold with hbefore | hmade | ⟨answers, hfound⟩
  · exact (h.told hbefore).mono hmore
  · have hkept := state_of_made h.recorded.orderly (Option.mem_toList.mp hmade ▸ hmove)
    exact hkept ▸ hnext.holds
  · obtain ⟨rfl, -⟩ := look_eq_some_iff.mp (look_of_move (Option.mem_toList.mp hfound ▸ hmove))
    exact h.recorded.holds.mono hmore

/-- **Where a token comes from.** Whatever steps callers take in whatever order, and whatever they
are answered. -/
theorem originates_of_run? {events : List Event}
    (hrun : run? (gate source) (opening initial) events = some crowd) {caller : Nat} {token : Token}
    (htold : (crowd.phase caller).outcome? = some (.ok token)) :
    Originates source initial token (transcript (gate source) (opening initial) events) := by
  have haccounted := run?_record_induction (Accounted source initial)
    ⟨⟨orderly_start initial, .inl rfl, fun _ => trivial⟩, nofun⟩ Accounted.step hrun
  exact haccounted.told htold

end ControlPlane.TokenSigner
