import ControlPlane.Proofs.Program.Runs
import ControlPlane.Signer

/-!
# Runs that look for a token

A signer that refreshes looks at the clock. It keeps its token, or writes a line and asks its source
for another; either way only the token it keeps is not what it was.
-/

namespace ControlPlane

open Program

namespace TokenSigner

variable {signer later : TokenSigner} {trace : List Asked}

theorem runs_look {source : TokenSource} {kept : Token} {value : Option Token}
    (h : ((gate source).look kept).Runs trace value) :
    ∃ now, trace = [⟨.wallClock, now⟩] ∧
      value = if kept.isExpired now then none else some kept := by
  obtain ⟨looking, now, rest, rfl, hclock, hdone⟩ := runs_bind_iff.mp h
  obtain rfl := runs_query_iff.mp hclock
  obtain ⟨rfl, rfl⟩ := runs_done_iff.mp hdone
  exact ⟨now, rfl, rfl⟩

theorem eq_of_look {kept token : Token} {now : Instant}
    (h : (if kept.isExpired now then none else some kept) = some token) : token = kept := by
  split at h
  · cases h
  · exact (Option.some.inj h).symm

theorem runs_fetch {source : TokenSource} {kept left : Token} {found : Except Failure Token}
    (h : ((gate source).last kept).Runs trace (left, found)) :
    ∃ line fetching, trace = ⟨.log .debug line, ()⟩ :: fetching ∧
      source.run.Runs fetching found := by
  obtain ⟨logging, _, rest, rfl, hlog, hrest⟩ := runs_bind_iff.mp h
  obtain rfl := runs_query_iff.mp hlog
  obtain ⟨fetching, fetched, last, rfl, hsource, hlast⟩ := runs_bind_iff.mp hrest
  cases fetched with
  | error failure =>
      obtain ⟨rfl, hfound⟩ := runs_done_iff.mp hlast
      obtain ⟨-, rfl⟩ := Prod.mk.inj hfound
      rw [List.append_nil]
      exact ⟨_, fetching, rfl, hsource⟩
  | ok token =>
      obtain ⟨rfl, hfound⟩ := runs_done_iff.mp hlast
      obtain ⟨-, rfl⟩ := Prod.mk.inj hfound
      rw [List.append_nil]
      exact ⟨_, fetching, rfl, hsource⟩

/-- What is left of a signer once it has looked for a token or fetched another. -/
theorem runs_freshToken {found : Except Failure Token}
    (h : signer.freshToken.Runs trace (later, found)) :
    later.source = signer.source ∧ later.headers = signer.headers ∧
      (found = .ok signer.cached ∧ (∀ asked ∈ trace, asked.query = .wallClock) ∨
        ∃ looks line fetching, trace = looks ++ [⟨.log .debug line, ()⟩] ++ fetching ∧
          signer.source.run.Runs fetching found) := by
  obtain ⟨getting, ⟨kept, token⟩, rest, rfl, hget, hdone⟩ := runs_bind_iff.mp h
  obtain ⟨rfl, hresult⟩ := runs_done_iff.mp hdone
  obtain ⟨rfl, rfl⟩ := Prod.mk.inj hresult
  refine ⟨rfl, rfl, ?_⟩
  rw [List.append_nil]
  unfold Gate.get at hget
  obtain ⟨first, value, afterFirst, rfl, hfirst, hrest⟩ := runs_bind_iff.mp hget
  obtain ⟨now, rfl, hvalue⟩ := runs_look hfirst
  cases value with
  | some token =>
      obtain ⟨rfl, hfound⟩ := runs_done_iff.mp hrest
      rw [(Prod.mk.inj hfound).2, eq_of_look hvalue.symm]
      exact .inl ⟨rfl, by simp⟩
  | none =>
      obtain ⟨second, value, afterSecond, rfl, hsecond, hlast⟩ := runs_bind_iff.mp hrest
      obtain ⟨again, rfl, hvalue⟩ := runs_look hsecond
      cases value with
      | some token =>
          obtain ⟨rfl, hfound⟩ := runs_done_iff.mp hlast
          rw [(Prod.mk.inj hfound).2, eq_of_look hvalue.symm]
          exact .inl ⟨rfl, by simp⟩
      | none =>
          obtain ⟨line, fetching, rfl, hsource⟩ := runs_fetch hlast
          refine .inr ⟨[⟨.wallClock, now⟩, ⟨.wallClock, again⟩], line, fetching, ?_, hsource⟩
          simp

/-- A kept token that has not expired is used as it is. -/
theorem runs_freshToken_of_fresh {found : Except Failure Token}
    (h : signer.freshToken.Runs trace (later, found))
    (hfresh : ∀ now, ⟨.wallClock, now⟩ ∈ trace → signer.cached.isExpired now = false) :
    (∃ now, trace = [⟨.wallClock, now⟩]) ∧ later = signer ∧ found = .ok signer.cached := by
  obtain ⟨getting, ⟨kept, token⟩, rest, rfl, hget, hdone⟩ := runs_bind_iff.mp h
  obtain ⟨rfl, hresult⟩ := runs_done_iff.mp hdone
  obtain ⟨rfl, rfl⟩ := Prod.mk.inj hresult
  rw [List.append_nil] at hfresh ⊢
  unfold Gate.get at hget
  obtain ⟨first, value, afterFirst, rfl, hfirst, hrest⟩ := runs_bind_iff.mp hget
  obtain ⟨now, rfl, rfl⟩ := runs_look hfirst
  rw [hfresh now (by simp), if_neg Bool.false_ne_true] at hrest
  obtain ⟨rfl, hfound⟩ := runs_done_iff.mp hrest
  obtain ⟨rfl, rfl⟩ := Prod.mk.inj hfound
  exact ⟨⟨now, rfl⟩, rfl, rfl⟩

end TokenSigner

end ControlPlane
