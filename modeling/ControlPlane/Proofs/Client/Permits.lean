import Mathlib.Algebra.BigOperators.Group.List.Lemmas
import Mathlib.Algebra.Order.BigOperators.Group.List
import Mathlib.Algebra.Order.Group.Nat
import ControlPlane.Proofs.Client.Signed
import ControlPlane.Proofs.Retry.Runs
import ControlPlane.Surroundings.Wording

/-!
# Permits and attempts

A call draws one permit, before its first attempt, and its retries draw none. So the first attempts
never outnumber the permits, and all attempts do not as long as there are no more retries than
permits of calls that have attempted nothing yet. In any case there are no more attempts for each
permit than the policy allows for a call.
-/

namespace ControlPlane

open Program

def Query.isPermit : Query → Bool
  | .permit => true
  | _ => false

namespace Client.Crowd

variable {α : Type} {client : Client} {wishes : Nat → Wish α} {wish : Wish α} {crowd : Crowd α}
  {caller : Nat} {policy : RetryPolicy} {method : Method}

/-! ### Who asked -/

/-- The callers of all questions of a kind, in the order in which they were asked. -/
def callersOf (kind : Query → Bool) (crowd : Crowd α) : List Nat :=
  (crowd.past.filter fun entry => kind entry.2.query).map Prod.fst

/-- Who drew a permit. -/
def drawers (crowd : Crowd α) : List Nat :=
  crowd.callersOf Query.isPermit

/-- Who made an attempt, each caller as often as it did. -/
def senders (crowd : Crowd α) : List Nat :=
  crowd.callersOf fun query => query.attempted?.isSome

/-- How many attempts were not the first of their call. -/
def retries (crowd : Crowd α) : Nat :=
  crowd.senders.length - crowd.senders.dedup.length

/-- How many permits are of calls that have attempted nothing. -/
def unused (crowd : Crowd α) : Nat :=
  (crowd.drawers.filter (· ∉ crowd.senders)).length

theorem count_callersOf (kind : Query → Bool) (crowd : Crowd α) (caller : Nat) :
    (crowd.callersOf kind).count caller = (crowd.ownPast caller).countP (kind ·.query) := by
  rw [callersOf, ownPast, List.count_eq_countP, List.countP_map, List.countP_map,
    List.countP_filter, List.countP_filter]
  apply List.countP_congr
  rintro ⟨other, asked⟩ -
  simp [and_comm]

theorem count_senders (crowd : Crowd α) (caller : Nat) :
    crowd.senders.count caller = (verdictsOf (crowd.ownPast caller)).length := by
  rw [senders, count_callersOf, ← length_attemptsOf, attemptsOf, List.length_filterMap_eq_countP]

/-! ### One call -/

/-- A call has asked nothing, or it has drawn its permit and goes on without another. -/
def Draws (policy : RetryPolicy) (method : Method) (own : List Asked) : Prop :=
  own = [] ∨ ∃ part, own = permitDrawn :: part ∧ (∀ asked ∈ part, asked.query.isPermit = false) ∧
    policy.Keeps method policy.maxAttempts part

theorem Signs.method_eq {request : Request} (h : crowd.Signs caller wish request) :
    request.method = wish.method := by
  obtain ⟨-, hprepare, -⟩ := h
  obtain ⟨url, -, hrequest⟩ := request_of_prepare hprepare
  exact (headers_of_request hrequest).1

theorem Sends.draws {request : Request} {current : Program (Except Error Response)}
    (h : Sends client wish crowd caller request current) :
    Draws client.retry wish.method (crowd.ownPast caller) := by
  obtain ⟨hsigns, part, hown, hgoes⟩ := h
  have hruns := hgoes _ _ (runs_askAll .bare current)
  refine .inr ⟨part, hown, fun asked hasked => ?_, ?_⟩
  · have hallowed := hruns.asks (asks_exchange client request) asked
      (List.mem_append_left _ hasked)
    cases hquery : asked.query with
    | permit =>
        rw [hquery] at hallowed
        exact hallowed.elim
    | _ => rfl
  · rw [← hsigns.method_eq]
    exact (keeps_exchange hruns).of_append

theorem Standing.draws [Wording] {phase : Phase α} (h : Standing client wish crowd caller phase) :
    Draws client.retry wish.method (crowd.ownPast caller) := by
  rcases h.gone with hown | ⟨request, current, hsends⟩
  · rcases List.prefix_cons_iff.mp hown with hnil | ⟨rest, hrest, hprefix⟩
    · exact .inl hnil
    · obtain rfl := List.prefix_nil.mp hprefix
      exact .inr ⟨[], hrest, by simp, RetryPolicy.keeps_of_verdictsOf_eq_nil rfl⟩
  · exact hsends.draws

theorem Draws.count_permits {own : List Asked} (h : Draws policy method own) (hown : own ≠ []) :
    own.countP (Query.isPermit ·.query) = 1 := by
  obtain ⟨part, rfl, hpart, -⟩ := h.resolve_left hown
  have hnone : part.countP (Query.isPermit ·.query) = 0 := by
    simpa [List.countP_eq_zero] using hpart
  rw [List.countP_cons_of_pos rfl, hnone]

theorem Draws.keeps {own : List Asked} (h : Draws policy method own) :
    policy.Keeps method policy.maxAttempts own := by
  rcases h with rfl | ⟨part, rfl, -, hkeeps⟩
  · exact RetryPolicy.keeps_of_verdictsOf_eq_nil rfl
  · exact hkeeps.congr rfl

/-! ### All calls -/

def AllDraw (policy : RetryPolicy) (wishes : Nat → Wish α) (crowd : Crowd α) : Prop :=
  ∀ caller, Draws policy (wishes caller).method (crowd.ownPast caller)

theorem allDraw_of_run? [Wording] {events : List Event}
    (hrun : run? client wishes (opening client) events = some crowd) :
    AllDraw client.retry wishes crowd :=
  fun caller => (allStand_of_run? hrun caller).draws

namespace AllDraw

theorem count_drawers (h : AllDraw policy wishes crowd) (hown : crowd.ownPast caller ≠ []) :
    crowd.drawers.count caller = 1 := by
  rw [drawers, count_callersOf, (h caller).count_permits hown]

theorem nodup_drawers (h : AllDraw policy wishes crowd) : crowd.drawers.Nodup := by
  refine List.nodup_iff_count_le_one.mpr fun caller => ?_
  by_cases hown : crowd.ownPast caller = []
  · rw [drawers, count_callersOf, hown]
    exact Nat.zero_le 1
  · exact (h.count_drawers hown).le

theorem count_senders_le (h : AllDraw policy wishes crowd) (caller : Nat) :
    crowd.senders.count caller ≤ policy.maxAttempts := by
  rw [count_senders]
  exact (h caller).keeps.bounded

theorem senders_subset (h : AllDraw policy wishes crowd) : crowd.senders ⊆ crowd.drawers := by
  intro caller hcaller
  have hown : crowd.ownPast caller ≠ [] := by
    intro hnil
    have hcount := List.count_pos_iff.mpr hcaller
    rw [count_senders, hnil] at hcount
    exact absurd hcount (Nat.lt_irrefl 0)
  exact List.count_pos_iff.mp (by rw [h.count_drawers hown]; exact Nat.one_pos)

/-- A permit belongs to a call that attempted something, or is unused. -/
theorem length_drawers (h : AllDraw policy wishes crowd) :
    crowd.drawers.length = crowd.senders.dedup.length + crowd.unused := by
  -- Both lists name a caller once, so they are the same callers in some order.
  have hused : (crowd.drawers.filter (· ∈ crowd.senders)).Perm crowd.senders.dedup := by
    refine (List.perm_ext_iff_of_nodup (h.nodup_drawers.filter _) (List.nodup_dedup _)).mpr ?_
    intro caller
    rw [List.mem_filter, List.mem_dedup, decide_eq_true_iff]
    exact ⟨And.right, fun hcaller => ⟨h.senders_subset hcaller, hcaller⟩⟩
  rw [← hused.length_eq, unused, List.length_eq_length_filter_add (· ∈ crowd.senders)]
  simp

theorem length_senders_le (h : AllDraw policy wishes crowd) :
    crowd.senders.length ≤ policy.maxAttempts * crowd.senders.dedup.length := by
  have hcounts : ∀ count ∈ crowd.senders.dedup.map fun caller => crowd.senders.count caller,
      count ≤ policy.maxAttempts := by
    intro count hcount
    obtain ⟨caller, -, rfl⟩ := List.mem_map.mp hcount
    exact h.count_senders_le caller
  have hsum := List.sum_le_card_nsmul _ _ hcounts
  rwa [List.sum_map_count_dedup_eq_length, List.length_map, Nat.nsmul_eq_mul, Nat.mul_comm] at hsum

theorem nodup_senders (h : AllDraw policy wishes crowd)
    (hfinal : ∀ caller, ∀ verdict ∈ verdictsOf (crowd.ownPast caller),
      policy.classify (wishes caller).method verdict ≠ .retry) : crowd.senders.Nodup := by
  refine List.nodup_iff_count_le_one.mpr fun caller => ?_
  rw [count_senders]
  exact (h caller).keeps.length_le_one (hfinal caller)

end AllDraw

/-- How the attempts of a client stand to the permits that were drawn. -/
structure Permitted (policy : RetryPolicy) (wishes : Nat → Wish α) (crowd : Crowd α) : Prop where
  one_permit : crowd.drawers.Nodup
  /-- Whoever made an attempt has drawn its permit. -/
  permit_first : crowd.senders ⊆ crowd.drawers
  attempts_of_call (caller : Nat) : crowd.senders.count caller ≤ policy.maxAttempts
  attempts_le_mul : crowd.senders.length ≤ policy.maxAttempts * crowd.drawers.length
  /-- The attempts keep to the permits just as long as retries only make up for unused permits. -/
  attempts_le_iff : crowd.senders.length ≤ crowd.drawers.length ↔ crowd.retries ≤ crowd.unused
  /-- They do if no attempt came to a failure that is to be retried. -/
  attempts_le : (∀ caller, ∀ verdict ∈ verdictsOf (crowd.ownPast caller),
    policy.classify (wishes caller).method verdict ≠ .retry) →
      crowd.senders.length ≤ crowd.drawers.length

/-- **Permits are for calls, not for attempts.** Whatever calls share a client and whatever steps
they take in whatever order. -/
theorem permitted_of_run? [Wording] (client : Client) (wishes : Nat → Wish α) {events : List Event}
    (hrun : run? client wishes (opening client) events = some crowd) :
    Permitted client.retry wishes crowd := by
  have h := allDraw_of_run? hrun
  have hused := h.length_drawers
  have hfirst : crowd.senders.dedup.length ≤ crowd.senders.length :=
    (List.dedup_sublist _).length_le
  constructor
  case one_permit => exact h.nodup_drawers
  case permit_first => exact h.senders_subset
  case attempts_of_call => exact h.count_senders_le
  case attempts_le_mul =>
    exact h.length_senders_le.trans (Nat.mul_le_mul_left _ (by omega))
  case attempts_le_iff =>
    rw [retries]
    omega
  case attempts_le =>
    intro hfinal
    rw [← (h.nodup_senders hfinal).dedup]
    omega

/-- A server that is not available. -/
def unavailable : Answers
  | .attempt _ => .ok { status := 503 }
  | query => Answers.bare query

/-- A client with one permit a second, whose calls wait a millisecond before they try again. -/
def hastyClient : Client :=
  ofConfig addressConfig [.direct] ⟨Span.ofMillis 1, Span.ofMillis 10, none⟩ ⟨1, 1⟩

/-- One call on its own goes through its second attempt. -/
def secondAttempt : List Event :=
  signsAlone ++ [.advance 0 .bare, .advance 0 .bare, .advance 0 unavailable, .advance 0 .bare,
    .advance 0 .bare, .advance 0 .bare, .advance 0 unavailable]

theorem permitted_of_run?_secondAttempt :
    ∃ crowd, run? hastyClient readX (opening hastyClient) secondAttempt = some crowd ∧
      crowd.senders = [0, 0] ∧ Permitted hastyClient.retry readX crowd := by
  have hsenders : (run? hastyClient readX (opening hastyClient) secondAttempt).map senders =
      some [0, 0] := by decide +kernel
  obtain ⟨crowd, hrun, hsent⟩ := Option.map_eq_some_iff.mp hsenders
  exact ⟨crowd, hrun, hsent, permitted_of_run? hastyClient readX hrun⟩

/-- A retry draws no permit: two attempts are out on the permit of one call. -/
theorem exists_drawers_lt_senders :
    ∃ crowd, run? hastyClient readX (opening hastyClient) secondAttempt = some crowd ∧
      crowd.drawers.length < crowd.senders.length := by
  have hcounts : (run? hastyClient readX (opening hastyClient) secondAttempt).map
      (fun crowd => (crowd.drawers.length, crowd.senders.length)) = some (1, 2) := by
    decide +kernel
  obtain ⟨crowd, hrun, hlengths⟩ := Option.map_eq_some_iff.mp hcounts
  obtain ⟨hdrawn, hsent⟩ := Prod.mk.inj hlengths
  exact ⟨crowd, hrun, by omega⟩

end Client.Crowd

end ControlPlane
