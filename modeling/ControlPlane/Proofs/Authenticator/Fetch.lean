import ControlPlane.Proofs.Authenticator.Calendar

/-!
# What a fetch comes to

On the workspace surface a fetch brings an identity token, and on the accounts surface an access
token as well, one after the other. Each lasts as long as the answer says that brought it, from the
moment at which it came. A fetch comes to a token exactly if the endpoint grants what the surface
needs and every end is a date.
-/

namespace ControlPlane

open Program

/-! ### Receipts -/

namespace Endpoint

/-- A token as it came. -/
structure Receipt where
  text : String
  /-- When it came, by the clock. -/
  received : Instant
  /-- How long it lasts from then, if that was said. -/
  seconds : Option Int
  deriving DecidableEq, Repr

namespace Receipt

/-- The end of the token is a date, if there is one. -/
def InCalendar (receipt : Receipt) : Prop :=
  ∀ seconds, receipt.seconds = some seconds → (receipt.received.addSeconds? seconds).isSome

def token (receipt : Receipt) : Token :=
  { text := receipt.text, expiresAt := receipt.seconds.bind receipt.received.addSeconds? }

/-- The clock is read only if there is an end to compute. -/
def readings (receipt : Receipt) : List Asked :=
  match receipt.seconds with
  | none => []
  | some _ => [⟨.wallClock, receipt.received⟩]

end Receipt

variable {trace : List Asked} {token : Token}

theorem runs_lastingToken_iff_receipt {text : String} {seconds : Int} :
    (lastingToken text seconds).run.Runs trace (.ok token) ↔
      ∃ receipt : Receipt, receipt.text = text ∧ receipt.seconds = some seconds ∧
        receipt.InCalendar ∧ trace = receipt.readings ∧ token = receipt.token := by
  rw [runs_lastingToken_iff]
  constructor
  · rintro ⟨now, rfl, hlasting⟩
    obtain ⟨instant, hinstant, rfl⟩ := Option.map_eq_some_iff.mp hlasting
    refine ⟨⟨text, now, some seconds⟩, rfl, rfl, ?_, rfl, ?_⟩
    · rintro _ ⟨⟩
      rw [hinstant]
      rfl
    · simp [Receipt.token, hinstant]
  · rintro ⟨⟨text, now, _⟩, rfl, rfl, hin, rfl, rfl⟩
    obtain ⟨instant, hinstant⟩ := Option.isSome_iff_exists.mp (hin seconds rfl)
    exact ⟨now, rfl, by simp [Token.lasting?, Receipt.token, hinstant]⟩

theorem runs_accessTokenOf_iff {grant : Grant} :
    (accessTokenOf grant).run.Runs trace (.ok (some token)) ↔
      ∃ receipt : Receipt, grant.accessToken = some receipt.text ∧
        receipt.seconds = grant.expiresIn ∧ receipt.InCalendar ∧ trace = receipt.readings ∧
          token = receipt.token := by
  obtain ⟨_ | text, idToken, seconds⟩ := grant
  · refine ⟨fun h => ?_, nofun⟩
    obtain ⟨-, ⟨⟩⟩ := runs_done_iff.mp h
  cases seconds with
  | none =>
      constructor
      · intro h
        obtain ⟨rfl, htoken⟩ := runs_done_iff.mp h
        obtain rfl := Option.some.inj (Except.ok.inj htoken)
        exact ⟨⟨text, default, none⟩, rfl, rfl, nofun, rfl, rfl⟩
      · rintro ⟨⟨_, received, _⟩, ⟨⟩, ⟨⟩, -, rfl, rfl⟩
        exact .done _
  | some seconds =>
      refine Attempt.runs_bind_pure_iff.trans ?_
      constructor
      · rintro ⟨found, hlasting, ⟨⟩⟩
        obtain ⟨receipt, rfl, h⟩ := runs_lastingToken_iff_receipt.mp hlasting
        exact ⟨receipt, rfl, h⟩
      · rintro ⟨receipt, ⟨⟩, h⟩
        exact ⟨token, runs_lastingToken_iff_receipt.mpr ⟨receipt, rfl, h⟩, rfl⟩

end Endpoint

namespace Authenticator.GoogleAccount

open Endpoint

variable {account : GoogleAccount} {trace : List Asked} {token : Token}

/-! ### Fetches -/

variable [Wording]

/-- The endpoint granted an identity token, which lasts an hour if nothing else is said. -/
def GrantsIdentity (account : GoogleAccount) (exchanging : List Asked) (receipt : Receipt) : Prop :=
  ∃ grant, account.Grants "target_audience" account.audience exchanging grant ∧
    grant.idToken = some receipt.text ∧ receipt.seconds = some (grant.expiresIn.getD 3600)

def GrantsAccess (account : GoogleAccount) (exchanging : List Asked) (receipt : Receipt) : Prop :=
  ∃ grant, account.Grants "scope" platformScope exchanging grant ∧
    grant.accessToken = some receipt.text ∧ receipt.seconds = grant.expiresIn

/-- The tokens that came in one fetch, all of which end at a date: one on the workspace surface, and
on the accounts surface two, one after the other. -/
inductive Fetched (account : GoogleAccount) : List Asked → Receipt → Option Receipt → Prop where
  | one {exchanging : List Asked} {identity : Receipt} (hsurface : account.surface = .workspace)
      (hidentity : account.GrantsIdentity exchanging identity) (hin : identity.InCalendar) :
      Fetched account (exchanging ++ identity.readings) identity none
  | both {first second : List Asked} {identity access : Receipt}
      (hsurface : account.surface = .accounts) (hidentity : account.GrantsIdentity first identity)
      (hin : identity.InCalendar) (haccess : account.GrantsAccess second access)
      (hother : access.InCalendar) :
      Fetched account (first ++ identity.readings ++ (second ++ access.readings)) identity
        (some access)

def fetchedToken (identity : Receipt) : Option Receipt → Token
  | none => identity.token
  | some access => joinTokens identity.token access.token

theorem runs_identityToken_iff :
    account.identityToken.run.Runs trace (.ok token) ↔
      ∃ exchanging identity, account.GrantsIdentity exchanging identity ∧ identity.InCalendar ∧
        trace = exchanging ++ identity.readings ∧ token = identity.token := by
  constructor
  · intro h
    obtain ⟨exchanging, grant, rest, rfl, hexchange, hrest⟩ := Attempt.runs_bind_ok h
    cases htoken : grant.idToken with
    | none =>
        rw [htoken] at hrest
        obtain ⟨-, ⟨⟩⟩ := runs_done_iff.mp hrest
    | some text =>
        rw [htoken] at hrest
        obtain ⟨identity, rfl, hseconds, hin, rfl, rfl⟩ := runs_lastingToken_iff_receipt.mp hrest
        exact ⟨exchanging, identity, ⟨grant, runs_exchange_iff.mp hexchange, htoken, hseconds⟩, hin,
          rfl, rfl⟩
  · rintro ⟨exchanging, identity, ⟨grant, hgrants, htoken, hseconds⟩, hin, rfl, rfl⟩
    refine Attempt.runs_bind_iff.mpr
      (.inr ⟨exchanging, grant, _, rfl, runs_exchange_iff.mpr hgrants, ?_⟩)
    rw [htoken]
    exact runs_lastingToken_iff_receipt.mpr ⟨identity, rfl, hseconds, hin, rfl, rfl⟩

theorem runs_accessToken_iff :
    account.accessToken.run.Runs trace (.ok token) ↔
      ∃ exchanging access, account.GrantsAccess exchanging access ∧ access.InCalendar ∧
        trace = exchanging ++ access.readings ∧ token = access.token := by
  constructor
  · intro h
    obtain ⟨exchanging, grant, _, rfl, hexchange, hrest⟩ := Attempt.runs_bind_ok h
    obtain ⟨granting, found, rest, rfl, hgranted, hdone⟩ := Attempt.runs_bind_ok hrest
    cases found with
    | none => obtain ⟨-, ⟨⟩⟩ := runs_done_iff.mp hdone
    | some found =>
        obtain ⟨rfl, htoken⟩ := runs_done_iff.mp hdone
        obtain rfl := Except.ok.inj htoken
        obtain ⟨access, htext, hseconds, hin, rfl, rfl⟩ := runs_accessTokenOf_iff.mp hgranted
        exact ⟨exchanging, access, ⟨grant, runs_exchange_iff.mp hexchange, htext, hseconds⟩, hin,
          by rw [List.append_nil], rfl⟩
  · rintro ⟨exchanging, access, ⟨grant, hgrants, htext, hseconds⟩, hin, rfl, rfl⟩
    have hgranted := runs_accessTokenOf_iff.mpr ⟨access, htext, hseconds, hin, rfl, rfl⟩
    refine Attempt.runs_bind_iff.mpr
      (.inr ⟨exchanging, grant, _, rfl, runs_exchange_iff.mpr hgrants, ?_⟩)
    exact Attempt.runs_bind_iff.mpr
      (.inr ⟨_, _, [], (List.append_nil _).symm, hgranted, .done _⟩)

/-- **What a fetch comes to.** It has a token exactly if the endpoint granted what the surface
needs, and then that of what came. -/
theorem runs_token_iff :
    account.token.run.Runs trace (.ok token) ↔
      ∃ identity access?, account.Fetched trace identity access? ∧
        token = fetchedToken identity access? := by
  constructor
  · intro h
    obtain ⟨first, found, second, rfl, hidentity, hrest⟩ := Attempt.runs_bind_ok h
    obtain ⟨exchanging, identity, hgrants, hin, rfl, rfl⟩ := runs_identityToken_iff.mp hidentity
    cases hsurface : account.surface with
    | workspace =>
        rw [hsurface] at hrest
        obtain ⟨rfl, htoken⟩ := runs_done_iff.mp hrest
        rw [List.append_nil]
        exact ⟨identity, none, .one hsurface hgrants hin, Except.ok.inj htoken⟩
    | accounts =>
        rw [hsurface] at hrest
        obtain ⟨found, haccess, rfl⟩ := Attempt.runs_bind_pure_iff.mp hrest
        obtain ⟨again, access, hother, hlasts, rfl, rfl⟩ := runs_accessToken_iff.mp haccess
        exact ⟨identity, some access, .both hsurface hgrants hin hother hlasts, rfl⟩
  · rintro ⟨identity, _, hfetched, rfl⟩
    cases hfetched with
    | @one exchanging _ hsurface hgrants hin =>
        have hidentity := runs_identityToken_iff.mpr ⟨exchanging, identity, hgrants, hin, rfl, rfl⟩
        refine Attempt.runs_bind_iff.mpr
          (.inr ⟨_, _, [], (List.append_nil _).symm, hidentity, ?_⟩)
        rw [hsurface]
        exact .done _
    | @both first second _ access hsurface hgrants hin hother hlasts =>
        have hidentity := runs_identityToken_iff.mpr ⟨first, identity, hgrants, hin, rfl, rfl⟩
        have haccess := runs_accessToken_iff.mpr ⟨second, access, hother, hlasts, rfl, rfl⟩
        refine Attempt.runs_bind_iff.mpr (.inr ⟨_, _, _, rfl, hidentity, ?_⟩)
        rw [hsurface]
        exact Attempt.runs_bind_pure_iff.mpr ⟨_, haccess, rfl⟩

end Authenticator.GoogleAccount

end ControlPlane
