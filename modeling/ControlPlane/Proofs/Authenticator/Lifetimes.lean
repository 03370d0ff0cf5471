import ControlPlane.Proofs.Authenticator.Fetch

/-!
# Lifetimes beyond the calendar

A run that gets tokens from an endpoint leaves the calendar where the lifetime of a grant is added to
a reading of the clock, and nowhere else. So its last two questions tell whether it did. What was
asked before the run matters only if that ended with a grant, for which the next reading of the
clock would then be taken.
-/

namespace ControlPlane

open Program

/-- The last questions were an exchange, which was granted, and the clock, from whose reading on the
lifetime of the grant ends beyond the calendar. -/
def EndsBeyond (trace : List Asked) : Prop :=
  ∃ before request response grant now,
    trace = before ++ [⟨.exchange request, .ok response⟩, ⟨.wallClock, now⟩] ∧
    (Endpoint.Grant.schema.decoder {}).decode? response.body = some grant ∧
    now.addSeconds? (grant.expiresIn.getD ServiceAccountKey.assertionSeconds) = none

namespace EndsBeyond

variable {past : List Asked} {asked : Asked}

theorem concat (h : EndsBeyond (past ++ [asked])) :
    ∃ before request response now,
      past = before ++ [⟨.exchange request, .ok response⟩] ∧ asked = ⟨.wallClock, now⟩ := by
  obtain ⟨before, request, response, grant, now, htrace, -, -⟩ := h
  rw [List.append_cons before] at htrace
  obtain ⟨hpast, hasked⟩ := List.append_inj' htrace rfl
  exact ⟨before, request, response, now, hpast, List.singleton_inj.mp hasked⟩

theorem not_nil : ¬ EndsBeyond [] := by
  rintro ⟨before, request, response, grant, now, htrace, -, -⟩
  simp at htrace

theorem exists_exchange (h : EndsBeyond past) :
    ∃ asked ∈ past, ∃ request, asked.query = .exchange request := by
  obtain ⟨before, request, response, grant, now, rfl, -, -⟩ := h
  exact ⟨⟨.exchange request, .ok response⟩, by simp, request, rfl⟩

theorem not_concat (h : asked.query ≠ .wallClock) : ¬ EndsBeyond (past ++ [asked]) := by
  intro hends
  obtain ⟨before, request, response, now, -, rfl⟩ := hends.concat
  exact h rfl

/-- A grant and a reading of the clock. -/
theorem grant_iff (past : List Asked) (request : Request) {response : Response}
    {grant : Endpoint.Grant}
    (hgrant : (Endpoint.Grant.schema.decoder {}).decode? response.body = some grant)
    (now : Instant) :
    EndsBeyond (past ++ [⟨.exchange request, .ok response⟩] ++ [⟨.wallClock, now⟩]) ↔
      now.addSeconds? (grant.expiresIn.getD ServiceAccountKey.assertionSeconds) = none := by
  constructor
  · rintro ⟨before, otherRequest, otherResponse, otherGrant, later, htrace, hother, hbeyond⟩
    rw [List.append_cons before] at htrace
    obtain ⟨hpast, hclock⟩ := List.append_inj' htrace rfl
    obtain ⟨-, hexchange⟩ := List.append_inj' hpast rfl
    obtain ⟨⟩ := List.singleton_inj.mp hclock
    obtain ⟨⟩ := List.singleton_inj.mp hexchange
    rw [hgrant] at hother
    rwa [Option.some.inj hother]
  · intro hbeyond
    exact ⟨past, request, response, grant, now, by simp, hgrant, hbeyond⟩

theorem append_left (h : EndsBeyond past) (before : List Asked) : EndsBeyond (before ++ past) := by
  obtain ⟨first, request, response, grant, now, rfl, hgrant, hbeyond⟩ := h
  exact ⟨before ++ first, request, response, grant, now, by simp, hgrant, hbeyond⟩

/-- What came before a line of the log does not matter. -/
theorem after_log_iff (before : List Asked) (level : Level) (line : String) :
    EndsBeyond (before ++ ⟨.log level line, ()⟩ :: past) ↔ EndsBeyond past := by
  constructor
  · rintro ⟨first, request, response, grant, now, htrace, hgrant, hbeyond⟩
    rcases List.append_eq_append_iff.mp htrace with ⟨rest, -, hrest⟩ | ⟨rest, -, hrest⟩
    · cases rest with
      | nil => cases hrest
      | cons asked rest =>
          obtain ⟨-, rfl⟩ := List.cons.inj hrest
          exact ⟨rest, request, response, grant, now, rfl, hgrant, hbeyond⟩
    · obtain _ | ⟨asked, _ | ⟨other, rest⟩⟩ := rest <;> simp at hrest
  · intro h
    rw [List.append_cons]
    exact h.append_left _

/-- A run that ends beyond the calendar has left it by a grant. -/
theorem leavesCalendar (h : EndsBeyond past) : LeavesCalendar past := by
  obtain ⟨before, request, response, grant, now, rfl, hgrant, hbeyond⟩ := h
  exact ⟨now, request, response, grant, by simp, by simp, hgrant, hbeyond⟩

end EndsBeyond

/-- No grant waits for a reading of the clock. -/
structure Calm (past : List Asked) : Prop where
  within : ¬ EndsBeyond past
  clock (now : Instant) : ¬ EndsBeyond (past ++ [⟨.wallClock, now⟩])

namespace Calm

variable {past : List Asked}

theorem nil : Calm [] where
  within := EndsBeyond.not_nil
  clock now h := by
    rw [← List.nil_append [_]] at h
    obtain ⟨before, request, response, now, hpast, -⟩ := h.concat
    simp at hpast

theorem concat {asked : Asked} (hwithin : ¬ EndsBeyond (past ++ [asked]))
    (hexchange : ∀ request, asked.query ≠ .exchange request) : Calm (past ++ [asked]) where
  within := hwithin
  clock now h := by
    obtain ⟨before, request, response, now, hpast, -⟩ := h.concat
    obtain rfl := List.singleton_inj.mp (List.append_inj' hpast rfl).2
    exact hexchange request rfl

/-- Neither a log line nor a file is what a grant waits for. -/
theorem append {trace : List Asked} (hpast : Calm past)
    (htrace : ∀ asked ∈ trace,
      asked.query ≠ .wallClock ∧ ∀ request, asked.query ≠ .exchange request) :
    Calm (past ++ trace) := by
  rcases List.eq_nil_or_concat trace with rfl | ⟨before, asked, rfl⟩
  · rwa [List.append_nil]
  · have hasked := htrace asked (by simp)
    rw [List.concat_eq_append, ← List.append_assoc]
    exact concat (EndsBeyond.not_concat hasked.1) hasked.2

end Calm

namespace Attempt

variable {α β : Type} {past : List Asked} {attempt : Attempt α} {next : α → Attempt β}

/-- After what was asked in the past, the attempt leaves the calendar exactly if its run ends
beyond it. -/
def ExactAfter (past : List Asked) (attempt : Attempt α) : Prop :=
  ∀ trace result, attempt.run.Runs trace result →
    (result = .error .outOfCalendar ↔ EndsBeyond (past ++ trace))

theorem exactAfter_pure (h : ¬ EndsBeyond past) (value : α) :
    (pure value : Attempt α).ExactAfter past := by
  intro trace result hrun
  obtain ⟨rfl, rfl⟩ := runs_done_iff.mp hrun
  exact iff_of_false (by simp) (by simpa using h)

theorem exactAfter_fail (h : ¬ EndsBeyond past) (error : Error) :
    (fail error : Attempt α).ExactAfter past := by
  intro trace result hrun
  obtain ⟨rfl, rfl⟩ := runs_done_iff.mp hrun
  exact iff_of_false (by simp) (by simpa using h)

theorem exactAfter_ofExcept (h : ¬ EndsBeyond past) (result : Except Error α) :
    (ofExcept result).ExactAfter past := by
  cases result with
  | ok value => exact exactAfter_pure h value
  | error error => exact exactAfter_fail h error

theorem ExactAfter.within {trace : List Asked} {value : α} (hattempt : attempt.ExactAfter past)
    (hrun : attempt.run.Runs trace (.ok value)) : ¬ EndsBeyond (past ++ trace) := by
  rw [← hattempt trace _ hrun]
  simp

theorem ExactAfter.bind (hattempt : attempt.ExactAfter past)
    (hnext : ∀ trace value, attempt.run.Runs trace (.ok value) →
      (next value).ExactAfter (past ++ trace)) :
    (attempt >>= next).ExactAfter past := by
  intro trace result hrun
  rcases runs_bind_iff.mp hrun with
    ⟨failure, hfirst, rfl⟩ | ⟨first, value, second, rfl, hfirst, hsecond⟩
  · rw [← hattempt trace _ hfirst]
    simp
  · rw [← List.append_assoc]
    exact hnext first value hfirst second result hsecond

theorem exactAfter_ask {query : Query} {next : query.Answer → Attempt β}
    (hnext : ∀ answer, (next answer).ExactAfter (past ++ [⟨query, answer⟩])) :
    (liftM (Program.query query) >>= next : Attempt β).ExactAfter past := by
  intro trace result hrun
  obtain ⟨first, answer, second, rfl, hasked, hrest⟩ := runs_lift_bind_iff.mp hrun
  obtain rfl := runs_query_iff.mp hasked
  rw [← List.append_assoc]
  exact hnext answer second result hrest

/-- An attempt that asks for neither clock nor exchange, and does not leave the calendar. -/
theorem exactAfter_of_calm (hpast : Calm past) (hin : attempt.InCalendar)
    (hasks : attempt.run.Asks fun query =>
      query ≠ .wallClock ∧ ∀ request, query ≠ .exchange request) :
    attempt.ExactAfter past := by
  intro trace result hrun
  exact iff_of_false (hrun.every hin) (hpast.append (hrun.asks hasks)).within

end Attempt

namespace Endpoint

open Attempt

variable {past trace : List Asked}

theorem exactAfter_post {α : Type} {urlText : String} {form : List (String × String)}
    {next : Response → Attempt α} (hpast : ¬ EndsBeyond past)
    (hnext : ∀ request response,
      (next response).ExactAfter (past ++ [⟨.exchange request, .ok response⟩])) :
    (post urlText form >>= next).ExactAfter past := by
  apply ExactAfter.bind
  · intro trace result hrun
    rcases runs_post hrun with
      ⟨⟨error, rfl⟩, rfl | ⟨request, answer, rfl⟩⟩ | ⟨request, response, rfl, rfl, -⟩
    · exact iff_of_false (by simp) (by simpa using hpast)
    · exact iff_of_false (by simp) (EndsBeyond.not_concat (by simp))
    · exact iff_of_false (by simp) (EndsBeyond.not_concat (by simp))
  · intro trace response hrun
    obtain ⟨request, rfl, -⟩ := runs_post_iff.mp hrun
    exact hnext request response

theorem exactAfter_grantOf (hpast : ¬ EndsBeyond past) (response : Response) :
    (grantOf response).ExactAfter past := by
  unfold grantOf
  cases (Grant.schema.decoder {}).decode? response.body with
  | none => exact exactAfter_fail hpast _
  | some grant => exact exactAfter_pure hpast grant

variable (past) (request : Request) {response : Response} {grant : Grant}
  (hgrant : (Grant.schema.decoder {}).decode? response.body = some grant)

include hgrant in
/-- **The expiry of a token.** The one place where a lifetime is added to the clock. -/
theorem exactAfter_lastingToken (text : String) :
    (lastingToken text (grant.expiresIn.getD ServiceAccountKey.assertionSeconds)).ExactAfter
      (past ++ [⟨.exchange request, .ok response⟩]) := by
  apply exactAfter_ask
  intro now trace result hrun
  have hends := EndsBeyond.grant_iff past request hgrant now
  cases hlasting : now.addSeconds? (grant.expiresIn.getD ServiceAccountKey.assertionSeconds) with
  | none =>
      simp only [Token.lasting?, hlasting, Option.map_none] at hrun
      obtain ⟨rfl, rfl⟩ := runs_done_iff.mp hrun
      exact iff_of_true rfl (by simpa using hends.mpr hlasting)
  | some instant =>
      simp only [Token.lasting?, hlasting, Option.map_some] at hrun
      obtain ⟨rfl, rfl⟩ := runs_done_iff.mp hrun
      refine iff_of_false (by simp) fun h => ?_
      have hbeyond := hends.mp (by simpa using h)
      rw [hlasting] at hbeyond
      cases hbeyond

include hgrant in
theorem exactAfter_accessTokenOf :
    (accessTokenOf grant).ExactAfter (past ++ [⟨.exchange request, .ok response⟩]) := by
  have hwithin : ¬ EndsBeyond (past ++ [⟨.exchange request, .ok response⟩]) :=
    EndsBeyond.not_concat (by simp)
  unfold accessTokenOf
  split
  · exact exactAfter_pure hwithin _
  · exact exactAfter_pure hwithin _
  · next text seconds _ hseconds =>
      have hlasting := exactAfter_lastingToken past request hgrant text
      rw [hseconds, Option.getD_some] at hlasting
      exact hlasting.bind fun trace token hrun => exactAfter_pure (hlasting.within hrun) _

end Endpoint

namespace Authenticator

open Attempt

variable {past : List Asked}

/-! ### Sources of tokens -/

theorem Principal.exactAfter_token (principal : Principal) (hpast : ¬ EndsBeyond past) :
    principal.token.ExactAfter past := by
  unfold Principal.token
  apply Endpoint.exactAfter_post hpast
  intro request response
  have hanswered : ¬ EndsBeyond (past ++ [⟨.exchange request, .ok response⟩]) :=
    EndsBeyond.not_concat (by simp)
  dsimp only
  split
  · exact (exactAfter_fail hanswered _).bind fun _ _ hrun => by cases (runs_done_iff.mp hrun).2
  · apply (Endpoint.exactAfter_grantOf hanswered response).bind
    intro nothing grant hgranted
    obtain ⟨rfl, hgrant⟩ := Endpoint.runs_grantOf_iff.mp hgranted
    rw [List.append_nil]
    have haccess := Endpoint.exactAfter_accessTokenOf past request hgrant
    apply haccess.bind
    intro trace token hrun
    have hwithin := haccess.within hrun
    cases token with
    | none => exact exactAfter_fail hwithin _
    | some token => exact exactAfter_pure hwithin _

namespace GoogleAccount

variable (account : GoogleAccount)

variable [Wording]

theorem exactAfter_exchange (hpast : ∀ now, ¬ EndsBeyond (past ++ [⟨.wallClock, now⟩]))
    (claim value : String) : (account.exchange claim value).ExactAfter past := by
  unfold GoogleAccount.exchange
  apply exactAfter_ask
  intro now
  apply (exactAfter_ofExcept (hpast now) _).bind
  intro nothing assertion hsigned
  obtain ⟨rfl, -⟩ := runs_ofExcept_iff.mp hsigned
  rw [List.append_nil]
  apply Endpoint.exactAfter_post (hpast now)
  intro request response
  have hanswered :
      ¬ EndsBeyond (past ++ [⟨.wallClock, now⟩] ++ [⟨.exchange request, .ok response⟩]) :=
    EndsBeyond.not_concat (by simp)
  dsimp only
  split
  · exact (exactAfter_fail hanswered _).bind fun _ _ hrun => by cases (runs_done_iff.mp hrun).2
  · exact Endpoint.exactAfter_grantOf hanswered response

theorem exactAfter_identityToken (hpast : Calm past) :
    account.identityToken.ExactAfter past := by
  unfold GoogleAccount.identityToken
  apply (account.exactAfter_exchange hpast.clock _ _).bind
  intro trace grant hrun
  obtain ⟨now, request, response, -, rfl, -, hgrant⟩ := runs_exchange_iff.mp hrun
  rw [List.append_cons]
  cases grant.idToken with
  | none => exact exactAfter_fail (EndsBeyond.not_concat (by simp)) _
  | some text => exact Endpoint.exactAfter_lastingToken _ request hgrant text

theorem runs_identityToken_ok {trace : List Asked} {token : Token}
    (h : account.identityToken.run.Runs trace (.ok token)) :
    ∃ before now, trace = before ++ [⟨.wallClock, now⟩] := by
  obtain ⟨exchanging, identity, ⟨grant, -, -, hseconds⟩, -, rfl, rfl⟩ :=
    runs_identityToken_iff.mp h
  exact ⟨exchanging, identity.received, by rw [Endpoint.Receipt.readings, hseconds]⟩

theorem exactAfter_accessToken (hpast : ∀ now, ¬ EndsBeyond (past ++ [⟨.wallClock, now⟩])) :
    account.accessToken.ExactAfter past := by
  unfold GoogleAccount.accessToken
  apply (account.exactAfter_exchange hpast _ _).bind
  intro trace grant hrun
  obtain ⟨now, request, response, -, rfl, -, hgrant⟩ := runs_exchange_iff.mp hrun
  rw [List.append_cons]
  have haccess := Endpoint.exactAfter_accessTokenOf (past ++ [⟨.wallClock, now⟩]) request hgrant
  apply haccess.bind
  intro rest token hrest
  have hwithin := haccess.within hrest
  cases token with
  | none => exact exactAfter_fail hwithin _
  | some token => exact exactAfter_pure hwithin _

/-- The second exchange starts where the clock was read for the first token. -/
theorem exactAfter_token (hpast : Calm past) : account.token.ExactAfter past := by
  have hidentity := account.exactAfter_identityToken hpast
  unfold GoogleAccount.token
  apply hidentity.bind
  intro trace identity hrun
  have hwithin := hidentity.within hrun
  cases account.surface with
  | workspace => exact exactAfter_pure hwithin _
  | accounts =>
      have hcalm : Calm (past ++ trace) := by
        obtain ⟨before, now, rfl⟩ := account.runs_identityToken_ok hrun
        rw [← List.append_assoc] at hwithin ⊢
        exact Calm.concat hwithin (by simp)
      have haccess := account.exactAfter_accessToken hcalm.clock
      exact haccess.bind fun rest access hrest => exactAfter_pure (haccess.within hrest) _

end GoogleAccount

/-! ### Authenticators -/

theorem exactAfter_requireHost (config : Config) (method : String) :
    (requireHost config method).ExactAfter [] := by
  unfold requireHost
  cases nonEmpty config.host with
  | none => exact exactAfter_fail EndsBeyond.not_nil _
  | some host => exact exactAfter_pure EndsBeyond.not_nil _

theorem runs_requireHost_ok {config : Config} {method : String} {trace : List Asked}
    (h : (requireHost config method).run.Runs trace (.ok ())) : trace = [] := by
  unfold requireHost at h
  cases hhost : nonEmpty config.host with
  | none =>
      rw [hhost] at h
      cases (runs_done_iff.mp h).2
  | some host =>
      rw [hhost] at h
      exact (runs_done_iff.mp h).1

/-- An authenticator that leaves the calendar exactly if its run ends beyond it. -/
def Exact (authenticator : Authenticator) : Prop :=
  ∀ config trace found, (authenticator.resolve config).Runs trace found →
    (found.2 = .error .outOfCalendar ↔ EndsBeyond trace)

theorem exact_ofReader {name : String} {find : Config → Attempt (Option Signer)}
    (h : ∀ config, (find config).ExactAfter []) : (ofReader name find).Exact := by
  intro config trace found hrun
  exact h config trace _ (runs_ofReader hrun).2

theorem exact_azureClientSecret : azureClientSecret.Exact := by
  apply exact_ofReader
  intro config
  cases principal? config.azure with
  | none => exact exactAfter_pure EndsBeyond.not_nil _
  | some principal =>
      apply ExactAfter.bind (exactAfter_requireHost _ _)
      intro nothing _ hhost
      obtain rfl := runs_requireHost_ok hhost
      apply ExactAfter.bind (principal.exactAfter_token EndsBeyond.not_nil)
      intro fetching token _
      apply exactAfter_ask
      intro _
      have hlogged (line : String) :
          ¬ EndsBeyond ([] ++ [] ++ fetching ++ [⟨.log .info line, ()⟩]) :=
        EndsBeyond.not_concat (by simp)
      apply ExactAfter.bind (exactAfter_ofExcept (hlogged _) _)
      intro nothing signer hsigner
      obtain ⟨rfl, -⟩ := runs_ofExcept_iff.mp hsigner
      exact exactAfter_pure (by simpa using hlogged _) _

variable [Wording]

theorem asks_loadKey_calmly (config : Config) (serviceAccount : String) :
    (loadKey config serviceAccount).run.Asks fun query =>
      query ≠ .wallClock ∧ ∀ request, query ≠ .exchange request := by
  refine (asks_loadKey config serviceAccount).mono fun query hquery => ?_
  cases query with
  | homeDirectory => simp
  | readFile path => simp
  | _ => exact hquery.elim

theorem exact_google (surface : Surface) : (google surface).Exact := by
  apply exact_ofReader
  intro config
  cases nonEmpty config.google.serviceAccount with
  | none => exact exactAfter_pure EndsBeyond.not_nil _
  | some serviceAccount =>
      dsimp only
      split
      · exact exactAfter_pure EndsBeyond.not_nil _
      · apply ExactAfter.bind (exactAfter_requireHost _ _)
        intro nothing _ hhost
        obtain rfl := runs_requireHost_ok hhost
        have hkey := asks_loadKey_calmly config serviceAccount
        apply ExactAfter.bind (exactAfter_of_calm Calm.nil (inCalendar_loadKey ..) hkey)
        intro loading key hloaded
        have hcalm : Calm ([] ++ [] ++ loading) := Calm.nil.append (hloaded.asks hkey)
        apply ExactAfter.bind (GoogleAccount.exactAfter_token _ hcalm)
        intro fetching token _
        apply exactAfter_ask
        intro _
        exact exactAfter_pure (EndsBeyond.not_concat (by simp)) _

/-! ### The chain -/

omit [Wording] in
theorem Exact.leavesByGrant {authenticator : Authenticator} (h : authenticator.Exact) :
    authenticator.LeavesByGrant := by
  intro config trace found hrun hleaves
  exact ((h config trace found hrun).mp hleaves).leavesCalendar

omit [Wording] in
/-- Without an exchange there is nothing to leave the calendar by. -/
theorem LeavesByGrant.exact {authenticator : Authenticator} (h : authenticator.LeavesByGrant)
    (hasks : ∀ config, (authenticator.resolve config).Asks fun query =>
      ∀ request, query ≠ .exchange request) : authenticator.Exact := by
  intro config trace found hrun
  have hasked := hrun.asks (hasks config)
  apply iff_of_false
  · intro hleaves
    obtain ⟨now, request, response, grant, -, hexchange, -⟩ := h config trace found hrun hleaves
    exact hasked _ hexchange request rfl
  · intro hends
    obtain ⟨asked, hmem, request, hexchange⟩ := hends.exists_exchange
    exact hasked asked hmem request hexchange

theorem exact_of_mem_standardChain {authenticator : Authenticator}
    (h : authenticator ∈ standardChain) : authenticator.Exact := by
  simp only [standardChain, List.mem_cons, List.not_mem_nil, or_false] at h
  rcases h with rfl | rfl | rfl | rfl | rfl | rfl
  · apply (leavesByGrant_of_fixed every_direct).exact
    intro config
    refine (asks_direct config).mono ?_
    rintro _ hlog request rfl
    exact hlog
  · exact exact_azureClientSecret
  · apply leavesByGrant_azureCli.exact
    intro config
    refine (asks_azureCli config).mono ?_
    rintro _ hallowed request rfl
    exact hallowed
  · exact exact_google .accounts
  · exact exact_google .workspace
  · apply LeavesByGrant.exact
    · exact leavesByGrant_of_fixed fun config => (every_profile config).mono fun _ => And.left
    · intro config
      refine (asks_profile config).mono ?_
      rintro _ hallowed request rfl
      exact hallowed

end Authenticator

end ControlPlane
