import ControlPlane.Proofs.Authenticator.Verdicts

/-!
# Runs that leave the calendar

The one way for an authenticator to come to neither a verdict nor an error is a token endpoint that
grants a lifetime whose end no calendar has. The command line tool and files never lead there; of
what token endpoints lead to, the runs are taken apart here.
-/

namespace ControlPlane

open Program

/-- A token endpoint granted a lifetime whose end, from a clock reading on, is beyond the calendar. -/
def LeavesCalendar (trace : List Asked) : Prop :=
  ∃ now request response grant,
    (⟨.wallClock, now⟩ : Asked) ∈ trace ∧
    (⟨.exchange request, .ok response⟩ : Asked) ∈ trace ∧
    (Endpoint.Grant.schema.decoder {}).decode? response.body = some grant ∧
    now.addSeconds? (grant.expiresIn.getD ServiceAccountKey.assertionSeconds) = none

variable {α β : Type} {trace : List Asked}

theorem LeavesCalendar.mono {wider : List Asked} (h : LeavesCalendar trace)
    (hwider : ∀ asked ∈ trace, asked ∈ wider) : LeavesCalendar wider := by
  obtain ⟨now, request, response, grant, hclock, hexchange, hgrant, hend⟩ := h
  exact ⟨now, request, response, grant, hwider _ hclock, hwider _ hexchange, hgrant, hend⟩

/-- Clock readings and exchanges are effects. -/
theorem LeavesCalendar.effectsOf (h : LeavesCalendar trace) : LeavesCalendar (effectsOf trace) := by
  obtain ⟨now, request, response, grant, hclock, hexchange, hgrant, hend⟩ := h
  refine ⟨now, request, response, grant, ?_, ?_, hgrant, hend⟩
  · exact List.mem_filter.mpr ⟨hclock, by simp [Query.IsLog]⟩
  · exact List.mem_filter.mpr ⟨hexchange, by simp [Query.IsLog]⟩

namespace Attempt

variable {attempt : Attempt α} {next : α → Attempt β}

/-- An attempt that never leaves the calendar. -/
def InCalendar (attempt : Attempt α) : Prop :=
  attempt.run.Every (· ≠ .error .outOfCalendar)

theorem inCalendar_pure (value : α) : (pure value : Attempt α).InCalendar :=
  fun h => by cases h

theorem inCalendar_fail (error : Error) : (fail error : Attempt α).InCalendar :=
  fun h => by cases h

theorem inCalendar_ofExcept (result : Except Error α) : (ofExcept result).InCalendar := by
  cases result with
  | ok value => exact inCalendar_pure value
  | error error => exact inCalendar_fail error

theorem inCalendar_lift (program : Program α) : (liftM program : Attempt α).InCalendar := by
  change (Except.ok <$> program).Every _
  rw [map_eq_pure_bind, Program.every_bind]
  exact every_of_forall (fun value h => by cases h) program

theorem InCalendar.bind (hattempt : attempt.InCalendar) (hnext : ∀ value, (next value).InCalendar) :
    (attempt >>= next).InCalendar := by
  refine every_bind (hattempt.mono fun result hresult => ?_) hnext
  rintro failure rfl h
  exact hresult (by rw [Except.error.inj h])

end Attempt

namespace Endpoint

open Attempt

/-- The request that posts a form, if it can be sent. -/
def Sends (urlText : String) (form : List (String × String)) (request : Request) : Prop :=
  ∃ url, Url.parse urlText = .ok url ∧ url.host.isSome ∧ request = formRequest url form ∧
    wireFault? request.url = none

theorem Sends.posts {urlText : String} {form : List (String × String)} {request : Request}
    (h : Sends urlText form request) : Posts urlText form request := by
  obtain ⟨url, hparse, -, hrequest, -⟩ := h
  exact ⟨url, hparse, hrequest⟩

/-- A form is answered over the wire, or there is an error of having no answer. -/
theorem runs_post {urlText : String} {form : List (String × String)}
    {result : Except Failure Response} (h : (post urlText form).run.Runs trace result) :
    (∃ error, result = .error (.error error)) ∧
        (trace = [] ∨ ∃ request answer, trace = [⟨.exchange request, answer⟩]) ∨
      ∃ request response, trace = [⟨.exchange request, .ok response⟩] ∧ result = .ok response ∧
        Sends urlText form request := by
  unfold post at h
  cases hparse : Url.parse urlText with
  | error error =>
      rw [hparse] at h
      obtain ⟨rfl, rfl⟩ := runs_done_iff.mp h
      exact .inl ⟨⟨_, rfl⟩, .inl rfl⟩
  | ok url =>
      rw [hparse] at h
      dsimp only at h
      split at h
      · obtain ⟨rfl, rfl⟩ := runs_done_iff.mp h
        exact .inl ⟨⟨_, rfl⟩, .inl rfl⟩
      next hhost =>
        obtain ⟨first, answer, second, rfl, hsent, hrest⟩ := runs_lift_bind_iff.mp h
        unfold sendOverWire at hsent
        split at hsent
        · obtain ⟨rfl, rfl⟩ := runs_done_iff.mp hsent
          obtain ⟨rfl, rfl⟩ := runs_done_iff.mp hrest
          exact .inl ⟨⟨_, rfl⟩, .inl rfl⟩
        next hfault =>
          obtain rfl := runs_query_iff.mp hsent
          cases answer with
          | error fault =>
              obtain ⟨rfl, rfl⟩ := runs_done_iff.mp hrest
              exact .inl ⟨⟨_, rfl⟩, .inr ⟨_, _, rfl⟩⟩
          | ok response =>
              obtain ⟨rfl, rfl⟩ := runs_done_iff.mp hrest
              rw [Bool.not_eq_true, Option.isNone_eq_false_iff] at hhost
              exact .inr ⟨_, response, rfl, rfl, url, hparse, hhost, rfl, hfault⟩

theorem runs_post_iff {urlText : String} {form : List (String × String)} {response : Response} :
    (post urlText form).run.Runs trace (.ok response) ↔
      ∃ request, trace = [⟨.exchange request, .ok response⟩] ∧ Sends urlText form request := by
  constructor
  · intro h
    rcases runs_post h with ⟨⟨error, herror⟩, -⟩ | ⟨request, answer, htrace, hanswer, hsends⟩
    · cases herror
    · obtain rfl := Except.ok.inj hanswer
      exact ⟨request, htrace, hsends⟩
  · rintro ⟨_, rfl, url, hparse, hhost, rfl, hfault⟩
    have hsent : (sendOverWire (formRequest url form)).Runs
        [⟨.exchange (formRequest url form), .ok response⟩] (.ok response) := by
      rw [sendOverWire, hfault]
      exact runs_query_iff.mpr rfl
    rw [post, hparse]
    dsimp only
    rw [if_neg (by rwa [Bool.not_eq_true, Option.isNone_eq_false_iff])]
    exact runs_lift_bind_iff.mpr ⟨_, _, [], rfl, hsent, .done _⟩

theorem runs_grantOf_iff {response : Response} {grant : Grant} :
    (grantOf response).run.Runs trace (.ok grant) ↔
      trace = [] ∧ (Grant.schema.decoder {}).decode? response.body = some grant := by
  unfold grantOf
  cases (Grant.schema.decoder {}).decode? response.body with
  | none =>
      constructor
      · intro h
        cases (runs_done_iff.mp h).2
      · rintro ⟨-, ⟨⟩⟩
  | some found =>
      constructor
      · intro h
        obtain ⟨rfl, ⟨⟩⟩ := runs_done_iff.mp h
        exact ⟨rfl, rfl⟩
      · rintro ⟨rfl, ⟨⟩⟩
        exact .done _

theorem runs_lastingToken_iff {text : String} {seconds : Int} {token : Token} :
    (lastingToken text seconds).run.Runs trace (.ok token) ↔
      ∃ now, trace = [⟨.wallClock, now⟩] ∧ Token.lasting? text now seconds = some token := by
  constructor
  · intro h
    obtain ⟨first, now, second, rfl, hclock, hrest⟩ := runs_lift_bind_iff.mp h
    obtain rfl := runs_query_iff.mp hclock
    cases hlasting : Token.lasting? text now seconds with
    | none =>
        rw [hlasting] at hrest
        cases (runs_done_iff.mp hrest).2
    | some lasting =>
        rw [hlasting] at hrest
        obtain ⟨rfl, htoken⟩ := runs_done_iff.mp hrest
        exact ⟨now, rfl, by rw [hlasting, Except.ok.inj htoken]⟩
  · rintro ⟨now, rfl, hlasting⟩
    refine runs_lift_bind_iff.mpr ⟨_, now, [], rfl, runs_query_iff.mpr rfl, ?_⟩
    rw [hlasting]
    exact .done _

end Endpoint

namespace Authenticator

open Attempt

/-- An authenticator that leaves the calendar only for the lifetime of a grant. -/
def LeavesByGrant (authenticator : Authenticator) : Prop :=
  ∀ config trace found, (authenticator.resolve config).Runs trace found →
    found.2 = .error .outOfCalendar → LeavesCalendar trace

theorem leavesByGrant_of_inCalendar {name : String} {find : Config → Attempt (Option Signer)}
    (h : ∀ config, (find config).InCalendar) : (ofReader name find).LeavesByGrant := by
  intro config trace found hrun hleaves
  exact absurd hleaves ((runs_ofReader hrun).2.every (h config))

theorem inCalendar_requireHost (config : Config) (method : String) :
    (requireHost config method).InCalendar := by
  unfold requireHost
  cases nonEmpty config.host with
  | none => exact inCalendar_fail _
  | some host => exact inCalendar_pure _

variable [Wording]

theorem inCalendar_runAzure : runAzure.InCalendar := by
  apply (inCalendar_lift _).bind
  intro _
  apply (inCalendar_lift _).bind
  intro answer
  rcases answer with (_ | message) | output
  · exact inCalendar_pure _
  · exact inCalendar_fail _
  · dsimp only
    cases readPrinted? output.stdout <;> dsimp only <;> split
    all_goals first
      | exact (inCalendar_fail _).bind fun _ => inCalendar_fail _
      | exact (inCalendar_fail _).bind fun _ => inCalendar_pure _
      | exact inCalendar_fail _
      | exact inCalendar_pure _

theorem leavesByGrant_azureCli : azureCli.LeavesByGrant := by
  apply leavesByGrant_of_inCalendar
  intro config
  cases nonEmpty config.azure.resourceId with
  | none => exact inCalendar_pure _
  | some resourceId =>
      apply (inCalendar_requireHost _ _).bind
      intro _
      apply inCalendar_runAzure.bind
      intro token
      cases token with
      | none => exact (inCalendar_lift _).bind fun _ => inCalendar_pure _
      | some token =>
          apply (inCalendar_lift _).bind
          intro _
          exact (inCalendar_ofExcept _).bind fun _ => inCalendar_pure _

/-! ### Google -/

variable {account : GoogleAccount}

/-- The request in which an account asks for a grant at this time, with an assertion of a claim. -/
def GoogleAccount.Asserts (account : GoogleAccount) (claim value : String) (now : Instant)
    (request : Request) : Prop :=
  ∃ assertion, account.key.assertion (now.nanos / Instant.second) claim value = .ok assertion ∧
    Endpoint.Sends account.key.effectiveTokenUri
      [("grant_type", assertionGrant), ("assertion", assertion)] request

/-- A grant that came over the wire, in a successful answer to an assertion of the claim. -/
def GoogleAccount.Grants (account : GoogleAccount) (claim value : String) (exchanging : List Asked)
    (grant : Endpoint.Grant) : Prop :=
  ∃ now request response, account.Asserts claim value now request ∧
    exchanging = [⟨.wallClock, now⟩, ⟨.exchange request, .ok response⟩] ∧
    response.isSuccess = true ∧
    (Endpoint.Grant.schema.decoder {}).decode? response.body = some grant

theorem GoogleAccount.runs_exchange_iff {claim value : String} {grant : Endpoint.Grant} :
    (account.exchange claim value).run.Runs trace (.ok grant) ↔
      account.Grants claim value trace grant := by
  constructor
  · intro h
    obtain ⟨reading, now, _, rfl, hclock, hassertion⟩ := runs_lift_bind_iff.mp h
    obtain rfl := runs_query_iff.mp hclock
    obtain ⟨signing, assertion, _, rfl, hsigned, hposted⟩ := runs_bind_ok hassertion
    obtain ⟨posting, response, rest, rfl, hpost, hrest⟩ := runs_bind_ok hposted
    obtain ⟨request, rfl, hsends⟩ := Endpoint.runs_post_iff.mp hpost
    obtain ⟨rfl, hfound⟩ := runs_ofExcept_iff.mp hsigned
    dsimp only at hrest
    split at hrest
    · cases (runs_done_iff.mp hrest).2
    next hsuccess =>
      obtain ⟨rfl, hgrant⟩ := Endpoint.runs_grantOf_iff.mp hrest
      exact ⟨now, request, response, ⟨assertion, hfound, hsends⟩, rfl, by simpa using hsuccess,
        hgrant⟩
  · rintro ⟨now, request, response, ⟨assertion, hfound, hsends⟩, rfl, hsuccess, hgrant⟩
    have hsigned := runs_ofExcept_iff.mpr ⟨rfl, hfound⟩
    refine runs_lift_bind_iff.mpr ⟨[_], now, _, rfl, runs_query_iff.mpr rfl, ?_⟩
    refine runs_bind_iff.mpr (.inr ⟨[], assertion, _, rfl, hsigned, ?_⟩)
    refine runs_bind_iff.mpr
      (.inr ⟨_, response, [], rfl, Endpoint.runs_post_iff.mpr ⟨request, rfl, hsends⟩, ?_⟩)
    dsimp only
    rw [hsuccess]
    exact Endpoint.runs_grantOf_iff.mpr ⟨rfl, hgrant⟩

theorem inCalendar_loadKey (config : Config) (serviceAccount : String) :
    (loadKey config serviceAccount).InCalendar := by
  unfold loadKey
  cases nonEmpty config.google.credentials with
  | none => exact inCalendar_fail _
  | some credentials =>
      apply (inCalendar_lift _).bind
      intro loaded
      apply (inCalendar_ofExcept _).bind
      intro key
      dsimp only
      split
      · exact (inCalendar_fail _).bind fun _ => inCalendar_pure _
      · exact inCalendar_pure _

/-! ### Direct credentials and profiles -/

omit [Wording] in
theorem leavesByGrant_of_fixed {authenticator : Authenticator}
    (h : ∀ config, (authenticator.resolve config).Every fun found => FixedVerdict found.2) :
    authenticator.LeavesByGrant := by
  intro config trace found hrun hleaves
  have hfixed := hrun.every (h config)
  rw [hleaves] at hfixed
  cases hfixed

end Authenticator

end ControlPlane
