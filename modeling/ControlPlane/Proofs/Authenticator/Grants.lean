import ControlPlane.Authenticator.Google
import ControlPlane.Proofs.Signer.Alike

/-!
# Tokens of one source in two runs

A token endpoint that is asked in the same way grants tokens with the same end, and a command prints
them so. What the tokens say may differ: nothing that is asked or logged on the way depends on it.
-/

namespace ControlPlane

open Program

variable [Wording]

namespace Endpoint

/-- Answers that are refused in the same words, or grant the same but for the tokens. -/
def SettledAlike (response twin : Response) : Prop :=
  response.GrantsAlike twin ∧ response.complaint? = twin.complaint?

/-- Answers that are refused in other words. -/
def RefusedApart (response twin : Response) : Prop :=
  response.GrantsAlike twin ∧ response.complaint? ≠ twin.complaint?

theorem coupled_sendOverWire (request : Request) :
    Coupled (SameOutcome SettledAlike) (BothOk RefusedApart) (sendOverWire request)
      (sendOverWire request) := by
  unfold sendOverWire
  split
  · exact .done (.error _)
  · refine (coupled_query (.same (.exchange _) rfl)).mono ?_ ?_
    · rintro answer reply ⟨hagree, hcomplaints⟩
      cases hagree with
      | same => exact .refl (fun response => ⟨.refl response, rfl⟩) _
      | exchange => exact .refl (fun response => ⟨.refl response, rfl⟩) _
      | grants _ h => exact .ok ⟨h, hcomplaints⟩
    · rintro answer reply ⟨hagree, hcomplaints⟩
      cases hagree with
      | same => exact absurd rfl hcomplaints
      | exchange => exact absurd rfl hcomplaints
      | grants _ h => exact .mk ⟨h, hcomplaints⟩

theorem coupled_post (urlText : String) (form : List (String × String)) :
    Coupled (SameOutcome SettledAlike) (BothOk RefusedApart) (post urlText form).run
      (post urlText form).run := by
  unfold post
  cases Url.parse urlText with
  | error error => exact .done (.error _)
  | ok url =>
      dsimp only
      split
      · exact .done (.error _)
      · rw [Attempt.run_lift_bind]
        refine (coupled_sendOverWire _).bind ?_ ?_
        · rintro _ _ (fault | hresponse)
          · exact .done (.error _)
          · exact .done (.ok hresponse)
        · rintro _ _ ⟨hresponse⟩
          exact apart_done (.mk hresponse)

/-- What goes on with an answer that is not refused. A refusal is told in its own words. -/
theorem coupled_post_bind {α : Type} {related : α → α → Prop} (urlText : String)
    (form : List (String × String)) {refusal : Response → Error} {next : Response → Attempt α}
    (hrefusal : ∀ response twin : Response, response.status = twin.status →
      (refusal response = refusal twin ↔ response.text = twin.text))
    (hnext : ∀ response twin : Response,
      Option.Rel Grant.Alike (grant? response) (grant? twin) →
        Attempt.Coupled related (next response) (next twin)) :
    Attempt.Coupled related
      (post urlText form >>= fun response =>
        if !response.isSuccess then
          Attempt.fail (refusal response) >>= fun (_ : Unit) => next response
        else next response)
      (post urlText form >>= fun response =>
        if !response.isSuccess then
          Attempt.fail (refusal response) >>= fun (_ : Unit) => next response
        else next response) := by
  refine Coupled.bind (coupled_post urlText form) ?_ ?_
  · rintro _ _ (failure | @⟨response, twin, h, hcomplaint⟩)
    · exact .done (.error failure)
    · cases hsuccess : response.isSuccess with
      | true =>
          simp only [ExceptT.bindCont, ← h.isSuccess_eq, hsuccess]
          exact hnext response twin (h.grant hsuccess)
      | false =>
          have htext : response.text = twin.text := by
            simpa [Response.complaint?, ← h.isSuccess_eq, hsuccess] using hcomplaint
          simp only [ExceptT.bindCont, ← h.isSuccess_eq, hsuccess]
          rw [(hrefusal response twin h.status).mpr htext]
          exact Attempt.coupled_fail _
  · rintro _ _ @⟨response, twin, h, hcomplaint⟩
    cases hsuccess : response.isSuccess with
    | true => simp [Response.complaint?, ← h.isSuccess_eq, hsuccess] at hcomplaint
    | false =>
        have htext : response.text ≠ twin.text := by
          simpa [Response.complaint?, ← h.isSuccess_eq, hsuccess] using hcomplaint
        simp only [ExceptT.bindCont, ← h.isSuccess_eq, hsuccess]
        exact apart_done (.mk (mt (hrefusal response twin h.status).mp htext))

theorem coupled_grantOf {response twin : Response}
    (h : Option.Rel Grant.Alike (grant? response) (grant? twin)) :
    Attempt.Coupled Grant.Alike (grantOf response) (grantOf twin) :=
  Attempt.coupled_ofOption _ h

theorem coupled_lastingToken {secret twin : String} (h : Interchangeable secret twin)
    (seconds : Int) :
    Attempt.Coupled Token.Alike (lastingToken secret seconds) (lastingToken twin seconds) := by
  refine Attempt.inStep_lift_bind inStep_wallClock ?_
  rintro now _ rfl
  unfold Token.lasting?
  cases now.addSeconds? seconds with
  | none => exact Attempt.coupled_throw _
  | some instant => exact Attempt.coupled_pure ⟨h, rfl, .nil⟩

theorem coupled_accessTokenOf {grant twin : Grant} (h : grant.Alike twin) :
    Attempt.Coupled (Option.Rel Token.Alike) (accessTokenOf grant) (accessTokenOf twin) := by
  obtain ⟨secret, idToken, expiresIn⟩ := grant
  obtain ⟨twinSecret, twinId, _⟩ := twin
  obtain ⟨hsecret, -, rfl⟩ := h
  unfold accessTokenOf
  cases hsecret with
  | none => exact Attempt.coupled_pure .none
  | some hsecret =>
      cases expiresIn with
      | none => exact Attempt.coupled_pure (.some ⟨hsecret, rfl, .nil⟩)
      | some seconds =>
          exact (coupled_lastingToken hsecret seconds).bind fun _ _ htoken =>
            Attempt.coupled_pure (.some htoken)

end Endpoint

namespace Authenticator

open Endpoint

theorem Principal.coupled_token (principal : Principal) :
    Attempt.Coupled Token.Alike principal.token principal.token := by
  refine coupled_post_bind _ _ ?_ ?_
  · intro response twin hstatus
    rw [hstatus]
    simp
  · intro response twin hgrants
    refine (coupled_grantOf hgrants).bind ?_
    intro grant other hgrant
    refine (coupled_accessTokenOf hgrant).bind ?_
    rintro _ _ (htoken | _)
    · exact Attempt.coupled_pure htoken
    · exact Attempt.coupled_fail _

/-! ### The command line tool -/

/-- Outputs that fail in the same words, or hold the same but for the token. -/
def OutputsAlike (output twin : CommandOutput) : Prop :=
  output.PrintsAlike twin ∧ output.complaint? = twin.complaint?

/-- Outputs that fail in other words. -/
def OutputsApart (output twin : CommandOutput) : Prop :=
  output.PrintsAlike twin ∧ output.complaint? ≠ twin.complaint?

theorem coupled_runCommand (program : String) (arguments : List String) :
    Coupled (SameOutcome OutputsAlike) (BothOk OutputsApart) (runCommand program arguments)
      (runCommand program arguments) := by
  refine (coupled_query (.same (.runCommand program arguments) rfl)).mono ?_ ?_
  · rintro answer reply ⟨hagree, hcomplaints⟩
    cases hagree with
    | same => exact .refl (fun output => ⟨.refl output, rfl⟩) _
    | prints _ _ h => exact .ok ⟨h, hcomplaints⟩
  · rintro answer reply ⟨hagree, hcomplaints⟩
    cases hagree with
    | same => exact absurd rfl hcomplaints
    | prints _ _ h => exact .mk ⟨h, hcomplaints⟩

/-- What comes of an output: its complaint is an error, and without one there is a token. -/
def readOutput (output : CommandOutput) : Attempt (Option Token) :=
  match output.complaint? with
  | some words => Attempt.fail (azureError words)
  | none => return readPrinted? output.stdout

theorem succeeded_of_complaint? {output : CommandOutput} (h : output.complaint? = none) :
    output.succeeded = true := by
  unfold CommandOutput.complaint? at h
  split at h
  · assumption
  · cases h

theorem runAzure_eq :
    runAzure = (do
      (Program.debug ("Running " ++ azureProgram ++ " " ++ " ".intercalate azureArguments) :
        Program Unit)
      match ← (Program.runCommand azureProgram azureArguments : Program _) with
      | .error .notInstalled => return none
      | .error (.other message) => Attempt.fail (azureError message)
      | .ok output => readOutput output) := by
  unfold runAzure readOutput CommandOutput.complaint?
  congr
  funext _
  congr
  funext answer
  split
  · rfl
  · rfl
  · next output =>
      dsimp only
      cases output.succeeded with
      | false => rfl
      | true => cases readPrinted? output.stdout <;> rfl

theorem coupled_runAzure : Attempt.Coupled (Option.Rel Token.Alike) runAzure runAzure := by
  rw [runAzure_eq]
  refine Attempt.inStep_lift_bind (inStep_log ..) ?_
  intro _ _ _
  refine Attempt.coupled_lift_bind (coupled_runCommand ..) ?_ ?_
  · rintro _ _ (fault | @⟨output, twin, h, hcomplaint⟩)
    · cases fault with
      | notInstalled => exact Attempt.coupled_pure .none
      | other message => exact Attempt.coupled_fail _
    · dsimp only
      unfold readOutput
      rw [← hcomplaint]
      cases hwords : output.complaint? with
      | some words => exact Attempt.coupled_fail _
      | none => exact Attempt.coupled_pure (h.token (succeeded_of_complaint? hwords))
  · rintro _ _ @⟨output, twin, h, hcomplaint⟩
    obtain ⟨words, others, hwords, hothers, hne⟩ :=
      exists_words_ne h.isSome_complaint? hcomplaint
    dsimp only
    unfold readOutput
    rw [hwords, hothers]
    exact apart_done (.mk fun herrors => hne (Error.command.inj herrors).2)

/-- The program was installed before. -/
theorem coupled_azureCliToken : Attempt.Coupled Token.Alike azureCliToken azureCliToken := by
  refine coupled_runAzure.bind ?_
  rintro _ _ (htoken | _)
  · exact Attempt.coupled_pure htoken
  · exact Attempt.coupled_fail _

namespace GoogleAccount

theorem coupled_exchange (account : GoogleAccount) (claim value : String) :
    Attempt.Coupled Grant.Alike (account.exchange claim value) (account.exchange claim value) := by
  refine Attempt.inStep_lift_bind inStep_wallClock ?_
  rintro now _ rfl
  refine (Attempt.coupled_ofExcept (.refl Eq.refl _)).bind ?_
  rintro assertion _ rfl
  refine coupled_post_bind _ _ ?_ fun _ _ => coupled_grantOf
  intro response twin hstatus
  rw [hstatus]
  simp

theorem coupled_identityToken (account : GoogleAccount) :
    Attempt.Coupled Token.Alike account.identityToken account.identityToken := by
  refine (account.coupled_exchange _ _).bind ?_
  rintro ⟨accessToken, idToken, expiresIn⟩ ⟨twinAccess, twinId, _⟩ ⟨-, hsecret, rfl⟩
  cases hsecret with
  | none => exact Attempt.coupled_fail _
  | some hsecret => exact coupled_lastingToken hsecret _

theorem coupled_accessToken (account : GoogleAccount) :
    Attempt.Coupled Token.Alike account.accessToken account.accessToken := by
  refine (account.coupled_exchange _ _).bind ?_
  intro grant other hgrant
  refine (coupled_accessTokenOf hgrant).bind ?_
  rintro _ _ (htoken | _)
  · exact Attempt.coupled_pure htoken
  · exact Attempt.coupled_fail _

omit [Wording] in
/-- The access token goes into a header, whose name is the same in both runs. -/
theorem joinTokens_alike {identity access twin other : Token} (hidentity : identity.Alike twin)
    (haccess : access.Alike other) :
    (joinTokens identity access).Alike (joinTokens twin other) where
  text := hidentity.text
  expiresAt := by
    unfold joinTokens
    rw [hidentity.expiresAt, haccess.expiresAt]
    rfl
  headers := List.rel_append hidentity.headers (.cons ⟨rfl, haccess.text⟩ .nil)

theorem coupled_token (account : GoogleAccount) :
    Attempt.Coupled Token.Alike account.token account.token := by
  refine account.coupled_identityToken.bind ?_
  intro identity twin hidentity
  cases account.surface with
  | workspace => exact Attempt.coupled_pure hidentity
  | accounts =>
      exact account.coupled_accessToken.bind fun _ _ haccess =>
        Attempt.coupled_pure (joinTokens_alike hidentity haccess)

end GoogleAccount

end Authenticator

end ControlPlane
