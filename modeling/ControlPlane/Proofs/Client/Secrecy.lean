import ControlPlane.Proofs.Client.Attempts
import ControlPlane.Proofs.Session.Alike
import ControlPlane.Surroundings.Wording

/-!
# Logs keep secrets

Take two clients whose settings differ in nothing but what their credentials say, and let both make
the same calls. As long as they are answered alike, their logs agree line by line, at every level,
and their callers are told the same.
-/

namespace ControlPlane

open Program

/-! ### Retries and the wire -/

variable {request twin : Request}

theorem Request.label_eq_of_shown (h : request.shown = twin.shown) :
    RetryPolicy.label request = RetryPolicy.label twin := by
  rw [RetryPolicy.label, method_eq_of_shown h, url_eq_of_shown h, RetryPolicy.label]

section

variable [Wording]

/-- A call over the wire is answered in the same way in both runs. -/
theorem Transport.inStep_overWire (timeout : Span) (hcall : request.IsCall)
    (hshown : request.shown = twin.shown) :
    InStep Eq (overWire timeout request) (overWire timeout twin) := by
  have hsent : InStep Eq (sendOverWire request) (sendOverWire twin) := by
    unfold sendOverWire
    rw [← Request.url_eq_of_shown hshown]
    split
    · exact .done rfl
    · have hsame (answer reply)
          (hagree : Query.Agree (.exchange request) (.exchange twin) answer reply) :
          answer = reply := by
        cases hagree with
        | same => rfl
        | exchange => rfl
        | grants hform _ => exact absurd hcall hform.not_isCall
      refine (inStep_query (.exchange hcall hshown) ?_).mono hsame nofun
      intro answer reply hagree
      obtain rfl := hsame answer reply hagree
      cases answer <;> rfl
  refine hsent.bind ?_
  rintro answer _ rfl
  rcases answer with fault | response
  · exact .done rfl
  · dsimp only
    rw [← Request.method_eq_of_shown hshown, ← Request.url_eq_of_shown hshown]
    apply Coupled.after_log
    exact .done rfl

namespace RetryPolicy

variable (policy : RetryPolicy)

theorem inStep_settle (hshown : request.shown = twin.shown) (started : Span) (number : Nat)
    {again? other? : Option (Unit → Program (Except Error Response))}
    (hagain : Option.Rel (fun again other => InStep Eq (again ()) (other ())) again? other?)
    (outcome : Except Error Response) :
    InStep Eq (policy.settle request started number again? outcome)
      (policy.settle twin started number other? outcome) := by
  have hlabel := Request.label_eq_of_shown hshown
  have hgiveUp (outcome : Except Error Response) :
      InStep Eq (giveUp request number outcome) (giveUp twin number outcome) := by
    unfold giveUp giveUpLine
    rw [hlabel]
    apply Coupled.after_log
    exact .done rfl
  unfold settle
  rw [Request.method_eq_of_shown hshown]
  split
  · next error _ =>
      cases hagain with
      | none => exact hgiveUp _
      | some hagain =>
          refine inStep_steadyClock.bind ?_
          rintro now _ rfl
          dsimp only
          split
          · exact hgiveUp _
          · unfold retryLine
            rw [hlabel]
            apply Coupled.after_log
            refine (inStep_query (.same (.sleep _) rfl) fun _ _ _ => rfl).bind ?_
            intro _ _ _
            exact hagain
  · exact .done rfl

theorem inStep_attemptFrom (hcall : request.IsCall) (hshown : request.shown = twin.shown)
    (started : Span) (number left : Nat) :
    InStep Eq (policy.attemptFrom Program.attempt request started number left)
      (policy.attemptFrom Program.attempt twin started number left) := by
  induction left generalizing number with
  | zero =>
      refine (inStep_attempt hcall hshown).bind ?_
      rintro raw _ rfl
      exact policy.inStep_settle hshown started number .none _
  | succ left ih =>
      refine (inStep_attempt hcall hshown).bind ?_
      rintro raw _ rfl
      exact policy.inStep_settle hshown started number (.some (ih (number + 1))) _

/-- The copies of a request keep the marks of its sensitive values. -/
theorem inStep_execute (hcall : request.IsCall) (hshown : request.shown = twin.shown) :
    InStep Eq (policy.execute Program.attempt request) (policy.execute Program.attempt twin) := by
  have hcopies : request.copy? = none ∧ twin.copy? = none ∨
      request.copy? = some request ∧ twin.copy? = some twin := by
    unfold Request.copy?
    rw [Request.body_eq_of_shown hshown]
    split
    · exact .inl ⟨rfl, rfl⟩
    · exact .inr ⟨rfl, rfl⟩
  refine inStep_steadyClock.bind ?_
  rintro started _ rfl
  rcases hcopies with ⟨hcopy, htwin⟩ | ⟨hcopy, htwin⟩
  · rw [hcopy, htwin]
    exact .done rfl
  · rw [hcopy, htwin]
    exact policy.inStep_attemptFrom hcall hshown started 1 _

end RetryPolicy

/-! ### Clients -/

structure Client.Alike (client twin : Client) : Prop where
  session : client.session.Alike twin.session
  retry : client.retry = twin.retry
  limit : client.limit = twin.limit
  timeout : client.timeout = twin.timeout
  detail : client.detail = twin.detail

namespace Client

variable {α : Type} {client other : Client} {config twinConfig : Config}

/-- What a call leaves, and tells its caller. -/
def EndsAlike (left other : Client × Except Failure α) : Prop :=
  left.1.Alike other.1 ∧ left.2 = other.2

theorem Alike.withSession (h : client.Alike other) {session result : Session}
    (hsession : session.Alike result) :
    Alike { client with session := session } { other with session := result } :=
  { h with session := hsession }

theorem Alike.exchange (h : client.Alike other) (hcall : request.IsCall)
    (hshown : request.shown = twin.shown) :
    InStep Eq (client.exchange request) (other.exchange twin) := by
  unfold Client.exchange
  rw [← h.detail, ← h.retry, ← Journal.requestLine_eq_of_shown hshown]
  apply Coupled.after_log
  refine (client.retry.inStep_execute hcall hshown).bind ?_
  rintro answer _ rfl
  rcases answer with error | response
  · apply Coupled.after_log
    exact .done rfl
  · apply Coupled.after_log
    exact .done rfl

theorem Alike.signAndExchange (h : client.Alike other) {resolved result : Resolved}
    (hresolved : resolved.Alike result) (hcall : request.IsCall) :
    Coupled EndsAlike TellApart (client.signAndExchange resolved request)
      (other.signAndExchange result request) := by
  refine (hresolved.signer.sign rfl).bind ?_ ?_
  · rintro ⟨signer, signed⟩ ⟨twinSigner, twinSigned⟩ ⟨hsigner, hsigned⟩
    have hsession := h.withSession (h.session.withSigner hsigner)
    dsimp only
    rw [← hsigned.outcome]
    rcases signed.outcome with failure | _
    · exact .done ⟨hsession, rfl⟩
    · have hsignedCall : Request.IsCall { request with headers := signed.headers } :=
        hsigned.keeps _ hcall
      have hshown : Request.shown { request with headers := signed.headers } =
          Request.shown { request with headers := twinSigned.headers } := by
        unfold Request.shown
        rw [hsigned.shown]
      refine (hsession.exchange hsignedCall hshown).bind ?_
      rintro answer _ rfl
      exact .done ⟨hsession, rfl⟩
  · rintro ⟨signer, headers, outcome⟩ ⟨twinSigner, others, other⟩ happart
    obtain ⟨herrors⟩ : ErrorsApart outcome other := happart
    exact apart_done (.mk herrors)

omit [Wording] in
theorem isCall_of_prepare {host : String} {method : Method} {path : String}
    {body : Option Json.Value} (h : prepare host method path body = .ok request) :
    request.IsCall := by
  obtain ⟨url, -, hrequest⟩ := request_of_prepare h
  exact (formed_of_request hrequest).accept

theorem Alike.authenticate (h : client.Alike other) :
    Coupled (fun left result => left.1.Alike result.1 ∧
      SameOutcome Resolved.Alike left.2 result.2) TellApart client.authenticate
      other.authenticate := by
  refine h.session.authenticate.bind ?_ ?_
  · rintro _ _ ⟨hsession, houtcome⟩
    exact .done ⟨h.withSession hsession, houtcome⟩
  · intro left result htold
    exact apart_done htold

theorem Alike.send (h : client.Alike other) (method : Method) (path : String)
    (body : Option Json.Value) (decoder : Json.Decoder α) :
    Coupled EndsAlike TellApart (client.send method path body decoder)
      (other.send method path body decoder) := by
  refine h.authenticate.bind ?_ ?_
  · rintro ⟨client, _⟩ ⟨other, _⟩ ⟨hclient, failure | @⟨resolved, result, hresolved⟩⟩
    · exact .done ⟨hclient, rfl⟩
    · refine (inStep_query (.same .permit rfl) fun _ _ _ => rfl).bind ?_
      intro _ _ _
      dsimp only
      rw [← hresolved.host]
      cases hprepare : prepare resolved.host method path body with
      | error error => exact .done ⟨hclient, rfl⟩
      | ok request =>
          refine (hclient.signAndExchange hresolved (isCall_of_prepare hprepare)).bind ?_ ?_
          · rintro ⟨left, answer⟩ ⟨right, _⟩ ⟨hleft, rfl⟩
            have hdetail : left.detail = right.detail := hleft.detail
            dsimp only
            rw [hdetail]
            exact .done ⟨hleft, rfl⟩
          · rintro ⟨left, _⟩ ⟨right, _⟩ ⟨herrors⟩
            exact apart_done (.mk herrors)
  · rintro ⟨client, _⟩ ⟨other, _⟩ ⟨herrors⟩
    exact apart_done (.mk herrors)

/-! ### Any number of calls -/

/-- Sends calls one after another, and tells what each came to. -/
def sendEach (client : Client) : List (Wish α) → Program (Client × List (Except Failure α))
  | [] => return (client, [])
  | wish :: rest => do
    let (client, answer) ← client.send wish.method wish.path wish.body wish.decoder
    let (client, answers) ← client.sendEach rest
    return (client, answer :: answers)

theorem Alike.sendEach (h : client.Alike other) (wishes : List (Wish α)) :
    Coupled (fun left result => left.1.Alike result.1 ∧ left.2 = result.2)
      (fun left result => left.2 ≠ result.2) (client.sendEach wishes) (other.sendEach wishes) := by
  induction wishes generalizing client other with
  | nil => exact .done ⟨h, rfl⟩
  | cons wish rest ih =>
      refine (h.send wish.method wish.path wish.body wish.decoder).bind ?_ ?_
      · rintro ⟨client, answer⟩ ⟨other, _⟩ ⟨hclient, rfl⟩
        refine (ih hclient).bind ?_ ?_
        · rintro ⟨left, answers⟩ ⟨right, _⟩ ⟨hleft, rfl⟩
          exact .done ⟨hleft, rfl⟩
        · rintro ⟨left, answers⟩ ⟨right, others⟩ hne
          exact apart_done fun heq => hne (List.cons.inj heq).2
      · rintro ⟨client, _⟩ ⟨other, _⟩ ⟨herrors⟩
        -- Whatever the later calls come to, the answers to this one differ.
        refine apart_bind fun _ _ => apart_done fun heq => herrors ?_
        exact Failure.error.inj (Except.error.inj (List.cons.inj heq).1)

/-- The calls of a new client. Its attempts go over the wire, or are left to somebody else. -/
def calls (config : Config) (chain : List Authenticator) (retry : RetryPolicy) (limit : RateLimit)
    (wishes : List (Wish α)) (isWired : Bool) : Program (Client × List (Except Failure α)) :=
  let client := ofConfig config chain retry limit
  if isWired then client.overWire (client.sendEach wishes) else client.sendEach wishes

theorem ofConfig_alike (h : config.Alike twinConfig) {chain : List Authenticator}
    (hchain : ∀ authenticator ∈ chain, authenticator.Discreet) (retry : RetryPolicy)
    (limit : RateLimit) :
    (ofConfig config chain retry limit).Alike (ofConfig twinConfig chain retry limit) where
  session := Session.start_alike h hchain
  retry := rfl
  limit := rfl
  timeout := h.same (fun config => (ofConfig config chain retry limit).timeout) fun _ => rfl
  detail := h.same (fun config => (ofConfig config chain retry limit).detail) fun _ => rfl

theorem coupled_calls (h : config.Alike twinConfig) {chain : List Authenticator}
    (hchain : ∀ authenticator ∈ chain, authenticator.Discreet) (retry : RetryPolicy)
    (limit : RateLimit) (wishes : List (Wish α)) (isWired : Bool) :
    Coupled (fun left result => left.1.Alike result.1 ∧ left.2 = result.2)
      (fun left result => left.2 ≠ result.2) (calls config chain retry limit wishes isWired)
      (calls twinConfig chain retry limit wishes isWired) := by
  have halike := ofConfig_alike h hchain retry limit
  unfold calls
  dsimp only
  split
  · unfold overWire
    rw [← halike.timeout]
    refine (halike.sendEach wishes).attemptBy ?_
    intro request twin hcall hshown
    exact Transport.inStep_overWire _ hcall hshown
  · exact halike.sendEach wishes

end Client

end

/-! ### Two tokens, and a call that is attempted with each of them -/

namespace Client

def tokenAt (token : String) : Config :=
  { host := some "h", token := some token, debugHeaders := true }

def azureAt : Config :=
  { host := some "h", azure := { resourceId := some "r" }, debugHeaders := true }

/-- The answers of surroundings in which there is only the command line tool, with a token. -/
def printing (token : String) : Answers
  | .runCommand _ _ => .ok { stdout := Bytes.ofString ("[\"" ++ token ++ "\"]") }
  | query => Answers.bare query

def oneCall (config : Config) : Program (Client × List (Except Failure String)) :=
  calls config Authenticator.standardChain .never .standard [⟨.get, "x", none, Json.Decoder.string⟩]
    false

theorem agree_bare {first second : Query} (h : first.Alike second) :
    first.Agree second (Answers.bare first) (Answers.bare second) := by
  cases h with
  | same => exact .same _ _
  | attempt _ hshown =>
      rw [Answers.bare, Answers.bare, Request.url_eq_of_shown hshown]
      exact .attempt _ _ _
  | exchange _ hshown =>
      rw [Answers.bare, Answers.bare, Request.url_eq_of_shown hshown]
      exact .exchange _ _ _

theorem interchangeable_tokens : Interchangeable "s" "t" := by
  rw [Interchangeable.iff_all]
  decide

open Authenticator in
theorem printsAlike_tokens :
    CommandOutput.PrintsAlike { stdout := Bytes.ofString "[\"s\"]" }
      { stdout := Bytes.ofString "[\"t\"]" } where
  succeeded := rfl
  token _ := by
    have hfirst : readPrinted? (Bytes.ofString "[\"s\"]") = some { text := "s" } := by
      decide +kernel
    have hsecond : readPrinted? (Bytes.ofString "[\"t\"]") = some { text := "t" } := by
      decide +kernel
    rw [hfirst, hsecond]
    exact .some ⟨interchangeable_tokens, rfl, .nil⟩

theorem agree_printing {first second : Query} (h : first.Alike second) :
    first.Agree second (printing "s" first) (printing "t" second) := by
  cases h with
  | same query hquery =>
      cases first with
      | runCommand program arguments => exact .prints _ _ printsAlike_tokens
      | _ => exact agree_bare (.same _ hquery)
  | attempt hcall hshown => exact agree_bare (.attempt hcall hshown)
  | exchange hcall hshown => exact agree_bare (.exchange hcall hshown)

/-- What a signer is beside its secrets. -/
def outward (signer : Signer) : AuthKind × List FixedHeader × Option Instant :=
  match signer.rule with
  | .fixed headers => (signer.kind, headers.map FixedHeader.shown, none)
  | .refreshing inner =>
    (signer.kind, inner.headers.map FixedHeader.shown, inner.cached.expiresAt)

/-- The tool prints a token that has ended, and fails with this token in its words from then on. -/
def failingLater (token : String) (n : Nat) : Answers
  | .runCommand _ _ =>
    if n < 8 then .ok { stdout := Bytes.ofString ("[\"" ++ token ++ "\", null, 0]") }
    else .ok { succeeded := false, stderr := Bytes.ofString ("no more of " ++ token) }
  | query => Answers.bare query

open Authenticator in
theorem agree_failingLater (n : Nat) {first second : Query} (h : first.Alike second) :
    first.Agree second (failingLater "s" n first) (failingLater "t" n second) := by
  have hprinted : CommandOutput.PrintsAlike { stdout := Bytes.ofString "[\"s\", null, 0]" }
      { stdout := Bytes.ofString "[\"t\", null, 0]" } := by
    refine ⟨rfl, fun _ => ?_⟩
    have hfirst : readPrinted? (Bytes.ofString "[\"s\", null, 0]") =
        some { text := "s", expiresAt := some ⟨0⟩ } := by decide +kernel
    have hsecond : readPrinted? (Bytes.ofString "[\"t\", null, 0]") =
        some { text := "t", expiresAt := some ⟨0⟩ } := by decide +kernel
    rw [hfirst, hsecond]
    exact .some ⟨interchangeable_tokens, rfl, .nil⟩
  cases h with
  | same query hquery =>
      cases first with
      | runCommand program arguments =>
          unfold failingLater
          dsimp only
          split
          · exact .prints _ _ hprinted
          · exact .prints _ _ ⟨rfl, nofun⟩
      | _ => exact agree_bare (.same _ hquery)
  | attempt hcall hshown => exact agree_bare (.attempt hcall hshown)
  | exchange hcall hshown => exact agree_bare (.exchange hcall hshown)

end Client

end ControlPlane
