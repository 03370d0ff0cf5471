import ControlPlane.Proofs.Client.Departures
import ControlPlane.Proofs.Signer.Freshness
import ControlPlane.Surroundings.Wording

/-!
# Whether the credential of an attempt is still good

A request is signed once, and all its attempts carry the token of that time. So the token is good on
the first attempt and on every one that starts within half a minute of it. A retry that starts later
carries the same token, whether or not that has ended.
-/

namespace ControlPlane

open Program

variable {α : Type}

/-- A token that a signer keeps, or that its source gives in this world. -/
def World.Supplies (world : World) (signer : TokenSigner) (token : Token) : Prop :=
  token = signer.cached ∨ ∃ course, (world.play signer.source.run course).1 = .ok token

/-- What is known of the attempts of a send that was signed with a token when the clock stood here. -/
structure Carries (world : World) (budget : Span) (signer : TokenSigner) (token : Token)
    (signed : Span) (departures : List Departure) : Prop where
  supplied : world.Supplies signer token
  /-- When signing was over, the token had more than half a minute left. -/
  fresh : token.isExpired (world.timeAt signed) = false
  /-- The first attempt starts right after signing. -/
  first : departures.head?.map Departure.start = some signed
  within : ∀ departure ∈ departures, departure.start.nanos ≤ signed.nanos + budget.nanos
  /-- Retries send what was sent before. -/
  one_request : ∀ first ∈ departures, ∀ second ∈ departures, first.request = second.request
  bearer : TokenSigner.LeavesAuthorization token signer.headers → ∀ departure ∈ departures,
    departure.request.headers.values .authorization = [⟨"Bearer " ++ token.text, true⟩]
  live : ∀ departure ∈ departures, departure.start.nanos ≤ signed.nanos + Token.margin.nanos →
    token.IsLive (world.timeAt departure.start)

namespace World

variable {world : World} {course : Course} {signer : TokenSigner} {client : Client}

theorem live_of_start {token : Token} {signed start : Span}
    (hfresh : token.isExpired (world.timeAt signed) = false)
    (hstart : start.nanos ≤ signed.nanos + Token.margin.nanos) :
    token.IsLive (world.timeAt start) := by
  apply Token.isLive_of_not_isExpired hfresh
  simp only [timeAt, Instant.after]
  omega

/-- The attempts of an exchange of a request that was signed just now. -/
theorem carries_exchange (client : Client) (request : Request) {token : Token}
    (hreplay : request.body ≠ .streamed) (hsupplied : world.Supplies signer token)
    (hfresh : token.isExpired (world.timeAt course.clock) = false)
    (hbearer : TokenSigner.LeavesAuthorization token signer.headers →
      request.headers.values .authorization = [⟨"Bearer " ++ token.text, true⟩]) :
    ∃ departures,
      (world.play (client.exchange request) course).2.departures =
        course.departures ++ departures ∧
      Carries world client.retry.budget signer token course.clock departures := by
  obtain ⟨starts, hdepartures, hfirst, hwithin⟩ := world.departures_exchange course client hreplay
  have hone : ∀ departure ∈ starts.map fun start => (⟨start, request⟩ : Departure),
      departure.request = request ∧ departure.start ∈ starts := by
    intro departure hdeparture
    obtain ⟨start, hstart, rfl⟩ := List.mem_map.mp hdeparture
    exact ⟨rfl, hstart⟩
  refine ⟨_, hdepartures, ?_⟩
  constructor
  case supplied => exact hsupplied
  case fresh => exact hfresh
  case first => rw [List.head?_map, hfirst, Option.map_some, Option.map_some]
  case within =>
    intro departure hdeparture
    exact hwithin _ (hone departure hdeparture).2
  case one_request =>
    intro first hfirst second hsecond
    rw [(hone first hfirst).1, (hone second hsecond).1]
  case bearer =>
    intro hleaves departure hdeparture
    rw [(hone departure hdeparture).1]
    exact hbearer hleaves
  case live =>
    intro departure _ hstart
    exact live_of_start hfresh hstart

/-- The attempts of a program that signs and sends: none if it fails before the first. -/
def SendsSigned (world : World) (program : Program (Client × Except Failure α)) (course : Course)
    (budget : Span) (signer : TokenSigner) : Prop :=
  ∃ departures,
    (world.play program course).2.departures = course.departures ++ departures ∧
      ((departures = [] ∧ ∃ failure, (world.play program course).1.2 = .error failure) ∨
        ∃ token signed, Carries world budget signer token signed departures)

theorem sendsSigned_signAndExchange {resolved : Resolved} {request : Request}
    (hrule : resolved.signer.rule = .refreshing signer) (hsource : signer.source.run.AttemptFree)
    (hfresh : world.GivesFresh signer.source) (hreplay : request.body ≠ .streamed) :
    world.SendsSigned (client.signAndExchange resolved request) course client.retry.budget
      signer := by
  have hquiet : (world.play signer.freshToken course).2.departures = course.departures := by
    have h := world.departures_play_of_attemptFree course
      (TokenSigner.attemptFree_sign hsource request.headers)
    simpa only [TokenSigner.sign, play_bind, pure_eq_done, play_done] using h
  unfold SendsSigned Client.signAndExchange Signer.sign
  simp only [hrule, TokenSigner.sign, play_bind, pure_eq_done, play_done, headers_freshToken]
  cases hsigned : (TokenSigner.conclude request.headers signer.headers
      (world.play signer.freshToken course).1.2).outcome with
  | error failure => exact ⟨[], by simp [hquiet], .inl ⟨rfl, failure, rfl⟩⟩
  | ok _ =>
      cases htoken : (world.play signer.freshToken course).1.2 with
      | error failure =>
          -- Without a token nothing is signed.
          rw [htoken] at hsigned
          cases hsigned
      | ok token =>
          rw [htoken] at hsigned
          obtain ⟨hleft, hsupplied⟩ := fresh_of_freshToken hfresh htoken
          have hbearer (hleaves : TokenSigner.LeavesAuthorization token signer.headers) :=
            TokenSigner.authorization_setToken hleaves hsigned
          obtain ⟨departures, hdepartures, hcarries⟩ := carries_exchange
            { client with
              session := client.session.withSigner
                ⟨resolved.signer.kind, .refreshing (world.play signer.freshToken course).1.1⟩ }
            { request with
              headers := (TokenSigner.setToken request.headers token signer.headers).headers }
            hreplay (hsupplied.imp_right fun hgives => ⟨_, hgives⟩) hleft hbearer
          refine ⟨departures, ?_, .inr ⟨token, _, hcarries⟩⟩
          rw [hquiet] at hdepartures
          simp only [play_bind, play_done]
          exact hdepartures

/-- What is done before changes nothing as long as it makes no attempt. -/
theorem SendsSigned.after {β : Type} {program : Program β}
    {next : β → Program (Client × Except Failure α)} {budget : Span}
    (hquiet : (world.play program course).2.departures = course.departures)
    (h : world.SendsSigned (next (world.play program course).1) (world.play program course).2 budget
      signer) :
    world.SendsSigned (program >>= next) course budget signer := by
  unfold SendsSigned at h ⊢
  rw [hquiet] at h
  rw [play_bind]
  exact h

theorem SendsSigned.of_error {failure : Failure} {budget : Span} (client : Client) :
    world.SendsSigned (.done (client, (.error failure : Except Failure α))) course budget signer :=
  ⟨[], (List.append_nil _).symm, .inl ⟨rfl, failure, rfl⟩⟩

/-- What is made of the answer is no matter of the attempts. -/
theorem SendsSigned.read {program : Program (Client × Except Failure Response)} {budget : Span}
    (h : world.SendsSigned program course budget signer)
    (reader : Client → Response → Except Failure α) :
    world.SendsSigned (program >>= fun result => .done (result.1, result.2.bind (reader result.1)))
      course budget signer := by
  obtain ⟨departures, hdepartures, hcases⟩ := h
  refine ⟨departures, by rw [play_bind, play_done]; exact hdepartures, hcases.imp_left ?_⟩
  rintro ⟨hnone, failure, hfailure⟩
  refine ⟨hnone, failure, ?_⟩
  rw [play_bind, play_done, hfailure]
  rfl

variable [Wording]

/-- **What the attempts of a send carry.** Those who authenticate and sign make no attempts of their
own, so all that depart are the send's. -/
theorem sendsSigned_send {resolved : Resolved} {method : Method} {path : String}
    {body : Option Json.Value} {decoder : Json.Decoder α}
    (hfree : client.session.AttemptFree)
    (hresolved : (world.play client.session.authenticate course).1.2 = .ok resolved)
    (hrule : resolved.signer.rule = .refreshing signer) (hfresh : world.GivesFresh signer.source) :
    world.SendsSigned (client.send method path body decoder) course client.retry.budget signer := by
  obtain ⟨trace, departures, hruns, hdepartures, hattempts⟩ :=
    world.runs_play course client.session.authenticate
  rcases hplay : world.play client.session.authenticate course with ⟨⟨session, outcome⟩, later⟩
  rw [hplay] at hruns hdepartures hresolved
  obtain rfl : outcome = .ok resolved := hresolved
  have hsession := Session.authenticated_of_runs hfree hruns
  have hsource : signer.source.run.AttemptFree := by
    have hsigner := hsession.attemptFree.resolved resolved (hsession.resolved resolved rfl)
    simpa only [Signer.AttemptFree, hrule] using hsigner
  have hquiet : later.departures = course.departures := by
    rw [hsession.no_attempt, List.map_eq_nil_iff] at hattempts
    rw [hdepartures, hattempts, List.append_nil]
  unfold Client.send Client.authenticate
  rw [bind_assoc]
  apply SendsSigned.after (by rw [hplay]; exact hquiet)
  simp only [hplay, pure_eq_done, done_bind]
  apply SendsSigned.after (by rfl)
  cases hprepare : Client.prepare resolved.host method path body with
  | error error => exact SendsSigned.of_error _
  | ok request =>
      have hsent : world.SendsSigned
          (Client.signAndExchange { client with session := session } resolved request)
          (world.play Program.permit later).2 client.retry.budget signer :=
        sendsSigned_signAndExchange hrule hsource hfresh
          (Client.body_ne_of_prepare hprepare)
      exact hsent.read fun client response =>
        (Call.read decoder client.detail.truncation response.body).mapError .error

end World

/-! ### A retry with a token that has ended -/

/-- A world in which everything takes a minute and no attempt is answered. -/
def sluggish : World where
  epoch := ⟨0⟩
  script _ := {
    answers := fun
      | .attempt _ => .error (.timeout 60000)
      | query => Answers.bare query
    length := Span.ofSeconds 60 }

/-- A signer that keeps a token for two minutes, and whose source gives tokens for an hour. -/
def twoMinuteSigner : TokenSigner where
  source := Endpoint.lastingToken "t" 3600
  cached := { text := "k", expiresAt := some ⟨120 * Instant.second⟩ }

def twoMinuteResolved : Resolved where
  host := "https://[::1]"
  authenticator := "azure-cli"
  signer := ⟨.azureCli, .refreshing twoMinuteSigner⟩

def twoMinuteClient : Client :=
  let client := Client.standard {}
  { client with session := { client.session with resolved := some twoMinuteResolved } }

def patientSend : Program (Client × Except Failure Unit) :=
  twoMinuteClient.send .get "/x" none Json.Decoder.unit

theorem sendsSigned_send_patient :
    sluggish.SendsSigned patientSend { clock := Span.zero } twoMinuteClient.retry.budget
        twoMinuteSigner ∧
      (sluggish.play patientSend { clock := Span.zero }).2.departures.length = 5 := by
  have hsource : twoMinuteSigner.source.run.AttemptFree := by
    apply Endpoint.asks_lastingToken
    rfl
  have hfree : twoMinuteClient.session.AttemptFree := by
    constructor
    · exact (Session.attemptFree_start {}).chain
    · rintro resolved ⟨⟩
      exact hsource
  exact ⟨World.sendsSigned_send hfree rfl rfl (World.givesFresh_lastingToken _ _ (by decide)),
    by decide +kernel⟩

/-- The second attempt carries a token that has ended. -/
theorem exists_not_isLive :
    sluggish.GivesFresh twoMinuteSigner.source ∧
      ∃ departure ∈ (sluggish.play patientSend { clock := Span.zero }).2.departures,
        departure.request.headers.values .authorization =
            [⟨"Bearer " ++ twoMinuteSigner.cached.text, true⟩] ∧
          ¬ twoMinuteSigner.cached.IsLive (sluggish.timeAt departure.start) :=
  ⟨World.givesFresh_lastingToken _ _ (by decide), by decide +kernel⟩

end ControlPlane
