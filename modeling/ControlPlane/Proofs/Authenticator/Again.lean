import ControlPlane.Proofs.Authenticator.Asks
import ControlPlane.Proofs.Key.Rsa
import ControlPlane.Proofs.Program.Again

/-!
# What authenticators do at another time

The clock is read for the time that an assertion claims and for the end of a token. Neither changes
what an authenticator asks for next, nor why it fails: the one thing that may come of another time
is an end beyond the calendar.
-/

namespace ControlPlane

open Attempt

variable {answers : Answers} {config : Config}

/-- Verdicts that are the same failure, or find a signer both or neither. -/
abbrev SameVerdict : Verdict → Verdict → Prop :=
  SameOutcome (Option.Rel fun _ _ : Signer => True)

theorem SameVerdict.refl (verdict : Verdict) : SameVerdict verdict verdict := by
  apply SameOutcome.refl
  rintro (_ | signer)
  · exact .none
  · exact .some trivial

variable [Wording]

/-! ### Token endpoints -/

namespace Endpoint

theorem again_sendOverWire (hblind : answers.TimeBlind) {request other : Request}
    (h : request.SameButTime other) :
    Program.Again answers Eq (fun _ _ => False) (sendOverWire request) (sendOverWire other) := by
  unfold sendOverWire
  rw [h.url_eq]
  cases wireFault? other.url with
  | some fault => exact Program.again_done rfl
  | none => exact Program.again_exchange hblind h

theorem again_post (hblind : answers.TimeBlind) {urlText : String}
    {form other : List (String × String)}
    (h : ∀ url, (formRequest url form).SameButTime (formRequest url other)) :
    Again answers Eq (post urlText form) (post urlText other) := by
  unfold post
  cases Url.parse urlText with
  | error error => exact again_fail _
  | ok url =>
      dsimp only
      split
      · exact again_fail _
      · apply again_lift_bind (again_sendOverWire hblind (h url))
        rintro answer _ rfl
        cases answer with
        | error fault => exact again_fail _
        | ok response => exact again_pure rfl

theorem again_grantOf (response : Response) :
    Again answers Eq (grantOf response) (grantOf response) := by
  unfold grantOf
  cases (Grant.schema.decoder {}).decode? response.body with
  | none => exact again_fail _
  | some grant => exact again_pure rfl

/-- The end of a token is the one place where another time may leave the calendar. -/
theorem again_lastingToken (text : String) (seconds : Int) :
    Again answers (fun _ _ => True) (lastingToken text seconds) (lastingToken text seconds) := by
  apply again_lift_bind Program.again_wallClock
  intro now later _
  cases Token.lasting? text now seconds with
  | none => exact again_throw_outOfCalendar_left
  | some token =>
      cases Token.lasting? text later seconds with
      | none => exact again_throw_outOfCalendar_right
      | some other => exact again_pure trivial

theorem again_accessTokenOf (grant : Grant) :
    Again answers (Option.Rel fun _ _ => True) (accessTokenOf grant) (accessTokenOf grant) := by
  unfold accessTokenOf
  split
  · exact again_pure .none
  · exact again_pure (.some trivial)
  · exact (again_lastingToken _ _).bind fun _ _ _ => again_pure (.some trivial)

end Endpoint

/-! ### Keys -/

namespace ServiceAccountKey

variable {key : ServiceAccountKey} {rsa : RsaKey} {claim value : String} {now later : Int}

/-- The key that signs, if there is one that passes the checks. -/
def rsa? (key : ServiceAccountKey) : Option RsaKey :=
  (RsaKey.encodingOf? key.privateKey).bind fun encoding =>
    (RsaKey.ofDer? encoding).filter RsaKey.isSound

theorem isSome_rsa?_of_isOk (h : (key.assertion now claim value).isOk) : key.rsa?.isSome := by
  unfold assertion at h
  unfold rsa?
  cases hencoding : RsaKey.encodingOf? key.privateKey with
  | none =>
      rw [hencoding] at h
      cases h
  | some encoding =>
      rw [hencoding] at h
      dsimp only at h
      rw [Option.bind_some]
      split at h
      · cases h
      · next hrsa => rw [hrsa, Option.isSome_some]

/-- A key that is one signs assertions at all times. -/
theorem isOk_assertion_of_genuine (hrsa : key.rsa? = some rsa) (hgenuine : rsa.Genuine) :
    (key.assertion now claim value).isOk := by
  obtain ⟨encoding, hencoding, hrsa⟩ := Option.bind_eq_some_iff.mp hrsa
  have hsound : rsa.isSound := (Option.filter_eq_some_iff.mp hrsa).2
  unfold assertion
  rw [hencoding]
  dsimp only
  rw [hrsa]
  dsimp only
  split
  · next hnone =>
      exact absurd hnone (Option.isSome_iff_ne_none.mp (hgenuine.isSome_sign? hsound _))
  · rfl

/-- A key that signs its assertions at all times or at none. -/
def Steady (key : ServiceAccountKey) : Prop :=
  ∀ claim value now later, (key.assertion now claim value).isOk →
    (key.assertion later claim value).isOk

/-- Whether it is the key or the signature that fails, what is told is said of the encoding. -/
theorem assertion_error_of_encoding {encoding : Bytes} {error : Error}
    (hencoding : RsaKey.encodingOf? key.privateKey = some encoding)
    (h : key.assertion now claim value = .error error) :
    error = .jwt ("Failed to encode JWT: " ++ Wording.signing encoding) := by
  unfold assertion at h
  rw [hencoding] at h
  dsimp only at h
  split at h
  · exact (Except.error.inj h).symm
  · split at h
    · exact (Except.error.inj h).symm
    · cases h

/-- Why a key cannot sign does not depend on what it is to sign. -/
theorem assertion_error_eq {error other : Error} (h : key.assertion now claim value = .error error)
    (hother : key.assertion later claim value = .error other) : error = other := by
  cases hencoding : RsaKey.encodingOf? key.privateKey with
  | none =>
      unfold assertion at h hother
      rw [hencoding] at h hother
      rw [← Except.error.inj h, ← Except.error.inj hother]
  | some encoding =>
      rw [assertion_error_of_encoding hencoding h, assertion_error_of_encoding hencoding hother]

theorem Steady.assertion_again (hsteady : key.Steady) (claim value : String) (now later : Int) :
    SameOutcome
      (fun assertion other => key.assertion now claim value = .ok assertion ∧
        key.assertion later claim value = .ok other)
      (key.assertion now claim value) (key.assertion later claim value) := by
  cases hnow : key.assertion now claim value with
  | error error =>
      cases hlater : key.assertion later claim value with
      | error other =>
          rw [assertion_error_eq hnow hlater]
          exact .error other
      | ok other =>
          have hok := hsteady claim value later now (by rw [hlater]; rfl)
          rw [hnow] at hok
          cases hok
  | ok assertion =>
      cases hlater : key.assertion later claim value with
      | error error =>
          have hok := hsteady claim value now later (by rw [hnow]; rfl)
          rw [hlater] at hok
          cases hok
      | ok other => exact .ok ⟨rfl, rfl⟩

end ServiceAccountKey

/-! ### Sources of tokens -/

namespace Authenticator

theorem Principal.again_token (principal : Principal) (hblind : answers.TimeBlind) :
    Again answers (fun _ _ => True) principal.token principal.token := by
  unfold Principal.token
  apply (Endpoint.again_post hblind fun url => .same _).bind
  rintro response _ rfl
  dsimp only
  split
  · exact again_fail_bind _
  · apply (Endpoint.again_grantOf response).bind
    rintro grant _ rfl
    apply (Endpoint.again_accessTokenOf grant).bind
    rintro _ _ (_ | _)
    · exact again_pure trivial
    · exact again_fail _

namespace GoogleAccount

variable {account : GoogleAccount}

theorem again_exchange (hblind : answers.TimeBlind) (hsteady : account.key.Steady)
    (claim value : String) :
    Again answers Eq (account.exchange claim value) (account.exchange claim value) := by
  unfold GoogleAccount.exchange
  apply again_lift_bind Program.again_wallClock
  intro now later _
  apply (again_ofExcept (hsteady.assertion_again claim value _ _)).bind
  rintro assertion other ⟨hfirst, hsecond⟩
  apply (Endpoint.again_post hblind fun url => .asserts url hfirst hsecond).bind
  rintro response _ rfl
  dsimp only
  split
  · exact again_fail_bind _
  · exact Endpoint.again_grantOf response

theorem again_token (hblind : answers.TimeBlind) (hsteady : account.key.Steady) :
    Again answers (fun _ _ => True) account.token account.token := by
  have hidentity : Again answers (fun _ _ => True) account.identityToken account.identityToken := by
    apply (again_exchange hblind hsteady _ _).bind
    rintro grant _ rfl
    cases grant.idToken with
    | none => exact again_fail _
    | some text => exact Endpoint.again_lastingToken _ _
  have haccess : Again answers (fun _ _ => True) account.accessToken account.accessToken := by
    apply (again_exchange hblind hsteady _ _).bind
    rintro grant _ rfl
    apply (Endpoint.again_accessTokenOf grant).bind
    rintro _ _ (_ | _)
    · exact again_pure trivial
    · exact again_fail _
  apply hidentity.bind
  intro identity other _
  cases account.surface with
  | workspace => exact again_pure trivial
  | accounts => exact haccess.bind fun _ _ _ => again_pure trivial

end GoogleAccount

/-! ### Authenticators -/

/-- Settings and verdicts of two runs that come to the same. -/
def SameFound (found other : Config × Verdict) : Prop :=
  other.1 = found.1 ∧ SameVerdict found.2 other.2

/-- An authenticator that, run again on the same settings, does the same but for the time. -/
def Recurs (answers : Answers) (config : Config) (authenticator : Authenticator) : Prop :=
  Program.Again answers SameFound (fun found other => EitherBeyond found.2 other.2)
    (authenticator.resolve config) (authenticator.resolve config)

theorem recurs_of_timeless {authenticator : Authenticator}
    (h : (authenticator.resolve config).Timeless) : authenticator.Recurs answers config := by
  refine (Program.again_of_timeless h).mono ?_ fun _ _ => False.elim
  rintro found other ⟨rfl, rfl⟩
  exact ⟨rfl, .refl _⟩

theorem recurs_ofReader {name : String} {find : Config → Attempt (Option Signer)}
    (h : Again answers (Option.Rel fun _ _ => True) (find config) (find config)) :
    (ofReader name find).Recurs answers config := by
  refine Program.Again.bind h ?_ ?_
  · intro verdict other hverdicts
    exact Program.again_done ⟨rfl, hverdicts⟩
  · intro verdict other hbeyond
    exact Program.apart_done hbeyond

theorem again_requireHost (config : Config) (method : String) :
    Again answers Eq (requireHost config method) (requireHost config method) := by
  unfold requireHost
  split
  · exact again_fail _
  · exact again_pure rfl

theorem again_announce (line : String) :
    Again answers (fun _ _ => True) (announce line) (announce line) := by
  have htimeless : (announce line).run.Timeless := asks_announce (by simp)
  exact (again_of_timeless htimeless).mono fun _ _ _ => trivial

omit [Wording] in
theorem timeless_direct (config : Config) : (direct.resolve config).Timeless :=
  (asks_direct config).timeless id

omit [Wording] in
/-- A header that a resource id cannot be written in fails whatever the token. -/
theorem sameOutcome_azureSigner (kind : AuthKind) (source : TokenSource) (token other : Token)
    (resourceId : Option String) :
    SameOutcome (fun _ _ => True) (azureSigner kind source token resourceId)
      (azureSigner kind source other resourceId) := by
  unfold azureSigner
  cases resourceId with
  | none => exact .ok trivial
  | some resourceId =>
      simp only [TokenSigner.withHeader]
      cases FixedHeader.ofTexts resourceIdHeader resourceId with
      | error error => exact .error error
      | ok header => exact .ok trivial

theorem recurs_azureClientSecret (hblind : answers.TimeBlind) (config : Config) :
    azureClientSecret.Recurs answers config := by
  apply recurs_ofReader
  cases principal? config.azure with
  | none => exact again_pure .none
  | some principal =>
      apply (again_requireHost config _).bind
      rintro _ _ rfl
      apply (principal.again_token hblind).bind
      intro token other _
      apply (again_announce _).bind
      intro _ _ _
      apply (again_ofExcept (sameOutcome_azureSigner ..)).bind
      intro signer later _
      exact again_pure (.some trivial)

theorem timeless_azureCli (config : Config) : (azureCli.resolve config).Timeless :=
  (asks_azureCli config).timeless id

/-- The key that a service account gives signs its assertions at all times or at none. -/
def SteadyKey (answers : Answers) (config : Config) : Prop :=
  ∀ serviceAccount key, nonEmpty config.google.serviceAccount = some serviceAccount →
    (loadKey config serviceAccount).outcome answers = .ok key → key.Steady

/-- The service account has a key that passes the checks without being an RSA key, and signs an
assertion at one time that it does not sign at another. -/
inductive FickleKey (answers : Answers) (config : Config) : Prop where
  | mk {serviceAccount : String} {key : ServiceAccountKey} {rsa : RsaKey} {claim value : String}
      {now later : Int} (haccount : nonEmpty config.google.serviceAccount = some serviceAccount)
      (hloaded : (loadKey config serviceAccount).outcome answers = .ok key)
      (hrsa : key.rsa? = some rsa) (hgenuine : ¬ rsa.Genuine)
      (hsigned : (key.assertion now claim value).isOk)
      (hunsigned : ¬ (key.assertion later claim value).isOk) : FickleKey answers config

theorem steadyKey_of_not_fickleKey (h : ¬ FickleKey answers config) :
    SteadyKey answers config := by
  intro serviceAccount key haccount hloaded claim value now later hsigned
  by_contra hunsigned
  obtain ⟨rsa, hrsa⟩ :=
    Option.isSome_iff_exists.mp (ServiceAccountKey.isSome_rsa?_of_isOk hsigned)
  refine h (.mk haccount hloaded hrsa (fun hgenuine => hunsigned ?_) hsigned hunsigned)
  exact ServiceAccountKey.isOk_assertion_of_genuine hrsa hgenuine

theorem again_loadKey (config : Config) (serviceAccount : String) :
    Again answers
      (fun key other => (loadKey config serviceAccount).outcome answers = .ok key ∧ other = key)
      (loadKey config serviceAccount) (loadKey config serviceAccount) :=
  again_of_timeless ((asks_loadKey config serviceAccount).timeless id)

theorem recurs_google (surface : Surface) (hblind : answers.TimeBlind)
    (hsteady : SteadyKey answers config) : (google surface).Recurs answers config := by
  apply recurs_ofReader
  cases haccount : nonEmpty config.google.serviceAccount with
  | none => exact again_pure .none
  | some serviceAccount =>
      dsimp only
      split
      · exact again_pure .none
      · apply (again_requireHost config _).bind
        rintro _ _ rfl
        apply (again_loadKey config serviceAccount).bind
        rintro key _ ⟨hloaded, rfl⟩
        apply (GoogleAccount.again_token hblind (hsteady _ _ haccount hloaded)).bind
        intro token other _
        apply (again_announce _).bind
        intro _ _ _
        exact again_pure (.some trivial)

end Authenticator

end ControlPlane
