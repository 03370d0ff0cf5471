import ControlPlane.Endpoint
import ControlPlane.Proofs.Header
import ControlPlane.Proofs.Program.Course
import ControlPlane.Signer

/-!
# How fresh a token is when a request is signed

Signing takes the kept token if it has more than half a minute left, and else one from the source.
If the source gives only tokens with more than half a minute left, so has the token of every request
that is signed, at the moment when signing is over. The token goes into the `Authorization` header,
unless another header of the signer has that name.
-/

namespace ControlPlane

open Program

namespace Token

/-- A token has not come to its end. -/
def IsLive (token : Token) (now : Instant) : Prop :=
  ∀ instant, token.expiresAt = some instant → now.nanos < instant.nanos

instance (token : Token) (now : Instant) : Decidable (token.IsLive now) :=
  decidable_of_iff (∀ instant ∈ token.expiresAt, now.nanos < instant.nanos) Iff.rfl

theorem not_isExpired_of_lasting? {text : String} {now : Instant} {seconds : Int} {token : Token}
    (h : lasting? text now seconds = some token) (hseconds : 30 < seconds) :
    token.isExpired now = false := by
  obtain ⟨instant, hinstant, rfl⟩ := Option.map_eq_some_iff.mp h
  unfold Instant.addSeconds? Instant.ofNanos? at hinstant
  split at hinstant
  · obtain rfl := Option.some.inj hinstant
    rw [← Bool.not_eq_true, isExpired_iff]
    rintro ⟨instant, ⟨⟩, hle⟩
    simp only [Instant.after, margin, Span.ofSeconds, Instant.second] at hle
    omega
  · cases hinstant

/-- A token does not count as expired as long as it lives half a minute more. -/
theorem not_isExpired_iff {token : Token} {now : Instant} :
    token.isExpired now = false ↔ token.IsLive (now.after margin) := by
  unfold isExpired IsLive
  cases token.expiresAt <;> simp

theorem isLive_of_not_isExpired {token : Token} {now later : Instant}
    (hfresh : token.isExpired now = false) (hlater : later.nanos ≤ (now.after margin).nanos) :
    token.IsLive later := by
  intro instant hinstant
  have hlive := not_isExpired_iff.mp hfresh instant hinstant
  omega

end Token

/-! ### The headers of a token -/

theorem FixedHeader.values_insertAll_of_ne {name : HeaderName} {fixed : List FixedHeader}
    (h : ∀ header ∈ fixed, header.1 ≠ name) (headers : HeaderMap) :
    (insertAll headers fixed).values name = headers.values name := by
  rw [values_insertAll, lastValue?_eq_none_iff.mpr h]

theorem FixedHeader.eq_of_sensitive {text : String} {value : HeaderValue}
    (h : sensitive text = .ok value) : value = ⟨text, true⟩ := by
  unfold sensitive at h
  unfold HeaderValue.ofText? at h
  split at h
  · next found hfound =>
      split at hfound
      · obtain rfl := Option.some.inj hfound
        exact (Except.ok.inj h).symm
      · cases hfound
  · cases h

/-- A header that was made of texts. -/
theorem FixedHeader.eq_of_ofTexts {name value : String} {header : FixedHeader}
    (h : ofTexts name value = .ok header) :
    HeaderName.ofText? name = some header.1 ∧ header.2 = ⟨value, true⟩ := by
  unfold ofTexts FixedHeader.name at h
  cases hname : HeaderName.ofText? name with
  | none =>
      rw [hname] at h
      cases h
  | some found =>
      rw [hname] at h
      cases hvalue : sensitive value with
      | error error =>
          rw [hvalue] at h
          cases h
      | ok text =>
          rw [hvalue] at h
          obtain rfl := Except.ok.inj h
          exact ⟨rfl, eq_of_sensitive hvalue⟩

namespace TokenSigner

theorem values_setTexts_of_ne {name : HeaderName} {texts : List (String × String)}
    (h : ∀ text ∈ texts, HeaderName.ofText? text.1 ≠ some name) (headers : HeaderMap) :
    (setTexts headers texts).headers.values name = headers.values name := by
  induction texts generalizing headers with
  | nil => rfl
  | cons text texts ih =>
      rw [List.forall_mem_cons] at h
      unfold setTexts
      cases hheader : FixedHeader.ofTexts text.1 text.2 with
      | error error => rfl
      | ok header =>
          obtain ⟨hname, -⟩ := FixedHeader.eq_of_ofTexts hheader
          have hne : name ≠ header.1 := by
            rintro rfl
            exact h.1 hname
          exact (ih h.2 _).trans (headers.values_insert_ne hne _)

/-- No header but that of the token's text says who asks. -/
def LeavesAuthorization (token : Token) (fixed : List FixedHeader) : Prop :=
  (∀ text ∈ token.headers, HeaderName.ofText? text.1 ≠ some .authorization) ∧
    ∀ header ∈ fixed, header.1 ≠ .authorization

theorem authorization_setToken {headers : HeaderMap} {token : Token} {fixed : List FixedHeader}
    (hleaves : LeavesAuthorization token fixed)
    (hok : (setToken headers token fixed).outcome = .ok ()) :
    (setToken headers token fixed).headers.values .authorization =
      [⟨"Bearer " ++ token.text, true⟩] := by
  unfold setToken at hok ⊢
  cases hvalue : FixedHeader.sensitive ("Bearer " ++ token.text) with
  | error error => simp [hvalue] at hok
  | ok value =>
      simp only [hvalue] at hok ⊢
      cases hset : (setTexts (headers.insert .authorization value) token.headers).outcome with
      | error failure => simp [hset] at hok
      | ok _ =>
          dsimp only
          rw [FixedHeader.values_insertAll_of_ne hleaves.2, values_setTexts_of_ne hleaves.1,
            HeaderMap.values_insert_self, FixedHeader.eq_of_sensitive hvalue]

end TokenSigner

/-! ### Signing in a world -/

namespace World

variable {world : World} {course : Course} {signer : TokenSigner}

/-- Whenever a source gives a token in this world, that has more than half a minute left. -/
def GivesFresh (world : World) (source : TokenSource) : Prop :=
  ∀ course token, (world.play source.run course).1 = .ok token →
    token.isExpired (world.timeAt (world.play source.run course).2.clock) = false

/-- A source whose tokens last long enough from the moment they are given. -/
theorem givesFresh_lastingToken (world : World) (text : String) {seconds : Int}
    (hseconds : 30 < seconds) : world.GivesFresh (Endpoint.lastingToken text seconds) := by
  intro course token htoken
  rw [Endpoint.lastingToken, Attempt.run_lift_bind, play_bind, play_wallClock] at htoken ⊢
  cases hlasting : Token.lasting? text (world.timeAt course.clock) seconds with
  | none =>
      simp only [hlasting] at htoken
      cases htoken
  | some found =>
      simp only [hlasting] at htoken ⊢
      obtain rfl := Except.ok.inj htoken
      exact Token.not_isExpired_of_lasting? hlasting hseconds

theorem play_freshToken (world : World) (course : Course) (signer : TokenSigner) :
    world.play signer.freshToken course =
      if signer.cached.isExpired (world.timeAt course.clock) then
        match world.play signer.source.run course with
        | (.ok token, later) => (({ signer with cached := token }, .ok token), later)
        | (.error failure, later) => ((signer, .error failure), later)
      else ((signer, .ok signer.cached), course) := by
  by_cases hexpired : signer.cached.isExpired (world.timeAt course.clock) = true
  · rw [if_pos hexpired]
    simp only [TokenSigner.freshToken, Gate.get, TokenSigner.gate, Gate.work, play_bind,
      play_wallClock, hexpired, if_true, play_done, pure_eq_done, play_debug]
    rcases world.play signer.source.run course with ⟨_ | token, later⟩ <;> rfl
  · rw [if_neg hexpired]
    simp only [TokenSigner.freshToken, Gate.get, TokenSigner.gate, play_bind, play_wallClock,
      hexpired, Bool.false_eq_true, if_false, play_done, pure_eq_done]

/-- The token that signing finds has more than half a minute left, kept or not. -/
theorem fresh_of_freshToken {token : Token} (hfresh : world.GivesFresh signer.source)
    (h : (world.play signer.freshToken course).1.2 = .ok token) :
    token.isExpired (world.timeAt (world.play signer.freshToken course).2.clock) = false ∧
      (token = signer.cached ∨ (world.play signer.source.run course).1 = .ok token) := by
  rw [play_freshToken] at h ⊢
  split at h
  · next hexpired =>
      rw [if_pos hexpired]
      have hsource := hfresh course
      rcases hplay : world.play signer.source.run course with ⟨_ | found, later⟩
      · rw [hplay] at h
        cases h
      · rw [hplay] at h hsource
        obtain rfl := Except.ok.inj h
        exact ⟨hsource _ rfl, .inr rfl⟩
  · next hkept =>
      rw [if_neg hkept]
      obtain rfl := Except.ok.inj h
      exact ⟨by simpa using hkept, .inl rfl⟩

theorem headers_freshToken (world : World) (course : Course) (signer : TokenSigner) :
    (world.play signer.freshToken course).1.1.headers = signer.headers := by
  rw [play_freshToken]
  split
  · rcases world.play signer.source.run course with ⟨_ | token, later⟩ <;> rfl
  · rfl

end World

end ControlPlane
