import ControlPlane.Text.Quoted
import ControlPlane.Time.Instant

/-!
# Short-lived tokens

A token counts as expired half a minute before it is, so that a request has time to arrive.
-/

namespace ControlPlane

/-- A token, when it ends, and the headers that go with it. -/
structure Token where
  text : String
  expiresAt : Option Instant := none
  headers : List (String × String) := []
  deriving DecidableEq, Repr

namespace Token

/-- How long before its end a token counts as expired. -/
def margin : Span := Span.ofSeconds 30

/-- A token that ends a number of seconds after `now`; none if that is beyond the calendar. -/
def lasting? (text : String) (now : Instant) (seconds : Int) : Option Token :=
  (now.addSeconds? seconds).map fun instant => { text := text, expiresAt := some instant }

/-- The token with one more header. -/
def withHeader (token : Token) (name value : String) : Token :=
  { token with headers := token.headers ++ [(name, value)] }

/-- Whether a token counts as expired. -/
def isExpired (token : Token) (now : Instant) : Bool :=
  match token.expiresAt with
  | none => false
  | some instant => instant.nanos ≤ (now.after margin).nanos

theorem isExpired_iff {token : Token} {now : Instant} :
    token.isExpired now = true ↔
      ∃ instant, token.expiresAt = some instant ∧ instant.nanos ≤ (now.after margin).nanos := by
  unfold isExpired
  cases token.expiresAt <;> simp

theorem isExpired_mono {token : Token} {now later : Instant} (hle : now.nanos ≤ later.nanos)
    (h : token.isExpired now = true) : token.isExpired later = true := by
  obtain ⟨instant, hinstant, hnow⟩ := isExpired_iff.1 h
  refine isExpired_iff.2 ⟨instant, hinstant, ?_⟩
  simp only [Instant.after] at *
  omega

open Text in
/-- The debug text, which does not show the token. -/
def debugText (token : Token) : String :=
  debugRecord "CachedToken" [
    ("token", quoted "***"),
    ("expires_at", debugOption Instant.text token.expiresAt),
    ("extra_headers", toString token.headers.length)] false

end Token

end ControlPlane
