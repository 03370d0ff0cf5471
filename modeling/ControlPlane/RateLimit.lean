import ControlPlane.Config
import ControlPlane.Time.Span

/-!
# Rate limits

A bucket admits requests at a steady rate, and a burst of them after a pause. It keeps one number:
the time at which it would be full again if nothing more came. A request that comes while that time
lies too far ahead has to wait; none is ever dropped.
-/

namespace ControlPlane

/-- The rate, and how many requests may come at once. -/
structure RateLimit where
  perSecond : Nat
  burst : Nat := 1
  deriving DecidableEq, Repr

namespace RateLimit

def standard : RateLimit := ⟨defaultRateLimit, 1⟩

/-- The rate with zeros taken for ones. -/
def effective (limit : RateLimit) : RateLimit :=
  ⟨max limit.perSecond 1, max limit.burst 1⟩

/-- The time between two requests at the steady rate. -/
def interval (limit : RateLimit) : Span :=
  ⟨1000000000 / limit.effective.perSecond⟩

def debugText (limit : RateLimit) : String :=
  Text.debugRecord "RateLimiter"
    [("requests_per_second", toString limit.effective.perSecond)] true

end RateLimit

structure Bucket where
  limit : RateLimit
  /-- When the bucket would be full again; not set before the first request. -/
  fullAt : Option Span := none
  deriving DecidableEq, Repr

namespace Bucket

/-- When the bucket would be full again, as seen by a request at `now`. -/
def horizon (bucket : Bucket) (now : Span) : Nat :=
  match bucket.fullAt with
  | some instant => instant.nanos
  | none => now.nanos + bucket.limit.interval.nanos

/-- The first time at which a request is admitted. -/
def opensAt (bucket : Bucket) (now : Span) : Nat :=
  bucket.horizon now - bucket.limit.interval.nanos * bucket.limit.effective.burst

/-- Admits a request at `now`, or says when to come back. -/
def draw (bucket : Bucket) (now : Span) : Except Span Bucket :=
  if now.nanos < bucket.opensAt now then .error ⟨bucket.opensAt now⟩
  else
    let next := max (bucket.horizon now) now.nanos + bucket.limit.interval.nanos
    .ok { bucket with fullAt := some ⟨next⟩ }

end Bucket

end ControlPlane
