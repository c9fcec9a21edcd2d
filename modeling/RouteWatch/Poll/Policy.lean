/-
How long to wait for a route: at most so many ticks, with a pause of fixed
length between two of them. No tick at all counts as one, and no pause is
longer than thirty years.
-/
import RouteWatch.Time.Duration

namespace RouteWatch

structure Policy where
  /-- The pause that is wanted between two ticks. -/
  interval : Duration
  maxAttempts : UInt32
  deriving DecidableEq

namespace Policy

/-- Two seconds between fifteen ticks. -/
def default : Policy := ⟨Duration.ofSeconds 2, 15⟩

instance : Inhabited Policy := ⟨default⟩

/-- The number of ticks, at least one. -/
def ticks (policy : Policy) : Nat := max policy.maxAttempts.toNat 1

/-- Thirty years of 365 days. -/
def longestPause : Duration := Duration.ofSeconds (30 * 365 * 86400)

/-- The pause that is made between two ticks. -/
def pause (policy : Policy) : Duration :=
  ⟨min policy.interval.nanoseconds longestPause.nanoseconds⟩

/-- The longest time that can be spent in pauses, unless it is longer than any span. -/
def budget? (policy : Policy) : Option Duration := policy.interval.scale? (policy.ticks - 1)

/-- The complaint when there is no such span. -/
def overflowMessage : Text := "overflow when multiplying duration by scalar".toList

end Policy
end RouteWatch
