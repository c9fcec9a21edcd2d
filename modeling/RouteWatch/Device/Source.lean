/-
Sources of dumps. A source runs a command on a device and answers with its
output or a final error; it carries a state, and every call gives the next
one.
-/
import RouteWatch.Device.Channel
import RouteWatch.Device.Error

namespace RouteWatch

/-- One command for one device. -/
structure Call where
  device : Text
  channel : Channel
  command : Text
  deriving DecidableEq

/-- How calls are answered from a state. -/
abbrev Source (σ : Type) := Call → σ → Except CallError Text × σ

end RouteWatch
