/-
Spans of time, counted in nanoseconds. The longest one has as many whole
seconds as a machine word can hold; a product beyond that has no value.
-/
import RouteWatch.Text.Count

namespace RouteWatch

structure Duration where
  nanoseconds : Nat
  deriving DecidableEq, Repr

namespace Duration

def perSecond : Nat := 1000000000

/-- The number of nanoseconds of the longest span. -/
def maxNanoseconds : Nat := Text.wordMax * perSecond + (perSecond - 1)

/-- The span, unless it is longer than the longest one. -/
def ofNanoseconds? (n : Nat) : Option Duration :=
  if n ≤ maxNanoseconds then some ⟨n⟩ else none

/-- Seconds and nanoseconds together. -/
def make? (seconds nanoseconds : Nat) : Option Duration :=
  ofNanoseconds? (seconds * perSecond + nanoseconds)

def ofSeconds (n : Nat) : Duration := ⟨n * perSecond⟩

def ofMilliseconds (n : Nat) : Duration := ⟨n * 1000000⟩

/-- The span several times over, unless that is too long. -/
def scale? (d : Duration) (n : Nat) : Option Duration := ofNanoseconds? (d.nanoseconds * n)

/-- The whole seconds. -/
def seconds (d : Duration) : Nat := d.nanoseconds / perSecond

/-- The nanoseconds beyond the whole seconds. -/
def subsecond (d : Duration) : Nat := d.nanoseconds % perSecond

/-- A number of units and its decimals, without zeros at their end. -/
def unitText (n unit places : Nat) (name : Text) : Text :=
  let digits := Text.ofNat (n % unit)
  let padded := List.replicate (places - digits.length) '0' ++ digits
  let fraction := (padded.reverse.dropWhile (· == '0')).reverse
  Text.ofNat (n / unit) ++ (if fraction.isEmpty then [] else '.' :: fraction) ++ name

/-- The span in the largest of seconds, milli-, micro- and nanoseconds that it fills. -/
def print (d : Duration) : Text :=
  let n := d.nanoseconds
  if perSecond ≤ n then unitText n perSecond 9 "s".toList
  else if 1000000 ≤ n then unitText n 1000000 6 "ms".toList
  else if 1000 ≤ n then unitText n 1000 3 "µs".toList
  else Text.ofNat n ++ "ns".toList

end Duration
end RouteWatch
