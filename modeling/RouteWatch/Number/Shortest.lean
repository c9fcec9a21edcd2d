/-
The shortest decimal that reads back as a binary64 number: the fewest
significant digits of any decimal between the two midpoints to the number's
neighbours (the midpoints too when the significand is even), and of those
digits the ones nearest to the number.
-/
import RouteWatch.Number.Binary64

namespace RouteWatch.Binary64

/-- Four times the lower midpoint, the value and the upper midpoint, in units of a quarter of the
last place. -/
def quarters (x : Binary64) : Nat × Nat × Nat :=
  let below := if x.significand = Nat.pow 2 52 && minExponent < x.exponent then 1 else 2
  (4 * x.significand - below, 4 * x.significand, 4 * x.significand + 2)

/-- Numerator and denominator of `10 ^ k`. -/
def powerOfTen (k : Int) : Nat × Nat := (Nat.pow 10 k.toNat, Nat.pow 10 (-k).toNat)

/-- `digits * 10 ^ k` reads back as the number. -/
def readsBack (x : Binary64) (digits : Nat) (k : Int) : Bool :=
  let (low, _, high) := x.quarters
  let (up2, down2) := powerOfTwo (x.exponent - 2)
  let (up10, down10) := powerOfTen k
  let candidate := digits * up10 * down2
  let lower := low * up2 * down10
  let upper := high * up2 * down10
  if x.significand % 2 = 0 then lower ≤ candidate && candidate ≤ upper
  else lower < candidate && candidate < upper

/-- The least `p` with the number below `10 ^ p`, looked for downwards from `start`. -/
def decimalPoint (num den : Nat) : (fuel : Nat) → (start : Int) → Int
  | 0, p => p
  | fuel + 1, p =>
    let (up, down) := powerOfTen (p - 1)
    if num * down < den * up then decimalPoint num den fuel (p - 1) else p

/-- The decimal of the grid `10 ^ k` nearest to the number among those that read back. -/
def gridHit? (x : Binary64) (k : Int) : Option Nat :=
  let (num, den) := x.ratio
  let (up, down) := powerOfTen k
  let digits := num * down / (den * up)
  let rest := num * down % (den * up)
  match x.readsBack digits k, x.readsBack (digits + 1) k with
  | true, true =>
    some (if 2 * rest < den * up || (2 * rest = den * up && digits % 2 = 0) then digits
      else digits + 1)
  | true, false => some digits
  | false, true => some (digits + 1)
  | false, false => none

/-- Tries grids of `count`, `count + 1`, … digits below the decimal point `p`. -/
def shortestFrom (x : Binary64) (p : Int) : (fuel count : Nat) → Nat × Int
  | 0, _ => (0, 0)
  | fuel + 1, count =>
    match x.gridHit? (p - count) with
    | some digits => (digits, p - count)
    | none => shortestFrom x p fuel (count + 1)

/-- Digits and decimal exponent of the shortest decimal; seventeen digits always suffice. -/
def shortest (x : Binary64) : Nat × Int :=
  if x.significand = 0 then (0, 0)
  else
    let (num, den) := x.ratio
    shortestFrom x (decimalPoint num den 700 310) 17 1

end RouteWatch.Binary64
