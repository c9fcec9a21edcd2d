/-
JSON values. Whole numbers are exact, every other number is the nearest
binary64 number. The fields of an object stand in the order in which they
were written; `Json.object?` is their meaning as a map, in which the last
field of a name counts.
-/
import RouteWatch.Keyed
import RouteWatch.Text.Count
import RouteWatch.Number.Shortest

namespace RouteWatch

inductive JsonNumber where
  | natural (n : Nat)
  | negative (n : Nat)
  | double (isNegative : Bool) (value : Binary64)
  deriving DecidableEq

inductive Json where
  | null
  | bool (value : Bool)
  | number (value : JsonNumber)
  | string (value : Text)
  | array (items : List Json)
  | object (fields : List (Text × Json))

namespace JsonNumber

/-- The digits without the zeros at their end, and the exponent that makes up for them. -/
def dropZeros : Text → Text := fun digits => (digits.reverse.dropWhile (· == '0')).reverse

/-- A positive number by its significant digits and the place of the point after the first one.
Numbers from `10 ^ -5` to below `10 ^ 16` are written out, the others with a signed exponent. -/
def placePoint (digits : Text) (exponent : Int) : Text :=
  if -5 ≤ exponent && exponent < 0 then
    "0.".toList ++ List.replicate (-exponent - 1).toNat '0' ++ digits
  else if 0 ≤ exponent && exponent ≤ 15 then
    let whole := exponent.toNat + 1
    let padded := digits ++ List.replicate (whole - digits.length) '0'
    let fraction := padded.drop whole
    padded.take whole ++ '.' :: (if fraction.isEmpty then ['0'] else fraction)
  else
    let sign := if exponent < 0 then '-' else '+'
    digits.take 1 ++ (if digits.length ≤ 1 then [] else '.' :: digits.drop 1) ++
      'e' :: sign :: Text.ofNat exponent.natAbs

/-- The shortest text of a binary64 number. -/
def doubleText (value : Binary64) : Text :=
  let (digits, exponent) := value.shortest
  if digits = 0 then "0.0".toList
  else
    let text := Text.ofNat digits
    placePoint (dropZeros text) (exponent + text.length - 1)

/-- The text of a number. -/
def text : JsonNumber → Text
  | natural n => Text.ofNat n
  | negative n => '-' :: Text.ofNat n
  | double isNegative value => (if isNegative then ['-'] else []) ++ doubleText value

end JsonNumber

namespace Json

/-- The fields of an object as a map. -/
def object? : Json → Option (Keyed Json)
  | object fields => some (Keyed.ofList fields)
  | _ => none

/-- The text that a string or a number is. -/
def scalarText? : Json → Option Text
  | string s => some s
  | number n => some n.text
  | _ => none

/-- The name of one of several cases: a text, or an object with that field and nothing in it. -/
def caseName? : Json → Option Text
  | string name => some name
  | object [(name, null)] => some name
  | _ => none

/-- A field of an object. -/
def field? (value : Json) (name : Text) : Option Json := value.object?.bind (·.get? name)

/-- The object of a map. -/
def ofKeyed (fields : Keyed Json) : Json := object fields.entries

end Json
end RouteWatch
