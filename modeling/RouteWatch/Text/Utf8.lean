/-
UTF-8. `Utf8.encode` writes a text as bytes. `Utf8.step` reads the first
character of a byte list or says how many bytes are wrong there: the longest
beginning of a valid sequence counts as one error, any other byte as one.
`Utf8.decode?` refuses wrong bytes and `Utf8.decodeLossy` writes one
replacement character for each error.
-/
import RouteWatch.Text.Basic

namespace RouteWatch

abbrev Bytes := List UInt8

namespace Utf8

/-- The bytes of one character. -/
def encodeChar (c : Char) : Bytes :=
  let n := c.toNat
  if n < 0x80 then [n.toUInt8]
  else if n < 0x800 then [(0xC0 + n / 64).toUInt8, (0x80 + n % 64).toUInt8]
  else if n < 0x10000 then
    [(0xE0 + n / 4096).toUInt8, (0x80 + n / 64 % 64).toUInt8, (0x80 + n % 64).toUInt8]
  else
    [(0xF0 + n / 262144).toUInt8, (0x80 + n / 4096 % 64).toUInt8, (0x80 + n / 64 % 64).toUInt8,
      (0x80 + n % 64).toUInt8]

/-- The bytes of a text. -/
def encode (s : Text) : Bytes := s.flatMap encodeChar

/-- What a lead byte asks for: how many bytes follow, the payload it carries itself, and the
least and greatest value of the byte right after it. -/
def lead? (b : UInt8) : Option (Nat × Nat × UInt8 × UInt8) :=
  let n := b.toNat
  if n < 0x80 then some (0, n, 0x80, 0xBF)
  else if n < 0xC2 then none
  else if n < 0xE0 then some (1, n - 0xC0, 0x80, 0xBF)
  else if n = 0xE0 then some (2, 0, 0xA0, 0xBF)
  else if n = 0xED then some (2, 0xD, 0x80, 0x9F)
  else if n < 0xF0 then some (2, n - 0xE0, 0x80, 0xBF)
  else if n = 0xF0 then some (3, 0, 0x90, 0xBF)
  else if n < 0xF4 then some (3, n - 0xF0, 0x80, 0xBF)
  else if n = 0xF4 then some (3, 4, 0x80, 0x8F)
  else none

/-- Reads the `count` bytes that a lead byte asks for. The answer holds the payload, or nothing
when a byte is wrong, and the number of bytes that were right. -/
def tail (lo hi : UInt8) (payload : Nat) : (count : Nat) → Bytes → Option Nat × Nat
  | 0, _ => (some payload, 0)
  | _ + 1, [] => (none, 0)
  | count + 1, b :: bytes =>
    if lo ≤ b && b ≤ hi then
      let (value, used) := tail 0x80 0xBF (payload * 64 + (b.toNat - 0x80)) count bytes
      (value, used + 1)
    else (none, 0)

/-- The first character of the bytes, or nothing when they are wrong there, and how many bytes
after the first one belong to it. -/
def step (b : UInt8) (bytes : Bytes) : Option Char × Nat :=
  match lead? b with
  | none => (none, 0)
  | some (count, payload, lo, hi) =>
    let (value, used) := tail lo hi payload count bytes
    (value.map Char.ofNat, used)

/-- The text of the bytes, with U+FFFD for every error. -/
def decodeLossy : Bytes → Text
  | [] => []
  | b :: bytes =>
    let (c, used) := step b bytes
    c.getD '\uFFFD' :: decodeLossy (bytes.drop used)
termination_by bytes => bytes.length
decreasing_by simp only [List.length_drop, List.length_cons]; omega

/-- The text of the bytes, if they are valid. -/
def decode? : Bytes → Option Text
  | [] => some []
  | b :: bytes =>
    match step b bytes with
    | (none, _) => none
    | (some c, used) => (decode? (bytes.drop used)).map (c :: ·)
termination_by bytes => bytes.length
decreasing_by simp only [List.length_drop, List.length_cons]; omega

end Utf8
end RouteWatch
