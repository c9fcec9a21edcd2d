/-
Text is the list of its characters: every reader of the library is a
recursion over that list, and every printer builds one.

Held here are the cuts that all readers share. `splitBy` cuts at every
separator and keeps empty pieces, so it never answers the empty list;
`after?` takes a known beginning off.
-/
namespace RouteWatch

/-- A text, character by character. -/
abbrev Text := List Char

namespace Text

/-- The rest of `s` when it begins with `start`. -/
def after? : (start s : Text) → Option Text
  | [], s => some s
  | _ :: _, [] => none
  | a :: start, b :: s => if a = b then after? start s else none

/-- The text without `finish` at its end, when it ends with it. -/
def before? (finish s : Text) : Option Text :=
  (after? finish.reverse s.reverse).map List.reverse

/-- `s` mentions `part` somewhere. -/
def mentions (part : Text) : Text → Bool
  | [] => part.isEmpty
  | c :: s => (after? part (c :: s)).isSome || mentions part s

/-- The pieces of `s` between the characters of `sep`, empty ones included. -/
def splitBy (sep : Char → Bool) : Text → List Text
  | [] => [[]]
  | c :: s =>
    if sep c then [] :: splitBy sep s
    else match splitBy sep s with
      | [] => [[c]]
      | piece :: pieces => (c :: piece) :: pieces

/-- The pieces of `s` between the occurrences of one character. -/
def splitOn (sep : Char) (s : Text) : List Text := splitBy (· == sep) s

/-- The texts one after the other, with `sep` between neighbours. -/
def joinWith (sep : Text) : List Text → Text
  | [] => []
  | [s] => s
  | s :: t :: rest => s ++ sep ++ joinWith sep (t :: rest)

/-- Letters A to Z become a to z; every other character stays. -/
def lower (s : Text) : Text := s.map Char.toLower

/-- The longest beginning of `s` in the class, and what follows it. -/
def span (p : Char → Bool) (s : Text) : Text × Text := (s.takeWhile p, s.dropWhile p)

theorem after?_eq_some {start s rest : Text} : after? start s = some rest ↔ s = start ++ rest := by
  induction start generalizing s with
  | nil => simp [after?, eq_comm]
  | cons a start ih =>
    cases s with
    | nil => simp [after?]
    | cons b s =>
      by_cases h : a = b
      · simp [after?, h, ih]
      · simp [after?, h, Ne.symm h]

theorem splitBy_ne_nil (sep : Char → Bool) (s : Text) : splitBy sep s ≠ [] := by
  cases s with
  | nil => simp [splitBy]
  | cons c s =>
    rw [splitBy]
    split
    · simp
    · split <;> simp

end Text
end RouteWatch
