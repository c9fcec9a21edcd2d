/-
Blank characters are those with the Unicode property White_Space. Fields of
a dump are trimmed and cut into words by this class, so a no-break space
or an ideographic space separates as a plain one does.
-/
import RouteWatch.Text.Basic

namespace RouteWatch.Text

/-- The character has the property White_Space. -/
def isBlank (c : Char) : Bool :=
  let n := c.toNat
  n == 0x20 || (0x09 ≤ n && n ≤ 0x0D) || n == 0x85 || n == 0xA0 || n == 0x1680 ||
    (0x2000 ≤ n && n ≤ 0x200A) || n == 0x2028 || n == 0x2029 || n == 0x202F || n == 0x205F ||
    n == 0x3000

/-- The text without its leading blanks. -/
def trimStart (s : Text) : Text := s.dropWhile isBlank

/-- The text without its trailing blanks. -/
def trimEnd (s : Text) : Text := (s.reverse.dropWhile isBlank).reverse

/-- The text without blanks at either end. -/
def trim (s : Text) : Text := trimEnd (trimStart s)

/-- The maximal runs of characters that are not blank. -/
def words (s : Text) : List Text := (splitBy isBlank s).filter (!·.isEmpty)

/-- The text is not empty and its first character is blank. -/
def startsBlank : Text → Bool
  | [] => false
  | c :: _ => isBlank c

/-- At least one blank, and then the rest after all of them. -/
def afterBlanks? : Text → Option Text
  | [] => none
  | c :: s => if isBlank c then some (trimStart s) else none

end RouteWatch.Text
