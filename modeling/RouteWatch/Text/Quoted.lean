/-
A text between double quotes, for messages that list commands or show a
mapping. A quote and a backslash are escaped by a backslash, the usual
controls have one letter, and every character that is not plain is written
by its code point in braces.
-/
import RouteWatch.Text.Plain

namespace RouteWatch.Text

/-- How one character is written between quotes. -/
def quotedChar (c : Char) : Text :=
  if c = '\t' then ['\\', 't']
  else if c = '\r' then ['\\', 'r']
  else if c = '\n' then ['\\', 'n']
  else if c = '\x00' then ['\\', '0']
  else if c = '"' || c = '\\' then ['\\', c]
  else if isPlain c then [c]
  else "\\u\x7b".toList ++ Nat.toDigits 16 c.toNat ++ ['\x7d']

/-- The text between quotes. -/
def quoted (s : Text) : Text := '"' :: s.flatMap quotedChar ++ ['"']

/-- A list of texts between brackets, each one quoted. -/
def quotedList (items : List Text) : Text :=
  '[' :: joinWith [',', ' '] (items.map quoted) ++ [']']

end RouteWatch.Text
