/-
Double quotes for the shell. Inside them a dollar sign, a backquote, a
double quote, a backslash and a line feed would not stand for themselves,
and each gets a backslash.
-/
import RouteWatch.Text.Basic

namespace RouteWatch.Shell

/-- The character has a meaning of its own between double quotes. -/
def isSpecialQuoted (c : Char) : Bool :=
  c == '$' || c == '\x60' || c == '"' || c == '\\' || c == '\n'

/-- How one character is written between double quotes. -/
def quoteChar (c : Char) : Text := if isSpecialQuoted c then ['\\', c] else [c]

/-- The text as one word between double quotes. -/
def quote (s : Text) : Text := '"' :: s.flatMap quoteChar ++ ['"']

end RouteWatch.Shell
