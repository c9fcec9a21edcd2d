/-
Captured output is read line by line. A line ends at a line feed, and a
carriage return right before that line feed belongs to the ending; the
last line needs no ending, and then a carriage return at its end is kept.
-/
import RouteWatch.Text.Basic

namespace RouteWatch.Text

/-- The lines of a text, in order and without their endings. -/
def lines : Text → List Text
  | [] => []
  | '\n' :: s => [] :: lines s
  | '\r' :: '\n' :: s => [] :: lines s
  | c :: s =>
    match lines s with
    | [] => [[c]]
    | line :: rest => (c :: line) :: rest

/-- The lines of `s` that do not mention `part`, joined by line feeds. -/
def withoutLines (s part : Text) : Text :=
  joinWith ['\n'] ((lines s).filter (!mentions part ·))

end RouteWatch.Text
