/-
The files of a working directory, by name. A look-up tells a directory from
a file that is missing; the null device is an empty file.
-/
import RouteWatch.Keyed
import RouteWatch.Text.Utf8

namespace RouteWatch

abbrev Files := Keyed Bytes

namespace Files

/-- What a name stands for. -/
inductive Entry where
  | bytes (bytes : Bytes)
  | directory
  | missing
  deriving DecidableEq

/-- The name stands for a directory. -/
def isDirectory (name : Text) : Bool :=
  [".", "..", "/", "./", "../"].any (·.toList == name)

/-- Looks a name up; a leading `./` does not matter. -/
def find (files : Files) (name : Text) : Entry :=
  if name = "/dev/null".toList then .bytes []
  else if isDirectory name then .directory
  else
    match files.get? ((Text.after? "./".toList name).getD name) with
    | some bytes => .bytes bytes
    | none => .missing

/-- Why a file cannot be read as text. -/
inductive ReadError where
  | missing
  | directory
  | notText
  deriving DecidableEq

def ReadError.message : ReadError → Text
  | missing => "No such file or directory (os error 2)".toList
  | directory => "Is a directory (os error 21)".toList
  | notText => "stream did not contain valid UTF-8".toList

/-- The text of a file. -/
def read (files : Files) (name : Text) : Except ReadError Text :=
  match files.find name with
  | .missing => .error .missing
  | .directory => .error .directory
  | .bytes bytes =>
    match Utf8.decode? bytes with
    | some text => .ok text
    | none => .error .notText

end Files
end RouteWatch
