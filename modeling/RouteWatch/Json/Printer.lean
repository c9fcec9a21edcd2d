/-
Writing JSON text: on one line without spaces, spread over lines with two
spaces per level, and as a nested term that names the kind of each value.
-/
import RouteWatch.Json.Basic
import RouteWatch.Text.Quoted

namespace RouteWatch.Json

/-- How one character is written inside a string. -/
def stringChar (c : Char) : Text :=
  if c = '"' then ['\\', '"']
  else if c = '\\' then ['\\', '\\']
  else if c = '\x08' then ['\\', 'b']
  else if c = '\x0C' then ['\\', 'f']
  else if c = '\n' then ['\\', 'n']
  else if c = '\r' then ['\\', 'r']
  else if c = '\t' then ['\\', 't']
  else if c.toNat < 0x20 then
    let digits := Nat.toDigits 16 c.toNat
    ['\\', 'u'] ++ List.replicate (4 - digits.length) '0' ++ digits
  else [c]

/-- A string between quotes. -/
def stringText (s : Text) : Text := '"' :: s.flatMap stringChar ++ ['"']

mutual

/-- The value on one line. -/
def compact : Json → Text
  | null => "null".toList
  | bool true => "true".toList
  | bool false => "false".toList
  | number n => n.text
  | string s => stringText s
  | array items => '[' :: compactItems items ++ [']']
  | object fields => '\x7b' :: compactFields fields ++ ['\x7d']

def compactItems : List Json → Text
  | [] => []
  | [item] => compact item
  | item :: items => compact item ++ ',' :: compactItems items

def compactFields : List (Text × Json) → Text
  | [] => []
  | [(name, value)] => stringText name ++ ':' :: compact value
  | (name, value) :: fields =>
    stringText name ++ ':' :: compact value ++ ',' :: compactFields fields

end

/-- A new line at a nesting level. -/
def newLine (level : Nat) : Text := '\n' :: List.replicate (2 * level) ' '

mutual

/-- The value spread over lines, nested values one level deeper. -/
def pretty (level : Nat) : Json → Text
  | array [] => "[]".toList
  | array items => '[' :: prettyItems (level + 1) items ++ newLine level ++ [']']
  | object [] => ['\x7b', '\x7d']
  | object fields => '\x7b' :: prettyFields (level + 1) fields ++ newLine level ++ ['\x7d']
  | null => "null".toList
  | bool true => "true".toList
  | bool false => "false".toList
  | number n => n.text
  | string s => stringText s

def prettyItems (level : Nat) : List Json → Text
  | [] => []
  | [item] => newLine level ++ pretty level item
  | item :: items => newLine level ++ pretty level item ++ ',' :: prettyItems level items

def prettyFields (level : Nat) : List (Text × Json) → Text
  | [] => []
  | [(name, value)] => newLine level ++ stringText name ++ ": ".toList ++ pretty level value
  | (name, value) :: fields =>
    newLine level ++ stringText name ++ ": ".toList ++ pretty level value ++
      ',' :: prettyFields level fields

end

mutual

/-- The value as a term: every scalar under the name of its kind. -/
def term : Json → Text
  | null => "Null".toList
  | bool true => "Bool(true)".toList
  | bool false => "Bool(false)".toList
  | number n => "Number(".toList ++ n.text ++ [')']
  | string s => "String(".toList ++ Text.quoted s ++ [')']
  | array items => "Array [".toList ++ termItems items ++ [']']
  | object fields => "Object \x7b".toList ++ termFields fields ++ ['\x7d']

def termItems : List Json → Text
  | [] => []
  | [item] => term item
  | item :: items => term item ++ ", ".toList ++ termItems items

def termFields : List (Text × Json) → Text
  | [] => []
  | [(name, value)] => Text.quoted name ++ ": ".toList ++ term value
  | (name, value) :: fields =>
    Text.quoted name ++ ": ".toList ++ term value ++ ", ".toList ++ termFields fields

end

end RouteWatch.Json
