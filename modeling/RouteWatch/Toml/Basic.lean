/-
TOML values and the growth of a document. A table remembers how it came to
be, which decides what may still be added to it: a header may open a table
once, also one that so far was only implied by the headers of its
sub-tables; a dotted key may add to tables made by dotted keys; an inline
table and an array of values are closed.
-/
import RouteWatch.Text.Basic

namespace RouteWatch

/-- How a table came to be. -/
inductive TableOrigin where
  /-- By a header of its own. -/
  | headed
  /-- By a header of a table in it. -/
  | implied
  /-- By a dotted key. -/
  | dotted
  | inline
  deriving DecidableEq

/-- A value. Of floats and dates the spelling is kept. -/
inductive Toml where
  | string (s : Text)
  | integer (n : Int)
  | boolean (b : Bool)
  | float (spelling : Text)
  /-- Spelled as a number that is too large or has no digits of its base. A document may hold it
  where nobody looks. -/
  | valueless (spelling : Text)
  | dateTime (spelling : Text)
  | array (items : List Toml)
  | table (origin : TableOrigin) (fields : List (Text × Toml))
  /-- The tables of headers in double brackets. -/
  | tables (items : List (List (Text × Toml)))

namespace Toml

/-- The fields of a table in the order in which they came. -/
abbrev Fields := List (Text × Toml)

mutual

/-- Every number in the value has a value itself. -/
def hasValue : Toml → Bool
  | valueless _ => false
  | array items => itemsHaveValue items
  | table _ fields => fieldsHaveValue fields
  | tables items => tablesHaveValue items
  | _ => true

def itemsHaveValue : List Toml → Bool
  | [] => true
  | item :: items => hasValue item && itemsHaveValue items

def fieldsHaveValue : List (Text × Toml) → Bool
  | [] => true
  | (_, value) :: fields => hasValue value && fieldsHaveValue fields

def tablesHaveValue : List (List (Text × Toml)) → Bool
  | [] => true
  | fields :: rest => fieldsHaveValue fields && tablesHaveValue rest

end

/-- Changes the field of a name, or adds it; nothing when the change is refused. -/
def updateField? (name : Text) (change : Option Toml → Option Toml) : Fields → Option Fields
  | [] => (change none).map fun value => [(name, value)]
  | (key, value) :: fields =>
    if key = name then (change (some value)).map fun value => (key, value) :: fields
    else (updateField? name change fields).map ((key, value) :: ·)

/-- Changes the last item of a list. -/
def updateLast? (change : α → Option α) : List α → Option (List α)
  | [] => none
  | [item] => (change item).map ([·])
  | item :: items => (updateLast? change items).map (item :: ·)

/-- Opens the table of a header, or one more table of a header in double brackets. -/
def define? (isItem : Bool) : (path : List Text) → Fields → Option Fields
  | [], _ => none
  | [name], fields =>
    updateField? name (fun
      | none => some (if isItem then .tables [[]] else .table .headed [])
      | some (.table .implied inner) => if isItem then none else some (.table .headed inner)
      | some (.tables items) => if isItem then some (.tables (items ++ [[]])) else none
      | some _ => none) fields
  | name :: path, fields =>
    updateField? name (fun
      | none => (define? isItem path []).map (.table .implied)
      | some (.table origin inner) =>
        if origin = .inline then none else (define? isItem path inner).map (.table origin)
      | some (.tables items) => (updateLast? (define? isItem path) items).map .tables
      | some _ => none) fields

/-- Assigns a value to a dotted key within one table. -/
def assign? (value : Toml) : (path : List Text) → Fields → Option Fields
  | [], _ => none
  | [name], fields =>
    updateField? name (fun
      | none => some value
      | some _ => none) fields
  | name :: path, fields =>
    updateField? name (fun
      | none => (assign? value path []).map (.table .dotted)
      | some (.table .dotted inner) => (assign? value path inner).map (.table .dotted)
      | some (.table .implied inner) =>
        if path.length = 1 then none else (assign? value path inner).map (.table .implied)
      | some (.tables items) =>
        if path.length = 1 then none else (updateLast? (assign? value path) items).map .tables
      | some _ => none) fields

/-- Assigns a value to a dotted key within the table that a header has opened. -/
def assignUnder? (key : List Text) (value : Toml) : (header : List Text) → Fields → Option Fields
  | [], fields => assign? value key fields
  | name :: header, fields =>
    updateField? name (fun
      | some (.table origin inner) => (assignUnder? key value header inner).map (.table origin)
      | some (.tables items) => (updateLast? (assignUnder? key value header) items).map .tables
      | _ => none) fields

end Toml
end RouteWatch
