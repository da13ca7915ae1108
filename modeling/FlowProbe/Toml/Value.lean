import FlowProbe.Number.Binary64
import FlowProbe.Text.Quoted

set_option autoImplicit false

namespace FlowProbe.Toml

inductive FloatValue where
  | finite (negative : Bool) (magnitude : Binary64)
  | infinite (negative : Bool)
  | nan
  deriving DecidableEq

def FloatValue.text : FloatValue → String
  | .finite negative magnitude =>
    String.ofList ((if negative then ['-'] else []) ++ magnitude.chars)
  | .infinite negative => if negative then "-inf" else "inf"
  | .nan => "NaN"

inductive Origin where
  -- In braces. Nothing can be added to it.
  | braces
  -- Under a header of its own.
  | header
  -- On the way to the table of another header.
  | implied
  -- On the way to the value of a dotted key.
  | dotted
  deriving DecidableEq, Repr

inductive Value where
  | string (content : String)
  | integer (value : Int)
  | float (value : FloatValue)
  | boolean (value : Bool)
  | dateTime (text : String)
  -- An array of tables grows by a header for each table.
  | array (grows : Bool) (items : List Value)
  | table (origin : Origin) (entries : List (String × Value))

abbrev Entries := List (String × Value)

end FlowProbe.Toml

namespace FlowProbe.Toml

inductive Misfit where
  | wrongType (found wanted : String)
  | outOfRange (value : Int) (wanted : String)
  | tooShort (length : Nat) (wanted : String)
  | unknownField (name : String) (known : List String)
  | unknownVariant (name : String) (known : List String)
  | missingField (name : String)
  | noVariant
  deriving DecidableEq, Repr

namespace Misfit

def ticked (name : String) : String :=
  "`" ++ name ++ "`"

def choice : List String → String
  | [] => "nothing"
  | [name] => ticked name
  | [first, second] => ticked first ++ " or " ++ ticked second
  | names => "one of " ++ String.intercalate ", " (names.map ticked)

def message : Misfit → String
  | .wrongType found wanted => "invalid type: " ++ found ++ ", expected " ++ wanted
  | .outOfRange value wanted =>
    "invalid value: integer " ++ ticked (toString value) ++ ", expected " ++ wanted
  | .tooShort length wanted =>
    "invalid length " ++ toString length ++ ", expected " ++ wanted
  | .unknownField name known =>
    "unknown field " ++ ticked name ++ ", expected " ++ choice known
  | .unknownVariant name known =>
    "unknown variant " ++ ticked name ++ ", expected " ++ choice known
  | .missingField name => "missing field " ++ ticked name
  | .noVariant => "wanted string or table"

end Misfit

-- A value by its kind, with its content if that is short. A date is taken for a table.
def Value.kind : Value → String
  | .string content => "string " ++ Quoted.text content
  | .integer value => "integer " ++ Misfit.ticked (toString value)
  | .float value => "floating point " ++ Misfit.ticked value.text
  | .boolean value => "boolean " ++ Misfit.ticked (toString value)
  | .dateTime _ => "map"
  | .array _ _ => "sequence"
  | .table _ _ => "map"

end FlowProbe.Toml

namespace FlowProbe.Toml.Entries

def replace (key : String) (value : Value) : Entries → Entries
  | [] => []
  | (k, old) :: rest =>
    if k = key then (k, value) :: rest else (k, old) :: replace key value rest

def erase (key : String) (entries : Entries) : Entries :=
  entries.filter fun entry => entry.1 ≠ key

def lastTable? (items : List Value) : Option (List Value × Origin × Entries) :=
  match items.getLast? with
  | some (.table origin entries) => some (items.dropLast, origin, entries)
  | _ => none

/-- Gives a dotted key a value. The last table on its way must have been made by dotted keys. -/
def insert (value : Value) : List String → Entries → Option Entries
  | [], _ => none
  | [key], entries => if (entries.lookup key).isSome then none else some (entries ++ [(key, value)])
  | key :: path, entries =>
    match entries.lookup key with
    | none => (insert value path []).map fun sub => entries ++ [(key, .table .dotted sub)]
    | some (.table origin sub) =>
      if origin = .dotted ∨ (origin = .implied ∧ path.length ≠ 1) then
        (insert value path sub).map fun sub => replace key (.table origin sub) entries
      else none
    | some (.array true items) =>
      if path.length = 1 then none
      else
        match lastTable? items with
        | none => none
        | some (before, origin, sub) => (insert value path sub).map fun sub =>
          replace key (.array true (before ++ [.table origin sub])) entries
    | some _ => none

def within (change : Entries → Option Entries) : List String → Entries → Option Entries
  | [], entries => change entries
  | key :: path, entries =>
    match entries.lookup key with
    | none => (within change path []).map fun sub => entries ++ [(key, .table .implied sub)]
    | some (.table .braces _) => none
    | some (.table origin sub) =>
      (within change path sub).map fun sub => replace key (.table origin sub) entries
    | some (.array true items) =>
      match lastTable? items with
      | none => none
      | some (before, origin, sub) => (within change path sub).map fun sub =>
        replace key (.array true (before ++ [.table origin sub])) entries
    | some _ => none

/-- The header of a table. A table that was only implied moves to the end. -/
def openTable (key : String) (entries : Entries) : Option Entries :=
  match entries.lookup key with
  | none => some (entries ++ [(key, .table .header [])])
  | some (.table .implied sub) => some (erase key entries ++ [(key, .table .header sub)])
  | some _ => none

def openItem (key : String) (entries : Entries) : Option Entries :=
  match entries.lookup key with
  | none => some (entries ++ [(key, .array true [.table .header []])])
  | some (.array true items) =>
    some (replace key (.array true (items ++ [.table .header []])) entries)
  | some _ => none

def atPath (header : String → Entries → Option Entries) (path : List String) (entries : Entries) :
    Option Entries :=
  match path.getLast? with
  | none => none
  | some key => within (header key) path.dropLast entries

end FlowProbe.Toml.Entries
