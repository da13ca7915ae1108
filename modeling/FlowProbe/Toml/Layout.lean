import FlowProbe.Toml.Value

set_option autoImplicit false

namespace FlowProbe.Toml

abbrev Decoder (α : Type) := Value → Except Misfit α

namespace Decoder

def string (wanted : String) : Decoder String
  | .string content => .ok content
  | value => .error (.wrongType value.kind wanted)

def boolean : Decoder Bool
  | .boolean value => .ok value
  | value => .error (.wrongType value.kind "a boolean")

def natural (bound : Nat) (wanted : String) : Decoder Nat
  | .integer value =>
    if 0 ≤ value ∧ value < bound then .ok value.toNat else .error (.outOfRange value wanted)
  | value => .error (.wrongType value.kind wanted)

def named {α : Type} (variants : List (String × α)) (name : String) : Except Misfit α :=
  match variants.lookup name with
  | some variant => .ok variant
  | none => .error (.unknownVariant name (variants.map Prod.fst))

-- A variant by its name, alone or as the only key of a table where nothing follows it.
def variant {α : Type} (variants : List (String × α)) : Decoder α
  | .string name => named variants name
  | .table _ [(name, content)] => do
    let variant ← named variants name
    match content with
    | .table _ [] => .ok variant
    | .array false [] => .ok variant
    | _ => .error .noVariant
  | _ => .error .noVariant

end Decoder

inductive Presence where
  | required
  | listed
  | optional
  deriving DecidableEq, Repr

structure Field (α : Type) where
  name : String
  presence : Presence
  assign : Value → α → Except Misfit α

def Field.of {α β : Type} (name : String) (presence : Presence) (decode : Decoder β)
    (set : β → α → α) : Field α :=
  ⟨name, presence, fun value draft => (decode value).map (set · draft)⟩

structure Layout (α : Type) where
  title : String
  blank : α
  fields : List (Field α)

namespace Layout

variable {α : Type}

def names (layout : Layout α) : List String :=
  layout.fields.map Field.name

def field? (layout : Layout α) (name : String) : Option (Field α) :=
  layout.fields.find? fun field => field.name = name

def assign (layout : Layout α) (draft : α) (entry : String × Value) : Except Misfit α :=
  match layout.field? entry.1 with
  | some field => field.assign entry.2 draft
  | none => .error (.unknownField entry.1 layout.names)

def missing? (layout : Layout α) (entries : Entries) : Option (Field α) :=
  layout.fields.find? fun field =>
    field.presence = .required ∧ !(entries.lookup field.name).isSome

def ofEntries (layout : Layout α) (entries : Entries) : Except Misfit α := do
  let filled ← entries.foldlM layout.assign layout.blank
  match layout.missing? entries with
  | some field => .error (.missingField field.name)
  | none => .ok filled

/-- The values of the fields in their order. Values beyond the last field are ignored. -/
def ofItems (layout : Layout α) (items : List Value) : Except Misfit α := do
  let filled ← (layout.fields.zip items).foldlM
    (fun draft (field, value) => field.assign value draft) layout.blank
  if (layout.fields.drop items.length).all fun field => field.presence = .optional then .ok filled
  else
    .error (.tooShort items.length
      (layout.title ++ " with " ++ toString layout.fields.length ++ " elements"))

def dateKey : String := "$__toml_private_datetime"

def decode (layout : Layout α) : Decoder α
  | .table _ entries => layout.ofEntries entries
  | .dateTime text => layout.ofEntries [(dateKey, .string text)]
  | .array _ items => layout.ofItems items
  | value => .error (.wrongType value.kind layout.title)

end Layout

end FlowProbe.Toml
