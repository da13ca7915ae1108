import FlowProbe.Toml.Numeral
import FlowProbe.Toml.Quotation
import FlowProbe.Toml.Value

set_option autoImplicit false

namespace FlowProbe.Toml

-- The depth that is too much, of values and of keys.
def depthLimit : Nat := 80

abbrev Reader (α : Type) := List Char → Option (α × List Char)

def skipBlank (source : List Char) : List Char :=
  source.dropWhile isBlankChar

def skipComment : List Char → List Char
  | '#' :: rest => rest.dropWhile isPlain
  | source => source

def endOfLine? (source : List Char) : Option (List Char) :=
  match skipComment (skipBlank source) with
  | [] => some []
  | rest => newline? rest

def skipLines : Nat → List Char → Option (List Char)
  | 0, source => some source
  | limit + 1, source =>
    match skipBlank source with
    | '#' :: rest => (newline? (rest.dropWhile isPlain)).bind (skipLines limit)
    | '\n' :: rest => skipLines limit rest
    | '\r' :: rest => (newline? ('\r' :: rest)).bind (skipLines limit)
    | rest => some rest

def isBareKeyChar (c : Char) : Bool :=
  c.isAlphanum || c = '-' || c = '_'

def keyPart? (source : List Char) : Option (String × List Char) :=
  match source.head? with
  | some '"' | some '\'' =>
    (Quotation.line? source).map fun (body, rest) => (String.ofList body, rest)
  | _ =>
    let name := source.takeWhile isBareKeyChar
    if name.isEmpty then none else some (String.ofList name, source.dropWhile isBareKeyChar)

def keyParts? : Nat → List Char → Option (List String × List Char)
  | 0, _ => none
  | limit + 1, source => do
    let (part, rest) ← keyPart? (skipBlank source)
    match skipBlank rest with
    | '.' :: rest =>
      let (parts, rest) ← keyParts? limit rest
      return (part :: parts, rest)
    | rest => return ([part], rest)

def key? (source : List Char) : Option (List String × List Char) :=
  keyParts? (depthLimit - 1) source

def items (value : Reader Value) : Nat → List Char → Option (List Value × List Char)
  | 0, _ => none
  | limit + 1, source => do
    let source ← skipLines source.length source
    match source with
    | ']' :: rest => return ([], rest)
    | _ =>
      let (item, rest) ← value source
      match ← skipLines rest.length rest with
      | ',' :: rest =>
        let (more, rest) ← items value limit rest
        return (item :: more, rest)
      | ']' :: rest => return ([item], rest)
      | _ => none

def pair? (value : Reader Value) (source : List Char) :
    Option ((List String × Value) × List Char) := do
  let (key, rest) ← key? source
  match rest with
  | '=' :: rest =>
    let (value, rest) ← value (skipBlank rest)
    return ((key, value), rest)
  | _ => none

def pairs (value : Reader Value) : Nat → Entries → List Char → Option (Entries × List Char)
  | 0, _, _ => none
  | limit + 1, entries, source => do
    let ((key, value'), rest) ← pair? value source
    let entries ← Entries.insert value' key entries
    match skipBlank rest with
    | ',' :: rest => pairs value limit entries rest
    | '\x7d' :: rest => return (entries, rest)
    | _ => none

def braces (value : Reader Value) (source : List Char) : Option (Entries × List Char) :=
  match skipBlank source with
  | '\x7d' :: rest => some ([], rest)
  | source => pairs value source.length [] source

def word? (word : String) (value : Value) (source : List Char) : Option (Value × List Char) :=
  if word.toList.isPrefixOf source then some (value, source.drop word.length) else none

def value? : Nat → Reader Value
  | depth, source =>
    match source with
    | [] => none
    | c :: rest =>
      if c = '"' ∨ c = '\'' then
        (Quotation.read? source).map fun (body, rest) => (.string (String.ofList body), rest)
      else if c = '[' then
        match depth with
        | 0 => none
        | depth + 1 => (items (value? depth) (rest.length + 1) rest).map fun (items, rest) =>
            (.array false items, rest)
      else if c = '\x7b' then
        match depth with
        | 0 => none
        | depth + 1 => (braces (value? depth) rest).map fun (entries, rest) =>
            (.table .braces entries, rest)
      else if c = 't' then word? "true" (.boolean true) source
      else if c = 'f' then word? "false" (.boolean false) source
      else if c = 'i' ∨ c = 'n' ∨ c = '+' ∨ c = '-' ∨ c.isDigit then numeral? source
      else none

/-- A document as far as it has been read: the table that the last header has opened, and all
entries. -/
structure Draft where
  path : List String
  entries : Entries

namespace Draft

def header? (open_ : String → Entries → Option Entries) (closing : List Char) (draft : Draft)
    (source : List Char) : Option (Draft × List Char) := do
  let (path, rest) ← key? source
  let entries ← Entries.atPath open_ path draft.entries
  if closing.isPrefixOf rest then
    let rest ← endOfLine? (rest.drop closing.length)
    return (⟨path, entries⟩, rest)
  else none

def entry? (draft : Draft) (source : List Char) : Option (Draft × List Char) := do
  let ((key, value), rest) ← pair? (value? (depthLimit - 1)) source
  let rest ← endOfLine? rest
  let entries ← Entries.within (Entries.insert value key) draft.path draft.entries
  return ({ draft with entries }, rest)

def lines : Nat → Draft → List Char → Option Entries
  | 0, _, _ => none
  | limit + 1, draft, source =>
    match skipBlank source with
    | [] => some draft.entries
    | '#' :: rest => (endOfLine? ('#' :: rest)).bind (lines limit draft)
    | '[' :: '[' :: rest => do
      let (draft, rest) ← draft.header? Entries.openItem [']', ']'] rest
      lines limit draft rest
    | '[' :: rest => do
      let (draft, rest) ← draft.header? Entries.openTable [']'] rest
      lines limit draft rest
    | '\n' :: rest => lines limit draft rest
    | '\r' :: rest => (newline? ('\r' :: rest)).bind (lines limit draft)
    | source => do
      let (draft, rest) ← draft.entry? source
      lines limit draft rest

end Draft

-- The mark that a text may begin with.
def byteOrderMark : Char := '\ufeff'

def read? (text : String) : Option Entries :=
  let source := text.toList
  let source := if source.head? = some byteOrderMark then source.drop 1 else source
  Draft.lines (source.length + 1) ⟨[], []⟩ source

end FlowProbe.Toml
