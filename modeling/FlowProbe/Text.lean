set_option autoImplicit false

namespace FlowProbe

def parts (separator : Char) : List Char → List (List Char)
  | [] => [[]]
  | c :: rest =>
    if c = separator then [] :: parts separator rest
    else
      match parts separator rest with
      | [] => [[c]]
      | part :: others => (c :: part) :: others

def isBlank (c : Char) : Bool :=
  let n := c.toNat
  (0x9 ≤ n && n ≤ 0xd) || n == 0x20 || n == 0x85 || n == 0xa0 || n == 0x1680 ||
    (0x2000 ≤ n && n ≤ 0x200a) || n == 0x2028 || n == 0x2029 || n == 0x202f || n == 0x205f ||
    n == 0x3000

def allBlank (source : String) : Bool :=
  source.toList.all isBlank

end FlowProbe

namespace FlowProbe.JsonText

inductive Value where
  | text (content : String)
  | number (value : Nat)
  deriving DecidableEq

def control (c : Char) : List Char :=
  ['\\', 'u', '0', '0', Nat.digitChar (c.toNat / 16), Nat.digitChar (c.toNat % 16)]

def escape (c : Char) : List Char :=
  if c = '"' then ['\\', '"']
  else if c = '\\' then ['\\', '\\']
  else if c = '\x08' then ['\\', 'b']
  else if c = '\x0c' then ['\\', 'f']
  else if c = '\n' then ['\\', 'n']
  else if c = '\r' then ['\\', 'r']
  else if c = '\t' then ['\\', 't']
  else if c.toNat < 0x20 then control c
  else [c]

def quoted (content : List Char) : List Char :=
  '"' :: content.flatMap escape ++ ['"']

def value : Value → List Char
  | .text content => quoted content.toList
  | .number n => Nat.toDigits 10 n

def member (entry : String × Value) : List Char :=
  quoted entry.1.toList ++ ':' :: value entry.2

def members : List (String × Value) → List Char
  | [] => []
  | [entry] => member entry
  | entry :: rest => member entry ++ ',' :: members rest

def object (entries : List (String × Value)) : String :=
  String.ofList ('\x7b' :: members entries ++ ['\x7d'])

end FlowProbe.JsonText

namespace FlowProbe.Terminal

inductive Sequence where
  | outside
  | escape
  | intermediate
  | control
  | deviceEntry
  | deviceParameters
  | deviceIntermediate
  | command
  | passage
  deriving DecidableEq, Repr

def movesOn (c : Char) : Bool :=
  c = '\t' || c = '\n' || c = '\x0c' || c = '\r'

namespace Sequence

/-- The character is part of the text. Short sequences are broken off by what moves on. -/
def shows (sequence : Sequence) (c : Char) : Bool :=
  match sequence with
  | .outside => movesOn c || (0x20 ≤ c.toNat && c.toNat ≠ 0x7f)
  | .escape => movesOn c
  | .intermediate => movesOn c
  | .control => movesOn c
  | _ => false

def afterEscape (c : Char) : Sequence :=
  let n := c.toNat
  if c = '[' then .control
  else if c = ']' then .command
  else if c = 'P' then .deviceEntry
  else if c = 'X' ∨ c = '^' ∨ c = '_' then .passage
  else if 0x20 ≤ n ∧ n < 0x30 then .intermediate
  else if 0x30 ≤ n ∧ n < 0x7f then .outside
  else .escape

def next (sequence : Sequence) (c : Char) : Sequence :=
  let n := c.toNat
  if n = 0x18 ∨ n = 0x1a then .outside
  else if n = 0x1b then .escape
  else
    match sequence with
    | .outside => .outside
    | .escape => afterEscape c
    | .intermediate => if 0x30 ≤ n ∧ n < 0x7f then .outside else .intermediate
    | .control => if 0x40 ≤ n ∧ n < 0x7f then .outside else .control
    | .deviceEntry =>
      if 0x20 ≤ n ∧ n < 0x30 then .deviceIntermediate
      else if 0x30 ≤ n ∧ n < 0x40 then .deviceParameters
      else if 0x40 ≤ n ∧ n < 0x7f then .passage
      else .deviceEntry
    | .deviceParameters =>
      if 0x20 ≤ n ∧ n < 0x30 then .deviceIntermediate
      else if 0x3c ≤ n ∧ n < 0x7f then .passage
      else .deviceParameters
    | .deviceIntermediate =>
      if 0x30 ≤ n ∧ n < 0x7f then .passage else .deviceIntermediate
    | .command => if n = 0x07 then .outside else .command
    | .passage => if (String.utf8EncodeChar c).contains 0x9c then .outside else .passage

end Sequence

def plainFrom (sequence : Sequence) : List Char → List Char
  | [] => []
  | c :: rest =>
    if sequence.shows c then c :: plainFrom .outside rest else plainFrom (sequence.next c) rest

def plain (source : String) : String :=
  String.ofList (plainFrom .outside source.toList)

end FlowProbe.Terminal
