import FlowProbe.LogFilter.Pattern.Brackets
import FlowProbe.Text.Alphanumeric

set_option autoImplicit false

namespace FlowProbe.LogFilter.Pattern

structure Item where
  height : Nat
  -- A repetition may follow.
  repeatable : Bool

structure Frame where
  row : List Item
  branches : List Nat
  mode : Mode

structure State where
  mode : Mode := {}
  row : List Item := []
  branches : List Nat := []
  outer : List Frame := []
  names : List (List Char) := []

namespace State

def add (state : State) (item : Item) : State :=
  { state with row := item :: state.row }

def closedBranches (state : State) : List Nat :=
  joined (state.row.map Item.height) :: state.branches

def branch (state : State) : State :=
  { state with row := [], branches := state.closedBranches }

def enter (state : State) (mode : Mode) : State :=
  { state with
    mode
    row := []
    branches := []
    outer := ⟨state.row, state.branches, state.mode⟩ :: state.outer }

def leave? (state : State) : Option State :=
  match state.outer with
  | [] => none
  | frame :: outer =>
    some { state with
      mode := frame.mode
      row := ⟨1 + joined state.closedBranches, true⟩ :: frame.row
      branches := frame.branches
      outer }

def repeat? (state : State) : Option State :=
  match state.row with
  | ⟨height, true⟩ :: row => some { state with row := ⟨1 + height, true⟩ :: row }
  | _ => none

end State

def isNamePart (c : Char) : Bool :=
  c = '_' || c = '.' || c = '[' || c = ']' || isAlphanumeric c

def name? (text : List Char) : Option (List Char × List Char) :=
  match text.span (· ≠ '>') with
  | (first :: name, _ :: rest) =>
    if (first = '_' || isAlphabetic first) && name.all isNamePart then some (first :: name, rest)
    else none
  | _ => none

def enterNamed? (state : State) (text : List Char) : Option (State × List Char) := do
  let (name, rest) ← name? text
  guard (!state.names.contains name)
  return ({ state.enter state.mode with names := name :: state.names }, rest)

/-- What follows an opening parenthesis. Flags by themselves hold until the group around them
ends. -/
def open? (state : State) (text : List Char) : Option (State × List Char) :=
  match state.mode.skip text with
  | '?' :: 'P' :: '<' :: rest => enterNamed? state rest
  | '?' :: '<' :: rest => enterNamed? state rest
  | '?' :: rest =>
    match state.mode.flags? [] rest with
    | some (mode, _, ':' :: rest) => some (state.enter mode, rest)
    | some (mode, _ :: _, _ :: rest) => some ({ state with mode }.add ⟨0, false⟩, rest)
    | _ => none
  | rest => some (state.enter state.mode, rest)

def single? (state : State) (atom : Atom) (rest : List Char) : Option (State × List Char) :=
  if atom.stands state.mode then some (state.add ⟨0, true⟩, rest) else none

def repetition? (state : State) (rest : List Char) : Option (State × List Char) :=
  state.repeat?.map fun state =>
    match rest with
    | '?' :: rest => (state, rest)
    | _ => (state, rest)

def step? (state : State) : Char → List Char → Option (State × List Char)
  | '(', rest => open? state rest
  | ')', rest => state.leave?.map fun state => (state, rest)
  | '|', rest => some (state.branch, rest)
  | '[', rest =>
    (brackets? state.mode rest).map fun (height, rest) => (state.add ⟨height, true⟩, rest)
  | '?', rest => repetition? state rest
  | '*', rest => repetition? state rest
  | '+', rest => repetition? state rest
  | '\x7b', _ => none
  | '\\', rest => (escape? state.mode rest).bind fun (atom, rest) => single? state atom rest
  | '.', rest => single? state .any rest
  | '^', rest => single? state .edge rest
  | '$', rest => single? state .edge rest
  | c, rest => single? state (.literal c) rest

-- Reads on to the end. Every step takes a character, so the budget of `isValid` suffices.
def run? : Nat → State → List Char → Option State
  | 0, _, _ => none
  | budget + 1, state, text =>
    match state.mode.skip text with
    | [] => some state
    | c :: rest => (step? state c rest).bind fun (state, rest) => run? budget state rest

def isValid (text : List Char) : Bool :=
  match run? (text.length + 1) {} text with
  | none => false
  | some state => state.outer.isEmpty && joined state.closedBranches ≤ nestingLimit

end FlowProbe.LogFilter.Pattern
