import FlowProbe.LogFilter.Pattern.Atom

set_option autoImplicit false

namespace FlowProbe.LogFilter.Pattern

def nestingLimit : Nat := 250

def joined : List Nat → Nat
  | [] => 0
  | [height] => height
  | heights => 1 + heights.foldl max 0

end FlowProbe.LogFilter.Pattern

namespace FlowProbe.LogFilter.Pattern

structure Listing where
  items : List Nat := []
  left : Option Nat := none

namespace Listing

def height (listing : Listing) : Nat :=
  match listing.left with
  | none => joined listing.items
  | some left => 1 + max left (joined listing.items)

def add (listing : Listing) (height : Nat) : Listing :=
  { listing with items := height :: listing.items }

def operate (listing : Listing) : Listing :=
  { left := some listing.height }

end Listing

structure Brackets where
  listing : Listing := {}
  fresh : Bool := true
  outer : List Listing := []

namespace Brackets

def add (state : Brackets) : Brackets :=
  { state with listing := state.listing.add 0, fresh := false }

def operate (state : Brackets) : Brackets :=
  { state with listing := state.listing.operate, fresh := false }

def nest (state : Brackets) : Brackets :=
  { outer := state.listing :: state.outer }

end Brackets

def familyNames : List String :=
  ["alnum", "alpha", "ascii", "blank", "cntrl", "digit", "graph", "lower", "print", "punct",
    "space", "upper", "word", "xdigit"]

def family? : List Char → Option (Atom × List Char)
  | ':' :: text =>
    let (negated, text) := match text with
      | '^' :: rest => (true, rest)
      | _ => (false, text)
    match text.span (· ≠ ':') with
    | (name, ':' :: ']' :: rest) =>
      if familyNames.contains (String.ofList name) then some (.family negated, rest) else none
    | _ => none
  | _ => none

def listsFamily (mode : Mode) (negated : Bool) : Bool :=
  if mode.unicode then !mode.ignoresCase else !negated

/-- The text after an opening bracket. All but a list of octets would be no text. -/
def opened? (mode : Mode) (text : List Char) : Option (List Char) :=
  match mode.skip text with
  | '^' :: rest => if mode.unicode then some rest else none
  | rest => some rest

def listed? (mode : Mode) : List Char → Option (Atom × List Char)
  | [] => none
  | '\\' :: rest => escape? mode rest
  | c :: rest => some (.literal c, rest)

/-- An atom or a range, and the rest. A hyphen in front of another or of the closing bracket makes
no range. -/
def item? (mode : Mode) (text : List Char) : Option (List Char) := do
  let (first, rest) ← listed? mode text
  guard (first.isListed mode)
  match mode.skip rest with
  | '-' :: after =>
    if mode.peek? after = some ']' ∨ mode.peek? after = some '-' then return '-' :: after
    let (last, rest) ← listed? mode (mode.skip after)
    guard (last.isListed mode)
    guard ((← first.char?) ≤ (← last.char?))
    return rest
  | rest => return rest

-- Reads on between brackets. Every step takes a character, so the budget of `brackets?`
-- suffices.
def bracketsFrom? (mode : Mode) : Nat → Brackets → List Char → Option (Nat × List Char)
  | 0, _, _ => none
  | budget + 1, state, text =>
    match mode.skip text with
    | [] => none
    | '[' :: rest =>
      match family? rest with
      | some (family, rest) =>
        if listsFamily mode (family = .family true) then bracketsFrom? mode budget state.add rest
        else none
      | none =>
        match opened? mode rest with
        | some rest => bracketsFrom? mode budget state.nest rest
        | none => none
    | '-' :: rest =>
      if state.fresh then
        if (Atom.literal '-').isListed mode then
          bracketsFrom? mode budget { state.add with fresh := true } rest
        else none
      else
        match rest with
        | '-' :: rest => bracketsFrom? mode budget state.operate rest
        | _ => (item? mode ('-' :: rest)).bind (bracketsFrom? mode budget state.add)
    | '&' :: '&' :: rest => bracketsFrom? mode budget state.operate rest
    | '~' :: '~' :: rest => bracketsFrom? mode budget state.operate rest
    | ']' :: rest =>
      if state.fresh && state.listing.items.isEmpty then
        if (Atom.literal ']').isListed mode then bracketsFrom? mode budget state.add rest
        else none
      else
        let height := 1 + state.listing.height
        match state.outer with
        | [] => some (height, rest)
        | around :: outer =>
          bracketsFrom? mode budget ⟨around.add height, false, outer⟩ rest
    | rest => (item? mode rest).bind (bracketsFrom? mode budget state.add)

def brackets? (mode : Mode) (text : List Char) : Option (Nat × List Char) :=
  (opened? mode text).bind (bracketsFrom? mode (text.length + 1) {})

end FlowProbe.LogFilter.Pattern
