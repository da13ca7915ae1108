import FlowProbe.Text

set_option autoImplicit false

namespace FlowProbe.LogFilter.Pattern

structure Mode where
  verbose : Bool := false
  ignoresCase : Bool := false
  unicode : Bool := true

namespace Mode

def dropIgnored (inComment : Bool) : List Char → List Char
  | [] => []
  | c :: rest =>
    if inComment then dropIgnored (c != '\n') rest
    else if c = '#' then dropIgnored true rest
    else if isBlank c then dropIgnored false rest
    else c :: rest

def skip (mode : Mode) (text : List Char) : List Char :=
  if mode.verbose then dropIgnored false text else text

/-- The next character that is not blank. The mark of one comment is passed over, but not what the
comment says. -/
def peek? (mode : Mode) (text : List Char) : Option Char :=
  if mode.verbose then
    match text.dropWhile isBlank with
    | '#' :: rest => (rest.dropWhile isBlank).head?
    | rest => rest.head?
  else text.head?

def set? (mode : Mode) (value : Bool) : Char → Option Mode
  | 'i' => some { mode with ignoresCase := value }
  | 'u' => some { mode with unicode := value }
  | 'x' => some { mode with verbose := value }
  | 'm' | 's' | 'U' | 'R' => some mode
  | _ => none

/-- Flags up to a colon or a parenthesis: the mode they lead to, the letters, and the rest. Letters
after a minus are cleared, each may be given once, and some must follow the minus. -/
def flags? (mode : Mode) (seen : List Char) : List Char → Option (Mode × List Char × List Char)
  | [] => none
  | c :: rest =>
    if c = ':' ∨ c = ')' then
      if seen.head? = some '-' then none else some (mode, seen, c :: rest)
    else if seen.contains c then none
    else if c = '-' then flags? mode (c :: seen) rest
    else
      match mode.set? (!seen.contains '-') c with
      | some mode => flags? mode (c :: seen) rest
      | none => none

end Mode

end FlowProbe.LogFilter.Pattern

namespace FlowProbe.LogFilter.Pattern

inductive Atom where
  | literal (c : Char)
  | octet (c : Char)
  | family (negated : Bool)
  | edge
  | wordEdge
  | any
  deriving DecidableEq, Repr

namespace Atom

def stands (mode : Mode) : Atom → Bool
  | .literal _ => !(mode.unicode && mode.ignoresCase)
  | .octet c => if mode.unicode then !mode.ignoresCase else c.toNat < 128
  | .family negated => !mode.unicode && !negated
  | .edge => true
  | .wordEdge => !mode.unicode
  | .any => mode.unicode

def isListed (mode : Mode) : Atom → Bool
  | .literal c => if mode.unicode then !mode.ignoresCase else c.toNat < 128
  | .octet c => if mode.unicode then !mode.ignoresCase else c.toNat < 128
  | .family negated => !mode.unicode && !negated
  | _ => false

def char? : Atom → Option Char
  | .literal c => some c
  | .octet c => some c
  | _ => none

end Atom

def hexDigit? (c : Char) : Option Nat :=
  if c.isDigit then some (c.toNat - 48)
  else if 'a' ≤ c.toLower ∧ c.toLower ≤ 'f' then some (c.toLower.toNat - 87)
  else none

def hex? (mode : Mode) (value : Nat) : Nat → List Char → Option (Nat × List Char)
  | 0, text => some (value, text)
  | missing + 1, text =>
    match mode.skip text with
    | [] => none
    | c :: rest =>
      match hexDigit? c with
      | some digit => hex? mode (value * 16 + digit) missing rest
      | none => none

def scalar? (value : Nat) : Option Char :=
  if value.isValidChar then some (Char.ofNat value) else none

def escape? (mode : Mode) : List Char → Option (Atom × List Char)
  | [] => none
  | 'x' :: rest => do
    let (value, rest) ← hex? mode 0 2 rest
    return (.octet (← scalar? value), rest)
  | 'u' :: rest => do
    let (value, rest) ← hex? mode 0 4 rest
    return (.literal (← scalar? value), rest)
  | 'U' :: rest => do
    let (value, rest) ← hex? mode 0 8 rest
    return (.literal (← scalar? value), rest)
  | c :: rest =>
    if ['d', 's', 'w'].contains c then some (.family false, rest)
    else if ['D', 'S', 'W'].contains c then some (.family true, rest)
    else if ['A', 'z'].contains c then some (.edge, rest)
    else if ['b', 'B', '<', '>'].contains c then some (.wordEdge, rest)
    else if c = 'a' then some (.literal '\x07', rest)
    else if c = 'f' then some (.literal '\x0c', rest)
    else if c = 't' then some (.literal '\t', rest)
    else if c = 'n' then some (.literal '\n', rest)
    else if c = 'r' then some (.literal '\r', rest)
    else if c = 'v' then some (.literal '\x0b', rest)
    else if c.toNat < 128 && !c.isAlphanum then some (.literal c, rest)
    else none

end FlowProbe.LogFilter.Pattern
