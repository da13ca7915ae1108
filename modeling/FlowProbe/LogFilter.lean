import FlowProbe.LogFilter.Pattern
import FlowProbe.Text

set_option autoImplicit false

namespace FlowProbe.LogFilter

def levels : List String := ["off", "error", "warn", "info", "debug", "trace"]

def withoutPlus : List Char → List Char
  | '+' :: rest => rest
  | text => text

def isLevel (text : List Char) : Bool :=
  let digits := withoutPlus text
  (!digits.isEmpty && digits.all Char.isDigit &&
      digits.foldl (fun n c => n * 10 + (c.toNat - 48)) 0 < levels.length) ||
    levels.contains (String.ofList (text.map Char.toLower))

end FlowProbe.LogFilter

namespace FlowProbe.LogFilter

def withoutSign : List Char → List Char
  | '+' :: rest => rest
  | '-' :: rest => rest
  | text => text

def isDecimal (text : List Char) : Bool :=
  let (whole, rest) := text.span Char.isDigit
  let (fraction, rest) := match rest with
    | '.' :: rest => rest.span Char.isDigit
    | _ => ([], rest)
  (!whole.isEmpty || !fraction.isEmpty) &&
    match rest with
    | [] => true
    | c :: power =>
      let power := withoutSign power
      c.toLower = 'e' && !power.isEmpty && power.all Char.isDigit

def isNumber (text : List Char) : Bool :=
  let text := withoutSign text
  ["inf", "infinity", "nan"].contains (String.ofList (text.map Char.toLower)) || isDecimal text

def isValue (text : List Char) : Bool :=
  isNumber text || Pattern.isValid text

def isField (text : List Char) : Bool :=
  !text.isEmpty &&
    match parts '=' text with
    | _ :: value :: _ => isValue value
    | _ => true

end FlowProbe.LogFilter

namespace FlowProbe.LogFilter

inductive Fault where
  | malformed
  | splitCharacter
  deriving DecidableEq, Repr

def splitOctets? (octets : Nat) : List Char → Option (List Char × List Char)
  | [] => some ([], [])
  | c :: rest =>
    if octets = 0 then some ([], c :: rest)
    else if octets < c.utf8Size then none
    else (splitOctets? (octets - c.utf8Size) rest).map fun (front, back) => (c :: front, back)

def slice (text : List Char) (start stop : Nat) : Except Fault (List Char) :=
  match splitOctets? stop text with
  | none => .error .splitCharacter
  | some (front, _) =>
    match splitOctets? start front with
    | none => .error .splitCharacter
    | some (_, part) => .ok part

def octets (text : List Char) : Nat :=
  text.foldl (fun total c => total + c.utf8Size) 0

def trim (text : List Char) : List Char :=
  ((text.dropWhile isBlank).reverse.dropWhile isBlank).reverse

-- Where a directive is being read. A part that has begun is known by the offset of its start.
inductive Place where
  | start
  | levelOrTarget
  | level (first : Nat)
  | span (first : Nat)
  | field (first : Nat)
  -- After the fields, where the span must end.
  | spanEnd
  -- After the spans.
  | target
  deriving DecidableEq, Repr

def opensTarget (c : Char) : Bool :=
  isAlphanumeric c || c = '-' || c = ':' || c = '_'

def require (condition : Bool) : Except Fault Unit :=
  if condition then .ok () else .error .malformed

def Place.next (text : List Char) (place : Place) (offset : Nat) (c : Char) :
    Except Fault Place :=
  match place, c with
  | .start, '[' => .ok (.span (offset + 1))
  | .start, c => do
    require (opensTarget c)
    return .levelOrTarget
  | .levelOrTarget, '=' => do
    let _ ← slice text 0 offset
    return .level (offset + 1)
  | .levelOrTarget, '[' => do
    let _ ← slice text 0 offset
    return .span (offset + 1)
  | .span first, ']' => do
    let _ ← slice text first offset
    return .target
  | .span first, '\x7b' => do
    let _ ← slice text first offset
    return .field (offset + 1)
  | .field first, '\x7d' => do
    let field ← slice text first offset
    require (isField field)
    return .spanEnd
  | .spanEnd, ']' => .ok .target
  | .spanEnd, _ => .error .malformed
  | .target, '=' => .ok (.level (offset + 1))
  | .target, _ => .error .malformed
  | place, _ => .ok place

def Place.finish (text : List Char) : Place → Except Fault Unit
  | .levelOrTarget => .ok ()
  | .target => .ok ()
  | .level first => do
    let level ← slice text first (octets text)
    require (level.isEmpty || isLevel level)
  | _ => .error .malformed

def readFrom (text : List Char) (place : Place) (offset : Nat) : List Char → Except Fault Unit
  | [] => place.finish text
  | c :: rest => do
    readFrom text (← place.next text offset c) (offset + c.utf8Size) rest

/-- Offsets are counted from the first character that is not blank, and parts are taken from the
directive with its blanks. -/
def checkDirective (text : List Char) : Except Fault Unit :=
  readFrom text .start 0 (trim text)

def check (source : String) : Except Fault Unit :=
  ((parts ',' source.toList).filter fun part => !part.isEmpty).forM checkDirective

end FlowProbe.LogFilter
