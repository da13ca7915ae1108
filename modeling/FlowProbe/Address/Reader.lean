import FlowProbe.Address

set_option autoImplicit false

namespace FlowProbe.Address

def digitValue? (radix : Nat) (c : Char) : Option Nat :=
  let value? :=
    if '0' ≤ c ∧ c ≤ '9' then some (c.toNat - '0'.toNat)
    else if 'a' ≤ c ∧ c ≤ 'f' then some (c.toNat - 'a'.toNat + 10)
    else if 'A' ≤ c ∧ c ≤ 'F' then some (c.toNat - 'A'.toNat + 10)
    else none
  value?.filter (· < radix)

def digits (radix : Nat) : List Char → List Nat × List Char
  | [] => ([], [])
  | c :: rest =>
    match digitValue? radix c with
    | some value => let (values, after) := digits radix rest; (value :: values, after)
    | none => ([], c :: rest)

def numberOf (radix : Nat) (values : List Nat) : Nat :=
  values.foldl (fun number value => number * radix + value) 0

def decimalPart (chars : List Char) : Option (Nat × List Char) :=
  let (values, rest) := digits 10 chars
  let number := numberOf 10 values
  if values.length = 0 ∨ 3 < values.length ∨ 255 < number then none
  else if values.head? = some 0 ∧ 1 < values.length then none
  else some (number, rest)

def hexGroup (chars : List Char) : Option (Nat × List Char) :=
  let (values, rest) := digits 16 chars
  if values.length = 0 ∨ 4 < values.length then none else some (numberOf 16 values, rest)

def symbol (c : Char) : List Char → Option (List Char)
  | d :: rest => if d = c then some rest else none
  | [] => none

def dottedPart (chars : List Char) : Option (List Nat × List Char) := do
  let (a, chars) ← decimalPart chars
  let (b, chars) ← decimalPart (← symbol '.' chars)
  let (c, chars) ← decimalPart (← symbol '.' chars)
  let (d, chars) ← decimalPart (← symbol '.' chars)
  return ([a, b, c, d], chars)

def afterColon (first : Bool) (chars : List Char) : Option (List Char) :=
  if first then some chars else symbol ':' chars

structure Groups where
  values : List Nat
  dotted : Bool
  rest : List Char

def readGroups : Nat → Bool → List Char → Groups
  | 0, _, chars => ⟨[], false, chars⟩
  | limit + 1, first, chars =>
    let tail? := if 0 < limit then afterColon first chars >>= dottedPart else none
    match tail? with
    | some ([a, b, c, d], rest) => ⟨[a * 256 + b, c * 256 + d], true, rest⟩
    | _ =>
      match afterColon first chars >>= hexGroup with
      | some (value, rest) =>
        let more := readGroups limit false rest
        { more with values := value :: more.values }
      | none => ⟨[], false, chars⟩

def octetsOf (numbers : List Nat) : List UInt8 :=
  numbers.flatMap fun number => [UInt8.ofNat (number / 256), UInt8.ofNat (number % 256)]

def version6Groups (chars : List Char) : Option (List Nat × List Char) :=
  let head := readGroups 8 true chars
  if head.values.length = 8 then some (head.values, head.rest)
  else if head.dotted then none
  else do
    let rest ← symbol ':' head.rest
    let rest ← symbol ':' rest
    let tail := readGroups (7 - head.values.length) true rest
    let zeros := List.replicate (8 - head.values.length - tail.values.length) 0
    return (head.values ++ zeros ++ tail.values, tail.rest)

def ofOctets? (bytes : List UInt8) : Option Address :=
  if h : bytes.length = 4 then some (.v4 ⟨bytes, h⟩)
  else if h : bytes.length = 16 then some (.v6 ⟨bytes, h⟩)
  else none

def ofText? (source : String) : Option Address :=
  match dottedPart source.toList with
  | some (numbers, []) => ofOctets? (numbers.map UInt8.ofNat)
  | some _ => none
  | none =>
    match version6Groups source.toList with
    | some (numbers, []) => ofOctets? (octetsOf numbers)
    | _ => none

end FlowProbe.Address

namespace FlowProbe.Address

def number? (chars : List Char) : Option (Nat × List Char) :=
  let (radix, chars) := match chars with
    | '0' :: 'x' :: rest => (16, rest)
    | '0' :: 'X' :: rest => (16, rest)
    | '0' :: _ => (8, chars)
    | _ => (10, chars)
  match digits radix chars with
  | ([], _) => none
  | (values, rest) => some (numberOf radix values, rest)

def numericOctets? : Nat → List Char → Option (List UInt8)
  | 0, _ => none
  | left + 1, chars => do
    match ← number? chars with
    | (number, []) =>
      if number < 1 <<< (8 * (left + 1)) then return Octets.bigEndian (left + 1) number else none
    | (number, '.' :: rest) =>
      if number < 256 then return UInt8.ofNat number :: (← numericOctets? left rest) else none
    | _ => none

-- A version 6 address that stands for one of version 4.
def unmapped? : Address → Option Address
  | .v4 _ => none
  | .v6 octets =>
    if octets.val.take 12 = List.replicate 10 0 ++ [0xff, 0xff] then ofOctets? (octets.val.drop 12)
    else none

-- A version 4 address in numbers, or mapped to version 6.
def ofNumbers? (chars : List Char) : Option Address :=
  match numericOctets? 4 chars with
  | some octets => ofOctets? octets
  | none => (ofText? (String.ofList chars)).bind unmapped?

end FlowProbe.Address
