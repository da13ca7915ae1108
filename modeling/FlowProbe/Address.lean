import FlowProbe.Octets

set_option autoImplicit false

namespace FlowProbe

inductive IpVersion where
  | v4
  | v6
  deriving DecidableEq, Repr

def IpVersion.number : IpVersion → Nat
  | .v4 => 4
  | .v6 => 6

inductive Address where
  | v4 (octets : Octets 4)
  | v6 (octets : Octets 16)
  deriving DecidableEq

namespace Address

def version : Address → IpVersion
  | .v4 _ => .v4
  | .v6 _ => .v6

def bytes : Address → List UInt8
  | .v4 octets => octets.val
  | .v6 octets => octets.val

-- The version 6 addresses lie above all version 4 addresses.
def rank : Address → Nat
  | .v4 octets => Octets.big octets.val
  | .v6 octets => UInt32.size + Octets.big octets.val

end Address

structure Endpoint where
  addr : Address
  port : UInt16
  deriving DecidableEq

def Endpoint.rank (endpoint : Endpoint) : Nat :=
  endpoint.addr.rank * 65536 + endpoint.port.toNat

instance : LE Endpoint := ⟨fun a b => a.rank ≤ b.rank⟩

instance (a b : Endpoint) : Decidable (a ≤ b) :=
  inferInstanceAs (Decidable (a.rank ≤ b.rank))

end FlowProbe

namespace FlowProbe.Address

def dotted (octets : List UInt8) : String :=
  ".".intercalate (octets.map fun octet => toString octet.toNat)

def groups : List UInt8 → List Nat
  | high :: low :: rest => (high.toNat * 256 + low.toNat) :: groups rest
  | _ => []

def hexGroups (numbers : List Nat) : String :=
  ":".intercalate (numbers.map fun number => String.ofList (Nat.toDigits 16 number))

def zeroRun (numbers : List Nat) : Nat :=
  (numbers.takeWhile (· == 0)).length

-- Start and length of the first longest run of zeros, the start counted from `start`.
def longestZeroRun : Nat → List Nat → Nat × Nat
  | start, [] => (start, 0)
  | start, number :: rest =>
    let here := zeroRun (number :: rest)
    let later := longestZeroRun (start + 1) rest
    if later.2 ≤ here then (start, here) else later

def mapped? (octets : List UInt8) : Option (List UInt8) :=
  if octets.take 12 = List.replicate 10 0 ++ [0xff, 0xff] then some (octets.drop 12) else none

def compressed (octets : List UInt8) : String :=
  match mapped? octets with
  | some inner => "::ffff:" ++ dotted inner
  | none =>
    let numbers := groups octets
    let run := longestZeroRun 0 numbers
    if 1 < run.2 then
      hexGroups (numbers.take run.1) ++ "::" ++ hexGroups (numbers.drop (run.1 + run.2))
    else
      hexGroups numbers

def text : Address → String
  | .v4 octets => dotted octets.val
  | .v6 octets => compressed octets.val

end FlowProbe.Address
