import FlowProbe.Address
import FlowProbe.Octets

set_option autoImplicit false

namespace FlowProbe.Frame

def isTag (kind : UInt16) : Bool :=
  kind == 0x8100 || kind == 0x88a8 || kind == 0x9100

/-- Reads a type number behind at most `tags` VLAN tags. -/
def untag : Nat → List UInt8 → Option (UInt16 × List UInt8)
  | tags, high :: low :: rest =>
    let kind := Octets.word high low
    if isTag kind then
      match tags, rest with
      | tags + 1, _ :: _ :: rest => untag tags rest
      | _, _ => none
    else
      some (kind, rest)
  | _, _ => none

def network? (frame : List UInt8) : Option (UInt16 × List UInt8) :=
  untag 2 (frame.drop 12)

end FlowProbe.Frame

namespace FlowProbe

structure Datagram where
  version : IpVersion
  source : Address
  destination : Address
  declared : UInt8
  hops : UInt8
  -- The number of the protocol carried and its octets; nothing is known of a fragment.
  payload : Option (UInt8 × List UInt8)

namespace Datagram

def authentication? : List UInt8 → Option (UInt8 × List UInt8)
  | next :: length :: rest =>
    let size := 4 * (length.toNat + 2)
    if 1 ≤ length.toNat ∧ size ≤ rest.length + 2 then some (next, rest.drop (size - 2)) else none
  | _ => none

def options? : List UInt8 → Option (UInt8 × List UInt8)
  | next :: length :: rest =>
    let size := 8 * (length.toNat + 1)
    if size ≤ rest.length + 2 then some (next, rest.drop (size - 2)) else none
  | _ => none

/-- The bits of the third and fourth octet of a fragment header that mark a split payload. Two bits
of the offset are not among them, two reserved ones are. -/
def splits (high low : UInt8) : Bool :=
  high != 0 || low &&& 0x9f != 0

def fragment? : List UInt8 → Option (Bool × UInt8 × List UInt8)
  | next :: _ :: high :: low :: _ :: _ :: _ :: _ :: rest => some (splits high low, next, rest)
  | _ => none

def carried4? (proto : UInt8) (body : List UInt8) : Option (UInt8 × List UInt8) :=
  if proto = 51 then authentication? body else some (proto, body)

/-- A version 4 datagram. What lies beyond its total length is not part of it. -/
def read4? : List UInt8 → Option Datagram
  | bytes@(first :: _ :: length1 :: length0 :: _ :: _ :: flags1 :: flags0 :: hops :: proto ::
      _ :: _ :: s0 :: s1 :: s2 :: s3 :: d0 :: d1 :: d2 :: d3 :: _) => do
    let header := 4 * (first.toNat % 16)
    let total := (Octets.word length1 length0).toNat
    guard (first.toNat / 16 = 4 ∧ 20 ≤ header ∧ header ≤ total ∧ total ≤ bytes.length)
    let carried ← carried4? proto ((bytes.take total).drop header)
    let fragmented := (Octets.word flags1 flags0).toNat % 16384 ≠ 0
    return {
      version := .v4
      source := .v4 ⟨[s0, s1, s2, s3], rfl⟩
      destination := .v4 ⟨[d0, d1, d2, d3], rfl⟩
      declared := proto
      hops := hops
      payload := if fragmented then none else some carried }
  | _ => none

-- The extension headers that have been met; each may be read once.
structure Met where
  options : Bool := false
  routing : Bool := false
  finalOptions : Bool := false
  fragment : Bool := false
  authentication : Bool := false

structure Carried where
  fragmented : Bool
  proto : UInt8
  bytes : List UInt8

/-- Reads extension headers until another protocol, or a header for the second time. Hop-by-hop
options are refused here. Five headers can be read, so the budget of `extensions?` suffices. -/
def extensionsFrom? : Nat → Met → Carried → Option Carried
  | 0, _, here => some here
  | budget + 1, met, here =>
    if here.proto = 0 then none
    else if here.proto = 60 then
      if met.routing then
        if met.finalOptions then some here
        else do
          let (next, rest) ← options? here.bytes
          extensionsFrom? budget { met with finalOptions := true } ⟨here.fragmented, next, rest⟩
      else if met.options then some here
      else do
        let (next, rest) ← options? here.bytes
        extensionsFrom? budget { met with options := true } ⟨here.fragmented, next, rest⟩
    else if here.proto = 43 then
      if met.routing then some here
      else do
        let (next, rest) ← options? here.bytes
        extensionsFrom? budget { met with routing := true } ⟨here.fragmented, next, rest⟩
    else if here.proto = 44 then
      if met.fragment then some here
      else do
        let (fragmented, next, rest) ← fragment? here.bytes
        extensionsFrom? budget { met with fragment := true }
          ⟨here.fragmented || fragmented, next, rest⟩
    else if here.proto = 51 then
      if met.authentication then some here
      else do
        let (next, rest) ← authentication? here.bytes
        extensionsFrom? budget { met with authentication := true } ⟨here.fragmented, next, rest⟩
    else
      some here

def extensions? (first : UInt8) (bytes : List UInt8) : Option Carried :=
  if first = 0 then do
    let (next, rest) ← options? bytes
    extensionsFrom? 6 {} ⟨false, next, rest⟩
  else
    extensionsFrom? 6 {} ⟨false, first, bytes⟩

/-- A version 6 datagram. A payload length of zero stands for all that is there. -/
def read6? : List UInt8 → Option Datagram
  | first :: _ :: _ :: _ :: length1 :: length0 :: next :: hops :: rest => do
    guard (first.toNat / 16 = 6)
    let (source, rest) ← Octets.split? 16 rest
    let (destination, rest) ← Octets.split? 16 rest
    let length := (Octets.word length1 length0).toNat
    guard (length ≤ rest.length)
    let carried ← extensions? next (if length = 0 then rest else rest.take length)
    return {
      version := .v6
      source := .v6 source
      destination := .v6 destination
      declared := next
      hops := hops
      payload := if carried.fragmented then none else some (carried.proto, carried.bytes) }
  | _ => none

def read? (kind : UInt16) (bytes : List UInt8) : Option Datagram :=
  if kind = 0x0800 then read4? bytes
  else if kind = 0x86dd then read6? bytes
  else none

end Datagram

structure TcpHeader where
  syn : Bool
  ack : Bool
  fin : Bool
  rst : Bool
  window : UInt16
  deriving DecidableEq

inductive Segment where
  | tcp (sourcePort destinationPort : UInt16) (header : TcpHeader)
  | udp (sourcePort destinationPort : UInt16)
  | icmp
  | icmp6

namespace Segment

def proto : Segment → UInt8
  | .icmp => 1
  | .tcp .. => 6
  | .udp .. => 17
  | .icmp6 => 58

def sourcePort : Segment → UInt16
  | .tcp port _ _ => port
  | .udp port _ => port
  | _ => 0

def destinationPort : Segment → UInt16
  | .tcp _ port _ => port
  | .udp _ port => port
  | _ => 0

def tcpHeader? : Segment → Option TcpHeader
  | .tcp _ _ header => some header
  | _ => none

def bit (flags : UInt8) (index : Nat) : Bool :=
  flags.toNat.testBit index

def readTcp? : List UInt8 → Option Segment
  | bytes@(s1 :: s0 :: d1 :: d0 :: _ :: _ :: _ :: _ :: _ :: _ :: _ :: _ :: offset :: flags ::
      w1 :: w0 :: _ :: _ :: _ :: _ :: _) =>
    let words := offset.toNat / 16
    if 5 ≤ words ∧ 4 * words ≤ bytes.length then
      some (.tcp (Octets.word s1 s0) (Octets.word d1 d0) {
        syn := bit flags 1
        ack := bit flags 4
        fin := bit flags 0
        rst := bit flags 2
        window := Octets.word w1 w0 })
    else
      none
  | _ => none

def readUdp? : List UInt8 → Option Segment
  | s1 :: s0 :: d1 :: d0 :: _ :: _ :: _ :: _ :: _ =>
    some (.udp (Octets.word s1 s0) (Octets.word d1 d0))
  | _ => none

-- Timestamp messages have a fixed length.
def readIcmp? : List UInt8 → Option Segment
  | bytes@(kind :: code :: _ :: _ :: _ :: _ :: _ :: _ :: _) =>
    if (kind = 13 ∨ kind = 14) ∧ code = 0 ∧ bytes.length ≠ 20 then none else some .icmp
  | _ => none

def readIcmp6? (bytes : List UInt8) : Option Segment :=
  if 8 ≤ bytes.length then some .icmp6 else none

def read? (proto : UInt8) (bytes : List UInt8) : Option (Option Segment) :=
  if proto = 6 then (readTcp? bytes).map some
  else if proto = 17 then (readUdp? bytes).map some
  else if proto = 1 then (readIcmp? bytes).map some
  else if proto = 58 then (readIcmp6? bytes).map some
  else some none

end Segment

end FlowProbe
