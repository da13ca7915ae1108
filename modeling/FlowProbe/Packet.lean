import FlowProbe.Address
import FlowProbe.Frame
import FlowProbe.Octets

set_option autoImplicit false

namespace FlowProbe

structure FlowKey where
  low : Endpoint
  high : Endpoint
  proto : UInt8
  ordered : low ≤ high
  deriving DecidableEq

namespace FlowKey

def between (a b : Endpoint) (proto : UInt8) : FlowKey :=
  if h : a ≤ b then ⟨a, b, proto, h⟩
  else ⟨b, a, proto, Nat.le_of_lt (Nat.lt_of_not_le h)⟩

def endpointOctets (endpoint : Endpoint) : List UInt8 :=
  let variant := match endpoint.addr with
    | .v4 _ => 0
    | .v6 _ => 1
  Octets.littleEndian 8 variant ++ endpoint.addr.bytes ++
    Octets.littleEndian 2 endpoint.port.toNat

def octets (key : FlowKey) : List UInt8 :=
  endpointOctets key.low ++ endpointOctets key.high ++ [key.proto]

def fanoutHash (key : FlowKey) : UInt64 :=
  SipHash.hash 0 0 key.octets

/-- The member of a fanout group of the given size that a flow belongs to. -/
def slot (key : FlowKey) (members : Nat) : Nat :=
  key.fanoutHash.toNat % members

end FlowKey

structure Packet where
  source : Endpoint
  destination : Endpoint
  proto : UInt8
  version : IpVersion
  hops : UInt8
  tcp : Option TcpHeader
  deriving DecidableEq

namespace Packet

def ofLayers (datagram : Datagram) : Option Segment → Packet
  | none => {
      source := ⟨datagram.source, 0⟩
      destination := ⟨datagram.destination, 0⟩
      proto := datagram.declared
      version := datagram.version
      hops := datagram.hops
      tcp := none }
  | some segment => {
      source := ⟨datagram.source, segment.sourcePort⟩
      destination := ⟨datagram.destination, segment.destinationPort⟩
      proto := segment.proto
      version := datagram.version
      hops := datagram.hops
      tcp := segment.tcpHeader? }

def ofDatagram? (datagram : Datagram) : Option Packet :=
  match datagram.payload with
  | none => some (ofLayers datagram none)
  | some (proto, bytes) => (Segment.read? proto bytes).map (ofLayers datagram)

def parse? (frame : List UInt8) : Option Packet := do
  let (kind, bytes) ← Frame.network? frame
  let datagram ← Datagram.read? kind bytes
  ofDatagram? datagram

def key (packet : Packet) : FlowKey :=
  .between packet.source packet.destination packet.proto

end Packet

def protocolName (proto : UInt8) : String :=
  if proto = 1 then "ICMP"
  else if proto = 6 then "TCP"
  else if proto = 17 then "UDP"
  else if proto = 58 then "ICMPv6"
  else "OTHER"

end FlowProbe
