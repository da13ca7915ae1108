import FlowProbe.Address
import FlowProbe.Octets
import FlowProbe.Packet
import FlowProbe.Text
import FlowProbe.Time

set_option autoImplicit false

namespace FlowProbe

structure Uuid where
  octets : Octets 16
  deriving DecidableEq

namespace Uuid

def hex (byte : UInt8) : List Char :=
  [Nat.digitChar (byte.toNat / 16), Nat.digitChar (byte.toNat % 16)]

def chars (uuid : Uuid) : List Char :=
  let digits (first count : Nat) := ((uuid.octets.val.drop first).take count).flatMap hex
  digits 0 4 ++ '-' :: digits 4 2 ++ '-' :: digits 6 2 ++ '-' :: digits 8 2 ++ '-' :: digits 10 6

def text (uuid : Uuid) : String :=
  String.ofList uuid.chars

def supply (worker serial : Nat) : Uuid where
  octets := ⟨Octets.bigEndian 4 worker ++ Octets.bigEndian 2 (serial >>> 48) ++
    [0x40, 0, 0x80, 0] ++ Octets.bigEndian 6 serial, by simp⟩

end Uuid

namespace Packet

def opens (packet : Packet) : Bool :=
  packet.tcp.any fun header => header.syn && !header.ack

def answers (packet : Packet) : Bool :=
  packet.tcp.any fun header => header.syn && header.ack

def closes (packet : Packet) : Bool :=
  packet.tcp.any fun header => header.fin

def resets (packet : Packet) : Bool :=
  packet.tcp.any fun header => header.rst

def fingerprint (packet : Packet) : Option (UInt16 × UInt8) :=
  packet.tcp.map fun header => (header.window, packet.hops)

end Packet

structure Flow where
  id : Uuid
  client : Endpoint
  server : Endpoint
  proto : UInt8
  version : IpVersion
  fingerprint : Option (UInt16 × UInt8)
  firstSeen : Nanos
  lastSeen : Nanos
  lastReport : Nanos
  clientPackets : Nat
  serverPackets : Nat
  clientBytes : Nat
  serverBytes : Nat
  clientClosed : Bool
  serverClosed : Bool
  deriving DecidableEq

namespace Flow

def start (id : Uuid) (packet : Packet) (time : Nanos) : Flow where
  id := id
  client := if packet.answers then packet.destination else packet.source
  server := if packet.answers then packet.source else packet.destination
  proto := packet.proto
  version := packet.version
  fingerprint := none
  firstSeen := time
  lastSeen := time
  lastReport := time
  clientPackets := 0
  serverPackets := 0
  clientBytes := 0
  serverBytes := 0
  clientClosed := false
  serverClosed := false

def fromClient (flow : Flow) (packet : Packet) : Bool :=
  packet.source = flow.client

def update (flow : Flow) (packet : Packet) (length : Nat) (time : Nanos) : Flow :=
  let client := flow.fromClient packet
  { flow with
    clientPackets := flow.clientPackets + if client then 1 else 0
    serverPackets := flow.serverPackets + if client then 0 else 1
    clientBytes := flow.clientBytes + if client then length else 0
    serverBytes := flow.serverBytes + if client then 0 else length
    lastSeen := max flow.lastSeen time
    fingerprint :=
      if client && packet.opens && flow.fingerprint.isNone then packet.fingerprint
      else flow.fingerprint
    clientClosed := flow.clientClosed || (client && packet.closes)
    serverClosed := flow.serverClosed || (!client && packet.closes) }

/-- The packet just counted ends the flow: a reset, or both sides have closed. -/
def finishedBy (flow : Flow) (packet : Packet) : Bool :=
  packet.resets || (flow.clientClosed && flow.serverClosed)

def packets (flow : Flow) : Nat :=
  flow.clientPackets + flow.serverPackets

def bytes (flow : Flow) : Nat :=
  flow.clientBytes + flow.serverBytes

end Flow

structure Enrichment where
  country : Address → Option String
  network : Address → Option String

namespace Enrichment

def none : Enrichment where
  country := fun _ => Option.none
  network := fun _ => Option.none

end Enrichment

namespace Flow

def fingerprintText : Option (UInt16 × UInt8) → String
  | .none => ""
  | .some (window, hops) => toString window.toNat ++ "_" ++ toString hops.toNat

def members (flow : Flow) (known : Enrichment) : List (String × JsonText.Value) := [
  ("uuid", .text flow.id.text),
  ("src_ip", .text flow.client.addr.text),
  ("dest_ip", .text flow.server.addr.text),
  ("src_port", .number flow.client.port.toNat),
  ("dst_port", .number flow.server.port.toNat),
  ("ip", .number flow.version.number),
  ("tcp_fingerprint", .text (fingerprintText flow.fingerprint)),
  ("proto", .text (protocolName flow.proto)),
  ("src_country", .text ((known.country flow.client.addr).getD "")),
  ("dst_country", .text ((known.country flow.server.addr).getD "")),
  ("src_as", .text ((known.network flow.client.addr).getD "")),
  ("dst_as", .text ((known.network flow.server.addr).getD "")),
  ("first_seen", .text (Calendar.text flow.firstSeen)),
  ("last_seen", .text (Calendar.text flow.lastSeen)),
  ("client_num_pkts", .number flow.clientPackets),
  ("server_num_pkts", .number flow.serverPackets),
  ("client_len_pkts", .number flow.clientBytes),
  ("server_len_pkts", .number flow.serverBytes)]

def summary (flow : Flow) (known : Enrichment) : String :=
  JsonText.object (flow.members known)

end Flow

end FlowProbe
