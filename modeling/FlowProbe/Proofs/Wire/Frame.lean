import FlowProbe.Proofs.FlowKey
import FlowProbe.Proofs.Wire.Datagram
import FlowProbe.Proofs.Wire.Tag

set_option autoImplicit false

namespace FlowProbe.Wire

inductive Datagram where
  | v4 (datagram : Datagram4)
  | v6 (datagram : Datagram6)

namespace Datagram

def kind : Datagram → UInt16
  | .v4 _ => 0x0800
  | .v6 _ => 0x86dd

def octets : Datagram → List UInt8
  | .v4 datagram => datagram.octets
  | .v6 datagram => datagram.octets

def version : Datagram → IpVersion
  | .v4 _ => .v4
  | .v6 _ => .v6

def source : Datagram → Address
  | .v4 datagram => .v4 datagram.source
  | .v6 datagram => .v6 datagram.source

def destination : Datagram → Address
  | .v4 datagram => .v4 datagram.destination
  | .v6 datagram => .v6 datagram.destination

def declared : Datagram → UInt8
  | .v4 datagram => datagram.declared
  | .v6 datagram => datagram.declared

def hops : Datagram → UInt8
  | .v4 datagram => datagram.hops
  | .v6 datagram => datagram.hops

def segment : Datagram → Segment
  | .v4 datagram => datagram.segment
  | .v6 datagram => datagram.segment

-- A fragment header with one of the two spare bits set hides the segment behind it.
def misread : Datagram → Bool
  | .v4 _ => false
  | .v6 datagram => datagram.extensions.misread

theorem isTag_kind (datagram : Datagram) : Frame.isTag datagram.kind = false := by
  cases datagram <;> rfl

def content (datagram : Datagram) : FlowProbe.Datagram where
  version := datagram.version
  source := datagram.source
  destination := datagram.destination
  declared := datagram.declared
  hops := datagram.hops
  payload :=
    if datagram.misread then none else some (datagram.segment.proto, datagram.segment.octets)

theorem read?_octets (datagram : Datagram) (padding : List UInt8) :
    FlowProbe.Datagram.read? datagram.kind (datagram.octets ++ padding) =
      some datagram.content := by
  cases datagram with
  | v4 datagram => exact datagram.read4?_octets padding
  | v6 datagram => exact datagram.read6?_octets padding

def packet (datagram : Datagram) : Packet :=
  if datagram.misread then {
    source := ⟨datagram.source, 0⟩
    destination := ⟨datagram.destination, 0⟩
    proto := datagram.declared
    version := datagram.version
    hops := datagram.hops
    tcp := none }
  else {
    source := ⟨datagram.source, datagram.segment.sourcePort⟩
    destination := ⟨datagram.destination, datagram.segment.destinationPort⟩
    proto := datagram.segment.proto
    version := datagram.version
    hops := datagram.hops
    tcp := datagram.segment.tcpHeader? }

theorem ofDatagram?_content (datagram : Datagram) :
    Packet.ofDatagram? datagram.content = some datagram.packet := by
  rw [Packet.ofDatagram?, content, packet]
  cases datagram.misread
  next =>
    simp only [Bool.false_eq_true, if_false, Segment.read?_octets]
    cases datagram.segment <;> rfl
  next => rfl

end Datagram

structure Frame where
  destination : Octets 6
  source : Octets 6
  tags : List Tag
  few : tags.length ≤ 2
  datagram : Datagram
  padding : List UInt8

namespace Frame

def octets (frame : Frame) : List UInt8 :=
  frame.destination.val ++ frame.source.val ++
    (frame.tags.flatMap Tag.octets ++
      (Octets.bigEndian 2 frame.datagram.kind.toNat ++ (frame.datagram.octets ++ frame.padding)))

theorem network?_octets (frame : Frame) :
    FlowProbe.Frame.network? frame.octets =
      some (frame.datagram.kind, frame.datagram.octets ++ frame.padding) := by
  have addresses : (frame.destination.val ++ frame.source.val).length = 12 := by
    rw [List.length_append, frame.destination.property, frame.source.property]
  rw [FlowProbe.Frame.network?, octets, List.drop_left' addresses]
  exact untag_tags frame.few frame.datagram.isTag_kind _

theorem parse?_octets (frame : Frame) :
    Packet.parse? frame.octets = some frame.datagram.packet := by
  simp only [Packet.parse?, network?_octets, Option.bind_eq_bind, Option.bind_some,
    Datagram.read?_octets, Datagram.ofDatagram?_content]

/-- A frame is parsed into what it was written with, and the number of the protocol is that of the
segment, however many headers stand in front of it. Only the two spare bits of a fragment header
must be clear: of a frame with one of them set nothing is shown behind the first header. -/
theorem parse_written_frame (frame : Frame) :
    Packet.parse? frame.octets = some (
      if frame.datagram.misread then {
        source := ⟨frame.datagram.source, 0⟩
        destination := ⟨frame.datagram.destination, 0⟩
        proto := frame.datagram.declared
        version := frame.datagram.version
        hops := frame.datagram.hops
        tcp := none }
      else {
        source := ⟨frame.datagram.source, frame.datagram.segment.sourcePort⟩
        destination := ⟨frame.datagram.destination, frame.datagram.segment.destinationPort⟩
        proto := frame.datagram.segment.proto
        version := frame.datagram.version
        hops := frame.datagram.hops
        tcp := frame.datagram.segment.tcpHeader? }) := by
  rw [parse?_octets, Datagram.packet]

-- A connection request behind a fragment header that splits nothing, with a spare bit set.
def veiled : Frame where
  destination := ⟨[2, 0, 0, 0, 0, 1], rfl⟩
  source := ⟨[2, 0, 0, 0, 0, 2], rfl⟩
  tags := []
  few := Nat.zero_le 2
  datagram := .v6 {
    trafficClass := 0
    flowLabel := ⟨0, Nat.two_pow_pos 20⟩
    hops := 64
    source := ⟨[0x20, 0x01, 0x0d, 0xb8, 0, 0, 0, 0, 0, 0, 0, 0, 0, 0, 0, 1], rfl⟩
    destination := ⟨[0x20, 0x01, 0x0d, 0xb8, 0, 0, 0, 0, 0, 0, 0, 0, 0, 0, 0, 2], rfl⟩
    extensions := ⟨none, none, none, some ⟨0, ⟨1, by decide⟩, 9⟩, none, none, nofun⟩
    segment := .tcp {
      sourcePort := 4000
      destinationPort := 443
      sequence := 7
      acknowledgment := 9
      reserved := ⟨0, by decide⟩
      control := ⟨false, false, false, false, false, false, true, false⟩
      window := 512
      checksum := 0
      urgent := 0
      optionWords := ⟨0, by decide⟩
      options := ⟨[], rfl⟩
      payload := [] }
    fits := by decide }
  padding := []

theorem spare_bit_hides_segment :
    veiled.octets = [2, 0, 0, 0, 0, 1, 2, 0, 0, 0, 0, 2, 0x86, 0xdd,
      0x60, 0, 0, 0, 0, 28, 44, 64,
      0x20, 0x01, 0x0d, 0xb8, 0, 0, 0, 0, 0, 0, 0, 0, 0, 0, 0, 1,
      0x20, 0x01, 0x0d, 0xb8, 0, 0, 0, 0, 0, 0, 0, 0, 0, 0, 0, 2,
      6, 0, 0, 2, 0, 0, 0, 9,
      0x0f, 0xa0, 0x01, 0xbb, 0, 0, 0, 7, 0, 0, 0, 9, 0x50, 0x02, 2, 0, 0, 0, 0, 0] ∧
    veiled.datagram.segment.proto = 6 ∧
    veiled.datagram.segment.sourcePort = 4000 ∧
    (Packet.parse? veiled.octets).map Packet.proto = some 44 ∧
    (Packet.parse? veiled.octets).map (fun packet => packet.source.port) = some 0 ∧
    (Packet.parse? veiled.octets).bind Packet.tcp = none := by
  rw [parse?_octets]
  exact ⟨by decide, rfl, rfl, rfl, rfl, rfl⟩

-- A query of two octets, without tags and options.
example : octets {
    destination := ⟨[2, 0, 0, 0, 0, 2], rfl⟩
    source := ⟨[2, 0, 0, 0, 0, 1], rfl⟩
    tags := []
    few := Nat.zero_le 2
    datagram := .v4 {
      service := 0
      identification := 7
      reserved := false
      dontFragment := true
      hops := 64
      checksum := 0x26c6
      source := ⟨[10, 0, 0, 1], rfl⟩
      destination := ⟨[10, 0, 0, 2], rfl⟩
      optionWords := 0
      options := ⟨[], rfl⟩
      authentication := none
      segment := .udp ⟨1234, 53, 10, 0, [1, 2]⟩
      fits := by decide }
    padding := [] } =
      [2, 0, 0, 0, 0, 2, 2, 0, 0, 0, 0, 1, 0x08, 0x00,
        0x45, 0, 0, 30, 0, 7, 0x40, 0, 64, 17, 0x26, 0xc6, 10, 0, 0, 1, 10, 0, 0, 2,
        0x04, 0xd2, 0, 53, 0, 10, 0, 0, 1, 2] :=
  rfl

/-- Two frames of one conversation in opposite directions, whatever else they hold. -/
def Answers (frame other : Frame) : Prop :=
  frame.datagram.source = other.datagram.destination ∧
    frame.datagram.destination = other.datagram.source ∧
    frame.datagram.segment.sourcePort = other.datagram.segment.destinationPort ∧
    frame.datagram.segment.destinationPort = other.datagram.segment.sourcePort ∧
    frame.datagram.segment.proto = other.datagram.segment.proto ∧
    frame.datagram.misread = false ∧ other.datagram.misread = false

theorem answers_octets {frame other : Frame} (answers : frame.Answers other) :
    ∃ packet answer, Packet.parse? frame.octets = some packet ∧
      Packet.parse? other.octets = some answer ∧ packet.Answers answer := by
  obtain ⟨back, forth, port, gate, proto, plain, plain'⟩ := answers
  refine ⟨_, _, frame.parse?_octets, other.parse?_octets, ?_⟩
  simp [Packet.Answers, Datagram.packet, plain, plain', back, forth, port, gate, proto]

end Frame

end FlowProbe.Wire
