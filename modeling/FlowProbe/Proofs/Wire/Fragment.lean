import FlowProbe.Proofs.Wire.Chain
import FlowProbe.Proofs.Wire.Extent

set_option autoImplicit false

namespace FlowProbe.Wire

def Header6.packet (header : Header6) : Option FlowProbe.Segment → Packet :=
  Packet.ofLayers {
    version := .v6
    source := .v6 header.source
    destination := .v6 header.destination
    declared := header.declared
    hops := header.hops
    payload := none }

theorem Header6.packet?_octets (header : Header6) (rest : List UInt8) :
    (Datagram.read6? (header.octets ++ rest)).bind Packet.ofDatagram? =
      if header.first.toNat / 16 = 6 ∧ header.length ≤ rest.length then
        ((Datagram.extensions? header.declared (header.body rest)).bind
          Datagram.Carried.segment?).map header.packet
      else none := by
  have made (carried : Datagram.Carried) :
      Packet.ofDatagram? (header.datagram carried) = carried.segment?.map header.packet := by
    rw [Packet.ofDatagram?, datagram, Datagram.Carried.segment?]
    cases carried.fragmented
    next =>
      refine Option.map_congr fun segment _ => ?_
      cases segment <;> rfl
    next => rfl
  rw [read6?_octets]
  split
  next =>
    cases Datagram.extensions? header.declared (header.body rest) with
    | none => rfl
    | some carried => exact made carried
  next => rfl

structure Part6 where
  header : Header6
  front : List UInt8
  leads : Leads header.declared front
  fragment : FragmentHeader
  next : UInt8
  rest : List UInt8
  within : header.length = 0 ∨ front.length + 8 ≤ header.length

namespace Part6

def octets (part : Part6) : List UInt8 :=
  part.header.octets ++ (part.front ++ (part.fragment.octets part.next ++ part.rest))

def unmarked (part : Part6) : Part6 :=
  { part with fragment := { part.fragment with markHigh := 0, markLow := 0 } }

def payload (part : Part6) : List UInt8 :=
  if part.header.length = 0 then part.rest
  else part.rest.take (part.header.length - (part.front.length + 8))

theorem length_fragment (part : Part6) : (part.fragment.octets part.next).length = 8 := by
  simp [FragmentHeader.octets, part.fragment.identification.property]

theorem body_octets (part : Part6) :
    part.header.body (part.front ++ (part.fragment.octets part.next ++ part.rest)) =
      part.front ++ (part.fragment.octets part.next ++ part.payload) := by
  rw [Header6.body, payload]
  split
  next => rfl
  next stated =>
    have within := part.within.resolve_left stated
    rw [List.take_append, List.take_append, length_fragment,
      List.take_of_length_le (by omega), List.take_of_length_le (by rw [length_fragment]; omega),
      Nat.sub_sub]

-- Either the fragment header is never met and no segment is looked for, or it is and forbids one.
theorem segment_eq_none (part : Part6) (shown : part.fragment.shown = true)
    {segment? : Option FlowProbe.Segment}
    (read : (Datagram.extensions? part.header.declared
      (part.front ++ (part.fragment.octets part.next ++ part.payload))).bind
        Datagram.Carried.segment? = some segment?) : segment? = none := by
  rcases extensions?_reaches part.leads with ⟨outcome, nothing, same⟩ | ⟨budget, met, split, reads⟩
  next =>
    beta_reduce at same
    rw [same] at read
    rcases nothing with rfl | rfl
    next => cases read
    next => exact (Option.some.inj read).symm
  next =>
    beta_reduce at reads
    rw [reads, shown, Bool.or_true] at read
    exact segmentFrom?_split budget met part.next part.payload read

theorem mark_unmarked (part : Part6) : part.unmarked.fragment.mark = 0 := by
  change Octets.word 0 0 = 0
  decide

theorem segment_unmarked (part : Part6) (unshown : part.fragment.shown = false) :
    (Datagram.extensions? part.header.declared
      (part.front ++ (part.fragment.octets part.next ++ part.payload))).bind
        Datagram.Carried.segment? =
      (Datagram.extensions? part.header.declared
        (part.front ++ (part.unmarked.fragment.octets part.next ++ part.payload))).bind
          Datagram.Carried.segment? := by
  have whole : part.unmarked.fragment.shown = false :=
    part.unmarked.fragment.shown_eq_false_iff.mpr (.inl part.mark_unmarked)
  rcases extensions?_reaches part.leads with ⟨outcome, -, same⟩ | ⟨budget, met, split, reads⟩
  next => exact (same _).trans (same _).symm
  next =>
    beta_reduce at reads
    rw [reads, reads, unshown, whole]

end Part6

inductive Part where
  | v4 (header : Header4) (rest : List UInt8)
  | v6 (part : Part6)

namespace Part

def kind : Part → UInt16
  | .v4 .. => 0x0800
  | .v6 _ => 0x86dd

def octets : Part → List UInt8
  | .v4 header rest => header.octets ++ rest
  | .v6 part => part.octets

def source : Part → Address
  | .v4 header _ => .v4 header.source
  | .v6 part => .v6 part.header.source

def destination : Part → Address
  | .v4 header _ => .v4 header.destination
  | .v6 part => .v6 part.header.destination

def declared : Part → UInt8
  | .v4 header _ => header.declared
  | .v6 part => part.header.declared

def hops : Part → UInt8
  | .v4 header _ => header.hops
  | .v6 part => part.header.hops

def Splits : Part → Prop
  | .v4 header _ => header.mark.toNat / 8192 % 2 = 1 ∨ header.mark.toNat % 8192 ≠ 0
  | .v6 part => part.fragment.mark.toNat % 2 = 1 ∨ part.fragment.mark.toNat / 8 ≠ 0

/-- The last piece of a version 6 datagram, at four, eight or twelve blocks of eight octets. -/
def Overlooked : Part → Prop
  | .v4 .. => False
  | .v6 part =>
    part.fragment.mark = 0x20 ∨ part.fragment.mark = 0x40 ∨ part.fragment.mark = 0x60

def unmarked : Part → Part
  | .v4 header rest => .v4 { header with markHigh := 0, markLow := 0 } rest
  | .v6 part => .v6 part.unmarked

def packet (part : Part) : Packet where
  source := ⟨part.source, 0⟩
  destination := ⟨part.destination, 0⟩
  proto := part.declared
  version := part.source.version
  hops := part.hops
  tcp := none

theorem isTag_kind (part : Part) : FlowProbe.Frame.isTag part.kind = false := by
  cases part <;> rfl

theorem eq_packet {part : Part} {packet : Packet} (splits : part.Splits)
    (noticed : ¬part.Overlooked)
    (read : (Datagram.read? part.kind part.octets).bind Packet.ofDatagram? = some packet) :
    packet = part.packet := by
  cases part with
  | v4 header rest =>
    -- The mark alone decides; an authentication header is read and its contents are not used.
    have split : header.mark.toNat % 16384 ≠ 0 := by
      simp only [Splits] at splits
      omega
    change (Datagram.read4? (header.octets ++ rest)).bind Packet.ofDatagram? = some packet at read
    rw [Header4.read4?_octets] at read
    split at read
    next =>
      obtain ⟨datagram, made, shown⟩ := Option.bind_eq_some_iff.mp read
      obtain ⟨carried, -, rfl⟩ := Option.map_eq_some_iff.mp made
      rw [Packet.ofDatagram?, Header4.datagram, if_pos split] at shown
      exact (Option.some.inj shown).symm
    next => cases read
  | v6 part =>
    have shown : part.fragment.shown = true := by
      rw [← Bool.not_eq_false, FragmentHeader.shown_eq_false_iff]
      rintro (zero | overlooked)
      next => simp [Splits, zero] at splits
      next => exact noticed overlooked
    change (Datagram.read6? part.octets).bind Packet.ofDatagram? = some packet at read
    rw [Part6.octets, Header6.packet?_octets, Part6.body_octets] at read
    split at read
    next =>
      obtain ⟨segment, found, rfl⟩ := Option.map_eq_some_iff.mp read
      rw [part.segment_eq_none shown found]
      rfl
    next => cases read

theorem read?_unmarked {part : Part} (overlooked : part.Overlooked) :
    (Datagram.read? part.kind part.octets).bind Packet.ofDatagram? =
      (Datagram.read? part.kind part.unmarked.octets).bind Packet.ofDatagram? := by
  cases part with
  | v4 => cases overlooked
  | v6 part =>
    have unshown : part.fragment.shown = false :=
      part.fragment.shown_eq_false_iff.mpr (.inr overlooked)
    change (Datagram.read6? part.octets).bind Packet.ofDatagram? =
      (Datagram.read6? part.unmarked.octets).bind Packet.ofDatagram?
    rw [Part6.octets, Header6.packet?_octets, Part6.body_octets, part.segment_unmarked unshown,
      Part6.octets, Header6.packet?_octets, Part6.body_octets]
    simp only [List.length_append, Part6.length_fragment]
    rfl

end Part

structure PartFrame where
  addresses : Octets 12
  tags : List Tag
  part : Part

namespace PartFrame

def octets (frame : PartFrame) : List UInt8 :=
  frame.addresses.val ++ (frame.tags.flatMap Tag.octets ++
    (Octets.bigEndian 2 frame.part.kind.toNat ++ frame.part.octets))

def unmarked (frame : PartFrame) : PartFrame :=
  { frame with part := frame.part.unmarked }

theorem parse?_octets (frame : PartFrame) :
    Packet.parse? frame.octets =
      if frame.tags.length ≤ 2 then
        (Datagram.read? frame.part.kind frame.part.octets).bind Packet.ofDatagram?
      else none := by
  have network : FlowProbe.Frame.network? frame.octets =
      if frame.tags.length ≤ 2 then some (frame.part.kind, frame.part.octets) else none := by
    rw [FlowProbe.Frame.network?, octets, List.drop_left' frame.addresses.property]
    split
    next few => exact untag_tags few frame.part.isTag_kind _
    next many =>
      apply untag_crowded
      have counted := tagCount_tags frame.tags
        (Octets.bigEndian 2 frame.part.kind.toNat ++ frame.part.octets)
      omega
  rw [Packet.parse?, network]
  split <;> rfl

theorem parse?_eq_packet {frame : PartFrame} {packet : Packet} (splits : frame.part.Splits)
    (noticed : ¬frame.part.Overlooked) (parsed : Packet.parse? frame.octets = some packet) :
    packet = frame.part.packet := by
  rw [parse?_octets] at parsed
  split at parsed
  next => exact Part.eq_packet splits noticed parsed
  next => cases parsed

theorem parse?_unmarked {frame : PartFrame} (overlooked : frame.part.Overlooked) :
    Packet.parse? frame.octets = Packet.parse? frame.unmarked.octets := by
  have kind : frame.unmarked.part.kind = frame.part.kind := by
    rw [unmarked]
    cases frame.part <;> rfl
  rw [parse?_octets, parse?_octets, kind, Part.read?_unmarked overlooked]
  rfl

end PartFrame

end FlowProbe.Wire
