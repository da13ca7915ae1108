import FlowProbe.Proofs.Hub.Membership
import FlowProbe.Proofs.Wire.Fragment

set_option autoImplicit false

namespace FlowProbe.Wire

/-- Parts that are sent between the same two addresses, under the same number. -/
structure Part.Akin (part other : Part) : Prop where
  declared : part.declared = other.declared
  addresses : part.source = other.source ∧ part.destination = other.destination ∨
    part.source = other.destination ∧ part.destination = other.source

theorem Part.key_of_akin {part other : Part} (akin : part.Akin other) :
    part.packet.key = other.packet.key := by
  refine FlowKey.between_eq_iff.mpr ⟨akin.declared, ?_⟩
  rcases akin.addresses with ⟨source, destination⟩ | ⟨source, destination⟩
  next => exact .inl ⟨congrArg (Endpoint.mk · 0) source, congrArg (Endpoint.mk · 0) destination⟩
  next => exact .inr ⟨congrArg (Endpoint.mk · 0) source, congrArg (Endpoint.mk · 0) destination⟩

/-- Whatever they carry, parts show no ports and no TCP header and stay together, as long as their
fragment headers are seen. Where it is overlooked, a part is read as a whole datagram. -/
theorem fragments_stay_together {frame other : PartFrame} {packet answer : Packet}
    (splits : frame.part.Splits) (splits' : other.part.Splits) (akin : frame.part.Akin other.part)
    (parsed : Packet.parse? frame.octets = some packet)
    (parsed' : Packet.parse? other.octets = some answer) :
    (¬frame.part.Overlooked → ¬other.part.Overlooked →
      (∀ shown ∈ [packet, answer],
        shown.source.port = 0 ∧ shown.destination.port = 0 ∧ shown.tcp = none) ∧
      packet.key = answer.key ∧ packet.key.fanoutHash = answer.key.fanoutHash ∧
      ∀ (hub : Hub) (captured copy : Captured), captured.bytes = frame.octets →
        copy.bytes = other.octets → (hub.inject captured).1 = (hub.inject copy).1) ∧
    (frame.part.Overlooked →
      Packet.parse? frame.octets = Packet.parse? frame.unmarked.octets) := by
  refine ⟨?_, PartFrame.parse?_unmarked⟩
  intro noticed noticed'
  have shown : packet = frame.part.packet := PartFrame.parse?_eq_packet splits noticed parsed
  have shown' : answer = other.part.packet := PartFrame.parse?_eq_packet splits' noticed' parsed'
  have same : packet.key = answer.key := by
    rw [shown, shown']
    exact Part.key_of_akin akin
  refine ⟨?_, same, congrArg FlowKey.fanoutHash same, ?_⟩
  next =>
    rw [shown, shown']
    simp [Part.packet]
  next =>
    intro hub captured copy bytes bytes'
    apply hub.slot_congr
    rw [bytes, bytes', parsed, parsed', Option.map_some, Option.map_some, same]

def segmentLike (port : UInt8) : List UInt8 :=
  [0, port, 0, 80] ++ List.replicate 8 0 ++ [0x50, 2, 1, 0, 0, 0, 0, 0]

def piece (mark length : UInt8) (within : 8 ≤ (Octets.word 0 length).toNat) (rest : List UInt8) :
    PartFrame where
  addresses := ⟨List.replicate 12 0, rfl⟩
  tags := []
  part := .v6 {
    header := ⟨0x60, 0, 0, 0, 0, length, 44, 64, ⟨0xfd :: List.replicate 15 1, rfl⟩,
      ⟨0xfd :: List.replicate 15 2, rfl⟩⟩
    front := []
    leads := .here
    fragment := ⟨0, 0, mark, ⟨[0, 0, 0, 7], rfl⟩⟩
    next := 6
    rest
    within := .inr within }

def firstPiece : PartFrame :=
  piece 0x01 40 (by decide) (segmentLike 99 ++ List.replicate 12 0)

def middlePiece : PartFrame :=
  piece 0x18 28 (by decide) (segmentLike 98)

def lastPiece : PartFrame :=
  piece 0x20 28 (by decide) (segmentLike 98)

theorem first_and_middle_piece_together :
    firstPiece.part.Splits ∧ middlePiece.part.Splits ∧
      firstPiece.part.Akin middlePiece.part ∧
      ∃ packet answer, Packet.parse? firstPiece.octets = some packet ∧
        Packet.parse? middlePiece.octets = some answer ∧ packet.key = answer.key := by
  have splits : firstPiece.part.Splits := .inl (by decide)
  have splits' : middlePiece.part.Splits := .inr (by decide)
  have akin : firstPiece.part.Akin middlePiece.part := ⟨rfl, .inl ⟨rfl, rfl⟩⟩
  have parsed : Packet.parse? firstPiece.octets = some firstPiece.part.packet := by decide
  have parsed' : Packet.parse? middlePiece.octets = some middlePiece.part.packet := by decide
  obtain ⟨together, -⟩ := fragments_stay_together splits splits' akin parsed parsed'
  have noticed : ¬firstPiece.part.Overlooked := by
    rintro (mark | mark | mark) <;> revert mark <;> decide
  have noticed' : ¬middlePiece.part.Overlooked := by
    rintro (mark | mark | mark) <;> revert mark <;> decide
  exact ⟨splits, splits', akin, _, _, parsed, parsed', (together noticed noticed').2.1⟩

/-- Both are parts of one datagram, and yet the last shows ports that it does not have. -/
theorem last_piece_apart :
    firstPiece.part.Splits ∧ lastPiece.part.Splits ∧ firstPiece.part.Akin lastPiece.part ∧
      ∃ packet answer, Packet.parse? firstPiece.octets = some packet ∧
        Packet.parse? lastPiece.octets = some answer ∧ answer.source.port = 98 ∧
        answer.tcp ≠ none ∧ packet.key ≠ answer.key := by
  have read : ∃ answer, Packet.parse? lastPiece.octets = some answer ∧ answer.source.port = 98 ∧
      answer.tcp ≠ none ∧ firstPiece.part.packet.key ≠ answer.key :=
    ⟨((Packet.parse? lastPiece.octets).get (by decide)), by decide⟩
  obtain ⟨answer, parsed, port, tcp, apart⟩ := read
  exact ⟨.inl (by decide), .inr (by decide), ⟨rfl, .inl ⟨rfl, rfl⟩⟩, firstPiece.part.packet,
    answer, by decide, parsed, port, tcp, apart⟩

end FlowProbe.Wire
