import FlowProbe.Proofs.Hub.Membership
import FlowProbe.Proofs.Wire.Extent

set_option autoImplicit false

namespace FlowProbe

namespace Wire

def tagged (tag : Tag) (frame : List UInt8) : List UInt8 :=
  frame.take 12 ++ (tag.octets ++ frame.drop 12)

variable {frame : List UInt8} (long : 12 ≤ frame.length) (tag : Tag)
include long

theorem drop_tagged : (tagged tag frame).drop 12 = tag.octets ++ frame.drop 12 :=
  List.drop_left' (by rw [List.length_take, Nat.min_eq_left long])

theorem tagCount_tagged :
    tagCount ((tagged tag frame).drop 12) = tagCount (frame.drop 12) + 1 := by
  rw [drop_tagged long]
  simp [Tag.octets, Octets.bigEndian_two, tagCount, isTag_number]

theorem network?_tagged (few : tagCount (frame.drop 12) ≤ 1) :
    FlowProbe.Frame.network? (tagged tag frame) = FlowProbe.Frame.network? frame := by
  rw [FlowProbe.Frame.network?, drop_tagged long, untag_tag]
  exact (untag_succ few).symm

theorem network?_overtagged (many : 2 ≤ tagCount (frame.drop 12)) :
    FlowProbe.Frame.network? (tagged tag frame) = none := by
  apply untag_crowded
  rw [tagCount_tagged long]
  omega

end Wire

theorem Packet.parse?_congr {frame other : List UInt8}
    (same : Frame.network? frame = Frame.network? other) : parse? frame = parse? other := by
  rw [parse?, same, parse?]

namespace Wire

/-- A tag more changes neither what a frame is parsed into nor where it goes, whatever the frame is.
Of a frame with two tags the copy has one too many, and is not parsed. -/
theorem tagged_copy_alike {frame : List UInt8} (long : 14 ≤ frame.length) (tag : Tag) :
    (tagCount (frame.drop 12) ≤ 1 →
      Packet.parse? (tagged tag frame) = Packet.parse? frame ∧
        (Packet.parse? (tagged tag frame)).map Packet.key =
          (Packet.parse? frame).map Packet.key ∧
        ∀ (hub : Hub) (captured copy : Captured), captured.bytes = frame →
          copy.bytes = tagged tag frame → (hub.inject copy).1 = (hub.inject captured).1) ∧
    (2 ≤ tagCount (frame.drop 12) → Packet.parse? (tagged tag frame) = none) := by
  have addresses : 12 ≤ frame.length := by omega
  constructor
  next =>
    intro few
    have same := Packet.parse?_congr (network?_tagged addresses tag few)
    refine ⟨same, congrArg (Option.map Packet.key) same, ?_⟩
    intro hub captured copy plain more
    apply hub.slot_congr
    rw [plain, more, same]
  next =>
    intro many
    rw [Packet.parse?, network?_overtagged addresses tag many]
    rfl

theorem timestamp_tagged_twice :
    let once := tagged ⟨.service, 7⟩ timestampFrame
    14 ≤ timestampFrame.length ∧ tagCount (timestampFrame.drop 12) = 1 ∧
      Packet.parse? once = some timestampPacket ∧
      Packet.parse? (tagged ⟨.doubled, 9⟩ once) = none := by
  intro once
  have parsed : Packet.parse? timestampFrame = some timestampPacket := by decide
  have few : tagCount (timestampFrame.drop 12) ≤ 1 := by decide
  have many : 2 ≤ tagCount (once.drop 12) := by decide
  have long : 14 ≤ timestampFrame.length := by decide
  exact ⟨long, rfl, ((tagged_copy_alike long ⟨.service, 7⟩).1 few).1.trans parsed,
    (tagged_copy_alike (by decide) ⟨.doubled, 9⟩).2 many⟩

end Wire

end FlowProbe
