import FlowProbe.Packet
import FlowProbe.Proofs.Octets

set_option autoImplicit false

namespace FlowProbe

theorem Address.rank_lt_rank (octets : Octets 4) (other : Octets 16) :
    (Address.v4 octets).rank < (Address.v6 other).rank := by
  have small := Octets.big_lt octets.val
  rw [octets.property] at small
  exact Nat.lt_of_lt_of_le small (Nat.le_add_right UInt32.size _)

theorem Address.rank_injective {a b : Address} (same : a.rank = b.rank) : a = b := by
  cases a with
  | v4 octets =>
    cases b with
    | v4 other =>
      have width : octets.val.length = other.val.length := by rw [octets.2, other.2]
      exact congrArg _ (Subtype.ext (Octets.big_injective width same))
    | v6 other => exact absurd same (Nat.ne_of_lt (rank_lt_rank octets other))
  | v6 octets =>
    cases b with
    | v4 other => exact absurd same (Nat.ne_of_gt (rank_lt_rank other octets))
    | v6 other =>
      have width : octets.val.length = other.val.length := by rw [octets.2, other.2]
      exact congrArg _ (Subtype.ext (Octets.big_injective width (Nat.add_left_cancel same)))

theorem Endpoint.le_iff {a b : Endpoint} : a ≤ b ↔ a.rank ≤ b.rank :=
  Iff.rfl

theorem Endpoint.rank_injective {a b : Endpoint} (same : a.rank = b.rank) : a = b := by
  obtain ⟨addr, port⟩ := a
  obtain ⟨other, gate⟩ := b
  have low := port.toNat_lt
  have low' := gate.toNat_lt
  simp only [rank] at same
  have ports : port = gate := UInt16.toNat_inj.mp (by omega)
  have addresses : addr = other := Address.rank_injective (by omega)
  rw [ports, addresses]

namespace FlowKey

theorem between_comm (a b : Endpoint) (proto : UInt8) : between a b proto = between b a proto := by
  by_cases level : a.rank = b.rank
  next => rw [Endpoint.rank_injective level]
  next =>
    -- Of two different endpoints exactly one is the lower.
    have lower : b ≤ a ↔ ¬a ≤ b := by
      rw [Endpoint.le_iff, Endpoint.le_iff]
      omega
    by_cases first : a ≤ b <;> simp [between, lower, first]

theorem port_of_octets {port gate : UInt16} {rest other : List UInt8}
    (same : Octets.littleEndian 2 port.toNat ++ rest = Octets.littleEndian 2 gate.toNat ++ other) :
    port = gate ∧ rest = other := by
  obtain ⟨ports, rests⟩ := List.append_inj same (by simp)
  have low := port.toNat_lt
  have low' := gate.toNat_lt
  exact ⟨UInt16.toNat_inj.mp (Octets.littleEndian_injective low low' ports), rests⟩

theorem address_of_octets {addr addr' : Address} {rest other : List UInt8}
    (version : addr.version = addr'.version)
    (same : addr.bytes ++ rest = addr'.bytes ++ other) : addr = addr' ∧ rest = other := by
  cases addr with
  | v4 octets =>
    cases addr' with
    | v4 octets' =>
      obtain ⟨bytes, rests⟩ := List.append_inj same (octets.2.trans octets'.2.symm)
      exact ⟨congrArg _ (Subtype.ext bytes), rests⟩
    | v6 octets' => cases version
  | v6 octets =>
    cases addr' with
    | v4 octets' => cases version
    | v6 octets' =>
      obtain ⟨bytes, rests⟩ := List.append_inj same (octets.2.trans octets'.2.symm)
      exact ⟨congrArg _ (Subtype.ext bytes), rests⟩

theorem endpoint_of_octets {a b : Endpoint} {rest other : List UInt8}
    (same : endpointOctets a ++ rest = endpointOctets b ++ other) : a = b ∧ rest = other := by
  obtain ⟨addr, port⟩ := a
  obtain ⟨addr', port'⟩ := b
  simp only [endpointOctets, List.append_assoc] at same
  -- Addresses differ in length, but only after their variants have differed.
  obtain ⟨variants, same⟩ := List.append_inj same (by simp)
  have version : addr.version = addr'.version := by
    cases addr <;> cases addr' <;> simp [Octets.littleEndian, Address.version] at variants ⊢
  obtain ⟨rfl, ports⟩ := address_of_octets version same
  obtain ⟨rfl, rests⟩ := port_of_octets ports
  exact ⟨rfl, rests⟩

theorem octets_injective {key other : FlowKey} (same : key.octets = other.octets) :
    key = other := by
  simp only [octets, List.append_assoc] at same
  obtain ⟨low, same⟩ := endpoint_of_octets same
  obtain ⟨high, same⟩ := endpoint_of_octets same
  obtain ⟨proto, -⟩ := List.cons.inj same
  cases key
  cases other
  cases low
  cases high
  cases proto
  rfl

theorem between_eq_iff {a b c d : Endpoint} {proto other : UInt8} :
    between a b proto = between c d other ↔ proto = other ∧ (a = c ∧ b = d ∨ a = d ∧ b = c) := by
  constructor
  next =>
    intro same
    by_cases first : a ≤ b <;> by_cases second : c ≤ d <;>
      simp only [between, first, second, dif_pos, dif_neg, not_false_eq_true, FlowKey.mk.injEq] at same
    next => exact ⟨same.2.2, .inl ⟨same.1, same.2.1⟩⟩
    next => exact ⟨same.2.2, .inr ⟨same.1, same.2.1⟩⟩
    next => exact ⟨same.2.2, .inr ⟨same.2.1, same.1⟩⟩
    next => exact ⟨same.2.2, .inl ⟨same.2.1, same.1⟩⟩
  next =>
    rintro ⟨rfl, ⟨rfl, rfl⟩ | ⟨rfl, rfl⟩⟩
    next => rfl
    next => exact between_comm a b proto

/-- Two keys are equal exactly when they are made of the same two endpoints, in either order, and the
same protocol; and the hash reads the same of two keys only if they are equal. -/
theorem octets_identify_conversation (a b c d : Endpoint) (proto other : UInt8) :
    (between a b proto = between c d other ↔
        proto = other ∧ (a = c ∧ b = d ∨ a = d ∧ b = c)) ∧
      ((between a b proto).octets = (between c d other).octets ↔
        between a b proto = between c d other) ∧
      (between a b proto).fanoutHash = (between b a proto).fanoutHash := by
  refine ⟨between_eq_iff, ⟨octets_injective, congrArg octets⟩, ?_⟩
  rw [between_comm]

theorem slot_lt (key : FlowKey) {members : Nat} (occupied : 0 < members) :
    key.slot members < members :=
  Nat.mod_lt _ occupied

end FlowKey

namespace Packet

/-- Packets of one conversation, in opposite directions. -/
def Answers (packet other : Packet) : Prop :=
  packet.source = other.destination ∧ packet.destination = other.source ∧
    packet.proto = other.proto

theorem key_of_answers {packet other : Packet} (answers : packet.Answers other) :
    packet.key = other.key := by
  obtain ⟨back, forth, proto⟩ := answers
  rw [key, key, back, forth, proto, FlowKey.between_comm]

end Packet

end FlowProbe
