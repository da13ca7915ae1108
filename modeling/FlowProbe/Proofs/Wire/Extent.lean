import FlowProbe.Packet
import FlowProbe.Proofs.Wire.Header
import FlowProbe.Proofs.Wire.Tag

set_option autoImplicit false

namespace FlowProbe

namespace Wire

def linkLength (frame : List UInt8) : Nat :=
  14 + 4 * tagCount (frame.drop 12)

/-- The length that a network header states, which in version 6 does not count the header. -/
def statedLength : IpVersion → List UInt8 → Nat
  | .v4, bytes => Octets.big ((bytes.drop 2).take 2)
  | .v6, bytes => Octets.big ((bytes.drop 4).take 2)

def datagramLength : IpVersion → List UInt8 → Nat
  | .v4, bytes => statedLength .v4 bytes
  | .v6, bytes => 40 + statedLength .v6 bytes

/-- Where the datagram in a frame ends, counted from the front of the frame. -/
def extent (version : IpVersion) (frame : List UInt8) : Nat :=
  linkLength frame + datagramLength version (frame.drop (linkLength frame))

theorem big_word (high low : UInt8) : Octets.big [high, low] = (Octets.word high low).toNat := by
  have first := high.toNat_lt
  have second := low.toNat_lt
  simp only [Octets.big, Octets.word, List.foldl_cons, List.foldl_nil, UInt16.toNat_ofNat']
  omega

theorem datagramLength_header4 (header : Header4) (rest : List UInt8) :
    datagramLength .v4 (header.octets ++ rest) = header.total :=
  big_word header.totalHigh header.totalLow

theorem statedLength_header6 (header : Header6) (rest : List UInt8) :
    statedLength .v6 (header.octets ++ rest) = header.length :=
  big_word header.lengthHigh header.lengthLow

theorem exists_agreeing {front rest other : List UInt8} {reach : Nat}
    (within : front.length ≤ reach) (agree : other.take reach = (front ++ rest).take reach) :
    ∃ rest', other = front ++ rest' ∧
      rest'.take (reach - front.length) = rest.take (reach - front.length) := by
  have start : other.take front.length = front := by
    have cut := congrArg (List.take front.length) agree
    rwa [List.take_take, List.take_take, Nat.min_eq_left within, List.take_left] at cut
  refine ⟨other.drop front.length, ?_, ?_⟩
  next =>
    have whole := List.take_append_drop front.length other
    rw [start] at whole
    exact whole.symm
  next =>
    have cut := congrArg (List.drop front.length) agree
    rwa [List.drop_take, List.drop_take, List.drop_left] at cut

theorem length_of_agreeing {bytes other : List UInt8} {reach : Nat} (within : reach ≤ bytes.length)
    (agree : other.take reach = bytes.take reach) : reach ≤ other.length := by
  have lengths := congrArg List.length agree
  rw [List.length_take, List.length_take] at lengths
  omega

/-- A reader of datagrams sees no further than the length that the header states. -/
structure Bounded (version : IpVersion) (read? : List UInt8 → Option Datagram) (bytes : List UInt8)
    (datagram : Datagram) : Prop where
  of : datagram.version = version
  long : 20 ≤ bytes.length
  reach : datagramLength version bytes ≤ bytes.length
  agree : (version = .v6 → statedLength .v6 bytes ≠ 0) → ∀ other,
    other.take (datagramLength version bytes) = bytes.take (datagramLength version bytes) →
      read? other = some datagram

theorem bounded_read4? {bytes : List UInt8} {datagram : Datagram}
    (read : Datagram.read4? bytes = some datagram) :
    Bounded .v4 Datagram.read4? bytes datagram := by
  have long : 20 ≤ bytes.length := by
    apply Nat.le_of_not_lt
    intro short
    rw [Header4.read4?_short short] at read
    cases read
  obtain ⟨header, rest, rfl⟩ := Header4.exists_of_length long
  rw [Header4.read4?_octets] at read
  split at read
  next sound =>
    obtain ⟨version, least, most, fits⟩ := sound
    obtain ⟨carried, found, rfl⟩ := Option.map_eq_some_iff.mp read
    have reach : header.total ≤ (header.octets ++ rest).length := by
      rw [List.length_append, Header4.length_octets]
      exact fits
    refine ⟨rfl, long, (datagramLength_header4 header rest).symm ▸ reach, ?_⟩
    intro _ other agree
    rw [datagramLength_header4] at agree
    have fits' := length_of_agreeing reach agree
    obtain ⟨rest', rfl, same⟩ := exists_agreeing (by rw [Header4.length_octets]; omega) agree
    rw [List.length_append, Header4.length_octets] at fits'
    rw [Header4.length_octets] at same
    rw [Header4.read4?_octets, if_pos ⟨version, least, most, fits'⟩, same, found]
    rfl
  next => cases read

theorem bounded_read6? {bytes : List UInt8} {datagram : Datagram}
    (read : Datagram.read6? bytes = some datagram) :
    Bounded .v6 Datagram.read6? bytes datagram := by
  have long : 40 ≤ bytes.length := by
    apply Nat.le_of_not_lt
    intro short
    rw [Header6.read6?_short short] at read
    cases read
  obtain ⟨header, rest, rfl⟩ := Header6.exists_of_length long
  rw [Header6.read6?_octets] at read
  split at read
  next sound =>
    obtain ⟨version, fits⟩ := sound
    obtain ⟨carried, found, rfl⟩ := Option.map_eq_some_iff.mp read
    have states : datagramLength .v6 (header.octets ++ rest) = 40 + header.length :=
      congrArg (40 + ·) (statedLength_header6 header rest)
    have reach : 40 + header.length ≤ (header.octets ++ rest).length := by
      rw [List.length_append, Header6.length_octets]
      omega
    refine ⟨rfl, Nat.le_trans (by decide) long, states.symm ▸ reach, ?_⟩
    intro stated other agree
    replace stated := stated rfl
    rw [statedLength_header6] at stated
    rw [states] at agree
    have fits' := length_of_agreeing reach agree
    obtain ⟨rest', rfl, same⟩ := exists_agreeing (by rw [Header6.length_octets]; omega) agree
    rw [List.length_append, Header6.length_octets] at fits'
    rw [Header6.length_octets, Nat.add_sub_cancel_left] at same
    rw [Header6.body, if_neg stated] at found
    rw [Header6.read6?_octets, if_pos ⟨version, by omega⟩, Header6.body, if_neg stated, same, found]
    rfl
  next => cases read

def versionOf (kind : UInt16) : IpVersion :=
  if kind = 0x0800 then .v4 else .v6

theorem bounded_read? {kind : UInt16} {bytes : List UInt8} {datagram : Datagram}
    (read : Datagram.read? kind bytes = some datagram) :
    Bounded (versionOf kind) (Datagram.read? kind) bytes datagram := by
  by_cases four : kind = 0x0800
  next =>
    have same : Datagram.read? kind = Datagram.read4? := by
      funext bytes
      rw [Datagram.read?, if_pos four]
    rw [same] at read ⊢
    rw [versionOf, if_pos four]
    exact bounded_read4? read
  next =>
    by_cases six : kind = 0x86dd
    next =>
      have same : Datagram.read? kind = Datagram.read6? := by
        funext bytes
        rw [Datagram.read?, if_neg four, if_pos six]
      rw [same] at read ⊢
      rw [versionOf, if_neg four]
      exact bounded_read6? read
    next =>
      rw [Datagram.read?, if_neg four, if_neg six] at read
      cases read

theorem datagramLength_append (version : IpVersion) {bytes : List UInt8} (long : 20 ≤ bytes.length)
    (more : List UInt8) : datagramLength version (bytes ++ more) = datagramLength version bytes := by
  have field (offset : Nat) (inside : offset + 2 ≤ 20) :
      ((bytes ++ more).drop offset).take 2 = (bytes.drop offset).take 2 := by
    rw [List.drop_append_of_le_length (by omega), List.take_append_of_le_length]
    rw [List.length_drop]
    omega
  cases version with
  | v4 => simp only [datagramLength, statedLength, field 2 (by decide)]
  | v6 => simp only [datagramLength, statedLength, field 4 (by decide)]

theorem network?_cut {frame bytes : List UInt8} {kind : UInt16}
    (read : FlowProbe.Frame.network? frame = some (kind, bytes)) :
    ∃ front, frame = front ++ bytes ∧ front.length = linkLength frame ∧
      ∀ other, FlowProbe.Frame.network? (front ++ other) = some (kind, other) := by
  obtain ⟨front, behind, length, reads⟩ := untag_cut read
  have addresses : (frame.take 12).length = 12 := by
    have some := congrArg List.length behind
    rw [List.length_drop, List.length_append, length] at some
    rw [List.length_take]
    omega
  refine ⟨frame.take 12 ++ front, ?_, ?_, ?_⟩
  next => rw [List.append_assoc, ← behind, List.take_append_drop]
  next =>
    rw [List.length_append, addresses, length, linkLength]
    omega
  next =>
    intro other
    rw [FlowProbe.Frame.network?, List.append_assoc, List.drop_left' addresses]
    exact reads other

end Wire

theorem Packet.parse?_layers {frame : List UInt8} {packet : Packet} :
    parse? frame = some packet ↔ ∃ kind bytes datagram,
      Frame.network? frame = some (kind, bytes) ∧ Datagram.read? kind bytes = some datagram ∧
        ofDatagram? datagram = some packet := by
  simp only [parse?, Option.bind_eq_bind, Option.bind_eq_some_iff, Prod.exists]
  constructor
  next =>
    rintro ⟨kind, bytes, network, datagram, read, made⟩
    exact ⟨kind, bytes, datagram, network, read, made⟩
  next =>
    rintro ⟨kind, bytes, datagram, network, read, made⟩
    exact ⟨kind, bytes, network, datagram, read, made⟩

theorem Packet.version_of_datagram {datagram : Datagram} {packet : Packet}
    (made : ofDatagram? datagram = some packet) : packet.version = datagram.version := by
  rw [ofDatagram?] at made
  split at made
  next =>
    cases made
    rfl
  next =>
    obtain ⟨segment, -, rfl⟩ := Option.map_eq_some_iff.mp made
    cases segment <;> rfl

namespace Wire

theorem drop_linkLength {frame bytes : List UInt8} {kind : UInt16}
    (read : FlowProbe.Frame.network? frame = some (kind, bytes)) :
    frame.drop (linkLength frame) = bytes ∧ frame.length = linkLength frame + bytes.length := by
  obtain ⟨front, split, length, -⟩ := network?_cut read
  rw [← length]
  constructor
  next =>
    rw [split]
    exact List.drop_left
  next => rw [← List.length_append, ← split]

theorem parse?_short {part more : List UInt8} {packet : Packet}
    (parsed : Packet.parse? (part ++ more) = some packet)
    (short : part.length < extent packet.version (part ++ more)) : Packet.parse? part = none := by
  obtain ⟨kind, bytes, datagram, network, read, made⟩ := Packet.parse?_layers.mp parsed
  cases parsed' : Packet.parse? part with
  | none => rfl
  | some other =>
    obtain ⟨kind', rest, datagram', network', read', -⟩ := Packet.parse?_layers.mp parsed'
    obtain ⟨front, split, -, reads⟩ := network?_cut network'
    -- What the part is read as stands at the front of what the whole is read as.
    have whole := reads (rest ++ more)
    rw [← List.append_assoc, ← split, network] at whole
    obtain ⟨rfl, rfl⟩ := Prod.mk.inj (Option.some.inj whole)
    have bounded := bounded_read? read
    have bounded' := bounded_read? read'
    obtain ⟨behind, length⟩ := drop_linkLength network
    obtain ⟨-, length'⟩ := drop_linkLength network'
    have reach := bounded'.reach
    rw [extent, behind, Packet.version_of_datagram made, bounded.of,
      datagramLength_append _ bounded'.long] at short
    rw [List.length_append, List.length_append] at length
    omega

/-- The packet that a frame is parsed into is settled by the octets up to the end of its datagram. What
stands behind does not matter, and of these octets none can be left away. A version 6 datagram whose
header states no length has no end of its own. -/
theorem packet_settled_by_extent {frame : List UInt8} {packet : Packet}
    (parsed : Packet.parse? frame = some packet)
    (stated : packet.version = .v6 → statedLength .v6 (frame.drop (linkLength frame)) ≠ 0) :
    extent packet.version frame ≤ frame.length ∧
      (∀ other, other.take (extent packet.version frame) = frame.take (extent packet.version frame) →
        Packet.parse? other = some packet) ∧
      ∀ part, part <+: frame → part.length < extent packet.version frame →
        Packet.parse? part = none := by
  obtain ⟨kind, bytes, datagram, network, read, made⟩ := Packet.parse?_layers.mp parsed
  have bounded := bounded_read? read
  have version : packet.version = versionOf kind :=
    (Packet.version_of_datagram made).trans bounded.of
  obtain ⟨behind, length⟩ := drop_linkLength network
  rw [behind, version] at stated
  have reach :
      extent packet.version frame = linkLength frame + datagramLength (versionOf kind) bytes := by
    rw [extent, behind, version]
  refine ⟨?_, ?_, ?_⟩
  next =>
    have fits := bounded.reach
    omega
  next =>
    intro other agree
    obtain ⟨front, split, size, reads⟩ := network?_cut network
    rw [reach, ← size] at agree
    rw [split] at agree
    obtain ⟨rest, rfl, same⟩ := exists_agreeing (Nat.le_add_right _ _) agree
    rw [Nat.add_sub_cancel_left] at same
    exact Packet.parse?_layers.mpr
      ⟨kind, rest, datagram, reads rest, bounded.agree stated rest same, made⟩
  next =>
    rintro part ⟨more, rfl⟩ short
    exact parse?_short parsed short

-- A tagged timestamp message, which must be twenty octets long: padding that was taken for a part of
-- it would spoil it.
def timestampFrame : List UInt8 :=
  List.replicate 12 0 ++ [0x81, 0x00, 0, 5, 0x08, 0x00,
    0x45, 0, 0, 40, 0, 0, 0, 0, 64, 1, 0, 0, 10, 0, 0, 1, 10, 0, 0, 2, 13, 0] ++ List.replicate 18 0

def timestampPacket : Packet where
  source := ⟨.v4 ⟨[10, 0, 0, 1], rfl⟩, 0⟩
  destination := ⟨.v4 ⟨[10, 0, 0, 2], rfl⟩, 0⟩
  proto := 1
  version := .v4
  hops := 64
  tcp := none

theorem timestamp_settled_by_extent :
    Packet.parse? timestampFrame = some timestampPacket ∧ timestampPacket.version ≠ .v6 ∧
      extent .v4 timestampFrame = 58 ∧
      Packet.parse? (timestampFrame ++ [1, 2]) = some timestampPacket ∧
      Packet.parse? (timestampFrame.take 57) = none := by
  have parsed : Packet.parse? timestampFrame = some timestampPacket := by decide
  have reach : extent timestampPacket.version timestampFrame = 58 := by decide
  obtain ⟨-, agreeing, shorter⟩ :=
    packet_settled_by_extent parsed fun six => absurd six (by decide)
  refine ⟨parsed, by decide, reach, agreeing _ ?_, shorter _ (List.take_prefix 57 _) ?_⟩
  next =>
    rw [reach]
    rfl
  next =>
    rw [reach]
    decide

end Wire

end FlowProbe
