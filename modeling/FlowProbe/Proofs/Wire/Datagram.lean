import FlowProbe.Proofs.Wire.Extension
import FlowProbe.Proofs.Wire.Segment

set_option autoImplicit false

namespace FlowProbe

namespace Octets

theorem exists_four (block : Octets 4) : ∃ a b c d, block = ⟨[a, b, c, d], rfl⟩ := by
  obtain ⟨bytes, length⟩ := block
  match bytes, length with
  | [a, b, c, d], _ => exact ⟨a, b, c, d, rfl⟩

end Octets

namespace Wire

theorem Segment.proto_plain (segment : Segment) : segment.proto ∉ Extension.numbers := by
  cases segment <;> simp [proto, Extension.numbers]

def carried4 (authentication : Option Authentication) (segment : Segment) : List UInt8 :=
  match authentication with
  | none => segment.octets
  | some header => header.octets segment.proto ++ segment.octets

structure Datagram4 where
  service : UInt8
  identification : UInt16
  reserved : Bool
  dontFragment : Bool
  hops : UInt8
  checksum : UInt16
  source : Octets 4
  destination : Octets 4
  optionWords : Fin 11
  options : Octets (4 * optionWords)
  authentication : Option Authentication
  segment : Segment
  fits : 4 * (5 + optionWords) + (carried4 authentication segment).length < 65536

namespace Datagram4

def carried (datagram : Datagram4) : List UInt8 :=
  carried4 datagram.authentication datagram.segment

def headerLength (datagram : Datagram4) : Nat :=
  4 * (5 + datagram.optionWords)

def totalLength (datagram : Datagram4) : Nat :=
  datagram.headerLength + datagram.carried.length

def declared (datagram : Datagram4) : UInt8 :=
  if datagram.authentication.isSome then 51 else datagram.segment.proto

def header (datagram : Datagram4) : List UInt8 :=
  [UInt8.ofNat (64 + (5 + datagram.optionWords)), datagram.service] ++
    Octets.bigEndian 2 datagram.totalLength ++
    Octets.bigEndian 2 datagram.identification.toNat ++
    [UInt8.ofNat (128 * datagram.reserved.toNat + 64 * datagram.dontFragment.toNat), 0,
      datagram.hops, datagram.declared] ++
    Octets.bigEndian 2 datagram.checksum.toNat ++
    datagram.source.val ++ datagram.destination.val ++ datagram.options.val

def octets (datagram : Datagram4) : List UInt8 :=
  datagram.header ++ datagram.carried

theorem length_header (datagram : Datagram4) :
    datagram.header.length = datagram.headerLength := by
  simp only [header, headerLength, List.length_append, Octets.length_bigEndian,
    datagram.source.property, datagram.destination.property, datagram.options.property,
    List.length_cons, List.length_nil]
  omega

theorem length_octets (datagram : Datagram4) :
    datagram.octets.length = datagram.totalLength := by
  rw [octets, List.length_append, length_header, totalLength]

theorem body_octets (datagram : Datagram4) (padding : List UInt8) :
    ((datagram.octets ++ padding).take datagram.totalLength).drop datagram.headerLength =
      datagram.carried := by
  rw [← length_octets, List.take_left, octets, ← length_header, List.drop_left]

theorem carried4?_declared (datagram : Datagram4) :
    Datagram.carried4? datagram.declared datagram.carried =
      some (datagram.segment.proto, datagram.segment.octets) := by
  unfold Datagram.carried4? declared carried carried4
  cases datagram.authentication with
  | some header => exact authentication?_octets header _ _
  | none =>
    have other : datagram.segment.proto ≠ 51 := by
      intro same
      exact datagram.segment.proto_plain (by simp [same, Extension.numbers])
    simp [other]

theorem read4?_octets (datagram : Datagram4) (padding : List UInt8) :
    Datagram.read4? (datagram.octets ++ padding) = some {
      version := .v4
      source := .v4 datagram.source
      destination := .v4 datagram.destination
      declared := datagram.declared
      hops := datagram.hops
      payload := some (datagram.segment.proto, datagram.segment.octets) } := by
  have first : (UInt8.ofNat (64 + (5 + datagram.optionWords))).toNat =
      64 + (5 + datagram.optionWords) := by
    rw [UInt8.toNat_ofNat']
    omega
  have words : 4 * ((UInt8.ofNat (64 + (5 + datagram.optionWords))).toNat % 16) =
      datagram.headerLength := by
    rw [first, headerLength]
    omega
  have total : (UInt16.ofNat datagram.totalLength).toNat = datagram.totalLength := by
    rw [UInt16.toNat_ofNat']
    exact Nat.mod_eq_of_lt datagram.fits
  have whole : (Octets.word
      (UInt8.ofNat (128 * datagram.reserved.toNat + 64 * datagram.dontFragment.toNat)) 0).toNat %
        16384 = 0 := by
    cases datagram.reserved <;> cases datagram.dontFragment <;> rfl
  have lengths : (UInt8.ofNat (64 + (5 + datagram.optionWords))).toNat / 16 = 4 ∧
      20 ≤ datagram.headerLength ∧ datagram.headerLength ≤ datagram.totalLength ∧
      datagram.totalLength ≤ (datagram.octets ++ padding).length := by
    rw [first, List.length_append, length_octets, totalLength, headerLength]
    omega
  have body := datagram.body_octets padding
  obtain ⟨s0, s1, s2, s3, source⟩ := datagram.source.exists_four
  obtain ⟨d0, d1, d2, d3, destination⟩ := datagram.destination.exists_four
  simp only [octets, header, source, destination, Octets.bigEndian_two, List.cons_append,
    List.nil_append] at body lengths ⊢
  simp only [Datagram.read4?, Octets.word_ofNat, words, total, body, carried4?_declared, whole]
  rw [guard, if_pos lengths]
  rfl

end Datagram4

structure Datagram6 where
  trafficClass : UInt8
  flowLabel : Fin (2 ^ 20)
  hops : UInt8
  source : Octets 16
  destination : Octets 16
  extensions : Extensions
  segment : Segment
  fits : (extensions.octets segment.proto segment.octets).length < 65536

namespace Datagram6

def carried (datagram : Datagram6) : List UInt8 :=
  datagram.extensions.octets datagram.segment.proto datagram.segment.octets

def declared (datagram : Datagram6) : UInt8 :=
  datagram.extensions.first datagram.segment.proto

def octets (datagram : Datagram6) : List UInt8 :=
  [UInt8.ofNat (6 * 16 + datagram.trafficClass.toNat / 16),
      UInt8.ofNat (datagram.trafficClass.toNat % 16 * 16 + datagram.flowLabel / 65536)] ++
    Octets.bigEndian 2 (datagram.flowLabel % 65536) ++
    Octets.bigEndian 2 datagram.carried.length ++
    [datagram.declared, datagram.hops] ++
    (datagram.source.val ++ (datagram.destination.val ++ datagram.carried))

theorem carried_ne_nil (datagram : Datagram6) : datagram.carried.length ≠ 0 := by
  have long := datagram.extensions.length_octets_ge datagram.segment.proto datagram.segment.octets
  have some := datagram.segment.length_octets_pos
  unfold carried
  omega

theorem read6?_octets (datagram : Datagram6) (padding : List UInt8) :
    Datagram.read6? (datagram.octets ++ padding) = some {
      version := .v6
      source := .v6 datagram.source
      destination := .v6 datagram.destination
      declared := datagram.declared
      hops := datagram.hops
      payload :=
        if datagram.extensions.misread then none
        else some (datagram.segment.proto, datagram.segment.octets) } := by
  have version : (UInt8.ofNat (6 * 16 + datagram.trafficClass.toNat / 16)).toNat / 16 = 6 := by
    have small := datagram.trafficClass.toNat_lt
    rw [UInt8.toNat_ofNat']
    omega
  have length : (UInt16.ofNat datagram.carried.length).toNat = datagram.carried.length := by
    rw [UInt16.toNat_ofNat']
    exact Nat.mod_eq_of_lt datagram.fits
  have within : datagram.carried.length ≤ (datagram.carried ++ padding).length := by simp
  have read : Datagram.extensions? datagram.declared datagram.carried =
      some ⟨datagram.extensions.misread, datagram.segment.proto, datagram.segment.octets⟩ :=
    datagram.extensions.extensions?_octets datagram.segment.proto_plain _
  simp only [octets, Octets.bigEndian_two, List.cons_append, List.nil_append, List.append_assoc]
  simp only [Datagram.read6?, Octets.word_ofNat, length, version, guard, if_true, if_pos within,
    if_neg datagram.carried_ne_nil, Octets.split?_append, Option.pure_def, Option.bind_eq_bind,
    Option.bind_some, List.take_left, read]

end Datagram6

end Wire

end FlowProbe
