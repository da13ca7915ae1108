import FlowProbe.Proofs.Wire.Datagram

set_option autoImplicit false

namespace FlowProbe.Wire

structure Header4 where
  first : UInt8
  service : UInt8
  totalHigh : UInt8
  totalLow : UInt8
  identificationHigh : UInt8
  identificationLow : UInt8
  -- Three flags and the offset of a fragment.
  markHigh : UInt8
  markLow : UInt8
  hops : UInt8
  declared : UInt8
  checksumHigh : UInt8
  checksumLow : UInt8
  source : Octets 4
  destination : Octets 4

namespace Header4

def octets (header : Header4) : List UInt8 :=
  [header.first, header.service, header.totalHigh, header.totalLow, header.identificationHigh,
    header.identificationLow, header.markHigh, header.markLow, header.hops, header.declared,
    header.checksumHigh, header.checksumLow] ++ header.source.val ++ header.destination.val

def total (header : Header4) : Nat :=
  (Octets.word header.totalHigh header.totalLow).toNat

def size (header : Header4) : Nat :=
  4 * (header.first.toNat % 16)

def mark (header : Header4) : UInt16 :=
  Octets.word header.markHigh header.markLow

def datagram (header : Header4) (carried : UInt8 × List UInt8) : FlowProbe.Datagram where
  version := .v4
  source := .v4 header.source
  destination := .v4 header.destination
  declared := header.declared
  hops := header.hops
  payload := if header.mark.toNat % 16384 ≠ 0 then none else some carried

@[simp] theorem length_octets (header : Header4) : header.octets.length = 20 := by
  simp [octets, header.source.property, header.destination.property]

theorem exists_of_length {bytes : List UInt8} (long : 20 ≤ bytes.length) :
    ∃ (header : Header4) (rest : List UInt8), bytes = header.octets ++ rest := by
  obtain ⟨front, rest, rfl, size⟩ :
      ∃ front rest, bytes = front ++ rest ∧ front.length = 20 :=
    ⟨bytes.take 20, bytes.drop 20, (List.take_append_drop 20 bytes).symm, by simp [long]⟩
  match front, size with
  | [a, b, c, d, e, f, g, h, i, j, k, l, m, n, o, p, q, r, s, t], _ =>
    exact ⟨⟨a, b, c, d, e, f, g, h, i, j, k, l, ⟨[m, n, o, p], rfl⟩, ⟨[q, r, s, t], rfl⟩⟩, rest, rfl⟩

theorem read4?_octets (header : Header4) (rest : List UInt8) :
    Datagram.read4? (header.octets ++ rest) =
      if header.first.toNat / 16 = 4 ∧ 20 ≤ header.size ∧ header.size ≤ header.total ∧
          header.total ≤ 20 + rest.length then
        (Datagram.carried4? header.declared
          ((rest.take (header.total - 20)).drop (header.size - 20))).map header.datagram
      else none := by
  have length : (header.octets ++ rest).length = 20 + rest.length := by
    rw [List.length_append, length_octets]
  have body (least : 20 ≤ header.size) (most : header.size ≤ header.total) :
      ((header.octets ++ rest).take header.total).drop header.size =
        (rest.take (header.total - 20)).drop (header.size - 20) := by
    rw [List.take_append, List.drop_append, length_octets,
      List.take_of_length_le (by rw [length_octets]; omega),
      List.drop_eq_nil_of_le (by rw [length_octets]; omega), length_octets, List.nil_append]
  obtain ⟨s0, s1, s2, s3, source⟩ := header.source.exists_four
  obtain ⟨d0, d1, d2, d3, destination⟩ := header.destination.exists_four
  simp only [octets, source, destination, List.cons_append, List.nil_append] at body length ⊢
  simp only [Datagram.read4?, length]
  by_cases sound : header.first.toNat / 16 = 4 ∧ 20 ≤ header.size ∧ header.size ≤ header.total ∧
      header.total ≤ 20 + rest.length
  next =>
    rw [if_pos sound, ← body sound.2.1 sound.2.2.1]
    simp only [size, total] at sound ⊢
    rw [guard, if_pos sound]
    cases Datagram.carried4? header.declared _ with
    | none => rfl
    | some carried =>
      simp only [Option.map_some, datagram, source, destination]
      rfl
  next =>
    rw [if_neg sound]
    simp only [size, total] at sound
    rw [guard, if_neg sound]
    rfl

theorem read4?_short {bytes : List UInt8} (short : bytes.length < 20) :
    Datagram.read4? bytes = none := by
  unfold Datagram.read4?
  split
  next =>
    simp only [List.length_cons] at short
    omega
  next => rfl

end Header4

structure Header6 where
  first : UInt8
  label2 : UInt8
  label1 : UInt8
  label0 : UInt8
  lengthHigh : UInt8
  lengthLow : UInt8
  declared : UInt8
  hops : UInt8
  source : Octets 16
  destination : Octets 16

namespace Header6

def octets (header : Header6) : List UInt8 :=
  [header.first, header.label2, header.label1, header.label0, header.lengthHigh, header.lengthLow,
    header.declared, header.hops] ++ (header.source.val ++ header.destination.val)

def length (header : Header6) : Nat :=
  (Octets.word header.lengthHigh header.lengthLow).toNat

def body (header : Header6) (rest : List UInt8) : List UInt8 :=
  if header.length = 0 then rest else rest.take header.length

def datagram (header : Header6) (carried : Datagram.Carried) : FlowProbe.Datagram where
  version := .v6
  source := .v6 header.source
  destination := .v6 header.destination
  declared := header.declared
  hops := header.hops
  payload := if carried.fragmented then none else some (carried.proto, carried.bytes)

@[simp] theorem length_octets (header : Header6) : header.octets.length = 40 := by
  simp [octets, header.source.property, header.destination.property]

theorem exists_of_length {bytes : List UInt8} (long : 40 ≤ bytes.length) :
    ∃ (header : Header6) (rest : List UInt8), bytes = header.octets ++ rest := by
  obtain ⟨front, source, destination, rest, rfl, size, width, width'⟩ :
      ∃ front source destination rest, bytes = front ++ (source ++ destination) ++ rest ∧
        front.length = 8 ∧ source.length = 16 ∧ destination.length = 16 := by
    refine ⟨bytes.take 8, (bytes.drop 8).take 16, ((bytes.drop 8).drop 16).take 16,
      ((bytes.drop 8).drop 16).drop 16, ?_, ?_, ?_, ?_⟩
    next => simp only [List.append_assoc, List.take_append_drop]
    all_goals
      simp only [List.length_take, List.length_drop]
      omega
  match front, size with
  | [a, b, c, d, e, f, g, h], _ =>
    exact ⟨⟨a, b, c, d, e, f, g, h, ⟨source, width⟩, ⟨destination, width'⟩⟩, rest, rfl⟩

theorem read6?_octets (header : Header6) (rest : List UInt8) :
    Datagram.read6? (header.octets ++ rest) =
      if header.first.toNat / 16 = 6 ∧ header.length ≤ rest.length then
        (Datagram.extensions? header.declared (header.body rest)).map header.datagram
      else none := by
  simp only [octets, List.cons_append, List.nil_append, List.append_assoc]
  by_cases version : header.first.toNat / 16 = 6
  next =>
    simp only [Datagram.read6?, version, guard, if_true, true_and, Octets.split?_append,
      Option.bind_eq_bind, Option.pure_def, Option.bind_some]
    by_cases fits : header.length ≤ rest.length
    next =>
      rw [if_pos fits, body]
      simp only [length] at fits ⊢
      rw [if_pos fits, Option.bind_some, Option.map_eq_bind]
      rfl
    next =>
      rw [if_neg fits]
      simp only [length] at fits
      rw [if_neg fits]
      rfl
  next =>
    rw [if_neg fun both => version both.1]
    simp only [Datagram.read6?, guard, if_neg version]
    rfl

theorem read6?_short {bytes : List UInt8} (short : bytes.length < 40) :
    Datagram.read6? bytes = none := by
  unfold Datagram.read6?
  split
  next first label2 label1 label0 high low next hops rest =>
    simp only [List.length_cons] at short
    by_cases source : 16 ≤ rest.length
    next =>
      have cut : ¬16 ≤ rest.length - 16 := by omega
      simp [Octets.split?, source, cut]
    next => simp [Octets.split?, source]
  next => rfl

end Header6

end FlowProbe.Wire
