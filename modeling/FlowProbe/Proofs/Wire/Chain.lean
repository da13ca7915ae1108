import FlowProbe.Packet
import FlowProbe.Proofs.Wire.Header

set_option autoImplicit false

namespace FlowProbe

def Datagram.Carried.segment? (carried : Datagram.Carried) : Option (Option FlowProbe.Segment) :=
  if carried.fragmented then some none else FlowProbe.Segment.read? carried.proto carried.bytes

namespace Wire

structure FragmentHeader where
  reserved : UInt8
  -- The offset, two bits that are not used, and the flag for more fragments.
  markHigh : UInt8
  markLow : UInt8
  identification : Octets 4

namespace FragmentHeader

def octets (header : FragmentHeader) (next : UInt8) : List UInt8 :=
  next :: header.reserved :: header.markHigh :: header.markLow :: header.identification.val

def mark (header : FragmentHeader) : UInt16 :=
  Octets.word header.markHigh header.markLow

def shown (header : FragmentHeader) : Bool :=
  Datagram.splits header.markHigh header.markLow

theorem fragment?_octets (header : FragmentHeader) (next : UInt8) (rest : List UInt8) :
    Datagram.fragment? (header.octets next ++ rest) = some (header.shown, next, rest) := by
  obtain ⟨a, b, c, d, identification⟩ := header.identification.exists_four
  simp only [octets, identification]
  rfl

theorem low_unshown_iff (low : UInt8) :
    low &&& 0x9f = 0 ↔ low = 0 ∨ low = 0x20 ∨ low = 0x40 ∨ low = 0x60 := by
  have each : ∀ n : Fin 256, UInt8.ofFin n &&& 0x9f = 0 ↔ UInt8.ofFin n = 0 ∨
      UInt8.ofFin n = 0x20 ∨ UInt8.ofFin n = 0x40 ∨ UInt8.ofFin n = 0x60 := by
    decide +kernel
  exact each low.toFin

/-- Not all of the offset is looked at. The pieces at four, eight and twelve blocks are not told from
a whole datagram, unless more fragments follow or a bit that is not used is set. -/
theorem shown_eq_false_iff (header : FragmentHeader) :
    header.shown = false ↔
      header.mark = 0 ∨ header.mark = 0x20 ∨ header.mark = 0x40 ∨ header.mark = 0x60 := by
  have small (low : UInt8) : header.mark = Octets.word 0 low ↔
      header.markHigh = 0 ∧ header.markLow = low :=
    Octets.word_inj
  have marks : (header.mark = 0 ∨ header.mark = 0x20 ∨ header.mark = 0x40 ∨ header.mark = 0x60) ↔
      header.markHigh = 0 ∧ header.markLow &&& 0x9f = 0 := by
    rw [low_unshown_iff]
    simp only [and_or_left, ← small]
    rfl
  rw [marks, shown, Datagram.splits]
  simp

end FragmentHeader

inductive Leads : UInt8 → List UInt8 → Prop where
  | here : Leads 44 []
  | block {number next : UInt8} {front : List UInt8} (known : number ∈ [0, 43, 60]) (block : Block)
      (more : Leads next front) : Leads number (block.octets next ++ front)
  | authentication {next : UInt8} {front : List UInt8} (header : Authentication)
      (more : Leads next front) : Leads 51 (header.octets next ++ front)
  | fragment {next : UInt8} {front : List UInt8} (header : FragmentHeader)
      (more : Leads next front) : Leads 44 (header.octets next ++ front)

def segmentFrom? (budget : Nat) (met : Datagram.Met) (here : Datagram.Carried) :
    Option (Option FlowProbe.Segment) :=
  (Datagram.extensionsFrom? budget met here).bind Datagram.Carried.segment?

/-- No segment is read, and whether the datagram is refused does not depend on the octets. -/
def Blind (read : List UInt8 → Option (Option FlowProbe.Segment)) : Prop :=
  ∃ outcome, (outcome = none ∨ outcome = some none) ∧ ∀ tail, read tail = outcome

theorem read?_number {number : UInt8} (known : number ∈ Extension.numbers) (bytes : List UInt8) :
    FlowProbe.Segment.read? number bytes = some none := by
  simp only [Extension.numbers, List.mem_cons, List.not_mem_nil, or_false] at known
  rcases known with rfl | rfl | rfl | rfl | rfl <;> rfl

theorem segment?_number {number : UInt8} (known : number ∈ Extension.numbers) (split : Bool)
    (bytes : List UInt8) : Datagram.Carried.segment? ⟨split, number, bytes⟩ = some none := by
  cases split
  next => exact read?_number known bytes
  next => rfl

theorem extensionsFrom?_split {budget : Nat} {met : Datagram.Met} {here carried : Datagram.Carried}
    (split : here.fragmented = true)
    (read : Datagram.extensionsFrom? budget met here = some carried) :
    carried.fragmented = true := by
  fun_induction Datagram.extensionsFrom? budget met here
  case case1 | case3 | case5 | case7 | case9 | case11 | case13 =>
    cases read
    exact split
  case case2 => cases read
  case case4 | case6 | case8 | case12 =>
    rename_i ih
    obtain ⟨⟨next, rest⟩, -, read⟩ := Option.bind_eq_some_iff.mp read
    exact ih next rest split read
  case case10 =>
    rename_i ih
    obtain ⟨⟨shown, next, rest⟩, -, read⟩ := Option.bind_eq_some_iff.mp read
    exact ih shown next rest (by rw [split, Bool.true_or]) read

theorem segmentFrom?_split (budget : Nat) (met : Datagram.Met) (proto : UInt8)
    (bytes : List UInt8) {segment? : Option FlowProbe.Segment}
    (read : segmentFrom? budget met ⟨true, proto, bytes⟩ = some segment?) : segment? = none := by
  obtain ⟨carried, found, segment⟩ := Option.bind_eq_some_iff.mp read
  have split : carried.fragmented = true := extensionsFrom?_split rfl found
  rw [Datagram.Carried.segment?, if_pos split] at segment
  exact (Option.some.inj segment).symm

theorem blind_behind {read : List UInt8 → Option (Option FlowProbe.Segment)} (blind : Blind read)
    (front : List UInt8) : Blind fun tail => read (front ++ tail) := by
  obtain ⟨outcome, nothing, same⟩ := blind
  exact ⟨outcome, nothing, fun tail => same (front ++ tail)⟩

variable {budget : Nat} {met : Datagram.Met} {split : Bool} {number : UInt8}

theorem blind_of_stop (known : number ∈ Extension.numbers)
    (stops : ∀ bytes, Datagram.extensionsFrom? budget met ⟨split, number, bytes⟩ =
      some ⟨split, number, bytes⟩) :
    Blind fun bytes => segmentFrom? budget met ⟨split, number, bytes⟩ := by
  refine ⟨some none, .inr rfl, fun bytes => ?_⟩
  simp only [segmentFrom?, stops, Option.bind_some, segment?_number known]

def Passes (budget : Nat) (met : Datagram.Met) (split : Bool) (number : UInt8)
    (header : List UInt8) (next : UInt8) : Prop :=
  ∃ after split', ∀ tail, segmentFrom? (budget + 1) met ⟨split, number, header ++ tail⟩ =
    segmentFrom? budget after ⟨split', next, tail⟩

theorem header_passes (header : Extension) (next : UInt8) :
    (Blind fun bytes => segmentFrom? (budget + 1) met ⟨split, header.number, bytes⟩) ∨
      Passes budget met split header.number (header.octets next) next := by
  cases fresh : header.meet? met with
  | none =>
    left
    exact blind_of_stop header.number_mem (Extension.extensionsFrom?_again fresh budget)
  | some after =>
    right
    refine ⟨after, split || header.misread, fun tail => ?_⟩
    rw [segmentFrom?, Extension.extensionsFrom?_header fresh, segmentFrom?]

theorem block_passes (known : number ∈ [0, 43, 60]) (block : Block) (next : UInt8) :
    (Blind fun bytes => segmentFrom? (budget + 1) met ⟨split, number, bytes⟩) ∨
      Passes budget met split number (block.octets next) next := by
  simp only [List.mem_cons, List.not_mem_nil, or_false] at known
  rcases known with rfl | rfl | rfl
  next =>
    -- Hop-by-hop options are out of place behind another header.
    left
    exact ⟨none, .inl rfl, fun bytes => by simp [segmentFrom?, Datagram.extensionsFrom?]⟩
  next => exact header_passes (.routing block) next
  next => exact header_passes (.destination block) next

theorem fragment_reached :
    (Blind fun bytes => segmentFrom? (budget + 1) met ⟨split, 44, bytes⟩) ∨
      ∃ after, ∀ (header : FragmentHeader) next tail,
        segmentFrom? (budget + 1) met ⟨split, 44, header.octets next ++ tail⟩ =
          segmentFrom? budget after ⟨split || header.shown, next, tail⟩ := by
  cases again : met.fragment with
  | true =>
    left
    apply blind_of_stop (by decide)
    simp [Datagram.extensionsFrom?, again]
  | false =>
    right
    refine ⟨{ met with fragment := true }, fun header next tail => ?_⟩
    simp [segmentFrom?, Datagram.extensionsFrom?, again, header.fragment?_octets]

/-- The fragment header is met, and what is read behind it depends on whether it shows a split. -/
def Reaches (read : List UInt8 → Option (Option FlowProbe.Segment)) : Prop :=
  ∃ budget met split, ∀ (header : FragmentHeader) next rest,
    read (header.octets next ++ rest) = segmentFrom? budget met ⟨split || header.shown, next, rest⟩

theorem reaches_behind {header front : List UInt8} {next : UInt8}
    (step : (Blind fun bytes => segmentFrom? (budget + 1) met ⟨split, number, bytes⟩) ∨
      Passes budget met split number header next)
    (further : ∀ {met : Datagram.Met} {split : Bool},
      (Blind fun tail => segmentFrom? budget met ⟨split, next, front ++ tail⟩) ∨
        Reaches fun tail => segmentFrom? budget met ⟨split, next, front ++ tail⟩) :
    (Blind fun tail => segmentFrom? (budget + 1) met ⟨split, number, header ++ front ++ tail⟩) ∨
      Reaches fun tail =>
        segmentFrom? (budget + 1) met ⟨split, number, header ++ front ++ tail⟩ := by
  rcases step with blind | ⟨after, split', passes⟩
  next => exact .inl (blind_behind blind _)
  next =>
    have same (tail : List UInt8) :
        segmentFrom? (budget + 1) met ⟨split, number, header ++ front ++ tail⟩ =
          segmentFrom? budget after ⟨split', next, front ++ tail⟩ := by
      rw [List.append_assoc, passes]
    simp only [same]
    exact further

theorem known_number (known : number ∈ [0, 43, 60]) : number ∈ Extension.numbers := by
  simp only [List.mem_cons, List.not_mem_nil, or_false] at known
  rcases known with rfl | rfl | rfl <;> decide

-- By induction on what stands in front: each header either keeps the reader from all that follows or
-- lets it pass, and the budget may run out before any of them.
theorem leads_reaches {front : List UInt8} (leads : Leads number front) :
    (Blind fun tail => segmentFrom? budget met ⟨split, number, front ++ tail⟩) ∨
      Reaches fun tail => segmentFrom? budget met ⟨split, number, front ++ tail⟩ := by
  induction leads generalizing budget met split with
  | here =>
    cases budget with
    | zero => exact .inl (blind_of_stop (by decide) fun _ => rfl)
    | succ budget =>
      rcases fragment_reached with blind | ⟨after, reads⟩
      next => exact .inl blind
      next => exact .inr ⟨budget, after, split, reads⟩
  | block known block more ih =>
    cases budget with
    | zero => exact .inl (blind_behind (blind_of_stop (known_number known) fun _ => rfl) _)
    | succ budget => exact reaches_behind (block_passes known block _) ih
  | authentication header more ih =>
    cases budget with
    | zero => exact .inl (blind_behind (blind_of_stop (by decide) fun _ => rfl) _)
    | succ budget => exact reaches_behind (header_passes (.authentication header) _) ih
  | fragment header more ih =>
    cases budget with
    | zero => exact .inl (blind_behind (blind_of_stop (by decide) fun _ => rfl) _)
    | succ budget =>
      refine reaches_behind ?_ ih
      rcases fragment_reached with blind | ⟨after, reads⟩
      next => exact .inl blind
      next => exact .inr ⟨after, _, reads header _⟩

theorem extensions?_reaches {front : List UInt8} (leads : Leads number front) :
    (Blind fun tail =>
        (Datagram.extensions? number (front ++ tail)).bind Datagram.Carried.segment?) ∨
      Reaches fun tail =>
        (Datagram.extensions? number (front ++ tail)).bind Datagram.Carried.segment? := by
  by_cases hop : number = 0
  next =>
    subst hop
    cases leads with
    | @block _ next front known block more =>
      have same (tail : List UInt8) :
          (Datagram.extensions? 0 (block.octets next ++ front ++ tail)).bind
              Datagram.Carried.segment? =
            segmentFrom? 6 {} ⟨false, next, front ++ tail⟩ := by
        simp [Datagram.extensions?, segmentFrom?, options?_octets]
      simp only [same]
      exact leads_reaches more
  next =>
    simp only [Datagram.extensions?, if_neg hop]
    exact leads_reaches leads

end Wire

end FlowProbe
