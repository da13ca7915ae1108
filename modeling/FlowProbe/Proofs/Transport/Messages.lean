import FlowProbe.Proofs.Octets
import FlowProbe.Transport.Framed

set_option autoImplicit false

namespace FlowProbe.Framed

def stream (records : List Record) : List UInt8 :=
  records.flatMap frame

def messages (bytes : List UInt8) : List (List UInt8) :=
  let size := Octets.big (bytes.take 4)
  if 4 + size ≤ bytes.length then
    (bytes.drop 4).take size :: messages (bytes.drop (4 + size))
  else
    []
termination_by bytes.length
decreasing_by simp; omega

@[simp] theorem stream_nil : stream [] = [] := rfl

@[simp] theorem stream_cons (record : Record) (records : List Record) :
    stream (record :: records) = frame record ++ stream records := rfl

@[simp] theorem stream_concat (records : List Record) (record : Record) :
    stream (records ++ [record]) = stream records ++ frame record := by
  simp [stream]

@[simp] theorem length_frame (record : Record) : (frame record).length = 4 + record.size := by
  simp [frame, Record.size]

theorem big_frame {record : Record} (small : record.size < sizeLimit) (rest : List UInt8) :
    Octets.big ((frame record ++ rest).take 4) = record.size := by
  have header : (frame record ++ rest).take 4 = Octets.bigEndian 4 record.size := by
    simp [frame, List.append_assoc]
  rw [header, Octets.big_bigEndian 4 record.size small]

theorem messages_frame_append {record : Record} (small : record.size < sizeLimit)
    (rest : List UInt8) :
    messages (frame record ++ rest) = record.bytes :: messages rest := by
  rw [messages]
  simp only [big_frame small]
  have enough : 4 + record.size ≤ (frame record ++ rest).length := by
    rw [List.length_append, length_frame]
    omega
  have content : ((frame record ++ rest).drop 4).take record.size = record.bytes := by
    simp [frame, Record.size, List.append_assoc]
  have behind : (frame record ++ rest).drop (4 + record.size) = rest := by
    rw [← length_frame record, List.drop_left]
  rw [if_pos enough, content, behind]

theorem messages_of_cut {record : Record} (small : record.size < sizeLimit) {bytes : List UInt8}
    (front : bytes <+: frame record) (cut : bytes.length < (frame record).length) :
    messages bytes = [] := by
  rw [messages]
  apply if_neg
  rw [length_frame] at cut
  -- The length is read as soon as it is there, and then asks for more than there is.
  by_cases header : 4 ≤ bytes.length
  next =>
    obtain ⟨rest, whole⟩ := front
    have known := big_frame small []
    rw [List.append_nil, ← whole, List.take_append_of_le_length header] at known
    omega
  next => omega

-- From the beginning of a stream a reader gets the messages that it holds in full, and nothing of
-- the next one.
theorem messages_of_prefix {records : List Record}
    (small : ∀ record ∈ records, record.size < sizeLimit)
    {bytes : List UInt8} (front : bytes <+: stream records) :
    ∃ whole part tail, records = whole ++ part ∧ bytes = stream whole ++ tail ∧
      messages bytes = whole.map Record.bytes ∧
      ∀ next ∈ part.head?, tail.length < (frame next).length := by
  induction records generalizing bytes with
  | nil =>
    obtain rfl := List.prefix_nil.mp front
    refine ⟨[], [], [], rfl, rfl, ?_, nofun⟩
    rw [messages]
    rfl
  | cons record records ih =>
    rw [stream_cons] at front
    have first := small record List.mem_cons_self
    by_cases cut : bytes.length < (frame record).length
    next =>
      have beginning : bytes <+: frame record :=
        List.prefix_of_prefix_length_le front (List.prefix_append _ _) (Nat.le_of_lt cut)
      exact ⟨[], record :: records, bytes, rfl, rfl, messages_of_cut first beginning cut,
        fun next here => Option.some.inj here ▸ cut⟩
    next =>
      have complete : frame record <+: bytes :=
        List.prefix_of_prefix_length_le (List.prefix_append _ _) front (Nat.le_of_not_lt cut)
      obtain ⟨rest, rfl⟩ := complete
      obtain ⟨whole, part, tail, split, octets, read, short⟩ :=
        ih (fun record member => small record (List.mem_cons_of_mem _ member))
          ((List.prefix_append_right_inj _).mp front)
      refine ⟨record :: whole, part, tail, ?_, ?_, ?_, short⟩
      next => rw [split, List.cons_append]
      next => rw [octets, stream_cons, List.append_assoc]
      next => rw [messages_frame_append first, read, List.map_cons]

end FlowProbe.Framed
