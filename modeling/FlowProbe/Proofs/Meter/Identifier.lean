import FlowProbe.Meter.Setup
import FlowProbe.Record
import Mathlib.Tactic.IntervalCases

set_option autoImplicit false

namespace FlowProbe

def Uuid.nil : Uuid :=
  ⟨⟨List.replicate 16 0, List.length_replicate⟩⟩

def Flow.unnamed (flow : Flow) : Flow :=
  { flow with id := .nil }

def Report.unnamed (report : Report) : Report :=
  { report with flow := report.flow.unnamed }

def Record.withoutId (record : Record) : Record where
  bytes := record.bytes.take TranscriptEntry.opening.length ++
    record.bytes.drop (TranscriptEntry.opening.length + 36)

namespace Uuid

def Plain (c : Char) : Prop :=
  JsonText.escape c = [c] ∧ c.utf8Size = 1

theorem plain_digit {n : Nat} (small : n < 16) : Plain (Nat.digitChar n) := by
  unfold Plain
  interval_cases n <;> decide

theorem plain_hex (byte : UInt8) : ∀ c ∈ hex byte, Plain c := by
  have below := byte.toNat_lt
  intro c member
  simp only [hex, List.mem_cons, List.not_mem_nil, or_false] at member
  rcases member with rfl | rfl <;> apply plain_digit <;> omega

theorem plain_chars (uuid : Uuid) : ∀ c ∈ uuid.chars, Plain c := by
  have digits (first count : Nat) :
      ∀ c ∈ ((uuid.octets.val.drop first).take count).flatMap hex, Plain c := by
    intro c member
    obtain ⟨byte, -, member⟩ := List.mem_flatMap.mp member
    exact plain_hex byte c member
  have dash : Plain '-' := by
    unfold Plain
    decide
  intro c member
  simp only [chars, List.mem_append, List.mem_cons, or_assoc] at member
  rcases member with member | rfl | member | rfl | member | rfl | member | rfl | member
  all_goals first | exact dash | exact digits _ _ c member

theorem length_hex (bytes : List UInt8) : (bytes.flatMap hex).length = 2 * bytes.length := by
  induction bytes with
  | nil => rfl
  | cons byte rest ih =>
    rw [List.flatMap_cons, List.length_append, ih, List.length_cons, hex, List.length_cons,
      List.length_singleton]
    omega

theorem length_chars (uuid : Uuid) : uuid.chars.length = 36 := by
  simp only [chars, List.length_append, List.length_cons, length_hex, List.length_take,
    List.length_drop, uuid.octets.property]
  rfl

theorem escape_chars (uuid : Uuid) : uuid.chars.flatMap JsonText.escape = uuid.chars := by
  have each : ∀ c ∈ uuid.chars, JsonText.escape c = [c] := fun c member =>
    (plain_chars uuid c member).1
  rw [List.flatMap_def, List.map_congr_left each, ← List.flatMap_def, List.flatMap_singleton']

end Uuid

namespace Record

theorem toList_loop (bytes : ByteArray) (i : Nat) (seen : List UInt8) :
    ByteArray.toList.loop bytes i seen = seen.reverse ++ bytes.data.toList.drop i := by
  fun_induction ByteArray.toList.loop bytes i seen with
  | case1 i seen inside ih =>
    have bound : i < bytes.data.toList.length := by simpa using inside
    rw [ih, List.drop_eq_getElem_cons bound]
    simp [ByteArray.get!, inside]
  | case2 i seen outside =>
    rw [List.drop_eq_nil_of_le (by simpa using Nat.le_of_not_lt outside), List.append_nil]

def encode (chars : List Char) : List UInt8 :=
  chars.flatMap String.utf8EncodeChar

theorem ofText_ofList (chars : List Char) : ofText (String.ofList chars) = ⟨encode chars⟩ := by
  rw [ofText, ByteArray.toList, toList_loop]
  exact congrArg Record.mk List.toList_data_toByteArray

theorem encode_append (chars more : List Char) :
    encode (chars ++ more) = encode chars ++ encode more :=
  List.flatMap_append

theorem length_encode_plain {chars : List Char} (plain : ∀ c ∈ chars, Uuid.Plain c) :
    (encode chars).length = chars.length := by
  have each : ∀ c ∈ chars, (String.utf8EncodeChar c).length = 1 := fun c member =>
    (String.length_utf8EncodeChar c).trans (plain c member).2
  rw [encode, List.length_flatMap, List.map_congr_left each, List.map_const', List.sum_replicate_nat,
    Nat.mul_one]

theorem withoutId_ofText (uuid : Uuid) (rest : List Char) :
    (ofText (String.ofList (TranscriptEntry.opening.toList ++ uuid.chars ++ rest))).withoutId =
      ⟨encode TranscriptEntry.opening.toList ++ encode rest⟩ := by
  have opening : (encode TranscriptEntry.opening.toList).length =
      TranscriptEntry.opening.length := by
    decide
  have id : (encode uuid.chars).length = 36 :=
    (length_encode_plain uuid.plain_chars).trans uuid.length_chars
  rw [ofText_ofList, withoutId, ← opening]
  simp [encode_append, List.drop_append, id]

end Record

def Flow.remainder (flow : Flow) (known : Enrichment) : List Char :=
  '"' :: ',' :: JsonText.members (flow.members known).tail ++ ['\x7d']

theorem Flow.summary_eq (flow : Flow) (known : Enrichment) :
    flow.summary known =
      String.ofList (TranscriptEntry.opening.toList ++ flow.id.chars ++ flow.remainder known) := by
  have written : flow.id.text.toList.flatMap JsonText.escape = flow.id.chars := by
    rw [Uuid.text, String.toList_ofList, Uuid.escape_chars]
  have first : JsonText.member ("uuid", .text flow.id.text) =
      "\"uuid\":\"".toList ++ flow.id.chars ++ ['"'] := by
    simp only [JsonText.member, JsonText.value, JsonText.quoted, written]
    rfl
  rw [summary, JsonText.object, Flow.members, JsonText.members, first]
  · simp [remainder, Flow.members, TranscriptEntry.opening]
  · simp

theorem Flow.remainder_unnamed (flow : Flow) (known : Enrichment) :
    flow.unnamed.remainder known = flow.remainder known := by
  simp only [remainder, members, unnamed, List.tail_cons]

def Report.plain (known : Enrichment) (report : Report) : Record where
  bytes := Record.encode TranscriptEntry.opening.toList ++
    Record.encode (report.flow.remainder known)

theorem Meter.withoutId_record (meter : Meter) (report : Report) :
    (meter.record report).withoutId = report.unnamed.plain meter.config.enrichment := by
  rw [record, summary, Flow.summary_eq, Record.withoutId_ofText, Report.plain, Report.unnamed,
    Flow.remainder_unnamed]

end FlowProbe
