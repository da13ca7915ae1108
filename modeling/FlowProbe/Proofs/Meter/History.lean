import FlowProbe.Meter.Setup
import FlowProbe.Proofs.Meter.Lifetime
import FlowProbe.Proofs.Meter.Table

set_option autoImplicit false

namespace FlowProbe

inductive MeterCall where
  | process (captured : Captured)
  | flush

def MeterCall.sighting? : MeterCall → Option Sighting
  | .process captured =>
    (Packet.parse? captured.bytes).map fun packet => ⟨packet, captured.length, captured.time⟩
  | .flush => none

def MeterCall.sightings (calls : List MeterCall) : List Sighting :=
  calls.filterMap MeterCall.sighting?

def MeterCall.sightingsOf (key : FlowKey) (calls : List MeterCall) : List Sighting :=
  (MeterCall.sightings calls).filter fun sighting => sighting.packet.key = key

namespace MeterCall

theorem sightings_append (earlier later : List MeterCall) :
    sightings (earlier ++ later) = sightings earlier ++ sightings later :=
  List.filterMap_append

theorem sightings_single (call : MeterCall) : sightings [call] = call.sighting?.toList := by
  cases seen : call.sighting? <;> simp [sightings, seen]

theorem sightingsOf_append (key : FlowKey) (calls more : List MeterCall) :
    sightingsOf key (calls ++ more) = sightingsOf key calls ++ sightingsOf key more := by
  simp [sightingsOf, sightings_append]

theorem sightingsOf_cons (key : FlowKey) (call : MeterCall) (calls : List MeterCall) :
    sightingsOf key (call :: calls) = sightingsOf key [call] ++ sightingsOf key calls :=
  sightingsOf_append key [call] calls

theorem sightingsOf_unparsed (key : FlowKey) {captured : Captured}
    (parsed : Packet.parse? captured.bytes = none) : sightingsOf key [.process captured] = [] := by
  simp [sightingsOf, sightings_single, sighting?, parsed]

theorem sightingsOf_parsed (key : FlowKey) {captured : Captured} {packet : Packet}
    (parsed : Packet.parse? captured.bytes = some packet) :
    sightingsOf key [.process captured] =
      if packet.key = key then [⟨packet, captured.length, captured.time⟩] else [] := by
  by_cases own : packet.key = key <;>
    simp [sightingsOf, sightings_single, sighting?, parsed, own]

end MeterCall

namespace Meter

def call (meter : Meter) : MeterCall → Meter × List Report
  | .process captured => meter.process captured
  | .flush => meter.flush

def records (meter : Meter) (call : MeterCall) : List Record :=
  (meter.call call).2.map meter.record

def after (meter : Meter) (calls : List MeterCall) : Meter :=
  calls.foldl (fun meter call => (meter.call call).1) meter

theorem after_append (meter : Meter) (earlier later : List MeterCall) :
    meter.after (earlier ++ later) = (meter.after earlier).after later :=
  List.foldl_append

theorem after_concat (meter : Meter) (calls : List MeterCall) (call : MeterCall) :
    meter.after (calls ++ [call]) = ((meter.after calls).call call).1 := by
  rw [after_append]
  rfl

def counted (meter : Meter) (sighting : Sighting) : Flow :=
  (meter.flowOf sighting.packet sighting.time).update sighting.packet sighting.length sighting.time

/-- The flow of a key, if there is one, at the time when a call has counted its packet and has not
removed anything yet. -/
def Shows (meter : Meter) (call : MeterCall) (key : FlowKey) (flow : Flow) : Prop :=
  match call.sighting? with
  | none => meter.table.find? key = some flow
  | some sighting =>
    if sighting.packet.key = key then
      ∃ reported, flow = (meter.counted sighting).reportedAt reported
    else
      meter.table.find? key = some flow

-- What counting a packet can do. It ends the flow, or reports it because a report is due, or only
-- keeps it.
theorem count_cases (meter : Meter) (sighting : Sighting) :
    let next := meter.count sighting.packet sighting.length sighting.time
    let flow := meter.counted sighting
    let reported := flow.reportedAt sighting.time
    let due := meter.config.activeTimeout ≤ sighting.time - flow.lastReport
    (flow.finishedBy sighting.packet = true ∧
        next.1.table = meter.table.erase sighting.packet.key ∧ next.2 = [⟨.finished, flow⟩]) ∨
      (flow.finishedBy sighting.packet = false ∧ due ∧
        next.1.table = meter.table.insert sighting.packet.key reported ∧
        next.2 = [⟨.periodic, reported⟩]) ∨
      (flow.finishedBy sighting.packet = false ∧ ¬ due ∧
        next.1.table = meter.table.insert sighting.packet.key flow ∧ next.2 = []) := by
  intro next flow reported due
  have counting : next =
      if flow.finishedBy sighting.packet then
        ({ meter with
            drawn := meter.drawnAfter sighting.packet
            table := meter.table.erase sighting.packet.key }, [⟨.finished, flow⟩])
      else if due then
        ({ meter with
            drawn := meter.drawnAfter sighting.packet
            table := meter.table.insert sighting.packet.key reported }, [⟨.periodic, reported⟩])
      else
        ({ meter with
            drawn := meter.drawnAfter sighting.packet
            table := meter.table.insert sighting.packet.key flow }, []) := rfl
  rw [counting]
  cases flow.finishedBy sighting.packet with
  | true => exact .inl ⟨rfl, rfl, rfl⟩
  | false =>
    by_cases now : due
    · exact .inr (.inl ⟨rfl, now, by simp [now], by simp [now]⟩)
    · exact .inr (.inr ⟨rfl, now, by simp [now], by simp [now]⟩)

theorem count_keys (meter : Meter) (distinct : meter.table.keys.Nodup) (sighting : Sighting) :
    (meter.count sighting.packet sighting.length sighting.time).1.table.keys.Nodup := by
  obtain ⟨-, table, -⟩ | ⟨-, -, table, -⟩ | ⟨-, -, table, -⟩ := count_cases meter sighting
  · rw [table, FlowTable.erase_eq_filter _ distinct]
    exact FlowTable.nodup_filter _ distinct _
  · rw [table]
    exact FlowTable.nodup_insert _ distinct _ _
  · rw [table]
    exact FlowTable.nodup_insert _ distinct _ _

theorem count_entry (meter : Meter) (distinct : meter.table.keys.Nodup) (sighting : Sighting)
    (key : FlowKey) (flow : Flow)
    (found : (meter.count sighting.packet sighting.length sighting.time).1.table.find? key =
      some flow) :
    if sighting.packet.key = key then
      ∃ reported, flow = (meter.counted sighting).reportedAt reported
    else
      meter.table.find? key = some flow := by
  obtain ⟨-, table, -⟩ | ⟨-, -, table, -⟩ | ⟨-, -, table, -⟩ := count_cases meter sighting
  · rw [table, FlowTable.find?_erase _ distinct] at found
    by_cases same : sighting.packet.key = key
    · simp [same] at found
    · simpa [same] using found
  all_goals
    rw [table, FlowTable.find?_insert] at found
    by_cases same : sighting.packet.key = key <;> simp only [same, if_true, if_false] at found ⊢
  · exact ⟨sighting.time, (Option.some.inj found).symm⟩
  · exact found
  · exact ⟨_, (Option.some.inj found).symm⟩
  · exact found

theorem count_report (meter : Meter) (sighting : Sighting) (report : Report)
    (emitted : report ∈ (meter.count sighting.packet sighting.length sighting.time).2) :
    ∃ reported, report.flow = (meter.counted sighting).reportedAt reported := by
  obtain ⟨-, -, reports⟩ | ⟨-, -, -, reports⟩ | ⟨-, -, -, reports⟩ := count_cases meter sighting
  · rw [reports] at emitted
    exact ⟨_, congrArg Report.flow (List.mem_singleton.mp emitted)⟩
  · rw [reports] at emitted
    exact ⟨sighting.time, congrArg Report.flow (List.mem_singleton.mp emitted)⟩
  · rw [reports] at emitted
    cases emitted

-- A scan only takes entries away, and what it reports it has found in the table.
theorem tick_table (meter : Meter) (now : Nanos) :
    ∃ keep, (meter.tick now).1.table = meter.table.filter keep := by
  unfold tick
  split
  · exact ⟨_, rfl⟩
  · exact ⟨fun _ => true, (List.filter_eq_self.mpr (by simp)).symm⟩

theorem tick_report (meter : Meter) (now : Nanos) (report : Report)
    (emitted : report ∈ (meter.tick now).2) : ∃ key, (key, report.flow) ∈ meter.table := by
  unfold tick at emitted
  split at emitted
  · obtain ⟨⟨key, flow⟩, member, rfl⟩ := List.mem_map.mp emitted
    exact ⟨key, (List.mem_filter.mp member).1⟩
  · simp at emitted

theorem process_unparsed (meter : Meter) (captured : Captured)
    (unparsed : Packet.parse? captured.bytes = none) : meter.process captured = (meter, []) := by
  simp [process, unparsed]

theorem process_parsed (meter : Meter) (captured : Captured) (packet : Packet)
    (parsed : Packet.parse? captured.bytes = some packet) :
    meter.process captured =
      let counted := meter.count packet captured.length captured.time
      ((counted.1.tick captured.time).1, counted.2 ++ (counted.1.tick captured.time).2) := by
  simp [process, parsed]

-- What one call does. The flows that it leaves in the table and those that it reports are flows
-- that it shows, and keys stay distinct.
theorem call_shows (meter : Meter) (distinct : meter.table.keys.Nodup) (call : MeterCall) :
    (meter.call call).1.table.keys.Nodup ∧
      (∀ key flow, (meter.call call).1.table.find? key = some flow → meter.Shows call key flow) ∧
      ∀ report ∈ (meter.call call).2, ∃ key, meter.Shows call key report.flow := by
  cases call with
  | flush =>
    refine ⟨by simp [Meter.call, flush, FlowTable.keys], ?_, ?_⟩
    · intro key flow found
      simp [Meter.call, flush, FlowTable.find?] at found
    · intro report emitted
      obtain ⟨⟨key, flow⟩, member, rfl⟩ := List.mem_map.mp emitted
      exact ⟨key, (FlowTable.find?_eq_some_iff _ distinct key flow).mpr member⟩
  | process captured =>
    cases parsed : Packet.parse? captured.bytes with
    | none =>
      simp only [Meter.call, process_unparsed meter captured parsed, Shows,
        MeterCall.sighting?, parsed]
      exact ⟨distinct, fun _ _ found => found, by simp⟩
    | some packet =>
      let sighting : Sighting := ⟨packet, captured.length, captured.time⟩
      let middle := (meter.count packet captured.length captured.time).1
      have middleDistinct : middle.table.keys.Nodup := count_keys meter distinct sighting
      have shown (key : FlowKey) (flow : Flow) (found : middle.table.find? key = some flow) :
          meter.Shows (.process captured) key flow := by
        simpa only [Shows, MeterCall.sighting?, parsed, Option.map_some] using
          count_entry meter distinct sighting key flow found
      obtain ⟨keep, kept⟩ := tick_table middle captured.time
      simp only [Meter.call, process_parsed meter captured packet parsed]
      refine ⟨?_, ?_, ?_⟩
      · rw [kept]
        exact FlowTable.nodup_filter _ middleDistinct keep
      · intro key flow found
        rw [kept, FlowTable.find?_filter _ middleDistinct] at found
        exact shown key flow (Option.filter_eq_some_iff.mp found).1
      · intro report emitted
        rcases List.mem_append.mp emitted with emitted | emitted
        · refine ⟨packet.key, ?_⟩
          simpa only [Shows, MeterCall.sighting?, parsed, Option.map_some, if_true] using
            count_report meter sighting report emitted
        · obtain ⟨key, member⟩ := tick_report middle captured.time report emitted
          exact ⟨key, shown key report.flow
            ((FlowTable.find?_eq_some_iff _ middleDistinct key _).mpr member)⟩

/-- A key that has no flow after `earlier` has one after each of the calls in `since`. -/
structure Resides (meter : Meter) (key : FlowKey) (earlier since : List MeterCall) : Prop where
  absent : (meter.after earlier).table.find? key = none
  present : ∀ part, part <+: since → part ≠ [] →
    (meter.after (earlier ++ part)).table.find? key ≠ none

/-- The flow counts the packets of its key in `since`, and no others. -/
def Tells (meter : Meter) (key : FlowKey) (earlier since : List MeterCall) (flow : Flow) : Prop :=
  ∃ first later reported,
    MeterCall.sightingsOf key since = first :: later ∧
      flow = Lifetime.flow ⟨meter.supply (meter.after earlier).drawn, first, later⟩ reported

def Explained (meter : Meter) (calls : List MeterCall) : Prop :=
  (meter.after calls).table.keys.Nodup ∧
    ∀ key flow, (meter.after calls).table.find? key = some flow →
      ∃ earlier since, calls = earlier ++ since ∧ meter.Resides key earlier since ∧
        meter.Tells key earlier since flow

theorem count_settings (meter : Meter) (packet : Packet) (length : Nat) (time : Nanos) :
    (meter.count packet length time).1.config = meter.config ∧
      (meter.count packet length time).1.supply = meter.supply := by
  unfold count
  dsimp only
  split
  · exact ⟨rfl, rfl⟩
  · split <;> exact ⟨rfl, rfl⟩

theorem tick_settings (meter : Meter) (now : Nanos) :
    (meter.tick now).1.config = meter.config ∧ (meter.tick now).1.supply = meter.supply := by
  unfold tick
  split <;> exact ⟨rfl, rfl⟩

theorem call_settings (meter : Meter) (call : MeterCall) :
    (meter.call call).1.config = meter.config ∧ (meter.call call).1.supply = meter.supply := by
  cases call with
  | flush => exact ⟨rfl, rfl⟩
  | process captured =>
    cases parsed : Packet.parse? captured.bytes with
    | none => simp [Meter.call, process_unparsed meter captured parsed]
    | some packet =>
      simp only [Meter.call, process_parsed meter captured packet parsed]
      obtain ⟨config, supply⟩ := count_settings meter packet captured.length captured.time
      exact ⟨(tick_settings _ _).1.trans config, (tick_settings _ _).2.trans supply⟩

theorem after_settings (meter : Meter) (calls : List MeterCall) :
    (meter.after calls).config = meter.config ∧ (meter.after calls).supply = meter.supply := by
  induction calls generalizing meter with
  | nil => exact ⟨rfl, rfl⟩
  | cons call rest ih =>
    obtain ⟨config, supply⟩ := call_settings meter call
    obtain ⟨laterConfig, laterSupply⟩ := ih (meter.call call).1
    exact ⟨laterConfig.trans config, laterSupply.trans supply⟩

-- Either the call's packet is not of this key, or it is the first one or one more of its flow.
theorem shows_tells (meter : Meter) (calls : List MeterCall) (explained : meter.Explained calls)
    (call : MeterCall) (key : FlowKey) (flow : Flow)
    (shown : (meter.after calls).Shows call key flow) :
    ∃ earlier since, calls = earlier ++ since ∧ meter.Resides key earlier since ∧
      meter.Tells key earlier (since ++ [call]) flow := by
  have untouched (unseen : MeterCall.sightingsOf key [call] = [])
      (found : (meter.after calls).table.find? key = some flow) :
      ∃ earlier since, calls = earlier ++ since ∧ meter.Resides key earlier since ∧
        meter.Tells key earlier (since ++ [call]) flow := by
    obtain ⟨earlier, since, split, resides, first, later, reported, sightings, equal⟩ :=
      explained.2 key flow found
    refine ⟨earlier, since, split, resides, first, later, reported, ?_, equal⟩
    rw [MeterCall.sightingsOf_append, unseen, List.append_nil, sightings]
  unfold Shows at shown
  cases seen : call.sighting? with
  | none =>
    rw [seen] at shown
    exact untouched (by simp [MeterCall.sightingsOf, MeterCall.sightings_single, seen]) shown
  | some sighting =>
    rw [seen] at shown
    by_cases same : sighting.packet.key = key
    · have one : MeterCall.sightingsOf key [call] = [sighting] := by
        simp [MeterCall.sightingsOf, MeterCall.sightings_single, seen, same]
      simp only [same, if_true] at shown
      obtain ⟨reported, equal⟩ := shown
      unfold counted flowOf at equal
      rw [same] at equal
      cases found : (meter.after calls).table.find? key with
      | none =>
        rw [found] at equal
        refine ⟨calls, [], by simp, ⟨found, ?_⟩, sighting, [], reported, by simpa using one, ?_⟩
        · intro part sub nonempty
          exact absurd (List.prefix_nil.mp sub) nonempty
        · rw [equal, (after_settings meter calls).2]
          simp only [Lifetime.flow_start, Lifetime.flow_reportedAt]
      | some old =>
        rw [found] at equal
        obtain ⟨earlier, since, split, resides, first, later, last, sightings, oldEqual⟩ :=
          explained.2 key old found
        refine ⟨earlier, since, split, resides, first, later ++ [sighting], reported, ?_, ?_⟩
        · rw [MeterCall.sightingsOf_append, one, sightings]
          rfl
        · rw [equal, oldEqual]
          simp only [Lifetime.flow_push, Lifetime.flow_reportedAt, Lifetime.push]
    · simp only [same, if_false] at shown
      exact untouched (by simp [MeterCall.sightingsOf, MeterCall.sightings_single, seen, same]) shown

theorem resides_concat (meter : Meter) (key : FlowKey) (earlier since : List MeterCall)
    (call : MeterCall) (resides : meter.Resides key earlier since)
    (found : (meter.after (earlier ++ since ++ [call])).table.find? key ≠ none) :
    meter.Resides key earlier (since ++ [call]) := by
  refine ⟨resides.absent, ?_⟩
  intro part sub nonempty
  rcases List.prefix_concat_iff.mp sub with rfl | sub
  · rwa [← List.append_assoc]
  · exact resides.present part sub nonempty

theorem explained_concat (meter : Meter) (calls : List MeterCall)
    (explained : meter.Explained calls) (call : MeterCall) :
    meter.Explained (calls ++ [call]) := by
  obtain ⟨distinct, shown, -⟩ := call_shows (meter.after calls) explained.1 call
  unfold Explained
  rw [after_concat]
  refine ⟨distinct, ?_⟩
  intro key flow found
  obtain ⟨earlier, since, rfl, resides, tells⟩ :=
    shows_tells meter calls explained call key flow (shown key flow found)
  refine ⟨earlier, since ++ [call], by simp, ?_, tells⟩
  apply resides_concat meter key earlier since call resides
  rw [after_concat, found]
  simp

theorem explained_append (meter : Meter) (earlier later : List MeterCall)
    (explained : meter.Explained earlier) : meter.Explained (earlier ++ later) := by
  induction later generalizing earlier with
  | nil => simpa using explained
  | cons call rest ih =>
    have next := ih (earlier ++ [call]) (explained_concat meter earlier explained call)
    simpa [List.append_assoc] using next

theorem explained_fresh (meter : Meter) (fresh : meter.table = []) (calls : List MeterCall) :
    meter.Explained calls := by
  have start : meter.Explained [] := by
    simp [Explained, after, fresh, FlowTable.keys, FlowTable.find?]
  exact explained_append meter [] calls start

/-- Every record that a meter emits sums up the packets that the meter has parsed for one key since
its table last had no flow of that key, the packet at hand included. -/
theorem record_sums_up_lifetime (config : MeterConfig) (supply : Nat → Uuid)
    (calls : List MeterCall) (call : MeterCall) (record : Record)
    (emitted : record ∈ ((empty config supply).after calls).records call) :
    ∃ key earlier since first later,
      calls = earlier ++ since ∧
        (empty config supply).Resides key earlier since ∧
        MeterCall.sightingsOf key (since ++ [call]) = first :: later ∧
        record = .ofText (JsonText.object
          (Lifetime.members ⟨supply ((empty config supply).after earlier).drawn, first, later⟩
            config.enrichment)) := by
  have explained := explained_fresh (empty config supply) rfl calls
  obtain ⟨report, member, rfl⟩ := List.mem_map.mp emitted
  obtain ⟨-, -, reports⟩ := call_shows _ explained.1 call
  obtain ⟨key, shown⟩ := reports report member
  obtain ⟨earlier, since, split, resides, first, later, reported, sightings, equal⟩ :=
    shows_tells _ calls explained call key report.flow shown
  refine ⟨key, earlier, since, first, later, split, resides, sightings, ?_⟩
  rw [Meter.record, Meter.summary, (after_settings _ calls).1, equal]
  rfl

def segmentFrame (control : UInt8) : List UInt8 :=
  List.replicate 12 0 ++ [0x08, 0x00,
    0x45, 0, 0, 40, 0, 0, 0, 0, 64, 6, 0, 0, 10, 0, 0, 1, 10, 0, 0, 2,
    0, 1, 0, 80, 0, 0, 0, 0, 0, 0, 0, 0, 0x50, control, 0x20, 0, 0, 0, 0, 0]

def replyFrame (control : UInt8) : List UInt8 :=
  List.replicate 12 0 ++ [0x08, 0x00,
    0x45, 0, 0, 40, 0, 0, 0, 0, 64, 6, 0, 0, 10, 0, 0, 2, 10, 0, 0, 1,
    0, 80, 0, 1, 0, 0, 0, 0, 0, 0, 0, 0, 0x50, control, 0x20, 0, 0, 0, 0, 0]

def neighbour (host : UInt8) : Address :=
  .v4 ⟨[10, 0, 0, host], rfl⟩

def segmentPacket (header : TcpHeader) : Packet :=
  ⟨⟨neighbour 1, 1⟩, ⟨neighbour 2, 80⟩, 6, .v4, 64, some header⟩

def replyPacket (header : TcpHeader) : Packet :=
  ⟨⟨neighbour 2, 80⟩, ⟨neighbour 1, 1⟩, 6, .v4, 64, some header⟩

-- A reset ends the first flow of the key. The second one begins with an answer, so that the roles
-- are exchanged, and its clock runs backwards.
def reopening : List MeterCall := [
  .process (.of 9 0 (segmentFrame 0x04)),
  .process (.of 5 0 (segmentFrame 0x12)),
  .process (.of 3 60 (segmentFrame 0x10))]

theorem record_sums_up_reopened_flow :
    ∃ record ∈ ((empty {} (Uuid.supply 0)).after reopening).records .flush,
      ∃ key earlier since first later,
        reopening = earlier ++ since ∧
          (empty {} (Uuid.supply 0)).Resides key earlier since ∧
          MeterCall.sightingsOf key (since ++ [.flush]) = first :: later ∧
          record = .ofText (JsonText.object (Lifetime.members
            ⟨Uuid.supply 0 ((empty {} (Uuid.supply 0)).after earlier).drawn, first, later⟩
              (MeterConfig.enrichment {}))) := by
  have one : (((empty {} (Uuid.supply 0)).after reopening).records .flush).length = 1 := by
    decide
  obtain ⟨record, emitted⟩ := List.length_eq_one_iff.mp one
  have member : record ∈ ((empty {} (Uuid.supply 0)).after reopening).records .flush := by
    rw [emitted]
    exact List.mem_singleton_self record
  exact ⟨record, member, record_sums_up_lifetime {} (Uuid.supply 0) reopening .flush record member⟩

end Meter

end FlowProbe
