import FlowProbe.Proofs.Fibers
import FlowProbe.Proofs.FlowKey
import FlowProbe.Proofs.Meter.Conservation
import FlowProbe.Proofs.Meter.Identifier

set_option autoImplicit false

namespace FlowProbe

def Flow.key (flow : Flow) : FlowKey :=
  .between flow.client flow.server flow.proto

theorem Flow.key_start (id : Uuid) (packet : Packet) (time : Nanos) :
    (Flow.start id packet time).key = packet.key := by
  cases answers : packet.answers
  next => simp [key, start, answers, Packet.key]
  next => simp [key, start, answers, Packet.key, FlowKey.between_comm packet.destination]

def Report.ofKey (key : FlowKey) (reports : List Report) : List Report :=
  Fibers.part (fun report => report.flow.key) key (reports.map Report.unnamed)

theorem Report.ofKey_append (key : FlowKey) (reports more : List Report) :
    ofKey key (reports ++ more) = ofKey key reports ++ ofKey key more := by
  simp [ofKey, Fibers.part]

theorem Report.ofKey_single (key : FlowKey) (report : Report) :
    ofKey key [report] = if report.flow.key = key then [report.unnamed] else [] := by
  have same : report.unnamed.flow.key = report.flow.key := rfl
  by_cases own : report.flow.key = key <;> simp [ofKey, Fibers.part, same, own]

namespace Course

def counted (flow? : Option Flow) (sighting : Sighting) : Flow :=
  (flow?.getD (.start .nil sighting.packet sighting.time)).update
    sighting.packet sighting.length sighting.time

def step (config : MeterConfig) (flow? : Option Flow) (sighting : Sighting) :
    Option Flow × List Report :=
  let flow := counted flow? sighting
  if flow.finishedBy sighting.packet then (none, [⟨.finished, flow⟩])
  else if config.activeTimeout ≤ sighting.time - flow.lastReport then
    (some (flow.reportedAt sighting.time), [⟨.periodic, flow.reportedAt sighting.time⟩])
  else (some flow, [])

def run (config : MeterConfig) : Option Flow → List Sighting → Option Flow × List Report
  | flow?, [] => (flow?, [])
  | flow?, sighting :: rest =>
    ((run config (step config flow? sighting).1 rest).1,
      (step config flow? sighting).2 ++ (run config (step config flow? sighting).1 rest).2)

def flush (flow? : Option Flow) : List Report :=
  flow?.toList.map fun flow => ⟨.flushed, flow⟩

def reports (config : MeterConfig) (sightings : List Sighting) : List Report :=
  (run config none sightings).2 ++ flush (run config none sightings).1

theorem run_append (config : MeterConfig) (flow? : Option Flow) (sightings more : List Sighting) :
    run config flow? (sightings ++ more) =
      ((run config (run config flow? sightings).1 more).1,
        (run config flow? sightings).2 ++ (run config (run config flow? sightings).1 more).2) := by
  induction sightings generalizing flow? with
  | nil => rfl
  | cons sighting rest ih => simp [run, ih]

end Course

namespace Meter

def flowAt (meter : Meter) (key : FlowKey) : Option Flow :=
  (meter.table.find? key).map Flow.unnamed

section Naming

variable {meter : Meter} (named : ∀ key flow, meter.table.find? key = some flow → flow.key = key)
  (sighting : Sighting)
include named

theorem key_counted : (meter.counted sighting).key = sighting.packet.key := by
  change (meter.flowOf sighting.packet sighting.time).key = sighting.packet.key
  unfold flowOf
  split
  next flow found => exact named _ _ found
  next => exact Flow.key_start _ _ _

theorem named_count (distinct : meter.table.keys.Nodup) (key : FlowKey) (flow : Flow)
    (found : (meter.count sighting.packet sighting.length sighting.time).1.table.find? key =
      some flow) : flow.key = key := by
  have entry := count_entry meter distinct sighting key flow found
  by_cases same : sighting.packet.key = key
  next =>
    obtain ⟨reported, equal⟩ := (if_pos same).mp entry
    have own := key_counted named sighting
    rw [equal]
    exact own.trans same
  next => exact named key flow ((if_neg same).mp entry)

theorem course_count (distinct : meter.table.keys.Nodup) (key : FlowKey) :
    let next := meter.count sighting.packet sighting.length sighting.time
    (next.1.flowAt key, Report.ofKey key next.2) =
      if sighting.packet.key = key then Course.step meter.config (meter.flowAt key) sighting
      else (meter.flowAt key, []) := by
  intro next
  have own := key_counted named sighting
  have ownReported : ((meter.counted sighting).reportedAt sighting.time).key =
      sighting.packet.key := own
  by_cases same : sighting.packet.key = key
  next =>
    -- The identifier is the only thing in which the two flows differ.
    have unnamed : (meter.counted sighting).unnamed =
        Course.counted (meter.flowAt key) sighting := by
      rw [counted, flowOf, flowAt, same]
      cases meter.table.find? key <;> rfl
    have finished : (Course.counted (meter.flowAt key) sighting).finishedBy sighting.packet =
        (meter.counted sighting).finishedBy sighting.packet := by
      rw [← unnamed]
      rfl
    have last : (Course.counted (meter.flowAt key) sighting).lastReport =
        (meter.counted sighting).lastReport := by
      rw [← unnamed]
      rfl
    rw [if_pos same, Course.step, finished, last, ← unnamed]
    obtain ⟨ends, table, reports⟩ | ⟨lasts, due, table, reports⟩ | ⟨lasts, early, table, reports⟩ :=
      count_cases meter sighting
    next =>
      rw [flowAt, table, reports, FlowTable.find?_erase _ distinct, Report.ofKey_single]
      simp only [same, own, ends, if_true]
      rfl
    next =>
      rw [flowAt, table, reports, FlowTable.find?_insert, Report.ofKey_single]
      simp only [same, ownReported, lasts, due, if_true, Bool.false_eq_true, if_false]
      rfl
    next =>
      rw [flowAt, table, reports, FlowTable.find?_insert]
      simp only [same, lasts, early, if_true, Bool.false_eq_true, if_false]
      rfl
  next =>
    rw [if_neg same]
    obtain ⟨-, table, reports⟩ | ⟨-, -, table, reports⟩ | ⟨-, -, table, reports⟩ :=
      count_cases meter sighting
    next =>
      rw [flowAt, table, reports, FlowTable.find?_erase _ distinct, Report.ofKey_single]
      simp [same, own, flowAt]
    next =>
      rw [flowAt, table, reports, FlowTable.find?_insert, Report.ofKey_single]
      simp [same, ownReported, flowAt]
    next =>
      rw [flowAt, table, reports, FlowTable.find?_insert]
      simp [same, flowAt, Report.ofKey, Fibers.part]

end Naming

theorem count_sinceScan (meter : Meter) (packet : Packet) (length : Nat) (time : Nanos) :
    (meter.count packet length time).1.sinceScan = meter.sinceScan := by
  unfold count
  dsimp only
  split
  next => rfl
  next => split <;> rfl

def sitting (frames : List Captured) : List MeterCall :=
  frames.map .process ++ [.flush]

theorem flush_course {meter : Meter} (distinct : meter.table.keys.Nodup)
    (named : ∀ key flow, meter.table.find? key = some flow → flow.key = key) (key : FlowKey) :
    Report.ofKey key meter.flush.2 = Course.flush (meter.flowAt key) := by
  have own : ∀ entry ∈ meter.table, entry.2.key = entry.1 := by
    intro ⟨other, flow⟩ member
    exact named other flow ((FlowTable.find?_eq_some_iff _ distinct _ _).mpr member)
  have chosen : meter.table.filter (fun entry => entry.2.key = key) =
      (meter.table.find? key).toList.map fun flow => (key, flow) := by
    rw [← FlowTable.filter_key _ distinct]
    exact List.filter_congr fun entry member => by rw [own entry member]
  have each : Report.ofKey key meter.flush.2 =
      (meter.table.filter fun entry => entry.2.key = key).map fun entry =>
        ⟨.flushed, entry.2.unnamed⟩ := by
    rw [Report.ofKey, Fibers.part, flush, List.map_map, List.filter_map]
    rfl
  rw [each, chosen, flowAt, Course.flush]
  cases meter.table.find? key <;> rfl

end Meter

end FlowProbe
