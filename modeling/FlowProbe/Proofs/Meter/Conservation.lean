import FlowProbe.Proofs.Meter.History

set_option autoImplicit false

namespace FlowProbe

def Report.isTerminal (report : Report) : Bool :=
  report.occasion ≠ .periodic

def Meter.reports (meter : Meter) : List MeterCall → List Report
  | [] => []
  | call :: rest => (meter.call call).2 ++ reports (meter.call call).1 rest

theorem Meter.reports_append (meter : Meter) (calls more : List MeterCall) :
    meter.reports (calls ++ more) = meter.reports calls ++ (meter.after calls).reports more := by
  induction calls generalizing meter with
  | nil => rfl
  | cons call rest ih =>
    simp only [List.cons_append, reports, ih, List.append_assoc]
    rfl

-- A number that flows add up packet by packet.
structure Tally where
  ofFlow : Flow → Nat
  ofSighting : Sighting → Nat
  start : ∀ id packet time, ofFlow (.start id packet time) = 0
  update : ∀ (flow : Flow) (sighting : Sighting),
    ofFlow (flow.update sighting.packet sighting.length sighting.time) =
      ofFlow flow + ofSighting sighting
  reported : ∀ (flow : Flow) (time : Nanos), ofFlow (flow.reportedAt time) = ofFlow flow

namespace Tally

def packets : Tally where
  ofFlow := Flow.packets
  ofSighting := fun _ => 1
  start := fun _ _ _ => rfl
  update := by
    intro flow sighting
    unfold Flow.update Flow.packets
    cases flow.fromClient sighting.packet <;> simp <;> omega
  reported := fun _ _ => rfl

def bytes : Tally where
  ofFlow := Flow.bytes
  ofSighting := Sighting.length
  start := fun _ _ _ => rfl
  update := by
    intro flow sighting
    unfold Flow.update Flow.bytes
    cases flow.fromClient sighting.packet <;> simp <;> omega
  reported := fun _ _ => rfl

def inTable (tally : Tally) (table : FlowTable) : Nat :=
  (table.map fun entry => tally.ofFlow entry.2).sum

/-- What the reports of removed flows add up to. -/
def settled (tally : Tally) (reports : List Report) : Nat :=
  ((reports.filter Report.isTerminal).map fun report => tally.ofFlow report.flow).sum

def seen (tally : Tally) (calls : List MeterCall) : Nat :=
  ((MeterCall.sightings calls).map tally.ofSighting).sum

def ofKey (tally : Tally) (table : FlowTable) (key : FlowKey) : Nat :=
  (table.find? key).elim 0 tally.ofFlow

variable (tally : Tally)

theorem settled_append (earlier later : List Report) :
    tally.settled (earlier ++ later) = tally.settled earlier + tally.settled later := by
  simp [settled]

theorem seen_append (earlier later : List MeterCall) :
    tally.seen (earlier ++ later) = tally.seen earlier + tally.seen later := by
  simp [seen, MeterCall.sightings_append]

theorem inTable_insert (table : FlowTable) (key : FlowKey) (flow : Flow) :
    tally.inTable (table.insert key flow) + tally.ofKey table key =
      tally.inTable table + tally.ofFlow flow := by
  induction table with
  | nil => simp [FlowTable.insert, inTable, ofKey, FlowTable.find?]
  | cons entry rest ih =>
    obtain ⟨k, old⟩ := entry
    by_cases same : k = key
    · simp [FlowTable.insert, inTable, ofKey, FlowTable.find?, same]
      omega
    · simp only [inTable, ofKey] at ih
      simp only [FlowTable.insert, inTable, ofKey, FlowTable.find?, same, if_false, List.map_cons,
        List.sum_cons]
      omega

theorem inTable_erase (table : FlowTable) (key : FlowKey) :
    tally.inTable (table.erase key) + tally.ofKey table key = tally.inTable table := by
  induction table with
  | nil => simp [FlowTable.erase, inTable, ofKey, FlowTable.find?]
  | cons entry rest ih =>
    obtain ⟨k, old⟩ := entry
    by_cases same : k = key
    · simp [FlowTable.erase, inTable, ofKey, FlowTable.find?, same]
      omega
    · simp only [inTable, ofKey] at ih
      simp only [FlowTable.erase, inTable, ofKey, FlowTable.find?, same, if_false, List.map_cons,
        List.sum_cons]
      omega

theorem inTable_split (table : FlowTable) (leaves : FlowKey × Flow → Bool) :
    tally.inTable (table.filter leaves) + tally.inTable (table.filter fun entry => !leaves entry) =
      tally.inTable table := by
  induction table with
  | nil => rfl
  | cons entry rest ih =>
    simp only [inTable] at ih
    cases leaving : leaves entry <;> simp [inTable, leaving] <;> omega

-- A new flow starts from nothing, as if its key had been there with nothing counted.
theorem ofFlow_counted (meter : Meter) (sighting : Sighting) :
    tally.ofFlow (meter.counted sighting) =
      tally.ofKey meter.table sighting.packet.key + tally.ofSighting sighting := by
  rw [Meter.counted, tally.update, Meter.flowOf, ofKey]
  cases meter.table.find? sighting.packet.key with
  | none => simp [tally.start]
  | some flow => rfl

theorem settled_removed (occasion : Occasion) (terminal : occasion ≠ .periodic)
    (table : FlowTable) :
    tally.settled (table.map fun entry => ⟨occasion, entry.2⟩) = tally.inTable table := by
  have all : ∀ report ∈ table.map fun entry => (⟨occasion, entry.2⟩ : Report),
      report.isTerminal = true := by
    intro report member
    obtain ⟨entry, -, rfl⟩ := List.mem_map.mp member
    simpa [Report.isTerminal] using terminal
  rw [settled, List.filter_eq_self.mpr all, List.map_map]
  rfl

theorem settled_single (report : Report) :
    tally.settled [report] = if report.isTerminal then tally.ofFlow report.flow else 0 := by
  cases terminal : report.isTerminal <;> simp [settled, terminal]

theorem count_conserves (meter : Meter) (sighting : Sighting) :
    let next := meter.count sighting.packet sighting.length sighting.time
    tally.settled next.2 + tally.inTable next.1.table =
      tally.inTable meter.table + tally.ofSighting sighting := by
  intro next
  have counted := tally.ofFlow_counted meter sighting
  have erased := tally.inTable_erase meter.table sighting.packet.key
  have inserted := tally.inTable_insert meter.table sighting.packet.key
  obtain ⟨-, table, reports⟩ | ⟨-, -, table, reports⟩ | ⟨-, -, table, reports⟩ :=
    Meter.count_cases meter sighting
  · rw [table, reports, settled_single]
    simp only [Report.isTerminal, ne_eq, reduceCtorEq, not_false_eq_true, decide_true, if_true]
    omega
  · have kept := inserted ((meter.counted sighting).reportedAt sighting.time)
    rw [tally.reported] at kept
    rw [table, reports, settled_single]
    simp only [Report.isTerminal, ne_eq, not_true_eq_false, decide_false, Bool.false_eq_true,
      if_false]
    omega
  · have kept := inserted (meter.counted sighting)
    rw [table, reports]
    simp only [settled, List.filter_nil, List.map_nil, List.sum_nil]
    omega

theorem tick_conserves (meter : Meter) (now : Nanos) :
    tally.settled (meter.tick now).2 + tally.inTable (meter.tick now).1.table =
      tally.inTable meter.table := by
  unfold Meter.tick
  split
  · have split := tally.inTable_split meter.table fun entry => meter.isIdle now entry.2
    have removed := tally.settled_removed .idle (by decide)
      (meter.table.filter fun entry => meter.isIdle now entry.2)
    exact (congrArg (· + _) removed).trans split
  · simp [settled]

theorem flush_settles (meter : Meter) : tally.settled meter.flush.2 = tally.inTable meter.table :=
  tally.settled_removed .flushed (by decide) meter.table

theorem call_conserves (meter : Meter) (call : MeterCall) :
    tally.settled (meter.call call).2 + tally.inTable (meter.call call).1.table =
      tally.inTable meter.table + tally.seen [call] := by
  rw [seen, MeterCall.sightings_single]
  cases call with
  | flush => exact tally.flush_settles meter
  | process captured =>
    cases parsed : Packet.parse? captured.bytes with
    | none =>
      simp [Meter.call, Meter.process_unparsed meter captured parsed, settled,
        MeterCall.sighting?, parsed]
    | some packet =>
      have counted :=
        tally.count_conserves meter ⟨packet, captured.length, captured.time⟩
      have ticked := tally.tick_conserves
        (meter.count packet captured.length captured.time).1 captured.time
      simp only [Meter.call, Meter.process_parsed meter captured packet parsed, settled_append,
        MeterCall.sighting?, parsed, Option.map_some, Option.toList_some, List.map_cons,
        List.map_nil, List.sum_cons, List.sum_nil]
      dsimp only at counted
      omega

theorem run_conserves (meter : Meter) (calls : List MeterCall) :
    tally.settled (meter.reports calls) + tally.inTable (meter.after calls).table =
      tally.inTable meter.table + tally.seen calls := by
  induction calls generalizing meter with
  | nil => simp [Meter.reports, Meter.after, settled, seen, MeterCall.sightings]
  | cons call rest ih =>
    have here := tally.call_conserves meter call
    have later := ih (meter.call call).1
    have split : tally.seen (call :: rest) = tally.seen [call] + tally.seen rest :=
      tally.seen_append [call] rest
    simp only [Meter.reports, settled_append]
    change _ + tally.inTable ((meter.call call).1.after rest).table = _
    omega

theorem seen_packets (calls : List MeterCall) :
    packets.seen calls = (MeterCall.sightings calls).length := by
  simp [seen, packets, List.map_const']

theorem ofFlow_le_inTable {table : FlowTable} {entry : FlowKey × Flow} (member : entry ∈ table) :
    tally.ofFlow entry.2 ≤ tally.inTable table := by
  obtain ⟨front, back, rfl⟩ := List.append_of_mem member
  simp only [inTable, List.map_append, List.map_cons, List.sum_append, List.sum_cons]
  omega

theorem ofKey_le_inTable (table : FlowTable) (key : FlowKey) :
    tally.ofKey table key ≤ tally.inTable table := by
  have erased := tally.inTable_erase table key
  omega

theorem count_told (meter : Meter) (sighting : Sighting) :
    ∀ report ∈ (meter.count sighting.packet sighting.length sighting.time).2,
      tally.ofFlow report.flow = tally.ofFlow (meter.counted sighting) := by
  intro report member
  obtain ⟨-, -, reports⟩ | ⟨-, -, -, reports⟩ | ⟨-, -, -, reports⟩ :=
    Meter.count_cases meter sighting
  all_goals
    rw [reports] at member
    simp only [List.mem_singleton, List.not_mem_nil] at member
  next => rw [member]
  next => rw [member, tally.reported]

theorem tick_told (meter : Meter) (now : Nanos) :
    ∀ report ∈ (meter.tick now).2, tally.ofFlow report.flow ≤ tally.inTable meter.table := by
  intro report member
  rw [Meter.tick] at member
  split at member
  next =>
    obtain ⟨entry, idle, rfl⟩ := List.mem_map.mp member
    exact tally.ofFlow_le_inTable (List.mem_filter.mp idle).1
  next => exact nomatch member

theorem call_told (meter : Meter) (call : MeterCall) :
    ∀ report ∈ (meter.call call).2,
      tally.ofFlow report.flow ≤ tally.inTable meter.table + tally.seen [call] := by
  intro report member
  cases call with
  | flush =>
    obtain ⟨entry, there, rfl⟩ := List.mem_map.mp member
    exact Nat.le_add_right_of_le (tally.ofFlow_le_inTable there)
  | process captured =>
    cases parsed : Packet.parse? captured.bytes with
    | none => simp [Meter.call, Meter.process_unparsed meter captured parsed] at member
    | some packet =>
      let sighting : Sighting := ⟨packet, captured.length, captured.time⟩
      have seen : tally.seen [.process captured] = tally.ofSighting sighting := by
        simp [Tally.seen, MeterCall.sightings_single, MeterCall.sighting?, parsed, sighting]
      rw [Meter.call, Meter.process_parsed meter captured packet parsed] at member
      rw [seen]
      rcases List.mem_append.mp member with counted | expired
      next =>
        rw [tally.count_told meter sighting report counted, tally.ofFlow_counted]
        exact Nat.add_le_add_right (tally.ofKey_le_inTable _ _) _
      next =>
        have conserved := tally.count_conserves meter sighting
        have told := tally.tick_told _ _ report expired
        dsimp only [sighting] at conserved ⊢
        omega

theorem run_told (meter : Meter) (calls : List MeterCall) :
    ∀ report ∈ meter.reports calls,
      tally.ofFlow report.flow ≤ tally.inTable meter.table + tally.seen calls := by
  induction calls generalizing meter with
  | nil => exact fun _ member => nomatch member
  | cons call rest ih =>
    intro report member
    have conserved := tally.call_conserves meter call
    have split : tally.seen (call :: rest) = tally.seen [call] + tally.seen rest :=
      tally.seen_append [call] rest
    rcases List.mem_append.mp member with here | later
    next =>
      have told := tally.call_told meter call report here
      omega
    next =>
      have told := ih (meter.call call).1 report later
      omega

end Tally

/-- No more packets are parsed, and no more octets, than a word of 64 bits can count. -/
def MeterCall.Countable (calls : List MeterCall) : Prop :=
  (sightings calls).length < UInt64.size ∧
    ((sightings calls).map Sighting.length).sum < UInt64.size

structure Flow.Fits (flow : Flow) : Prop where
  clientPackets : flow.clientPackets < UInt64.size
  serverPackets : flow.serverPackets < UInt64.size
  clientBytes : flow.clientBytes < UInt64.size
  serverBytes : flow.serverBytes < UInt64.size

theorem Flow.fits_of_totals {flow : Flow} {calls : List MeterCall}
    (countable : MeterCall.Countable calls)
    (packets : Tally.packets.ofFlow flow ≤ Tally.packets.seen calls)
    (bytes : Tally.bytes.ofFlow flow ≤ Tally.bytes.seen calls) : flow.Fits := by
  obtain ⟨few, short⟩ := countable
  rw [Tally.seen_packets] at packets
  have packets : flow.clientPackets + flow.serverPackets < UInt64.size :=
    Nat.lt_of_le_of_lt packets few
  have bytes : flow.clientBytes + flow.serverBytes < UInt64.size := Nat.lt_of_le_of_lt bytes short
  constructor <;> omega

namespace Meter

variable {config : MeterConfig} {supply : Nat → Uuid} {calls : List MeterCall}

theorem told_fits (countable : MeterCall.Countable calls) :
    ∀ report ∈ (empty config supply).reports calls, report.flow.Fits := by
  intro report member
  have told (tally : Tally) := tally.run_told (empty config supply) calls report member
  exact Flow.fits_of_totals countable (by simpa [Tally.inTable, empty] using told .packets)
    (by simpa [Tally.inTable, empty] using told .bytes)

theorem kept_fits (countable : MeterCall.Countable calls) :
    ∀ entry ∈ ((empty config supply).after calls).table, entry.2.Fits := by
  intro entry member
  have kept (tally : Tally) : tally.ofFlow entry.2 ≤ tally.seen calls := by
    have conserved := tally.run_conserves (empty config supply) calls
    have part := tally.ofFlow_le_inTable member
    have nothing : tally.inTable (empty config supply).table = 0 := rfl
    omega
  exact Flow.fits_of_totals countable (kept .packets) (kept .bytes)

end Meter

/-- At every point of a run, what the reports of removed flows add up to and what the flows in the
table have counted make up the packets that were parsed, and so do their lengths. After a flush the
reports alone do. No counter outgrows its word before the totals do. -/
theorem Meter.packets_and_bytes_conserved (config : MeterConfig) (supply : Nat → Uuid)
    (calls : List MeterCall) :
    let meter := (Meter.empty config supply).after calls
    let reports := (Meter.empty config supply).reports calls
    let parsed := MeterCall.sightings calls
    Tally.packets.settled reports + Tally.packets.inTable meter.table = parsed.length ∧
      Tally.bytes.settled reports + Tally.bytes.inTable meter.table =
        (parsed.map Sighting.length).sum ∧
      meter.flush.1.table = [] ∧
      Tally.packets.settled (reports ++ meter.flush.2) = parsed.length ∧
      Tally.bytes.settled (reports ++ meter.flush.2) = (parsed.map Sighting.length).sum ∧
      (MeterCall.Countable calls → (∀ report ∈ reports ++ meter.flush.2, report.flow.Fits) ∧
        ∀ entry ∈ meter.table, entry.2.Fits) := by
  intro meter reports parsed
  have packets : Tally.packets.settled reports + Tally.packets.inTable meter.table =
      parsed.length := by
    rw [Tally.run_conserves, Tally.seen_packets]
    exact Nat.zero_add _
  have bytes : Tally.bytes.settled reports + Tally.bytes.inTable meter.table =
      (parsed.map Sighting.length).sum := by
    rw [Tally.run_conserves]
    exact Nat.zero_add _
  refine ⟨packets, bytes, rfl, ?_, ?_, fun countable => ⟨fun report member => ?_, kept_fits countable⟩⟩
  · rw [Tally.settled_append, Tally.flush_settles, packets]
  · rw [Tally.settled_append, Tally.flush_settles, bytes]
  · rcases List.mem_append.mp member with told | flushed
    · exact told_fits countable report told
    · obtain ⟨entry, there, rfl⟩ := List.mem_map.mp flushed
      exact kept_fits countable entry there

end FlowProbe
