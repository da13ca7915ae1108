import FlowProbe.Proofs.Meter.Identity

set_option autoImplicit false

namespace FlowProbe.Meter

/-- The moment of the scan that the last of the calls runs, if it runs one. -/
def scanAfter? (calls : List MeterCall) (call : MeterCall) : Option Nanos :=
  call.sighting?.bind fun sighting =>
    if scanInterval ∣ (MeterCall.sightings (calls ++ [call])).length then some sighting.time else none

/-- The table when a call has counted its packet, and has reported or removed the flow of that packet
if this was due. -/
def settledBy (meter : Meter) (call : MeterCall) : FlowTable :=
  match call.sighting? with
  | some sighting => (meter.count sighting.packet sighting.length sighting.time).1.table
  | none => meter.table

def idleReports (key : FlowKey) (reports : List Report) : List Report :=
  reports.filter fun report => report.occasion = .idle && report.flow.key = key

theorem sinceScan_tick (meter : Meter) (now : Nanos) :
    (meter.tick now).1.sinceScan =
      if scanInterval ≤ meter.sinceScan + 1 then 0 else meter.sinceScan + 1 := by
  unfold tick
  split <;> rfl

theorem sinceScan_call {meter : Meter} {seen : Nat} (kept : meter.sinceScan = seen % scanInterval)
    (call : MeterCall) :
    (meter.call call).1.sinceScan = (seen + (MeterCall.sightings [call]).length) % scanInterval := by
  rw [MeterCall.sightings_single]
  cases call with
  | flush => exact kept
  | process captured =>
    cases parsed : Packet.parse? captured.bytes with
    | none => simpa [Meter.call, process_unparsed meter captured parsed, MeterCall.sighting?, parsed]
    | some packet =>
      simp only [Meter.call, process_parsed meter captured packet parsed, MeterCall.sighting?, parsed,
        sinceScan_tick, count_sinceScan, Option.map_some, Option.toList_some, List.length_singleton,
        kept, scanInterval]
      split <;> omega

theorem sinceScan_after (config : MeterConfig) (supply : Nat → Uuid) (calls : List MeterCall) :
    ((empty config supply).after calls).sinceScan =
      (MeterCall.sightings calls).length % scanInterval := by
  induction calls using List.reverseRecOn with
  | nil => rfl
  | append_singleton calls call ih =>
    rw [after_concat, MeterCall.sightings_append, List.length_append]
    exact sinceScan_call ih call

theorem idleReports_append (key : FlowKey) (reports more : List Report) :
    idleReports key (reports ++ more) = idleReports key reports ++ idleReports key more :=
  List.filter_append ..

theorem idleReports_other (key : FlowKey) {reports : List Report}
    (other : ∀ report ∈ reports, report.occasion ≠ .idle) : idleReports key reports = [] := by
  apply List.filter_eq_nil_iff.mpr
  intro report member
  simp [other report member]

theorem idleReports_count (meter : Meter) (sighting : Sighting) (key : FlowKey) :
    idleReports key (meter.count sighting.packet sighting.length sighting.time).2 = [] := by
  apply idleReports_other
  intro report member
  obtain ⟨-, -, reports⟩ | ⟨-, -, -, reports⟩ | ⟨-, -, -, reports⟩ := count_cases meter sighting
  all_goals rw [reports] at member
  next => simp [List.mem_singleton.mp member]
  next => simp [List.mem_singleton.mp member]
  next => cases member

section Table

variable {table : FlowTable} (distinct : table.keys.Nodup)
  (named : ∀ key flow, table.find? key = some flow → flow.key = key)
include distinct named

theorem idleReports_chosen (leaves : Flow → Bool) (key : FlowKey) :
    idleReports key ((table.filter fun entry => leaves entry.2).map fun entry =>
        ⟨.idle, entry.2⟩) =
      ((table.find? key).filter leaves).toList.map fun flow => ⟨.idle, flow⟩ := by
  have own : ∀ entry ∈ table, entry.2.key = entry.1 := by
    intro ⟨other, flow⟩ member
    exact named other flow ((FlowTable.find?_eq_some_iff _ distinct _ _).mpr member)
  have chosen : (table.filter fun entry => leaves entry.2).filter (fun entry => entry.2.key = key) =
      (table.filter fun entry => entry.1 = key).filter fun entry => leaves entry.2 := by
    rw [List.filter_comm]
    congr 1
    exact List.filter_congr fun entry member => by rw [own entry member]
  have told : idleReports key ((table.filter fun entry => leaves entry.2).map fun entry =>
      ⟨.idle, entry.2⟩) =
        ((table.filter fun entry => leaves entry.2).filter fun entry => entry.2.key = key).map
          fun entry => ⟨.idle, entry.2⟩ := by
    rw [idleReports, List.filter_map]
    simp [Function.comp_def]
  rw [told, chosen, FlowTable.filter_key _ distinct]
  cases table.find? key with
  | none => rfl
  | some flow => cases leaving : leaves flow <;> simp [Option.filter, leaving]

end Table

def leaves (config : MeterConfig) (scan? : Option Nanos) (flow : Flow) : Bool :=
  scan?.any fun now => config.idleTimeout ≤ now - flow.lastSeen

theorem leaves_none (config : MeterConfig) : leaves config none = fun _ => false :=
  rfl

theorem leaves_some (meter : Meter) (now : Nanos) :
    leaves meter.config (some now) = meter.isIdle now :=
  rfl

theorem tick_found {meter : Meter} (distinct : meter.table.keys.Nodup)
    (named : ∀ key flow, meter.table.find? key = some flow → flow.key = key) (now : Nanos)
    (key : FlowKey) :
    let leaving := leaves meter.config (if scanInterval ≤ meter.sinceScan + 1 then some now else none)
    (meter.tick now).1.table.find? key = (meter.table.find? key).filter (fun flow => !leaving flow) ∧
      idleReports key (meter.tick now).2 =
        ((meter.table.find? key).filter leaving).toList.map fun flow => ⟨.idle, flow⟩ := by
  intro leaving
  unfold tick
  split
  next due =>
    have idle : leaving = meter.isIdle now := by simp only [leaving, due, if_true, leaves_some]
    rw [idle]
    exact ⟨FlowTable.find?_filter _ distinct _ key,
      idleReports_chosen distinct named (meter.isIdle now) key⟩
  next early =>
    have calm : leaving = fun _ => false := by simp only [leaving, early, if_false, leaves_none]
    rw [calm]
    cases meter.table.find? key <;> exact ⟨rfl, rfl⟩

theorem time_of_scan {calls : List MeterCall} {captured : Captured} {now : Nanos}
    (scan : scanAfter? calls (.process captured) = some now) : now = captured.time := by
  obtain ⟨sighting, seen, here⟩ := Option.bind_eq_some_iff.mp scan
  obtain ⟨packet, -, rfl⟩ := Option.map_eq_some_iff.mp seen
  split at here
  next => exact (Option.some.inj here).symm
  next => cases here

theorem scanAfter?_eq (config : MeterConfig) (supply : Nat → Uuid) (calls : List MeterCall)
    {captured : Captured} {packet : Packet}
    (parsed : Packet.parse? captured.bytes = some packet) :
    scanAfter? calls (.process captured) =
      if scanInterval ≤ ((empty config supply).after calls).sinceScan + 1 then some captured.time
      else none := by
  have seen : (MeterCall.sightings [.process captured]).length = 1 := by
    simp [MeterCall.sightings_single, MeterCall.sighting?, parsed]
  rw [sinceScan_after, scanAfter?, MeterCall.sightings_append, List.length_append, seen]
  simp only [MeterCall.sighting?, parsed, Option.map_some, Option.bind_some]
  refine if_congr ?_ rfl rfl
  unfold scanInterval
  omega

theorem process_found {meter : Meter} (distinct : meter.table.keys.Nodup)
    (named : ∀ key flow, meter.table.find? key = some flow → flow.key = key) {captured : Captured}
    {packet : Packet} (parsed : Packet.parse? captured.bytes = some packet) (key : FlowKey) :
    let leaving := leaves meter.config
      (if scanInterval ≤ meter.sinceScan + 1 then some captured.time else none)
    let settled := meter.settledBy (.process captured)
    (meter.process captured).1.table.find? key =
        (settled.find? key).filter (fun flow => !leaving flow) ∧
      idleReports key (meter.process captured).2 =
        ((settled.find? key).filter leaving).toList.map fun flow => ⟨.idle, flow⟩ := by
  let sighting : Sighting := ⟨packet, captured.length, captured.time⟩
  have scan := tick_found (count_keys meter distinct sighting) (named_count named sighting distinct)
    captured.time key
  rw [(count_settings meter _ _ _).1, count_sinceScan] at scan
  rw [process_parsed meter captured packet parsed, idleReports_append,
    idleReports_count meter sighting key]
  simpa only [settledBy, MeterCall.sighting?, parsed, Option.map_some, List.nil_append] using scan

theorem lastSeen_settled {meter : Meter} (distinct : meter.table.keys.Nodup) {captured : Captured}
    {packet : Packet} (parsed : Packet.parse? captured.bytes = some packet) {flow : Flow}
    (found : (meter.settledBy (.process captured)).find? packet.key = some flow) :
    captured.time ≤ flow.lastSeen := by
  let sighting : Sighting := ⟨packet, captured.length, captured.time⟩
  simp only [settledBy, MeterCall.sighting?, parsed, Option.map_some] at found
  obtain ⟨reported, rfl⟩ := (if_pos rfl).mp (count_entry meter distinct sighting packet.key flow found)
  exact Nat.le_max_right _ _

theorem count_others (meter : Meter) (distinct : meter.table.keys.Nodup) (sighting : Sighting)
    {key : FlowKey} (other : sighting.packet.key ≠ key) :
    (meter.count sighting.packet sighting.length sighting.time).1.table.find? key =
      meter.table.find? key := by
  obtain ⟨-, table, -⟩ | ⟨-, -, table, -⟩ | ⟨-, -, table, -⟩ := count_cases meter sighting
  next => rw [table, FlowTable.find?_erase _ distinct, if_neg other]
  next => rw [table, FlowTable.find?_insert, if_neg other]
  next => rw [table, FlowTable.find?_insert, if_neg other]

theorem count_found (meter : Meter) (sighting : Sighting)
    (lasts : (meter.counted sighting).finishedBy sighting.packet = false) :
    ∃ reported,
      (meter.count sighting.packet sighting.length sighting.time).1.table.find? sighting.packet.key =
        some ((meter.counted sighting).reportedAt reported) := by
  obtain ⟨ends, -⟩ | ⟨-, -, table, -⟩ | ⟨-, -, table, -⟩ := count_cases meter sighting
  next =>
    rw [lasts] at ends
    cases ends
  next =>
    rw [table, FlowTable.find?_insert, if_pos rfl]
    exact ⟨_, rfl⟩
  next =>
    rw [table, FlowTable.find?_insert, if_pos rfl]
    exact ⟨(meter.counted sighting).lastReport, rfl⟩

-- The flow of a packet that does not end it is in the table until the next scan.
theorem found_between_scans {meter : Meter} (distinct : meter.table.keys.Nodup)
    (named : ∀ key flow, meter.table.find? key = some flow → flow.key = key) {captured : Captured}
    {packet : Packet} (parsed : Packet.parse? captured.bytes = some packet)
    (calm : meter.sinceScan + 1 < scanInterval)
    (lasts : (meter.counted ⟨packet, captured.length, captured.time⟩).finishedBy packet = false) :
    ∃ reported, (meter.process captured).1.table.find? packet.key =
      some ((meter.counted ⟨packet, captured.length, captured.time⟩).reportedAt reported) := by
  obtain ⟨found, -⟩ := process_found distinct named parsed packet.key
  obtain ⟨reported, settled⟩ :=
    count_found meter ⟨packet, captured.length, captured.time⟩ lasts
  simp only [Nat.not_le.mpr calm, if_false, leaves_none, settledBy, MeterCall.sighting?, parsed,
    Option.map_some, settled] at found
  exact ⟨reported, found⟩

/-- A scan runs exactly with every 1024th packet that was parsed since the meter was made. Of each key it
takes the flow away if that was last seen a timeout ago or more, and reports it once; what it does not
take away stays as it is. With a timeout above zero a flow last seen at the time of the scan or later
stays, and so does the flow of the packet that brought the scan. Neither a flush nor a frame that is not
parsed has a report of idle flows. -/
theorem scans_take_idle_flows (config : MeterConfig) (supply : Nat → Uuid) (calls : List MeterCall)
    (captured : Captured) :
    let meter := (empty config supply).after calls
    let settled := meter.settledBy (.process captured)
    let leaving := leaves config (scanAfter? calls (.process captured))
    let next := meter.process captured
    (∀ key, next.1.table.find? key = (settled.find? key).filter fun flow => !leaving flow) ∧
      (∀ key, idleReports key next.2 =
        ((settled.find? key).filter leaving).toList.map fun flow => ⟨.idle, flow⟩) ∧
      (0 < config.idleTimeout →
        (∀ key flow, settled.find? key = some flow → captured.time ≤ flow.lastSeen →
          next.1.table.find? key = some flow) ∧
        ∀ packet flow, Packet.parse? captured.bytes = some packet →
          settled.find? packet.key = some flow → next.1.table.find? packet.key = some flow) ∧
      ∀ key, idleReports key meter.flush.2 = [] := by
  intro meter settled leaving next
  have fresh : (empty config supply).table = [] := rfl
  have distinct : meter.table.keys.Nodup := (explained_fresh _ fresh calls).1
  have outcome (key : FlowKey) :
      next.1.table.find? key = (settled.find? key).filter (fun flow => !leaving flow) ∧
        idleReports key next.2 =
          ((settled.find? key).filter leaving).toList.map fun flow => ⟨.idle, flow⟩ := by
    cases parsed : Packet.parse? captured.bytes with
    | none =>
      have unseen : (MeterCall.process captured).sighting? = none := by
        simp [MeterCall.sighting?, parsed]
      have calm : leaving = fun _ => false := by
        simp only [leaving, scanAfter?, unseen, Option.bind_none, leaves_none]
      have same : settled = meter.table := by simp [settled, settledBy, unseen]
      rw [calm, same, show next = (meter, []) from process_unparsed meter captured parsed]
      cases meter.table.find? key <;> exact ⟨rfl, rfl⟩
    | some packet =>
      have found := process_found distinct (named_after fresh calls) parsed key
      rw [(after_settings _ calls).1, ← scanAfter?_eq config supply calls parsed] at found
      exact found
  have recent (positive : 0 < config.idleTimeout) (key : FlowKey) (flow : Flow)
      (found : settled.find? key = some flow) (late : captured.time ≤ flow.lastSeen) :
      next.1.table.find? key = some flow := by
    have stays : leaving flow = false := by
      cases scan : scanAfter? calls (.process captured) with
      | none => simp only [leaving, scan, leaves_none]
      | some now =>
        obtain rfl := time_of_scan scan
        simp [leaving, scan, leaves, Nat.sub_eq_zero_of_le late, Nat.ne_of_gt positive]
    rw [(outcome key).1, found]
    simp [stays]
  refine ⟨fun key => (outcome key).1, fun key => (outcome key).2,
    fun positive => ⟨recent positive, ?_⟩, ?_⟩
  next =>
    intro packet flow parsed found
    exact recent positive packet.key flow found (lastSeen_settled distinct parsed found)
  next =>
    intro key
    apply idleReports_other
    intro report member
    obtain ⟨entry, -, rfl⟩ := List.mem_map.mp member
    simp

def datagramFrame (host : UInt8) : List UInt8 :=
  List.replicate 12 0 ++ [0x08, 0x00,
    0x45, 0, 0, 28, 0, 0, 0, 0, 64, 17, 0, 0, 10, 0, 1, host, 10, 0, 1, 9, 0, 1, 0, 80, 0, 8, 0, 0]

def early : Captured :=
  .of 0 0 (datagramFrame 1)

def late : Captured :=
  .of (60 * Nanos.perSecond) 0 (datagramFrame 3)

def chatter : Packet where
  source := ⟨.v4 ⟨[10, 0, 1, 1], rfl⟩, 1⟩
  destination := ⟨.v4 ⟨[10, 0, 1, 9], rfl⟩, 80⟩
  proto := 17
  version := .v4
  hops := 64
  tcp := none

theorem early_parsed : Packet.parse? early.bytes = some chatter := by decide

def chat : Sighting :=
  ⟨chatter, early.length, 0⟩

theorem early_seen : (MeterCall.process early).sighting? = some chat := by
  rw [MeterCall.sighting?, early_parsed]
  rfl

-- The meter has seen the early datagram some times.
def waiting (times : Nat) : Meter :=
  (empty {} (Uuid.supply 0)).after (List.replicate times (.process early))

theorem sinceScan_waiting {times : Nat} (few : times < scanInterval) :
    (waiting times).sinceScan = times := by
  rw [waiting, sinceScan_after, MeterCall.sightings, List.filterMap_replicate_of_some early_seen,
    List.length_replicate, Nat.mod_eq_of_lt few]

theorem waiting_flow {times : Nat} (few : times < scanInterval) :
    ((waiting times).flowOf chatter 0).lastSeen = 0 ∧
      ((waiting times).flowOf chatter 0).clientClosed = false ∧
        (0 < times → (waiting times).table.find? chatter.key ≠ none) := by
  induction times with
  | zero => exact ⟨rfl, rfl, fun some => absurd some (Nat.lt_irrefl 0)⟩
  | succ times ih =>
    obtain ⟨seen, closed, -⟩ := ih (Nat.lt_of_succ_lt few)
    have still : ((waiting times).counted chat).clientClosed = false := by
      change (((waiting times).flowOf chatter 0).clientClosed || _ && false) = false
      simp [closed]
    have lasts : ((waiting times).counted chat).finishedBy chatter = false := by
      rw [Flow.finishedBy, still]
      rfl
    have fresh : (empty {} (Uuid.supply 0)).table = [] := rfl
    have calm : (waiting times).sinceScan + 1 < scanInterval := by
      rwa [sinceScan_waiting (Nat.lt_of_succ_lt few)]
    obtain ⟨reported, found⟩ := found_between_scans (explained_fresh _ fresh _).1
      (named_after fresh (List.replicate times (.process early))) early_parsed calm lasts
    have next : (waiting (times + 1)).table.find? chatter.key =
        some (((waiting times).counted chat).reportedAt reported) := by
      rw [waiting, List.replicate_succ', after_concat]
      exact found
    rw [flowOf, next]
    refine ⟨?_, still, fun _ => Option.some_ne_none _⟩
    change max ((waiting times).flowOf chatter 0).lastSeen 0 = 0
    rw [seen]
    rfl

def caller : Packet :=
  { chatter with source := ⟨.v4 ⟨[10, 0, 1, 3], rfl⟩, 1⟩ }

theorem waiting_others (times : Nat) : (waiting times).table.find? caller.key = none := by
  rw [← Option.not_isSome_iff_eq_none, Option.isSome_iff_exists]
  rintro ⟨flow, found⟩
  obtain ⟨earlier, since, split, -, first, later, -, seen, -⟩ :=
    (explained_fresh (empty {} (Uuid.supply 0)) rfl _).2 _ _ found
  have member : first ∈ MeterCall.sightingsOf caller.key since := by
    rw [seen]
    exact List.mem_cons_self
  obtain ⟨inside, own⟩ := List.mem_filter.mp member
  have all : first ∈ MeterCall.sightings (List.replicate times (.process early)) := by
    rw [split, MeterCall.sightings_append]
    exact List.mem_append_right _ inside
  rw [MeterCall.sightings, List.filterMap_replicate_of_some early_seen] at all
  rw [List.eq_of_mem_replicate all] at own
  exact absurd own (by decide)

theorem silence_ends_flow :
    0 < MeterConfig.idleTimeout {} ∧ Packet.parse? late.bytes = some caller ∧
      (∃ flow, idleReports chatter.key ((waiting 1023).process late).2 = [⟨.idle, flow⟩]) ∧
      ((waiting 1023).process late).1.table.find? chatter.key = none ∧
      ((waiting 1023).process late).1.table.find? caller.key ≠ none := by
  have positive : 0 < MeterConfig.idleTimeout {} := by decide
  have parsed : Packet.parse? late.bytes = some caller := by decide
  have seen : (MeterCall.process late).sighting? = some ⟨caller, late.length, late.time⟩ := by
    rw [MeterCall.sighting?, parsed]
    rfl
  -- Only that it is one less than the interval matters of the number.
  obtain ⟨times, full⟩ : ∃ times, times = 1023 := ⟨_, rfl⟩
  have few : times < scanInterval := by rw [full]; decide
  rw [← full]
  obtain ⟨kept, told, stays⟩ := scans_take_idle_flows {} (Uuid.supply 0)
    (List.replicate times (.process early)) late
  rw [← waiting] at kept told stays
  have distinct : (waiting times).table.keys.Nodup := (explained_fresh _ rfl _).1
  have scan : scanAfter? (List.replicate times (.process early)) (.process late) =
      some late.time := by
    rw [scanAfter?_eq {} (Uuid.supply 0) _ parsed]
    exact if_pos (by rw [← waiting, sinceScan_waiting few, full]; decide)
  obtain ⟨quiet, -, there⟩ := waiting_flow few
  obtain ⟨flow, found⟩ := Option.ne_none_iff_exists'.mp (there (by omega))
  rw [flowOf, found] at quiet
  have settled : ((waiting times).settledBy (.process late)).find? chatter.key = some flow := by
    rw [settledBy, seen]
    exact (count_others _ distinct _ (by decide)).trans found
  have leaving : leaves {} (some late.time) flow = true := by
    rw [leaves, Option.any_some, quiet]
    decide
  have lasts : ((waiting times).counted ⟨caller, late.length, late.time⟩).finishedBy caller =
      false := by
    rw [counted, flowOf, waiting_others]
    rfl
  obtain ⟨reported, own⟩ := count_found _ _ lasts
  have stayed := (stays.1 positive).2 caller _ parsed (by rw [settledBy, seen]; exact own)
  rw [scan] at kept told
  refine ⟨positive, parsed, ⟨flow, ?_⟩, ?_, by rw [stayed]; exact Option.some_ne_none _⟩
  next =>
    rw [told, settled, Option.filter_some_pos leaving]
    rfl
  next =>
    rw [kept, settled]
    exact Option.filter_some_neg (by simp [leaving])

end FlowProbe.Meter
