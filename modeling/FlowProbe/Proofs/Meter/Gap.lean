import FlowProbe.Proofs.Meter.Stretch

set_option autoImplicit false

namespace FlowProbe

namespace Lifetime

theorem lastSeen_le {life : Lifetime} {moment : Nanos}
    (past : ∀ sighting ∈ life.sightings, sighting.time ≤ moment) : life.lastSeen ≤ moment := by
  have bounded (times : List Nanos) (latest : Nanos) (start : latest ≤ moment)
      (all : ∀ time ∈ times, time ≤ moment) : times.foldl max latest ≤ moment := by
    induction times generalizing latest with
    | nil => exact start
    | cons time rest ih =>
      exact ih _ (Nat.max_le.mpr ⟨start, all time List.mem_cons_self⟩) fun other member =>
        all other (List.mem_cons_of_mem _ member)
  exact bounded _ 0 (Nat.zero_le _) (List.forall_mem_map.mpr past)

end Lifetime

theorem Captured.wait_le_iff {now seen span : Nat} (positive : 0 < span) :
    span ≤ now - seen ↔ seen + span ≤ now := by
  omega

namespace Meter

-- The moments of the scans that come in the course of further calls.
def scans (done : List MeterCall) : List MeterCall → List Nanos
  | [] => []
  | call :: rest => (scanAfter? done call).toList ++ scans (done ++ [call]) rest

def leavesAny (config : MeterConfig) (moments : List Nanos) (flow : Flow) : Bool :=
  moments.any fun now => leaves config (some now) flow

theorem leavesAny_append (config : MeterConfig) (scan? : Option Nanos) (moments : List Nanos) :
    leavesAny config (scan?.toList ++ moments) = fun flow =>
      leaves config scan? flow || leavesAny config moments flow := by
  funext flow
  cases scan? <;> simp [leavesAny, leaves]

theorem filter_or {α : Type} (item? : Option α) (first second : α → Bool) :
    ((item?.filter fun item => !first item).filter fun item => !second item) =
        (item?.filter fun item => !(first item || second item)) ∧
      (item?.filter first).toList ++ ((item?.filter fun item => !first item).filter second).toList =
        (item?.filter fun item => first item || second item).toList := by
  cases item? with
  | none => exact ⟨rfl, rfl⟩
  | some item =>
    cases taken : first item <;> cases left : second item <;> simp [Option.filter, taken, left]

theorem leavesAny_iff {config : MeterConfig} (positive : 0 < config.idleTimeout)
    {moments : List Nanos} {flow : Flow} :
    leavesAny config moments flow = true ↔
      ∃ now ∈ moments, flow.lastSeen + config.idleTimeout ≤ now := by
  simp only [leavesAny, leaves, List.any_eq_true, Option.any_some, decide_eq_true_eq,
    Captured.wait_le_iff positive]

section Run

variable (config : MeterConfig) (supply : Nat → Uuid)

theorem process_unseen (calls : List MeterCall) {key : FlowKey} {captured : Captured}
    (unseen : MeterCall.sightingsOf key [.process captured] = []) :
    let meter := (empty config supply).after calls
    let leaving := leaves config (scanAfter? calls (.process captured))
    (meter.process captured).1.table.find? key =
        (meter.table.find? key).filter (fun flow => !leaving flow) ∧
      Report.about key (meter.process captured).2 =
        ((meter.table.find? key).filter leaving).toList.map fun flow => ⟨.idle, flow⟩ := by
  intro meter leaving
  have fresh : (empty config supply).table = [] := rfl
  have distinct : meter.table.keys.Nodup := (explained_fresh _ fresh calls).1
  have named := named_after fresh calls
  cases parsed : Packet.parse? captured.bytes with
  | none =>
    have calm : leaving = fun _ => false := by
      simp only [leaving, scanAfter?, MeterCall.sighting?, parsed, Option.map_none, Option.bind_none,
        leaves_none]
    rw [process_unparsed meter captured parsed, calm]
    cases meter.table.find? key <;> exact ⟨rfl, rfl⟩
  | some packet =>
    let sighting : Sighting := ⟨packet, captured.length, captured.time⟩
    have other : packet.key ≠ key := fun same => by
      rw [MeterCall.sightingsOf_parsed key parsed, if_pos same] at unseen
      cases unseen
    have scan := about_tick (count_keys meter distinct sighting) (named_count named sighting distinct)
      captured.time key
    rw [(count_settings meter _ _ _).1, count_sinceScan, (after_settings _ calls).1,
      ← scanAfter?_eq config supply calls parsed, count_others meter distinct sighting other] at scan
    rw [process_parsed meter captured packet parsed, Report.about_append,
      about_count named key sighting, if_neg other]
    exact scan

theorem gap_unseen (calls : List MeterCall) {key : FlowKey} {gap : List Captured}
    (unseen : MeterCall.sightingsOf key (gap.map .process) = []) :
    let meter := (empty config supply).after calls
    let leaving := leavesAny config (scans calls (gap.map .process))
    (meter.after (gap.map .process)).table.find? key =
        (meter.table.find? key).filter (fun flow => !leaving flow) ∧
      Report.about key (meter.reports (gap.map .process)) =
        ((meter.table.find? key).filter leaving).toList.map fun flow => ⟨.idle, flow⟩ := by
  intro meter leaving
  induction gap generalizing calls with
  | nil =>
    change meter.table.find? key = _ ∧ [] = _
    cases meter.table.find? key <;> exact ⟨rfl, rfl⟩
  | cons captured rest ih =>
    rw [List.map_cons, MeterCall.sightingsOf_cons, List.append_eq_nil_iff] at unseen
    have step := process_unseen config supply calls unseen.1
    have later := ih (calls ++ [.process captured]) unseen.2
    rw [after_concat, Meter.call] at later
    have next : meter.after ((captured :: rest).map .process) =
        (meter.process captured).1.after (rest.map .process) := rfl
    have both : leaving = fun flow => leaves config (scanAfter? calls (.process captured)) flow ||
        leavesAny config (scans (calls ++ [.process captured]) (rest.map .process)) flow :=
      leavesAny_append config _ _
    obtain ⟨left, taken⟩ := filter_or (meter.table.find? key)
      (leaves config (scanAfter? calls (.process captured)))
      (leavesAny config (scans (calls ++ [.process captured]) (rest.map .process)))
    rw [next, later.1, List.map_cons, reports, Report.about_append, Meter.call, later.2, step.1, step.2,
      both, ← List.map_append, ← taken]
    exact ⟨left, rfl⟩

end Run

theorem process_own {meter : Meter} (distinct : meter.table.keys.Nodup)
    (named : ∀ key flow, meter.table.find? key = some flow → flow.key = key)
    (positive : 0 < meter.config.idleTimeout) {captured : Captured} {packet : Packet}
    (parsed : Packet.parse? captured.bytes = some packet) :
    let flow := meter.counted ⟨packet, captured.length, captured.time⟩
    let next := meter.process captured
    (flow.finishedBy packet = true ∧ next.1.table.find? packet.key = none ∧
        Report.about packet.key next.2 = [⟨.finished, flow⟩]) ∨
      (flow.finishedBy packet = false ∧
        (∃ reported, next.1.table.find? packet.key = some (flow.reportedAt reported)) ∧
        (Report.about packet.key next.2).filter Report.isTerminal = []) := by
  intro flow next
  let sighting : Sighting := ⟨packet, captured.length, captured.time⟩
  obtain ⟨found, told⟩ := tick_awake (count_keys meter distinct sighting)
    (named_count named sighting distinct) captured.time packet.key (by
      intro _ flow found
      refine isIdle_recent ?_ (lastSeen_settled distinct parsed ?_)
      next => exact (count_settings meter _ _ _).1 ▸ positive
      next => simpa only [settledBy, MeterCall.sighting?, parsed, Option.map_some] using found)
  have whole : Report.about packet.key next.2 =
      (meter.count packet captured.length captured.time).2 := by
    rw [show next = _ from process_parsed meter captured packet parsed, Report.about_append, told,
      List.append_nil]
    exact (about_count named packet.key sighting).trans (if_pos rfl)
  have left : next.1.table.find? packet.key =
      (meter.count packet captured.length captured.time).1.table.find? packet.key := by
    rw [show next = _ from process_parsed meter captured packet parsed]
    exact found
  rw [whole, left]
  obtain ⟨ends, table, reports⟩ | ⟨lasts, -, table, reports⟩ | ⟨lasts, -, table, reports⟩ :=
    count_cases meter sighting
  next =>
    refine .inl ⟨ends, ?_, reports⟩
    rw [table, FlowTable.find?_erase _ distinct, if_pos rfl]
  next =>
    refine .inr ⟨lasts, ⟨captured.time, ?_⟩, by rw [reports]; rfl⟩
    rw [table, FlowTable.find?_insert, if_pos rfl]
  next =>
    refine .inr ⟨lasts, ⟨flow.lastReport, ?_⟩, by rw [reports]; rfl⟩
    rw [table, FlowTable.find?_insert, if_pos rfl]
    rfl

theorem lastSeen_counted_of_ordered {meter : Meter} (fresh : meter.table = []) {done : List MeterCall}
    {sighting : Sighting} (ordered : ∀ past ∈ MeterCall.sightings done, past.time ≤ sighting.time) :
    ((meter.after done).counted sighting).lastSeen = sighting.time := by
  change max ((meter.after done).flowOf sighting.packet sighting.time).lastSeen sighting.time = _
  apply Nat.max_eq_right
  unfold flowOf
  split
  next flow found =>
    obtain ⟨earlier, since, rfl, -, first, later, reported, seen, rfl⟩ :=
      (explained_fresh meter fresh done).2 _ _ found
    refine Lifetime.lastSeen_le fun past member => ordered past ?_
    rw [MeterCall.sightings_append]
    have own : past ∈ MeterCall.sightingsOf sighting.packet.key since := by
      rw [seen]
      exact member
    exact List.mem_append_right _ (List.mem_filter.mp own).1
  next => exact Nat.le_refl _

theorem id_counted_drawn {meter : Meter} (fresh : meter.table = []) (done : List MeterCall)
    {captured : Captured} {packet : Packet} (parsed : Packet.parse? captured.bytes = some packet) :
    ∃ serial < (meter.after (done ++ [.process captured])).drawn,
      ((meter.after done).counted ⟨packet, captured.length, captured.time⟩).id =
        meter.supply serial := by
  have shown : (meter.after done).Shows (.process captured) packet.key
      ((meter.after done).counted ⟨packet, captured.length, captured.time⟩) := by
    simp only [Shows, MeterCall.sighting?, parsed, Option.map_some, if_true]
    exact ⟨_, rfl⟩
  obtain ⟨earlier, opening, first, since, split, -, stay⟩ := exists_stay fresh shown
  have opened : earlier ++ [opening] <+: done ++ [.process captured] := by
    rw [split]
    exact opening_within List.prefix_rfl
  exact ⟨_, stay.drawn_lt opened, stay.id⟩

theorem gap_outcome (config : MeterConfig) (supply : Nat → Uuid) (positive : 0 < config.idleTimeout)
    {done : List MeterCall} {gap : List Captured} {one : Captured} {packet : Packet}
    (parsed : Packet.parse? one.bytes = some packet)
    (apart : MeterCall.sightingsOf packet.key (gap.map .process) = [])
    (ordered : ∀ past ∈ MeterCall.sightings done, past.time ≤ one.time) :
    let meter := (empty config supply).after done
    let calls := MeterCall.process one :: gap.map .process
    let flow := meter.counted ⟨packet, one.length, one.time⟩
    let ended := (Report.about packet.key (meter.reports calls)).filter Report.isTerminal
    let parted := flow.finishedBy packet = true ∨
      ∃ now ∈ scans (done ++ [.process one]) (gap.map .process), one.time + config.idleTimeout ≤ now
    (parted → (meter.after calls).table.find? packet.key = none ∧
        ∃ report reported, ended = [report] ∧ report.flow = flow.reportedAt reported) ∧
      (¬parted → ended = [] ∧
        ∃ reported, (meter.after calls).table.find? packet.key = some (flow.reportedAt reported)) := by
  intro meter calls flow ended parted
  have fresh : (empty config supply).table = [] := rfl
  have settings : meter.config = config := (after_settings _ done).1
  have distinct : meter.table.keys.Nodup := (explained_fresh _ fresh done).1
  have silence := gap_unseen config supply (done ++ [.process one]) apart
  rw [after_concat, Meter.call] at silence
  have whole : ended = (Report.about packet.key (meter.process one).2).filter Report.isTerminal ++
      (Report.about packet.key ((meter.process one).1.reports (gap.map .process))).filter
        Report.isTerminal := by
    rw [← List.filter_append, ← Report.about_append]
    rfl
  have last : (meter.after calls) = (meter.process one).1.after (gap.map .process) := rfl
  rw [whole, last, silence.1, silence.2]
  obtain ⟨ends, gone, told⟩ | ⟨lasts, ⟨reported, found⟩, told⟩ :=
    process_own distinct (named_after fresh done) (settings ▸ positive) parsed
  next =>
    refine ⟨fun _ => ?_, fun lasts => absurd (.inl ends) lasts⟩
    rw [gone, told]
    exact ⟨rfl, _, flow.lastReport, rfl, rfl⟩
  next =>
    have old : leavesAny config (scans (done ++ [.process one]) (gap.map .process))
        (flow.reportedAt reported) = true ↔ parted := by
      have seen : (flow.reportedAt reported).lastSeen = one.time :=
        lastSeen_counted_of_ordered fresh ordered
      rw [leavesAny_iff positive, seen]
      refine ⟨.inr, fun part => part.resolve_left ?_⟩
      rw [Bool.not_eq_true]
      exact lasts
    rw [found, told]
    cases leaving : leavesAny config (scans (done ++ [.process one]) (gap.map .process))
      (flow.reportedAt reported) with
    | true =>
      refine ⟨fun _ => ?_, fun stays => absurd (old.mp leaving) stays⟩
      rw [Option.filter_some_pos leaving, Option.filter_some_neg ?_]
      next => exact ⟨rfl, _, reported, rfl, rfl⟩
      next => exact congrArg Bool.not leaving
    | false =>
      refine ⟨fun part => Bool.noConfusion ((old.mpr part).symm.trans leaving), fun _ => ?_⟩
      rw [Option.filter_some_neg leaving, Option.filter_some_pos ?_]
      next => exact ⟨rfl, reported, rfl⟩
      next => exact congrArg Bool.not leaving

theorem counted_of_absent {meter : Meter} (sighting : Sighting)
    (absent : meter.table.find? sighting.packet.key = none) :
    meter.counted sighting =
      Lifetime.flow ⟨meter.supply meter.drawn, sighting, []⟩ sighting.time := by
  rw [counted, flowOf, absent]
  exact Lifetime.flow_start _ sighting

/-- Two packets of a key with none of the key between them, the first of which does not come late. They
belong to different flows exactly if the first one has ended its flow or a scan has come in between, at
the earliest an idle timeout after it. The first flow is then reported as ended, once and without the
second packet, and the second packet is the first of a flow with another identifier. Otherwise no end is
reported, and the second packet is counted in the same flow however late it comes. -/
theorem flow_split_exactly_by_scan (config : MeterConfig) (supply : Nat → Uuid)
    (positive : 0 < config.idleTimeout) (done : List MeterCall) (gap : List Captured)
    {one other : Captured} {packet packet' : Packet}
    (parsed : Packet.parse? one.bytes = some packet) (parsed' : Packet.parse? other.bytes = some packet')
    (same : packet'.key = packet.key)
    (apart : MeterCall.sightingsOf packet.key (gap.map .process) = [])
    (ordered : ∀ past ∈ MeterCall.sightings done, past.time ≤ one.time) :
    let meter := (empty config supply).after done
    let calls := MeterCall.process one :: gap.map .process
    let next := meter.after calls
    let flow := meter.counted ⟨packet, one.length, one.time⟩
    let ended := (Report.about packet.key (meter.reports calls)).filter Report.isTerminal
    let parted := flow.finishedBy packet = true ∨
      ∃ now ∈ scans (done ++ [.process one]) (gap.map .process), one.time + config.idleTimeout ≤ now
    (parted →
        (∃ report reported, ended = [report] ∧ report.flow = flow.reportedAt reported) ∧
        (∃ serial < next.drawn, flow.id = supply serial) ∧
        ∀ flow', next.Shows (.process other) packet.key flow' ↔ ∃ reported, flow' =
          Lifetime.flow ⟨supply next.drawn, ⟨packet', other.length, other.time⟩, []⟩ reported) ∧
      (¬parted → ended = [] ∧
        ∀ flow', next.Shows (.process other) packet.key flow' ↔ ∃ reported,
          flow' = (flow.update packet' other.length other.time).reportedAt reported) := by
  intro meter calls next flow ended parted
  have fresh : (empty config supply).table = [] := rfl
  have outcome := gap_outcome config supply positive parsed apart ordered
  have shown (flow' : Flow) : next.Shows (.process other) packet.key flow' ↔ ∃ reported,
      flow' = (next.counted ⟨packet', other.length, other.time⟩).reportedAt reported := by
    simp only [Shows, MeterCall.sighting?, parsed', Option.map_some, same, if_true]
  constructor
  next =>
    intro part
    obtain ⟨gone, told⟩ := outcome.1 part
    obtain ⟨serial, less, id⟩ := id_counted_drawn fresh done parsed
    have drawn : serial < next.drawn := by
      rw [after_concat] at less
      exact Nat.lt_of_lt_of_le less (drawn_le_after _ (gap.map .process))
    refine ⟨told, ⟨serial, drawn, id⟩, fun flow' => ?_⟩
    have supplied : next.supply = supply :=
      ((after_settings meter calls).2).trans (after_settings (empty config supply) done).2
    have absent : next.table.find? packet'.key = none := by
      rw [same]
      exact gone
    rw [shown, counted_of_absent ⟨packet', other.length, other.time⟩ absent, supplied]
    rfl
  next =>
    intro whole
    obtain ⟨none, reported, found⟩ := outcome.2 whole
    refine ⟨none, fun flow' => ?_⟩
    rw [shown, counted, flowOf, same]
    rw [show next.table.find? packet.key = _ from found]
    rfl

def again : Captured :=
  .of (60 * Nanos.perSecond) 0 (datagramFrame 1)

theorem silence_split_by_scan :
    let meter := waiting 1022
    let calls := [MeterCall.process early, .process late]
    (∃ report reported, (Report.about chatter.key (meter.reports calls)).filter Report.isTerminal =
        [report] ∧ report.flow = (meter.counted chat).reportedAt reported) ∧
      ∀ flow', (meter.after calls).Shows (.process again) chatter.key flow' → flow'.packets = 1 := by
  have parsed : Packet.parse? late.bytes = some caller := by decide
  obtain ⟨times, full⟩ : ∃ times, times = 1022 := ⟨_, rfl⟩
  have few : times + 1 < scanInterval := by rw [full]; decide
  rw [← full]
  have scan : scanAfter? (List.replicate times (.process early) ++ [.process early]) (.process late) =
      some late.time := by
    rw [← List.replicate_succ', scanAfter?_eq {} (Uuid.supply 0) _ parsed]
    exact if_pos (by rw [← waiting, sinceScan_waiting few, full]; decide)
  have ordered : ∀ past ∈ MeterCall.sightings (List.replicate times (.process early)),
      past.time ≤ early.time := by
    intro past member
    rw [MeterCall.sightings, List.filterMap_replicate_of_some early_seen] at member
    exact Nat.le_of_eq (congrArg Sighting.time (List.eq_of_mem_replicate member))
  obtain ⟨split, -⟩ := flow_split_exactly_by_scan {} (Uuid.supply 0) (by decide)
    (List.replicate times (.process early)) [late] early_parsed
    (by decide : Packet.parse? again.bytes = some chatter) rfl (by decide) ordered
  obtain ⟨told, -, shown⟩ := split (.inr ⟨late.time, by simp [scans, scan], by decide⟩)
  refine ⟨told, fun flow' shows' => ?_⟩
  obtain ⟨reported, rfl⟩ := (shown flow').mp shows'
  rfl

/-- Without other packets no scan comes, and a record bridges the minute between two datagrams, twice the
idle timeout. -/
theorem silence_bridged :
    MeterConfig.idleTimeout {} ≤ again.time - early.time ∧
      Packet.parse? early.bytes = some chatter ∧ Packet.parse? again.bytes = some chatter ∧
      ∃ report, (empty {} (Uuid.supply 0)).reports (sitting [early, again]) = [report] ∧
        report.flow.packets = 2 := by
  refine ⟨by decide, early_parsed, by decide, ?_⟩
  have packets : ((empty {} (Uuid.supply 0)).reports (sitting [early, again])).map
      (fun report => report.flow.packets) = [2] := by decide
  obtain ⟨report, single, counted⟩ := List.map_eq_singleton_iff.mp packets
  exact ⟨report, single, counted⟩

end Meter

end FlowProbe
