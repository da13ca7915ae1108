import FlowProbe.Proofs.Meter.Scan

set_option autoImplicit false

namespace FlowProbe

-- The moments at which a flow was reported, from that of its first packet on.
structure Flow.Paced (active : Nat) (moments : List Nanos) (flow : Flow) : Prop where
  last : moments.getLast? = some flow.lastReport
  apart : moments.Pairwise fun earlier later => earlier + active ≤ later
  past : ∀ moment ∈ moments, flow.firstSeen ≤ moment ∧ moment ≤ flow.lastReport
  recent : flow.lastReport ≤ flow.lastSeen

namespace Flow

variable {active : Nat} {moments : List Nanos} {flow : Flow}

theorem paced_start (active : Nat) (id : Uuid) (packet : Packet) (time : Nanos) :
    (start id packet time).Paced active [time] where
  last := rfl
  apart := List.pairwise_singleton _ _
  past := by
    intro moment member
    rw [List.mem_singleton.mp member]
    exact ⟨Nat.le_refl _, Nat.le_refl _⟩
  recent := Nat.le_refl _

theorem paced_update (paced : flow.Paced active moments) (packet : Packet) (length : Nat)
    (time : Nanos) : (flow.update packet length time).Paced active moments :=
  { paced with recent := Nat.le_trans paced.recent (Nat.le_max_left _ _) }

theorem reach_of_due {active now last : Nat} (positive : 0 < active) (due : active ≤ now - last) :
    last + active ≤ now := by
  omega

theorem paced_report (positive : 0 < active) (paced : flow.Paced active moments) {now : Nanos}
    (due : active ≤ now - flow.lastReport) (seen : now ≤ flow.lastSeen) :
    (flow.reportedAt now).Paced active (moments ++ [now]) where
  last := List.getLast?_concat
  apart := by
    have reach := reach_of_due positive due
    refine List.pairwise_append.mpr ⟨paced.apart, List.pairwise_singleton _ _, ?_⟩
    intro earlier before later member
    rw [List.mem_singleton.mp member]
    exact Nat.le_trans (Nat.add_le_add_right (paced.past earlier before).2 active) reach
  past := by
    have reach := Nat.le_trans (Nat.le_add_right _ active) (reach_of_due positive due)
    have own := paced.past flow.lastReport (List.mem_of_getLast? paced.last)
    refine List.forall_mem_append.mpr ⟨?_, ?_⟩
    next =>
      intro moment before
      obtain ⟨first, last⟩ := paced.past moment before
      exact ⟨first, Nat.le_trans last reach⟩
    next =>
      intro moment member
      rw [List.mem_singleton.mp member]
      exact ⟨Nat.le_trans own.1 reach, Nat.le_refl _⟩
  recent := seen

end Flow

namespace Meter

def periodicReports (reports : List Report) : List Report :=
  reports.filter fun report => report.occasion = .periodic

/-- The moment of a call at which a report of the key is due, if it makes one. -/
def dueAt? (meter : Meter) (key : FlowKey) (call : MeterCall) : Option Nanos :=
  if (periodicReports (meter.call call).2).any fun report => report.flow.key = key then
    call.sighting?.map Sighting.time
  else
    none

def dueMoments (meter : Meter) (key : FlowKey) : List MeterCall → List Nanos
  | [] => []
  | call :: rest => (meter.dueAt? key call).toList ++ dueMoments (meter.call call).1 key rest

theorem dueMoments_concat (meter : Meter) (key : FlowKey) (calls : List MeterCall)
    (call : MeterCall) :
    meter.dueMoments key (calls ++ [call]) =
      meter.dueMoments key calls ++ ((meter.after calls).dueAt? key call).toList := by
  induction calls generalizing meter with
  | nil => simp [dueMoments, after]
  | cons first rest ih =>
    rw [List.cons_append, dueMoments, ih, dueMoments, List.append_assoc]
    rfl

def IsDue (meter : Meter) (sighting : Sighting) : Prop :=
  (meter.counted sighting).finishedBy sighting.packet = false ∧
    meter.config.activeTimeout ≤ sighting.time - (meter.counted sighting).lastReport

instance (meter : Meter) (sighting : Sighting) : Decidable (meter.IsDue sighting) :=
  inferInstanceAs (Decidable (_ ∧ _))

theorem periodicReports_process {meter : Meter} {captured : Captured} {packet : Packet}
    (parsed : Packet.parse? captured.bytes = some packet) :
    let sighting : Sighting := ⟨packet, captured.length, captured.time⟩
    periodicReports (meter.process captured).2 =
      if meter.IsDue sighting then
        [⟨.periodic, (meter.counted sighting).reportedAt captured.time⟩]
      else [] := by
  intro sighting
  have scan (meter : Meter) : periodicReports (meter.tick captured.time).2 = [] := by
    unfold tick
    split
    next =>
      apply List.filter_eq_nil_iff.mpr
      intro report member
      obtain ⟨entry, -, rfl⟩ := List.mem_map.mp member
      simp
    next => rfl
  rw [process_parsed meter captured packet parsed, periodicReports, List.filter_append]
  rw [← periodicReports, ← periodicReports, scan, List.append_nil]
  obtain ⟨ends, -, reports⟩ | ⟨lasts, due, -, reports⟩ | ⟨lasts, early, -, reports⟩ :=
    count_cases meter sighting
  next =>
    have undue : ¬meter.IsDue sighting := fun both => Bool.noConfusion (both.1.symm.trans ends)
    rw [reports, if_neg undue]
    rfl
  next =>
    rw [reports, if_pos ⟨lasts, due⟩]
    rfl
  next =>
    rw [reports, if_neg fun both : meter.IsDue sighting => early both.2]
    rfl

theorem dueAt?_unseen (meter : Meter) (key : FlowKey) {call : MeterCall}
    (unseen : call.sighting? = none) : meter.dueAt? key call = none := by
  simp [dueAt?, unseen]

theorem dueAt?_parsed {meter : Meter}
    (named : ∀ key flow, meter.table.find? key = some flow → flow.key = key) (key : FlowKey)
    {captured : Captured} {packet : Packet}
    (parsed : Packet.parse? captured.bytes = some packet) :
    meter.dueAt? key (.process captured) =
      if packet.key = key ∧ meter.IsDue ⟨packet, captured.length, captured.time⟩ then
        some captured.time
      else none := by
  have own := key_counted named ⟨packet, captured.length, captured.time⟩
  rw [dueAt?, Meter.call, periodicReports_process parsed]
  by_cases due : meter.IsDue ⟨packet, captured.length, captured.time⟩
  next =>
    have key' : ((meter.counted ⟨packet, captured.length, captured.time⟩).reportedAt
        captured.time).key = packet.key := own
    simp [due, key', MeterCall.sighting?, parsed]
  next => simp [due]

def renewed (meter : Meter) (sighting : Sighting) : Flow :=
  if meter.IsDue sighting then (meter.counted sighting).reportedAt sighting.time
  else meter.counted sighting

theorem found_renewed {meter : Meter} (distinct : meter.table.keys.Nodup) {captured : Captured}
    {packet : Packet} (parsed : Packet.parse? captured.bytes = some packet) {flow : Flow}
    (found : (meter.process captured).1.table.find? packet.key = some flow) :
    flow = meter.renewed ⟨packet, captured.length, captured.time⟩ := by
  let sighting : Sighting := ⟨packet, captured.length, captured.time⟩
  obtain ⟨keep, kept⟩ := tick_table (meter.count packet captured.length captured.time).1
    captured.time
  rw [process_parsed meter captured packet parsed, kept,
    FlowTable.find?_filter _ (count_keys meter distinct sighting)] at found
  replace found := (Option.filter_eq_some_iff.mp found).1
  rw [renewed]
  obtain ⟨-, table, -⟩ | ⟨lasts, due, table, -⟩ | ⟨lasts, early, table, -⟩ :=
    count_cases meter sighting
  next =>
    rw [table, FlowTable.find?_erase _ distinct, if_pos rfl] at found
    cases found
  next =>
    rw [table, FlowTable.find?_insert, if_pos rfl] at found
    rw [if_pos ⟨lasts, due⟩]
    exact (Option.some.inj found).symm
  next =>
    rw [table, FlowTable.find?_insert, if_pos rfl] at found
    rw [if_neg fun both : meter.IsDue sighting => early both.2]
    exact (Option.some.inj found).symm

theorem paced_renewed {meter : Meter} (positive : 0 < meter.config.activeTimeout)
    (sighting : Sighting) {moments : List Nanos}
    (paced : (meter.flowOf sighting.packet sighting.time).Paced meter.config.activeTimeout moments) :
    (meter.renewed sighting).Paced meter.config.activeTimeout
      (moments ++ if meter.IsDue sighting then [sighting.time] else []) := by
  have counted : (meter.counted sighting).Paced meter.config.activeTimeout moments :=
    Flow.paced_update paced sighting.packet sighting.length sighting.time
  rw [renewed]
  split
  next due => exact Flow.paced_report positive counted due.2 (Nat.le_max_right _ _)
  next => rwa [List.append_nil]

theorem found_cases {meter : Meter} (distinct : meter.table.keys.Nodup)
    (named : ∀ key flow, meter.table.find? key = some flow → flow.key = key) {call : MeterCall}
    {key : FlowKey} {flow : Flow} (found : (meter.call call).1.table.find? key = some flow) :
    (MeterCall.sightingsOf key [call] = [] ∧ meter.dueAt? key call = none ∧
        meter.table.find? key = some flow) ∨
      ∃ sighting, sighting.packet.key = key ∧ MeterCall.sightingsOf key [call] = [sighting] ∧
        (meter.dueAt? key call).toList = (if meter.IsDue sighting then [sighting.time] else []) ∧
        flow = meter.renewed sighting := by
  have shown := (call_shows meter distinct call).2.1 key flow found
  cases call with
  | flush =>
    have unseen : MeterCall.flush.sighting? = none := rfl
    refine .inl ⟨?_, dueAt?_unseen meter key unseen, shown⟩
    rw [MeterCall.sightingsOf, MeterCall.sightings_single, unseen]
    rfl
  | process captured =>
    cases parsed : Packet.parse? captured.bytes with
    | none =>
      have unseen : (MeterCall.process captured).sighting? = none := by
        rw [MeterCall.sighting?, parsed, Option.map_none]
      rw [Shows, unseen] at shown
      exact .inl ⟨MeterCall.sightingsOf_unparsed key parsed, dueAt?_unseen meter key unseen, shown⟩
    | some packet =>
      rw [Shows, MeterCall.sighting?, parsed, Option.map_some] at shown
      rw [MeterCall.sightingsOf_parsed key parsed, dueAt?_parsed named key parsed]
      by_cases own : packet.key = key
      next =>
        subst own
        refine .inr ⟨⟨packet, captured.length, captured.time⟩, rfl, if_pos rfl, ?_,
          found_renewed distinct parsed found⟩
        simp only [true_and]
        split <;> rfl
      next => exact .inl ⟨if_neg own, if_neg (not_and_of_not_left _ own), (if_neg own).mp shown⟩

theorem paced_flowOf {meter : Meter} (fresh : meter.table = [])
    (positive : 0 < meter.config.activeTimeout) {key : FlowKey} {earlier since : List MeterCall}
    (resides : meter.Resides key earlier since) (sighting : Sighting)
    (own : sighting.packet.key = key) :
    ∃ first later, MeterCall.sightingsOf key since ++ [sighting] = first :: later ∧
      ((meter.after (earlier ++ since)).flowOf sighting.packet sighting.time).Paced
        meter.config.activeTimeout
        (first.time :: (meter.after earlier).dueMoments key since) := by
  induction since using List.reverseRecOn generalizing sighting with
  | nil =>
    rw [List.append_nil, flowOf, own, resides.absent]
    exact ⟨sighting, [], rfl, Flow.paced_start _ _ _ _⟩
  | append_singleton since call ih =>
    let state := meter.after (earlier ++ since)
    have config : state.config = meter.config := (after_settings meter (earlier ++ since)).1
    have before : meter.Resides key earlier since :=
      ⟨resides.absent, fun part front => resides.present part (front.trans (List.prefix_append _ _))⟩
    obtain ⟨flow, found⟩ := Option.ne_none_iff_exists'.mp
      (resides.present (since ++ [call]) List.prefix_rfl (by simp))
    have next : (meter.after (earlier ++ (since ++ [call]))).flowOf sighting.packet sighting.time =
        flow := by
      rw [flowOf, own, found]
    rw [← List.append_assoc, after_concat] at found
    rw [next, MeterCall.sightingsOf_append, dueMoments_concat, ← after_append]
    rcases found_cases (explained_fresh meter fresh _).1 (named_after fresh _) found with
      ⟨unseen, idle, there⟩ | ⟨last, mine, seen, due, rfl⟩
    next =>
      obtain ⟨first, later, front, paced⟩ := ih before sighting own
      rw [flowOf, own, there] at paced
      rw [unseen, idle, List.append_nil, Option.toList_none, List.append_nil]
      exact ⟨first, later, front, paced⟩
    next =>
      obtain ⟨first, later, front, paced⟩ := ih before last mine
      rw [seen, front, due, ← config]
      exact ⟨first, later ++ [sighting], rfl,
        paced_renewed (config ▸ positive) last (config ▸ paced)⟩

theorem exists_residence {meter : Meter} (fresh : meter.table = []) (calls : List MeterCall)
    (key : FlowKey) : ∃ earlier since, calls = earlier ++ since ∧ meter.Resides key earlier since := by
  cases found : (meter.after calls).table.find? key with
  | none =>
    refine ⟨calls, [], (List.append_nil calls).symm, found, ?_⟩
    intro part front nonempty
    exact absurd (List.prefix_nil.mp front) nonempty
  | some flow =>
    obtain ⟨earlier, since, split, resides, -⟩ := (explained_fresh meter fresh calls).2 key flow found
    exact ⟨earlier, since, split, resides⟩

theorem isDue_iff {meter : Meter} (positive : 0 < meter.config.activeTimeout) (sighting : Sighting) :
    meter.IsDue sighting ↔ (meter.counted sighting).finishedBy sighting.packet = false ∧
      (meter.counted sighting).lastReport + meter.config.activeTimeout ≤ sighting.time :=
  and_congr_right fun _ => ⟨Flow.reach_of_due positive, Nat.le_sub_of_add_le'⟩

/-- A packet belongs to one lifetime of the flow of its key. It brings a report that is due exactly if it
does not end the flow and comes a timeout or more after the last report of that lifetime, for which its
first packet stands until there is one. So these moments, taken in order, lie a timeout apart and within
the time in which the flow was seen, and no packet older than the last report brings one. -/
theorem due_reports_paced (config : MeterConfig) (supply : Nat → Uuid)
    (positive : 0 < config.activeTimeout) (calls : List MeterCall) {captured : Captured}
    {packet : Packet} (parsed : Packet.parse? captured.bytes = some packet) :
    let meter := empty config supply
    let state := meter.after calls
    let flow := state.counted ⟨packet, captured.length, captured.time⟩
    ∃ earlier since first later,
      calls = earlier ++ since ∧ meter.Resides packet.key earlier since ∧
        MeterCall.sightingsOf packet.key (since ++ [.process captured]) = first :: later ∧
        let moments (calls : List MeterCall) :=
          first.time :: (meter.after earlier).dueMoments packet.key calls
        let last := (moments since).getLast (List.cons_ne_nil _ _)
        periodicReports (state.process captured).2 =
            (if flow.finishedBy packet = false ∧ last + config.activeTimeout ≤ captured.time then
              [⟨.periodic, flow.reportedAt captured.time⟩]
            else []) ∧
          ((moments (since ++ [.process captured])).Pairwise fun earlier later =>
            earlier + config.activeTimeout ≤ later) ∧
          (∀ moment ∈ moments (since ++ [.process captured]),
            flow.firstSeen ≤ moment ∧ moment ≤ flow.lastSeen) ∧
          (captured.time < last → periodicReports (state.process captured).2 = []) := by
  intro meter state flow
  let sighting : Sighting := ⟨packet, captured.length, captured.time⟩
  have fresh : meter.table = [] := rfl
  obtain ⟨earlier, since, rfl, resides⟩ := exists_residence fresh calls packet.key
  obtain ⟨first, later, front, paced⟩ := paced_flowOf rfl positive resides sighting rfl
  have settings : state.config = meter.config := (after_settings meter (earlier ++ since)).1
  have positive' : 0 < state.config.activeTimeout := settings ▸ positive
  have renewed := paced_renewed positive' sighting (settings ▸ paced)
  have due := isDue_iff positive' sighting
  rw [settings] at due renewed
  have last : (first.time :: (meter.after earlier).dueMoments packet.key since).getLast
      (List.cons_ne_nil _ _) = flow.lastReport :=
    List.getLast_eq_iff_getLast?_eq_some _ |>.mpr paced.last
  have told : (if state.IsDue sighting then [sighting.time] else []) =
      (state.dueAt? packet.key (.process captured)).toList := by
    rw [dueAt?_parsed (named_after rfl _) packet.key parsed]
    simp only [true_and]
    split <;> rfl
  have span : (state.renewed sighting).firstSeen = flow.firstSeen ∧
      (state.renewed sighting).lastSeen = flow.lastSeen := by
    rw [Meter.renewed]
    split <;> exact ⟨rfl, rfl⟩
  have periodic : periodicReports (state.process captured).2 =
      if flow.finishedBy packet = false ∧ flow.lastReport + config.activeTimeout ≤ captured.time then
        [⟨.periodic, flow.reportedAt captured.time⟩]
      else [] :=
    (periodicReports_process parsed).trans (if_congr due rfl rfl)
  refine ⟨earlier, since, first, later, rfl, resides, ?_, ?_⟩
  next => rw [MeterCall.sightingsOf_append, MeterCall.sightingsOf_parsed _ parsed, if_pos rfl, front]
  dsimp only
  rw [last, dueMoments_concat, ← after_append, ← told, ← List.cons_append]
  refine ⟨periodic, renewed.apart, ?_, ?_⟩
  next =>
    intro moment member
    obtain ⟨reach, reported⟩ := renewed.past moment member
    exact ⟨span.1 ▸ reach, span.2 ▸ Nat.le_trans reported renewed.recent⟩
  next =>
    intro older
    rw [periodic, if_neg fun both => ?_]
    exact Nat.not_le.mpr older (Nat.le_trans (Nat.le_add_right _ _) both.2)

-- A report falls due, then a segment comes that is older than it.
def belated : List MeterCall := [
  .process (.of 1 0 (segmentFrame 0x02)),
  .process (.of 4 0 (segmentFrame 0x10)),
  .process (.of 2 0 (segmentFrame 0x10))]

theorem belated_segment_paced :
    ∃ packet, Packet.parse? (Captured.of 6 0 (segmentFrame 0x10)).bytes = some packet ∧
      ∃ report, periodicReports (((empty hurried (Uuid.supply 0)).after belated).process
          (.of 6 0 (segmentFrame 0x10))).2 = [report] ∧
        ∃ earlier since, ∃ first : Sighting, belated = earlier ++ since ∧
          (empty hurried (Uuid.supply 0)).Resides packet.key earlier since ∧
          ((first.time :: ((empty hurried (Uuid.supply 0)).after earlier).dueMoments packet.key
            (since ++ [.process (.of 6 0 (segmentFrame 0x10))])).Pairwise fun earlier later =>
              earlier + 2 ≤ later) := by
  have readable : (Packet.parse? (Captured.of 6 0 (segmentFrame 0x10)).bytes).isSome := by decide
  have reports : (periodicReports (((empty hurried (Uuid.supply 0)).after belated).process
      (.of 6 0 (segmentFrame 0x10))).2).length = 1 := by decide
  obtain ⟨packet, parsed⟩ := Option.isSome_iff_exists.mp readable
  obtain ⟨earlier, since, first, later, split, resides, -, -, apart, -⟩ :=
    due_reports_paced hurried (Uuid.supply 0) (by decide) belated parsed
  obtain ⟨report, only⟩ := List.length_eq_one_iff.mp reports
  exact ⟨packet, parsed, report, only, earlier, since, first, split, resides, apart⟩

end Meter

end FlowProbe
