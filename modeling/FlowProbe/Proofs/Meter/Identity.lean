import FlowProbe.Proofs.Meter.Stay
import Mathlib.Data.List.Nodup

set_option autoImplicit false

namespace FlowProbe.Meter

variable {meter : Meter} {calls : List MeterCall}

/-- A round of reports, and the table that it leaves. No key is reported twice, and a key whose flow is
reported to leave is not in the table any more. -/
structure Parted (reports : List Report) (left : FlowTable) : Prop where
  once : (reports.map fun report => report.flow.key).Nodup
  gone : ∀ report ∈ reports, report.isTerminal = true → left.find? report.flow.key = none

theorem parted_nil (left : FlowTable) : Parted [] left :=
  ⟨List.nodup_nil, List.forall_mem_nil _⟩

section Rounds

variable {table : FlowTable} (distinct : table.keys.Nodup)
  (named : ∀ key flow, table.find? key = some flow → flow.key = key)
include distinct named

theorem chosen_found (leaves : FlowKey × Flow → Bool) (occasion : Occasion) :
    ∀ report ∈ (table.filter leaves).map fun entry => (⟨occasion, entry.2⟩ : Report),
      table.find? report.flow.key = some report.flow ∧
        leaves (report.flow.key, report.flow) = true := by
  intro report member
  obtain ⟨⟨key, flow⟩, chosen, rfl⟩ := List.mem_map.mp member
  obtain ⟨here, leaving⟩ := List.mem_filter.mp chosen
  have found := (FlowTable.find?_eq_some_iff table distinct key flow).mpr here
  obtain rfl := named key flow found
  exact ⟨found, leaving⟩

theorem parted_chosen (leaves : FlowKey × Flow → Bool) (occasion : Occasion) :
    Parted ((table.filter leaves).map fun entry => ⟨occasion, entry.2⟩)
      (table.filter fun entry => !leaves entry) where
  once := by
    have keys : ((table.filter leaves).map fun entry => entry.2.key) =
        FlowTable.keys (table.filter leaves) := by
      apply List.map_congr_left
      intro entry member
      exact named entry.1 entry.2 ((FlowTable.find?_eq_some_iff table distinct entry.1 entry.2).mpr
        (List.mem_filter.mp member).1)
    rw [List.map_map]
    exact keys ▸ FlowTable.nodup_filter table distinct leaves
  gone := by
    intro report member _
    obtain ⟨found, leaving⟩ := chosen_found distinct named leaves occasion report member
    rw [FlowTable.find?_filter table distinct, found]
    simp [leaving]

end Rounds

theorem isIdle_recent (positive : 0 < meter.config.idleTimeout) {now : Nanos} {flow : Flow}
    (recent : now ≤ flow.lastSeen) : meter.isIdle now flow = false := by
  rw [isIdle, decide_eq_false_iff_not, Nat.sub_eq_zero_of_le recent]
  exact Nat.not_le.mpr positive

section Calls

variable (distinct : meter.table.keys.Nodup)
  (named : ∀ key flow, meter.table.find? key = some flow → flow.key = key)
include distinct named

theorem parted_tick (now : Nanos) :
    Parted (meter.tick now).2 (meter.tick now).1.table ∧
      ∀ report ∈ (meter.tick now).2, meter.table.find? report.flow.key = some report.flow ∧
        meter.isIdle now report.flow = true := by
  unfold tick
  split
  next =>
    exact ⟨parted_chosen distinct named (fun entry => meter.isIdle now entry.2) .idle,
      chosen_found distinct named (fun entry => meter.isIdle now entry.2) .idle⟩
  next => exact ⟨parted_nil _, List.forall_mem_nil _⟩

theorem count_reports (sighting : Sighting) :
    let next := meter.count sighting.packet sighting.length sighting.time
    (next.2.map fun report => report.flow.key).Nodup ∧
      ∀ report ∈ next.2, next.1.table.find? report.flow.key = none ∨
        report.isTerminal = false ∧ next.1.table.find? report.flow.key = some report.flow ∧
          sighting.time ≤ report.flow.lastSeen := by
  intro next
  have own := key_counted named sighting
  obtain ⟨-, table, reports⟩ | ⟨-, -, table, reports⟩ | ⟨-, -, table, reports⟩ :=
    count_cases meter sighting
  all_goals simp only [next, table, reports]
  next =>
    refine ⟨List.nodup_singleton _, fun report member => .inl ?_⟩
    rw [List.mem_singleton.mp member, own, FlowTable.find?_erase _ distinct, if_pos rfl]
  next =>
    refine ⟨List.nodup_singleton _, fun report member => .inr ?_⟩
    rw [List.mem_singleton.mp member]
    refine ⟨rfl, ?_, Nat.le_max_right _ _⟩
    rw [FlowTable.find?_insert]
    exact if_pos own.symm
  next => exact ⟨List.nodup_nil, List.forall_mem_nil _⟩

variable (positive : 0 < meter.config.idleTimeout)
include positive

theorem parted_process {captured : Captured} {packet : Packet}
    (parsed : Packet.parse? captured.bytes = some packet) :
    Parted (meter.process captured).2 (meter.process captured).1.table := by
  let sighting : Sighting := ⟨packet, captured.length, captured.time⟩
  let middle := (meter.count packet captured.length captured.time).1
  have distinct' : middle.table.keys.Nodup := count_keys meter distinct sighting
  have positive' : 0 < middle.config.idleTimeout := by rwa [(count_settings meter _ _ _).1]
  obtain ⟨single, counted⟩ := count_reports distinct named sighting
  obtain ⟨scan, idle⟩ := parted_tick distinct' (named_count named sighting distinct) captured.time
  rw [process_parsed meter captured packet parsed]
  constructor
  next =>
    rw [List.map_append]
    refine List.nodup_append.mpr ⟨single, scan.once, ?_⟩
    intro key here other there same
    obtain ⟨report, member, rfl⟩ := List.mem_map.mp here
    obtain ⟨report', member', rfl⟩ := List.mem_map.mp there
    obtain ⟨found, waiting⟩ := idle report' member'
    -- The flow that the packet was counted in has left, or was seen too recently to be idle.
    rcases counted report member with gone | ⟨-, stays, recent⟩
    next =>
      rw [same, found] at gone
      cases gone
    next =>
      rw [same, found] at stays
      rw [Option.some.inj stays, isIdle_recent positive' recent] at waiting
      cases waiting
  next =>
    refine List.forall_mem_append.mpr ⟨fun report member terminal => ?_, scan.gone⟩
    rcases counted report member with gone | ⟨stays, -⟩
    next =>
      obtain ⟨keep, kept⟩ := tick_table middle captured.time
      rw [kept, FlowTable.find?_filter _ distinct']
      exact congrArg (Option.filter _) gone
    next =>
      rw [stays] at terminal
      cases terminal

theorem parted_call (call : MeterCall) : Parted (meter.call call).2 (meter.call call).1.table := by
  cases call with
  | flush =>
    have all := parted_chosen distinct named (fun _ => true) .flushed
    have none_stays : meter.table.filter (fun _ => !true) = [] := by simp
    rwa [none_stays, List.filter_eq_self.mpr fun _ _ => rfl] at all
  | process captured =>
    cases parsed : Packet.parse? captured.bytes with
    | none =>
      rw [Meter.call, process_unparsed meter captured parsed]
      exact parted_nil meter.table
    | some packet => exact parted_process distinct named positive parsed

end Calls

theorem mem_reports {report : Report} (member : report ∈ meter.reports calls) :
    ∃ done call, done ++ [call] <+: calls ∧ report ∈ ((meter.after done).call call).2 := by
  induction calls using List.reverseRecOn with
  | nil => cases member
  | append_singleton calls call ih =>
    rw [reports_append] at member
    rcases List.mem_append.mp member with earlier | now
    next =>
      obtain ⟨done, other, front, here⟩ := ih earlier
      exact ⟨done, other, front.trans (List.prefix_append _ _), here⟩
    next => exact ⟨calls, call, List.prefix_rfl, by simpa [reports] using now⟩

section Run

variable (fresh : meter.table = [])
include fresh

theorem named_after (calls : List MeterCall) (key : FlowKey) (flow : Flow)
    (found : (meter.after calls).table.find? key = some flow) : flow.key = key := by
  obtain ⟨earlier, since, -, -, first, later, reported, seen, rfl⟩ :=
    (explained_fresh meter fresh calls).2 key flow found
  have own : first ∈ MeterCall.sightingsOf key since := by
    rw [seen]
    exact List.mem_cons_self
  rw [Lifetime.key_flow]
  simpa using (List.mem_filter.mp own).2

theorem report_shown {done : List MeterCall} {call : MeterCall} {report : Report}
    (member : report ∈ ((meter.after done).call call).2) :
    (meter.after done).Shows call report.flow.key report.flow := by
  obtain ⟨-, -, reports⟩ := call_shows (meter.after done) (explained_fresh meter fresh done).1 call
  obtain ⟨key, shown⟩ := reports report member
  obtain ⟨earlier, opening, first, since, -, rfl, stay⟩ := exists_stay fresh shown
  obtain ⟨reported, equal⟩ := stay.tells
  have own : report.flow.key = first.packet.key := by
    rw [equal, Lifetime.key_flow]
  exact own ▸ shown

theorem parted_after (positive : 0 < meter.config.idleTimeout) (done : List MeterCall)
    (call : MeterCall) :
    Parted ((meter.after done).call call).2 (meter.after (done ++ [call])).table := by
  rw [after_concat]
  refine parted_call (explained_fresh meter fresh done).1 (named_after fresh done) ?_ call
  rwa [(after_settings meter done).1]

variable (positive : 0 < meter.config.idleTimeout)
  (distinct : ∀ one < (meter.after calls).drawn, ∀ other < (meter.after calls).drawn,
    meter.supply one = meter.supply other → one = other)
include positive distinct

theorem apart_in_call {done : List MeterCall} {call : MeterCall}
    (within : done ++ [call] <+: calls) :
    ((meter.after done).call call).2.Pairwise fun one other => one.flow.id ≠ other.flow.id := by
  refine (List.pairwise_map.mp (parted_after fresh positive done call).once).imp_of_mem ?_
  intro one other here there apart same
  exact apart (shown_continues fresh distinct List.prefix_rfl within (report_shown fresh here)
    (report_shown fresh there) same).2.1

theorem reports_continue {part : List MeterCall} (within : part <+: calls) :
    (meter.reports part).Pairwise fun earlier later => earlier.flow.id = later.flow.id →
      earlier.isTerminal = false ∧ earlier.flow.Continues later.flow := by
  induction part using List.reverseRecOn with
  | nil => exact .nil
  | append_singleton part call ih =>
    have last : (meter.after part).reports [call] = ((meter.after part).call call).2 :=
      List.append_nil _
    rw [reports_append, last]
    refine List.pairwise_append.mpr ⟨ih ((List.prefix_append _ _).trans within), ?_, ?_⟩
    next =>
      exact (apart_in_call fresh positive distinct within).imp fun apart same =>
        absurd same apart
    next =>
      intro earlier old later new same
      obtain ⟨done, other, front, member⟩ := mem_reports old
      obtain ⟨continues, -, present⟩ := shown_continues fresh distinct
        (front.trans (List.prefix_append _ _)) within (report_shown fresh member)
        (report_shown fresh new) same
      refine ⟨?_, continues⟩
      rw [← Bool.not_eq_true]
      intro terminal
      exact present _ List.prefix_rfl front
        ((parted_after fresh positive done other).gone earlier member terminal)

omit positive in
-- The flow was opened when its key had gone, and so after all that was told until then.
theorem renamed_after {done more : List MeterCall} {call : MeterCall} {sighting : Sighting}
    {last : MeterCall} (gone : (meter.after (done ++ [call])).table.find? sighting.packet.key = none)
    (within : done ++ [call] ++ more ++ [last] <+: calls) (seen : last.sighting? = some sighting)
    {report : Report} (told : report ∈ meter.reports (done ++ [call])) :
    report.flow.id ≠ ((meter.after (done ++ [call] ++ more)).counted sighting).id := by
  have shown : (meter.after (done ++ [call] ++ more)).Shows last sighting.packet.key
      ((meter.after (done ++ [call] ++ more)).counted sighting) := by
    simp only [Shows, seen, if_true]
    exact ⟨_, rfl⟩
  obtain ⟨earlier, opening, first, since, split, key, stay⟩ := exists_stay fresh shown
  obtain ⟨done', call', front, member⟩ := mem_reports told
  obtain ⟨earlier', opening', first', since', split', -, stay'⟩ :=
    exists_stay fresh (report_shown fresh member)
  rw [← key] at gone
  have past : done ++ [call] <+: earlier := by
    refine stay.opened_behind ?_ ?_ gone
    next =>
      rw [← split, List.append_assoc]
      exact List.prefix_append _ _
    next =>
      rw [← split]
      simp
  have opened := opening_within (split' ▸ front : earlier' ++ opening' :: since' <+: done ++ [call])
  have before := stay'.drawn_lt (opened.trans past)
  have here := stay.drawn_lt (opening_within (split ▸ within))
  intro same
  rw [stay.id, stay'.id] at same
  exact absurd (distinct _ (before.trans here) _ here same) (Nat.ne_of_lt before)

end Run

/-- If no identifier is drawn twice, each belongs to one key and one pair of roles, and no call reports
it twice. Of its reports only the last can be that of a removal, and each takes up where the one before
it left off, with counters that fit into their words. The next packet of the key then goes to a flow
with an identifier that has not been told. -/
theorem identifier_ends_with_flow (config : MeterConfig) (supply : Nat → Uuid)
    (calls : List MeterCall) (positive : 0 < config.idleTimeout)
    (distinct : ∀ one < ((empty config supply).after calls).drawn,
      ∀ other < ((empty config supply).after calls).drawn, supply one = supply other → one = other) :
    let meter := empty config supply
    (∀ (done done' : List MeterCall) call call' key key' flow flow',
      done ++ [call] <+: calls → done' ++ [call'] <+: calls →
      (meter.after done).Shows call key flow → (meter.after done').Shows call' key' flow' →
      flow.id = flow'.id → key = key' ∧ flow.client = flow'.client ∧ flow.server = flow'.server) ∧
    (∀ (done : List MeterCall) call, done ++ [call] <+: calls →
      (((meter.after done).call call).2.map fun report => report.flow.id).Nodup) ∧
    ((meter.reports calls).Pairwise fun earlier later => earlier.flow.id = later.flow.id →
      earlier.isTerminal = false ∧ earlier.flow.Continues later.flow) ∧
    (MeterCall.Countable calls → ∀ report ∈ meter.reports calls, report.flow.Fits) ∧
    ∀ (done : List MeterCall) call, ∀ report ∈ ((meter.after done).call call).2,
      report.isTerminal = true →
      (meter.after (done ++ [call])).table.find? report.flow.key = none ∧
      ∀ (more : List MeterCall) (captured : Captured) packet,
        done ++ [call] ++ more ++ [MeterCall.process captured] <+: calls →
        Packet.parse? captured.bytes = some packet → packet.key = report.flow.key →
        ∀ told ∈ meter.reports (done ++ [call]), told.flow.id ≠
          ((meter.after (done ++ [call] ++ more)).counted
            ⟨packet, captured.length, captured.time⟩).id := by
  intro meter
  have fresh : meter.table = [] := rfl
  refine ⟨?_, ?_, reports_continue fresh positive distinct List.prefix_rfl, told_fits, ?_⟩
  next =>
    intro done done' call call' key key' flow flow' within within' shown shown' same
    rcases List.prefix_or_prefix_of_prefix within within' with order | order
    next =>
      obtain ⟨continues, key, -⟩ :=
        shown_continues fresh distinct order within' shown shown' same
      exact ⟨key, continues.client.symm, continues.server.symm⟩
    next =>
      obtain ⟨continues, key, -⟩ :=
        shown_continues fresh distinct order within shown' shown same.symm
      exact ⟨key.symm, continues.client, continues.server⟩
  next =>
    intro done call within
    exact List.pairwise_map.mpr (apart_in_call fresh positive distinct within)
  next =>
    intro done call report member terminal
    have gone := (parted_after fresh positive done call).gone report member terminal
    refine ⟨gone, fun more captured packet within parsed own told here => ?_⟩
    have seen : (MeterCall.process captured).sighting? =
        some ⟨packet, captured.length, captured.time⟩ := by
      rw [MeterCall.sighting?, parsed, Option.map_some]
    exact renamed_after fresh distinct (own ▸ gone) within seen here

def hurried : MeterConfig where
  activeTimeout := 2

-- A report falls due, a reset follows, and then the connection is opened again.
def reconnecting : List MeterCall := [
  .process (.of 1 0 (segmentFrame 0x02)),
  .process (.of 4 0 (segmentFrame 0x10)),
  .process (.of 5 0 (segmentFrame 0x04)),
  .process (.of 6 0 (segmentFrame 0x02)),
  .flush]

theorem reconnecting_renamed :
    ∃ due reset flushed, (empty hurried (Uuid.supply 0)).reports reconnecting =
        [due, reset, flushed] ∧
      due.flow.id = reset.flow.id ∧ due.flow.Continues reset.flow ∧
      reset.flow.key = flushed.flow.key ∧ reset.flow.id ≠ flushed.flow.id := by
  obtain ⟨due, reset, flushed, reports, same, terminal, key⟩ : ∃ due reset flushed,
      (empty hurried (Uuid.supply 0)).reports reconnecting = [due, reset, flushed] ∧
        due.flow.id = reset.flow.id ∧ reset.isTerminal = true ∧
        reset.flow.key = flushed.flow.key :=
    ⟨_, _, _, rfl, by decide, by decide, by decide⟩
  have distinct : ∀ one < ((empty hurried (Uuid.supply 0)).after reconnecting).drawn,
      ∀ other < ((empty hurried (Uuid.supply 0)).after reconnecting).drawn,
        Uuid.supply 0 one = Uuid.supply 0 other → one = other := by decide
  obtain ⟨-, -, rising, -⟩ :=
    identifier_ends_with_flow hurried (Uuid.supply 0) reconnecting (by decide) distinct
  rw [reports] at rising
  have taken := (List.pairwise_cons.mp rising).1 reset (by simp) same
  have ended := (List.pairwise_cons.mp (List.pairwise_cons.mp rising).2).1 flushed (by simp)
  refine ⟨due, reset, flushed, reports, same, taken.2, key, fun again => ?_⟩
  rw [(ended again).1] at terminal
  cases terminal

end FlowProbe.Meter
