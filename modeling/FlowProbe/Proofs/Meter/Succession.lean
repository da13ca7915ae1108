import FlowProbe.Proofs.Meter.Conservation

set_option autoImplicit false

namespace FlowProbe

structure Flow.Grows (flow later : Flow) : Prop where
  id : later.id = flow.id
  client : later.client = flow.client
  server : later.server = flow.server
  firstSeen : later.firstSeen = flow.firstSeen
  lastSeen : flow.lastSeen ≤ later.lastSeen
  clientPackets : flow.clientPackets ≤ later.clientPackets
  serverPackets : flow.serverPackets ≤ later.serverPackets
  clientBytes : flow.clientBytes ≤ later.clientBytes
  serverBytes : flow.serverBytes ≤ later.serverBytes

namespace Flow

theorem grows_refl (flow : Flow) : flow.Grows flow :=
  ⟨rfl, rfl, rfl, rfl, Nat.le_refl _, Nat.le_refl _, Nat.le_refl _, Nat.le_refl _, Nat.le_refl _⟩

theorem grows_trans {flow later last : Flow} (first : flow.Grows later) (second : later.Grows last) :
    flow.Grows last where
  id := second.id.trans first.id
  client := second.client.trans first.client
  server := second.server.trans first.server
  firstSeen := second.firstSeen.trans first.firstSeen
  lastSeen := Nat.le_trans first.lastSeen second.lastSeen
  clientPackets := Nat.le_trans first.clientPackets second.clientPackets
  serverPackets := Nat.le_trans first.serverPackets second.serverPackets
  clientBytes := Nat.le_trans first.clientBytes second.clientBytes
  serverBytes := Nat.le_trans first.serverBytes second.serverBytes

theorem grows_update (flow : Flow) (packet : Packet) (length : Nat) (time reported : Nanos) :
    flow.Grows ((flow.update packet length time).reportedAt reported) :=
  ⟨rfl, rfl, rfl, rfl, Nat.le_max_left _ _, Nat.le_add_right _ _, Nat.le_add_right _ _,
    Nat.le_add_right _ _, Nat.le_add_right _ _⟩

end Flow

theorem FlowTable.found_insert {table : FlowTable} {key other : FlowKey} {flow found : Flow}
    (here : (table.insert key flow).find? other = some found) :
    key = other ∧ found = flow ∨ key ≠ other ∧ table.find? other = some found := by
  rw [find?_insert] at here
  split at here
  next same => exact .inl ⟨same, (Option.some.inj here).symm⟩
  next different => exact .inr ⟨different, here⟩

namespace Meter

/-- Every flow in the table and every report told has an identifier that was drawn. No two flows in
the table have the same one, and what has been told of a flow never says more than what comes after
it, be it told or still in the table. -/
structure Told (supply : Nat → Uuid) (drawn : Nat) (told : List Report) (table : FlowTable) :
    Prop where
  keys : table.keys.Nodup
  apart : ∀ key other flow flow', table.find? key = some flow → table.find? other = some flow' →
    flow.id = flow'.id → key = other
  held : ∀ key flow, table.find? key = some flow → ∃ serial < drawn, flow.id = supply serial
  named : ∀ report ∈ told, ∃ serial < drawn, report.flow.id = supply serial
  rising : told.Pairwise fun earlier later =>
    earlier.flow.id = later.flow.id → earlier.flow.Grows later.flow
  standing : ∀ report ∈ told, ∀ key flow, table.find? key = some flow →
    report.flow.id = flow.id → report.flow.Grows flow

variable {supply : Nat → Uuid} {drawn : Nat} {told : List Report} {table : FlowTable}

theorem told_empty (supply : Nat → Uuid) : Told supply 0 [] [] where
  keys := .nil
  apart := fun _ _ _ _ here => nomatch here
  held := fun _ _ here => nomatch here
  named := fun _ member => nomatch member
  rising := .nil
  standing := fun _ member => nomatch member

theorem told_release (kept : Told supply drawn told table) {left : FlowTable}
    (distinct : left.keys.Nodup)
    (fewer : ∀ key flow, left.find? key = some flow → table.find? key = some flow)
    {reports : List Report} (found : ∀ report ∈ reports, ∃ key, table.find? key = some report.flow)
    (single : reports.Pairwise fun one other => one.flow.id ≠ other.flow.id) :
    Told supply drawn (told ++ reports) left where
  keys := distinct
  apart := fun key other flow flow' here there =>
    kept.apart key other flow flow' (fewer key flow here) (fewer other flow' there)
  held := fun key flow here => kept.held key flow (fewer key flow here)
  named := by
    refine List.forall_mem_append.mpr ⟨kept.named, fun report member => ?_⟩
    obtain ⟨key, here⟩ := found report member
    exact kept.held key report.flow here
  rising := by
    refine List.pairwise_append.mpr ⟨kept.rising, single.imp fun other same => absurd same other, ?_⟩
    intro earlier old later new
    obtain ⟨key, here⟩ := found later new
    exact kept.standing earlier old key later.flow here
  standing := by
    refine List.forall_mem_append.mpr ⟨fun report member key flow here =>
      kept.standing report member key flow (fewer key flow here), ?_⟩
    intro report member key flow here same
    obtain ⟨other, there⟩ := found report member
    have still := fewer key flow here
    -- A flow with this identifier is the one that was told of.
    cases kept.apart other key report.flow flow there still same
    cases there.symm.trans still
    exact Flow.grows_refl _

-- The flow that takes the place of its key is a new one or the one before with more packets.
theorem told_insert (kept : Told supply drawn told table) {key : FlowKey} {flow : Flow} {more : Nat}
    (enough : drawn ≤ more) (held : ∃ serial < more, flow.id = supply serial)
    (own : ∀ other flow', key ≠ other → table.find? other = some flow' → flow'.id ≠ flow.id)
    (grown : ∀ report ∈ told, report.flow.id = flow.id → report.flow.Grows flow) :
    Told supply more told (table.insert key flow) where
  keys := FlowTable.nodup_insert table kept.keys key flow
  apart := by
    intro one other first second here there same
    rcases FlowTable.found_insert here with ⟨mine, rfl⟩ | ⟨mine, was⟩ <;>
      rcases FlowTable.found_insert there with ⟨its, rfl⟩ | ⟨its, were⟩
    next => exact mine.symm.trans its
    next => exact absurd same.symm (own other second its were)
    next => exact absurd same (own one first mine was)
    next => exact kept.apart one other first second was were same
  held := by
    intro other first here
    rcases FlowTable.found_insert here with ⟨-, rfl⟩ | ⟨-, here⟩
    next => exact held
    next =>
      obtain ⟨serial, less, same⟩ := kept.held other first here
      exact ⟨serial, Nat.lt_of_lt_of_le less enough, same⟩
  named := by
    intro report member
    obtain ⟨serial, less, same⟩ := kept.named report member
    exact ⟨serial, Nat.lt_of_lt_of_le less enough, same⟩
  rising := kept.rising
  standing := by
    intro report member other first here same
    rcases FlowTable.found_insert here with ⟨-, rfl⟩ | ⟨-, here⟩
    next => exact grown report member same
    next => exact kept.standing report member other first here same

variable {meter : Meter}

theorem told_counted (kept : Told meter.supply meter.drawn told meter.table)
    (sighting : Sighting) (reported : Nanos)
    (fresh : meter.drawn < meter.drawnAfter sighting.packet →
      ∀ serial < meter.drawn, meter.supply serial ≠ meter.supply meter.drawn) :
    Told meter.supply (meter.drawnAfter sighting.packet) told
      (meter.table.insert sighting.packet.key ((meter.counted sighting).reportedAt reported)) := by
  rw [drawnAfter] at fresh ⊢
  rw [counted, flowOf]
  cases there : meter.table.find? sighting.packet.key with
  | some old =>
    have grows := old.grows_update sighting.packet sighting.length sighting.time reported
    refine told_insert kept (Nat.le_refl _) (grows.id ▸ kept.held _ old there) ?_ ?_
    next =>
      intro other flow' different here same
      exact different (kept.apart _ other old flow' there here (same.trans grows.id).symm)
    next =>
      intro report member same
      exact Flow.grows_trans (kept.standing report member _ old there (same.trans grows.id)) grows
  | none =>
    rw [there] at fresh
    replace fresh := fresh (Nat.lt_succ_self _)
    refine told_insert kept (Nat.le_succ _) ⟨meter.drawn, Nat.lt_succ_self _, rfl⟩ ?_ ?_
    next =>
      intro other flow' _ here same
      obtain ⟨serial, less, drawn'⟩ := kept.held other flow' here
      exact fresh serial less (drawn'.symm.trans same)
    next =>
      intro report member same
      obtain ⟨serial, less, drawn'⟩ := kept.named report member
      exact absurd (drawn'.symm.trans same) (fresh serial less)

theorem told_count (kept : Told meter.supply meter.drawn told meter.table)
    (sighting : Sighting) (fresh : meter.drawn < meter.drawnAfter sighting.packet →
      ∀ serial < meter.drawn, meter.supply serial ≠ meter.supply meter.drawn) :
    let next := meter.count sighting.packet sighting.length sighting.time
    Told meter.supply (meter.drawnAfter sighting.packet) (told ++ next.2) next.1.table := by
  intro next
  have counted (reported : Nanos) := told_counted kept sighting reported fresh
  obtain ⟨-, table, reports⟩ | ⟨-, -, table, reports⟩ | ⟨-, -, table, reports⟩ :=
    count_cases meter sighting
  all_goals simp only [next, table, reports]
  next =>
    refine told_release (counted (meter.counted sighting).lastReport) ?_ ?_ ?_
      (List.pairwise_singleton _ _)
    next => exact table ▸ count_keys meter kept.keys sighting
    next =>
      intro key flow here
      rw [FlowTable.find?_erase _ kept.keys] at here
      rw [FlowTable.find?_insert]
      split at here
      next => exact nomatch here
      next other => rwa [if_neg other]
    next =>
      intro report member
      rw [List.mem_singleton.mp member]
      exact ⟨sighting.packet.key, by rw [FlowTable.find?_insert, if_pos rfl]; rfl⟩
  next =>
    have kept := counted sighting.time
    refine told_release kept kept.keys (fun _ _ here => here) ?_ (List.pairwise_singleton _ _)
    intro report member
    rw [List.mem_singleton.mp member]
    exact ⟨sighting.packet.key, by rw [FlowTable.find?_insert, if_pos rfl]⟩
  next =>
    rw [List.append_nil]
    exact counted (meter.counted sighting).lastReport

theorem told_chosen (kept : Told supply drawn told table) (leaves : FlowKey × Flow → Bool)
    (occasion : Occasion) :
    Told supply drawn
      (told ++ (table.filter leaves).map fun entry => ⟨occasion, entry.2⟩)
      (table.filter fun entry => !leaves entry) := by
  refine told_release kept (FlowTable.nodup_filter table kept.keys _) ?_ ?_ ?_
  next =>
    intro key flow here
    rw [FlowTable.find?_filter table kept.keys] at here
    exact (Option.filter_eq_some_iff.mp here).1
  next =>
    intro report member
    obtain ⟨entry, chosen, rfl⟩ := List.mem_map.mp member
    exact ⟨entry.1, (FlowTable.find?_eq_some_iff table kept.keys entry.1 entry.2).mpr
      (List.mem_filter.mp chosen).1⟩
  next =>
    have entries : table.Pairwise fun one other => one.2.id ≠ other.2.id := by
      refine (List.pairwise_map.mp kept.keys).imp_of_mem ?_
      intro one other here there different same
      have lookup (entry : FlowKey × Flow) (member : entry ∈ table) :=
        (FlowTable.find?_eq_some_iff table kept.keys entry.1 entry.2).mpr member
      exact different (kept.apart one.1 other.1 one.2 other.2 (lookup one here)
        (lookup other there) same)
    exact List.pairwise_map.mpr (entries.sublist List.filter_sublist)

theorem told_tick (kept : Told supply drawn told meter.table) (now : Nanos) :
    Told supply drawn (told ++ (meter.tick now).2) (meter.tick now).1.table := by
  rw [tick]
  split
  next => exact told_chosen kept (fun entry => meter.isIdle now entry.2) .idle
  next => simpa using kept

theorem drawn_count (meter : Meter) (packet : Packet) (length : Nat) (time : Nanos) :
    (meter.count packet length time).1.drawn = meter.drawnAfter packet := by
  rw [count]
  dsimp only
  split
  next => rfl
  next => split <;> rfl

theorem drawn_tick (meter : Meter) (now : Nanos) : (meter.tick now).1.drawn = meter.drawn := by
  rw [tick]
  split <;> rfl

theorem told_call (kept : Told meter.supply meter.drawn told meter.table)
    (call : MeterCall) (fresh : meter.drawn < (meter.call call).1.drawn →
      ∀ serial < meter.drawn, meter.supply serial ≠ meter.supply meter.drawn) :
    Told meter.supply (meter.call call).1.drawn (told ++ (meter.call call).2)
      (meter.call call).1.table := by
  cases call with
  | flush =>
    have all := told_chosen kept (fun _ => true) .flushed
    have none_stays : meter.table.filter (fun _ => !true) = [] := by simp
    rwa [none_stays, List.filter_eq_self.mpr fun _ _ => rfl] at all
  | process captured =>
    cases parsed : Packet.parse? captured.bytes with
    | none => simpa [Meter.call, process_unparsed meter captured parsed] using kept
    | some packet =>
      simp only [Meter.call, process_parsed meter captured packet parsed, drawn_tick,
        drawn_count] at fresh ⊢
      rw [← List.append_assoc]
      exact told_tick (told_count kept ⟨packet, captured.length, captured.time⟩ fresh) _

theorem drawn_le_call (meter : Meter) (call : MeterCall) :
    meter.drawn ≤ (meter.call call).1.drawn := by
  cases call with
  | flush => exact Nat.le_refl _
  | process captured =>
    cases parsed : Packet.parse? captured.bytes with
    | none => simp [Meter.call, process_unparsed meter captured parsed]
    | some packet =>
      simp only [Meter.call, process_parsed meter captured packet parsed, drawn_tick, drawn_count,
        drawnAfter]
      split <;> omega

theorem drawn_le_after (meter : Meter) (calls : List MeterCall) :
    meter.drawn ≤ (meter.after calls).drawn := by
  induction calls generalizing meter with
  | nil => exact Nat.le_refl _
  | cons call rest ih => exact Nat.le_trans (drawn_le_call meter call) (ih _)

theorem told_run {limit : Nat} (calls : List MeterCall)
    (kept : Told meter.supply meter.drawn told meter.table)
    (within : (meter.after calls).drawn ≤ limit)
    (distinct : ∀ one < limit, ∀ other < limit, meter.supply one = meter.supply other →
      one = other) :
    Told meter.supply (meter.after calls).drawn (told ++ meter.reports calls)
      (meter.after calls).table := by
  induction calls generalizing meter told with
  | nil => simpa [reports, after] using kept
  | cons call rest ih =>
    have later := drawn_le_after (meter.call call).1 rest
    have next := told_call kept call fun more serial less same => by
      have inside : meter.drawn < limit :=
        Nat.lt_of_lt_of_le more (Nat.le_trans later within)
      have equal := distinct serial (Nat.lt_trans less inside) meter.drawn inside same
      omega
    have supply := (call_settings meter call).2
    rw [reports, ← List.append_assoc]
    have run := ih (supply ▸ next) within (supply ▸ distinct)
    rwa [supply] at run

theorem reports_succeed (config : MeterConfig) (supply : Nat → Uuid) (calls : List MeterCall)
    (distinct : ∀ one < ((empty config supply).after calls).drawn,
      ∀ other < ((empty config supply).after calls).drawn, supply one = supply other → one = other) :
    (∀ report ∈ (empty config supply).reports calls,
      ∃ serial < ((empty config supply).after calls).drawn, report.flow.id = supply serial) ∧
    ((empty config supply).reports calls).Pairwise fun earlier later =>
      earlier.flow.id = later.flow.id → earlier.flow.Grows later.flow := by
  have start : Told (empty config supply).supply (empty config supply).drawn []
      (empty config supply).table := told_empty supply
  have run := told_run calls start (Nat.le_refl _) distinct
  exact ⟨run.named, run.rising⟩

end Meter

end FlowProbe
