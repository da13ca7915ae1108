import FlowProbe.Meter.Setup
import FlowProbe.Proofs.Meter.Succession
import FlowProbe.Proofs.Probe.Journal
import FlowProbe.Proofs.WorkerPool.Metering

set_option autoImplicit false

namespace FlowProbe

variable {κ τ : Type}

theorem WorkerThread.written_prefix {start : Meter} {taken : List Captured} {written : List Record}
    {thread : WorkerThread Meter} (keeps : thread.Keeps start taken written) :
    written <+: start.emitted (Meter.sitting taken) := by
  have soFar : start.emitted (taken.map .process) <+: start.emitted (Meter.sitting taken) := by
    rw [Meter.sitting, Meter.emitted_concat]
    exact List.prefix_append _ _
  have within {records : List Record} {next : Continuation Meter}
      (heads : Heads start taken (written ++ records) next) :
      written <+: start.emitted (Meter.sitting taken) := by
    have front := List.prefix_append written records
    cases next with
    | resume meter => exact front.trans (heads.2 ▸ soFar)
    | leave => exact heads ▸ front
    | unwind => exact heads.elim
  rw [Keeps] at keeps
  split at keeps
  next => exact keeps.2 ▸ soFar
  next => exact within keeps
  next => exact within keeps
  next => exact keeps ▸ List.prefix_refl _
  next => exact keeps ▸ List.prefix_refl _

namespace Worklog

def Metered (sources : Nat → Meter) (log : Worklog) (pool : RunningPool κ Meter) : Prop :=
  ∀ (index : Nat) (thread : WorkerThread Meter), pool.threads[index]? = some thread →
    thread.Keeps (sources index) (log.takenBy index) (log.addedBy index)

variable {sources : Nat → Meter} {log : Worklog} {pool : RunningPool κ Meter}

theorem metered_note (metered : log.Metered sources pool) (capture : Capture κ) (index : Nat) :
    (note capture Meter.classifier pool log index).Metered sources
      (pool.step capture Meter.classifier index) := by
  cases here : pool.threads[index]? with
  | none =>
    intro slot thread there
    rw [RunningPool.step_absent capture Meter.classifier here] at there
    have keeps := metered slot thread there
    simpa [takenBy_note, addedBy_note, RunningPool.takes, RunningPool.adds, here] using keeps
  | some thread =>
    refine RunningPool.forall_step capture Meter.classifier here ?_ ?_
    next =>
      have stepped := WorkerThread.keeps_step (metered index thread here) capture pool.site
      rw [takenBy_note, addedBy_note, if_pos rfl, if_pos rfl]
      simpa [RunningPool.takes, RunningPool.adds, here] using stepped
    next =>
      intro slot other different there
      rw [takenBy_note, addedBy_note, if_neg (Ne.symm different), if_neg (Ne.symm different),
        List.append_nil, List.append_nil]
      exact metered slot other there

theorem metered_start {plan : WorkerPool.Plan κ Meter} {count : Nat} {workers : List (Worker Meter)}
    {site left : Site κ} (opened : WorkerPool.openAll plan count site = (.ok workers, left))
    (own : ∀ id meter, plan.classifierFor id = .ok meter → meter = sources id.index)
    (after : Site κ) : start.Metered sources (RunningPool.start workers after) := by
  intro index thread there
  obtain ⟨worker, found, rfl⟩ := Option.map_eq_some_iff.mp (List.getElem?_map ▸ there)
  have made := (WorkerPool.staffed_openAll opened index worker found).2
  exact own _ _ made ▸ WorkerThread.keeps_start worker

theorem reports_of_metered (config : MeterConfig) {supplies : Nat → Nat → Uuid}
    (metered : log.Metered (fun index => .empty config (supplies index)) pool)
    (added : ∀ entry ∈ log.added, entry.1 < pool.threads.length) :
    ∃ told : List (Nat × Report),
      log.added = told.map (fun entry =>
        (entry.1, (Meter.empty config (supplies entry.1)).record entry.2)) ∧
      ∀ index, (Fibers.part Prod.fst index told).map Prod.snd <+:
        (Meter.empty config (supplies index)).reports (Meter.sitting (log.takenBy index)) := by
  refine Fibers.exists_sources (Meter.empty config (supplies 0)).record _ log.added fun index => ?_
  by_cases inside : index < pool.threads.length
  next =>
    have keeps := metered index _ (List.getElem?_eq_getElem inside)
    have front := WorkerThread.written_prefix keeps
    rwa [Meter.emitted_eq] at front
  next =>
    have nothing : Fibers.part Prod.fst index log.added = [] := by
      refine List.filter_eq_nil_iff.mpr fun entry member => ?_
      have bound := added entry member
      simp only [decide_eq_true_eq]
      omega
    rw [nothing]
    exact List.nil_prefix

end Worklog

namespace Journal

def metering (capture : Capture κ) (transport : Transport τ) : Machinery κ Meter τ :=
  ⟨capture, Meter.classifier, transport⟩

-- Every worker has a meter, and every meter a supply of identifiers.
variable (config : MeterConfig) (supplies : Nat → Nat → Uuid)

/-- How many identifiers a worker has drawn if it has seen no frame that it has not taken. -/
def drawnBy (journal : Journal κ Meter τ) (index : Nat) : Nat :=
  ((Meter.empty config (supplies index)).after (Meter.sitting (journal.log.takenBy index))).drawn

/-- No identifier was drawn twice, by one meter or by two. -/
def Unrepeated (journal : Journal κ Meter τ) : Prop :=
  ∀ index other, ∀ serial < journal.drawnBy config supplies index,
    ∀ serial' < journal.drawnBy config supplies other,
      supplies index serial = supplies other serial' → index = other ∧ serial = serial'

/-- The records of the run come from the reports `told`, and the exporter is done with those in the
first `settled` places. -/
structure InOrder (journal : Journal κ Meter τ) (told : List (Nat × Report)) (settled : Nat) :
    Prop where
  added : journal.log.added = told.map fun entry =>
    (entry.1, (Meter.empty config (supplies entry.1)).record entry.2)
  emitted : ∀ index, (Fibers.part Prod.fst index told).map Prod.snd <+:
    (Meter.empty config (supplies index)).reports (Meter.sitting (journal.log.takenBy index))
  rising : told.Pairwise fun earlier later => earlier.2.flow.id = later.2.flow.id →
    earlier.1 = later.1 ∧ earlier.2.flow.Grows later.2.flow
  fits : ∀ index, MeterCall.Countable (Meter.sitting (journal.log.takenBy index)) →
    ∀ entry ∈ told, entry.1 = index → entry.2.flow.Fits
  offered : ∀ attempt ∈ journal.attempts, ∃ entry, told[attempt.place]? = some entry ∧
    attempt.record = (Meter.empty config (supplies entry.1)).record entry.2
  inTurn : ∀ before attempt after, journal.attempts = before ++ attempt :: after →
    ∀ place < attempt.place, ∃ earlier ∈ before, earlier.place = place
  neverLater : journal.attempts.Pairwise Attempt.Before
  fate : Settled settled journal.attempts journal.dropped
  behind : settled ≤ journal.probe.queue.dequeued ∧ journal.probe.queue.dequeued ≤ settled + 1
  accepted : journal.attempts.Pairwise fun earlier later =>
    earlier.reply = .accepted → later.reply = .accepted →
      ∀ former entry, told[earlier.place]? = some former → told[later.place]? = some entry →
        former.2.flow.id = entry.2.flow.id → former.2.flow.Grows entry.2.flow
  -- The last accepted record of a flow, compared to any other one that was not given up.
  newest : ∀ before attempt after entry, journal.attempts = before ++ attempt :: after →
    attempt.reply = .accepted → told[attempt.place]? = some entry →
      (∀ later ∈ after, later.reply = .accepted → ∀ next, told[later.place]? = some next →
        next.2.flow.id ≠ entry.2.flow.id) →
      ∀ place < settled, place ∉ journal.dropped → ∀ other, told[place]? = some other →
        other.2.flow.id = entry.2.flow.id → other.2.flow.Grows entry.2.flow

variable {config supplies} {journal : Journal κ Meter τ} {told : List (Nat × Report)}

-- Equal identifiers were drawn by the same worker, whose reports come in the order of its meter.
theorem rising_of_unrepeated (unrepeated : journal.Unrepeated config supplies)
    (emitted : ∀ index, (Fibers.part Prod.fst index told).map Prod.snd <+:
      (Meter.empty config (supplies index)).reports (Meter.sitting (journal.log.takenBy index))) :
    told.Pairwise fun earlier later => earlier.2.flow.id = later.2.flow.id →
      earlier.1 = later.1 ∧ earlier.2.flow.Grows later.2.flow := by
  have succeed (index : Nat) := Meter.reports_succeed config (supplies index)
    (Meter.sitting (journal.log.takenBy index)) fun one here other there same =>
      (unrepeated index index one here other there same).2
  have inPart {entry : Nat × Report} {index : Nat}
      (member : entry ∈ Fibers.part Prod.fst index told) : entry.1 = index := by
    simpa using (List.mem_filter.mp member).2
  have drawn {entry : Nat × Report} (member : entry ∈ told) :
      ∃ serial < journal.drawnBy config supplies entry.1,
        entry.2.flow.id = supplies entry.1 serial := by
    have own : entry ∈ Fibers.part Prod.fst entry.1 told := List.mem_filter.mpr ⟨member, by simp⟩
    have report := (emitted entry.1).subset (List.mem_map_of_mem own)
    exact (succeed entry.1).1 entry.2 report
  refine Fibers.pairwise_of_parts Prod.fst (fun index => ?_) ?_
  next =>
    have own := List.pairwise_map.mp ((succeed index).2.sublist (emitted index).sublist)
    refine own.imp_of_mem fun here there grows same => ⟨?_, grows same⟩
    rw [inPart here, inPart there]
  next =>
    intro one here other there different same
    obtain ⟨serial, less, first⟩ := drawn here
    obtain ⟨serial', less', second⟩ := drawn there
    have equal := first.symm.trans (same.trans second)
    exact absurd (unrepeated _ _ serial less serial' less' equal).1 different

theorem grows_of_places {told : List (Nat × Report)}
    (rising : told.Pairwise fun earlier later => earlier.2.flow.id = later.2.flow.id →
      earlier.1 = later.1 ∧ earlier.2.flow.Grows later.2.flow) {place later : Nat}
    (less : place < later) {former entry : Nat × Report} (here : told[place]? = some former)
    (there : told[later]? = some entry) (same : former.2.flow.id = entry.2.flow.id) :
    former.2.flow.Grows entry.2.flow := by
  obtain ⟨bound, rfl⟩ := List.getElem?_eq_some_iff.mp here
  obtain ⟨bound', rfl⟩ := List.getElem?_eq_some_iff.mp there
  exact (List.pairwise_iff_getElem.mp rising place later bound bound' less same).2

theorem places_of_accepted {earlier later : Attempt} (before : earlier.Before later)
    (accepted : earlier.reply = .accepted) : earlier.place < later.place := by
  rcases before with less | ⟨-, -, again⟩
  next => exact less
  next => exact nomatch accepted.symm.trans again

theorem inOrder_of_kept (kept : journal.Kept)
    (metered : journal.log.Metered (fun index => .empty config (supplies index))
      journal.probe.pool)
    (unrepeated : journal.Unrepeated config supplies) :
    ∃ told settled, journal.InOrder config supplies told settled := by
  obtain ⟨told, added, emitted⟩ :=
    Worklog.reports_of_metered config metered kept.covers.added
  obtain ⟨-, named, turns, progress⟩ := kept.ordered
  obtain ⟨settled, fate, low, high, upto⟩ := Exporter.settled_of_progress progress
  have rising := rising_of_unrepeated unrepeated emitted
  refine ⟨told, settled, added, emitted, rising, ?_, fun attempt member => ?_, ?_, turns, fate,
    ⟨low, high⟩, ?_, ?_⟩
  next =>
    intro index countable entry member own
    have part : entry ∈ Fibers.part Prod.fst index told :=
      List.mem_filter.mpr ⟨member, by simpa using own⟩
    exact Meter.told_fits countable _ ((emitted index).subset (List.mem_map_of_mem part))
  next =>
    have here := named attempt member
    rw [Journal.added, added, List.map_map, List.getElem?_map] at here
    obtain ⟨entry, there, same⟩ := Option.map_eq_some_iff.mp here
    exact ⟨entry, there, same.symm⟩
  next =>
    intro before attempt after split
    refine Exporter.in_turn turns fate (fun attempt member => ?_) split
    rcases upto attempt member with less | ⟨same, -⟩ <;> omega
  next =>
    refine turns.imp fun before one _ former entry here there same => ?_
    exact grows_of_places rising (places_of_accepted before one) here there same
  next =>
    intro before attempt after entry split accepted here last place less kept' other there same
    obtain ⟨winner, member, own, won⟩ := (fate.fate place less).mpr kept'
    rw [split] at member turns
    subst own
    rcases List.mem_append.mp member with early | late
    next =>
      have order := (List.pairwise_append.mp turns).2.2 winner early attempt List.mem_cons_self
      exact grows_of_places rising (places_of_accepted order won) there here same
    next =>
      rcases List.mem_cons.mp late with rfl | later
      next =>
        cases there.symm.trans here
        exact Flow.grows_refl _
      next => exact absurd same (last winner later won other there)

/-- Any number of meters, any interleaving of workers and exporter, and any transport. The records of
a flow are tried in the order in which its meter reported them, none of them after a later one, and
what the transport accepts of a flow never falls behind what it has accepted before. -/
theorem flow_records_stay_in_order (config : MeterConfig) (supplies : Nat → Nat → Uuid)
    (capture : Capture κ) (transport : Transport τ) {plan : WorkerPool.Plan κ Meter}
    (own : ∀ id meter, plan.classifierFor id = .ok meter →
      meter = .empty config (supplies id.index))
    {count : Nat} {captures : κ} {state : τ} {probe : Probe κ Meter τ}
    (started : (Probe.launch plan count captures state).1 = .ok probe) (moves : List (Move κ))
    (unrepeated : ((start probe).follow (metering capture transport) moves).Unrepeated config
      supplies) :
    ∃ told settled, ((start probe).follow (metering capture transport) moves).InOrder config
      supplies told settled := by
  have metered : ((start probe).follow (metering capture transport) moves).log.Metered
      (fun index => .empty config (supplies index))
      ((start probe).follow (metering capture transport) moves).probe.pool := by
    refine follow_keeps (fun journal => journal.log.Metered _ journal.probe.pool) ?_ ?_ moves
    next =>
      intro journal metered move
      cases move with
      | outside change => exact metered
      | worker index => exact Worklog.metered_note metered capture index
      | exporter => exact metered
      | coordinator =>
        have threads := Probe.coordinator_threads (metering capture transport) journal.probe
        intro index thread there
        exact metered index thread (threads ▸ there)
    next =>
      obtain ⟨workers, site, opened, rfl⟩ := Probe.opened_of_launch started
      exact Worklog.metered_start opened own _
  exact inOrder_of_kept (kept_follow (kept_start started) _ moves) metered unrepeated

def hasty : MeterConfig :=
  { activeTimeout := 3 }

def hastyPlan : WorkerPool.Plan Hub Meter :=
  ⟨Hub.capture, "syn0", 7, hasty.meterFor ⟨[], []⟩⟩

def segmentAt (time : Nanos) : Move Hub :=
  .outside fun hub => (hub.inject (.of time 60 (Meter.segmentFrame 0x10))).2

-- One flow with three records. Each is refused when it is offered first; the last one is given up,
-- since the run is ending by then.
def hastyMoves : List (Move Hub) :=
  [segmentAt 1, segmentAt 9, segmentAt 20] ++ .replicate 5 (.worker 0) ++ .replicate 3 .exporter ++
    .replicate 5 (.worker 0) ++ .replicate 5 .exporter ++ .replicate 3 .coordinator ++
    .replicate 8 (.worker 0) ++ .replicate 2 .coordinator ++ .replicate 4 .exporter

def hastyProbe : Probe Hub Meter Nat where
  pool := .start [⟨⟨0, 1⟩, 0, .empty hasty (Uuid.supply 0), 1⟩]
    ⟨((Hub.ofDevice "syn0").openChannel "syn0" 7).2, Queue.empty.clone.drop 0⟩
  exporter := .start 0
  stage := .running
  stopRaised := false
  teardown := .notBegun

def hastyRun : Journal Hub Meter Nat :=
  (start hastyProbe).follow (metering Hub.capture Probe.wavering) hastyMoves

theorem hastyRun_unrepeated : hastyRun.Unrepeated hasty Uuid.supply := by
  have alone : ∀ entry ∈ hastyRun.log.taken, entry.1 = 0 := by decide +kernel
  have one : hastyRun.drawnBy hasty Uuid.supply 0 = 1 := by decide +kernel
  have others (index : Nat) (other : index ≠ 0) : hastyRun.drawnBy hasty Uuid.supply index = 0 := by
    have nothing : Fibers.part Prod.fst index hastyRun.log.taken = [] := by
      refine List.filter_eq_nil_iff.mpr fun entry member => ?_
      simpa [alone entry member] using other.symm
    rw [drawnBy, Worklog.takenBy, nothing]
    rfl
  have first (index serial : Nat) (less : serial < hastyRun.drawnBy hasty Uuid.supply index) :
      index = 0 ∧ serial = 0 := by
    by_cases same : index = 0
    next => exact ⟨same, by rw [same, one] at less; omega⟩
    next => exact absurd (others index same ▸ less) (Nat.not_lt_zero serial)
  intro index other serial less serial' less' _
  obtain ⟨rfl, rfl⟩ := first index serial less
  obtain ⟨rfl, rfl⟩ := first other serial' less'
  exact ⟨rfl, rfl⟩

theorem hasty_records_stay_in_order :
    (∀ id meter, hastyPlan.classifierFor id = .ok meter →
        meter = .empty hasty (Uuid.supply id.index)) ∧
      (Probe.launch hastyPlan 1 (Hub.ofDevice "syn0") 0).1 = .ok hastyProbe ∧
      hastyRun.Unrepeated hasty Uuid.supply ∧
      hastyRun.attempts.map Attempt.place = [0, 0, 1, 1, 2] ∧ hastyRun.dropped = [2] ∧
      ∃ told settled, hastyRun.InOrder hasty Uuid.supply told settled := by
  have own : ∀ id meter, hastyPlan.classifierFor id = .ok meter →
      meter = .empty hasty (Uuid.supply id.index) := fun _ _ made => (Except.ok.inj made).symm
  have started : (Probe.launch hastyPlan 1 (Hub.ofDevice "syn0") 0).1 = .ok hastyProbe := rfl
  exact ⟨own, started, hastyRun_unrepeated, by decide +kernel, by decide +kernel,
    flow_records_stay_in_order hasty Uuid.supply Hub.capture Probe.wavering own started hastyMoves
      hastyRun_unrepeated⟩

end Journal

end FlowProbe
