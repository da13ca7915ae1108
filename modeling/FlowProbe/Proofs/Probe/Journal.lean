import FlowProbe.Proofs.Exporter.Order
import FlowProbe.Proofs.Probe.Balance
import FlowProbe.Proofs.Queue.History
import FlowProbe.Proofs.WorkerPool.Worklog

set_option autoImplicit false

namespace FlowProbe

variable {κ σ τ : Type}

structure Journal (κ σ τ : Type) where
  probe : Probe κ σ τ
  log : Worklog
  attempts : List Attempt
  -- The places of the records that the exporter gave up.
  dropped : List Nat

namespace Probe

theorem coordinator_threads (parts : Machinery κ σ τ) (probe : Probe κ σ τ) :
    (probe.moveCoordinator parts).pool.threads = probe.pool.threads := by
  rw [moveCoordinator]
  cases probe.teardown with
  | notBegun => rfl
  | waking woken =>
    dsimp only
    split
    next asleep => exact RunningPool.wake_threads _ _ _
    next awake => rfl
  | joining reports =>
    cases here : probe.pool.threads[reports.length]? with
    | none => simp only [here]
    | some thread => cases ended : thread.report? <;> simp only [here, ended]
  | draining reports => cases ended : probe.exporter.hasEnded <;> rfl
  | finished report => rfl

end Probe

namespace RunningPool

variable {pool : RunningPool κ σ} {others : List Producer}

theorem begun_step (crewed : pool.Crewed others) (capture : Capture κ) (classifier : Classifier σ)
    (index : Nat) :
    (pool.step capture classifier index).site.queue.begun =
      pool.site.queue.begun + (pool.adds index).length := by
  rcases queue_step crewed capture classifier index with ⟨nothing, same⟩ | ⟨_, _, _, owned, stepped⟩
  next => rw [same, nothing, List.length_nil, Nat.add_zero]
  next => exact Queue.begun_step stepped owned

end RunningPool

namespace Journal

def start (probe : Probe κ σ τ) : Journal κ σ τ :=
  ⟨probe, .start, [], []⟩

def act (parts : Machinery κ σ τ) (journal : Journal κ σ τ) (move : Move κ) : Journal κ σ τ :=
  match move with
  | .worker index =>
    { journal with
      probe := journal.probe.act parts move
      log := journal.log.note parts.capture parts.classifier journal.probe.pool index }
  | .exporter =>
    { journal with
      probe := journal.probe.act parts move
      attempts := journal.attempts ++
        journal.probe.exporter.attempted parts.transport journal.probe.queue
      dropped := journal.dropped ++ journal.probe.exporter.givenUp parts.transport
        journal.probe.stopRaised journal.probe.queue }
  | _ => { journal with probe := journal.probe.act parts move }

def follow (parts : Machinery κ σ τ) (journal : Journal κ σ τ) (moves : List (Move κ)) :
    Journal κ σ τ :=
  moves.foldl (act parts) journal

def added (journal : Journal κ σ τ) : List Record :=
  journal.log.added.map Prod.snd

theorem act_probe (parts : Machinery κ σ τ) (journal : Journal κ σ τ) (move : Move κ) :
    (journal.act parts move).probe = journal.probe.act parts move := by
  cases move <;> rfl

theorem follow_probe (parts : Machinery κ σ τ) (journal : Journal κ σ τ) (moves : List (Move κ)) :
    (journal.follow parts moves).probe = journal.probe.execute parts moves := by
  induction moves generalizing journal with
  | nil => rfl
  | cons move rest ih =>
    have later := ih (journal.act parts move)
    rwa [act_probe] at later

structure Kept (journal : Journal κ σ τ) : Prop where
  orderly : journal.probe.Orderly
  covers : journal.log.Covers journal.probe.pool
  begun : journal.probe.queue.begun = journal.log.added.length
  ordered : Exporter.Ordered journal.probe.exporter.phase journal.probe.queue journal.added
    journal.attempts journal.dropped

variable {journal : Journal κ σ τ}

theorem kept_worker (kept : journal.Kept) (parts : Machinery κ σ τ) (index : Nat) :
    (journal.act parts (.worker index)).Kept where
  orderly := Probe.orderly_act kept.orderly parts (.worker index)
  covers := Worklog.covers_note kept.covers parts.capture parts.classifier index
  begun := by
    have begun := RunningPool.begun_step kept.orderly.crewed parts.capture parts.classifier index
    refine begun.trans ?_
    rw [act, Worklog.note, List.length_append, List.length_map, ← kept.begun]
    rfl
  ordered := by
    have grown : (journal.act parts (.worker index)).added =
        journal.added ++ journal.probe.pool.adds index := by
      simp [added, act, Worklog.note, Function.comp_def]
    rw [grown]
    exact Exporter.ordered_added kept.ordered
      (RunningPool.pending_step kept.orderly.crewed parts.capture parts.classifier index)
      (RunningPool.dequeued_step kept.orderly.crewed parts.capture parts.classifier index)

theorem kept_exporter (kept : journal.Kept) (parts : Machinery κ σ τ) :
    (journal.act parts .exporter).Kept where
  orderly := Probe.orderly_act kept.orderly parts .exporter
  covers := Worklog.covers_congr kept.covers rfl
  begun := by
    change (journal.probe.exporter.step parts.transport journal.probe.stopRaised
      journal.probe.queue).2.begun = _
    rw [Exporter.queue_step]
    split
    next => exact (Queue.begun_dequeue _).trans kept.begun
    next => exact kept.begun
  ordered := Exporter.ordered_step parts.transport journal.probe.stopRaised kept.ordered

theorem kept_coordinator (kept : journal.Kept) (parts : Machinery κ σ τ) :
    (journal.act parts .coordinator).Kept := by
  obtain ⟨queue, exporter⟩ := Probe.coordinator_keeps parts journal.probe
  have threads := Probe.coordinator_threads parts journal.probe
  exact ⟨Probe.orderly_act kept.orderly parts .coordinator,
    Worklog.covers_congr kept.covers threads,
    (congrArg Queue.begun queue).trans kept.begun, queue ▸ exporter ▸ kept.ordered⟩

theorem kept_act (kept : journal.Kept) (parts : Machinery κ σ τ) (move : Move κ) :
    (journal.act parts move).Kept := by
  cases move with
  | outside change =>
    exact ⟨Probe.orderly_act kept.orderly parts (.outside change),
      Worklog.covers_congr kept.covers rfl, kept.begun, kept.ordered⟩
  | worker index => exact kept_worker kept parts index
  | exporter => exact kept_exporter kept parts
  | coordinator => exact kept_coordinator kept parts

theorem follow_keeps (Keeps : Journal κ σ τ → Prop) {parts : Machinery κ σ τ}
    (each : ∀ journal, Keeps journal → ∀ move, Keeps (journal.act parts move))
    (keeps : Keeps journal) (moves : List (Move κ)) : Keeps (journal.follow parts moves) := by
  induction moves generalizing journal with
  | nil => exact keeps
  | cons move rest ih => exact ih (each journal keeps move)

theorem kept_follow (kept : journal.Kept) (parts : Machinery κ σ τ) (moves : List (Move κ)) :
    (journal.follow parts moves).Kept :=
  follow_keeps Kept (fun _ kept move => kept_act kept parts move) kept moves

theorem kept_start {probe : Probe κ σ τ} {plan : WorkerPool.Plan κ σ} {count : Nat} {captures : κ}
    {transport : τ} (started : (Probe.launch plan count captures transport).1 = .ok probe) :
    (start probe).Kept := by
  obtain ⟨-, exporter, -, -, queue⟩ := Probe.launched started
  refine ⟨(Probe.balanced_launch started).orderly, ?_, ?_, ?_⟩
  next =>
    obtain ⟨workers, site, opened, rfl⟩ := Probe.opened_of_launch started
    exact Worklog.covers_start opened _
  next =>
    change probe.queue.begun = 0
    rw [queue]
    simp [Queue.begun, Queue.adding, List.count_replicate]
  next =>
    change Exporter.Ordered probe.exporter.phase probe.queue [] [] []
    rw [exporter, queue]
    exact Exporter.ordered_start transport rfl rfl

theorem queue_of_report (kept : journal.Kept) {report : RunReport}
    (reported : journal.probe.report? = some report)
    (intact : journal.probe.exporter.phase ≠ .crashed) :
    report.queue.enqueued = journal.log.added.length := by
  obtain ⟨raised, -, -, said⟩ := Probe.ending_of_report kept.orderly reported
  have alone := Probe.live_eq_zero kept.orderly raised
  rw [said]
  simp only [Probe.finalReport, Probe.finalCounters, intact, if_false, Queue.destroy?, alone,
    if_true, Option.getD_some]
  rw [← Queue.begun_of_live alone, kept.begun]

/-- What a report says of records, whatever has crashed. Of a worker whose classifier did not return
it says nothing, and of the queue nothing if the transport took the exporter down; everything else is
counted in full, on both sides. -/
theorem report_counts_emitted_records (parts : Machinery κ σ τ) {plan : WorkerPool.Plan κ σ}
    {count : Nat} {captures : κ} {transport : τ} {probe : Probe κ σ τ}
    (started : (Probe.launch plan count captures transport).1 = .ok probe) (moves : List (Move κ))
    {report : RunReport}
    (reported : ((start probe).follow parts moves).probe.report? = some report) :
    let journal := (start probe).follow parts moves
    (∀ (index : Nat) (worker : WorkerReport), report.workers[index]? = some worker →
        worker.records = if index ∈ journal.log.fallen then 0
          else (journal.log.emittedBy index).length) ∧
      report.records =
        (journal.log.emitted.filter fun entry => entry.1 ∉ journal.log.fallen).length ∧
      (journal.probe.exporter.phase ≠ .crashed →
        report.queue.enqueued = journal.log.emitted.length) ∧
      (journal.probe.exporter.phase = .crashed → report.exporter = {} ∧ report.queue = {}) ∧
      (journal.log.fallen = [] → journal.probe.exporter.phase ≠ .crashed →
        report.records = report.queue.enqueued) := by
  intro journal
  have kept : journal.Kept := kept_follow (kept_start started) parts moves
  obtain ⟨-, ⟨joined, all⟩, -, said⟩ := Probe.ending_of_report kept.orderly reported
  have each : ∀ (index : Nat) (worker : WorkerReport), report.workers[index]? = some worker →
      worker.records = if index ∈ journal.log.fallen then 0
        else (journal.log.emittedBy index).length := by
    intro index worker here
    obtain ⟨thread, -, -, told⟩ := Worklog.report_of_covers kept.covers (joined index worker here)
    rw [told]
    split <;> rfl
  have records : report.records =
      (journal.log.emitted.filter fun entry => entry.1 ∉ journal.log.fallen).length := by
    rw [← Worklog.sum_records kept.covers all each, RunReport.records, List.sum_eq_foldl_nat,
      List.foldl_map]
  have handed : journal.log.added.length = journal.log.emitted.length := by
    refine Worklog.all_added kept.covers fun index bound => ?_
    have here := joined index _ (List.getElem?_eq_getElem (all.symm ▸ bound))
    obtain ⟨thread, -, complete, -⟩ := Worklog.report_of_covers kept.covers here
    exact complete
  refine ⟨each, records, ?_, ?_, ?_⟩
  next => exact fun intact => (queue_of_report kept reported intact).trans handed
  next =>
    intro crashed
    rw [said]
    simp [Probe.finalReport, Probe.finalCounters, crashed]
  next =>
    intro stood intact
    rw [records, queue_of_report kept reported intact, handed, stood]
    simp

theorem rig_report_counts_records :
    ∃ probe, (Probe.launch Probe.rigPlan 2 (Hub.ofDevice "syn0") 0).1 = .ok probe ∧
      let journal := (start probe).follow Probe.rig Probe.rigMoves
      journal.probe.report? = some Probe.rigReport ∧
        Probe.rigReport.records =
          (journal.log.emitted.filter fun entry => entry.1 ∉ journal.log.fallen).length ∧
        Probe.rigReport.queue.enqueued = journal.log.emitted.length := by
  refine ⟨_, rfl, by decide, ?_⟩
  have counts := report_counts_emitted_records Probe.rig
    (rfl : (Probe.launch Probe.rigPlan 2 (Hub.ofDevice "syn0") 0).1 = .ok _) Probe.rigMoves
    (by decide : _ = some Probe.rigReport)
  exact ⟨counts.2.1, counts.2.2.1 (by decide)⟩

def crashing : Machinery Hub Unit Unit :=
  ⟨Hub.capture, .echo, ⟨fun _ _ => (.crashed, ()), fun _ => (0, ()), id⟩⟩

-- The transport does not survive the first record.
def crashMoves : List (Move Hub) :=
  [Probe.inject [1]] ++ .replicate 3 (.worker 0) ++ .replicate 2 .exporter ++
    .replicate 3 .coordinator ++ .replicate 7 (.worker 0) ++ .replicate 3 .coordinator

-- In the first run the records are missing among the workers, in the second one in the queue.
theorem crashes_hide_records :
    (∃ probe, (Probe.launch Probe.rigPlan 2 (Hub.ofDevice "syn0") 0).1 = .ok probe ∧
      let journal := (start probe).follow Probe.rig Probe.rigMoves
      journal.probe.report? = some Probe.rigReport ∧ journal.log.emitted.length = 3 ∧
        Probe.rigReport.queue.enqueued = 3 ∧ Probe.rigReport.records = 0) ∧
    ∃ probe report, (Probe.launch Probe.rigPlan 1 (Hub.ofDevice "syn0") ()).1 = .ok probe ∧
      let journal := (start probe).follow crashing crashMoves
      journal.probe.report? = some report ∧ journal.log.emitted.length = 1 ∧
        report.queue.enqueued = 0 ∧ report.records = 1 := by
  let report : RunReport := { workers := [{ index := 0, packets := 1, records := 1 }] }
  exact ⟨⟨_, rfl, by decide, by decide, rfl, rfl⟩, _, report, rfl, by decide, by decide, rfl, rfl⟩

end Journal

end FlowProbe
