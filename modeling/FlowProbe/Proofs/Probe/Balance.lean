import FlowProbe.Hub
import FlowProbe.Proofs.Probe.Teardown

set_option autoImplicit false

namespace FlowProbe

namespace Probe

variable {κ σ τ : Type} {probe : Probe κ σ τ}

structure Balanced (probe : Probe κ σ τ) : Prop where
  orderly : probe.Orderly
  counted : probe.queue.Counted
  accounted : probe.exporter.Accounted probe.queue

theorem coordinator_keeps (parts : Machinery κ σ τ) (probe : Probe κ σ τ) :
    (probe.moveCoordinator parts).queue = probe.queue ∧
      (probe.moveCoordinator parts).exporter = probe.exporter := by
  unfold moveCoordinator
  cases probe.teardown with
  | notBegun => exact ⟨rfl, rfl⟩
  | waking woken =>
    dsimp only
    split
    next asleep => exact ⟨RunningPool.wake_queue _ _ _, rfl⟩
    next awake => exact ⟨rfl, rfl⟩
  | joining reports =>
    cases here : probe.pool.threads[reports.length]? with
    | none => simp only [here, queue, and_self]
    | some thread => cases ended : thread.report? <;> simp only [here, ended, queue, and_self]
  | draining reports => cases ended : probe.exporter.hasEnded <;> exact ⟨rfl, rfl⟩
  | finished report => exact ⟨rfl, rfl⟩

theorem counted_act (balanced : probe.Balanced) (parts : Machinery κ σ τ) (move : Move κ) :
    (probe.act parts move).queue.Counted := by
  cases move with
  | outside change => exact balanced.counted
  | worker index =>
    exact RunningPool.counted_step balanced.orderly.crewed balanced.counted parts.capture
      parts.classifier index
  | exporter =>
    change (probe.exporter.step parts.transport probe.stopRaised probe.queue).2.Counted
    rw [Exporter.queue_step]
    split
    next => exact Queue.counted_dequeue balanced.counted
    next => exact balanced.counted
  | coordinator =>
    have same := (coordinator_keeps parts probe).1
    exact same ▸ balanced.counted

theorem accounted_act {parts : Machinery κ σ τ} (returns : parts.transport.Returns)
    (balanced : probe.Balanced) (move : Move κ) :
    (probe.act parts move).exporter.Accounted (probe.act parts move).queue := by
  cases move with
  | outside change => exact balanced.accounted
  | worker index =>
    have same := RunningPool.dequeued_step balanced.orderly.crewed parts.capture parts.classifier
      index
    exact ⟨balanced.accounted.1, balanced.accounted.2.trans same.symm⟩
  | exporter => exact Exporter.accounted_step returns balanced.accounted probe.stopRaised
  | coordinator =>
    obtain ⟨queue, exporter⟩ := coordinator_keeps parts probe
    exact queue ▸ exporter ▸ balanced.accounted

theorem balanced_act {parts : Machinery κ σ τ} (returns : parts.transport.Returns)
    (balanced : probe.Balanced) (move : Move κ) : (probe.act parts move).Balanced where
  orderly := orderly_act balanced.orderly parts move
  counted := counted_act balanced parts move
  accounted := accounted_act returns balanced move

theorem balanced_execute {parts : Machinery κ σ τ} (returns : parts.transport.Returns)
    (balanced : probe.Balanced) (moves : List (Move κ)) :
    (probe.execute parts moves).Balanced :=
  execute_keeps Balanced (fun _ kept move => balanced_act returns kept move) balanced moves

theorem balanced_launch {plan : WorkerPool.Plan κ σ} {count : Nat} {captures : κ} {transport : τ}
    (started : (launch plan count captures transport).1 = .ok probe) : probe.Balanced := by
  obtain ⟨crewed, exporter, raised, teardown, queue⟩ := launched started
  refine ⟨⟨crewed, ?_, ?_⟩, ?_, ?_⟩
  next =>
    unfold Ending
    rw [teardown]
    exact raised
  next =>
    rw [exporter]
    exact nofun
  next =>
    rw [queue]
    simp [Queue.Counted, Queue.adding, List.count_replicate]
  next =>
    rw [exporter]
    exact Exporter.accounted_start transport (queue ▸ rfl)

theorem shutdown_report_balances {parts : Machinery κ σ τ} (returns : parts.transport.Returns)
    {plan : WorkerPool.Plan κ σ} {count : Nat} {captures : κ} {transport : τ}
    (started : (launch plan count captures transport).1 = .ok probe) (moves : List (Move κ))
    {report : RunReport} (reported : (probe.execute parts moves).report? = some report) :
    (probe.execute parts moves).queue.destroy? = some report.queue ∧
      report.exporter = (probe.execute parts moves).exporter.stats ∧
      report.queue.dequeued = report.exporter.sent + report.exporter.dropped ∧
      report.queue.enqueued =
        report.exporter.sent + report.exporter.dropped + report.queue.freed ∧
      report.isBalanced = true := by
  have balanced := balanced_execute returns (balanced_launch started) moves
  obtain ⟨intact, taken⟩ := balanced.accounted
  obtain ⟨flag, _, ended, said⟩ := ending_of_report balanced.orderly reported
  obtain ⟨totals, destroyed⟩ := Queue.destroyed_of_live (live_eq_zero balanced.orderly flag)
  obtain ⟨dequeued, enqueued⟩ := Queue.destroy_accounts balanced.counted destroyed
  have exporter : report.exporter = (probe.execute parts moves).exporter.stats := by
    rw [said]
    simp only [finalReport, finalCounters, intact, if_false]
  have queue : report.queue = totals := by
    rw [said]
    simp only [finalReport, finalCounters, intact, if_false, destroyed, Option.getD_some]
  -- Nothing is in the hand of an exporter that has ended.
  rw [Exporter.inHand_ended ended, ← exporter, ← dequeued, ← queue] at taken
  rw [← queue] at enqueued destroyed
  have every : report.queue.enqueued = report.accounted := by
    rw [enqueued, ← taken]
    rfl
  exact ⟨destroyed, exporter, taken.symm, every, decide_eq_true every⟩

-- Refuses every other attempt, and loses a record when it is closed.
def wavering : Transport Nat where
  offer := fun attempts _ =>
    (if attempts % 2 = 0 then .refused .wouldBlock else .accepted, attempts + 1)
  takeDiscarded := fun attempts => (attempts / 100, attempts % 100)
  close := fun attempts => attempts + 100

def rig : Machinery Hub Unit Nat :=
  ⟨Hub.capture, .echo, wavering⟩

theorem rig_returns : rig.transport.Returns := by
  intro attempts record
  change (if attempts % 2 = 0 then Reply.refused .wouldBlock else .accepted) ≠ .crashed
  split <;> exact nofun

def rigPlan : WorkerPool.Plan Hub Unit :=
  ⟨Hub.capture, "syn0", 1, fun _ => .ok ()⟩

def inject (bytes : List UInt8) : Move Hub :=
  .outside fun hub => (hub.inject (.of 0 0 bytes)).2

-- Four frames for the first worker, which does not survive the last of them.
def rigMoves : List (Move Hub) :=
  [inject [1], inject [2], inject [3], inject [0xee]] ++
    .replicate 2 (.worker 0) ++ .replicate 4 .exporter ++ .replicate 16 (.worker 0) ++
    .replicate 5 .coordinator ++ .replicate 9 (.worker 1) ++ .replicate 2 .coordinator ++
    .replicate 10 .exporter ++ [.coordinator]

def rigReport : RunReport where
  workers := [.panicked 0, { index := 1 }]
  exporter := { sent := 1, retried := 1, dropped := 2 }
  queue := { enqueued := 3, dequeued := 3, freed := 0 }

theorem rig_report_balances :
    ∃ probe, (launch rigPlan 2 (Hub.ofDevice "syn0") 0).1 = .ok probe ∧
      (probe.execute rig rigMoves).report? = some rigReport ∧
      (probe.execute rig rigMoves).queue.destroy? = some rigReport.queue ∧
      rigReport.isBalanced = true := by
  refine ⟨_, rfl, by decide, ?_⟩
  have balance := shutdown_report_balances rig_returns
    (rfl : (launch rigPlan 2 (Hub.ofDevice "syn0") 0).1 = .ok _) rigMoves
    (by decide : _ = some rigReport)
  exact ⟨balance.1, balance.2.2.2.2⟩

end Probe

end FlowProbe
