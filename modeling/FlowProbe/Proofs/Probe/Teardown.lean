import FlowProbe.Probe
import FlowProbe.Proofs.Exporter.Accounting
import FlowProbe.Proofs.WorkerPool.Crew

set_option autoImplicit false

namespace FlowProbe

namespace Probe

variable {κ σ τ : Type} {probe : Probe κ σ τ}

def Joined (probe : Probe κ σ τ) (reports : List WorkerReport) : Prop :=
  ∀ (index : Nat) (report : WorkerReport), reports[index]? = some report →
    (probe.pool.threads[index]?).bind WorkerThread.report? = some report

def AllJoined (probe : Probe κ σ τ) (reports : List WorkerReport) : Prop :=
  probe.Joined reports ∧ reports.length = probe.pool.threads.length

def Ending (probe : Probe κ σ τ) : Prop :=
  match probe.teardown with
  | .notBegun => probe.stopRaised = false
  | .waking _ => probe.stopRaised = false
  | .joining reports => probe.stopRaised = false ∧ probe.Joined reports
  | .draining reports => probe.stopRaised = true ∧ probe.AllJoined reports
  | .finished report => probe.stopRaised = true ∧ probe.AllJoined report.workers ∧
      probe.exporter.hasEnded ∧ report = probe.finalReport report.workers

structure Orderly (probe : Probe κ σ τ) : Prop where
  crewed : probe.pool.Crewed [.dropped]
  ending : probe.Ending
  obedient : probe.exporter.phase = .finished → probe.stopRaised = true

theorem allJoined_of_raised (orderly : probe.Orderly) (raised : probe.stopRaised = true) :
    ∃ reports, probe.AllJoined reports := by
  have ending := orderly.ending
  unfold Ending at ending
  split at ending
  next => exact absurd raised (by simp [ending])
  next => exact absurd raised (by simp [ending])
  next => exact absurd raised (by simp [ending.1])
  next reports _ => exact ⟨reports, ending.2⟩
  next report _ => exact ⟨report.workers, ending.2.1⟩

theorem report_of_allJoined {reports : List WorkerReport} (joined : probe.AllJoined reports)
    {index : Nat} {thread : WorkerThread σ} (here : probe.pool.threads[index]? = some thread) :
    ∃ report, thread.report? = some report := by
  have bound : index < reports.length := by
    rw [joined.2]
    exact (List.getElem?_eq_some_iff.mp here).1
  have ended := joined.1 index reports[index] (List.getElem?_eq_getElem bound)
  rw [here] at ended
  exact ⟨_, ended⟩

theorem live_eq_zero (orderly : probe.Orderly) (raised : probe.stopRaised = true) :
    probe.queue.live = 0 := by
  obtain ⟨reports, joined⟩ := allJoined_of_raised orderly raised
  refine (Queue.live_eq_zero_iff _).mpr ?_
  intro state member
  unfold queue at member
  rw [orderly.crewed.producers] at member
  rcases List.mem_append.mp member with original | own
  next => exact List.mem_singleton.mp original
  next =>
    obtain ⟨thread, worker, rfl⟩ := List.mem_map.mp own
    obtain ⟨index, here⟩ := List.getElem?_of_mem worker
    obtain ⟨report, ended⟩ := report_of_allJoined joined here
    exact WorkerThread.dropped_of_report ended

theorem length_le_of_joined {reports : List WorkerReport} (joined : probe.Joined reports) :
    reports.length ≤ probe.pool.threads.length := by
  apply Nat.le_of_not_lt
  intro beyond
  have ended := joined _ _ (List.getElem?_eq_getElem beyond)
  rw [List.getElem?_eq_none (Nat.le_refl _)] at ended
  exact nomatch ended

theorem joined_concat {reports : List WorkerReport} (joined : probe.Joined reports)
    {thread : WorkerThread σ} (here : probe.pool.threads[reports.length]? = some thread)
    {report : WorkerReport} (ended : thread.report? = some report) :
    probe.Joined (reports ++ [report]) := by
  intro index said found
  rcases Nat.lt_or_ge index reports.length with earlier | later
  next =>
    rw [List.getElem?_append_left earlier] at found
    exact joined index said found
  next =>
    rw [List.getElem?_append_right later, List.getElem?_singleton] at found
    split at found
    next last =>
      have same : index = reports.length := by omega
      cases found
      rw [same, here]
      exact ended
    next => exact nomatch found

theorem ending_of_report (orderly : probe.Orderly) {report : RunReport}
    (reported : probe.report? = some report) :
    probe.stopRaised = true ∧ probe.AllJoined report.workers ∧
      probe.exporter.hasEnded ∧ report = probe.finalReport report.workers := by
  have ending := orderly.ending
  unfold Ending at ending
  unfold report? at reported
  split at reported
  next finished teardown =>
    rw [teardown] at ending
    exact Option.some.inj reported ▸ ending
  next => exact nomatch reported

theorem ending_congr {other : Probe κ σ τ} (ending : probe.Ending)
    (teardown : other.teardown = probe.teardown) (raised : other.stopRaised = probe.stopRaised)
    (joined : ∀ reports, probe.Joined reports → other.Joined reports)
    (length : other.pool.threads.length = probe.pool.threads.length)
    (settled : probe.exporter.hasEnded → probe.stopRaised = true →
      other.exporter = probe.exporter ∧ other.queue = probe.queue) :
    other.Ending := by
  unfold Ending AllJoined at *
  rw [teardown, raised, length]
  split at ending
  next => exact ending
  next => exact ending
  next => exact ⟨ending.1, joined _ ending.2⟩
  next => exact ⟨ending.1, joined _ ending.2.1, ending.2.2⟩
  next report _ =>
    obtain ⟨flag, ⟨all, count⟩, ended, said⟩ := ending
    obtain ⟨exporter, queue⟩ := settled ended flag
    refine ⟨flag, ⟨joined _ all, count⟩, exporter ▸ ended, ?_⟩
    simpa only [finalReport, finalCounters, exporter, queue] using said

theorem orderly_outside (orderly : probe.Orderly) (parts : Machinery κ σ τ) (change : κ → κ) :
    (probe.act parts (.outside change)).Orderly where
  crewed := RunningPool.crewed_congr orderly.crewed rfl rfl
  ending := ending_congr orderly.ending rfl rfl (fun _ joined => joined) rfl
    fun _ _ => ⟨rfl, rfl⟩
  obedient := orderly.obedient

theorem orderly_worker (orderly : probe.Orderly) (parts : Machinery κ σ τ) (index : Nat) :
    (probe.act parts (.worker index)).Orderly where
  crewed := RunningPool.crewed_step orderly.crewed parts.capture parts.classifier index
  ending := by
    refine ending_congr orderly.ending rfl rfl ?_ ?_ ?_
    next =>
      intro reports joined position report said
      exact RunningPool.report_kept parts.capture parts.classifier (joined position report said)
        index
    next => exact RunningPool.length_step parts.capture parts.classifier index
    next =>
      intro _ raised
      refine ⟨rfl, ?_⟩
      obtain ⟨reports, joined⟩ := allJoined_of_raised orderly raised
      -- A thread that still could step has been joined already.
      cases here : probe.pool.threads[index]? with
      | none =>
        exact congrArg (·.site.queue)
          (RunningPool.step_absent parts.capture parts.classifier here)
      | some thread =>
        obtain ⟨report, ended⟩ := report_of_allJoined joined here
        exact congrArg (·.site.queue)
          (RunningPool.step_ended parts.capture parts.classifier here ended)
  obedient := orderly.obedient

theorem orderly_exporter (orderly : probe.Orderly) (parts : Machinery κ σ τ) :
    (probe.act parts .exporter).Orderly where
  crewed := by
    refine RunningPool.crewed_congr orderly.crewed rfl ?_
    change (probe.exporter.step parts.transport probe.stopRaised probe.queue).2.producers = _
    rw [Exporter.queue_step]
    split
    next => exact Queue.producers_dequeue _
    next => rfl
  ending := by
    refine ending_congr orderly.ending rfl rfl (fun _ joined => joined) rfl ?_
    intro ended _
    have still := Exporter.step_ended ended parts.transport probe.stopRaised probe.queue
    exact ⟨congrArg Prod.fst still, congrArg Prod.snd still⟩
  obedient := by
    intro finished
    rcases Exporter.finished_step parts.transport probe.stopRaised probe.exporter probe.queue
      finished with before | raised
    next => exact orderly.obedient before
    next => exact raised

theorem orderly_coordinator (orderly : probe.Orderly) (parts : Machinery κ σ τ) :
    (probe.act parts .coordinator).Orderly := by
  have ending := orderly.ending
  unfold Ending at ending
  change (probe.moveCoordinator parts).Orderly
  unfold moveCoordinator
  cases teardown : probe.teardown with
  | notBegun =>
    rw [teardown] at ending
    exact ⟨orderly.crewed, ending, orderly.obedient⟩
  | waking woken =>
    rw [teardown] at ending
    by_cases asleep : woken < probe.pool.threads.length
    next =>
      simp only [asleep, if_true]
      exact ⟨RunningPool.crewed_congr orderly.crewed (RunningPool.wake_threads _ _ _)
        (congrArg Queue.producers (RunningPool.wake_queue _ _ _)), ending, orderly.obedient⟩
    next =>
      simp only [asleep, if_false]
      exact ⟨orderly.crewed, ⟨ending, nofun⟩, orderly.obedient⟩
  | joining reports =>
    rw [teardown] at ending
    obtain ⟨quiet, joined⟩ := ending
    -- The stop request is raised here and nowhere else, when no thread is left to be joined.
    cases here : probe.pool.threads[reports.length]? with
    | none =>
      have all : reports.length = probe.pool.threads.length :=
        Nat.le_antisymm (length_le_of_joined joined) (List.getElem?_eq_none_iff.mp here)
      simp only [here]
      exact ⟨orderly.crewed, ⟨rfl, joined, all⟩, fun _ => rfl⟩
    | some thread =>
      cases ended : thread.report? with
      | none => simpa only [here, ended] using orderly
      | some report =>
        simp only [here, ended]
        exact ⟨orderly.crewed, ⟨quiet, joined_concat joined here ended⟩, orderly.obedient⟩
  | draining reports =>
    rw [teardown] at ending
    by_cases ended : probe.exporter.hasEnded
    next =>
      simp only [ended, if_true]
      exact ⟨orderly.crewed, ⟨ending.1, ending.2, ended, rfl⟩, orderly.obedient⟩
    next =>
      simp only [ended]
      exact orderly
  | finished report => simpa only using orderly

theorem orderly_act (orderly : probe.Orderly) (parts : Machinery κ σ τ) (move : Move κ) :
    (probe.act parts move).Orderly := by
  cases move with
  | outside change => exact orderly_outside orderly parts change
  | worker index => exact orderly_worker orderly parts index
  | exporter => exact orderly_exporter orderly parts
  | coordinator => exact orderly_coordinator orderly parts

theorem execute_keeps (Kept : Probe κ σ τ → Prop) {parts : Machinery κ σ τ}
    (each : ∀ probe, Kept probe → ∀ move, Kept (probe.act parts move)) (kept : Kept probe)
    (moves : List (Move κ)) : Kept (probe.execute parts moves) := by
  induction moves generalizing probe with
  | nil => exact kept
  | cons move rest ih => exact ih (each probe kept move)

theorem opened_of_launch {plan : WorkerPool.Plan κ σ} {count : Nat} {captures : κ} {transport : τ}
    (launched : (launch plan count captures transport).1 = .ok probe) :
    ∃ workers site, WorkerPool.openAll plan count ⟨captures, Queue.empty⟩ = (.ok workers, site) ∧
      probe = ⟨.start workers { site with queue := site.queue.drop 0 }, .start transport, .running,
        false, .notBegun⟩ := by
  unfold launch at launched
  split at launched
  next => cases launched
  next workers site opened => exact ⟨workers, site, opened, (Except.ok.inj launched).symm⟩

theorem launched {plan : WorkerPool.Plan κ σ} {count : Nat} {captures : κ} {transport : τ}
    (launched : (launch plan count captures transport).1 = .ok probe) :
    probe.pool.Crewed [.dropped] ∧ probe.exporter = .start transport ∧
      probe.stopRaised = false ∧ probe.teardown = .notBegun ∧
      probe.queue = ⟨[], 0, 0, .dropped :: List.replicate count .idle⟩ := by
  obtain ⟨workers, site, opened, rfl⟩ := opened_of_launch launched
  obtain ⟨numbered, length, queue⟩ := WorkerPool.opened_workers opened
  have drained : site.queue.drop 0 = ⟨[], 0, 0, .dropped :: List.replicate count .idle⟩ := by
    rw [queue]
    rfl
  refine ⟨RunningPool.crewed_start numbered ?_, rfl, rfl, rfl, drained⟩
  rw [length]
  exact congrArg Queue.producers drained

end Probe

end FlowProbe
