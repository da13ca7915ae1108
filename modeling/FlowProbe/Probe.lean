import FlowProbe.Exporter
import FlowProbe.Worker
import FlowProbe.WorkerPool

set_option autoImplicit false

namespace FlowProbe

inductive Lifecycle where
  | running
  | stopRequested
  | draining
  | stopped
  deriving DecidableEq, Repr

namespace Lifecycle

def number : Lifecycle → Nat
  | .running => 0
  | .stopRequested => 1
  | .draining => 2
  | .stopped => 3

def text : Lifecycle → String
  | .running => "running"
  | .stopRequested => "stop-requested"
  | .draining => "draining"
  | .stopped => "stopped"

def ofNumber : Nat → Lifecycle
  | 0 => .running
  | 1 => .stopRequested
  | 2 => .draining
  | _ => .stopped

instance : Ord Lifecycle := ⟨fun a b => compare a.number b.number⟩

end Lifecycle

structure ShutdownSignal where
  requested : Bool := false
  deriving DecidableEq

namespace ShutdownSignal

def request (_ : ShutdownSignal) : ShutdownSignal := ⟨true⟩

-- Waits for a request that nobody makes meanwhile, and tells whether one was made before.
def waitTimeout (signal : ShutdownSignal) : Bool := signal.requested

end ShutdownSignal

structure RunReport where
  workers : List WorkerReport := []
  exporter : ExporterStats := {}
  queue : QueueTotals := {}
  deriving DecidableEq

namespace RunReport

def packets (report : RunReport) : Nat :=
  report.workers.foldl (fun total worker => total + worker.packets) 0

def records (report : RunReport) : Nat :=
  report.workers.foldl (fun total worker => total + worker.records) 0

/-- Records whose fate is known: sent, dropped, or freed with the queue. -/
def accounted (report : RunReport) : Nat :=
  report.exporter.sent + report.exporter.dropped + report.queue.freed

def isBalanced (report : RunReport) : Bool :=
  report.queue.enqueued = report.accounted

def fits (report : RunReport) : Bool :=
  report.packets < UInt64.size ∧ report.records < UInt64.size ∧ report.accounted < UInt64.size

end RunReport

inductive Teardown where
  | notBegun
  | waking (woken : Nat)
  | joining (reports : List WorkerReport)
  | draining (reports : List WorkerReport)
  | finished (report : RunReport)

structure Probe (κ σ τ : Type) where
  pool : RunningPool κ σ
  exporter : Exporter τ
  stage : Lifecycle
  stopRaised : Bool
  teardown : Teardown

inductive Move (κ : Type) where
  | outside (change : κ → κ)
  | worker (index : Nat)
  | exporter
  | coordinator

structure Machinery (κ σ τ : Type) where
  capture : Capture κ
  classifier : Classifier σ
  transport : Transport τ

namespace Probe

variable {κ σ τ : Type}

/-- Makes the workers and starts everything. If a worker cannot be made, nothing is left behind. -/
def launch (plan : WorkerPool.Plan κ σ) (count : Nat) (captures : κ) (transport : τ) :
    Except PoolFailure (Probe κ σ τ) × κ :=
  match WorkerPool.openAll plan count ⟨captures, Queue.empty⟩ with
  | (.error failure, site) => (.error failure, site.captures)
  | (.ok workers, site) =>
    let pool := RunningPool.start workers { site with queue := site.queue.drop 0 }
    (.ok ⟨pool, .start transport, .running, false, .notBegun⟩, site.captures)

def queue (probe : Probe κ σ τ) : Queue :=
  probe.pool.site.queue

def withQueue (probe : Probe κ σ τ) (queue : Queue) : Probe κ σ τ :=
  { probe with pool := { probe.pool with site := { probe.pool.site with queue } } }

def moveExporter (parts : Machinery κ σ τ) (probe : Probe κ σ τ) : Probe κ σ τ :=
  let (exporter, queue) := probe.exporter.step parts.transport probe.stopRaised probe.queue
  { probe.withQueue queue with exporter }

/-- The counters of exporter and queue. Of an exporter that crashed nothing is known, and a queue
that still has a producer tells nothing. -/
def finalCounters (probe : Probe κ σ τ) : ExporterStats × QueueTotals :=
  if probe.exporter.phase = .crashed then ({}, {})
  else (probe.exporter.stats, probe.queue.destroy?.getD {})

def finalReport (probe : Probe κ σ τ) (workers : List WorkerReport) : RunReport where
  workers := workers
  exporter := probe.finalCounters.1
  queue := probe.finalCounters.2

def moveCoordinator (parts : Machinery κ σ τ) (probe : Probe κ σ τ) : Probe κ σ τ :=
  match probe.teardown with
  | .notBegun => { probe with stage := .draining, teardown := .waking 0 }
  | .waking woken =>
    if woken < probe.pool.threads.length then
      { probe with pool := probe.pool.wake parts.capture woken, teardown := .waking (woken + 1) }
    else
      { probe with teardown := .joining [] }
  | .joining reports =>
    match probe.pool.threads[reports.length]? with
    | none => { probe with stopRaised := true, teardown := .draining reports }
    | some thread =>
      match thread.report? with
      | none => probe
      | some report => { probe with teardown := .joining (reports ++ [report]) }
  | .draining reports =>
    if probe.exporter.hasEnded then
      { probe with stage := .stopped, teardown := .finished (probe.finalReport reports) }
    else
      probe
  | .finished _ => probe

def act (parts : Machinery κ σ τ) (probe : Probe κ σ τ) : Move κ → Probe κ σ τ
  | .outside change =>
    { probe with
      pool := { probe.pool with
        site := { probe.pool.site with captures := change probe.pool.site.captures } } }
  | .worker index =>
    { probe with pool := probe.pool.step parts.capture parts.classifier index }
  | .exporter => probe.moveExporter parts
  | .coordinator => probe.moveCoordinator parts

def execute (parts : Machinery κ σ τ) (probe : Probe κ σ τ) (moves : List (Move κ)) :
    Probe κ σ τ :=
  moves.foldl (act parts) probe

def report? (probe : Probe κ σ τ) : Option RunReport :=
  match probe.teardown with
  | .finished report => some report
  | _ => none

def runUntil (signal : ShutdownSignal) (probe : Probe κ σ τ) : Probe κ σ τ :=
  if signal.waitTimeout then { probe with stage := .stopRequested } else probe

end Probe

/-- What a pause of the run has to be long enough for: looks into one channel, and attempts that the
transport refuses. -/
structure Patience where
  looks : Nat
  refusals : Nat

namespace Probe

variable {κ σ τ : Type}

def repeatMove (parts : Machinery κ σ τ) (move : Move κ) (count : Nat) (probe : Probe κ σ τ) :
    Probe κ σ τ :=
  probe.execute parts (List.replicate count move)

def pause (parts : Machinery κ σ τ) (patience : Patience) (probe : Probe κ σ τ) : Probe κ σ τ :=
  let pool := probe.pool.workAll parts.capture parts.classifier patience.looks
  let steps := Exporter.stepBound pool.site.queue patience.refusals
  repeatMove parts .exporter steps { probe with pool }

/-- Ends a run. The coordinator begins, wakes every worker and waits for them; it joins each, asks
the exporter to stop and waits for it; then it reports. -/
def shutdown (parts : Machinery κ σ τ) (patience : Patience) (probe : Probe κ σ τ) :
    Probe κ σ τ :=
  let workers := probe.pool.threads.length
  let probe := pause parts patience (repeatMove parts .coordinator (workers + 2) probe)
  let probe := pause parts patience (repeatMove parts .coordinator (workers + 1) probe)
  repeatMove parts .coordinator 1 probe

end Probe

end FlowProbe
