import FlowProbe.Queue
import FlowProbe.Transport

set_option autoImplicit false

namespace FlowProbe

structure ExporterStats where
  sent : Nat := 0
  retried : Nat := 0
  dropped : Nat := 0
  deriving DecidableEq

namespace ExporterStats

/-- Moves records that were lost after they had been accepted, at most all of those sent. -/
def discard (stats : ExporterStats) (lost : Nat) : ExporterStats :=
  let lost := min lost stats.sent
  { stats with sent := stats.sent - lost, dropped := stats.dropped + lost }

def afterReply (stats : ExporterStats) : Reply → ExporterStats
  | .accepted => { stats with sent := stats.sent + 1 }
  | _ => stats

theorem discard_total (stats : ExporterStats) (lost : Nat) :
    (stats.discard lost).sent + (stats.discard lost).dropped = stats.sent + stats.dropped := by
  simp only [discard]
  omega

end ExporterStats

inductive ExporterPhase where
  | polling
  -- The queue was empty. The stop request is looked at next.
  | starved
  | offering (record : Record)
  -- The transport refused the record. The stop request is looked at next.
  | refused (record : Record)
  | finished
  | crashed
  deriving DecidableEq

structure Exporter (τ : Type) where
  phase : ExporterPhase
  stats : ExporterStats
  transport : τ

namespace Exporter

variable {τ : Type}

def start (transport : τ) : Exporter τ :=
  ⟨.polling, {}, transport⟩

def hasEnded (exporter : Exporter τ) : Bool :=
  exporter.phase = .finished ∨ exporter.phase = .crashed

/-- Offers the record in hand. What the transport lost is asked for before the answer counts. -/
def offer (transport : Transport τ) (exporter : Exporter τ) (record : Record) : Exporter τ :=
  let (reply, state) := transport.offer exporter.transport record
  if reply = .crashed then
    { exporter with phase := .crashed, transport := state }
  else
    let (lost, state) := transport.takeDiscarded state
    let stats := (exporter.stats.afterReply reply).discard lost
    match reply with
    | .refused .wouldBlock => ⟨.refused record, stats, state⟩
    | .refused (.fatal _) => ⟨.polling, { stats with dropped := stats.dropped + 1 }, state⟩
    | _ => ⟨.polling, stats, state⟩

def close (transport : Transport τ) (exporter : Exporter τ) : Exporter τ :=
  let (lost, state) := transport.finish exporter.transport
  ⟨.finished, exporter.stats.discard lost, state⟩

def step (transport : Transport τ) (raised : Bool) (exporter : Exporter τ) (queue : Queue) :
    Exporter τ × Queue :=
  match exporter.phase with
  | .polling =>
    match queue.dequeue with
    | (some record, queue) => ({ exporter with phase := .offering record }, queue)
    | (none, queue) => ({ exporter with phase := .starved }, queue)
  | .starved =>
    if raised then (exporter.close transport, queue)
    else ({ exporter with phase := .polling }, queue)
  | .offering record => (exporter.offer transport record, queue)
  | .refused record =>
    if raised then
      ({ exporter with
          phase := .polling
          stats := { exporter.stats with dropped := exporter.stats.dropped + 1 } }, queue)
    else
      ({ exporter with
          phase := .offering record
          stats := { exporter.stats with retried := exporter.stats.retried + 1 } }, queue)
  | .finished | .crashed => (exporter, queue)

def run (transport : Transport τ) (raised : τ → Bool) :
    Nat → Exporter τ → Queue → Exporter τ × Queue
  | 0, exporter, queue => (exporter, queue)
  | limit + 1, exporter, queue =>
    if exporter.hasEnded then (exporter, queue)
    else
      let (exporter, queue) := exporter.step transport (raised exporter.transport) queue
      run transport raised limit exporter queue

-- Steps enough to drain a queue when every record's last attempt comes after at most `refusals`
-- refused ones in all: three for each attempt, and two to find the queue empty.
def stepBound (queue : Queue) (refusals : Nat) : Nat :=
  3 * (queue.pending.length + refusals) + 2

end Exporter

end FlowProbe
