import FlowProbe.Failure
import FlowProbe.Record

set_option autoImplicit false

namespace FlowProbe

inductive Reply where
  | accepted
  | refused (failure : SendFailure)
  -- The attempt does not return, and nothing can be asked of the transport any more.
  | crashed
  deriving DecidableEq

namespace Reply

def isFinal : Reply → Bool
  | .accepted => true
  | .refused (.fatal _) => true
  | _ => false

end Reply

structure Transport (τ : Type) where
  offer : τ → Record → Reply × τ
  -- How many accepted records were lost since the last question.
  takeDiscarded : τ → Nat × τ
  close : τ → τ

namespace Transport

def peerless : Transport Unit where
  offer := fun _ _ => (.refused .wouldBlock, ())
  takeDiscarded := fun _ => (0, ())
  close := id

def finish {τ : Type} (transport : Transport τ) (state : τ) : Nat × τ :=
  transport.takeDiscarded (transport.close state)

end Transport

structure Cue where
  reply : Reply := .accepted
  -- Records found lost.
  discards : Nat := 0
  raisesStop : Bool := false

structure Scripted where
  script : List Cue
  -- Records that closing loses.
  closeDiscards : Nat
  -- Final answers still to give before the stop request is raised.
  outstanding : Nat
  stopRaised : Bool
  attempts : List (Record × Reply)
  discarded : Nat
  closed : Bool

namespace Scripted

def start (script : List Cue) (closeDiscards records : Nat) (stopRaised : Bool) : Scripted where
  script := script
  closeDiscards := closeDiscards
  outstanding := records
  stopRaised := stopRaised || records == 0
  attempts := []
  discarded := 0
  closed := false

def offer (state : Scripted) (record : Record) : Reply × Scripted :=
  let cue := state.script.headD {}
  let outstanding := state.outstanding - if cue.reply.isFinal then 1 else 0
  (cue.reply, { state with
    script := state.script.tail
    outstanding := outstanding
    stopRaised := state.stopRaised || cue.raisesStop ||
      (cue.reply.isFinal && outstanding == 0)
    attempts := state.attempts ++ [(record, cue.reply)]
    discarded := state.discarded + cue.discards })

def transport : Transport Scripted where
  offer := offer
  takeDiscarded := fun state => (state.discarded, { state with discarded := 0 })
  close := fun state =>
    { state with discarded := state.discarded + state.closeDiscards, closed := true }

def delivered (state : Scripted) : List Record :=
  state.attempts.filterMap fun attempt =>
    if attempt.2 = .accepted then some attempt.1 else none

end Scripted

end FlowProbe
