import FlowProbe.Octets
import FlowProbe.Time
import FlowProbe.Transport

set_option autoImplicit false

namespace FlowProbe

inductive WriteOutcome where
  | took (count : Nat)
  | wouldBlock
  | interrupted
  | failed (cause : SystemFault)

structure SendConditions where
  now : Nanos := 0
  connecting : Except SystemFault Unit := .ok ()
  earlier : List WriteOutcome := []
  later : List WriteOutcome := []

structure Framed where
  -- The most messages that may be pending.
  limit : Nat
  -- The octets that the open socket has taken.
  wire : Option (List UInt8)
  -- The octets that the sockets before it took.
  closedWires : List (List UInt8)
  pending : List (List UInt8)
  -- Octets of the first pending message that the socket has taken.
  offset : Nat
  retryAt : Option Nanos
  discarded : Nat
  written : Nat

namespace Framed

def reconnectDelay : Nanos := Nanos.perSecond

-- The most octets that a message can have, and one more.
def sizeLimit : Nat := UInt32.size

def writeZero : SystemFault := ⟨"write zero"⟩

def notConnected : SystemFault := ⟨"collector unreachable"⟩

def tooLarge : SystemFault := ⟨"record larger than 4 GiB"⟩

def timedOut : SystemFault := ⟨"Resource temporarily unavailable (os error 11)"⟩

def frame (record : Record) : List UInt8 :=
  Octets.bigEndian 4 record.size ++ record.bytes

def connected (limit : Nat) : Framed where
  limit := max limit 1
  wire := some []
  closedWires := []
  pending := []
  offset := 0
  retryAt := none
  discarded := 0
  written := 0

def discardPending (state : Framed) : Framed :=
  { state with
    discarded := state.discarded + state.pending.length
    pending := []
    offset := 0 }

def disconnect (state : Framed) : Framed :=
  { state with wire := none, closedWires := state.closedWires ++ state.wire.toList }

def reset (state : Framed) (now : Nanos) : Framed :=
  { state.disconnect.discardPending with retryAt := some (now + reconnectDelay) }

def advance (state : Framed) (wire front : List UInt8) (rest : List (List UInt8)) (count : Nat) :
    Framed :=
  let state := { state with wire := some (wire ++ (front.drop state.offset).take count) }
  if state.offset + count = front.length then
    { state with pending := rest, offset := 0, written := state.written + 1 }
  else
    { state with offset := state.offset + count }

-- Writes what is pending. A socket that is asked again after its last outcome would block.
def flush : Framed → List WriteOutcome → Except SystemFault Unit × Framed
  | state, [] => (.ok (), state)
  | state, outcome :: outcomes =>
    match state.wire, state.pending with
    | some wire, front :: rest =>
      match outcome with
      | .took count =>
        let count := min count (front.length - state.offset)
        if count = 0 then (.error writeZero, state)
        else flush (state.advance wire front rest count) outcomes
      | .wouldBlock => (.ok (), state)
      | .interrupted => flush state outcomes
      | .failed cause => (.error cause, state)
    | _, _ => (.ok (), state)

def reconnect (state : Framed) (conditions : SendConditions) : Except SystemFault Unit × Framed :=
  match state.wire with
  | some _ => (.ok (), state)
  | none =>
    if state.retryAt.any fun time => conditions.now < time then (.error notConnected, state)
    else
      match conditions.connecting with
      | .ok _ => (.ok (), { state with wire := some [], retryAt := none })
      | .error cause =>
        (.error cause, { state with retryAt := some (conditions.now + reconnectDelay) })

/-- Adds a message and writes. Once it is pending it is accepted, whatever becomes of it. -/
def append (state : Framed) (record : Record) (conditions : SendConditions) : Framed :=
  let state := { state with pending := state.pending ++ [frame record] }
  match state.flush conditions.later with
  | (.ok _, state) => state
  | (.error _, state) => state.reset conditions.now

def send (state : Framed) (record : Record) (conditions : SendConditions) : Reply × Framed :=
  match state.reconnect conditions with
  | (.error cause, state) => (.refused (.fatal cause), state)
  | (.ok _, state) =>
    match state.flush conditions.earlier with
    | (.error cause, state) => (.refused (.fatal cause), state.reset conditions.now)
    | (.ok _, state) =>
      if state.limit ≤ state.pending.length then (.refused .wouldBlock, state)
      else if sizeLimit ≤ record.size then (.refused (.fatal tooLarge), state)
      else (.accepted, state.append record conditions)

def takeDiscarded (state : Framed) : Nat × Framed :=
  (state.discarded, { state with discarded := 0 })

/-- Writes what is pending to a socket that blocks, until nothing is left or a write fails. A write
that would still block has taken too long. -/
def linger : Framed → List WriteOutcome → Except SystemFault Unit × Framed
  | state, [] => (if state.pending.isEmpty then .ok () else .error timedOut, state)
  | state, outcome :: outcomes =>
    match state.wire, state.pending with
    | some wire, front :: rest =>
      match outcome with
      | .took count =>
        let count := min count (front.length - state.offset)
        if count = 0 then (.error writeZero, state)
        else linger (state.advance wire front rest count) outcomes
      | .wouldBlock => (.error timedOut, state)
      | .interrupted => linger state outcomes
      | .failed cause => (.error cause, state)
    | _, _ => (.ok (), state)

/-- Closes the connection. If lingering fails, all that was pending before counts as discarded. -/
def close (state : Framed) (outcomes : List WriteOutcome) : Framed :=
  match state.wire with
  | none => state
  | some _ =>
    match state.linger outcomes with
    | (.ok _, final) => final.disconnect
    | (.error _, final) =>
      { final.disconnect with
        discarded := state.discarded + state.pending.length
        pending := []
        offset := 0 }

end Framed

structure FramedLink where
  connection : Framed
  conditions : List SendConditions
  lingering : List WriteOutcome

namespace FramedLink

def transport : Transport FramedLink where
  offer := fun link record =>
    let (reply, connection) := link.connection.send record (link.conditions.headD {})
    (reply, { link with connection, conditions := link.conditions.tail })
  takeDiscarded := fun link =>
    let (lost, connection) := link.connection.takeDiscarded
    (lost, { link with connection })
  close := fun link => { link with connection := link.connection.close link.lingering }

end FramedLink

end FlowProbe
