import FlowProbe.Record

set_option autoImplicit false

namespace FlowProbe

inductive Producer where
  | idle
  -- A record was added and has not been counted yet.
  | adding
  | dropped
  deriving DecidableEq, Repr

structure Queue where
  pending : List Record
  enqueued : Nat
  dequeued : Nat
  -- The producers by number, in the order of their creation.
  producers : List Producer
  deriving DecidableEq

structure QueueTotals where
  enqueued : Nat := 0
  dequeued : Nat := 0
  freed : Nat := 0
  deriving DecidableEq

namespace Queue

def empty : Queue :=
  ⟨[], 0, 0, [.idle]⟩

def isIdle (queue : Queue) (producer : Nat) : Bool :=
  queue.producers[producer]? = some .idle

def live (queue : Queue) : Nat :=
  queue.producers.countP (· ≠ .dropped)

def push (queue : Queue) (producer : Nat) (record : Record) : Queue :=
  { queue with
    pending := queue.pending ++ [record]
    producers := queue.producers.set producer .adding }

def count (queue : Queue) (producer : Nat) : Queue :=
  { queue with
    enqueued := queue.enqueued + 1
    producers := queue.producers.set producer .idle }

def clone (queue : Queue) : Queue :=
  { queue with producers := queue.producers ++ [.idle] }

def drop (queue : Queue) (producer : Nat) : Queue :=
  { queue with producers := queue.producers.set producer .dropped }

def dequeue (queue : Queue) : Option Record × Queue :=
  match queue.pending with
  | [] => (none, queue)
  | record :: rest =>
    (some record, { queue with pending := rest, dequeued := queue.dequeued + 1 })

def destroy? (queue : Queue) : Option QueueTotals :=
  if queue.live = 0 then some ⟨queue.enqueued, queue.dequeued, queue.pending.length⟩ else none

end Queue

end FlowProbe
