import FlowProbe.Proofs.Queue.Accounting

set_option autoImplicit false

namespace FlowProbe

namespace Queue

def begun (queue : Queue) : Nat :=
  queue.enqueued + queue.adding

variable {number : Nat} {queue next : Queue} {before after : Producer} {added : List Record}

theorem begun_step (step : ProducerStep number queue before after added next)
    (owned : queue.producers[number]? = some before) :
    next.begun = queue.begun + added.length := by
  have moved := adding_step step owned
  unfold begun
  cases step with
  | rest => rfl
  | push record =>
    have same : (queue.push number record).enqueued = queue.enqueued := rfl
    simp only [reduceCtorEq, if_false, if_true, List.length_singleton] at moved ⊢
    omega
  | count =>
    have more : (queue.count number).enqueued = queue.enqueued + 1 := rfl
    simp only [reduceCtorEq, if_false, if_true, List.length_nil] at moved ⊢
    omega
  | drop =>
    have same : (queue.drop number).enqueued = queue.enqueued := rfl
    simp only [reduceCtorEq, if_false, List.length_nil] at moved ⊢
    omega

theorem begun_clone (queue : Queue) : queue.clone.begun = queue.begun := by
  simp [begun, adding, clone]

theorem begun_dequeue (queue : Queue) : queue.dequeue.2.begun = queue.begun := by
  unfold begun adding
  rw [producers_dequeue]
  unfold dequeue
  split <;> rfl

theorem dequeue_split (queue : Queue) :
    queue.dequeue.1.toList ++ queue.dequeue.2.pending = queue.pending := by
  unfold dequeue
  cases pending : queue.pending with
  | nil => exact pending
  | cons record rest => rfl

theorem dequeued_dequeue (queue : Queue) :
    queue.dequeue.2.dequeued = queue.dequeued + queue.dequeue.1.toList.length := by
  unfold dequeue
  cases queue.pending with
  | nil => rfl
  | cons record rest => rfl

theorem begun_of_live (none_live : queue.live = 0) : queue.begun = queue.enqueued := by
  have idle : queue.adding = 0 := by
    unfold adding
    rw [List.count_eq_zero]
    intro member
    exact absurd ((live_eq_zero_iff queue).mp none_live _ member) (by decide)
  rw [begun, idle, Nat.add_zero]

end Queue

inductive QueueMove where
  | push (producer : Nat) (record : Record)
  | count (producer : Nat)
  | clone (producer : Nat)
  | drop (producer : Nat)
  | dequeue
  | destroy

structure QueueHistory where
  queue : Queue
  -- Who pushed what, in the order of the pushes.
  pushed : List (Nat × Record)
  -- What the consumer got, in order.
  taken : List Record
  -- The producers that were made and not dropped.
  alive : List Nat
  -- The owners of what producers and consumer share.
  references : Nat
  destroyed : Option QueueTotals

namespace QueueHistory

def start : QueueHistory :=
  ⟨.empty, [], [], [0], 2, none⟩

def push (history : QueueHistory) (producer : Nat) (record : Record) : QueueHistory :=
  { history with
    queue := history.queue.push producer record
    pushed := history.pushed ++ [(producer, record)] }

def count (history : QueueHistory) (producer : Nat) : QueueHistory :=
  { history with queue := history.queue.count producer }

def clone (history : QueueHistory) : QueueHistory :=
  { history with
    queue := history.queue.clone
    alive := history.alive ++ [history.queue.producers.length]
    references := history.references + 1 }

def drop (history : QueueHistory) (producer : Nat) : QueueHistory :=
  { history with
    queue := history.queue.drop producer
    alive := history.alive.erase producer
    references := history.references - 1 }

def dequeue (history : QueueHistory) : QueueHistory :=
  { history with
    queue := history.queue.dequeue.2
    taken := history.taken ++ history.queue.dequeue.1.toList }

/-- A producer can push or be dropped between two additions, and be cloned as long as it is there.
A move that is not possible changes nothing, and none is after the queue is destroyed. -/
def act (history : QueueHistory) (move : QueueMove) : QueueHistory :=
  if history.destroyed.isSome then history
  else
    match move with
    | .push producer record =>
      if history.queue.isIdle producer then history.push producer record else history
    | .count producer =>
      if history.queue.producers[producer]? = some .adding then history.count producer else history
    | .clone producer => if producer ∈ history.alive then history.clone else history
    | .drop producer => if history.queue.isIdle producer then history.drop producer else history
    | .dequeue => history.dequeue
    | .destroy => { history with destroyed := history.queue.destroy? }

def follow (history : QueueHistory) (moves : List QueueMove) : QueueHistory :=
  moves.foldl act history

structure Kept (history : QueueHistory) : Prop where
  order : history.taken ++ history.queue.pending = history.pushed.map Prod.snd
  begun : history.queue.begun = history.pushed.length
  dequeued : history.queue.dequeued = history.taken.length
  alive : ∀ producer, producer ∈ history.alive ↔
    ∃ state, history.queue.producers[producer]? = some state ∧ state ≠ .dropped
  distinct : history.alive.Nodup
  referenced : history.references = history.alive.length + 1
  destroyed : ∀ totals, history.destroyed = some totals → history.queue.destroy? = some totals

variable {history : QueueHistory} {producer : Nat}

theorem kept_start : start.Kept where
  order := rfl
  begun := rfl
  dequeued := rfl
  alive := by
    intro producer
    cases producer <;> simp [start, Queue.empty]
  distinct := by simp [start]
  referenced := rfl
  destroyed := nofun

theorem kept_step (kept : history.Kept) (running : history.destroyed = none)
    {before after : Producer} {added : List Record} {next : Queue}
    (step : Queue.ProducerStep producer history.queue before after added next)
    (owned : history.queue.producers[producer]? = some before) (present : before ≠ .dropped)
    (still : after ≠ .dropped) :
    { history with
      queue := next
      pushed := history.pushed ++ added.map (Prod.mk producer) }.Kept where
  order := by
    simp [Queue.pending_step step, ← List.append_assoc, kept.order, Function.comp_def]
  begun := by
    rw [Queue.begun_step step owned, kept.begun, List.length_append, List.length_map]
  dequeued := (Queue.dequeued_step step).trans kept.dequeued
  alive := by
    intro other
    rw [kept.alive other, Queue.producers_step step owned]
    by_cases own : producer = other
    next =>
      -- It stays in the list of those alive, whatever it is busy with.
      subst own
      have bound := (List.getElem?_eq_some_iff.mp owned).1
      have replaced : (history.queue.producers.set producer after)[producer]? = some after :=
        List.getElem?_set_self bound
      exact iff_of_true ⟨_, owned, present⟩ ⟨_, replaced, still⟩
    next => rw [List.getElem?_set_ne own]
  distinct := kept.distinct
  referenced := kept.referenced
  destroyed := by simp [running]

theorem kept_push (kept : history.Kept) (running : history.destroyed = none)
    (idle : history.queue.isIdle producer) (record : Record) :
    (history.push producer record).Kept :=
  kept_step kept running (.push record) (of_decide_eq_true idle) nofun nofun

theorem kept_count (kept : history.Kept) (running : history.destroyed = none)
    (adding : history.queue.producers[producer]? = some .adding) :
    (history.count producer).Kept := by
  have stepped := kept_step kept running .count adding nofun nofun
  simpa [count] using stepped

theorem kept_clone (kept : history.Kept) (running : history.destroyed = none) :
    history.clone.Kept where
  order := kept.order
  begun := (Queue.begun_clone _).trans kept.begun
  dequeued := kept.dequeued
  alive := by
    intro producer
    simp only [clone, Queue.clone, List.mem_append, List.mem_singleton, kept.alive producer]
    rcases Nat.lt_trichotomy producer history.queue.producers.length with old | new | beyond
    next => simp [List.getElem?_append_left old, Nat.ne_of_lt old]
    next => simp [new]
    next =>
      have before : history.queue.producers[producer]? = none :=
        List.getElem?_eq_none (Nat.le_of_lt beyond)
      have after : (history.queue.producers ++ [Producer.idle])[producer]? = none := by
        rw [List.getElem?_eq_none_iff, List.length_append]
        exact beyond
      simp only [before, after, reduceCtorEq, false_and, exists_false, Nat.ne_of_gt beyond, or_self]
  distinct := by
    -- The numbers of producers that are alive are positions in the list that the clone extends.
    have fresh : history.queue.producers.length ∉ history.alive := by
      intro member
      obtain ⟨state, here, _⟩ := (kept.alive _).mp member
      simp at here
    refine List.nodup_append.mpr ⟨kept.distinct, by simp, ?_⟩
    intro number member other new same
    exact fresh (List.eq_of_mem_singleton new ▸ same ▸ member)
  referenced := by simp [clone, kept.referenced]
  destroyed := by simp [clone, running]

theorem kept_drop (kept : history.Kept) (running : history.destroyed = none)
    (idle : history.queue.isIdle producer) : (history.drop producer).Kept where
  order := kept.order
  begun := (Queue.begun_step .drop (of_decide_eq_true idle)).trans kept.begun
  dequeued := kept.dequeued
  alive := by
    intro other
    simp only [drop, Queue.drop, kept.distinct.mem_erase_iff, kept.alive other]
    by_cases own : producer = other
    next =>
      subst own
      have bound := (List.getElem?_eq_some_iff.mp (of_decide_eq_true idle)).1
      simp [bound]
    next => simp [List.getElem?_set_ne own, Ne.symm own]
  distinct := kept.distinct.erase _
  referenced := by
    have member : producer ∈ history.alive :=
      (kept.alive producer).mpr ⟨_, of_decide_eq_true idle, nofun⟩
    have positive := List.length_pos_of_mem member
    have referenced := kept.referenced
    simp only [drop, List.length_erase_of_mem member]
    omega
  destroyed := by simp [drop, running]

theorem kept_dequeue (kept : history.Kept) (running : history.destroyed = none) :
    history.dequeue.Kept where
  order := by
    have split := Queue.dequeue_split history.queue
    simp only [dequeue, List.append_assoc, split, kept.order]
  begun := (Queue.begun_dequeue _).trans kept.begun
  dequeued := by
    simp only [dequeue, Queue.dequeued_dequeue, List.length_append, kept.dequeued]
  alive := by
    simp only [dequeue, Queue.producers_dequeue]
    exact kept.alive
  distinct := kept.distinct
  referenced := kept.referenced
  destroyed := by simp [dequeue, running]

theorem kept_act (kept : history.Kept) (move : QueueMove) : (history.act move).Kept := by
  unfold act
  split
  next => exact kept
  next running =>
    replace running : history.destroyed = none := by simpa using running
    cases move with
    | push producer record =>
      dsimp only
      split
      next idle => exact kept_push kept running idle record
      next => exact kept
    | count producer =>
      dsimp only
      split
      next adding => exact kept_count kept running adding
      next => exact kept
    | clone producer =>
      dsimp only
      split
      next => exact kept_clone kept running
      next => exact kept
    | drop producer =>
      dsimp only
      split
      next idle => exact kept_drop kept running idle
      next => exact kept
    | dequeue => exact kept_dequeue kept running
    | destroy => exact { kept with destroyed := fun _ same => same }

theorem kept_follow (kept : history.Kept) (moves : List QueueMove) :
    (history.follow moves).Kept := by
  induction moves generalizing history with
  | nil => exact kept
  | cons move rest ih => exact ih (kept_act kept move)

theorem live_eq_zero_iff (kept : history.Kept) : history.queue.live = 0 ↔ history.alive = [] := by
  rw [Queue.live_eq_zero_iff, List.eq_nil_iff_forall_not_mem]
  constructor
  next =>
    intro dropped producer member
    obtain ⟨state, here, present⟩ := (kept.alive producer).mp member
    exact present (dropped state (List.mem_of_getElem? here))
  next =>
    intro none_alive state member
    obtain ⟨producer, here⟩ := List.getElem?_of_mem member
    apply Decidable.byContradiction
    intro present
    exact none_alive producer ((kept.alive producer).mpr ⟨state, here, present⟩)

theorem destroy_isSome_iff (kept : history.Kept) :
    history.queue.destroy?.isSome ↔ history.alive = [] := by
  rw [← live_eq_zero_iff kept]
  unfold Queue.destroy?
  split <;> simp [*]

theorem act_destroy (kept : history.Kept) :
    history.act .destroy = { history with destroyed := history.queue.destroy? } := by
  unfold act
  cases before : history.destroyed with
  | none => rfl
  | some totals =>
    simp only [Option.isSome_some, if_true, kept.destroyed totals before]
    rw [← before]

theorem destroy_totals (kept : history.Kept) {totals : QueueTotals}
    (destroyed : history.queue.destroy? = some totals) :
    totals = ⟨history.pushed.length, history.taken.length, history.queue.pending.length⟩ := by
  unfold Queue.destroy? at destroyed
  split at destroyed
  next none_live =>
    rw [← kept.begun, Queue.begun_of_live none_live, ← kept.dequeued]
    exact (Option.some.inj destroyed).symm
  next => exact nomatch destroyed

theorem taken_in_order (kept : history.Kept) :
    ∃ out, out.map Prod.snd = history.taken ∧ out <+: history.pushed ∧
      ∀ producer : Nat, out.filter (·.1 = producer) <+: history.pushed.filter (·.1 = producer) := by
  have front : history.taken <+: history.pushed.map Prod.snd := ⟨_, kept.order⟩
  refine ⟨history.pushed.take history.taken.length, ?_, List.take_prefix _ _, ?_⟩
  next => rw [List.map_take, ← List.prefix_iff_eq_take.mp front]
  next => exact fun producer => (List.take_prefix _ _).filter _

/-- Nothing is lost, doubled or reordered under any interleaving. A destruction succeeds exactly
when no producer is left, is without effect if it fails, and accounts for every addition. -/
theorem records_kept_in_order (moves : List QueueMove) :
    let history := start.follow moves
    history.taken ++ history.queue.pending = history.pushed.map Prod.snd ∧
      (∃ out, out.map Prod.snd = history.taken ∧ out <+: history.pushed ∧
        ∀ producer : Nat,
          out.filter (·.1 = producer) <+: history.pushed.filter (·.1 = producer)) ∧
      (history.queue.destroy?.isSome ↔ history.alive = []) ∧
      history.references = history.alive.length + 1 ∧
      history.act .destroy = { history with destroyed := history.queue.destroy? } ∧
      (history.alive ≠ [] → history.act .destroy = history) ∧
      ∀ totals, history.queue.destroy? = some totals →
        totals.enqueued = totals.dequeued + totals.freed ∧
          totals.enqueued = history.pushed.length ∧
          totals.dequeued = history.taken.length ∧
          totals.freed = history.queue.pending.length := by
  intro history
  have kept : history.Kept := kept_follow kept_start moves
  have attempt := act_destroy kept
  have possible := destroy_isSome_iff kept
  refine ⟨kept.order, taken_in_order kept, possible, kept.referenced, attempt, ?_, ?_⟩
  next =>
    intro occupied
    have refused : history.queue.destroy? = none := by simpa using mt possible.mp occupied
    have running : history.destroyed = none := by
      cases before : history.destroyed with
      | none => rfl
      | some totals => simp [kept.destroyed totals before] at refused
    rw [attempt, refused, ← running]
  next =>
    intro totals destroyed
    rw [destroy_totals kept destroyed]
    have split := congrArg List.length kept.order
    simp only [List.length_append, List.length_map] at split
    exact ⟨split.symm, rfl, rfl, rfl⟩

-- A record can be taken before it is counted.
example (record : Record) :
    (start.follow [.push 0 record, .dequeue]).queue = ⟨[], 0, 1, [.adding]⟩ := rfl

end QueueHistory

end FlowProbe
