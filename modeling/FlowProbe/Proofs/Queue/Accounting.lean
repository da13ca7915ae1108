import FlowProbe.Queue

set_option autoImplicit false

namespace FlowProbe

namespace Queue

-- One step of the owner of a producer: from one state of that producer to another, with the
-- records it adds.
inductive ProducerStep (number : Nat) (queue : Queue) :
    Producer → Producer → List Record → Queue → Prop where
  | rest (state : Producer) : ProducerStep number queue state state [] queue
  | push (record : Record) :
    ProducerStep number queue .idle .adding [record] (queue.push number record)
  | count : ProducerStep number queue .adding .idle [] (queue.count number)
  | drop : ProducerStep number queue .idle .dropped [] (queue.drop number)

def adding (queue : Queue) : Nat :=
  queue.producers.count .adding

def Counted (queue : Queue) : Prop :=
  queue.enqueued + queue.adding = queue.dequeued + queue.pending.length

variable {number : Nat} {queue next : Queue} {before after : Producer} {added : List Record}

theorem producers_step (step : ProducerStep number queue before after added next)
    (owned : queue.producers[number]? = some before) :
    next.producers = queue.producers.set number after := by
  cases step with
  | rest =>
    obtain ⟨bound, here⟩ := List.getElem?_eq_some_iff.mp owned
    rw [← here, List.set_getElem_self]
  | push record => rfl
  | count => rfl
  | drop => rfl

theorem dequeued_step (step : ProducerStep number queue before after added next) :
    next.dequeued = queue.dequeued := by
  cases step <;> rfl

theorem pending_step (step : ProducerStep number queue before after added next) :
    next.pending = queue.pending ++ added := by
  cases step with
  | push record => rfl
  | rest => exact (List.append_nil _).symm
  | count => exact (List.append_nil _).symm
  | drop => exact (List.append_nil _).symm

theorem adding_step (step : ProducerStep number queue before after added next)
    (owned : queue.producers[number]? = some before) :
    next.adding + (if before = .adding then 1 else 0) =
      queue.adding + if after = .adding then 1 else 0 := by
  obtain ⟨bound, here⟩ := List.getElem?_eq_some_iff.mp owned
  -- The producer that is overwritten is one of those counted, so nothing is cut off at zero.
  have present : (if before = .adding then 1 else 0) ≤ queue.producers.count .adding := by
    split
    next same => exact List.count_pos_iff.mpr (same ▸ List.mem_of_getElem? owned)
    next => exact Nat.zero_le _
  unfold adding
  rw [producers_step step owned, List.count_set bound, here]
  simp only [beq_iff_eq]
  omega

theorem counted_step (counted : queue.Counted)
    (step : ProducerStep number queue before after added next)
    (owned : queue.producers[number]? = some before) : next.Counted := by
  have moved := adding_step step owned
  have longer := congrArg List.length (pending_step step)
  rw [List.length_append] at longer
  have kept := dequeued_step step
  unfold Counted at counted ⊢
  cases step with
  | rest => exact counted
  | push record =>
    have same : (queue.push number record).enqueued = queue.enqueued := rfl
    simp only [reduceCtorEq, if_false, if_true, List.length_singleton] at moved longer
    omega
  | count =>
    have more : (queue.count number).enqueued = queue.enqueued + 1 := rfl
    simp only [reduceCtorEq, if_false, if_true, List.length_nil] at moved longer
    omega
  | drop =>
    have same : (queue.drop number).enqueued = queue.enqueued := rfl
    simp only [reduceCtorEq, if_false, List.length_nil] at moved longer
    omega

theorem counted_dequeue (counted : queue.Counted) : queue.dequeue.2.Counted := by
  unfold Counted dequeue at *
  cases pending : queue.pending with
  | nil => simpa [pending] using counted
  | cons record rest =>
    simp [pending, adding] at counted ⊢
    omega

theorem producers_dequeue (queue : Queue) : queue.dequeue.2.producers = queue.producers := by
  unfold dequeue
  split <;> rfl

theorem live_eq_zero_iff (queue : Queue) :
    queue.live = 0 ↔ ∀ state ∈ queue.producers, state = .dropped := by
  simp [live, List.countP_eq_zero]

theorem destroyed_of_live (none_live : queue.live = 0) :
    ∃ totals, queue.destroy? = some totals := by
  unfold destroy?
  rw [if_pos none_live]
  exact ⟨_, rfl⟩

theorem live_drop_appended {queue after : Queue} {gone own : Nat}
    (producers : after.producers = queue.producers ++ List.replicate gone .dropped)
    (alone : (queue.drop own).live = 0) : (after.drop own).live = 0 := by
  rw [live_eq_zero_iff] at alone ⊢
  intro state member
  change state ∈ after.producers.set own .dropped at member
  rw [producers] at member
  by_cases inside : own < queue.producers.length
  next =>
    rw [List.set_append_left _ _ inside] at member
    rcases List.mem_append.mp member with before | added
    next => exact alone state before
    next => exact List.eq_of_mem_replicate added
  next =>
    have beyond := Nat.le_of_not_lt inside
    rw [List.set_append_right _ _ beyond] at member
    rcases List.mem_append.mp member with before | added
    next =>
      apply alone
      change state ∈ queue.producers.set own .dropped
      rwa [List.set_eq_of_length_le beyond]
    next =>
      rcases List.mem_or_eq_of_mem_set added with old | new
      next => exact List.eq_of_mem_replicate old
      next => exact new

theorem destroy_accounts {totals : QueueTotals} (counted : queue.Counted)
    (destroyed : queue.destroy? = some totals) :
    totals.dequeued = queue.dequeued ∧ totals.enqueued = totals.dequeued + totals.freed := by
  unfold destroy? at destroyed
  split at destroyed
  next none_live =>
    have idle : queue.adding = 0 := by
      unfold adding
      rw [List.count_eq_zero]
      intro member
      exact absurd ((live_eq_zero_iff queue).mp none_live _ member) (by decide)
    cases Option.some.inj destroyed
    unfold Counted at counted
    exact ⟨rfl, by simpa [idle] using counted⟩
  next => exact nomatch destroyed

end Queue

end FlowProbe
