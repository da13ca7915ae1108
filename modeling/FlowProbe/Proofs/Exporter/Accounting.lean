import FlowProbe.Exporter
import FlowProbe.Proofs.Queue.Accounting

set_option autoImplicit false

namespace FlowProbe

variable {τ : Type}

def Transport.Returns (transport : Transport τ) : Prop :=
  ∀ state record, (transport.offer state record).1 ≠ .crashed

namespace ExporterStats

def settled (stats : ExporterStats) : Nat :=
  stats.sent + stats.dropped

@[simp]
theorem settled_discard (stats : ExporterStats) (lost : Nat) :
    (stats.discard lost).settled = stats.settled :=
  discard_total stats lost

theorem settled_drop (stats : ExporterStats) :
    { stats with dropped := stats.dropped + 1 }.settled = stats.settled + 1 :=
  (Nat.add_assoc _ _ _).symm

theorem settled_reply (stats : ExporterStats) (reply : Reply) :
    (stats.afterReply reply).settled = stats.settled + if reply = .accepted then 1 else 0 := by
  cases reply with
  | accepted =>
    simp only [afterReply, settled, if_true]
    omega
  | refused failure => rfl
  | crashed => rfl

end ExporterStats

namespace Exporter

def inHand (exporter : Exporter τ) : List Record :=
  match exporter.phase with
  | .offering record => [record]
  | .refused record => [record]
  | _ => []

def upcoming (exporter : Exporter τ) : List Record :=
  match exporter.phase with
  | .offering record => [record]
  | _ => []

def Accounted (exporter : Exporter τ) (queue : Queue) : Prop :=
  exporter.phase ≠ .crashed ∧
    exporter.stats.settled + exporter.inHand.length = queue.dequeued

variable {transport : Transport τ} {exporter : Exporter τ} {queue : Queue}

theorem accounted_start (state : τ) (untouched : queue.dequeued = 0) :
    (start state).Accounted queue := by
  refine ⟨?_, ?_⟩
  next => exact nofun
  next => exact untouched.symm

theorem accounted_offer (returns : transport.Returns) (exporter : Exporter τ) (record : Record) :
    (exporter.offer transport record).phase ≠ .crashed ∧
      (exporter.offer transport record).stats.settled +
        (exporter.offer transport record).inHand.length = exporter.stats.settled + 1 := by
  have sturdy := returns exporter.transport record
  unfold offer
  cases answer : transport.offer exporter.transport record with
  | mk reply state =>
    rw [answer] at sturdy
    -- What the transport has lost moves from one counter to the other, so the sum hides it.
    have gain := exporter.stats.settled_reply reply
    cases reply with
    | accepted => simpa [inHand] using gain
    | refused failure =>
      cases failure with
      | wouldBlock => simpa [inHand] using gain
      | fatal cause =>
        refine ⟨nofun, (ExporterStats.settled_drop _).trans ?_⟩
        simpa using gain
    | crashed => exact absurd rfl sturdy

theorem accounted_step (returns : transport.Returns) (accounted : exporter.Accounted queue)
    (raised : Bool) :
    (exporter.step transport raised queue).1.Accounted (exporter.step transport raised queue).2 := by
  obtain ⟨intact, balance⟩ := accounted
  unfold step
  cases phase : exporter.phase with
  | polling =>
    rw [inHand, phase] at balance
    cases waiting : queue.pending with
    | nil => simpa [Queue.dequeue, waiting, Accounted, inHand] using balance
    | cons record rest => simpa [Queue.dequeue, waiting, Accounted, inHand] using balance
  | starved =>
    rw [inHand, phase] at balance
    cases raised with
    | true =>
      refine ⟨nofun, ?_⟩
      simpa [close, inHand] using balance
    | false => simpa [Accounted, inHand] using balance
  | offering record =>
    rw [inHand, phase] at balance
    obtain ⟨whole, settled⟩ := accounted_offer returns exporter record
    exact ⟨whole, settled.trans balance⟩
  | refused record =>
    rw [inHand, phase] at balance
    cases raised with
    | true => exact ⟨nofun, (ExporterStats.settled_drop _).trans balance⟩
    | false => exact ⟨nofun, balance⟩
  | finished => exact ⟨intact, balance⟩
  | crashed => exact absurd phase intact

theorem queue_step (transport : Transport τ) (raised : Bool) (exporter : Exporter τ)
    (queue : Queue) :
    (exporter.step transport raised queue).2 =
      if exporter.phase = .polling then queue.dequeue.2 else queue := by
  unfold step
  cases phase : exporter.phase with
  | polling => cases waiting : queue.pending <;> simp [Queue.dequeue, waiting]
  | starved => cases raised <;> rfl
  | offering record => rfl
  | refused record => cases raised <;> rfl
  | finished => rfl
  | crashed => rfl

theorem phase_offer (transport : Transport τ) (exporter : Exporter τ) (record : Record) :
    (exporter.offer transport record).phase = .polling ∨
      (exporter.offer transport record).phase = .refused record ∨
      (exporter.offer transport record).phase = .crashed := by
  unfold offer
  rcases transport.offer exporter.transport record with ⟨reply, state⟩
  cases reply with
  | accepted => exact .inl rfl
  | refused failure =>
    cases failure with
    | wouldBlock => exact .inr (.inl rfl)
    | fatal cause => exact .inl rfl
  | crashed => exact .inr (.inr rfl)

theorem finished_step (transport : Transport τ) (raised : Bool) (exporter : Exporter τ)
    (queue : Queue) (finished : (exporter.step transport raised queue).1.phase = .finished) :
    exporter.phase = .finished ∨ raised = true := by
  unfold step at finished
  cases phase : exporter.phase with
  | polling =>
    rw [phase] at finished
    cases waiting : queue.pending <;> simp [Queue.dequeue, waiting] at finished
  | starved =>
    rw [phase] at finished
    cases raised with
    | true => exact .inr rfl
    | false => exact nomatch finished
  | offering record =>
    rw [phase] at finished
    simp only at finished
    rcases phase_offer transport exporter record with same | same | same <;>
      exact nomatch same.symm.trans finished
  | refused record =>
    rw [phase] at finished
    cases raised with
    | true => exact .inr rfl
    | false => exact nomatch finished
  | finished => exact .inl rfl
  | crashed =>
    rw [phase] at finished
    exact .inl (phase ▸ finished)

theorem step_ended (ended : exporter.hasEnded) (transport : Transport τ) (raised : Bool)
    (queue : Queue) : exporter.step transport raised queue = (exporter, queue) := by
  unfold step
  rcases of_decide_eq_true ended with phase | phase
  next => simp only [phase]
  next => simp only [phase]

theorem inHand_ended (ended : exporter.hasEnded) : exporter.inHand = [] := by
  unfold inHand
  rcases of_decide_eq_true ended with phase | phase
  next => simp only [phase]
  next => simp only [phase]

end Exporter

end FlowProbe
