import FlowProbe.Proofs.Exporter.Accounting

set_option autoImplicit false

namespace FlowProbe

variable {τ : Type}

inductive ExportEvent where
  | took (record : Record)
  | offered (record : Record) (reply : Reply)
  -- A look at the stop request, after an attempt that should be made again.
  | looked (raised : Bool)

namespace ExportEvent

def took? : ExportEvent → Option Record
  | .took record => some record
  | _ => none

def attempt? : ExportEvent → Option (Record × Reply)
  | .offered record reply => some (record, reply)
  | _ => none

def accepts : ExportEvent → Bool
  | .offered _ reply => reply = .accepted
  | _ => false

def fails : ExportEvent → Bool
  | .offered _ (.refused (.fatal _)) => true
  | _ => false

-- The record in hand is not tried again, as the stop request is found raised.
def givesUp : ExportEvent → Bool
  | .looked raised => raised
  | _ => false

end ExportEvent

namespace ExporterStats

/-- What a step makes of the counters when the transport reports losses. Records accepted count as
sent first, and no more of those sent are taken back than there are. -/
structure Transfer (before after : ExporterStats) (reported accepted givenUp : Nat) : Prop where
  sent : after.sent + min reported (before.sent + accepted) = before.sent + accepted
  dropped : after.dropped = before.dropped + min reported (before.sent + accepted) + givenUp
  once : accepted + givenUp ≤ 1

theorem transfer_none (stats : ExporterStats) : stats.Transfer stats 0 0 0 :=
  ⟨by simp, by simp, Nat.zero_le _⟩

theorem transfer_retried (stats : ExporterStats) (retried : Nat) :
    stats.Transfer { stats with retried } 0 0 0 :=
  ⟨by simp, by simp, Nat.zero_le _⟩

theorem transfer_drop (stats : ExporterStats) :
    stats.Transfer { stats with dropped := stats.dropped + 1 } 0 0 1 :=
  ⟨by simp, by simp, Nat.le_refl _⟩

theorem transfer_discard (stats : ExporterStats) (lost : Nat) :
    stats.Transfer (stats.discard lost) lost 0 0 := by
  refine ⟨?_, rfl, Nat.zero_le _⟩
  simp only [discard]
  omega

theorem transfer_accepted (stats : ExporterStats) (lost : Nat) :
    stats.Transfer ((stats.afterReply .accepted).discard lost) lost 1 0 := by
  refine ⟨?_, rfl, Nat.le_refl _⟩
  simp only [discard, afterReply]
  omega

theorem transfer_fatal (stats : ExporterStats) (lost : Nat) :
    stats.Transfer { stats.discard lost with dropped := (stats.discard lost).dropped + 1 }
      lost 0 1 :=
  ⟨(transfer_discard stats lost).sent, rfl, Nat.le_refl _⟩

end ExporterStats

namespace Exporter

def events (transport : Transport τ) (raised : Bool) (exporter : Exporter τ) (queue : Queue) :
    List ExportEvent :=
  match exporter.phase with
  | .polling => queue.dequeue.1.toList.map .took
  | .offering record => [.offered record (transport.offer exporter.transport record).1]
  | .refused _ => [.looked raised]
  | _ => []

def reported (transport : Transport τ) (raised : Bool) (exporter : Exporter τ) : Nat :=
  match exporter.phase with
  | .offering record =>
    (transport.takeDiscarded (transport.offer exporter.transport record).2).1
  | .starved => if raised then (transport.finish exporter.transport).1 else 0
  | _ => 0

variable {transport : Transport τ} {exporter : Exporter τ} {queue : Queue}

theorem transfer_offer (record : Record)
    (answered : (transport.offer exporter.transport record).1 ≠ .crashed) :
    let event := ExportEvent.offered record (transport.offer exporter.transport record).1
    exporter.stats.Transfer (exporter.offer transport record).stats
      (transport.takeDiscarded (transport.offer exporter.transport record).2).1
      ([event].countP ExportEvent.accepts)
      ([event].countP ExportEvent.fails + [event].countP ExportEvent.givesUp) := by
  unfold offer
  cases answer : transport.offer exporter.transport record with
  | mk reply state =>
    rw [answer] at answered
    cases reply with
    | accepted => exact exporter.stats.transfer_accepted _
    | refused failure =>
      cases failure with
      | wouldBlock => exact exporter.stats.transfer_discard _
      | fatal cause => exact exporter.stats.transfer_fatal _
    | crashed => exact absurd rfl answered

theorem transfer_events (raised : Bool) (queue : Queue)
    (answered : ∀ record, exporter.phase = .offering record →
      (transport.offer exporter.transport record).1 ≠ .crashed) :
    let events := exporter.events transport raised queue
    exporter.stats.Transfer (exporter.step transport raised queue).1.stats
      (exporter.reported transport raised) (events.countP ExportEvent.accepts)
      (events.countP ExportEvent.fails + events.countP ExportEvent.givesUp) := by
  unfold step reported events
  cases phase : exporter.phase with
  | polling =>
    cases waiting : queue.pending <;> simp only [Queue.dequeue, waiting] <;>
      exact exporter.stats.transfer_none
  | starved =>
    cases raised with
    | true => exact exporter.stats.transfer_discard _
    | false => exact exporter.stats.transfer_none
  | offering record => exact transfer_offer record (answered record phase)
  | refused record =>
    cases raised with
    | true => exact exporter.stats.transfer_drop
    | false => exact exporter.stats.transfer_retried _
  | finished => exact exporter.stats.transfer_none
  | crashed => exact exporter.stats.transfer_none

theorem transfer_step (returns : transport.Returns) (exporter : Exporter τ) (raised : Bool)
    (queue : Queue) :
    ∃ accepted givenUp, exporter.stats.Transfer (exporter.step transport raised queue).1.stats
      (exporter.reported transport raised) accepted givenUp :=
  ⟨_, _, transfer_events raised queue fun record _ => returns _ record⟩

theorem inHand_settled (settled : exporter.phase = .polling ∨ exporter.phase = .starved ∨
    exporter.phase = .finished) : exporter.inHand = [] := by
  unfold inHand
  rcases settled with phase | phase | phase <;> simp only [phase]

theorem ended_of_finished (finished : exporter.phase = .finished) : exporter.hasEnded := by
  simp [hasEnded, finished]

theorem starved_step {raised : Bool}
    (finished : (exporter.step transport raised queue).1.phase = .finished)
    (running : exporter.phase ≠ .finished) :
    exporter.phase = .starved ∧ raised = true ∧
      exporter.step transport raised queue = (exporter.close transport, queue) := by
  -- It ends on request only, and a request is looked at when the queue was found empty.
  have asked := (finished_step transport raised exporter queue finished).resolve_left running
  subst asked
  unfold step at finished ⊢
  cases phase : exporter.phase with
  | polling =>
    rw [phase] at finished
    cases waiting : queue.pending <;> simp [Queue.dequeue, waiting] at finished
  | starved => exact ⟨rfl, rfl, rfl⟩
  | offering record =>
    rw [phase] at finished
    simp only at finished
    rcases phase_offer transport exporter record with same | same | same <;>
      cases same.symm.trans finished
  | refused record =>
    rw [phase] at finished
    cases finished
  | finished => exact absurd phase running
  | crashed =>
    rw [phase] at finished
    cases phase.symm.trans finished

end Exporter

-- What happens to a queue while an exporter drains it, the stop request, and the exporter's own steps.
inductive ExportMove where
  | push (producer : Nat) (record : Record)
  | count (producer : Nat)
  | clone
  | drop (producer : Nat)
  | stop
  | step

structure ExportRun (τ : Type) where
  exporter : Exporter τ
  queue : Queue
  stopRaised : Bool

namespace ExportRun

def start (state : τ) (queue : Queue) (stopRaised : Bool) : ExportRun τ :=
  ⟨.start state, queue, stopRaised⟩

def act (transport : Transport τ) (run : ExportRun τ) : ExportMove → ExportRun τ
  | .push producer record => { run with queue := run.queue.push producer record }
  | .count producer => { run with queue := run.queue.count producer }
  | .clone => { run with queue := run.queue.clone }
  | .drop producer => { run with queue := run.queue.drop producer }
  | .stop => { run with stopRaised := true }
  | .step =>
    let (exporter, queue) := run.exporter.step transport run.stopRaised run.queue
    { run with exporter, queue }

def follow (transport : Transport τ) (run : ExportRun τ) (moves : List ExportMove) :
    ExportRun τ :=
  moves.foldl (act transport) run

variable {transport : Transport τ} {first run : ExportRun τ} {moves : List ExportMove}

theorem accounted_act (returns : transport.Returns) (accounted : run.exporter.Accounted run.queue)
    (move : ExportMove) :
    (run.act transport move).exporter.Accounted (run.act transport move).queue := by
  cases move with
  | step => exact Exporter.accounted_step returns accounted run.stopRaised
  | push producer record => exact accounted
  | count producer => exact accounted
  | clone => exact accounted
  | drop producer => exact accounted
  | stop => exact accounted

theorem accounted_follow (returns : transport.Returns)
    (accounted : run.exporter.Accounted run.queue) (moves : List ExportMove) :
    (run.follow transport moves).exporter.Accounted (run.follow transport moves).queue := by
  induction moves generalizing run with
  | nil => exact accounted
  | cons move rest ih => exact ih (accounted_act returns accounted move)

theorem exporter_ended (ended : run.exporter.hasEnded) (moves : List ExportMove) :
    (run.follow transport moves).exporter = run.exporter := by
  induction moves generalizing run with
  | nil => rfl
  | cons move rest ih =>
    have same : (run.act transport move).exporter = run.exporter := by
      cases move with
      | step =>
        exact congrArg Prod.fst (Exporter.step_ended ended transport run.stopRaised run.queue)
      | _ => rfl
    exact (ih (same ▸ ended)).trans same

theorem follow_append (transport : Transport τ) (run : ExportRun τ) (moves more : List ExportMove) :
    run.follow transport (moves ++ more) = (run.follow transport moves).follow transport more := by
  simp [follow]

theorem crashed_stays (crashed : run.exporter.phase = .crashed) (moves : List ExportMove) :
    (run.follow transport moves).exporter.phase = .crashed := by
  rw [exporter_ended (by simp [Exporter.hasEnded, crashed]) moves]
  exact crashed

theorem whole_earlier {earlier : List ExportMove} (within : earlier <+: moves)
    (whole : (first.follow transport moves).exporter.phase ≠ .crashed) :
    (first.follow transport earlier).exporter.phase ≠ .crashed := by
  intro crashed
  apply whole
  obtain ⟨later, rfl⟩ := within
  rw [follow_append]
  exact crashed_stays crashed later

theorem closing_step {moves : List ExportMove} (running : run.exporter.phase ≠ .finished)
    (finished : (run.follow transport moves).exporter.phase = .finished) :
    ∃ earlier later, moves = earlier ++ .step :: later ∧
      (run.follow transport earlier).exporter.phase = .starved ∧
      (run.follow transport earlier).stopRaised = true ∧
      (run.follow transport moves).exporter =
        (run.follow transport earlier).exporter.close transport := by
  induction moves generalizing run with
  | nil => exact absurd finished running
  | cons move rest ih =>
    by_cases ended : (run.act transport move).exporter.phase = .finished
    next =>
      have later : (run.follow transport (move :: rest)).exporter =
          (run.act transport move).exporter := exporter_ended (Exporter.ended_of_finished ended) rest
      cases move with
      | step =>
        obtain ⟨starved, raised, closed⟩ := Exporter.starved_step ended running
        exact ⟨[], rest, rfl, starved, raised, later.trans (congrArg Prod.fst closed)⟩
      | _ => exact absurd ended running
    next =>
      obtain ⟨earlier, later, split, starved, raised, closed⟩ := ih ended finished
      exact ⟨move :: earlier, later, congrArg _ split, starved, raised, closed⟩

/-- For any transport, also one that reports more losses than it has accepted. At every moment the
records taken from the queue are those sent, those dropped and the one in hand, and with none in hand
the two counters alone. What a step takes back from the records sent it adds to those dropped. -/
theorem statistics_balance (returns : transport.Returns) (state : τ) {queue : Queue}
    (untouched : queue.dequeued = 0) (stopRaised : Bool) (moves : List ExportMove) :
    let run := (start state queue stopRaised).follow transport moves
    let next := run.act transport .step
    run.exporter.stats.sent + run.exporter.stats.dropped + run.exporter.inHand.length =
        run.queue.dequeued ∧
      (run.exporter.phase = .polling ∨ run.exporter.phase = .starved ∨
          run.exporter.phase = .finished →
        run.exporter.stats.sent + run.exporter.stats.dropped = run.queue.dequeued) ∧
      ∃ accepted givenUp, run.exporter.stats.Transfer next.exporter.stats
        (run.exporter.reported transport run.stopRaised) accepted givenUp := by
  intro run next
  have accounted : run.exporter.Accounted run.queue :=
    accounted_follow returns (Exporter.accounted_start state untouched) moves
  refine ⟨accounted.2, ?_, ?_⟩
  next =>
    intro settled
    have balance := accounted.2
    rw [Exporter.inHand_settled settled] at balance
    exact balance
  next => exact Exporter.transfer_step returns run.exporter run.stopRaised run.queue

-- Refuses every third record, and reports seven losses then and when it is closed.
def hoarding : Transport Nat where
  offer := fun attempts _ =>
    (if attempts % 3 = 2 then .refused .wouldBlock else .accepted, attempts + 1)
  takeDiscarded := fun attempts => (if attempts % 3 = 0 then 7 else 0, attempts)
  close := fun attempts => 3 * attempts

theorem hoarding_returns : hoarding.Returns := by
  intro attempts record
  change (if attempts % 3 = 2 then Reply.refused .wouldBlock else .accepted) ≠ .crashed
  split <;> exact nofun

-- The second record comes in after the first was accepted, and is offered twice.
def hoardingMoves : List ExportMove :=
  [.step, .step, .push 0 ⟨[2]⟩, .count 0, .drop 0, .step, .step, .step, .step, .stop, .step, .step]

def hoardingRun : ExportRun Nat :=
  (start 1 ⟨[⟨[1]⟩], 1, 0, [.idle]⟩ false).follow hoarding hoardingMoves

theorem hoarding_statistics_balance :
    hoarding.Returns ∧ hoardingRun.exporter.phase = .finished ∧
      hoardingRun.exporter.stats = ⟨0, 1, 2⟩ ∧
      hoardingRun.exporter.stats.sent + hoardingRun.exporter.stats.dropped =
        hoardingRun.queue.dequeued := by
  have finished : hoardingRun.exporter.phase = .finished := by decide
  have counters : hoardingRun.exporter.stats = ⟨0, 1, 2⟩ := by decide
  refine ⟨hoarding_returns, finished, counters, ?_⟩
  unfold hoardingRun at finished ⊢
  exact (statistics_balance hoarding_returns 1 rfl false hoardingMoves).2.1 (.inr (.inr finished))

end ExportRun

end FlowProbe
