import FlowProbe.Proofs.Exporter.Run
import FlowProbe.Proofs.Transport.Delivery

set_option autoImplicit false

namespace FlowProbe

namespace FramedLink

-- A connection just opened, before all that its sockets are going to do.
def start (limit : Nat) (conditions : List SendConditions) (lingering : List WriteOutcome) :
    FramedLink :=
  ⟨.connected limit, conditions, lingering⟩

theorem transport_returns : transport.Returns := fun link record =>
  Framed.attempt_answered
    (Framed.attempt_send link.connection record (link.conditions.headD {}))

-- A record is held as long as it is not lost.
def held (link : FramedLink) : Nat :=
  link.connection.written + link.connection.pending.length

structure Settled (link : FramedLink) : Prop where
  sound : link.connection.Sound
  quiet : link.connection.discarded = 0

theorem settled_offer {link : FramedLink} (settled : link.Settled) (record : Record) :
    let offered := transport.offer link record
    let asked := transport.takeDiscarded offered.2
    asked.2.Settled ∧ asked.2.lingering = link.lingering ∧
      asked.2.held + asked.1 = link.held + if offered.1 = .accepted then 1 else 0 := by
  intro offered asked
  have attempt := Framed.attempt_send link.connection record (link.conditions.headD {})
  obtain ⟨sound, -, total, -⟩ := Framed.entrusted_attempt attempt settled.sound
  refine ⟨⟨Framed.sound_takeDiscarded sound, rfl⟩, rfl, ?_⟩
  have quiet := settled.quiet
  unfold Framed.entrusted at total
  rw [quiet] at total
  exact total

end FramedLink

namespace Exporter

theorem offer_answered {τ : Type} {transport : Transport τ} {exporter : Exporter τ}
    {record : Record} (answered : (transport.offer exporter.transport record).1 ≠ .crashed) :
    let offered := transport.offer exporter.transport record
    let asked := transport.takeDiscarded offered.2
    (exporter.offer transport record).transport = asked.2 ∧
      (exporter.offer transport record).stats.sent =
        ((exporter.stats.afterReply offered.1).discard asked.1).sent := by
  unfold offer
  revert answered
  generalize transport.offer exporter.transport record = offered
  obtain ⟨reply, state⟩ := offered
  intro answered
  cases reply with
  | accepted => exact ⟨rfl, rfl⟩
  | refused failure => cases failure <;> exact ⟨rfl, rfl⟩
  | crashed => exact absurd rfl answered

variable {exporter : Exporter FramedLink}

structure Honest (exporter : Exporter FramedLink) : Prop where
  settled : exporter.transport.Settled
  sent : exporter.stats.sent = exporter.transport.held

theorem honest_start (limit : Nat) (conditions : List SendConditions)
    (lingering : List WriteOutcome) :
    (start (FramedLink.start limit conditions lingering)).Honest :=
  ⟨⟨Framed.sound_connected limit, rfl⟩, rfl⟩

theorem honest_offer (honest : exporter.Honest) (record : Record) :
    (exporter.offer FramedLink.transport record).Honest ∧
      (exporter.offer FramedLink.transport record).transport.lingering =
        exporter.transport.lingering := by
  obtain ⟨settled, lingering, total⟩ := FramedLink.settled_offer honest.settled record
  obtain ⟨state, sent⟩ :=
    offer_answered (FramedLink.transport_returns exporter.transport record)
  rw [← state] at settled lingering total
  refine ⟨⟨settled, ?_⟩, lingering⟩
  have before := honest.sent
  rw [sent]
  revert total
  generalize (FramedLink.transport.offer exporter.transport record).1 = reply
  intro total
  -- All that was lost had counted as sent, so the counter has room for it.
  by_cases accepted : reply = .accepted
  next =>
    rw [if_pos accepted] at total
    simp only [accepted, ExporterStats.discard, ExporterStats.afterReply]
    omega
  next =>
    rw [if_neg accepted] at total
    have same : exporter.stats.afterReply reply = exporter.stats := by
      cases reply <;> first | rfl | exact absurd rfl accepted
    simp only [same, ExporterStats.discard]
    omega

theorem honest_step (honest : exporter.Honest) (raised : Bool) (queue : Queue)
    (running : (exporter.step FramedLink.transport raised queue).1.phase ≠ .finished) :
    (exporter.step FramedLink.transport raised queue).1.Honest ∧
      (exporter.step FramedLink.transport raised queue).1.transport.lingering =
        exporter.transport.lingering := by
  revert running
  unfold step
  cases phase : exporter.phase with
  | polling =>
    cases waiting : queue.pending <;> simp only [Queue.dequeue, waiting] <;>
      exact fun _ => ⟨⟨honest.settled, honest.sent⟩, trivial⟩
  | starved =>
    cases raised with
    | true => exact fun running => absurd rfl running
    | false => exact fun _ => ⟨⟨honest.settled, honest.sent⟩, rfl⟩
  | offering record => exact fun _ => honest_offer honest record
  | refused record => cases raised <;> exact fun _ => ⟨⟨honest.settled, honest.sent⟩, rfl⟩
  | finished => exact fun running => absurd phase running
  | crashed => exact fun _ => ⟨honest, rfl⟩

theorem sent_close (honest : exporter.Honest) :
    let last := exporter.transport.connection
    let lingering := exporter.transport.lingering
    let closed := exporter.close FramedLink.transport
    closed.transport.connection = (last.close lingering).takeDiscarded.2 ∧
      closed.transport.connection.wire = none ∧
      closed.stats.sent ≤ closed.transport.connection.delivered ∧
      ((last.linger lingering).1 = .ok () ∨ last.pending = [] →
        closed.stats.sent = closed.transport.connection.delivered) := by
  intro last lingering closed
  have sound : last.Sound := honest.settled.sound
  have quiet : last.discarded = 0 := honest.settled.quiet
  have sent : exporter.stats.sent = last.written + last.pending.length := honest.sent
  obtain ⟨tallied, down, written⟩ := Framed.close_cases sound lingering
  have whole : (last.close lingering).delivered = (last.close lingering).written :=
    Framed.delivered_of_tallied tallied
  have got : closed.transport.connection.delivered = (last.close lingering).written := whole
  have left : closed.stats.sent =
      exporter.stats.sent - min (last.close lingering).discarded exporter.stats.sent := rfl
  refine ⟨rfl, down, ?_, ?_⟩
  -- What was pending is on the wire or counted as lost. In the second case the exporter takes back all
  -- of it, also the messages that were written before the connection broke.
  next => rcases written with ⟨all, none_lost⟩ | ⟨-, more, lost⟩ <;> omega
  next =>
    intro complete
    rcases written with ⟨all, none_lost⟩ | ⟨failed, -, -⟩
    next => omega
    next =>
      rcases complete with lingered | idle
      next => exact absurd lingered failed
      next => exact absurd (Framed.linger_idle idle lingering) failed

end Exporter

namespace ExportRun

variable {run : ExportRun FramedLink}

theorem honest_act (honest : run.exporter.Honest) (move : ExportMove)
    (running : (run.act FramedLink.transport move).exporter.phase ≠ .finished) :
    (run.act FramedLink.transport move).exporter.Honest ∧
      (run.act FramedLink.transport move).exporter.transport.lingering =
        run.exporter.transport.lingering := by
  cases move with
  | step => exact Exporter.honest_step honest run.stopRaised run.queue running
  | push producer record => exact ⟨honest, rfl⟩
  | count producer => exact ⟨honest, rfl⟩
  | clone => exact ⟨honest, rfl⟩
  | drop producer => exact ⟨honest, rfl⟩
  | stop => exact ⟨honest, rfl⟩

theorem honest_follow (honest : run.exporter.Honest) (moves : List ExportMove)
    (running : (run.follow FramedLink.transport moves).exporter.phase ≠ .finished) :
    (run.follow FramedLink.transport moves).exporter.Honest ∧
      (run.follow FramedLink.transport moves).exporter.transport.lingering =
        run.exporter.transport.lingering := by
  induction moves generalizing run with
  | nil => exact ⟨honest, rfl⟩
  | cons move rest ih =>
    have first : (run.act FramedLink.transport move).exporter.phase ≠ .finished := by
      intro ended
      apply running
      exact (exporter_ended (Exporter.ended_of_finished ended) rest).symm ▸ ended
    obtain ⟨honest', lingering⟩ := honest_act honest move first
    obtain ⟨honest'', lingering'⟩ := ih honest' running
    exact ⟨honest'', lingering'.trans lingering⟩

/-- A run over a framed connection, whatever the sockets do and whenever the stop request comes. All
records taken are sent or dropped. As many as are sent can be read by the collector, also after the
connection is closed once more, and no others if nothing was left to lose when it was closed. -/
theorem sent_within_delivered {queue : Queue} (untouched : queue.dequeued = 0) (stopRaised : Bool)
    (limit : Nat) (conditions : List SendConditions) (lingering : List WriteOutcome)
    (moves : List ExportMove)
    (finished : ((start (FramedLink.start limit conditions lingering) queue stopRaised).follow
      FramedLink.transport moves).exporter.phase = .finished) :
    let first := start (FramedLink.start limit conditions lingering) queue stopRaised
    let run := first.follow FramedLink.transport moves
    let final := run.exporter.transport.connection
    run.exporter.stats.sent + run.exporter.stats.dropped = run.queue.dequeued ∧
      run.exporter.stats.sent ≤ final.delivered ∧
      (∀ outcomes, final.close outcomes = final) ∧
      ∃ earlier later, moves = earlier ++ .step :: later ∧
        let closing := first.follow FramedLink.transport earlier
        let last := closing.exporter.transport.connection
        closing.exporter.phase = .starved ∧ closing.stopRaised = true ∧
          final = (last.close lingering).takeDiscarded.2 ∧
          ((last.linger lingering).1 = .ok () ∨ last.pending = [] →
            run.exporter.stats.sent = final.delivered) := by
  intro first run final
  have accounted : run.exporter.Accounted run.queue :=
    accounted_follow FramedLink.transport_returns (Exporter.accounted_start _ untouched) moves
  have running : first.exporter.phase ≠ .finished := nofun
  have begun : first.exporter.Honest := Exporter.honest_start limit conditions lingering
  obtain ⟨earlier, later, split, starved, raised, closed⟩ := closing_step running finished
  obtain ⟨honest, same⟩ := honest_follow begun earlier (by rw [starved]; exact nofun)
  obtain ⟨connection, down, bound, equal⟩ := Exporter.sent_close honest
  rw [← closed, same] at connection equal
  rw [← closed] at down bound
  refine ⟨?_, bound, ?_, earlier, later, split, starved, raised, connection, equal⟩
  next =>
    have balance := accounted.2
    rw [Exporter.inHand_settled (.inr (.inr finished))] at balance
    exact balance
  next =>
    intro outcomes
    unfold Framed.close
    rw [down]

-- Two records wait until the connection is closed, and it breaks when one of them is written.
def breaking : ExportRun FramedLink :=
  start (FramedLink.start 2 [] [.took 5, .failed ⟨"Broken pipe (os error 32)"⟩])
    ⟨[⟨[1]⟩, ⟨[2]⟩], 2, 0, [.dropped]⟩ false

def breakingMoves : List ExportMove :=
  .replicate 5 .step ++ [.stop, .step]

theorem breaking_sent_within_delivered :
    breaking.queue.dequeued = 0 ∧
      (breaking.follow FramedLink.transport breakingMoves).exporter.phase = .finished ∧
      (breaking.follow FramedLink.transport breakingMoves).exporter.stats = ⟨0, 0, 2⟩ ∧
      (breaking.follow FramedLink.transport breakingMoves).exporter.transport.connection.written =
        1 ∧
      (breaking.follow FramedLink.transport breakingMoves).exporter.stats.sent ≤
        (breaking.follow FramedLink.transport
          breakingMoves).exporter.transport.connection.delivered := by
  have finished :
      (breaking.follow FramedLink.transport breakingMoves).exporter.phase = .finished := by
    decide
  refine ⟨rfl, finished, by decide, by decide, ?_⟩
  unfold breaking at finished ⊢
  exact (sent_within_delivered rfl false 2 [] [.took 5, .failed ⟨"Broken pipe (os error 32)"⟩]
    breakingMoves finished).2.1

end ExportRun

end FlowProbe
