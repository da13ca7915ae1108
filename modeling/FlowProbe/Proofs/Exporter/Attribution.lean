import FlowProbe.Proofs.Exporter.Delivery
import FlowProbe.Proofs.Exporter.Trace

set_option autoImplicit false

namespace FlowProbe

variable {τ : Type}

theorem ExporterStats.sent_reply (stats : ExporterStats) (reply : Reply) :
    (stats.afterReply reply).sent = stats.sent + if reply = .accepted then 1 else 0 := by
  cases reply <;> rfl

namespace Exporter

-- The counters when the losses of the next step are taken back: a record accepted in that step
-- counts already.
def counted (transport : Transport τ) (exporter : Exporter τ) : ExporterStats :=
  match exporter.phase with
  | .offering record =>
    exporter.stats.afterReply (transport.offer exporter.transport record).1
  | _ => exporter.stats

structure Attributed (stats : ExporterStats) (events : List ExportEvent) (lost : Nat) : Prop where
  sent : stats.sent + lost = events.countP ExportEvent.accepts
  dropped : stats.dropped =
    events.countP ExportEvent.fails + events.countP ExportEvent.givesUp + lost

variable {transport : Transport τ} {exporter : Exporter τ}

theorem sent_counted (exporter : Exporter τ) (transport : Transport τ) (raised : Bool)
    (queue : Queue) :
    (exporter.counted transport).sent = exporter.stats.sent +
      (exporter.events transport raised queue).countP ExportEvent.accepts := by
  unfold counted events
  cases phase : exporter.phase with
  | polling => cases waiting : queue.pending <;> simp [Queue.dequeue, waiting, ExportEvent.accepts]
  | offering record =>
    rw [ExporterStats.sent_reply]
    simp [ExportEvent.accepts]
  | refused record => rfl
  | starved => rfl
  | finished => rfl
  | crashed => rfl

theorem attributed_step {events : List ExportEvent} {lost : Nat}
    (attributed : Attributed exporter.stats events lost) (raised : Bool) (queue : Queue)
    (answered : ∀ record, exporter.phase = .offering record →
      (transport.offer exporter.transport record).1 ≠ .crashed)
    (covered : exporter.reported transport raised ≤ (exporter.counted transport).sent) :
    Attributed (exporter.step transport raised queue).1.stats
      (events ++ exporter.events transport raised queue)
      (lost + exporter.reported transport raised) := by
  have transfer := transfer_events raised queue answered
  rw [sent_counted exporter transport raised queue] at covered
  have sent := transfer.sent
  have dropped := transfer.dropped
  rw [Nat.min_eq_left covered] at sent dropped
  have before := attributed.sent
  have before' := attributed.dropped
  constructor
  next =>
    rw [List.countP_append]
    omega
  next =>
    rw [List.countP_append, List.countP_append]
    omega

end Exporter

namespace ExportRun

/-- At no moment of a run the transport has reported more losses than it has accepted records. -/
def Truthful (transport : Transport τ) (first : ExportRun τ) (moves : List ExportMove) : Prop :=
  ∀ earlier, earlier <+: moves →
    first.losses transport earlier ≤
      (first.story transport earlier).countP ExportEvent.accepts

/-- No step takes back more records than count as sent. -/
def Covered (transport : Transport τ) (first : ExportRun τ) (moves : List ExportMove) : Prop :=
  ∀ earlier, earlier ++ [.step] <+: moves →
    let run := first.follow transport earlier
    run.exporter.reported transport run.stopRaised ≤ (run.exporter.counted transport).sent

variable {transport : Transport τ} {first run : ExportRun τ} {moves : List ExportMove}

theorem answered_of_whole (whole : (run.act transport .step).exporter.phase ≠ .crashed)
    (record : Record) (phase : run.exporter.phase = .offering record) :
    (transport.offer run.exporter.transport record).1 ≠ .crashed := by
  intro crashed
  apply whole
  simp only [act, Exporter.step, phase]
  rw [Exporter.phase_of_reply, crashed]

theorem attributed_act {events : List ExportEvent} {lost : Nat}
    (attributed : Exporter.Attributed run.exporter.stats events lost) (move : ExportMove)
    (whole : (run.act transport move).exporter.phase ≠ .crashed)
    (covered : move = .step →
      run.exporter.reported transport run.stopRaised ≤ (run.exporter.counted transport).sent) :
    Exporter.Attributed (run.act transport move).exporter.stats
      (events ++ run.happens transport move) (lost + run.reported transport move) := by
  cases move with
  | step =>
    exact Exporter.attributed_step attributed run.stopRaised run.queue (answered_of_whole whole)
      (covered rfl)
  | _ =>
    simp only [happens, List.append_nil]
    exact attributed

theorem attributed_of_covered (fresh : first.exporter.stats = {})
    (covered : first.Covered transport moves)
    (whole : (first.follow transport moves).exporter.phase ≠ .crashed) :
    Exporter.Attributed (first.follow transport moves).exporter.stats
      (first.story transport moves) (first.losses transport moves) := by
  induction moves using List.reverseRecOn with
  | nil =>
    rw [follow, List.foldl_nil, fresh]
    exact ⟨rfl, rfl⟩
  | append_singleton earlier move ih =>
    have before := ih (fun moves within => covered moves (within.trans (List.prefix_append _ _)))
      (whole_earlier (List.prefix_append _ _) whole)
    rw [follow_append] at whole ⊢
    rw [story_append, losses_append]
    simp only [story, losses, List.append_nil, Nat.add_zero]
    apply attributed_act before move whole
    intro step
    subst step
    exact covered earlier List.prefix_rfl

theorem covered_of_truthful (fresh : first.exporter.stats = {})
    (truthful : first.Truthful transport moves)
    (whole : (first.follow transport moves).exporter.phase ≠ .crashed) :
    first.Covered transport moves := by
  induction moves using List.reverseRecOn with
  | nil => simp [Covered]
  | append_singleton earlier move ih =>
    have covered := ih (fun moves within => truthful moves (within.trans (List.prefix_append _ _)))
      (whole_earlier (List.prefix_append _ _) whole)
    intro before within
    rcases List.prefix_concat_iff.mp within with last | within
    next =>
      obtain ⟨rfl, step⟩ := List.append_inj' last rfl
      cases step
      have attributed := attributed_of_covered fresh covered
        (whole_earlier (List.prefix_append _ _) whole)
      have total := truthful _ List.prefix_rfl
      rw [losses_append, story_append, List.countP_append, ← attributed.sent] at total
      revert total
      generalize first.follow transport before = run
      intro total
      have counted := run.exporter.sent_counted transport run.stopRaised run.queue
      simp only [story, losses, reported, happens, List.append_nil, Nat.add_zero] at total ⊢
      omega
    next => exact covered before within

theorem truthful_of_covered (fresh : first.exporter.stats = {})
    (covered : first.Covered transport moves)
    (whole : (first.follow transport moves).exporter.phase ≠ .crashed) :
    first.Truthful transport moves := by
  intro earlier within
  have attributed := attributed_of_covered fresh (fun _ inner => covered _ (inner.trans within))
    (whole_earlier within whole)
  have sent := attributed.sent
  omega

theorem covered_of_honest {exporter : Exporter FramedLink} (honest : exporter.Honest)
    (raised : Bool) :
    exporter.reported FramedLink.transport raised ≤
      (exporter.counted FramedLink.transport).sent := by
  have sent := honest.sent
  unfold Exporter.reported Exporter.counted
  cases phase : exporter.phase with
  | offering record =>
    obtain ⟨-, -, total⟩ := FramedLink.settled_offer honest.settled record
    simp only [ExporterStats.sent_reply]
    omega
  | starved =>
    have quiet := honest.settled.quiet
    obtain ⟨-, -, written⟩ :=
      Framed.close_cases honest.settled.sound exporter.transport.lingering
    cases raised with
    | true =>
      change (exporter.transport.connection.close exporter.transport.lingering).discarded ≤
        exporter.stats.sent
      unfold FramedLink.held at sent
      rcases written with ⟨-, lost⟩ | ⟨-, -, lost⟩ <;> omega
    | false => exact Nat.zero_le _
  | polling => exact Nat.zero_le _
  | refused record => exact Nat.zero_le _
  | finished => exact Nat.zero_le _
  | crashed => exact Nat.zero_le _

theorem framed_truthful {queue : Queue} (untouched : queue.dequeued = 0) (stopRaised : Bool)
    (limit : Nat) (conditions : List SendConditions) (lingering : List WriteOutcome)
    (moves : List ExportMove) :
    (start (FramedLink.start limit conditions lingering) queue stopRaised).Truthful
      FramedLink.transport moves := by
  apply truthful_of_covered rfl
  next =>
    intro earlier _ run
    by_cases finished : run.exporter.phase = .finished
    next => simp [Exporter.reported, finished]
    next =>
      have begun := Exporter.honest_start limit conditions lingering
      exact covered_of_honest (honest_follow begun earlier finished).1 run.stopRaised
  next =>
    exact (accounted_follow FramedLink.transport_returns
      (Exporter.accounted_start _ untouched) moves).1

/-- For a transport that never reports more losses than it has accepted records, whatever the order of
its answers and reports, and as long as each attempt has returned. Records sent are exactly those
accepted less those lost, and records dropped are those that failed, those given up and those lost. A
report of losses, the one of the closed transport included, never exceeds what counts as sent when it
is taken back. -/
theorem counters_attribute_exactly (transport : Transport τ) (state : τ) (queue : Queue)
    (stopRaised : Bool) (moves : List ExportMove)
    (truthful : (start state queue stopRaised).Truthful transport moves)
    (whole : ((start state queue stopRaised).follow transport moves).exporter.phase ≠ .crashed) :
    let first := start state queue stopRaised
    let run := first.follow transport moves
    let story := first.story transport moves
    let lost := first.losses transport moves
    run.exporter.stats.sent + lost = story.countP ExportEvent.accepts ∧
      run.exporter.stats.dropped =
        story.countP ExportEvent.fails + story.countP ExportEvent.givesUp + lost ∧
      first.Covered transport moves := by
  intro first run story lost
  have covered : first.Covered transport moves := covered_of_truthful rfl truthful whole
  have attributed := attributed_of_covered rfl covered whole
  exact ⟨attributed.sent, attributed.dropped, covered⟩

-- The second record waits when the connection breaks under the third, and the fourth when it is closed
-- with the stop request raised, for which the fifth is given up.
def strained : ExportRun FramedLink :=
  start
    (FramedLink.start 1
      [{ later := [.took 5] }, {}, { earlier := [.failed ⟨"Broken pipe (os error 32)"⟩] },
        { now := Nanos.perSecond }]
      [.took 3, .failed ⟨"Broken pipe (os error 32)"⟩])
    ⟨[⟨[1]⟩, ⟨[2]⟩, ⟨[3]⟩, ⟨[4]⟩, ⟨[5]⟩], 5, 0, [.dropped]⟩ false

def strainedMoves : List ExportMove :=
  .replicate 10 .step ++ .stop :: .replicate 3 .step

theorem strained_counters_attribute :
    strained.Truthful FramedLink.transport strainedMoves ∧
      (strained.follow FramedLink.transport strainedMoves).exporter.phase = .finished ∧
      (strained.follow FramedLink.transport strainedMoves).exporter.stats = ⟨1, 0, 4⟩ ∧
      strained.losses FramedLink.transport strainedMoves = 2 ∧
      (strained.follow FramedLink.transport strainedMoves).exporter.stats.sent +
          strained.losses FramedLink.transport strainedMoves =
        (strained.story FramedLink.transport strainedMoves).countP ExportEvent.accepts := by
  have truthful : strained.Truthful FramedLink.transport strainedMoves :=
    framed_truthful rfl false 1 _ _ strainedMoves
  have finished :
      (strained.follow FramedLink.transport strainedMoves).exporter.phase = .finished := by
    decide
  refine ⟨truthful, finished, by decide, by decide, ?_⟩
  have whole :
      (strained.follow FramedLink.transport strainedMoves).exporter.phase ≠ .crashed := by
    rw [finished]
    exact nofun
  exact (counters_attribute_exactly FramedLink.transport _ _ false strainedMoves truthful whole).1

end ExportRun

end FlowProbe
