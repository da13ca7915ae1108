import FlowProbe.Proofs.Exporter.Trace

set_option autoImplicit false

namespace FlowProbe

variable {τ : Type}

namespace Exporter

theorem upcoming_sublist (exporter : Exporter τ) : exporter.upcoming.Sublist exporter.inHand := by
  unfold upcoming inHand
  cases exporter.phase <;> simp

-- Nothing is offered twice: a record that was refused is not offered again by a step that finds the
-- request raised, so what is offered is missing from what is still to be offered.
theorem offered_step (transport : Transport τ) (exporter : Exporter τ) (queue : Queue) :
    ((exporter.events transport true queue).filterMap ExportEvent.attempt?).map Prod.fst ++
        ((exporter.step transport true queue).1.upcoming ++
          (exporter.step transport true queue).2.pending) =
      exporter.upcoming ++ queue.pending := by
  rw [queue_step, events]
  cases phase : exporter.phase with
  | polling =>
    cases waiting : queue.pending <;>
      simp [step, phase, upcoming, Queue.dequeue, waiting, ExportEvent.attempt?]
  | starved => simp [step, phase, upcoming, close]
  | offering record =>
    rcases phase_offer transport exporter record with after | after | after <;>
      simp [step, phase, after, upcoming, ExportEvent.attempt?]
  | refused record => simp [step, phase, upcoming, ExportEvent.attempt?]
  | finished => simp [step, phase, upcoming]
  | crashed => simp [step, phase, upcoming]

theorem live_step (transport : Transport τ) (raised : Bool) (exporter : Exporter τ)
    (queue : Queue) : (exporter.step transport raised queue).2.live = queue.live := by
  rw [queue_step]
  split
  next => rw [Queue.live, Queue.producers_dequeue, Queue.live]
  next => rfl

theorem ended_of_stepsLeft {exporter : Exporter τ} {queue : Queue}
    (none_left : exporter.stepsLeft queue = 0) : exporter.hasEnded = true := by
  unfold stepsLeft at none_left
  cases phase : exporter.phase <;> simp [phase, hasEnded] at none_left ⊢

end Exporter

namespace ExportMove

-- A producer can add a record, be cloned or be dropped between two records, and counts the one that
-- it has just added.
def isPossible (queue : Queue) : ExportMove → Bool
  | .push producer _ => queue.isIdle producer
  | .count producer => queue.producers[producer]? = some .adding
  | .clone => 0 < queue.live
  | .drop producer => queue.isIdle producer
  | .stop => true
  | .step => true

def isStep : ExportMove → Bool
  | .step => true
  | _ => false

theorem eq_of_orphaned {queue : Queue} (orphaned : queue.live = 0) {move : ExportMove}
    (possible : move.isPossible queue) : move = .stop ∨ move = .step := by
  have gone := (Queue.live_eq_zero_iff queue).mp orphaned
  have absent {state : Producer} {producer : Nat} (living : state ≠ .dropped) :
      queue.producers[producer]? ≠ some state := fun here =>
    living (gone state (List.mem_of_getElem? here))
  cases move with
  | push producer record => exact absurd (of_decide_eq_true possible) (absent nofun)
  | count producer => exact absurd (of_decide_eq_true possible) (absent nofun)
  | clone => exact absurd orphaned (Nat.ne_of_gt (of_decide_eq_true possible))
  | drop producer => exact absurd (of_decide_eq_true possible) (absent nofun)
  | stop => exact .inl rfl
  | step => exact .inr rfl

end ExportMove

namespace ExportRun

def arePossible (transport : Transport τ) : ExportRun τ → List ExportMove → Bool
  | _, [] => true
  | run, move :: moves =>
    move.isPossible run.queue && arePossible transport (run.act transport move) moves

variable {transport : Transport τ} {run : ExportRun τ} {moves : List ExportMove}

theorem arePossible_append (run : ExportRun τ) (moves more : List ExportMove) :
    run.arePossible transport (moves ++ more) =
      (run.arePossible transport moves && (run.follow transport moves).arePossible transport more) := by
  induction moves generalizing run with
  | nil => rfl
  | cons move moves ih =>
    rw [List.cons_append, arePossible, ih, arePossible, Bool.and_assoc]
    rfl

theorem silent_of_orphaned (orphaned : run.queue.live = 0)
    (possible : run.arePossible transport moves) : moves.filterMap ExportMove.pushed? = [] := by
  induction moves generalizing run with
  | nil => rfl
  | cons move moves ih =>
    obtain ⟨here, later⟩ := Bool.and_eq_true_iff.mp possible
    rcases ExportMove.eq_of_orphaned orphaned here with rfl | rfl
    next => exact @ih (run.act transport .stop) orphaned later
    next =>
      apply @ih (run.act transport .step) _ later
      exact (Exporter.live_step transport run.stopRaised run.exporter run.queue).trans orphaned

theorem offered_follow (transport : Transport τ) (raised : run.stopRaised = true)
    (silent : moves.filterMap ExportMove.pushed? = []) :
    ((run.story transport moves).filterMap ExportEvent.attempt?).map Prod.fst ++
        ((run.follow transport moves).exporter.upcoming ++
          (run.follow transport moves).queue.pending) =
      run.exporter.upcoming ++ run.queue.pending := by
  induction moves generalizing run with
  | nil => rfl
  | cons move moves ih =>
    cases move with
    | push producer record => simp [ExportMove.pushed?] at silent
    | step =>
      have now := run.exporter.offered_step transport run.queue
      have later := @ih (run.act transport .step) raised silent
      rw [story, List.filterMap_append, List.map_append, List.append_assoc]
      rw [← raised] at now
      exact (congrArg _ later).trans now
    | count _ | clone | drop _ => exact @ih (run.act transport _) raised silent
    | stop => exact @ih (run.act transport .stop) rfl silent

theorem ended_follow (raised : run.stopRaised = true)
    (silent : moves.filterMap ExportMove.pushed? = [])
    (enough : run.exporter.stepsLeft run.queue ≤ moves.countP ExportMove.isStep) :
    (run.follow transport moves).exporter.hasEnded = true := by
  induction moves generalizing run with
  | nil => exact Exporter.ended_of_stepsLeft (Nat.le_zero.mp enough)
  | cons move moves ih =>
    cases move with
    | push producer record => simp [ExportMove.pushed?] at silent
    | step =>
      cases running : run.exporter.hasEnded with
      | true => rw [exporter_ended running, running]
      | false =>
        have fewer := run.exporter.stepsLeft_step transport run.queue running
        rw [← raised] at fewer
        apply @ih (run.act transport .step) raised silent
        simp only [List.countP_cons, ExportMove.isStep, if_true] at enough
        exact Nat.le_of_lt_succ (Nat.lt_of_lt_of_le fewer enough)
    | count _ | clone | drop _ => exact @ih (run.act transport _) raised silent enough
    | stop => exact @ih (run.act transport .stop) rfl silent enough

/-- A run that was asked to stop, with no producer left. Whatever the transport answers, at most the
record in hand and those in the queue are offered from then on, each once, and after a known number of
steps the run is over. It has left no record behind if there was no producer from its start, or if
nothing was in the queue when the exporter last found it empty. -/
theorem stop_ends_run (transport : Transport τ) (state : τ) (queue : Queue) (stopRaised : Bool)
    (moves later : List ExportMove)
    (possible : (start state queue stopRaised).arePossible transport (moves ++ later))
    (raised : ((start state queue stopRaised).follow transport moves).stopRaised = true)
    (orphaned : ((start state queue stopRaised).follow transport moves).queue.live = 0) :
    let run := (start state queue stopRaised).follow transport moves
    let last := run.follow transport later
    (((run.story transport later).filterMap ExportEvent.attempt?).map Prod.fst).Sublist
        (run.exporter.inHand ++ run.queue.pending) ∧
      (run.exporter.stepsLeft run.queue ≤ later.countP ExportMove.isStep →
        last.exporter.hasEnded = true) ∧
      (queue.live = 0 ∨ run.exporter.Dry run.queue →
        last.exporter.hasEnded = true → last.exporter.phase ≠ .crashed →
          last.exporter.phase = .finished ∧ last.queue.pending = []) := by
  intro run last
  rw [arePossible_append] at possible
  obtain ⟨before, after⟩ := Bool.and_eq_true_iff.mp possible
  have silent := silent_of_orphaned orphaned after
  refine ⟨?_, ended_follow raised silent, ?_⟩
  next =>
    have offered := offered_follow transport raised silent
    have once := List.sublist_append_left
      (((run.story transport later).filterMap ExportEvent.attempt?).map Prod.fst)
      (last.exporter.upcoming ++ last.queue.pending)
    rw [offered] at once
    exact once.trans (run.exporter.upcoming_sublist.append_right _)
  next =>
    intro dry ended whole
    have finished : last.exporter.phase = .finished :=
      (of_decide_eq_true ended).resolve_right whole
    refine ⟨finished, ?_⟩
    have dry : run.exporter.Dry run.queue := by
      rcases dry with alone | dry
      next =>
        apply dry_follow _ (silent_of_orphaned alone before)
        simp [start, Exporter.start, Exporter.Dry]
      next => exact dry
    exact dry_follow dry silent (.inr finished)

-- The first record is refused once more after it was tried again, and the request comes then.
def stubborn : ExportRun Unit :=
  start () ⟨[⟨[1]⟩, ⟨[2]⟩], 2, 0, [.dropped]⟩ false

def stubbornMoves : List ExportMove :=
  .replicate 4 .step ++ [.stop]

theorem stubborn_run_ends :
    stubborn.arePossible .peerless (stubbornMoves ++ .replicate 6 .step) = true ∧
      (stubborn.follow .peerless stubbornMoves).stopRaised = true ∧
      (stubborn.follow .peerless stubbornMoves).queue.live = 0 ∧
      (stubborn.follow .peerless stubbornMoves).exporter.phase = .refused ⟨[1]⟩ ∧
      (((stubborn.follow .peerless stubbornMoves).follow .peerless
        (.replicate 6 .step)).exporter.stats = ⟨0, 1, 2⟩) ∧
      ((stubborn.follow .peerless stubbornMoves).follow .peerless
        (.replicate 6 .step)).exporter.hasEnded = true ∧
      ((stubborn.follow .peerless stubbornMoves).follow .peerless
        (.replicate 6 .step)).queue.pending = [] := by
  have possible :
      stubborn.arePossible .peerless (stubbornMoves ++ .replicate 6 .step) = true := by
    decide
  have raised : (stubborn.follow .peerless stubbornMoves).stopRaised = true := by decide
  have orphaned : (stubborn.follow .peerless stubbornMoves).queue.live = 0 := by decide
  obtain ⟨-, ends, empties⟩ :=
    stop_ends_run .peerless () _ false stubbornMoves (.replicate 6 .step) possible raised orphaned
  have ended := ends (by decide)
  exact ⟨possible, raised, orphaned, by decide, by decide, ended,
    (empties (.inl (by decide)) ended (by decide)).2⟩

end ExportRun

end FlowProbe
