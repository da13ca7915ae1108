import FlowProbe.Proofs.Exporter.Trace

set_option autoImplicit false

namespace FlowProbe

variable {τ : Type}

-- The record in hand has met its end.
def ExportEvent.settles : ExportEvent → Bool
  | .took _ => false
  | .offered _ reply => reply.isFinal
  | .looked raised => raised

namespace Exporter

-- Not asked to stop, an exporter that has found the queue empty looks into it again.
def roused (exporter : Exporter τ) : Exporter τ :=
  if exporter.phase = .starved then { exporter with phase := .polling } else exporter

variable {transport : Transport τ} {exporter : Exporter τ} {queue full : Queue}
  {rest : List Record}

theorem roused_awake (awake : exporter.phase ≠ .starved) : exporter.roused = exporter :=
  if_neg awake

theorem roused_polling (polling : exporter.phase = .polling) : exporter.roused = exporter :=
  roused_awake (by simp [polling])

theorem close_roused (transport : Transport τ) (exporter : Exporter τ) :
    exporter.roused.close transport = exporter.close transport := by
  unfold roused
  split <;> rfl

-- The next step finds nothing to do, or only looks whether there is anything.
def Idle (exporter : Exporter τ) (queue : Queue) : Prop :=
  exporter.phase = .starved ∨ exporter.phase = .polling ∧ queue.pending = []

theorem step_idle (transport : Transport τ) (idle : exporter.Idle queue) :
    (exporter.step transport false queue).1.roused = exporter.roused ∧
      (exporter.step transport false queue).2 = queue ∧
      exporter.events transport false queue = [] := by
  rcases idle with phase | ⟨phase, waiting⟩
  next => simp [step, events, roused, phase]
  next =>
    obtain ⟨before, stats, state⟩ := exporter
    cases phase
    simp [step, events, roused, Queue.dequeue, waiting]

-- Records further back in the queue make no difference to what is done with the first.
theorem step_busy (transport : Transport τ) (busy : ¬exporter.Idle queue)
    (further : full.pending = queue.pending ++ rest) :
    exporter.step transport false full =
        ((exporter.step transport false queue).1.roused, (exporter.step transport false full).2) ∧
      (exporter.step transport false full).2.pending =
        (exporter.step transport false queue).2.pending ++ rest ∧
      exporter.events transport false full = exporter.events transport false queue := by
  rw [queue_step, queue_step]
  cases phase : exporter.phase with
  | polling =>
    cases waiting : queue.pending with
    | nil => exact absurd (.inr ⟨phase, waiting⟩) busy
    | cons record later =>
      rw [waiting] at further
      simp [step, events, roused, phase, Queue.dequeue, waiting, further]
  | starved => exact absurd (.inl phase) busy
  | offering record =>
    have awake : (exporter.offer transport record).phase ≠ .starved := by
      rcases phase_offer transport exporter record with after | after | after <;> simp [after]
    simp [step, events, roused_awake awake, phase, further]
  | refused record => simp [step, events, roused, phase, further]
  | finished => simp [step, events, roused, phase, further]
  | crashed => simp [step, events, roused, phase, further]

-- Nothing is in hand or in the queue, and the run goes on.
structure Spent (exporter : Exporter τ) (queue : Queue) : Prop where
  phase : exporter.phase = .polling ∨ exporter.phase = .starved
  pending : queue.pending = []

theorem phase_roused (spent : exporter.Spent queue) : exporter.roused.phase = .polling := by
  unfold roused
  rcases spent.phase with phase | phase <;> simp [phase]

theorem spent_of_inHand (nothing : exporter.inHand = []) (running : exporter.hasEnded = false)
    (empty : queue.pending = []) : exporter.Spent queue := by
  refine ⟨?_, empty⟩
  cases phase : exporter.phase <;> simp [inHand, hasEnded, phase] at nothing running ⊢

theorem spent_step (transport : Transport τ) (raised : Bool) (spent : exporter.Spent queue) :
    exporter.events transport raised queue = [] ∧
      (exporter.step transport raised queue).2 = queue ∧
      ((exporter.step transport raised queue).1.Spent queue ∧
          (exporter.step transport raised queue).1.roused = exporter.roused ∨
        (exporter.step transport raised queue).1 = exporter.close transport) := by
  obtain ⟨before, stats, state⟩ := exporter
  obtain ⟨phase, pending⟩ := spent
  rcases phase with phase | phase <;> cases phase
  next =>
    simp only [events, step, Queue.dequeue, pending]
    exact ⟨List.map_nil, trivial, .inl ⟨⟨.inr rfl, pending⟩, rfl⟩⟩
  next =>
    cases raised with
    | true => exact ⟨rfl, rfl, .inr rfl⟩
    | false => exact ⟨rfl, rfl, .inl ⟨⟨.inl rfl, pending⟩, rfl⟩⟩

theorem events_ended (ended : exporter.hasEnded) (transport : Transport τ) (raised : Bool)
    (queue : Queue) : exporter.events transport raised queue = [] := by
  unfold events
  rcases of_decide_eq_true ended with phase | phase <;> simp only [phase]

def unsettled (exporter : Exporter τ) (queue : Queue) : Nat :=
  exporter.inHand.length + queue.pending.length

theorem settles_step (transport : Transport τ) (raised : Bool) (exporter : Exporter τ)
    (queue : Queue) :
    (exporter.events transport raised queue).countP ExportEvent.settles +
        (exporter.step transport raised queue).1.unsettled
          (exporter.step transport raised queue).2 ≤
      exporter.unsettled queue := by
  rw [queue_step, events]
  simp only [unsettled, ← Nat.add_assoc]
  cases phase : exporter.phase with
  | polling =>
    cases waiting : queue.pending with
    | nil => simp [step, phase, inHand, Queue.dequeue, waiting]
    | cons record later =>
      simp [step, phase, inHand, Queue.dequeue, waiting, ExportEvent.settles, Nat.add_comm]
  | starved => cases raised <;> simp [step, phase, inHand, close]
  | offering record =>
    have follows := phase_of_reply transport exporter record
    simp only [step, phase, reduceCtorEq, if_false, Nat.add_le_add_iff_right]
    generalize (transport.offer exporter.transport record).1 = reply at follows
    cases reply with
    | accepted => simp [inHand, follows, phase, ExportEvent.settles, Reply.isFinal]
    | refused failure =>
      cases failure <;> simp [inHand, follows, phase, ExportEvent.settles, Reply.isFinal]
    | crashed => simp [inHand, follows, phase, ExportEvent.settles, Reply.isFinal]
  | refused record => cases raised <;> simp [step, phase, inHand, ExportEvent.settles]
  | finished => simp [step, phase, inHand]
  | crashed => simp [step, phase, inHand]

end Exporter

namespace ExportRun

/-- The exporter alone on a queue that holds from the start what another run has in its queue and
what is still going to come in there. -/
structure Shadows (alone run : ExportRun τ) (rest : List Record) : Prop where
  exporter : alone.exporter = run.exporter.roused
  pending : alone.queue.pending = run.queue.pending ++ rest
  unasked : run.stopRaised = false
  alone_unasked : alone.stopRaised = false

variable {transport : Transport τ} {run alone : ExportRun τ} {rest : List Record}
  {moves : List ExportMove}

theorem shadows_step (transport : Transport τ) (shadows : alone.Shadows run rest) :
    ∃ steps,
      (alone.follow transport (.replicate steps .step)).Shadows (run.act transport .step) rest ∧
        alone.story transport (.replicate steps .step) = run.happens transport .step := by
  obtain ⟨same, pending, unasked, alone_unasked⟩ := shadows
  simp only [happens, unasked]
  -- Alone it does not come to look into an empty queue, and takes no step then.
  by_cases idle : run.exporter.Idle run.queue
  next =>
    obtain ⟨still, untouched, nothing⟩ := Exporter.step_idle transport idle
    refine ⟨0, ⟨?_, ?_, unasked, alone_unasked⟩, nothing.symm⟩
    next =>
      simp only [act, unasked, still]
      exact same
    next =>
      simp only [act, unasked, untouched]
      exact pending
  next =>
    have awake : run.exporter.phase ≠ .starved := fun starved => idle (.inl starved)
    rw [Exporter.roused_awake awake] at same
    obtain ⟨now, later, events⟩ := Exporter.step_busy transport idle pending
    refine ⟨1, ⟨?_, ?_, unasked, alone_unasked⟩, ?_⟩
    next =>
      change (alone.exporter.step transport alone.stopRaised alone.queue).1 = _
      rw [same, alone_unasked, now]
      simp only [act, unasked]
    next =>
      change (alone.exporter.step transport alone.stopRaised alone.queue).2.pending = _
      rw [same, alone_unasked, later]
      simp only [act, unasked]
    next =>
      change alone.exporter.events transport alone.stopRaised alone.queue ++ [] = _
      rw [List.append_nil, same, alone_unasked, events]

theorem shadows_follow (transport : Transport τ)
    (shadows : alone.Shadows run (moves.filterMap ExportMove.pushed? ++ rest))
    (unasked : .stop ∉ moves) :
    ∃ steps,
      (alone.follow transport (.replicate steps .step)).Shadows (run.follow transport moves) rest ∧
        alone.story transport (.replicate steps .step) = run.story transport moves := by
  induction moves generalizing run alone with
  | nil => exact ⟨0, shadows, rfl⟩
  | cons move moves ih =>
    have now := List.ne_of_not_mem_cons unasked
    have later := List.not_mem_of_not_mem_cons unasked
    cases move with
    | step =>
      obtain ⟨steps, shadows, story⟩ := shadows_step transport shadows
      obtain ⟨more, shadows, rest⟩ := ih shadows later
      refine ⟨steps + more, ?_, ?_⟩
      next =>
        rw [List.replicate_add, follow_append]
        exact shadows
      next =>
        rw [List.replicate_add, story_append, story, rest]
        rfl
    | push producer record =>
      obtain ⟨same, pending, calm, calm'⟩ := shadows
      have pending := pending.trans (List.append_assoc _ [record] _).symm
      exact @ih (run.act transport (.push producer record)) _ ⟨same, pending, calm, calm'⟩ later
    | count _ | clone | drop _ =>
      obtain ⟨same, pending, calm, calm'⟩ := shadows
      exact @ih (run.act transport _) _ ⟨same, pending, calm, calm'⟩ later
    | stop => exact absurd rfl now

theorem story_ended (ended : run.exporter.hasEnded) (moves : List ExportMove) :
    run.story transport moves = [] := by
  induction moves generalizing run with
  | nil => rfl
  | cons move moves ih =>
    have still : (run.act transport move).exporter = run.exporter := exporter_ended ended [move]
    have later := @ih (run.act transport move) (still.symm ▸ ended)
    cases move with
    | step =>
      rw [story, later, happens, Exporter.events_ended ended]
      rfl
    | _ => exact later

theorem spent_follow (transport : Transport τ) (spent : run.exporter.Spent run.queue)
    (silent : moves.filterMap ExportMove.pushed? = []) :
    run.story transport moves = [] ∧
      ((run.follow transport moves).exporter.phase ≠ .finished ∧
          (run.follow transport moves).exporter.roused = run.exporter.roused ∨
        (run.follow transport moves).exporter = run.exporter.close transport) := by
  induction moves generalizing run with
  | nil =>
    refine ⟨rfl, .inl ⟨?_, rfl⟩⟩
    rcases spent.phase with phase | phase <;> simp [follow, phase]
  | cons move moves ih =>
    cases move with
    | step =>
      obtain ⟨nothing, untouched, still | closed⟩ :=
        Exporter.spent_step transport run.stopRaised spent
      next =>
        have spent : (run.act transport .step).exporter.Spent (run.act transport .step).queue := by
          change (run.exporter.step transport run.stopRaised run.queue).1.Spent
            (run.exporter.step transport run.stopRaised run.queue).2
          rw [untouched]
          exact still.1
        obtain ⟨story, later⟩ := ih spent silent
        have same : (run.act transport .step).exporter.roused = run.exporter.roused := still.2
        refine ⟨?_, later.imp (And.imp_right (·.trans same)) fun closed => ?_⟩
        next =>
          rw [ExportRun.story, story, happens, nothing]
          rfl
        next =>
          refine closed.trans ?_
          rw [← Exporter.close_roused, same, Exporter.close_roused]
      next =>
        have closed : (run.act transport .step).exporter = run.exporter.close transport := closed
        have ended : (run.act transport .step).exporter.hasEnded := by
          rw [closed]
          exact Exporter.ended_of_finished rfl
        refine ⟨?_, .inr ((exporter_ended ended moves).trans closed)⟩
        rw [ExportRun.story, story_ended ended, happens, nothing]
        rfl
    | push producer record => simp [ExportMove.pushed?] at silent
    | count _ | clone | drop _ | stop =>
      exact @ih (run.act transport _) ⟨spent.phase, spent.pending⟩ silent

theorem settles_follow (transport : Transport τ) (run : ExportRun τ) (moves : List ExportMove) :
    (run.story transport moves).countP ExportEvent.settles +
        (run.follow transport moves).exporter.unsettled (run.follow transport moves).queue ≤
      run.exporter.unsettled run.queue + (moves.filterMap ExportMove.pushed?).length := by
  induction moves generalizing run with
  | nil => simp [story, follow]
  | cons move moves ih =>
    have later := ih (run.act transport move)
    cases move with
    | step =>
      have now := run.exporter.settles_step transport run.stopRaised run.queue
      rw [story, List.countP_append, Nat.add_assoc]
      refine Nat.le_trans (Nat.add_le_add_left later _) ?_
      rw [← Nat.add_assoc]
      exact Nat.add_le_add_right now _
    | push producer record =>
      have longer : (run.act transport (.push producer record)).exporter.unsettled
          (run.act transport (.push producer record)).queue =
            run.exporter.unsettled run.queue + 1 := by
        simp [act, Queue.push, Exporter.unsettled, Nat.add_assoc]
      rw [longer, Nat.add_assoc, Nat.add_comm 1] at later
      exact later
    | count _ | clone | drop _ | stop => exact later

/-- The stop request comes when all records of the run have met their end, also those that are
added while it runs. -/
def StopsLate (transport : Transport τ) (run : ExportRun τ) (moves : List ExportMove) : Prop :=
  ∀ earlier later, moves = earlier ++ .stop :: later →
    (run.story transport earlier).countP ExportEvent.settles =
      (run.queue.pending ++ moves.filterMap ExportMove.pushed?).length

theorem stopsLate_once {earlier later : List ExportMove} (never : .stop ∉ earlier)
    (once : .stop ∉ later)
    (settled : (run.story transport earlier).countP ExportEvent.settles =
      (run.queue.pending ++ (earlier ++ .stop :: later).filterMap ExportMove.pushed?).length) :
    run.StopsLate transport (earlier ++ .stop :: later) := by
  intro before after split
  obtain ⟨same, -⟩ := (List.append_cons_inj_of_notMem never once).mp split
  rw [← same]
  exact settled

theorem unasked_follow (unasked : run.stopRaised = false) (never : .stop ∉ moves) :
    (run.follow transport moves).stopRaised = false := by
  induction moves generalizing run with
  | nil => exact unasked
  | cons move moves ih =>
    have later := List.not_mem_of_not_mem_cons never
    cases move with
    | stop => exact absurd rfl (List.ne_of_not_mem_cons never)
    | _ => exact @ih (run.act transport _) unasked later

theorem running_follow (running : run.exporter.phase ≠ .finished)
    (unasked : run.stopRaised = false) (never : .stop ∉ moves) :
    (run.follow transport moves).exporter.phase ≠ .finished := by
  intro finished
  obtain ⟨earlier, later, rfl, -, raised, -⟩ := closing_step running finished
  rw [unasked_follow unasked fun early => never (List.mem_append_left _ early)] at raised
  exact Bool.false_ne_true raised

theorem silent_steps (steps : Nat) :
    (List.replicate steps ExportMove.step).filterMap ExportMove.pushed? = [] := by
  simp [List.filterMap_replicate, ExportMove.pushed?]

structure Lasts (full : ExportRun τ) (transport : Transport τ) (steps : Nat) : Prop where
  phase : (full.follow transport (.replicate steps .step)).exporter.phase = .polling
  pending : (full.follow transport (.replicate steps .step)).queue.pending = []

variable {full : ExportRun τ} {steps more : Nat}

theorem Lasts.spent (lasts : full.Lasts transport steps) :
    (full.follow transport (.replicate steps .step)).exporter.Spent
      (full.follow transport (.replicate steps .step)).queue :=
  ⟨.inl lasts.phase, lasts.pending⟩

theorem lasts_alike_add (lasts : full.Lasts transport steps)
    (longer : full.Lasts transport (steps + more)) :
    (full.follow transport (.replicate (steps + more) .step)).exporter =
        (full.follow transport (.replicate steps .step)).exporter ∧
      full.story transport (.replicate (steps + more) .step) =
        full.story transport (.replicate steps .step) := by
  obtain ⟨phase, -⟩ := longer
  obtain ⟨nothing, outcome⟩ := spent_follow transport lasts.spent (silent_steps more)
  rw [List.replicate_add, follow_append] at phase ⊢
  rw [story_append, nothing, List.append_nil]
  refine ⟨?_, rfl⟩
  rcases outcome with ⟨-, same⟩ | closed
  next =>
    rw [Exporter.roused_polling phase, Exporter.roused_polling lasts.phase] at same
    exact same
  next =>
    rw [closed] at phase
    cases phase

theorem lasts_alike (lasts : full.Lasts transport steps) (lasts' : full.Lasts transport more) :
    (full.follow transport (.replicate more .step)).exporter =
        (full.follow transport (.replicate steps .step)).exporter ∧
      full.story transport (.replicate more .step) =
        full.story transport (.replicate steps .step) := by
  rcases Nat.le_total steps more with fewer | fewer
  next =>
    obtain ⟨extra, rfl⟩ := Nat.exists_eq_add_of_le fewer
    exact lasts_alike_add lasts lasts'
  next =>
    obtain ⟨extra, rfl⟩ := Nat.exists_eq_add_of_le fewer
    have alike := lasts_alike_add lasts' lasts
    exact ⟨alike.1.symm, alike.2.symm⟩

theorem spent_of_late {earlier later : List ExportMove} (never : .stop ∉ earlier)
    (unasked : run.stopRaised = false) (polling : run.exporter.phase = .polling)
    (late : run.StopsLate transport (earlier ++ .stop :: later))
    (whole : (run.follow transport earlier).exporter.phase ≠ .crashed) :
    (run.follow transport earlier).exporter.Spent (run.follow transport earlier).queue ∧
      later.filterMap ExportMove.pushed? = [] := by
  -- There are no more ends than records, so none is left over, and none comes in afterwards.
  have most := settles_follow transport run earlier
  have settled := late earlier later rfl
  have running : (run.follow transport earlier).exporter.phase ≠ .finished :=
    running_follow (by simp [polling]) unasked never
  have split : (earlier ++ .stop :: later).filterMap ExportMove.pushed? =
      earlier.filterMap ExportMove.pushed? ++ later.filterMap ExportMove.pushed? :=
    List.filterMap_append
  have nothing : run.exporter.inHand = [] := Exporter.inHand_settled (.inl polling)
  rw [settled, split, Exporter.unsettled, Exporter.unsettled, nothing, List.length_append,
    List.length_append, List.length_nil] at most
  refine ⟨Exporter.spent_of_inHand (List.length_eq_zero_iff.mp ?_) ?_
    (List.length_eq_zero_iff.mp ?_), List.length_eq_zero_iff.mp ?_⟩
  next => omega
  next => simp [Exporter.hasEnded, running, whole]
  next => omega
  next => omega

theorem ends_alone (shadows : full.Shadows run (moves.filterMap ExportMove.pushed?))
    (polling : run.exporter.phase = .polling) (late : run.StopsLate transport moves)
    (finished : (run.follow transport moves).exporter.phase = .finished) :
    ∃ steps, full.Lasts transport steps ∧
      (run.follow transport moves).exporter =
        (full.follow transport (.replicate steps .step)).exporter.close transport ∧
      run.story transport moves = full.story transport (.replicate steps .step) ∧
      (run.story transport moves).countP ExportEvent.settles = full.queue.pending.length := by
  have asked : .stop ∈ moves := by
    by_contra never
    exact running_follow (by simp [polling]) shadows.unasked never finished
  obtain ⟨earlier, later, rfl, never⟩ := List.eq_append_cons_of_mem asked
  have whole : (run.follow transport earlier).exporter.phase ≠ .crashed :=
    whole_earlier (List.prefix_append earlier (.stop :: later)) (by simp [finished])
  obtain ⟨spent, silent⟩ := spent_of_late never shadows.unasked polling late whole
  have settled := late earlier later rfl
  rw [List.filterMap_append, List.filterMap_cons_none rfl, silent] at shadows settled
  obtain ⟨steps, ⟨exporter, pending, -, -⟩, story⟩ := shadows_follow transport shadows never
  let asked := (run.follow transport earlier).act transport .stop
  have idle : asked.exporter.Spent asked.queue := ⟨spent.phase, spent.pending⟩
  obtain ⟨nothing, outcome⟩ := spent_follow transport idle silent
  have told : run.story transport (earlier ++ .stop :: later) = run.story transport earlier := by
    rw [story_append]
    exact (congrArg _ nothing).trans (List.append_nil _)
  rw [follow_append] at finished ⊢
  refine ⟨steps, ⟨?_, ?_⟩, ?_, told.trans story.symm, ?_⟩
  next =>
    rw [exporter]
    exact Exporter.phase_roused spent
  next =>
    rw [pending, spent.pending]
    rfl
  next =>
    rw [exporter, Exporter.close_roused]
    exact outcome.resolve_left fun running => running.1 finished
  next => rw [told, settled, shadows.pending]

theorem lasts_closes (lasts : full.Lasts transport steps) :
    (full.follow transport (.replicate steps .step ++ [.stop, .step, .step])).exporter.phase =
      .finished := by
  obtain ⟨phase, pending⟩ := lasts
  rw [follow_append]
  generalize full.follow transport (.replicate steps .step) = rested at phase pending
  obtain ⟨⟨before, stats, state⟩, queue, raised⟩ := rested
  obtain ⟨waiting, enqueued, dequeued, producers⟩ := queue
  cases phase
  cases pending
  rfl

/-- Producers that add records while the exporter works, at any moments, and a stop request that
comes when all of them have met their end. The exporter ends as it does alone on a queue that held
all the records from the start, whenever it is asked to stop after that: with the same statistics,
after the same attempts with the same answers. -/
theorem outcome_independent_of_schedule (transport : Transport τ) (state : τ)
    {queue filled : Queue} {moves : List ExportMove}
    (same : filled.pending = queue.pending ++ moves.filterMap ExportMove.pushed?)
    (late : (start state queue false).StopsLate transport moves)
    (finished : ((start state queue false).follow transport moves).exporter.phase = .finished) :
    let first := start state queue false
    let full := start state filled false
    (∃ alone : List ExportMove, alone.filterMap ExportMove.pushed? = [] ∧
        full.StopsLate transport alone ∧
        (full.follow transport alone).exporter.phase = .finished) ∧
      ∀ alone : List ExportMove, alone.filterMap ExportMove.pushed? = [] →
        full.StopsLate transport alone →
        (full.follow transport alone).exporter.phase = .finished →
          (full.follow transport alone).exporter = (first.follow transport moves).exporter ∧
            full.story transport alone = first.story transport moves := by
  intro first full
  have shadows : full.Shadows first (moves.filterMap ExportMove.pushed?) :=
    ⟨rfl, same, rfl, rfl⟩
  obtain ⟨steps, lasts, closed, story, settled⟩ := ends_alone shadows rfl late finished
  refine ⟨⟨.replicate steps .step ++ [.stop, .step, .step], ?_, ?_, lasts_closes lasts⟩, ?_⟩
  next => simp [silent_steps, ExportMove.pushed?]
  next =>
    apply stopsLate_once _ (by simp)
    next =>
      rw [← story, settled]
      simp [silent_steps, ExportMove.pushed?]
    next => simp [List.mem_replicate]
  next =>
    intro alone silent late finished
    have itself : full.Shadows full (alone.filterMap ExportMove.pushed?) := by
      rw [silent]
      exact ⟨rfl, (List.append_nil _).symm, rfl, rfl⟩
    obtain ⟨more, lasts', closed', story', -⟩ := ends_alone itself rfl late finished
    obtain ⟨exporter, events⟩ := lasts_alike lasts lasts'
    rw [closed, closed', exporter, story, story', events]
    exact ⟨rfl, rfl⟩

-- The queue is found empty at first. The first record is refused once, and the second comes in while
-- it waits to be offered again.
def trickle : ExportRun Scripted :=
  start (Scripted.start [{ reply := .refused .wouldBlock }, {}, { discards := 1 }] 0 2 false)
    ⟨[], 0, 0, [.idle]⟩ false

def trickleMoves : List ExportMove :=
  [.step, .step, .push 0 ⟨[1]⟩, .step, .count 0, .step, .push 0 ⟨[2]⟩, .step, .count 0, .step,
    .drop 0, .step, .step, .step, .step] ++ .stop :: [.step, .step]

def trickled : Queue :=
  ⟨[⟨[1]⟩, ⟨[2]⟩], 2, 0, [.dropped]⟩

theorem trickle_ends_as_filled :
    trickled.pending = trickle.queue.pending ++ trickleMoves.filterMap ExportMove.pushed? ∧
      trickle.StopsLate Scripted.transport trickleMoves ∧
      (trickle.follow Scripted.transport trickleMoves).exporter.phase = .finished ∧
      ∃ alone : List ExportMove, alone.filterMap ExportMove.pushed? = [] ∧
        (({ trickle with queue := trickled }).follow Scripted.transport alone).exporter.stats =
          ⟨1, 1, 1⟩ := by
  have same :
      trickled.pending = trickle.queue.pending ++ trickleMoves.filterMap ExportMove.pushed? := rfl
  have late : trickle.StopsLate Scripted.transport trickleMoves :=
    stopsLate_once (by simp) (by simp) (by decide)
  have finished : (trickle.follow Scripted.transport trickleMoves).exporter.phase = .finished := by
    decide
  obtain ⟨⟨alone, silent, late', finished'⟩, alike⟩ :=
    outcome_independent_of_schedule Scripted.transport _ same late finished
  refine ⟨same, late, finished, alone, silent, ?_⟩
  have ending := (alike alone silent late' finished').1
  exact (congrArg Exporter.stats ending).trans (by decide)

end ExportRun

end FlowProbe
