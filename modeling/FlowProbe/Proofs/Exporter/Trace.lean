import FlowProbe.Proofs.Exporter.Order
import FlowProbe.Proofs.Exporter.Run
import FlowProbe.Transport
import Mathlib.Algebra.Ring.Nat

set_option autoImplicit false

namespace FlowProbe

variable {τ : Type}

inductive Ending where
  | accepted
  | failed (cause : SystemFault)
  -- The transport could not take the record yet, and the stop request is found raised.
  | givenUp
  deriving DecidableEq

def Ending.reply : Ending → Reply
  | .accepted => .accepted
  | .failed cause => .refused (.fatal cause)
  | .givenUp => .refused .wouldBlock

def Ending.events (record : Record) (ending : Ending) : List ExportEvent :=
  .offered record ending.reply :: if ending = .givenUp then [.looked true] else []

-- All that is done with one record.
structure Stint where
  record : Record
  -- Attempts after which the record was offered again.
  refusals : Nat
  ending : Ending

namespace Stint

def refusal (record : Record) : List ExportEvent :=
  [.offered record (.refused .wouldBlock), .looked false]

def opening (record : Record) (refusals : Nat) : List ExportEvent :=
  .took record :: (List.replicate refusals (refusal record)).flatten

def events (stint : Stint) : List ExportEvent :=
  opening stint.record stint.refusals ++ stint.ending.events stint.record

def attempts (stint : Stint) : List (Record × Reply) :=
  List.replicate stint.refusals (stint.record, .refused .wouldBlock) ++
    [(stint.record, stint.ending.reply)]

theorem opening_succ (record : Record) (refusals : Nat) :
    opening record (refusals + 1) = opening record refusals ++ refusal record := by
  simp [opening, List.replicate_succ']

theorem took_opening (record : Record) (refusals : Nat) :
    (opening record refusals).filterMap ExportEvent.took? = [record] := by
  induction refusals with
  | zero => rfl
  | succ refusals ih =>
    rw [opening_succ, List.filterMap_append, ih]
    rfl

theorem attempts_opening (record : Record) (refusals : Nat) :
    (opening record refusals).filterMap ExportEvent.attempt? =
      List.replicate refusals (record, .refused .wouldBlock) := by
  induction refusals with
  | zero => rfl
  | succ refusals ih =>
    rw [opening_succ, List.filterMap_append, ih, List.replicate_succ']
    rfl

theorem took_events (stint : Stint) :
    stint.events.filterMap ExportEvent.took? = [stint.record] := by
  rw [events, List.filterMap_append, took_opening]
  cases ending : stint.ending <;> rfl

theorem attempts_events (stint : Stint) :
    stint.events.filterMap ExportEvent.attempt? = stint.attempts := by
  rw [events, List.filterMap_append, attempts_opening, attempts]
  cases ending : stint.ending <;> rfl

end Stint

namespace Exporter

inductive Unfinished : ExporterPhase → Nat → List ExportEvent → Prop where
  | polling : Unfinished .polling 0 []
  | starved : Unfinished .starved 0 []
  | finished : Unfinished .finished 0 []
  | offering (record : Record) (refusals : Nat) :
    Unfinished (.offering record) refusals (Stint.opening record refusals)
  | refused (record : Record) (refusals : Nat) :
    Unfinished (.refused record) refusals
      (Stint.opening record refusals ++ [.offered record (.refused .wouldBlock)])
  | crashed (record : Record) (refusals : Nat) :
    Unfinished .crashed refusals (Stint.opening record refusals ++ [.offered record .crashed])

/-- As long as the transport has lost nothing, the statistics tell how the last attempts ended. -/
structure Earned (stats : ExporterStats) (stints : List Stint) : Prop where
  sent : stats.sent = stints.countP (·.ending = .accepted)
  dropped : stats.dropped = stints.countP (·.ending ≠ .accepted)

structure Told (exporter : Exporter τ) (events : List ExportEvent) (lost : Nat)
    (stints : List Stint) (refusals : Nat) (rest : List ExportEvent) : Prop where
  events : events = stints.flatMap Stint.events ++ rest
  unfinished : Unfinished exporter.phase refusals rest
  retried : exporter.stats.retried = (stints.map Stint.refusals).sum + refusals
  earned : lost = 0 → Earned exporter.stats stints

variable {transport : Transport τ} {exporter after : Exporter τ} {queue : Queue}
  {events rest : List ExportEvent} {lost refusals : Nat} {stints : List Stint} {record : Record}

theorem discard_none (stats : ExporterStats) : stats.discard 0 = stats := by
  simp [ExporterStats.discard]

theorem earned_accepted {stats : ExporterStats} (earned : Earned stats stints) (record : Record)
    (refusals : Nat) :
    Earned (stats.afterReply .accepted) (stints ++ [⟨record, refusals, .accepted⟩]) := by
  constructor
  next => simp [ExporterStats.afterReply, earned.sent]
  next => simp [ExporterStats.afterReply, earned.dropped]

theorem earned_dropped {stats : ExporterStats} (earned : Earned stats stints) (record : Record)
    (refusals : Nat) {ending : Ending} (lost : ending ≠ .accepted) :
    Earned { stats with dropped := stats.dropped + 1 } (stints ++ [⟨record, refusals, ending⟩]) := by
  constructor
  next => simp [earned.sent, lost]
  next => simp [earned.dropped, lost]

theorem told_ending (told : exporter.Told events lost stints refusals rest) (stint : Stint)
    {tail : List ExportEvent} {more : Nat} (complete : rest ++ tail = stint.events)
    (same : stint.refusals = refusals) (phase : after.phase = .polling)
    (retried : after.stats.retried = exporter.stats.retried)
    (earned : more = 0 → Earned exporter.stats stints → Earned after.stats (stints ++ [stint])) :
    after.Told (events ++ tail) (lost + more) (stints ++ [stint]) 0 [] where
  events := by
    rw [told.events, List.append_assoc, complete]
    simp
  unfinished := phase ▸ .polling
  retried := by
    rw [retried, told.retried]
    simp [same]
  earned := fun none => by
    obtain ⟨before, now⟩ := Nat.add_eq_zero_iff.mp none
    exact earned now (told.earned before)

theorem retried_offer (transport : Transport τ) (exporter : Exporter τ) (record : Record) :
    (exporter.offer transport record).stats.retried = exporter.stats.retried := by
  rw [offer]
  rcases transport.offer exporter.transport record with ⟨reply, state⟩
  cases reply with
  | accepted => rfl
  | refused failure => cases failure <;> rfl
  | crashed => rfl

theorem stats_offer (transport : Transport τ) (exporter : Exporter τ) (record : Record)
    (lossless : (transport.takeDiscarded (transport.offer exporter.transport record).2).1 = 0) :
    (exporter.offer transport record).stats =
      match (transport.offer exporter.transport record).1 with
      | .refused (.fatal _) => { exporter.stats with dropped := exporter.stats.dropped + 1 }
      | reply => exporter.stats.afterReply reply := by
  rw [offer]
  cases answer : transport.offer exporter.transport record with
  | mk reply state =>
    rw [answer] at lossless
    cases reply with
    | accepted => simp [lossless, discard_none]
    | refused failure => cases failure <;> simp [lossless, discard_none, ExporterStats.afterReply]
    | crashed => rfl

theorem told_meanwhile (told : exporter.Told events lost stints refusals rest)
    {tail : List ExportEvent} {more : Nat} (unfinished : Unfinished after.phase refusals (rest ++ tail))
    (retried : after.stats.retried = exporter.stats.retried)
    (earned : more = 0 → Earned exporter.stats stints → Earned after.stats stints) :
    after.Told (events ++ tail) (lost + more) stints refusals (rest ++ tail) where
  events := by rw [told.events, List.append_assoc]
  unfinished := unfinished
  retried := retried.trans told.retried
  earned := fun none => by
    obtain ⟨before, now⟩ := Nat.add_eq_zero_iff.mp none
    exact earned now (told.earned before)

theorem told_offer (told : exporter.Told events lost stints refusals rest)
    (phase : exporter.phase = .offering record) :
    ∃ stints' refusals' rest', (exporter.offer transport record).Told
      (events ++ [.offered record (transport.offer exporter.transport record).1])
      (lost + (transport.takeDiscarded (transport.offer exporter.transport record).2).1)
      stints' refusals' rest' := by
  have unfinished := phase ▸ told.unfinished
  have follows := phase_of_reply transport exporter record
  have retried := retried_offer transport exporter record
  have stats := stats_offer transport exporter record
  generalize (transport.offer exporter.transport record).1 = reply at follows stats ⊢
  cases unfinished with
  | offering record refusals =>
    cases reply with
    | accepted =>
      refine ⟨_, _, _, told_ending told ⟨record, refusals, .accepted⟩ rfl rfl follows retried ?_⟩
      intro lossless earned
      rw [stats lossless]
      exact earned_accepted earned record refusals
    | refused failure =>
      cases failure with
      | wouldBlock =>
        refine ⟨_, _, _, told_meanwhile told ?_ retried ?_⟩
        next =>
          rw [follows]
          exact .refused record refusals
        next =>
          intro lossless earned
          rw [stats lossless]
          exact earned
      | fatal cause =>
        refine ⟨_, _, _, told_ending told ⟨record, refusals, .failed cause⟩ rfl rfl follows retried ?_⟩
        intro lossless earned
        rw [stats lossless]
        exact earned_dropped earned record refusals nofun
    | crashed =>
      refine ⟨_, _, _, told_meanwhile told ?_ retried ?_⟩
      next =>
        rw [follows]
        exact .crashed record refusals
      next =>
        intro lossless earned
        rw [stats lossless]
        exact earned

theorem told_step (transport : Transport τ)
    (told : exporter.Told events lost stints refusals rest) (raised : Bool) (queue : Queue) :
    ∃ stints' refusals' rest', (exporter.step transport raised queue).1.Told
      (events ++ exporter.events transport raised queue)
      (lost + exporter.reported transport raised) stints' refusals' rest' := by
  have unfinished := told.unfinished
  cases phase : exporter.phase with
  | polling =>
    simp only [step, Exporter.events, reported, phase] at unfinished ⊢
    cases unfinished with
    | polling =>
      cases waiting : queue.pending with
      | nil =>
        simp only [Queue.dequeue, waiting]
        exact ⟨_, _, _, told_meanwhile told .starved rfl fun _ earned => earned⟩
      | cons record later =>
        simp only [Queue.dequeue, waiting]
        exact ⟨_, _, _, told_meanwhile told (.offering record 0) rfl fun _ earned => earned⟩
  | starved =>
    simp only [step, Exporter.events, reported, phase] at unfinished ⊢
    cases unfinished with
    | starved =>
      cases raised with
      | true =>
        refine ⟨_, _, _, told_meanwhile told .finished rfl fun none earned => ?_⟩
        have lossless : (transport.finish exporter.transport).1 = 0 := none
        simp only [if_true, close, lossless, discard_none]
        exact earned
      | false => exact ⟨_, _, _, told_meanwhile told .polling rfl fun _ earned => earned⟩
  | offering record =>
    simp only [step, Exporter.events, reported, phase]
    exact told_offer told phase
  | refused record =>
    simp only [step, Exporter.events, reported, phase] at unfinished ⊢
    cases unfinished with
    | refused record refusals =>
      cases raised with
      | true =>
        refine ⟨_, _, _, told_ending told ⟨record, refusals, .givenUp⟩ ?_ rfl rfl rfl ?_⟩
        next => exact List.append_assoc ..
        next => exact fun _ earned => earned_dropped earned record refusals (by decide)
      | false =>
        refine ⟨stints, refusals + 1, _, ?_, .offering record (refusals + 1), ?_, fun none => ?_⟩
        next =>
          rw [told.events, Stint.opening_succ, List.append_assoc, List.append_assoc]
          rfl
        next => exact congrArg (· + 1) told.retried
        next => exact ⟨(told.earned none).sent, (told.earned none).dropped⟩
  | finished =>
    simp only [step, Exporter.events, reported, phase, List.append_nil]
    exact ⟨stints, refusals, rest, told.events, unfinished, told.retried, told.earned⟩
  | crashed =>
    simp only [step, Exporter.events, reported, phase, List.append_nil]
    exact ⟨stints, refusals, rest, told.events, unfinished, told.retried, told.earned⟩

theorem told_start (state : τ) : (start state).Told [] 0 [] 0 [] :=
  ⟨rfl, .polling, rfl, fun _ => ⟨rfl, rfl⟩⟩

theorem took_step (transport : Transport τ) (raised : Bool) (exporter : Exporter τ)
    (queue : Queue) :
    (exporter.events transport raised queue).filterMap ExportEvent.took? ++
      (exporter.step transport raised queue).2.pending = queue.pending := by
  rw [queue_step, Exporter.events]
  cases phase : exporter.phase with
  | polling => cases waiting : queue.pending <;> simp [Queue.dequeue, waiting, ExportEvent.took?]
  | starved => rfl
  | offering record => rfl
  | refused record => rfl
  | finished => rfl
  | crashed => rfl

-- The most steps that are left when the stop request is raised and nothing comes in.
def stepsLeft (exporter : Exporter τ) (queue : Queue) : Nat :=
  match exporter.phase with
  | .polling => 3 * queue.pending.length + 2
  | .starved => 1
  | .offering _ => 3 * queue.pending.length + 4
  | .refused _ => 3 * queue.pending.length + 3
  | .finished => 0
  | .crashed => 0

theorem stepsLeft_step (transport : Transport τ) (exporter : Exporter τ) (queue : Queue)
    (running : exporter.hasEnded = false) :
    (exporter.step transport true queue).1.stepsLeft (exporter.step transport true queue).2 <
      exporter.stepsLeft queue := by
  rw [queue_step]
  cases phase : exporter.phase with
  | polling =>
    cases waiting : queue.pending with
    | nil => simp [step, phase, stepsLeft, Queue.dequeue, waiting]
    | cons record later =>
      simp only [step, phase, stepsLeft, Queue.dequeue, waiting, if_true, List.length_cons]
      omega
  | starved => simp [step, phase, stepsLeft, close]
  | offering record =>
    simp only [step, phase, reduceCtorEq, if_false]
    rcases phase_offer transport exporter record with after | after | after
    next => simp [stepsLeft, phase, after]
    next => simp [stepsLeft, phase, after]
    next => simp [stepsLeft, phase, after]
  | refused record => simp [step, phase, stepsLeft]
  | finished => simp [hasEnded, phase] at running
  | crashed => simp [hasEnded, phase] at running

def Dry (exporter : Exporter τ) (queue : Queue) : Prop :=
  exporter.phase = .starved ∨ exporter.phase = .finished → queue.pending = []

theorem dry_step (transport : Transport τ) (raised : Bool) (dry : exporter.Dry queue) :
    (exporter.step transport raised queue).1.Dry (exporter.step transport raised queue).2 := by
  rw [queue_step]
  cases phase : exporter.phase with
  | polling => cases waiting : queue.pending <;> simp [Dry, step, phase, Queue.dequeue, waiting]
  | starved => exact fun _ => dry (.inl phase)
  | offering record =>
    simp only [Dry, step, phase]
    rcases phase_offer transport exporter record with after | after | after <;> simp [after]
  | refused record => cases raised <;> simp [Dry, step, phase]
  | finished => exact fun _ => dry (.inr phase)
  | crashed => simp [Dry, step, phase]

end Exporter

def ExportMove.pushed? : ExportMove → Option Record
  | .push _ record => some record
  | _ => none

namespace ExportRun

def happens (transport : Transport τ) (run : ExportRun τ) : ExportMove → List ExportEvent
  | .step => run.exporter.events transport run.stopRaised run.queue
  | _ => []

def story (transport : Transport τ) : ExportRun τ → List ExportMove → List ExportEvent
  | _, [] => []
  | run, move :: moves => run.happens transport move ++ story transport (run.act transport move) moves

def reported (transport : Transport τ) (run : ExportRun τ) : ExportMove → Nat
  | .step => run.exporter.reported transport run.stopRaised
  | _ => 0

def losses (transport : Transport τ) : ExportRun τ → List ExportMove → Nat
  | _, [] => 0
  | run, move :: moves => run.reported transport move + losses transport (run.act transport move) moves

variable {transport : Transport τ} {run : ExportRun τ} {events rest : List ExportEvent}
  {lost refusals : Nat} {stints : List Stint}

theorem story_append (transport : Transport τ) (run : ExportRun τ) (moves more : List ExportMove) :
    run.story transport (moves ++ more) =
      run.story transport moves ++ (run.follow transport moves).story transport more := by
  induction moves generalizing run with
  | nil => rfl
  | cons move moves ih =>
    rw [List.cons_append, story, ih, story, List.append_assoc]
    rfl

theorem losses_append (transport : Transport τ) (run : ExportRun τ) (moves more : List ExportMove) :
    run.losses transport (moves ++ more) =
      run.losses transport moves + (run.follow transport moves).losses transport more := by
  induction moves generalizing run with
  | nil => exact (Nat.zero_add _).symm
  | cons move moves ih =>
    rw [List.cons_append, losses, ih, losses, Nat.add_assoc]
    rfl

theorem told_act (transport : Transport τ)
    (told : run.exporter.Told events lost stints refusals rest) (move : ExportMove) :
    ∃ stints' refusals' rest', (run.act transport move).exporter.Told
      (events ++ run.happens transport move) (lost + run.reported transport move)
      stints' refusals' rest' := by
  cases move with
  | step => exact Exporter.told_step transport told run.stopRaised run.queue
  | _ =>
    simp only [happens, List.append_nil]
    exact ⟨stints, refusals, rest, told⟩

theorem told_follow (transport : Transport τ)
    (told : run.exporter.Told events lost stints refusals rest) (moves : List ExportMove) :
    ∃ stints' refusals' rest', (run.follow transport moves).exporter.Told
      (events ++ run.story transport moves) (lost + run.losses transport moves)
      stints' refusals' rest' := by
  induction moves generalizing run events lost stints refusals rest with
  | nil =>
    simp only [story, List.append_nil]
    exact ⟨stints, refusals, rest, told⟩
  | cons move moves ih =>
    obtain ⟨_, _, _, next⟩ := told_act transport told move
    have later := ih next
    simp only [List.append_assoc, Nat.add_assoc] at later
    exact later

theorem took_follow (transport : Transport τ) (run : ExportRun τ) (moves : List ExportMove) :
    (run.story transport moves).filterMap ExportEvent.took? ++
        (run.follow transport moves).queue.pending =
      run.queue.pending ++ moves.filterMap ExportMove.pushed? := by
  induction moves generalizing run with
  | nil => simp [story, follow]
  | cons move moves ih =>
    have later := ih (run.act transport move)
    cases move with
    | step =>
      have now := run.exporter.took_step transport run.stopRaised run.queue
      rw [story, List.filterMap_append, List.append_assoc]
      exact (congrArg _ later).trans (by rw [← List.append_assoc]; exact congrArg (· ++ _) now)
    | push producer record => exact later.trans (List.append_assoc ..)
    | count producer => exact later
    | clone => exact later
    | drop producer => exact later
    | stop => exact later

theorem dry_follow (dry : run.exporter.Dry run.queue) {moves : List ExportMove}
    (nothing : moves.filterMap ExportMove.pushed? = []) :
    (run.follow transport moves).exporter.Dry (run.follow transport moves).queue := by
  induction moves generalizing run with
  | nil => exact dry
  | cons move moves ih =>
    cases move with
    | push producer record => simp [ExportMove.pushed?] at nothing
    | step => exact ih (Exporter.dry_step transport run.stopRaised dry) nothing
    | count producer => exact ih dry nothing
    | clone => exact ih dry nothing
    | drop producer => exact ih dry nothing
    | stop => exact ih dry nothing

theorem ended_of_stopped (transport : Transport τ) (raised : run.stopRaised = true) :
    ∃ steps, (run.follow transport (List.replicate steps .step)).exporter.hasEnded = true := by
  induction left : run.exporter.stepsLeft run.queue using Nat.strongRecOn generalizing run with
  | ind left ih =>
    cases running : run.exporter.hasEnded with
    | true => exact ⟨0, running⟩
    | false =>
      have fewer := run.exporter.stepsLeft_step transport run.queue running
      rw [← raised] at fewer
      obtain ⟨steps, ended⟩ := @ih _ (left ▸ fewer) (run.act transport .step) raised rfl
      exact ⟨steps + 1, ended⟩

/-- For any transport, with producers that add records and a stop request that comes at any moment.
What the exporter does is one stint after another, one for each record in the order of the queue, and
what it has done so far with the record in hand. All but the last attempts of a stint are refused for
the time being, and no attempt follows the last. Those attempts are counted as retried. If the
transport reports no losses, as many records are sent as were accepted, and all others of them are
dropped. A run that has ended has left no record behind that did not come in meanwhile, and it does
end when it is asked to stop. -/
theorem attempts_come_in_stints (transport : Transport τ) (state : τ) (queue : Queue)
    (stopRaised : Bool) (moves : List ExportMove) :
    let first := start state queue stopRaised
    let run := first.follow transport moves
    let story := first.story transport moves
    (∃ stints refusals rest,
      story = stints.flatMap Stint.events ++ rest ∧
        Exporter.Unfinished run.exporter.phase refusals rest ∧
        story.filterMap ExportEvent.attempt? =
          stints.flatMap Stint.attempts ++ rest.filterMap ExportEvent.attempt? ∧
        stints.map Stint.record ++ rest.filterMap ExportEvent.took? ++ run.queue.pending =
          queue.pending ++ moves.filterMap ExportMove.pushed? ∧
        run.exporter.stats.retried = (stints.map Stint.refusals).sum + refusals ∧
        (first.losses transport moves = 0 → Exporter.Earned run.exporter.stats stints) ∧
        (run.exporter.phase = .finished → rest = [] ∧ refusals = 0)) ∧
      (run.exporter.phase = .finished → moves.filterMap ExportMove.pushed? = [] →
        run.queue.pending = []) ∧
      ∃ steps, ((run.act transport .stop).follow transport
        (List.replicate steps .step)).exporter.hasEnded = true := by
  intro first run story
  refine ⟨?_, ?_, ended_of_stopped transport rfl⟩
  next =>
    have untold : first.exporter.Told [] 0 [] 0 [] := Exporter.told_start state
    obtain ⟨stints, refusals, rest, told⟩ := told_follow transport untold moves
    rw [List.nil_append, Nat.zero_add] at told
    have taken := took_follow transport first moves
    rw [told.events, List.filterMap_append, List.filterMap_flatMap] at taken
    refine ⟨stints, refusals, rest, told.events, told.unfinished, ?_, ?_, told.retried, told.earned,
      fun finished => ?_⟩
    next =>
      have told := told.events
      rw [show story = _ from told, List.filterMap_append, List.filterMap_flatMap]
      simp only [Stint.attempts_events]
    next =>
      simp only [Stint.took_events] at taken
      rw [← List.map_eq_flatMap] at taken
      exact taken
    next =>
      have unfinished := finished ▸ told.unfinished
      cases unfinished
      exact ⟨rfl, rfl⟩
  next =>
    intro finished nothing
    have dry : first.exporter.Dry first.queue := by simp [first, start, Exporter.start, Exporter.Dry]
    exact dry_follow dry nothing (.inr finished)

-- The first record is accepted at its second attempt, the second is given up.
example :
    let blocked : Cue := { reply := .refused .wouldBlock }
    let first := start (Scripted.start [blocked, {}, blocked] 0 2 false)
      ⟨[⟨[1]⟩, ⟨[2]⟩], 2, 0, []⟩ false
    (first.story Scripted.transport
        (List.replicate 6 .step ++ .stop :: List.replicate 3 .step)).filterMap ExportEvent.attempt? =
      [(⟨[1]⟩, .refused .wouldBlock), (⟨[1]⟩, .accepted), (⟨[2]⟩, .refused .wouldBlock)] := rfl

end ExportRun

end FlowProbe
