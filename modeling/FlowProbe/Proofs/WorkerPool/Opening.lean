import FlowProbe.Proofs.Hub.Membership
import FlowProbe.Proofs.WorkerPool.Crew

set_option autoImplicit false

namespace FlowProbe

namespace Hub

variable {hub : Hub} {device : String} {group : UInt16}

/-- Why a channel is refused after so many `earlier` ones were opened. -/
def refusal? (hub : Hub) (device : String) (group : UInt16) (earlier : Nat) :
    Option CaptureFailure :=
  if device ≠ hub.device then some (.noSuchDevice device)
  else
    match hub.bind group with
    | .error failure => some failure
    | .ok _ =>
      if hub.budget.any (· ≤ earlier) then
        some (.fanoutJoinFailed group ⟨"join rejected"⟩)
      else none

theorem bind_bound (bound : hub.group = some group) : hub.bind group = .ok hub := by
  simp only [bind, bound, if_true]

theorem refusal?_of_bind {bound : Hub} (own : device = hub.device)
    (binds : hub.bind group = .ok bound) (earlier : Nat) :
    hub.refusal? device group earlier = if hub.budget.any (· ≤ earlier) then
      some (.fanoutJoinFailed group ⟨"join rejected"⟩) else none := by
  simp only [refusal?, own, ne_eq, not_true_eq_false, if_false, binds]

theorem openChannel_refused {failure : CaptureFailure}
    (refused : hub.refusal? device group 0 = some failure) :
    ∃ after, hub.openChannel device group = (.error failure, after) ∧
      after.members = hub.members := by
  unfold openChannel
  by_cases own : device = hub.device
  next =>
    rw [if_neg (not_not.mpr own)]
    cases binds : hub.bind group with
    | error cause =>
      simp only [refusal?, own, ne_eq, not_true_eq_false, if_false, binds] at refused
      exact ⟨hub, by rw [Option.some.inj refused], rfl⟩
    | ok bound =>
      rw [refusal?_of_bind own binds] at refused
      simp only [bind_eq binds, spend]
      cases budget : hub.budget with
      | none => simp [budget] at refused
      | some joins =>
        cases joins with
        | zero =>
          have rejected : .fanoutJoinFailed group ⟨"join rejected"⟩ = failure := by
            simpa [budget] using refused
          refine ⟨_, by rw [rejected], ?_⟩
          rfl
        | succ joins => simp [budget] at refused
  next =>
    simp only [refusal?, ne_eq, own, not_false_eq_true, if_true] at refused
    rw [if_pos own]
    exact ⟨hub, by rw [Option.some.inj refused], rfl⟩

theorem refusal?_next {bound after : Hub} (own : device = hub.device)
    (binds : hub.bind group = .ok bound) (same : after.device = hub.device)
    (joined : after.group = some group)
    (fewer : ∀ later, after.budget.any (· ≤ later) = hub.budget.any (· ≤ later + 1))
    (later : Nat) : after.refusal? device group later = hub.refusal? device group (later + 1) := by
  rw [refusal?_of_bind (own.trans same.symm) (bind_bound joined), refusal?_of_bind own binds, fewer]

theorem openChannel_admitted (admitted : hub.refusal? device group 0 = none) :
    ∃ after, hub.openChannel device group = (.ok hub.nextId, after) ∧
      after.members = hub.members ++ [⟨hub.nextId, [], false⟩] ∧
      after.nextId = hub.nextId + 1 ∧
      ∀ later, after.refusal? device group later = hub.refusal? device group (later + 1) := by
  by_cases own : device = hub.device
  next =>
    cases binds : hub.bind group with
    | error cause => simp [refusal?, own, binds] at admitted
    | ok bound =>
      rw [refusal?_of_bind own binds] at admitted
      simp only [openChannel, if_neg (not_not.mpr own), binds, bind_eq binds, spend]
      cases budget : hub.budget with
      | none =>
        refine ⟨_, rfl, rfl, rfl, refusal?_next own binds rfl rfl fun later => ?_⟩
        simp [join, budget]
      | some joins =>
        cases joins with
        | zero => simp [budget] at admitted
        | succ joins =>
          refine ⟨_, rfl, rfl, rfl, refusal?_next own binds rfl rfl fun later => ?_⟩
          simp [join, budget]
  next => simp [refusal?, own] at admitted

theorem leave_newest {rest : List Mailbox} {newest : Mailbox}
    (members : hub.members = rest ++ [newest])
    (others : ∀ mailbox ∈ rest, mailbox.id ≠ newest.id) :
    (hub.leave newest.id).members = rest := by
  simpa [leave, members] using others

end Hub

namespace Queue

-- The queue with more producers, of which the last ones are gone again.
def joinedBy (queue : Queue) (idle gone : Nat) : Queue :=
  { queue with
    producers := queue.producers ++ List.replicate idle .idle ++ List.replicate gone .dropped }

theorem clone_joinedBy (queue : Queue) (idle : Nat) :
    (queue.joinedBy idle 0).clone = queue.joinedBy (idle + 1) 0 := by
  simp [joinedBy, clone, List.replicate_succ']

theorem drop_joinedBy (queue : Queue) (idle gone : Nat) :
    (queue.joinedBy (idle + 1) gone).drop (queue.producers.length + idle) =
      queue.joinedBy idle (gone + 1) := by
  have newest : List.replicate (idle + 1) Producer.idle = List.replicate idle .idle ++ [.idle] :=
    List.replicate_succ'
  have behind : queue.producers.length + idle =
      (queue.producers ++ List.replicate idle Producer.idle).length := by simp
  simp only [joinedBy, drop]
  rw [newest, behind, ← List.append_assoc, List.append_assoc _ [_],
    List.set_append_right _ _ (Nat.le_refl _)]
  simp [List.replicate_succ]

theorem live_joinedBy (queue : Queue) (idle gone : Nat) :
    (queue.joinedBy idle gone).live = queue.live + idle := by
  simp [joinedBy, live, List.countP_replicate]

end Queue

-- What a hub holds for a worker that has not run.
def Worker.mailbox {σ : Type} (worker : Worker σ) : Mailbox :=
  ⟨worker.channel, [], false⟩

namespace WorkerPool

variable {σ : Type}

/-- Why the worker of an index cannot be made, if all before it can. -/
def failureAt? (plan : Plan Hub σ) (hub : Hub) (count index : Nat) : Option PoolFailure :=
  match hub.refusal? plan.device plan.group index with
  | some cause => some (.capture index cause)
  | none =>
    match plan.classifierFor ⟨index, count⟩ with
    | .error failure => some failure
    | .ok _ => none

/-- The first workers of a pool. Each has the next channel of the hub, the next producer of the queue
and a classifier of its own. -/
def Made (plan : Plan Hub σ) (hub : Hub) (queue : Queue) (count : Nat) (workers : List (Worker σ)) :
    Prop :=
  ∀ (index : Nat) (worker : Worker σ), workers[index]? = some worker →
    worker.id = ⟨index, count⟩ ∧ worker.channel = hub.nextId + index ∧
      worker.producer = queue.producers.length + index ∧
      plan.classifierFor ⟨index, count⟩ = .ok worker.classifier

-- All as it was, with what the workers have, with producers that are gone, and with workers that
-- were released since.
structure Standing (before : Bench Hub) (workers : List (Worker σ)) (gone : Nat)
    (freed : List WorkerId) (bench : Bench Hub) : Prop where
  members : bench.site.captures.members =
    before.site.captures.members ++ workers.map Worker.mailbox
  queued : bench.site.queue = before.site.queue.joinedBy workers.length gone
  classifiers : bench.classifiers = before.classifiers + workers.length
  released : bench.released = before.released ++ freed

structure Opening (plan : Plan Hub σ) (before : Bench Hub) (count : Nat)
    (workers : List (Worker σ)) (bench : Bench Hub) : Prop where
  made : Made plan before.site.captures before.site.queue count workers
  standing : Standing before workers 0 [] bench
  next : bench.site.captures.nextId = before.site.captures.nextId + workers.length
  refusals : ∀ later, bench.site.captures.refusal? plan.device plan.group later =
    before.site.captures.refusal? plan.device plan.group (later + workers.length)

variable {plan : Plan Hub σ} {hub : Hub} {queue : Queue} {before bench : Bench Hub} {count : Nat}
  {workers : List (Worker σ)}

theorem made_concat {worker : Worker σ} (made : Made plan hub queue count workers)
    (id : worker.id = ⟨workers.length, count⟩) (channel : worker.channel = hub.nextId + workers.length)
    (producer : worker.producer = queue.producers.length + workers.length)
    (classifier : plan.classifierFor ⟨workers.length, count⟩ = .ok worker.classifier) :
    Made plan hub queue count (workers ++ [worker]) :=
  forall_concat made ⟨id, channel, producer, classifier⟩

theorem made_init {worker : Worker σ} (made : Made plan hub queue count (workers ++ [worker])) :
    Made plan hub queue count workers := by
  intro index other found
  have bound := (List.getElem?_eq_some_iff.mp found).1
  exact made index other (by rwa [List.getElem?_append_left bound])

theorem older_channels (numbered : hub.Numbered) (made : Made plan hub queue count workers) :
    ∀ mailbox ∈ hub.members ++ workers.map Worker.mailbox,
      mailbox.id ≠ hub.nextId + workers.length := by
  intro mailbox member
  apply Nat.ne_of_lt
  rcases List.mem_append.mp member with before | own
  next =>
    have given := numbered.given mailbox.id (List.mem_map_of_mem before)
    omega
  next =>
    obtain ⟨worker, there, rfl⟩ := List.mem_map.mp own
    obtain ⟨index, found⟩ := List.getElem?_of_mem there
    obtain ⟨-, channel, -, -⟩ := made index worker found
    have bound := (List.getElem?_eq_some_iff.mp found).1
    change worker.channel < _
    rw [channel]
    exact Nat.add_lt_add_left bound _

theorem openWorker_failed (onHub : plan.capture = Hub.capture)
    (numbered : before.site.captures.Numbered) (opening : Opening plan before count workers bench)
    {failure : PoolFailure}
    (fails : failureAt? plan before.site.captures count workers.length = some failure) :
    ∃ left, openWorker plan ⟨workers.length, count⟩ bench = (.error failure, left) ∧
      Standing before workers 1 [] left := by
  obtain ⟨made, ⟨members, queued, classifiers, released⟩, next, refusals⟩ := opening
  have dropped : bench.site.queue.clone.drop bench.site.queue.producers.length =
      before.site.queue.joinedBy workers.length 1 := by
    have length : (before.site.queue.joinedBy workers.length 0).producers.length =
        before.site.queue.producers.length + workers.length := by simp [Queue.joinedBy]
    rw [queued, Queue.clone_joinedBy, length, Queue.drop_joinedBy]
  have now := refusals 0
  rw [Nat.zero_add] at now
  simp only [failureAt?, ← now] at fails
  simp only [openWorker, onHub, Hub.capture, dropped]
  cases refused : bench.site.captures.refusal? plan.device plan.group 0 with
  | some cause =>
    obtain ⟨after, told, same⟩ := Hub.openChannel_refused refused
    simp only [refused, Option.some.injEq] at fails
    simp only [told, fails]
    exact ⟨_, rfl, same.trans members, rfl, classifiers, released⟩
  | none =>
    -- The channel has joined already and leaves again.
    obtain ⟨after, opened, joined, -, -⟩ := Hub.openChannel_admitted refused
    simp only [refused] at fails
    simp only [opened]
    cases made' : plan.classifierFor ⟨workers.length, count⟩ with
    | ok classifier => simp [made'] at fails
    | error cause =>
      simp only [made', Option.some.injEq] at fails
      subst fails
      have others : ∀ mailbox ∈ bench.site.captures.members,
          mailbox.id ≠ bench.site.captures.nextId := by
        rw [members, next]
        exact older_channels numbered made
      exact ⟨_, rfl, (Hub.leave_newest joined others).trans members, rfl, classifiers, released⟩

theorem openWorker_done (onHub : plan.capture = Hub.capture)
    (opening : Opening plan before count workers bench)
    (succeeds : failureAt? plan before.site.captures count workers.length = none) :
    ∃ worker left, openWorker plan ⟨workers.length, count⟩ bench = (.ok worker, left) ∧
      Opening plan before count (workers ++ [worker]) left := by
  obtain ⟨made, ⟨members, queued, classifiers, released⟩, next, refusals⟩ := opening
  have now := refusals 0
  rw [Nat.zero_add] at now
  simp only [failureAt?, ← now] at succeeds
  simp only [openWorker, onHub, Hub.capture]
  cases refused : bench.site.captures.refusal? plan.device plan.group 0 with
  | some cause => simp [refused] at succeeds
  | none =>
    obtain ⟨after, opened, joined, next', fewer⟩ := Hub.openChannel_admitted refused
    simp only [refused] at succeeds
    simp only [opened]
    cases made' : plan.classifierFor ⟨workers.length, count⟩ with
    | error cause => simp [made'] at succeeds
    | ok classifier =>
      refine ⟨_, _, rfl, made_concat made rfl next ?_ made', ⟨?_, ?_, ?_, released⟩, ?_,
        fun later => ?_⟩
      next => simp [queued, Queue.joinedBy]
      next => simp [joined, members, Worker.mailbox]
      next => rw [queued, Queue.clone_joinedBy, List.length_append, List.length_singleton]
      next => rw [classifiers, List.length_append, List.length_singleton, Nat.add_assoc]
      next => rw [next', next, List.length_append, List.length_singleton, Nat.add_assoc]
      next =>
        rw [fewer, refusals, List.length_append, List.length_singleton]
        congr 1
        omega

theorem standing_release {worker : Worker σ} (numbered : before.site.captures.Numbered)
    (made : Made plan before.site.captures before.site.queue count (workers ++ [worker]))
    {gone : Nat} {freed : List WorkerId}
    (standing : Standing before (workers ++ [worker]) gone freed bench) :
    Standing before workers (gone + 1) (freed ++ [worker.id])
      (bench.release Hub.capture worker) := by
  obtain ⟨-, channel, producer, -⟩ := made workers.length worker List.getElem?_concat_length
  obtain ⟨members, queued, classifiers, released⟩ := standing
  rw [List.length_append, List.length_singleton] at queued classifiers
  constructor
  case members =>
    rw [List.map_append, ← List.append_assoc] at members
    have others := older_channels numbered (made_init made)
    rw [← channel] at others
    exact Hub.leave_newest members others
  case queued => simp only [Bench.release, Worker.release, queued, producer, Queue.drop_joinedBy]
  case classifiers => exact Nat.sub_eq_of_eq_add classifiers
  case released => simp only [Bench.release, released, List.append_assoc]

theorem standing_releaseAll (numbered : before.site.captures.Numbered)
    (made : Made plan before.site.captures before.site.queue count workers) {gone : Nat}
    {freed : List WorkerId} (standing : Standing before workers gone freed bench) :
    Standing before ([] : List (Worker σ)) (gone + workers.length)
      (freed ++ workers.reverse.map Worker.id) (bench.releaseAll Hub.capture workers) := by
  induction workers using List.reverseRecOn generalizing gone freed bench with
  | nil => simpa [Bench.releaseAll] using standing
  | append_singleton workers worker ih =>
    have all := ih (made_init made) (standing_release numbered made standing)
    rw [Bench.releaseAll, List.foldr_append, List.length_append, List.length_singleton,
      List.reverse_append, List.map_append]
    rwa [Nat.add_right_comm, Nat.add_assoc, List.append_assoc] at all

theorem extend_cases (onHub : plan.capture = Hub.capture)
    (numbered : before.site.captures.Numbered) (opening : Opening plan before count workers bench)
    (missing : Nat) :
    (∃ all left, extend plan count missing workers bench = (.ok all, left) ∧
      all.length = workers.length + missing ∧ Opening plan before count all left ∧
      ∀ index, workers.length ≤ index → index < all.length →
        failureAt? plan before.site.captures count index = none) ∨
    ∃ failure made between,
      extend plan count missing workers bench =
        (.error failure, between.releaseAll plan.capture made) ∧
      made.length < workers.length + missing ∧
      failureAt? plan before.site.captures count made.length = some failure ∧
      Made plan before.site.captures before.site.queue count made ∧
      Standing before made 1 [] between ∧
      ∀ index, workers.length ≤ index → index < made.length →
        failureAt? plan before.site.captures count index = none := by
  induction missing generalizing workers bench with
  | zero => exact .inl ⟨workers, bench, rfl, rfl, opening, by omega⟩
  | succ missing ih =>
    cases fails : failureAt? plan before.site.captures count workers.length with
    | some failure =>
      obtain ⟨left, failed, standing⟩ := openWorker_failed onHub numbered opening fails
      refine .inr ⟨failure, workers, left, ?_, by omega, fails, opening.made, standing, by omega⟩
      simp only [extend, failed]
    | none =>
      obtain ⟨worker, left, done, longer⟩ := openWorker_done onHub opening fails
      have length : (workers ++ [worker]).length = workers.length + 1 := by simp
      have fromHere {bound : Nat} (none_fails : ∀ index, (workers ++ [worker]).length ≤ index →
          index < bound → failureAt? plan before.site.captures count index = none) :
          ∀ index, workers.length ≤ index → index < bound →
            failureAt? plan before.site.captures count index = none := by
        intro index least below
        rcases Nat.eq_or_lt_of_le least with rfl | more
        next => exact fails
        next => exact none_fails index (length ▸ more) below
      simp only [extend, done]
      rcases ih longer with ⟨all, final, filled, many, opened, none_fails⟩ |
        ⟨failure, made, between, undone, bound, first, those, standing, none_fails⟩
      next => exact .inl ⟨all, final, filled, by omega, opened, fromHere none_fails⟩
      next =>
        exact .inr ⟨failure, made, between, undone, by omega, first, those, standing,
          fromHere none_fails⟩

theorem opening_start (plan : Plan Hub σ) (before : Bench Hub) (count : Nat) :
    Opening plan before count [] before where
  made := nofun
  standing := ⟨by simp, by simp [Queue.joinedBy], rfl, by simp⟩
  next := rfl
  refusals := fun _ => rfl

theorem opening_openAll {site left : Site Hub} (onHub : plan.capture = Hub.capture)
    (numbered : site.captures.Numbered)
    (opened : openAll plan count site = (.ok workers, left)) :
    workers.length = count ∧
      ∃ bench, bench.site = left ∧ Opening plan ⟨site, 0, []⟩ count workers bench := by
  obtain ⟨-, bench, extended, own⟩ := extend_of_openAll opened
  rcases extend_cases onHub numbered (opening_start plan ⟨site, 0, []⟩ count) count with
    ⟨all, final, filled, length, opening, -⟩ | ⟨failure, made, between, undone, -⟩
  next =>
    cases filled.symm.trans extended
    exact ⟨by simpa using length, bench, own, opening⟩
  next => exact nomatch undone.symm.trans extended

theorem channels_of_made (made : Made plan hub queue count workers) :
    workers.map Worker.channel = (List.range workers.length).map (hub.nextId + ·) := by
  refine List.ext_getElem (by simp) fun index bound _ => ?_
  rw [List.length_map] at bound
  have own := (made index workers[index] (List.getElem?_eq_getElem bound)).2.1
  simpa using own

theorem numbered_opening (numbered : before.site.captures.Numbered)
    (opening : Opening plan before count workers bench) : bench.site.captures.Numbered := by
  have ids : bench.site.captures.ids = before.site.captures.ids ++
      (List.range workers.length).map (before.site.captures.nextId + ·) := by
    rw [← channels_of_made opening.made]
    simp [Hub.ids, opening.standing.members, Worker.mailbox, Function.comp_def]
  have next := opening.next
  constructor
  case rising =>
    rw [ids, List.pairwise_append]
    refine ⟨numbered.rising, ?_, ?_⟩
    next => exact List.pairwise_lt_range.map _ fun _ _ less => Nat.add_lt_add_left less _
    next =>
      intro old before new added
      obtain ⟨index, -, rfl⟩ := List.mem_map.mp added
      exact Nat.lt_of_lt_of_le (numbered.given old before) (Nat.le_add_right _ _)
  case given =>
    intro id member
    rw [ids] at member
    rcases List.mem_append.mp member with old | new
    next =>
      have given := numbered.given id old
      omega
    next =>
      obtain ⟨index, inside, rfl⟩ := List.mem_map.mp new
      have bound := List.mem_range.mp inside
      omega

structure Filled (plan : Plan Hub σ) (before : Bench Hub) (count : Nat)
    (workers : List (Worker σ)) (left : Bench Hub) : Prop where
  length : workers.length = count
  made : Made plan before.site.captures before.site.queue count workers
  members : left.site.captures.members =
    before.site.captures.members ++ workers.map Worker.mailbox
  queued : left.site.queue = before.site.queue.joinedBy count 0
  live : left.site.queue.live = before.site.queue.live + count
  classifiers : left.classifiers = before.classifiers + count
  released : left.released = before.released

/-- What there is after the worker `first` could not be made: what there was before. The workers made
until then were released, the most recent first. -/
structure Undone (before : Bench Hub) (count first : Nat) (left : Bench Hub) : Prop where
  members : left.site.captures.members = before.site.captures.members
  queued : left.site.queue = before.site.queue.joinedBy 0 (first + 1)
  live : left.site.queue.live = before.site.queue.live
  classifiers : left.classifiers = before.classifiers
  released : left.released =
    before.released ++ (List.range first).reverse.map fun index => ⟨index, count⟩

theorem ids_of_made (made : Made plan hub queue count workers) :
    workers.map Worker.id = (List.range workers.length).map fun index => ⟨index, count⟩ := by
  refine List.ext_getElem (by simp) fun index bound _ => ?_
  rw [List.length_map] at bound
  simpa using (made index workers[index] (List.getElem?_eq_getElem bound)).1

theorem filled_of_opening (opening : Opening plan before count workers bench)
    (length : workers.length = count) : Filled plan before count workers bench := by
  obtain ⟨made, ⟨members, queued, classifiers, released⟩, -, -⟩ := opening
  rw [length] at queued classifiers
  refine ⟨length, made, members, queued, ?_, classifiers, by rw [released, List.append_nil]⟩
  rw [queued, Queue.live_joinedBy]

theorem undone_of_standing (onHub : plan.capture = Hub.capture)
    (numbered : before.site.captures.Numbered)
    (made : Made plan before.site.captures before.site.queue count workers)
    (standing : Standing before workers 1 [] bench) :
    Undone before count workers.length (bench.releaseAll plan.capture workers) := by
  obtain ⟨members, queued, classifiers, released⟩ := standing_releaseAll numbered made standing
  rw [List.length_nil, Nat.add_comm] at queued
  rw [List.map_nil, List.append_nil] at members
  rw [List.nil_append, List.map_reverse, ids_of_made made, ← List.map_reverse] at released
  rw [onHub]
  refine ⟨members, queued, ?_, classifiers, released⟩
  rw [queued, Queue.live_joinedBy, Nat.add_zero]

theorem fill_cases (onHub : plan.capture = Hub.capture)
    (numbered : before.site.captures.Numbered) (asked : 0 < count) :
    (∃ workers left, fill plan count before = (.ok workers, left) ∧
      (∀ index < count, failureAt? plan before.site.captures count index = none) ∧
      Filled plan before count workers left) ∨
    ∃ first < count, ∃ failure left, fill plan count before = (.error failure, left) ∧
      failureAt? plan before.site.captures count first = some failure ∧
      (∀ index < first, failureAt? plan before.site.captures count index = none) ∧
      Undone before count first left := by
  rw [fill, if_neg (Nat.ne_of_gt asked)]
  rcases extend_cases onHub numbered (opening_start plan before count) count with
    ⟨workers, left, filled, length, opened, none_fails⟩ |
    ⟨failure, made, between, undone, bound, first, those, standing, none_fails⟩
  next =>
    rw [List.length_nil, Nat.zero_add] at length
    refine .inl ⟨workers, left, filled, ?_, filled_of_opening opened length⟩
    exact fun index inside => none_fails index (Nat.zero_le _) (length.symm ▸ inside)
  next =>
    refine .inr ⟨made.length, by simpa using bound, failure, _, undone, first, ?_,
      undone_of_standing onHub numbered those standing⟩
    exact fun index below => none_fails index (Nat.zero_le _) below

theorem Plan.reserve_some {grants : Nat → Bool} (asked : 0 < count) :
    plan.reserve grants count =
      if UInt64.size / 2 ≤ count * plan.workerSize then .error .overflow
      else if grants (count * plan.workerSize) then .ok () else .error .exhausted := by
  have octets : 0 < count * plan.workerSize := Nat.mul_pos asked (Nat.succ_pos _)
  rw [reserve, if_neg (Nat.ne_of_gt octets)]

/-- What comes of a pool that is asked for, by the number of its workers. Without room for all of
them nothing is begun. -/
inductive Answered (grants : Nat → Bool) (plan : Plan Hub σ) (before : Bench Hub) (count : Nat) :
    Except RoomFailure (Except PoolFailure (List (Worker σ))) → Bench Hub → Prop
  | nobody (none : count = 0) : Answered grants plan before count (.ok (.error .noWorkers)) before
  | overflow (asked : 0 < count) (beyond : UInt64.size / 2 ≤ count * plan.workerSize) :
      Answered grants plan before count (.error .overflow) before
  | exhausted (asked : 0 < count) (within : count * plan.workerSize < UInt64.size / 2)
      (refused : grants (count * plan.workerSize) = false) :
      Answered grants plan before count (.error .exhausted) before
  | made {workers : List (Worker σ)} {left : Bench Hub} (asked : 0 < count)
      (within : count * plan.workerSize < UInt64.size / 2)
      (granted : grants (count * plan.workerSize) = true)
      (welcome : ∀ index < count, failureAt? plan before.site.captures count index = none)
      (filled : Filled plan before count workers left) :
      Answered grants plan before count (.ok (.ok workers)) left
  | undone {first : Nat} {failure : PoolFailure} {left : Bench Hub}
      (within : count * plan.workerSize < UInt64.size / 2)
      (granted : grants (count * plan.workerSize) = true) (bound : first < count)
      (fails : failureAt? plan before.site.captures count first = some failure)
      (welcome : ∀ index < first, failureAt? plan before.site.captures count index = none)
      (undone : Undone before count first left) :
      Answered grants plan before count (.ok (.error failure)) left

/-- A pool on a hub, whatever was done with hub and queue before, is made as a whole, or the first
worker that cannot be made is named and nothing of the others is left. -/
theorem pool_is_made_or_undone (grants : Nat → Bool) (plan : Plan Hub σ)
    (onHub : plan.capture = Hub.capture) {before : Bench Hub}
    (reachable : before.site.captures.Reachable) (count : Nat) :
    Answered grants plan before count (make grants plan count before).1
      (make grants plan count before).2 := by
  have numbered := Hub.numbered_reachable reachable
  rcases Nat.eq_zero_or_pos count with none | asked
  next =>
    subst none
    simpa [make, Plan.reserve, fill] using Answered.nobody rfl
  next =>
    rw [make, Plan.reserve_some asked]
    by_cases beyond : UInt64.size / 2 ≤ count * plan.workerSize
    next =>
      rw [if_pos beyond]
      exact .overflow asked beyond
    next =>
      have within := Nat.not_le.mp beyond
      rw [if_neg beyond]
      cases granted : grants (count * plan.workerSize) with
      | false => exact .exhausted asked within granted
      | true =>
        rcases fill_cases onHub numbered asked with
          ⟨workers, left, made, welcome, filled⟩ |
          ⟨first, bound, failure, left, undone, fails, welcome, all⟩
        next =>
          rw [made]
          exact .made asked within granted welcome filled
        next =>
          rw [undone]
          exact .undone within granted bound fails welcome all

def echoPlan : Plan Hub Unit :=
  ⟨Hub.capture, "syn0", 1, fun _ => .ok ()⟩

-- A hub with one member that admits one more, and classifiers of others.
def nearlyFull : Bench Hub :=
  ⟨⟨((Hub.ofDevice "syn0").openChannel "syn0" 1).2.limit (some 1), .empty⟩, 3, []⟩

theorem second_worker_finds_hub_full : nearlyFull.site.captures.Reachable ∧
    ∃ left, make (fun _ => true) echoPlan 2 nearlyFull =
        (.ok (.error (.capture 1 (.fanoutJoinFailed 1 ⟨"join rejected"⟩))), left) ∧
      Undone nearlyFull 2 1 left := by
  have reachable : nearlyFull.site.captures.Reachable := .limit _ (.openChannel _ _ (.ofDevice _))
  refine ⟨reachable, _, rfl, ?_⟩
  have welcome : failureAt? echoPlan nearlyFull.site.captures 2 0 = none := rfl
  cases pool_is_made_or_undone (fun _ => true) echoPlan rfl reachable 2 with
  | @undone first _ _ _ _ bound fails _ undone =>
    match first, bound with
    | 0, _ => exact nomatch welcome.symm.trans fails
    | 1, _ => exact undone

/-- For very many workers nothing is made and nothing is answered, whichever worker would fail. -/
theorem crowd_gets_no_answer :
    let before : Bench Hub := ⟨⟨(Hub.ofDevice "syn0").limit (some 1), .empty⟩, 0, []⟩
    make (fun _ => true) echoPlan 4611686018427387904 before = (.error .overflow, before) ∧
      failureAt? echoPlan before.site.captures 4611686018427387904 0 = none ∧
      failureAt? echoPlan before.site.captures 4611686018427387904 1 =
        some (.capture 1 (.fanoutJoinFailed 1 ⟨"join rejected"⟩)) := by
  intro before
  refine ⟨?_, rfl, rfl⟩
  have full : echoPlan.reserve (fun _ => true) 4611686018427387904 = .error .overflow := by decide
  rw [make, full]

end WorkerPool

end FlowProbe
