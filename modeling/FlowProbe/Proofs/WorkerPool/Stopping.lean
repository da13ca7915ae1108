import FlowProbe.Proofs.WorkerPool.Channel
import FlowProbe.Proofs.WorkerPool.Opening
import FlowProbe.Proofs.WorkerPool.Worklog

set_option autoImplicit false

namespace FlowProbe

namespace Hub

/-- Between two moments nothing is taken out of a mailbox, those of `channels` apart, and what joins
has a new number. -/
structure Spares (channels : List Nat) (before after : Hub) : Prop where
  kept : ∀ mailbox ∈ before.members, mailbox.id ∉ channels →
    ∃ given, { mailbox with frames := mailbox.frames ++ given } ∈ after.members
  fresh : ∀ id ∈ after.ids, id ∈ before.ids ∨ before.nextId ≤ id
  later : before.nextId ≤ after.nextId
  numbered : before.Numbered → after.Numbered

variable {hub between after : Hub} {channels : List Nat}

theorem spares_refl (channels : List Nat) (hub : Hub) : hub.Spares channels hub where
  kept := fun _ member _ => ⟨[], by simpa using member⟩
  fresh := fun _ => .inl
  later := Nat.le_refl _
  numbered := id

theorem spares_trans (first : hub.Spares channels between) (second : between.Spares channels after) :
    hub.Spares channels after where
  kept := by
    intro mailbox member foreign
    obtain ⟨given, there⟩ := first.kept mailbox member foreign
    obtain ⟨more, still⟩ := second.kept _ there foreign
    exact ⟨given ++ more, by simpa using still⟩
  fresh := by
    intro id member
    rcases second.fresh id member with known | new
    next => exact first.fresh id known
    next => exact .inr (Nat.le_trans first.later new)
  later := Nat.le_trans first.later second.later
  numbered := second.numbered ∘ first.numbered

theorem spares_mono {more : List Nat} (spares : hub.Spares channels after)
    (within : channels ⊆ more) : hub.Spares more after :=
  { spares with
    kept := fun mailbox member foreign =>
      spares.kept mailbox member fun own => foreign (within own) }

theorem spares_inject (hub : Hub) (captured : Captured) :
    hub.Spares [] (hub.inject captured).2 where
  kept := by
    intro mailbox member _
    obtain ⟨slot, here⟩ := List.getElem?_of_mem member
    have there := hub.getElem?_inject captured slot
    rw [here, Option.map_some] at there
    by_cases chosen : slotOf hub.size captured.bytes = slot
    next =>
      rw [if_pos chosen] at there
      exact ⟨[captured], List.mem_of_getElem? there⟩
    next =>
      rw [if_neg chosen] at there
      exact ⟨[], by simpa using List.mem_of_getElem? there⟩
  fresh := fun _ member => .inl (hub.ids_inject captured ▸ member)
  later := Nat.le_of_eq (hub.nextId_inject captured).symm
  numbered := fun numbered => numbered.congr (hub.ids_inject captured) (hub.nextId_inject captured)

theorem openChannel_members (hub : Hub) (device : String) (group : UInt16) :
    ∃ joined, (hub.openChannel device group).2.members = hub.members ++ joined ∧
      (∀ mailbox ∈ joined, mailbox.id = hub.nextId) ∧
      hub.nextId ≤ (hub.openChannel device group).2.nextId := by
  have refused : hub.members = hub.members ++ [] := (List.append_nil _).symm
  rw [openChannel]
  split
  next => exact ⟨[], refused, List.forall_mem_nil _, Nat.le_refl _⟩
  next =>
    cases binds : hub.bind group with
    | error failure => exact ⟨[], refused, List.forall_mem_nil _, Nat.le_refl _⟩
    | ok bound =>
      obtain ⟨members, next⟩ := bind_keeps binds
      cases spends : bound.spend group with
      | error failure =>
        simp only [spends]
        exact ⟨[], members.trans refused, List.forall_mem_nil _, Nat.le_of_eq next.symm⟩
      | ok spent =>
        obtain ⟨members', next'⟩ := spend_keeps spends
        have number : spent.nextId = hub.nextId := next'.trans next
        simp only [spends, join]
        refine ⟨[⟨spent.nextId, [], false⟩], by rw [members', members], ?_, ?_⟩
        next => simp [number]
        next => exact number ▸ Nat.le_succ _

theorem spares_openChannel (hub : Hub) (device : String) (group : UInt16) :
    hub.Spares [] (hub.openChannel device group).2 := by
  obtain ⟨joined, members, number, later⟩ := hub.openChannel_members device group
  constructor
  case kept =>
    intro mailbox member _
    rw [members]
    exact ⟨[], by simp [member]⟩
  case fresh =>
    intro id member
    rw [ids, members, List.map_append] at member
    rcases List.mem_append.mp member with known | new
    next => exact .inl known
    next =>
      obtain ⟨mailbox, there, rfl⟩ := List.mem_map.mp new
      exact .inr (Nat.le_of_eq (number mailbox there).symm)
  case later => exact later
  case numbered => exact fun numbered => numbered_openChannel numbered device group

theorem spares_update (hub : Hub) (id : Nat) {change : Mailbox → Mailbox}
    (same : ∀ mailbox, (change mailbox).id = mailbox.id) :
    hub.Spares [id] (hub.update id change) where
  kept := by
    intro mailbox member foreign
    have other : mailbox.id ≠ id := by simpa using foreign
    refine ⟨[], ?_⟩
    rw [List.append_nil]
    exact List.mem_map.mpr ⟨mailbox, member, if_neg other⟩
  fresh := fun _ member => .inl (hub.ids_update id same ▸ member)
  later := Nat.le_refl _
  numbered := fun numbered => numbered.congr (hub.ids_update id same) rfl

theorem spares_wake (hub : Hub) (id : Nat) : hub.Spares [id] (hub.wake id) :=
  hub.spares_update id fun _ => rfl

theorem spares_leave (hub : Hub) (id : Nat) : hub.Spares [id] (hub.leave id) where
  kept := by
    intro mailbox member foreign
    have other : mailbox.id ≠ id := by simpa using foreign
    refine ⟨[], ?_⟩
    rw [List.append_nil]
    exact List.mem_filter.mpr ⟨member, by simpa using other⟩
  fresh := fun _ member => .inl ((List.filter_sublist.map Mailbox.id).subset member)
  later := Nat.le_refl _
  numbered := fun numbered => numbered_leave numbered id

end Hub

namespace WorkerThread

variable {σ : Type} {thread next : WorkerThread σ} {hub after : Hub} {channels : List Nat}

theorem spares_touched {taken : List Captured} (touches : thread.Touches next hub after taken) :
    hub.Spares [thread.channel] after := by
  cases touches with
  | take _ _ _ taken => exact taken ▸ hub.spares_update _ fun _ => rfl
  | leave _ left => exact left ▸ hub.spares_leave _
  | rest _ same =>
    rw [same]
    exact Hub.spares_refl _ hub

/-- A thread is a member of the hub as long as it has its channel, and once it was `roused` its
mailbox says so. When it has not got its channel any more, it is no member. -/
structure Attached (roused : Prop) (hub : Hub) (thread : WorkerThread σ) : Prop where
  joined : thread.HoldsChannel →
    ∃ mailbox ∈ hub.members, mailbox.id = thread.channel ∧ (roused → mailbox.woken = true)
  left : ¬ thread.HoldsChannel → thread.channel ∉ hub.ids
  known : thread.channel < hub.nextId

theorem attached_spared {roused : Prop} (attached : thread.Attached roused hub)
    (spares : hub.Spares channels after) (foreign : thread.channel ∉ channels) :
    thread.Attached roused after where
  joined := by
    intro holds
    obtain ⟨mailbox, member, own, woken⟩ := attached.joined holds
    obtain ⟨given, there⟩ := spares.kept mailbox member (own ▸ foreign)
    exact ⟨_, there, own, woken⟩
  left := by
    intro released member
    rcases spares.fresh _ member with known | new
    next => exact attached.left released known
    next => exact absurd attached.known (Nat.not_lt.mpr new)
  known := Nat.lt_of_lt_of_le attached.known spares.later

theorem attached_woken {roused : Prop} (attached : thread.Attached roused hub) :
    thread.Attached True (hub.wake thread.channel) where
  joined := by
    intro holds
    obtain ⟨mailbox, member, own, -⟩ := attached.joined holds
    exact ⟨{ mailbox with woken := true }, List.mem_map.mpr ⟨mailbox, member, if_pos own⟩, own,
      fun _ => rfl⟩
  left := fun released => (hub.ids_wake thread.channel).symm ▸ attached.left released
  known := attached.known

theorem holds_or_left (classifier : Classifier σ) (holds : thread.HoldsChannel) (site : Site Hub) :
    (thread.step Hub.capture classifier site).1.HoldsChannel ∨
      (thread.step Hub.capture classifier site).2.captures =
        site.captures.leave thread.channel := by
  cases doing : thread.activity with
  | receiving state =>
    left
    simp only [step, doing]
    obtain ⟨-, -, looked⟩ := look_cases Hub.capture classifier thread state site
    rcases looked with waiting | ⟨records, next, busy⟩
    next => simp only [HoldsChannel, waiting, doing]
    next => simp only [HoldsChannel, busy]
  | emitting records next =>
    left
    cases records with
    | cons record records => simp only [step, HoldsChannel, doing]
    | nil => cases next <;> simp [step, HoldsChannel, doing]
  | counting records next =>
    left
    simp only [step, HoldsChannel, doing]
  | releasing holdings report =>
    simp only [HoldsChannel, doing] at holds
    cases holdings with
    | nil => cases holds
    | cons holding holdings =>
      simp only [step, doing]
      rcases List.mem_cons.mp holds with own | later
      next =>
        subst own
        exact .inr rfl
      next => exact .inl later
  | ended report => simp [HoldsChannel, doing] at holds

theorem attached_touched {taken : List Captured} (touches : thread.Touches next hub after taken)
    (channel : next.channel = thread.channel)
    (lost : thread.HoldsChannel → next.HoldsChannel ∨ after = hub.leave thread.channel)
    {roused : Prop} (attached : thread.Attached roused hub) : next.Attached roused after := by
  have spares := spares_touched touches
  constructor
  case joined =>
    rw [channel]
    intro still
    cases touches with
    | take holds _ _ taken =>
      obtain ⟨mailbox, member, own, woken⟩ := attached.joined holds
      rw [taken]
      exact ⟨_, List.mem_map.mpr ⟨mailbox, member, if_pos own⟩, own, woken⟩
    | leave released _ => exact absurd still released
    | rest holds same =>
      rw [same]
      exact attached.joined (holds still)
  case left =>
    rw [channel]
    intro released
    -- Either it has left just now, or it was no member before and its number is not given again.
    by_cases holds : thread.HoldsChannel
    next =>
      have gone := (lost holds).resolve_left released
      rw [gone]
      simp [Hub.ids, Hub.leave]
    next =>
      intro member
      rcases spares.fresh _ member with known | new
      next => exact attached.left holds known
      next => exact absurd attached.known (Nat.not_lt.mpr new)
  case known =>
    rw [channel]
    exact Nat.lt_of_lt_of_le attached.known spares.later

theorem attached_step (classifier : Classifier σ) (tidy : thread.Tidy) {roused : Prop}
    (site : Site Hub) (attached : thread.Attached roused site.captures) :
    (thread.step Hub.capture classifier site).1.Attached roused
      (thread.step Hub.capture classifier site).2.captures :=
  attached_touched (touches_step classifier tidy site)
    (channel_step Hub.capture classifier thread site)
    (fun holds => holds_or_left classifier holds site) attached

-- Channels of a hub end without a failure, so that a worker has none to tell of.
theorem error_step (classifier : Classifier σ) (quiet : thread.error = none) (site : Site Hub) :
    (thread.step Hub.capture classifier site).1.error = none := by
  rw [step]
  split
  next state doing =>
    rcases site.captures.receive_cases thread.channel with
      ⟨mailbox, captured, rest, -, -, -, received⟩ | received | received
    all_goals simp only [look, Hub.capture, received]
    next => exact quiet
    next => exact quiet
    next => rfl
  all_goals exact quiet

theorem left_of_report {roused : Prop} (attached : thread.Attached roused hub)
    {report : WorkerReport} (ended : thread.report? = some report) :
    thread.channel ∉ hub.ids ∧ thread.holdsClassifier = false := by
  rw [report?] at ended
  split at ended
  next left doing =>
    refine ⟨attached.left ?_, ?_⟩
    next => simp [HoldsChannel, doing]
    next => simp only [holdsClassifier, doing]
  next => cases ended

end WorkerThread

-- The channels of a pool are younger than what was there before.
theorem WorkerPool.older_kept {σ : Type} {plan : WorkerPool.Plan Hub σ}
    {before bench : WorkerPool.Bench Hub} {after : Hub} {count : Nat} {workers : List (Worker σ)}
    (numbered : before.site.captures.Numbered)
    (opening : WorkerPool.Opening plan before count workers bench)
    (spares : bench.site.captures.Spares (workers.map Worker.channel) after) :
    ∀ mailbox ∈ before.site.captures.members,
      ∃ given, { mailbox with frames := mailbox.frames ++ given } ∈ after.members := by
  intro mailbox member
  apply spares.kept
  next =>
    rw [opening.standing.members]
    exact List.mem_append_left _ member
  next =>
    have given := numbered.given mailbox.id (List.mem_map_of_mem member)
    rw [WorkerPool.channels_of_made opening.made]
    simp
    omega

/-- A pool, what its workers have done, and how many of them the caller who stops it has woken. -/
structure PoolRun (σ : Type) where
  pool : RunningPool Hub σ
  log : Worklog
  woken : Nat

inductive PoolMove where
  | inject (captured : Captured)
  | openChannel (device : String) (group : UInt16)
  | worker (index : Nat)
  | stopper

namespace PoolRun

variable {σ : Type}

def start (workers : List (Worker σ)) (site : Site Hub) : PoolRun σ :=
  ⟨.start workers site, .start, 0⟩

def hub (run : PoolRun σ) : Hub :=
  run.pool.site.captures

def queue (run : PoolRun σ) : Queue :=
  run.pool.site.queue

def withHub (run : PoolRun σ) (hub : Hub) : PoolRun σ :=
  { run with pool := { run.pool with site := { run.pool.site with captures := hub } } }

def channels (run : PoolRun σ) : List Nat :=
  run.pool.threads.map WorkerThread.channel

def act (classifier : Classifier σ) (run : PoolRun σ) : PoolMove → PoolRun σ
  | .inject captured => run.withHub (run.hub.inject captured).2
  | .openChannel device group => run.withHub (run.hub.openChannel device group).2
  | .worker index =>
    { run with
      pool := run.pool.step Hub.capture classifier index
      log := run.log.note Hub.capture classifier run.pool index }
  -- The caller wakes one worker after another and then waits.
  | .stopper =>
    if run.woken < run.pool.threads.length then
      { run with pool := run.pool.wake Hub.capture run.woken, woken := run.woken + 1 }
    else run

def answer? (run : PoolRun σ) : Option (List WorkerReport) :=
  if run.woken < run.pool.threads.length then none else run.pool.reports?

def after (classifier : Classifier σ) (run : PoolRun σ) (schedule : Nat → PoolMove) :
    Nat → PoolRun σ
  | 0 => run
  | moves + 1 => (after classifier run schedule moves).act classifier (schedule moves)

structure Sound (others : List Producer) (run : PoolRun σ) : Prop where
  crewed : run.pool.Crewed others
  covers : run.log.Covers run.pool
  distinct : run.channels.Nodup
  numbered : run.hub.Numbered
  threads : ∀ (index : Nat) (thread : WorkerThread σ), run.pool.threads[index]? = some thread →
    thread.error = none ∧ thread.Attached (index < run.woken) run.hub

variable {run : PoolRun σ} {others : List Producer}

theorem sound_withHub (sound : run.Sound others) {hub : Hub} (spares : run.hub.Spares [] hub) :
    (run.withHub hub).Sound others where
  crewed := RunningPool.crewed_congr sound.crewed rfl rfl
  covers := Worklog.covers_congr sound.covers rfl
  distinct := sound.distinct
  numbered := spares.numbered sound.numbered
  threads := by
    intro index thread here
    obtain ⟨quiet, attached⟩ := sound.threads index thread here
    exact ⟨quiet, WorkerThread.attached_spared attached spares List.not_mem_nil⟩

theorem channel_mem {index : Nat} {thread : WorkerThread σ}
    (here : run.pool.threads[index]? = some thread) : [thread.channel] ⊆ run.channels :=
  List.cons_subset.mpr ⟨List.mem_map_of_mem (List.mem_of_getElem? here), List.nil_subset _⟩

section Working

variable (sound : run.Sound others) (classifier : Classifier σ) {index : Nat}
  {thread : WorkerThread σ} (here : run.pool.threads[index]? = some thread)

include here in
theorem hub_worker : (run.act classifier (.worker index)).hub =
    (thread.step Hub.capture classifier run.pool.site).2.captures :=
  congrArg (fun pool => pool.site.captures) (RunningPool.step_eq Hub.capture classifier here)

include sound here

theorem spares_worker : run.hub.Spares [thread.channel] (run.act classifier (.worker index)).hub := by
  have tidy := sound.crewed.tidy thread (List.mem_of_getElem? here)
  rw [hub_worker classifier here]
  exact WorkerThread.spares_touched (WorkerThread.touches_step classifier tidy run.pool.site)

theorem threads_worker : ∀ (slot : Nat) (other : WorkerThread σ),
    (run.act classifier (.worker index)).pool.threads[slot]? = some other →
      other.error = none ∧
        other.Attached (slot < run.woken) (run.act classifier (.worker index)).hub := by
  refine RunningPool.forall_step Hub.capture classifier here ?_ ?_
  next =>
    obtain ⟨quiet, attached⟩ := sound.threads index thread here
    have tidy := sound.crewed.tidy thread (List.mem_of_getElem? here)
    rw [hub_worker classifier here]
    exact ⟨WorkerThread.error_step classifier quiet run.pool.site,
      WorkerThread.attached_step classifier tidy run.pool.site attached⟩
  next =>
    intro slot other different there
    obtain ⟨quiet, attached⟩ := sound.threads slot other there
    have foreign := RunningPool.other_channel sound.distinct here there different
    exact ⟨quiet, WorkerThread.attached_spared attached (spares_worker sound classifier here)
      (by simpa using foreign)⟩

end Working

theorem act_absent (classifier : Classifier σ) {index : Nat}
    (absent : run.pool.threads[index]? = none) : run.act classifier (.worker index) = run := by
  rw [act, RunningPool.step_absent Hub.capture classifier absent,
    Worklog.note_absent Hub.capture classifier run.log absent]

theorem sound_worker (sound : run.Sound others) (classifier : Classifier σ) (index : Nat) :
    (run.act classifier (.worker index)).Sound others := by
  cases here : run.pool.threads[index]? with
  | none => rwa [act_absent classifier here]
  | some thread =>
    have channels : (run.act classifier (.worker index)).channels = run.channels :=
      RunningPool.channels_step Hub.capture classifier index
    exact ⟨RunningPool.crewed_step sound.crewed Hub.capture classifier index,
      Worklog.covers_note sound.covers Hub.capture classifier index, channels ▸ sound.distinct,
      (spares_worker sound classifier here).numbered sound.numbered,
      threads_worker sound classifier here⟩

theorem wake_pool {index : Nat} {thread : WorkerThread σ}
    (here : run.pool.threads[index]? = some thread) :
    run.pool.wake Hub.capture index = (run.withHub (run.hub.wake thread.channel)).pool := by
  rw [RunningPool.wake, here]
  rfl

theorem sound_stopper (sound : run.Sound others) (classifier : Classifier σ) :
    (run.act classifier .stopper).Sound others := by
  rw [act]
  split
  next asleep =>
    have here : run.pool.threads[run.woken]? = some run.pool.threads[run.woken] :=
      List.getElem?_eq_getElem asleep
    have spares := run.hub.spares_wake run.pool.threads[run.woken].channel
    rw [wake_pool here]
    refine ⟨RunningPool.crewed_congr sound.crewed rfl rfl, Worklog.covers_congr sound.covers rfl,
      sound.distinct, spares.numbered sound.numbered, ?_⟩
    intro slot thread there
    obtain ⟨quiet, attached⟩ := sound.threads slot thread there
    refine ⟨quiet, ?_⟩
    change thread.Attached (slot < run.woken + 1) (run.hub.wake _)
    by_cases next : slot = run.woken
    next =>
      subst next
      cases here.symm.trans there
      simpa using WorkerThread.attached_woken attached
    next =>
      have foreign := RunningPool.other_channel sound.distinct here there next
      have still := WorkerThread.attached_spared attached spares (by simpa using foreign)
      have same : slot < run.woken + 1 ↔ slot < run.woken := by omega
      simpa only [same] using still
  next => exact sound

theorem sound_act (sound : run.Sound others) (classifier : Classifier σ) (move : PoolMove) :
    (run.act classifier move).Sound others := by
  cases move with
  | inject captured => exact sound_withHub sound (run.hub.spares_inject captured)
  | openChannel device group => exact sound_withHub sound (run.hub.spares_openChannel device group)
  | worker index => exact sound_worker sound classifier index
  | stopper => exact sound_stopper sound classifier

theorem channels_act (classifier : Classifier σ) (run : PoolRun σ) (move : PoolMove) :
    (run.act classifier move).channels = run.channels := by
  cases move with
  | inject captured => rfl
  | openChannel device group => rfl
  | worker index => exact RunningPool.channels_step Hub.capture classifier index
  | stopper =>
    rw [act]
    split
    next => exact congrArg (List.map WorkerThread.channel) (RunningPool.wake_threads _ _ _)
    next => rfl

theorem spares_act (sound : run.Sound others) (classifier : Classifier σ) (move : PoolMove) :
    run.hub.Spares run.channels (run.act classifier move).hub := by
  cases move with
  | inject captured => exact Hub.spares_mono (run.hub.spares_inject captured) (List.nil_subset _)
  | openChannel device group =>
    exact Hub.spares_mono (run.hub.spares_openChannel device group) (List.nil_subset _)
  | worker index =>
    cases here : run.pool.threads[index]? with
    | none =>
      rw [act_absent classifier here]
      exact Hub.spares_refl _ _
    | some thread =>
      exact Hub.spares_mono (spares_worker sound classifier here) (channel_mem here)
  | stopper =>
    rw [act]
    split
    next asleep =>
      have here := List.getElem?_eq_getElem asleep
      rw [wake_pool here]
      exact Hub.spares_mono (run.hub.spares_wake _) (channel_mem here)
    next => exact Hub.spares_refl _ _

theorem channels_start (workers : List (Worker σ)) (site : Site Hub) :
    (start workers site).channels = workers.map Worker.channel := by
  simp [channels, start, RunningPool.start, WorkerThread.start, Function.comp_def]

theorem sound_start {plan : WorkerPool.Plan Hub σ} (onHub : plan.capture = Hub.capture) {hub : Hub}
    (numbered : hub.Numbered) {queue : Queue} {count : Nat} {workers : List (Worker σ)}
    {site : Site Hub}
    (opened : WorkerPool.openAll plan count ⟨hub, queue⟩ = (.ok workers, site)) :
    (start workers site).Sound queue.producers := by
  obtain ⟨producers, length, queued⟩ := WorkerPool.opened_workers opened
  obtain ⟨-, bench, rfl, opening⟩ := WorkerPool.opening_openAll onHub numbered opened
  constructor
  case crewed =>
    apply RunningPool.crewed_start producers
    rw [queued, length]
  case covers => exact Worklog.covers_start opened bench.site
  case distinct =>
    rw [channels_start, WorkerPool.channels_of_made opening.made]
    exact List.nodup_range.map fun _ _ => Nat.add_left_cancel
  case numbered => exact WorkerPool.numbered_opening numbered opening
  case threads =>
    intro index thread there
    obtain ⟨worker, found, rfl⟩ := Option.map_eq_some_iff.mp (List.getElem?_map ▸ there)
    refine ⟨rfl, ⟨fun _ => ?_, fun released => absurd trivial released, ?_⟩⟩
    next =>
      refine ⟨worker.mailbox, ?_, rfl, fun woken => absurd woken (Nat.not_lt_zero _)⟩
      change worker.mailbox ∈ bench.site.captures.members
      rw [opening.standing.members]
      exact List.mem_append_right _ (List.mem_map_of_mem (List.mem_of_getElem? found))
    next =>
      obtain ⟨-, channel, -⟩ := opening.made index worker found
      obtain ⟨bound, -⟩ := List.getElem?_eq_some_iff.mp found
      change worker.channel < bench.site.captures.nextId
      rw [channel, opening.next]
      exact Nat.add_lt_add_left bound _

variable (classifier : Classifier σ) (schedule : Nat → PoolMove)

theorem sound_after (sound : run.Sound others) (moves : Nat) :
    (run.after classifier schedule moves).Sound others := by
  induction moves with
  | zero => exact sound
  | succ moves ih => exact sound_act ih classifier (schedule moves)

theorem channels_after (run : PoolRun σ) (moves : Nat) :
    (run.after classifier schedule moves).channels = run.channels := by
  induction moves with
  | zero => rfl
  | succ moves ih => exact (channels_act classifier _ (schedule moves)).trans ih

theorem spares_after (sound : run.Sound others) {earlier later : Nat} (ordered : earlier ≤ later) :
    (run.after classifier schedule earlier).hub.Spares run.channels
      (run.after classifier schedule later).hub := by
  induction later, ordered using Nat.le_induction with
  | base => exact Hub.spares_refl _ _
  | succ later _ ih =>
    have next := spares_act (sound_after classifier schedule sound later) classifier (schedule later)
    rw [channels_after] at next
    exact Hub.spares_trans ih next

end PoolRun

end FlowProbe
