import FlowProbe.Meter.Setup
import FlowProbe.Proofs.Meter.Sharing
import FlowProbe.Proofs.WorkerPool.Channel

set_option autoImplicit false

namespace FlowProbe

structure Fleet where
  pool : RunningPool Hub Meter
  -- The frames in the order in which they came.
  injected : List Captured
  -- Which thread took which frame and handed over which record, in order.
  received : List (Nat × Captured)
  emitted : List (Nat × Record)

inductive FleetMove where
  | inject (captured : Captured)
  | wake (index : Nat)
  | step (index : Nat)

namespace Fleet

def start (workers : List (Worker Meter)) (site : Site Hub) : Fleet :=
  ⟨.start workers site, [], [], []⟩

def size (fleet : Fleet) : Nat :=
  fleet.pool.threads.length

def hub (fleet : Fleet) : Hub :=
  fleet.pool.site.captures

def act (fleet : Fleet) : FleetMove → Fleet
  | .inject captured =>
    if fleet.hub.size = fleet.size then
      { fleet with
        pool := { fleet.pool with
          site := { fleet.pool.site with captures := (fleet.hub.inject captured).2 } }
        injected := fleet.injected ++ [captured] }
    else fleet
  | .wake index => { fleet with pool := fleet.pool.wake Hub.capture index }
  | .step index => {
      pool := fleet.pool.step Hub.capture Meter.classifier index
      injected := fleet.injected
      received := fleet.received ++ (fleet.pool.takes Hub.capture index).map (index, ·)
      emitted := fleet.emitted ++ (fleet.pool.adds index).map (index, ·) }

def follow (fleet : Fleet) (moves : List FleetMove) : Fleet :=
  moves.foldl act fleet

def assigned (fleet : Fleet) (index : Nat) : List Captured :=
  Meter.share fleet.size index fleet.injected

def receivedBy (fleet : Fleet) (index : Nat) : List Captured :=
  (Fibers.part Prod.fst index fleet.received).map Prod.snd

def emittedBy (fleet : Fleet) (index : Nat) : List Record :=
  (Fibers.part Prod.fst index fleet.emitted).map Prod.snd

-- What holds of a fleet at any moment.
structure Sound (config : MeterConfig) (others : List Producer) (before : List Record)
    (fleet : Fleet) : Prop where
  occupied : 0 < fleet.size
  crewed : fleet.pool.Crewed others
  distinct : (fleet.pool.threads.map WorkerThread.channel).Nodup
  joined : fleet.hub.ids.Sublist (fleet.pool.threads.map WorkerThread.channel)
  covered : (∀ entry ∈ fleet.received, entry.1 < fleet.size) ∧
    ∀ entry ∈ fleet.emitted, entry.1 < fleet.size
  pending : fleet.pool.site.queue.pending = before ++ fleet.emitted.map Prod.snd
  metered : ∀ (index : Nat) (thread : WorkerThread Meter),
    fleet.pool.threads[index]? = some thread → ∃ supply,
      thread.Keeps (.empty config supply) (fleet.receivedBy index) (fleet.emittedBy index)
  supplied : ∀ (index : Nat) (thread : WorkerThread Meter), fleet.pool.threads[index]? = some thread →
    thread.Supplied (fleet.assigned index) (fleet.receivedBy index) fleet.hub

variable {config : MeterConfig} {others : List Producer} {before : List Record} {fleet : Fleet}

theorem ids_distinct (sound : fleet.Sound config others before) : fleet.hub.ids.Nodup :=
  sound.distinct.sublist sound.joined

theorem supplied_inject (sound : fleet.Sound config others before)
    (full : fleet.hub.size = fleet.size) (captured : Captured) {index : Nat}
    {thread : WorkerThread Meter} (here : fleet.pool.threads[index]? = some thread) :
    thread.Supplied (Meter.share fleet.size index (fleet.injected ++ [captured]))
      (fleet.receivedBy index) (fleet.hub.inject captured).2 := by
  obtain ⟨prior, waiting⟩ := sound.supplied index thread here
  have grown : Meter.share fleet.size index (fleet.injected ++ [captured]) =
      fleet.assigned index ++ if Hub.slotOf fleet.size captured.bytes = index
        then [captured] else [] := by
    rw [Meter.share, Fibers.part_append, Fibers.part_single]
    rfl
  constructor
  case prior => exact prior.trans ⟨_, grown.symm⟩
  case waiting =>
    intro holds
    obtain ⟨mailbox, found, frames⟩ := waiting holds
    -- Nobody has left, so the members stand in the order of the threads.
    have all : fleet.hub.ids = fleet.pool.threads.map WorkerThread.channel :=
      sound.joined.eq_of_length (by rw [Hub.length_ids, full, List.length_map, size])
    have number : fleet.hub.ids[index]? = some thread.channel := by
      rw [all, List.getElem?_map, here]
      rfl
    obtain ⟨member, there, own⟩ := Hub.member?_of_ids (ids_distinct sound) number
    cases own.symm.trans found
    have after := fleet.hub.getElem?_inject captured index
    rw [there, Option.map_some, full] at after
    have distinct := (fleet.hub.ids_inject captured).symm ▸ ids_distinct sound
    have found' := Hub.member?_at distinct after
    have kept := Hub.id_of_member? found
    by_cases chosen : Hub.slotOf fleet.size captured.bytes = index
    next =>
      simp only [chosen, if_true, kept] at found' grown
      refine ⟨_, found', ?_⟩
      change fleet.receivedBy index ++ (mailbox.frames ++ [captured]) = _
      rw [← List.append_assoc, frames, ← grown]
    next =>
      simp only [chosen, if_false, kept, List.append_nil] at found' grown
      exact ⟨_, found', frames.trans grown.symm⟩

theorem sound_inject (sound : fleet.Sound config others before) (captured : Captured) :
    (fleet.act (.inject captured)).Sound config others before := by
  rw [act]
  split
  next full =>
    refine ⟨sound.occupied, RunningPool.crewed_congr sound.crewed rfl rfl, sound.distinct, ?_,
      sound.covered, sound.pending, sound.metered, ?_⟩
    next => exact (fleet.hub.ids_inject captured).symm ▸ sound.joined
    next => exact fun _ _ here => supplied_inject sound full captured here
  next => exact sound

theorem sound_wake (sound : fleet.Sound config others before) (index : Nat) :
    (fleet.act (.wake index)).Sound config others before := by
  rw [act, RunningPool.wake]
  cases here : fleet.pool.threads[index]? with
  | none => exact sound
  | some woken =>
    have ids : (fleet.hub.wake woken.channel).ids = fleet.hub.ids := fleet.hub.ids_wake _
    refine ⟨sound.occupied, RunningPool.crewed_congr sound.crewed rfl rfl, sound.distinct, ?_,
      sound.covered, sound.pending, sound.metered, ?_⟩
    next => exact ids ▸ sound.joined
    next =>
      intro slot thread there
      obtain ⟨prior, waiting⟩ := sound.supplied slot thread there
      refine ⟨prior, fun holds => ?_⟩
      obtain ⟨mailbox, found, frames⟩ := waiting holds
      have after : (fleet.hub.wake woken.channel).member? thread.channel = _ :=
        fleet.hub.member?_update woken.channel thread.channel fun _ => rfl
      rw [found, Option.map_some] at after
      refine ⟨_, after, ?_⟩
      have same : (if mailbox.id = woken.channel then { mailbox with woken := true }
          else mailbox).frames = mailbox.frames := by
        split <;> rfl
      exact (congrArg (fleet.receivedBy slot ++ ·) same).trans frames

theorem receivedBy_step (fleet : Fleet) (index slot : Nat) :
    (fleet.act (.step index)).receivedBy slot =
      fleet.receivedBy slot ++ if index = slot then fleet.pool.takes Hub.capture index else [] := by
  rw [receivedBy, act, Fibers.part_append, List.map_append, Fibers.part_tagged]
  rfl

theorem emittedBy_step (fleet : Fleet) (index slot : Nat) :
    (fleet.act (.step index)).emittedBy slot =
      fleet.emittedBy slot ++ if index = slot then fleet.pool.adds index else [] := by
  rw [emittedBy, act, Fibers.part_append, List.map_append, Fibers.part_tagged]
  rfl

section Stepping

variable (sound : fleet.Sound config others before) {index : Nat} {thread : WorkerThread Meter}
  (here : fleet.pool.threads[index]? = some thread)

include here in
theorem takes_thread :
    fleet.pool.takes Hub.capture index = thread.takes Hub.capture fleet.hub := by
  simp [RunningPool.takes, here, Fleet.hub]

include here in
theorem adds_thread : fleet.pool.adds index = thread.adds := by
  simp [RunningPool.adds, here]

include sound here

theorem touches_hub : thread.Touches (thread.step Hub.capture Meter.classifier fleet.pool.site).1
    fleet.hub (fleet.act (.step index)).hub (fleet.pool.takes Hub.capture index) := by
  have tidy := sound.crewed.tidy thread (List.mem_of_getElem? here)
  have hub : (fleet.act (.step index)).hub =
      (thread.step Hub.capture Meter.classifier fleet.pool.site).2.captures :=
    congrArg (fun pool => pool.site.captures)
      (RunningPool.step_eq Hub.capture Meter.classifier here)
  rw [hub, takes_thread here]
  exact WorkerThread.touches_step Meter.classifier tidy fleet.pool.site

theorem metered_step : ∀ (slot : Nat) (other : WorkerThread Meter),
    (fleet.act (.step index)).pool.threads[slot]? = some other → ∃ supply,
      other.Keeps (.empty config supply) ((fleet.act (.step index)).receivedBy slot)
        ((fleet.act (.step index)).emittedBy slot) := by
  refine RunningPool.forall_step Hub.capture Meter.classifier here ?_ ?_
  next =>
    obtain ⟨supply, keeps⟩ := sound.metered index thread here
    refine ⟨supply, ?_⟩
    rw [receivedBy_step, emittedBy_step, if_pos rfl, if_pos rfl, takes_thread here,
      adds_thread here]
    exact WorkerThread.keeps_step keeps Hub.capture fleet.pool.site
  next =>
    intro slot other different there
    rw [receivedBy_step, emittedBy_step, if_neg (Ne.symm different), if_neg (Ne.symm different),
      List.append_nil, List.append_nil]
    exact sound.metered slot other there

theorem supplied_step : ∀ (slot : Nat) (other : WorkerThread Meter),
    (fleet.act (.step index)).pool.threads[slot]? = some other →
      other.Supplied (fleet.assigned slot) ((fleet.act (.step index)).receivedBy slot)
        (fleet.act (.step index)).hub := by
  have touches := touches_hub sound here
  refine RunningPool.forall_step Hub.capture Meter.classifier here ?_ ?_
  next =>
    rw [receivedBy_step, if_pos rfl]
    exact WorkerThread.supplied_touched touches
      (WorkerThread.channel_step Hub.capture Meter.classifier thread fleet.pool.site)
      (sound.supplied index thread here)
  next =>
    intro slot other different there
    obtain ⟨prior, waiting⟩ := sound.supplied slot other there
    have foreign := RunningPool.other_channel sound.distinct here there different
    rw [receivedBy_step, if_neg (Ne.symm different), List.append_nil]
    refine ⟨prior, fun holds => ?_⟩
    rw [WorkerThread.others_untouched touches foreign]
    exact waiting holds

end Stepping

theorem sound_step (sound : fleet.Sound config others before) (index : Nat) :
    (fleet.act (.step index)).Sound config others before := by
  cases here : fleet.pool.threads[index]? with
  | none =>
    have same : fleet.act (.step index) = fleet := by
      simp [act, RunningPool.step_absent, RunningPool.takes, RunningPool.adds, here]
    rwa [same]
  | some thread =>
    have bound : index < fleet.size := (List.getElem?_eq_some_iff.mp here).1
    have size : (fleet.act (.step index)).size = fleet.size :=
      RunningPool.length_step Hub.capture Meter.classifier index
    have channels : (fleet.act (.step index)).pool.threads.map WorkerThread.channel =
        fleet.pool.threads.map WorkerThread.channel :=
      RunningPool.channels_step Hub.capture Meter.classifier index
    have own {α : Type} (items : List α) :
        ∀ entry ∈ items.map (fun item => (index, item)), entry.1 < fleet.size := by
      intro entry member
      obtain ⟨item, -, rfl⟩ := List.mem_map.mp member
      exact bound
    constructor
    case occupied => exact size ▸ sound.occupied
    case crewed => exact RunningPool.crewed_step sound.crewed Hub.capture Meter.classifier index
    case distinct => exact channels ▸ sound.distinct
    case joined =>
      exact channels ▸ (WorkerThread.ids_touched (touches_hub sound here)).trans sound.joined
    case covered =>
      rw [size]
      exact ⟨List.forall_mem_append.mpr ⟨sound.covered.1, own _⟩,
        List.forall_mem_append.mpr ⟨sound.covered.2, own _⟩⟩
    case pending =>
      rw [act, RunningPool.pending_step sound.crewed, sound.pending]
      simp [Function.comp_def]
    case metered => exact metered_step sound here
    case supplied =>
      have assigned (slot : Nat) : (fleet.act (.step index)).assigned slot =
          fleet.assigned slot := by
        rw [Fleet.assigned, size]
        rfl
      simpa only [assigned] using supplied_step sound here

theorem sound_act (sound : fleet.Sound config others before) (move : FleetMove) :
    (fleet.act move).Sound config others before := by
  cases move with
  | inject captured => exact sound_inject sound captured
  | wake index => exact sound_wake sound index
  | step index => exact sound_step sound index

theorem sound_follow (sound : fleet.Sound config others before) (moves : List FleetMove) :
    (fleet.follow moves).Sound config others before := by
  induction moves generalizing fleet with
  | nil => exact sound
  | cons move rest ih => exact ih (sound_act sound move)

def plan (config : MeterConfig) (files : FileTree) (device : String) (group : UInt16) :
    WorkerPool.Plan Hub Meter where
  capture := Hub.capture
  device := device
  group := group
  classifierFor := config.meterFor files

structure Manned (config : MeterConfig) (hub : Hub) (workers : List (Worker Meter)) : Prop where
  numbered : hub.Numbered
  ids : hub.ids = workers.map Worker.channel
  empty : ∀ mailbox ∈ hub.members, mailbox.frames = []
  fresh : ∀ worker ∈ workers, ∃ supply, worker.classifier = .empty config supply

theorem manned_worker {files : FileTree} {device : String} {group : UInt16} {id : WorkerId}
    {bench left : WorkerPool.Bench Hub} {workers : List (Worker Meter)} {worker : Worker Meter}
    (manned : Manned config bench.site.captures workers)
    (opened : WorkerPool.openWorker (plan config files device group) id bench =
      (.ok worker, left)) : Manned config left.site.captures (workers ++ [worker]) := by
  unfold WorkerPool.openWorker at opened
  split at opened
  next => exact nomatch opened
  next channel captures joined =>
    split at opened
    next => exact nomatch opened
    next meter made =>
      cases opened
      obtain ⟨number, members⟩ := Hub.opened_channel joined
      have numbered := Hub.numbered_openChannel manned.numbered device group
      have after : (bench.site.captures.openChannel device group).2 = captures :=
        congrArg Prod.snd joined
      have ids := manned.ids
      rw [after] at numbered
      refine ⟨numbered, ?_, ?_, ?_⟩
      next =>
        unfold Hub.ids at ids ⊢
        simp [members, ids, number]
      next =>
        rw [members, List.forall_mem_append]
        exact ⟨manned.empty, by simp⟩
      next =>
        have made : config.meterFor files id = .ok meter := made
        have fresh : ∃ supply, meter = .empty config supply := by
          unfold MeterConfig.meterFor at made
          split at made
          next => exact nomatch made
          next =>
            cases made
            exact ⟨_, rfl⟩
        rw [List.forall_mem_append]
        exact ⟨manned.fresh, by simpa using fresh⟩

theorem manned_extend {files : FileTree} {device : String} {group : UInt16} {count missing : Nat}
    {workers all : List (Worker Meter)} {bench left : WorkerPool.Bench Hub}
    (manned : Manned config bench.site.captures workers)
    (opened : WorkerPool.extend (plan config files device group) count missing workers bench =
      (.ok all, left)) : Manned config left.site.captures all := by
  induction missing generalizing workers bench with
  | zero =>
    cases opened
    exact manned
  | succ missing ih =>
    unfold WorkerPool.extend at opened
    split at opened
    next worker between made => exact ih (manned_worker manned made) opened
    next => exact nomatch opened

theorem manned_openAll {files : FileTree} {device : String} {group : UInt16} {count : Nat}
    {hub : Hub} {queue : Queue} {workers : List (Worker Meter)} {site : Site Hub}
    (reachable : hub.Reachable) (free : hub.members = [])
    (opened : WorkerPool.openAll (plan config files device group) count ⟨hub, queue⟩ =
      (.ok workers, site)) : Manned config site.captures workers := by
  obtain ⟨-, bench, extended, rfl⟩ := WorkerPool.extend_of_openAll opened
  refine manned_extend ⟨Hub.numbered_reachable reachable, ?_, ?_, ?_⟩ extended
  next => simp [Hub.ids, free]
  next => simp [free]
  next => simp

theorem sound_start {files : FileTree} {device : String} {group : UInt16} {count : Nat}
    {hub : Hub} {queue : Queue} {workers : List (Worker Meter)} {site : Site Hub}
    (reachable : hub.Reachable) (free : hub.members = [])
    (opened : WorkerPool.openAll (plan config files device group) count ⟨hub, queue⟩ =
      (.ok workers, site)) :
    (start workers site).Sound config queue.producers queue.pending := by
  have manned := manned_openAll reachable free opened
  obtain ⟨numbered, length, queues⟩ := WorkerPool.opened_workers opened
  have channels : (start workers site).pool.threads.map WorkerThread.channel =
      workers.map Worker.channel := by
    simp [start, RunningPool.start, WorkerThread.start, Function.comp_def]
  constructor
  case occupied =>
    have some_worker : 0 < count := (WorkerPool.extend_of_openAll opened).1
    simpa [size, start, RunningPool.start, length] using some_worker
  case crewed =>
    apply RunningPool.crewed_start numbered
    rw [queues, length]
  case distinct => exact channels ▸ manned.ids ▸ manned.numbered.distinct
  case joined =>
    rw [channels, ← manned.ids]
    exact List.Sublist.refl _
  case covered => exact ⟨List.forall_mem_nil _, List.forall_mem_nil _⟩
  case pending =>
    change site.queue.pending = queue.pending ++ []
    rw [queues, List.append_nil]
  case metered =>
    intro index thread there
    obtain ⟨worker, found, rfl⟩ := Option.map_eq_some_iff.mp (List.getElem?_map ▸ there)
    obtain ⟨supply, fresh⟩ := manned.fresh worker (List.mem_of_getElem? found)
    exact ⟨supply, fresh ▸ WorkerThread.keeps_start worker⟩
  case supplied =>
    intro index thread there
    obtain ⟨worker, found, rfl⟩ := Option.map_eq_some_iff.mp (List.getElem?_map ▸ there)
    refine ⟨List.nil_prefix, fun _ => ?_⟩
    have number : site.captures.ids[index]? = some worker.channel := by
      rw [manned.ids, List.getElem?_map, found]
      rfl
    obtain ⟨mailbox, place, own⟩ := Hub.member?_of_ids manned.numbered.distinct number
    exact ⟨mailbox, own, manned.empty mailbox (List.mem_of_getElem? place)⟩

-- What each thread has got is no more than its share, so that all have got all of theirs if together
-- they have got as many frames as came.
theorem received_all (sound : fleet.Sound config others before)
    (complete : fleet.received.length = fleet.injected.length) :
    ∀ index < fleet.size, fleet.receivedBy index = fleet.assigned index := by
  intro index bound
  have prior : ∀ slot < fleet.size, fleet.receivedBy slot <+: fleet.assigned slot := by
    intro slot inside
    have there : fleet.pool.threads[slot]? = some fleet.pool.threads[slot] :=
      List.getElem?_eq_getElem inside
    exact (sound.supplied slot _ there).prior
  have routed : ∀ captured ∈ fleet.injected, Hub.slotOf fleet.size captured.bytes < fleet.size :=
    fun captured _ => Hub.slotOf_lt (Nat.zero_lt_of_lt bound) captured.bytes
  have got : fleet.received.length =
      ((List.range fleet.size).map fun slot => (fleet.receivedBy slot).length).sum := by
    simpa [receivedBy] using Fibers.length_parts sound.covered.1
  have given : fleet.injected.length =
      ((List.range fleet.size).map fun slot => (fleet.assigned slot).length).sum :=
    Fibers.length_parts routed
  have lengths := Fibers.eq_of_sum_eq (fun slot inside => (prior slot inside).length_le)
    (got.symm.trans (complete.trans given)) index bound
  exact (prior index bound).eq_of_length lengths

-- Every meter has a source of identifiers of its own; `supply` stands in where there is no meter.
theorem emitted_apart (sound : fleet.Sound config others before)
    (complete : fleet.received.length = fleet.injected.length)
    (ended : ∀ thread ∈ fleet.pool.threads, thread.report?.isSome) (supply : Nat → Uuid) :
    ∃ source : Nat → Nat → Uuid, ∀ slot < fleet.size, fleet.emittedBy slot =
      (Meter.empty config (source slot)).emitted (Meter.sitting (fleet.assigned slot)) := by
  have sources : ∀ slot, ∃ source, slot < fleet.size → fleet.emittedBy slot =
      (Meter.empty config source).emitted (Meter.sitting (fleet.assigned slot)) := by
    intro slot
    by_cases inside : slot < fleet.size
    next =>
      have there : fleet.pool.threads[slot]? = some fleet.pool.threads[slot] :=
        List.getElem?_eq_getElem inside
      obtain ⟨source, keeps⟩ := sound.metered slot _ there
      refine ⟨source, fun _ => ?_⟩
      rw [← received_all sound complete slot inside]
      exact WorkerThread.written_of_report keeps (ended _ (List.getElem_mem inside))
    next => exact ⟨supply, fun within => absurd within inside⟩
  choose source written using sources
  exact ⟨source, written⟩

/-- Any number of meters on one hub, however their steps fall. When they have taken all frames that
came, all of which were captured in less than the idle timeout of each other, and have ended, then
their records, but for identifiers, are the ones that a single meter makes of these frames. -/
theorem sharding_transparent (config : MeterConfig) (files : FileTree) (device : String)
    (group : UInt16) {hub : Hub} (reachable : hub.Reachable) (free : hub.members = [])
    (queue : Queue) (count : Nat) {workers : List (Worker Meter)} {site : Site Hub}
    (opened : WorkerPool.openAll (plan config files device group) count ⟨hub, queue⟩ =
      (.ok workers, site)) (moves : List FleetMove) (supply : Nat → Uuid) :
    let fleet := (start workers site).follow moves
    (∀ thread ∈ fleet.pool.threads, thread.report?.isSome) →
      fleet.received.length = fleet.injected.length →
        Captured.Close config.idleTimeout fleet.injected →
          fleet.pool.site.queue.pending = queue.pending ++ fleet.emitted.map Prod.snd ∧
            (fleet.emitted.map fun entry => entry.2.withoutId).Perm
              (((Meter.empty config supply).emitted (Meter.sitting fleet.injected)).map
                Record.withoutId) := by
  intro fleet ended complete close
  have sound : fleet.Sound config queue.producers queue.pending :=
    sound_follow (sound_start reachable free opened) moves
  refine ⟨sound.pending, ?_⟩
  obtain ⟨source, written⟩ := emitted_apart sound complete ended supply
  let plain := Report.plain config.enrichment
  have sharing : (fleet.emitted.map Prod.snd).Perm
      ((List.range fleet.size).flatMap fleet.emittedBy) := by
    have parts := (Fibers.perm_flatMap_parts sound.covered.2).map Prod.snd
    rwa [List.map_flatMap] at parts
  have each : ∀ slot ∈ List.range fleet.size, (fleet.emittedBy slot).map Record.withoutId =
      (((Meter.empty config (source slot)).reports
        (Meter.sitting (fleet.assigned slot))).map Report.unnamed).map plain := by
    intro slot member
    rw [written slot (List.mem_range.mp member)]
    exact Meter.withoutId_emitted _ _
  have together : ((List.range fleet.size).flatMap fleet.emittedBy).map Record.withoutId =
      (((List.range fleet.size).flatMap fun slot => (Meter.empty config (source slot)).reports
        (Meter.sitting (fleet.assigned slot))).map Report.unnamed).map plain := by
    rw [List.map_flatMap, List.flatMap_congr each, List.map_flatMap, List.map_flatMap]
  have untagged : (fleet.emitted.map fun entry => entry.2.withoutId) =
      (fleet.emitted.map Prod.snd).map Record.withoutId := by
    rw [List.map_map]
    rfl
  have shared := (Meter.shares_report config source supply sound.occupied close).map plain
  rw [untagged, Meter.withoutId_emitted]
  exact (sharing.map _).trans (together ▸ shared)

def pair : List (Worker Meter) × Site Hub :=
  match WorkerPool.openAll (plan {} ⟨[], []⟩ "syn0" 7) 2 ⟨.ofDevice "syn0", .empty⟩ with
  | (.ok workers, site) => (workers, site)
  | (.error _, site) => ([], site)

def segmentFrom (port control : UInt8) : List UInt8 :=
  (Meter.segmentFrame control).set 35 port

-- Two connections for different workers. One of them is reset, the other one is left open.
def twoConnections : Fleet :=
  (start pair.1 pair.2).follow ([
    .inject (.of 5 60 (segmentFrom 1 0x02)), .step 1, .inject (.of 6 60 (segmentFrom 2 0x02)),
    .inject (.of 7 60 (segmentFrom 1 0x04)), .step 0, .step 1, .step 1, .wake 0, .wake 1] ++
    List.replicate 9 (.step 1) ++ List.replicate 9 (.step 0))

theorem pair_shares_connections :
    (Hub.ofDevice "syn0").members = [] ∧
      WorkerPool.openAll (plan {} ⟨[], []⟩ "syn0" 7) 2 ⟨.ofDevice "syn0", .empty⟩ =
        (.ok pair.1, pair.2) ∧
      (∀ thread ∈ twoConnections.pool.threads, thread.report?.isSome) ∧
      twoConnections.received.length = twoConnections.injected.length ∧
      Captured.Close (MeterConfig.idleTimeout {}) twoConnections.injected ∧
      twoConnections.emitted.map Prod.fst = [1, 0] ∧
      (twoConnections.emitted.map fun entry => entry.2.withoutId).Perm
        (((Meter.empty {} (Uuid.supply 0)).emitted
          (Meter.sitting twoConnections.injected)).map Record.withoutId) := by
  have opened : WorkerPool.openAll (plan {} ⟨[], []⟩ "syn0" 7) 2 ⟨.ofDevice "syn0", .empty⟩ =
      (.ok pair.1, pair.2) := rfl
  have ended : ∀ thread ∈ twoConnections.pool.threads, thread.report?.isSome := by
    decide +kernel
  have complete : twoConnections.received.length = twoConnections.injected.length := by
    decide +kernel
  have close : Captured.Close (MeterConfig.idleTimeout {}) twoConnections.injected := by
    unfold Captured.Close
    decide +kernel
  refine ⟨rfl, opened, ended, complete, close, by decide +kernel, ?_⟩
  unfold twoConnections at ended complete close ⊢
  exact (sharding_transparent {} ⟨[], []⟩ "syn0" 7 (.ofDevice "syn0") rfl .empty 2 opened _
    (Uuid.supply 0) ended complete close).2

end Fleet

end FlowProbe
