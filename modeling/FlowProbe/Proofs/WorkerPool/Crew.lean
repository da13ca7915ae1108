import FlowProbe.Proofs.Queue.Accounting
import FlowProbe.WorkerPool

set_option autoImplicit false

namespace FlowProbe

variable {κ σ : Type}

namespace WorkerThread

def producerState (thread : WorkerThread σ) : Producer :=
  match thread.activity with
  | .receiving _ => .idle
  | .emitting _ _ => .idle
  | .counting _ _ => .adding
  | .releasing holdings _ => if .producer ∈ holdings then .idle else .dropped
  | .ended _ => .dropped

def adds (thread : WorkerThread σ) : List Record :=
  match thread.activity with
  | .emitting (record :: _) _ => [record]
  | _ => []

def takes (capture : Capture κ) (thread : WorkerThread σ) (captures : κ) :
    List Captured :=
  match thread.activity with
  | .receiving _ =>
    match (capture.receive captures thread.channel).1 with
    | .frame captured => [captured]
    | _ => []
  | _ => []

def Tidy (thread : WorkerThread σ) : Prop :=
  match thread.activity with
  | .releasing holdings _ => holdings.Nodup
  | _ => True

theorem look_cases (capture : Capture κ) (classifier : Classifier σ) (thread : WorkerThread σ)
    (state : σ) (site : Site κ) :
    (thread.look capture classifier state site).1.producer = thread.producer ∧
      (thread.look capture classifier state site).2.queue = site.queue ∧
      ((thread.look capture classifier state site).1.activity = thread.activity ∨
        ∃ records next,
          (thread.look capture classifier state site).1.activity = .emitting records next) := by
  unfold look
  rcases capture.receive site.captures thread.channel with ⟨receipt, captures⟩
  cases receipt with
  | nothing => exact ⟨rfl, rfl, .inl rfl⟩
  | frame captured => exact ⟨rfl, rfl, .inr ⟨_, _, rfl⟩⟩
  | ended failure => exact ⟨rfl, rfl, .inr ⟨_, _, rfl⟩⟩

theorem queue_letGo (capture : Capture κ) (thread : WorkerThread σ) (site : Site κ)
    {holding : Holding} (other : holding ≠ .producer) :
    (thread.letGo capture site holding).queue = site.queue := by
  cases holding with
  | channel => rfl
  | classifier => rfl
  | producer => exact absurd rfl other

/-- What a step leaves as it is, and that all it does to the queue is done through the thread's own
producer. -/
structure Handled (thread next : WorkerThread σ) (before after : Queue) : Prop where
  producer : next.producer = thread.producer
  tidy : next.Tidy
  queue : Queue.ProducerStep thread.producer before thread.producerState next.producerState
    thread.adds after

theorem handled_look (capture : Capture κ) (classifier : Classifier σ) {thread : WorkerThread σ}
    {state : σ} (doing : thread.activity = .receiving state) (site : Site κ) :
    thread.Handled (thread.look capture classifier state site).1 site.queue
      (thread.look capture classifier state site).2.queue := by
  obtain ⟨producer, same, looked⟩ := look_cases capture classifier thread state site
  have before : thread.producerState = .idle := by simp [producerState, doing]
  have nothing : thread.adds = [] := by simp [adds, doing]
  have idle : (thread.look capture classifier state site).1.Tidy ∧
      (thread.look capture classifier state site).1.producerState = .idle := by
    rcases looked with waiting | ⟨records, next, busy⟩
    next => simp [Tidy, producerState, waiting, doing]
    next => simp [Tidy, producerState, busy]
  refine ⟨producer, idle.1, ?_⟩
  rw [same, before, nothing, idle.2]
  exact .rest .idle

theorem handled_letGo (capture : Capture κ) {thread : WorkerThread σ} {holding : Holding}
    {holdings : List Holding} {report : WorkerReport}
    (doing : thread.activity = .releasing (holding :: holdings) report)
    (distinct : (holding :: holdings).Nodup) (site : Site κ) :
    thread.Handled { thread with activity := .releasing holdings report } site.queue
      (thread.letGo capture site holding).queue := by
  obtain ⟨absent, rest⟩ := List.nodup_cons.mp distinct
  refine ⟨rfl, rest, ?_⟩
  by_cases own : holding = .producer
  next =>
    -- The producer is not among what is left, so this is the only time it is dropped.
    subst own
    simpa [producerState, adds, doing, absent] using .drop
  next =>
    have same : thread.producerState = if .producer ∈ holdings then .idle else .dropped := by
      simp [producerState, doing, Ne.symm own]
    have nothing : thread.adds = [] := by simp [adds, doing]
    rw [queue_letGo capture thread site own, same, nothing]
    exact .rest _

theorem handled_step (capture : Capture κ) (classifier : Classifier σ) {thread : WorkerThread σ}
    (tidy : thread.Tidy) (site : Site κ) :
    thread.Handled (thread.step capture classifier site).1 site.queue
      (thread.step capture classifier site).2.queue := by
  unfold Tidy at tidy
  unfold step
  cases doing : thread.activity with
  | receiving state => exact handled_look capture classifier doing site
  | counting records next =>
    refine ⟨rfl, trivial, ?_⟩
    simpa [producerState, adds, doing] using .count
  | emitting records next =>
    cases records with
    | cons record records =>
      refine ⟨rfl, trivial, ?_⟩
      simpa [producerState, adds, doing] using .push record
    | nil =>
      cases next with
      | resume state =>
        refine ⟨rfl, trivial, ?_⟩
        simpa [producerState, adds, doing] using .rest .idle
      | leave =>
        refine ⟨rfl, (by decide : [Holding.channel, .classifier, .producer].Nodup), ?_⟩
        simpa [producerState, adds, doing] using .rest .idle
      | unwind =>
        refine ⟨rfl, (by decide : [Holding.producer, .classifier, .channel].Nodup), ?_⟩
        simpa [producerState, adds, doing] using .rest .idle
  | releasing holdings report =>
    rw [doing] at tidy
    cases holdings with
    | nil =>
      refine ⟨rfl, trivial, ?_⟩
      simpa [producerState, adds, doing] using .rest .dropped
    | cons holding holdings => exact handled_letGo capture doing tidy site
  | ended report =>
    refine ⟨rfl, by simp [Tidy, doing], ?_⟩
    simpa [producerState, adds, doing] using .rest .dropped

theorem step_ended (capture : Capture κ) (classifier : Classifier σ) {thread : WorkerThread σ}
    {report : WorkerReport} (ended : thread.report? = some report) (site : Site κ) :
    thread.step capture classifier site = (thread, site) := by
  unfold report? at ended
  split at ended
  next left doing =>
    unfold step
    simp only [doing]
  next => exact nomatch ended

theorem dropped_of_report {thread : WorkerThread σ} {report : WorkerReport}
    (ended : thread.report? = some report) : thread.producerState = .dropped := by
  unfold report? at ended
  split at ended
  next left doing => simp [producerState, doing]
  next => exact nomatch ended

theorem tidy_start (worker : Worker σ) : (start worker).Tidy :=
  trivial

end WorkerThread

namespace RunningPool

/-- Behind the producers of `others`, the queue has one producer for each thread and no more. -/
structure Crewed (others : List Producer) (pool : RunningPool κ σ) : Prop where
  producers : pool.site.queue.producers = others ++ pool.threads.map WorkerThread.producerState
  numbers : pool.threads.map WorkerThread.producer =
    (List.range pool.threads.length).map (others.length + ·)
  tidy : ∀ thread ∈ pool.threads, thread.Tidy

def adds (pool : RunningPool κ σ) (index : Nat) : List Record :=
  (pool.threads[index]?).elim [] WorkerThread.adds

def takes (capture : Capture κ) (pool : RunningPool κ σ) (index : Nat) :
    List Captured :=
  (pool.threads[index]?).elim [] fun thread => thread.takes capture pool.site.captures

variable {others : List Producer} {pool : RunningPool κ σ}

theorem number_of_thread (crewed : pool.Crewed others) {index : Nat} {thread : WorkerThread σ}
    (here : pool.threads[index]? = some thread) : thread.producer = others.length + index := by
  obtain ⟨bound, found⟩ := List.getElem?_eq_some_iff.mp here
  have numbered := congrArg (·[index]?) crewed.numbers
  simpa [bound, found] using numbered

theorem owned_by_thread (crewed : pool.Crewed others) {index : Nat} {thread : WorkerThread σ}
    (here : pool.threads[index]? = some thread) :
    pool.site.queue.producers[thread.producer]? = some thread.producerState := by
  rw [crewed.producers, number_of_thread crewed here, List.getElem?_append_right (by omega)]
  simp [here]

theorem step_eq (capture : Capture κ) (classifier : Classifier σ) {index : Nat}
    {thread : WorkerThread σ} (here : pool.threads[index]? = some thread) :
    pool.step capture classifier index =
      ⟨pool.threads.set index (thread.step capture classifier pool.site).1,
        (thread.step capture classifier pool.site).2⟩ := by
  simp only [step, here]

theorem step_absent (capture : Capture κ) (classifier : Classifier σ) {index : Nat}
    (absent : pool.threads[index]? = none) : pool.step capture classifier index = pool := by
  simp only [step, absent]

theorem crewed_step (crewed : pool.Crewed others) (capture : Capture κ) (classifier : Classifier σ)
    (index : Nat) : (pool.step capture classifier index).Crewed others := by
  cases here : pool.threads[index]? with
  | none => rwa [step_absent capture classifier here]
  | some thread =>
    rw [step_eq capture classifier here]
    have tidy := crewed.tidy thread (List.mem_of_getElem? here)
    obtain ⟨kept, stillTidy, stepped⟩ :=
      WorkerThread.handled_step capture classifier tidy pool.site
    -- Threads and producers change in the same place only, the one of the thread that steps.
    refine ⟨?_, ?_, ?_⟩
    next =>
      rw [Queue.producers_step stepped (owned_by_thread crewed here), crewed.producers,
        number_of_thread crewed here, List.set_append_right _ _ (by omega)]
      simp [List.map_set]
    next =>
      have same : (pool.threads.map WorkerThread.producer)[index]? = some thread.producer := by
        simp [here]
      obtain ⟨within, number⟩ := List.getElem?_eq_some_iff.mp same
      rw [List.length_set, ← crewed.numbers, List.map_set, kept, ← number, List.set_getElem_self]
    next =>
      intro other member
      rcases List.mem_or_eq_of_mem_set member with old | same
      next => exact crewed.tidy other old
      next => exact same ▸ stillTidy

theorem queue_step (crewed : pool.Crewed others) (capture : Capture κ) (classifier : Classifier σ)
    (index : Nat) :
    (pool.adds index = [] ∧ (pool.step capture classifier index).site.queue = pool.site.queue) ∨
      ∃ number before after, pool.site.queue.producers[number]? = some before ∧
        Queue.ProducerStep number pool.site.queue before after (pool.adds index)
          (pool.step capture classifier index).site.queue := by
  cases here : pool.threads[index]? with
  | none =>
    left
    rw [step_absent capture classifier here]
    exact ⟨by simp [adds, here], rfl⟩
  | some thread =>
    right
    have tidy := crewed.tidy thread (List.mem_of_getElem? here)
    have stepped := (WorkerThread.handled_step capture classifier tidy pool.site).queue
    have added : pool.adds index = thread.adds := by simp [adds, here]
    rw [step_eq capture classifier here, added]
    exact ⟨_, _, _, owned_by_thread crewed here, stepped⟩

theorem counted_step (crewed : pool.Crewed others) (counted : pool.site.queue.Counted)
    (capture : Capture κ) (classifier : Classifier σ) (index : Nat) :
    (pool.step capture classifier index).site.queue.Counted := by
  rcases queue_step crewed capture classifier index with ⟨_, same⟩ | ⟨_, _, _, owned, stepped⟩
  next => exact same ▸ counted
  next => exact Queue.counted_step counted stepped owned

theorem dequeued_step (crewed : pool.Crewed others) (capture : Capture κ)
    (classifier : Classifier σ) (index : Nat) :
    (pool.step capture classifier index).site.queue.dequeued = pool.site.queue.dequeued := by
  rcases queue_step crewed capture classifier index with ⟨_, same⟩ | ⟨_, _, _, _, stepped⟩
  next => rw [same]
  next => exact Queue.dequeued_step stepped

theorem pending_step (crewed : pool.Crewed others) (capture : Capture κ)
    (classifier : Classifier σ) (index : Nat) :
    (pool.step capture classifier index).site.queue.pending =
      pool.site.queue.pending ++ pool.adds index := by
  rcases queue_step crewed capture classifier index with ⟨nothing, same⟩ | ⟨_, _, _, _, stepped⟩
  next => rw [same, nothing, List.append_nil]
  next => exact Queue.pending_step stepped

-- Crews are told apart by their threads and producers only.
theorem crewed_congr {other : RunningPool κ σ} (crewed : pool.Crewed others)
    (threads : other.threads = pool.threads)
    (producers : other.site.queue.producers = pool.site.queue.producers) :
    other.Crewed others where
  producers := by rw [producers, threads, crewed.producers]
  numbers := by rw [threads, crewed.numbers]
  tidy := threads ▸ crewed.tidy

theorem wake_threads (capture : Capture κ) (pool : RunningPool κ σ) (index : Nat) :
    (pool.wake capture index).threads = pool.threads := by
  unfold wake
  split <;> rfl

theorem wake_queue (capture : Capture κ) (pool : RunningPool κ σ) (index : Nat) :
    (pool.wake capture index).site.queue = pool.site.queue := by
  unfold wake
  split <;> rfl

theorem length_step (capture : Capture κ) (classifier : Classifier σ) (index : Nat) :
    (pool.step capture classifier index).threads.length = pool.threads.length := by
  cases here : pool.threads[index]? with
  | none => rw [step_absent capture classifier here]
  | some thread => simp [step_eq capture classifier here]

theorem forall_step (capture : Capture κ) (classifier : Classifier σ) {index : Nat}
    {thread : WorkerThread σ} (here : pool.threads[index]? = some thread)
    {Kept : Nat → WorkerThread σ → Prop}
    (own : Kept index (thread.step capture classifier pool.site).1)
    (foreign : ∀ slot other, slot ≠ index → pool.threads[slot]? = some other → Kept slot other) :
    ∀ slot other, (pool.step capture classifier index).threads[slot]? = some other →
      Kept slot other := by
  obtain ⟨bound, -⟩ := List.getElem?_eq_some_iff.mp here
  intro slot other there
  rw [step_eq capture classifier here] at there
  by_cases same : index = slot
  next =>
    subst same
    rw [List.getElem?_set_self bound] at there
    cases there
    exact own
  next =>
    rw [List.getElem?_set_ne same] at there
    exact foreign slot other (Ne.symm same) there

theorem step_ended (capture : Capture κ) (classifier : Classifier σ) {index : Nat}
    {thread : WorkerThread σ} {report : WorkerReport} (here : pool.threads[index]? = some thread)
    (ended : thread.report? = some report) : pool.step capture classifier index = pool := by
  obtain ⟨bound, found⟩ := List.getElem?_eq_some_iff.mp here
  rw [step_eq capture classifier here, WorkerThread.step_ended capture classifier ended, ← found,
    List.set_getElem_self]

-- A thread that has ended has ended for good.
theorem report_kept (capture : Capture κ) (classifier : Classifier σ) {index : Nat}
    {report : WorkerReport}
    (ended : (pool.threads[index]?).bind WorkerThread.report? = some report) (moved : Nat) :
    ((pool.step capture classifier moved).threads[index]?).bind WorkerThread.report? =
      some report := by
  cases here : pool.threads[moved]? with
  | none => rwa [step_absent capture classifier here]
  | some thread =>
    by_cases same : moved = index
    next =>
      subst same
      have own : thread.report? = some report := by simpa [here] using ended
      rwa [step_ended capture classifier here own]
    next =>
      rw [step_eq capture classifier here]
      simpa [List.getElem?_set_ne same] using ended

end RunningPool

namespace WorkerPool

theorem forall_concat {α : Type} {Holds : Nat → α → Prop} {items : List α} {last : α}
    (each : ∀ index item, items[index]? = some item → Holds index item)
    (own : Holds items.length last) :
    ∀ index item, (items ++ [last])[index]? = some item → Holds index item := by
  intro index item found
  rcases Nat.lt_trichotomy index items.length with earlier | rfl | later
  next =>
    rw [List.getElem?_append_left earlier] at found
    exact each index item found
  next =>
    rw [List.getElem?_concat_length] at found
    exact Option.some.inj found ▸ own
  next =>
    rw [List.getElem?_eq_none (by simpa using Nat.succ_le_of_lt later)] at found
    exact nomatch found

theorem opened_worker {plan : Plan κ σ} {id : WorkerId} {bench left : Bench κ} {worker : Worker σ}
    (opened : openWorker plan id bench = (.ok worker, left)) :
    worker.producer = bench.site.queue.producers.length ∧
      left.site.queue = bench.site.queue.clone := by
  unfold openWorker at opened
  split at opened
  next => exact nomatch opened
  next channel captures found =>
    split at opened
    next => exact nomatch opened
    next classifier made =>
      cases opened
      exact ⟨rfl, rfl⟩

def Numbered (first : Nat) (workers : List (Worker σ)) : Prop :=
  workers.map Worker.producer = (List.range workers.length).map (first + ·)

theorem extended_workers {plan : Plan κ σ} {count missing first : Nat}
    {workers all : List (Worker σ)} {bench left : Bench κ}
    (opened : extend plan count missing workers bench = (.ok all, left))
    (numbered : Numbered first workers)
    (reached : bench.site.queue.producers.length = first + workers.length) :
    Numbered first all ∧ all.length = workers.length + missing ∧
      left.site.queue = { bench.site.queue with
        producers := bench.site.queue.producers ++ List.replicate missing .idle } := by
  -- The queue has as many producers behind the first ones as there are workers, so the producer of
  -- the next worker has the next number.
  induction missing generalizing workers bench with
  | zero =>
    cases opened
    exact ⟨numbered, rfl, by simp⟩
  | succ missing ih =>
    unfold extend at opened
    split at opened
    next worker between made =>
      obtain ⟨number, cloned⟩ := opened_worker made
      have longer : Numbered first (workers ++ [worker]) := by
        unfold Numbered at numbered ⊢
        simp [numbered, List.range_succ, number, reached]
      have next : between.site.queue.producers.length = first + (workers ++ [worker]).length := by
        simp [cloned, Queue.clone, reached]
        omega
      obtain ⟨allNumbered, length, queue⟩ := ih opened longer next
      refine ⟨allNumbered, ?_, ?_⟩
      next =>
        rw [length, List.length_append, List.length_singleton]
        omega
      next =>
        rw [queue, cloned]
        simp [Queue.clone, List.replicate_succ]
    next => exact nomatch opened

theorem extend_of_openAll {plan : Plan κ σ} {count : Nat} {workers : List (Worker σ)}
    {site left : Site κ} (opened : openAll plan count site = (.ok workers, left)) :
    0 < count ∧ ∃ bench, extend plan count count [] ⟨site, 0, []⟩ = (.ok workers, bench) ∧
      bench.site = left := by
  simp only [openAll, fill] at opened
  split at opened
  next => exact nomatch opened
  next some =>
    obtain ⟨made, own⟩ := Prod.mk.inj opened
    exact ⟨Nat.pos_of_ne_zero some, _, Prod.ext made rfl, own⟩

theorem opened_workers {plan : Plan κ σ} {count : Nat} {workers : List (Worker σ)}
    {site left : Site κ} (opened : openAll plan count site = (.ok workers, left)) :
    Numbered site.queue.producers.length workers ∧ workers.length = count ∧
      left.queue = { site.queue with
        producers := site.queue.producers ++ List.replicate count .idle } := by
  obtain ⟨-, bench, extended, rfl⟩ := extend_of_openAll opened
  have none_yet : Numbered site.queue.producers.length ([] : List (Worker σ)) := rfl
  simpa using extended_workers extended none_yet rfl

end WorkerPool

theorem RunningPool.crewed_start {others : List Producer} {workers : List (Worker σ)}
    {site : Site κ} (numbered : WorkerPool.Numbered others.length workers)
    (producers : site.queue.producers = others ++ List.replicate workers.length .idle) :
    (start workers site).Crewed others where
  producers := by
    have idle : (workers.map WorkerThread.start).map WorkerThread.producerState =
        List.replicate workers.length .idle := by
      rw [List.map_map]
      exact List.map_eq_replicate_iff.mpr fun worker _ => rfl
    exact idle ▸ producers
  numbers := by
    unfold WorkerPool.Numbered at numbered
    simpa [start, WorkerThread.start, Function.comp_def] using numbered
  tidy := by
    intro thread member
    obtain ⟨worker, _, rfl⟩ := List.mem_map.mp member
    exact WorkerThread.tidy_start worker

end FlowProbe
