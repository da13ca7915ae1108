import FlowProbe.Proofs.WorkerPool.Stopping

set_option autoImplicit false

namespace FlowProbe

namespace WorkerThread

variable {κ σ : Type} {thread : WorkerThread σ}

def classifier? (thread : WorkerThread σ) : Option σ :=
  match thread.activity with
  | .receiving state => some state
  | .emitting _ (.resume state) => some state
  | .counting _ (.resume state) => some state
  | _ => none

-- How many steps are left if the next look finds that the channel has ended.
def remaining (classifier : Classifier σ) (thread : WorkerThread σ) : Nat :=
  thread.distance + thread.classifier?.elim 0 fun state =>
    2 * (classifier.flush thread.id state).records.length + 6

theorem remaining_look (capture : Capture κ) (classifier : Classifier σ) {state : σ}
    (doing : thread.activity = .receiving state) {site : Site κ} {failure : Option CaptureFailure}
    (closed : (capture.receive site.captures thread.channel).1 = .ended failure) :
    (thread.look capture classifier state site).1.remaining classifier <
      thread.remaining classifier := by
  simp only [look, closed, remaining, distance, classifier?, doing, continuation]
  cases (classifier.flush thread.id state).next with
  | none => simp [tailLength]
  | some state => simp [tailLength]

theorem remaining_step (capture : Capture κ) (classifier : Classifier σ) {site : Site κ}
    (closed : ∀ state, thread.activity = .receiving state →
      ∃ failure, (capture.receive site.captures thread.channel).1 = .ended failure)
    (unfinished : thread.remaining classifier ≠ 0) :
    (thread.step capture classifier site).1.remaining classifier < thread.remaining classifier := by
  cases doing : thread.activity with
  | receiving state =>
    obtain ⟨failure, ended⟩ := closed state doing
    simp only [step, doing]
    exact remaining_look capture classifier doing ended
  | emitting records next =>
    cases records with
    | cons record records =>
      cases next <;> simp [step, remaining, distance, classifier?, doing] <;> omega
    | nil =>
      cases next <;> simp [step, remaining, distance, classifier?, doing, tailLength]
  | counting records next =>
    cases next <;> simp [step, remaining, distance, classifier?, doing]
  | releasing holdings report =>
    cases holdings <;> simp [step, remaining, distance, classifier?, doing]
  | ended report => simp [remaining, distance, classifier?, doing] at unfinished

theorem report_of_remaining {classifier : Classifier σ} (settled : thread.remaining classifier = 0) :
    ∃ report, thread.report? = some report := by
  cases doing : thread.activity with
  | receiving state => simp [remaining, classifier?, doing] at settled
  | emitting records next => cases next <;> simp [remaining, distance, tailLength, doing] at settled
  | counting records next => cases next <;> simp [remaining, distance, tailLength, doing] at settled
  | releasing holdings report => simp [remaining, distance, doing] at settled
  | ended report => exact ⟨report, by simp only [report?, doing]⟩

theorem ended_of_woken {hub : Hub} {roused : Prop} (numbered : hub.Numbered)
    (attached : thread.Attached roused hub) (woken : roused) {state : σ}
    (doing : thread.activity = .receiving state) :
    (Hub.capture.receive hub thread.channel).1 = .ended none := by
  have holds : thread.HoldsChannel := by simp [HoldsChannel, doing]
  obtain ⟨mailbox, member, own, up⟩ := attached.joined holds
  obtain ⟨slot, here⟩ := List.getElem?_of_mem member
  have found := Hub.member?_at numbered.distinct here
  rw [own] at found
  simp [Hub.capture, Hub.receive, found, up woken]

end WorkerThread

theorem exists_eq_zero {measure : Nat → Nat} {since : Nat}
    (never : ∀ now ≥ since, measure (now + 1) ≤ measure now)
    (often : ∀ now ≥ since, ∃ later ≥ now, measure later ≠ 0 →
      measure (later + 1) < measure later) : ∃ moment ≥ since, measure moment = 0 := by
  -- By induction on the measure where the wait begins; after a fall the wait begins anew.
  generalize first : measure since = most
  induction most using Nat.strongRecOn generalizing since with
  | ind most ih =>
    obtain ⟨later, after, falls⟩ := often since (Nat.le_refl _)
    by_cases zero : measure later = 0
    next => exact ⟨later, after, zero⟩
    next =>
      have below : measure later ≤ most :=
        first ▸ antitoneOn_nat_Ici_of_succ_le never (Nat.le_refl _) after after
      have least : since ≤ later + 1 := Nat.le_succ_of_le after
      obtain ⟨moment, further, done⟩ := ih (measure (later + 1))
        (Nat.lt_of_lt_of_le (falls zero) below)
        (fun now beyond => never now (Nat.le_trans least beyond))
        (fun now beyond => often now (Nat.le_trans least beyond)) rfl
      exact ⟨moment, Nat.le_trans least further, done⟩

namespace RunningPool

variable {κ σ : Type} {pool : RunningPool κ σ} {reports : List WorkerReport}

theorem reports_eq_some_iff :
    pool.reports? = some reports ↔ pool.threads.map WorkerThread.report? = reports.map some := by
  rw [reports?]
  generalize pool.threads = threads
  induction threads generalizing reports with
  | nil => cases reports <;> simp
  | cons thread rest ih =>
    cases reports with
    | nil => simp [Option.bind_eq_some_iff]
    | cons report others =>
      cases here : thread.report? <;> simp [here, Option.bind_eq_some_iff, ih, and_comm]

end RunningPool

namespace PoolRun

variable {σ : Type}

/-- Every worker gets on again and again, and so does the caller. -/
structure Fair (count : Nat) (schedule : Nat → PoolMove) : Prop where
  worker : ∀ index < count, ∀ now, ∃ later ≥ now, schedule later = .worker index
  stopper : ∀ now, ∃ later ≥ now, schedule later = .stopper

def remaining (classifier : Classifier σ) (run : PoolRun σ) (index : Nat) : Nat :=
  (run.pool.threads[index]?).elim 0 (WorkerThread.remaining classifier)

def Ended (run : PoolRun σ) (index : Nat) : Prop :=
  ∃ report, (run.pool.threads[index]?).bind WorkerThread.report? = some report

variable {run : PoolRun σ} {others : List Producer}

theorem threads_stopper (classifier : Classifier σ) (run : PoolRun σ) :
    (run.act classifier .stopper).pool.threads = run.pool.threads := by
  rw [act]
  split
  next => exact RunningPool.wake_threads _ _ _
  next => rfl

theorem woken_act (classifier : Classifier σ) (run : PoolRun σ) (move : PoolMove) :
    run.woken ≤ (run.act classifier move).woken := by
  cases move with
  | stopper =>
    rw [act]
    split
    next => exact Nat.le_succ _
    next => exact Nat.le_refl _
  | _ => exact Nat.le_refl _

theorem woken_stopper (classifier : Classifier σ) (asleep : run.woken < run.pool.threads.length) :
    (run.act classifier .stopper).woken = run.woken + 1 := by
  rw [act, if_pos asleep]

theorem thread_act (classifier : Classifier σ) (run : PoolRun σ) {move : PoolMove} {index : Nat}
    (foreign : move ≠ .worker index) :
    (run.act classifier move).pool.threads[index]? = run.pool.threads[index]? := by
  cases move with
  | inject captured => rfl
  | openChannel device group => rfl
  | stopper => rw [threads_stopper]
  | worker moved =>
    cases here : run.pool.threads[moved]? with
    | none => rw [act_absent classifier here]
    | some thread =>
      have different : moved ≠ index := fun same => foreign (same ▸ rfl)
      rw [act, RunningPool.step_eq Hub.capture classifier here, List.getElem?_set_ne different]

theorem remaining_worker (sound : run.Sound others) (classifier : Classifier σ) {index : Nat}
    (woken : index < run.woken) (unfinished : run.remaining classifier index ≠ 0) :
    (run.act classifier (.worker index)).remaining classifier index <
      run.remaining classifier index := by
  cases here : run.pool.threads[index]? with
  | none => simp [remaining, here] at unfinished
  | some thread =>
    have bound := (List.getElem?_eq_some_iff.mp here).1
    have next : (run.act classifier (.worker index)).pool.threads[index]? =
        some (thread.step Hub.capture classifier run.pool.site).1 := by
      rw [act, RunningPool.step_eq Hub.capture classifier here, List.getElem?_set_self bound]
    obtain ⟨-, attached⟩ := sound.threads index thread here
    simp only [remaining, here, next, Option.elim_some] at unfinished ⊢
    refine WorkerThread.remaining_step Hub.capture classifier (fun state doing => ?_) unfinished
    exact ⟨none, WorkerThread.ended_of_woken sound.numbered attached woken doing⟩

theorem remaining_settled {classifier : Classifier σ} {index : Nat}
    (settled : run.remaining classifier index = 0) :
    (run.act classifier (.worker index)).remaining classifier index = 0 := by
  cases here : run.pool.threads[index]? with
  | none => rwa [act_absent classifier here]
  | some thread =>
    have nothing : thread.remaining classifier = 0 := by simpa [remaining, here] using settled
    obtain ⟨report, ended⟩ := WorkerThread.report_of_remaining nothing
    rwa [remaining, act, RunningPool.step_ended Hub.capture classifier here ended]

theorem remaining_act (sound : run.Sound others) (classifier : Classifier σ) {index : Nat}
    (woken : index < run.woken) (move : PoolMove) :
    (run.act classifier move).remaining classifier index ≤ run.remaining classifier index := by
  by_cases own : move = .worker index
  next =>
    subst own
    by_cases settled : run.remaining classifier index = 0
    next => rw [remaining_settled settled, settled]
    next => exact Nat.le_of_lt (remaining_worker sound classifier woken settled)
  next => rw [remaining, thread_act classifier run own, remaining]

theorem ended_act (classifier : Classifier σ) {index : Nat} (ended : run.Ended index)
    (move : PoolMove) : (run.act classifier move).Ended index := by
  obtain ⟨report, said⟩ := ended
  cases move with
  | worker moved => exact ⟨report, RunningPool.report_kept Hub.capture classifier said moved⟩
  | inject captured => exact ⟨report, said⟩
  | openChannel device group => exact ⟨report, said⟩
  | stopper => exact ⟨report, by rwa [threads_stopper]⟩

section Running

variable (classifier : Classifier σ) (schedule : Nat → PoolMove)

theorem size_after (run : PoolRun σ) (moves : Nat) :
    (run.after classifier schedule moves).pool.threads.length = run.pool.threads.length := by
  have same := congrArg List.length (channels_after classifier schedule run moves)
  simpa [channels] using same

theorem woken_after (run : PoolRun σ) {earlier later : Nat} (ordered : earlier ≤ later) :
    (run.after classifier schedule earlier).woken ≤ (run.after classifier schedule later).woken := by
  have rising : Monotone fun moves => (run.after classifier schedule moves).woken :=
    monotone_nat_of_le_succ fun moves => woken_act classifier _ (schedule moves)
  exact rising ordered

theorem ended_after {earlier later index : Nat} (ordered : earlier ≤ later)
    (ended : (run.after classifier schedule earlier).Ended index) :
    (run.after classifier schedule later).Ended index := by
  induction later, ordered using Nat.le_induction with
  | base => exact ended
  | succ later _ ih => exact ended_act classifier ih (schedule later)

theorem all_woken (fair : Fair run.pool.threads.length schedule) :
    ∃ moment, run.pool.threads.length ≤ (run.after classifier schedule moment).woken := by
  let asleep (moves : Nat) : Nat :=
    run.pool.threads.length - (run.after classifier schedule moves).woken
  have never : ∀ now ≥ 0, asleep (now + 1) ≤ asleep now := fun now _ =>
    Nat.sub_le_sub_left (woken_after classifier schedule run (Nat.le_succ now)) _
  have often : ∀ now ≥ 0, ∃ later ≥ now, asleep later ≠ 0 → asleep (later + 1) < asleep later := by
    intro now _
    obtain ⟨later, after, turn⟩ := fair.stopper now
    refine ⟨later, after, fun some_asleep => ?_⟩
    have left : (run.after classifier schedule later).woken < run.pool.threads.length := by
      simpa [asleep, Nat.sub_eq_zero_iff_le] using some_asleep
    have next := woken_stopper classifier ((size_after classifier schedule run later).symm ▸ left)
    simp only [asleep, PoolRun.after, turn, next]
    omega
  obtain ⟨moment, -, none_asleep⟩ := exists_eq_zero never often
  exact ⟨moment, Nat.sub_eq_zero_iff_le.mp none_asleep⟩

theorem worker_ends (sound : run.Sound others) (fair : Fair run.pool.threads.length schedule)
    {index since : Nat} (known : index < run.pool.threads.length)
    (woken : index < (run.after classifier schedule since).woken) :
    ∃ moment ≥ since, (run.after classifier schedule moment).Ended index := by
  -- A worker that was woken stays woken, so what it has left to do can only become less.
  have roused (now : Nat) (after : since ≤ now) :
      index < (run.after classifier schedule now).woken :=
    Nat.lt_of_lt_of_le woken (woken_after classifier schedule run after)
  obtain ⟨moment, after, settled⟩ := exists_eq_zero
    (fun now after => remaining_act (sound_after classifier schedule sound now) classifier
      (roused now after) (schedule now))
    (fun now after => by
      obtain ⟨later, beyond, turn⟩ := fair.worker index known now
      refine ⟨later, beyond, fun unfinished => ?_⟩
      have less := remaining_worker (sound_after classifier schedule sound later) classifier
        (roused later (Nat.le_trans after beyond)) unfinished
      rwa [← turn] at less)
  refine ⟨moment, after, ?_⟩
  have bound : index < (run.after classifier schedule moment).pool.threads.length := by
    rwa [size_after]
  have here := List.getElem?_eq_getElem bound
  simp only [remaining, here, Option.elim_some] at settled
  obtain ⟨report, ended⟩ := WorkerThread.report_of_remaining settled
  exact ⟨report, by rw [here]; exact ended⟩

theorem all_end (sound : run.Sound others) (fair : Fair run.pool.threads.length schedule)
    {since : Nat} (woken : run.pool.threads.length ≤ (run.after classifier schedule since).woken)
    (count : Nat) (within : count ≤ run.pool.threads.length) :
    ∃ moment ≥ since, ∀ index < count, (run.after classifier schedule moment).Ended index := by
  induction count with
  | zero => exact ⟨since, Nat.le_refl _, nofun⟩
  | succ count ih =>
    obtain ⟨first, after, ended⟩ := ih (Nat.le_of_succ_le within)
    obtain ⟨last, after', own⟩ :=
      worker_ends classifier schedule sound fair within (Nat.lt_of_lt_of_le within woken)
    refine ⟨max first last, Nat.le_trans after (Nat.le_max_left _ _), fun index below => ?_⟩
    rcases Nat.lt_succ_iff_lt_or_eq.mp below with earlier | rfl
    next => exact ended_after classifier schedule (Nat.le_max_left _ _) (ended index earlier)
    next => exact ended_after classifier schedule (Nat.le_max_right _ _) own

theorem answer_comes (sound : run.Sound others) (fair : Fair run.pool.threads.length schedule) :
    ∃ moment reports, (run.after classifier schedule moment).answer? = some reports := by
  obtain ⟨since, woken⟩ := all_woken classifier schedule fair
  obtain ⟨moment, after, ended⟩ :=
    all_end classifier schedule sound fair woken run.pool.threads.length (Nat.le_refl _)
  let last := run.after classifier schedule moment
  have size : last.pool.threads.length = run.pool.threads.length :=
    size_after classifier schedule run moment
  have still := Nat.le_trans woken (woken_after classifier schedule run after)
  refine ⟨moment, last.pool.threads.map fun thread => thread.report?.getD thread.report, ?_⟩
  rw [answer?, if_neg (Nat.not_lt.mpr (size ▸ still)), RunningPool.reports_eq_some_iff, List.map_map]
  refine List.map_congr_left fun thread member => ?_
  obtain ⟨index, here⟩ := List.getElem?_of_mem member
  have bound := (List.getElem?_eq_some_iff.mp here).1
  obtain ⟨report, said⟩ := ended index (size ▸ bound)
  have own : thread.report? = some report := by simpa [here] using said
  simp [own]

end Running

section Answered

variable {reports : List WorkerReport} (answered : run.answer? = some reports)

include answered

theorem reports_of_answer :
    run.pool.threads.map WorkerThread.report? = reports.map some := by
  rw [answer?] at answered
  split at answered
  next => exact nomatch answered
  next => exact RunningPool.reports_eq_some_iff.mp answered

theorem ended_of_answer {thread : WorkerThread σ} (member : thread ∈ run.pool.threads) :
    ∃ report, thread.report? = some report := by
  have told := List.mem_map_of_mem (f := WorkerThread.report?) member
  rw [reports_of_answer answered] at told
  obtain ⟨report, -, said⟩ := List.mem_map.mp told
  exact ⟨report, said.symm⟩

variable (sound : run.Sound others)

include sound

theorem report_of_answer {index : Nat} {report : WorkerReport}
    (found : reports[index]? = some report) :
    report.index = index ∧ report.error =
      if index ∈ run.log.fallen then some "worker thread panicked" else none := by
  have told := congrArg (·[index]?) (reports_of_answer answered)
  simp only [List.getElem?_map, found, Option.map_some] at told
  obtain ⟨thread, here, said⟩ := Option.map_eq_some_iff.mp told
  obtain ⟨known, here', -, whole⟩ :=
    Worklog.report_of_covers sound.covers (Option.bind_eq_some_iff.mpr ⟨thread, here, said⟩)
  obtain ⟨quiet, -⟩ := sound.threads index known here'
  rw [whole, quiet]
  split <;> exact ⟨rfl, rfl⟩

theorem indices_of_answer :
    reports.map WorkerReport.index = List.range run.pool.threads.length := by
  have length := congrArg List.length (reports_of_answer answered)
  rw [List.length_map, List.length_map] at length
  refine List.ext_getElem (by simp [length]) fun index bound _ => ?_
  rw [List.length_map] at bound
  rw [List.getElem_map, List.getElem_range]
  exact (report_of_answer answered sound (List.getElem?_eq_getElem bound)).1

theorem channels_of_answer : ∀ channel ∈ run.channels, channel ∉ run.hub.ids := by
  intro channel member
  obtain ⟨thread, there, rfl⟩ := List.mem_map.mp member
  obtain ⟨index, here⟩ := List.getElem?_of_mem there
  obtain ⟨report, ended⟩ := ended_of_answer answered there
  exact (WorkerThread.left_of_report (sound.threads index thread here).2 ended).1

theorem live_of_answer : run.pool.live = 0 := by
  refine List.countP_eq_zero.mpr fun thread there => ?_
  obtain ⟨index, here⟩ := List.getElem?_of_mem there
  obtain ⟨report, ended⟩ := ended_of_answer answered there
  simp [(WorkerThread.left_of_report (sound.threads index thread here).2 ended).2]

theorem producers_of_answer : run.queue.producers =
    others ++ List.replicate run.pool.threads.length .dropped := by
  have dropped : run.pool.threads.map WorkerThread.producerState =
      List.replicate run.pool.threads.length .dropped := by
    refine List.map_eq_replicate_iff.mpr fun thread there => ?_
    obtain ⟨report, ended⟩ := ended_of_answer answered there
    exact WorkerThread.dropped_of_report ended
  rw [queue, sound.crewed.producers, dropped]

end Answered

/-- However the steps of workers and caller fall, if all of them get on, the caller has an answer in
the end: one report for each worker, in their order, with an error for those whose classifier did not
return from a call. By then the channels of the pool have left the hub and those of others are still
there with all their frames; no classifier is left, and no producer of the pool. -/
theorem stopped_pool_leaves_nothing (classifier : Classifier σ) (plan : WorkerPool.Plan Hub σ)
    (onHub : plan.capture = Hub.capture) {hub : Hub} (reachable : hub.Reachable) (queue : Queue)
    {count : Nat} {workers : List (Worker σ)} {site : Site Hub}
    (opened : WorkerPool.openAll plan count ⟨hub, queue⟩ = (.ok workers, site))
    (schedule : Nat → PoolMove) :
    let run := (start workers site).after classifier schedule
    (Fair count schedule → ∃ moment reports, (run moment).answer? = some reports) ∧
      ∀ moment reports, (run moment).answer? = some reports →
        reports.map WorkerReport.index = List.range count ∧
        (∀ report ∈ reports, report.error =
          if report.index ∈ (run moment).log.fallen then some "worker thread panicked" else none) ∧
        (∀ worker ∈ workers, worker.channel ∉ (run moment).hub.ids) ∧
        (∀ mailbox ∈ hub.members,
          ∃ given, { mailbox with frames := mailbox.frames ++ given } ∈ (run moment).hub.members) ∧
        (∀ earlier ≤ moment, ∀ mailbox ∈ (run earlier).hub.members,
          mailbox.id ∉ workers.map Worker.channel →
          ∃ given, { mailbox with frames := mailbox.frames ++ given } ∈ (run moment).hub.members) ∧
        (run moment).pool.live = 0 ∧
        (run moment).queue.producers = queue.producers ++ List.replicate count .dropped ∧
        ∀ own, (queue.drop own).live = 0 →
          ∃ totals, ((run moment).queue.drop own).destroy? = some totals := by
  intro run
  have numbered := Hub.numbered_reachable reachable
  have sound := sound_start onHub numbered opened
  obtain ⟨length, bench, rfl, opening⟩ := WorkerPool.opening_openAll onHub numbered opened
  have size : (start workers bench.site).pool.threads.length = count := by
    rw [← length]
    exact List.length_map _
  refine ⟨fun fair => answer_comes classifier schedule sound (size.symm ▸ fair), ?_⟩
  intro moment reports answered
  have now := sound_after classifier schedule sound moment
  have spares {earlier : Nat} (before : earlier ≤ moment) := by
    have between := spares_after classifier schedule sound before
    rwa [channels_start] at between
  have size' := (size_after classifier schedule (start workers bench.site) moment).trans size
  have producers := producers_of_answer answered now
  rw [size'] at producers
  refine ⟨size' ▸ indices_of_answer answered now, ?_, ?_, ?_, ?_, live_of_answer answered now,
    producers, ?_⟩
  next =>
    intro report member
    obtain ⟨index, found⟩ := List.getElem?_of_mem member
    obtain ⟨own, error⟩ := report_of_answer answered now found
    rwa [own]
  next =>
    intro worker member
    apply channels_of_answer answered now
    rw [channels_after, channels_start]
    exact List.mem_map_of_mem member
  next => exact WorkerPool.older_kept numbered opening (spares (Nat.zero_le _))
  next => exact fun earlier before => (spares before).kept
  next =>
    intro own alone
    exact Queue.destroyed_of_live (Queue.live_drop_appended producers alone)

def echoes : List (Worker Unit) × Site Hub :=
  match WorkerPool.openAll WorkerPool.echoPlan 2 ⟨.ofDevice "syn0", .empty⟩ with
  | (.ok workers, site) => (workers, site)
  | (.error _, site) => ([], site)

-- A frame that the first worker does not survive, a channel of somebody else, and then everybody in
-- turn.
def inTurn : Nat → PoolMove
  | 0 => .inject (.of 0 1 [0xee])
  | 1 => .openChannel "syn0" 1
  | moves + 2 =>
    match moves % 3 with
    | 0 => .worker 0
    | 1 => .worker 1
    | _ => .stopper

theorem fair_inTurn : Fair 2 inTurn where
  worker := by
    intro index bound now
    refine ⟨3 * now + index + 2, by omega, ?_⟩
    rcases Nat.lt_succ_iff_lt_or_eq.mp bound with first | second
    next => simp [inTurn, Nat.lt_one_iff.mp first]
    next => simp [inTurn, second]
  stopper := by
    intro now
    refine ⟨3 * now + 2 + 2, by omega, ?_⟩
    simp [inTurn]

theorem echoes_leave_nothing :
    (Hub.ofDevice "syn0").Reachable ∧ Fair 2 inTurn ∧
      WorkerPool.openAll WorkerPool.echoPlan 2 ⟨.ofDevice "syn0", .empty⟩ =
        (.ok echoes.1, echoes.2) ∧
      let run := (start echoes.1 echoes.2).after .echo inTurn
      (∃ moment reports, (run moment).answer? = some reports) ∧
        (run 40).answer? = some [.panicked 0, ⟨1, 0, 0, none⟩] ∧ (run 40).log.fallen = [0] ∧
        (run 40).hub.ids = [2] ∧ (run 40).pool.live = 0 ∧
        ∃ totals, ((run 40).queue.drop 0).destroy? = some totals := by
  have opened : WorkerPool.openAll WorkerPool.echoPlan 2 ⟨.ofDevice "syn0", .empty⟩ =
      (.ok echoes.1, echoes.2) := rfl
  have answered : ((start echoes.1 echoes.2).after .echo inTurn 40).answer? =
      some [.panicked 0, ⟨1, 0, 0, none⟩] := by decide +kernel
  obtain ⟨ends, each⟩ := stopped_pool_leaves_nothing .echo WorkerPool.echoPlan rfl
    (.ofDevice "syn0") .empty opened inTurn
  obtain ⟨-, -, -, -, -, live, -, destroyed⟩ := each 40 _ answered
  exact ⟨.ofDevice "syn0", fair_inTurn, opened, ends fair_inTurn, answered, by decide +kernel,
    by decide +kernel, live, destroyed 0 rfl⟩

end PoolRun

end FlowProbe
