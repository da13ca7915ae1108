import FlowProbe.Proofs.Fibers
import FlowProbe.Proofs.WorkerPool.Crew

set_option autoImplicit false

namespace FlowProbe

variable {κ σ : Type}

def Continuation.isUnwind : Continuation σ → Bool
  | .unwind => true
  | _ => false

namespace WorkerThread

def call? (capture : Capture κ) (classifier : Classifier σ) (thread : WorkerThread σ)
    (captures : κ) : Option (Emission σ) :=
  match thread.activity with
  | .receiving state =>
    match (capture.receive captures thread.channel).1 with
    | .nothing => none
    | .frame captured => some (classifier.process thread.id state captured)
    | .ended _ => some (classifier.flush thread.id state)
  | _ => none

def emits (capture : Capture κ) (classifier : Classifier σ) (thread : WorkerThread σ)
    (captures : κ) : List Record :=
  (thread.call? capture classifier captures).elim [] Emission.records

def falls (capture : Capture κ) (classifier : Classifier σ) (thread : WorkerThread σ)
    (captures : κ) : Bool :=
  (thread.call? capture classifier captures).any (·.next.isNone)

def inHand (thread : WorkerThread σ) : List Record :=
  match thread.activity with
  | .emitting records _ => records
  | .counting records _ => records
  | _ => []

def Fated (fell : Bool) (thread : WorkerThread σ) : Prop :=
  match thread.activity with
  | .receiving _ => fell = false
  | .emitting _ next => fell = next.isUnwind
  | .counting _ next => fell = next.isUnwind
  | .releasing _ report => report = if fell then .panicked thread.id.index else thread.report
  | .ended report => report = if fell then .panicked thread.id.index else thread.report

structure Tallied (emitted added : List Record) (fell : Bool) (thread : WorkerThread σ) : Prop where
  emitted : added ++ thread.inHand = emitted
  records : thread.records = added.length
  fated : thread.Fated fell

variable {thread : WorkerThread σ} {emitted added : List Record} {fell : Bool}

theorem id_look (capture : Capture κ) (classifier : Classifier σ) (thread : WorkerThread σ)
    (state : σ) (site : Site κ) :
    (thread.look capture classifier state site).1.id = thread.id := by
  unfold look
  rcases capture.receive site.captures thread.channel with ⟨receipt, captures⟩
  cases receipt <;> rfl

theorem id_step (capture : Capture κ) (classifier : Classifier σ) (thread : WorkerThread σ)
    (site : Site κ) : (thread.step capture classifier site).1.id = thread.id := by
  unfold step
  split
  next state doing => exact id_look capture classifier thread state site
  all_goals rfl

theorem tallied_start (worker : Worker σ) : (start worker).Tallied [] [] false :=
  ⟨rfl, rfl, rfl⟩

theorem isUnwind_continuation (returned : σ → Continuation σ) (emission : Emission σ)
    (returns : ∀ state, (returned state).isUnwind = false) :
    (continuation returned emission).isUnwind = emission.next.isNone := by
  unfold continuation
  cases emission.next with
  | none => rfl
  | some state => exact returns state

theorem tallied_look (capture : Capture κ) (classifier : Classifier σ) {state : σ}
    (doing : thread.activity = .receiving state) (tallied : thread.Tallied emitted added fell)
    (site : Site κ) :
    (thread.look capture classifier state site).1.Tallied
      (emitted ++ thread.emits capture classifier site.captures) added
      (fell || thread.falls capture classifier site.captures) := by
  obtain ⟨gone, records, fated⟩ := tallied
  simp only [inHand, doing, List.append_nil] at gone
  simp only [Fated, doing] at fated
  subst gone fated
  unfold look emits falls call?
  rw [doing]
  rcases capture.receive site.captures thread.channel with ⟨receipt, captures⟩
  cases receipt with
  | nothing => exact ⟨by simp [inHand, doing], records, by simp [Fated, doing]⟩
  | frame captured =>
    exact ⟨rfl, records, (isUnwind_continuation .resume _ fun _ => rfl).symm⟩
  | ended failure =>
    exact ⟨rfl, records, (isUnwind_continuation (fun _ => .leave) _ fun _ => rfl).symm⟩

theorem tallied_step (tallied : thread.Tallied emitted added fell) (capture : Capture κ)
    (classifier : Classifier σ) (site : Site κ) :
    (thread.step capture classifier site).1.Tallied
      (emitted ++ thread.emits capture classifier site.captures) (added ++ thread.adds)
      (fell || thread.falls capture classifier site.captures) := by
  cases doing : thread.activity with
  | receiving state =>
    have nothing : thread.adds = [] := by simp [adds, doing]
    have looks : thread.step capture classifier site =
        thread.look capture classifier state site := by
      unfold step
      simp only [doing]
    rw [looks, nothing, List.append_nil]
    exact tallied_look capture classifier doing tallied site
  | emitting records next =>
    obtain ⟨gone, count, fated⟩ := tallied
    simp only [inHand, Fated, doing] at gone fated
    subst gone fated
    cases records with
    | cons record records =>
      simp only [step, emits, falls, call?, adds, doing, Option.elim_none, Option.any_none,
        Bool.or_false, List.append_nil]
      exact ⟨by simp [inHand], by simp [count], rfl⟩
    | nil =>
      cases next <;> simp only [step, emits, falls, call?, adds, doing, Option.elim_none,
        Option.any_none, Bool.or_false, List.append_nil] <;> exact ⟨by simp [inHand], count, rfl⟩
  | counting records next =>
    obtain ⟨gone, count, fated⟩ := tallied
    simp only [inHand, Fated, doing] at gone fated
    subst gone fated
    simp only [step, emits, falls, call?, adds, doing, Option.elim_none, Option.any_none,
      Bool.or_false, List.append_nil]
    exact ⟨rfl, count, rfl⟩
  | releasing holdings report =>
    obtain ⟨gone, count, fated⟩ := tallied
    simp only [inHand, Fated, doing] at gone fated
    cases holdings <;> simp only [step, emits, falls, call?, adds, doing, Option.elim_none,
      Option.any_none, Bool.or_false, List.append_nil] <;> exact ⟨gone, count, fated⟩
  | ended report =>
    simpa [step, emits, falls, call?, adds, doing] using tallied

theorem tally_of_report (tallied : thread.Tallied emitted added fell) {report : WorkerReport}
    (ended : thread.report? = some report) :
    added = emitted ∧ report = if fell then .panicked thread.id.index else thread.report := by
  obtain ⟨gone, -, fated⟩ := tallied
  unfold report? at ended
  split at ended
  next left doing =>
    cases ended
    simp only [inHand, Fated, doing, List.append_nil] at gone fated
    exact ⟨gone, fated⟩
  next => exact nomatch ended

end WorkerThread

namespace RunningPool

def emits (capture : Capture κ) (classifier : Classifier σ) (pool : RunningPool κ σ)
    (index : Nat) : List Record :=
  (pool.threads[index]?).elim [] fun thread => thread.emits capture classifier pool.site.captures

def falls (capture : Capture κ) (classifier : Classifier σ) (pool : RunningPool κ σ)
    (index : Nat) : Bool :=
  (pool.threads[index]?).any fun thread => thread.falls capture classifier pool.site.captures

end RunningPool

/-- The frames taken, the records emitted and those added to the queue, each with the worker, in
order; and the workers whose classifier did not return from a call. -/
structure Worklog where
  taken : List (Nat × Captured)
  emitted : List (Nat × Record)
  added : List (Nat × Record)
  fallen : List Nat

namespace Worklog

def start : Worklog :=
  ⟨[], [], [], []⟩

def note (capture : Capture κ) (classifier : Classifier σ) (pool : RunningPool κ σ) (log : Worklog)
    (index : Nat) : Worklog where
  taken := log.taken ++ (pool.takes capture index).map (index, ·)
  emitted := log.emitted ++ (pool.emits capture classifier index).map (index, ·)
  added := log.added ++ (pool.adds index).map (index, ·)
  fallen := log.fallen ++ if pool.falls capture classifier index then [index] else []

def takenBy (log : Worklog) (index : Nat) : List Captured :=
  (Fibers.part Prod.fst index log.taken).map Prod.snd

def emittedBy (log : Worklog) (index : Nat) : List Record :=
  (Fibers.part Prod.fst index log.emitted).map Prod.snd

def addedBy (log : Worklog) (index : Nat) : List Record :=
  (Fibers.part Prod.fst index log.added).map Prod.snd

structure Covers (log : Worklog) (pool : RunningPool κ σ) : Prop where
  emitted : ∀ entry ∈ log.emitted, entry.1 < pool.threads.length
  added : ∀ entry ∈ log.added, entry.1 < pool.threads.length
  fallen : ∀ index ∈ log.fallen, index < pool.threads.length
  tallied : ∀ (index : Nat) (thread : WorkerThread σ), pool.threads[index]? = some thread →
    thread.id.index = index ∧
      thread.Tallied (log.emittedBy index) (log.addedBy index) (index ∈ log.fallen)

variable {pool : RunningPool κ σ} {log : Worklog}

theorem takenBy_note (capture : Capture κ) (classifier : Classifier σ) (index slot : Nat) :
    (note capture classifier pool log index).takenBy slot = log.takenBy slot ++
      if index = slot then pool.takes capture index else [] := by
  rw [takenBy, note, Fibers.part_append, List.map_append, Fibers.part_tagged]
  rfl

theorem emittedBy_note (capture : Capture κ) (classifier : Classifier σ) (index slot : Nat) :
    (note capture classifier pool log index).emittedBy slot = log.emittedBy slot ++
      if index = slot then pool.emits capture classifier index else [] := by
  rw [emittedBy, note, Fibers.part_append, List.map_append, Fibers.part_tagged]
  rfl

theorem addedBy_note (capture : Capture κ) (classifier : Classifier σ) (index slot : Nat) :
    (note capture classifier pool log index).addedBy slot = log.addedBy slot ++
      if index = slot then pool.adds index else [] := by
  rw [addedBy, note, Fibers.part_append, List.map_append, Fibers.part_tagged]
  rfl

theorem note_absent (capture : Capture κ) (classifier : Classifier σ) (log : Worklog) {index : Nat}
    (absent : pool.threads[index]? = none) : note capture classifier pool log index = log := by
  simp [note, RunningPool.takes, RunningPool.emits, RunningPool.adds, RunningPool.falls, absent]

theorem covers_note (covers : log.Covers pool) (capture : Capture κ) (classifier : Classifier σ)
    (index : Nat) :
    (note capture classifier pool log index).Covers (pool.step capture classifier index) := by
  cases here : pool.threads[index]? with
  | none =>
    rwa [note_absent capture classifier log here, RunningPool.step_absent capture classifier here]
  | some thread =>
    have bound : index < pool.threads.length := (List.getElem?_eq_some_iff.mp here).1
    have length : (pool.step capture classifier index).threads.length = pool.threads.length :=
      RunningPool.length_step capture classifier index
    have own {α : Type} (items : List α) :
        ∀ entry ∈ items.map (fun item => (index, item)), entry.1 < pool.threads.length := by
      intro entry member
      obtain ⟨item, -, rfl⟩ := List.mem_map.mp member
      exact bound
    constructor
    case emitted => exact length ▸ List.forall_mem_append.mpr ⟨covers.emitted, own _⟩
    case added => exact length ▸ List.forall_mem_append.mpr ⟨covers.added, own _⟩
    case fallen =>
      rw [length]
      refine List.forall_mem_append.mpr ⟨covers.fallen, fun other member => ?_⟩
      split at member
      next => exact List.mem_singleton.mp member ▸ bound
      next => cases member
    case tallied =>
      refine RunningPool.forall_step capture classifier here ?_ ?_
      next =>
        obtain ⟨number, tallied⟩ := covers.tallied index thread here
        refine ⟨by rw [WorkerThread.id_step, number], ?_⟩
        have stepped := WorkerThread.tallied_step tallied capture classifier pool.site
        rw [emittedBy_note, addedBy_note, if_pos rfl, if_pos rfl]
        simpa [note, RunningPool.emits, RunningPool.adds, RunningPool.falls, here] using stepped
      next =>
        intro slot other different there
        have same : (slot ∈ (note capture classifier pool log index).fallen) =
            (slot ∈ log.fallen) := by
          rw [note, List.mem_append]
          split <;> simp [different]
        rw [emittedBy_note, addedBy_note, if_neg (Ne.symm different), if_neg (Ne.symm different),
          List.append_nil, List.append_nil]
        simpa only [same] using covers.tallied slot other there

theorem covers_congr {other : RunningPool κ σ} (covers : log.Covers pool)
    (threads : other.threads = pool.threads) : log.Covers other where
  emitted := threads ▸ covers.emitted
  added := threads ▸ covers.added
  fallen := threads ▸ covers.fallen
  tallied := threads ▸ covers.tallied

-- The report of a worker, and that it has handed over all that its classifier emitted.
theorem report_of_covers (covers : log.Covers pool) {index : Nat} {report : WorkerReport}
    (said : (pool.threads[index]?).bind WorkerThread.report? = some report) :
    ∃ thread, pool.threads[index]? = some thread ∧ log.addedBy index = log.emittedBy index ∧
      report = if index ∈ log.fallen then .panicked index
        else ⟨index, thread.packets, (log.emittedBy index).length, thread.error⟩ := by
  obtain ⟨thread, here, ended⟩ := Option.bind_eq_some_iff.mp said
  obtain ⟨number, tallied⟩ := covers.tallied index thread here
  obtain ⟨all, told⟩ := WorkerThread.tally_of_report tallied ended
  refine ⟨thread, here, all, ?_⟩
  rw [told, WorkerThread.report, number, tallied.records, all]
  simp only [decide_eq_true_eq]

variable {reports : List WorkerReport}

theorem all_added (covers : log.Covers pool)
    (ended : ∀ index < pool.threads.length, log.addedBy index = log.emittedBy index) :
    log.added.length = log.emitted.length := by
  have added := Fibers.length_parts covers.added
  have emitted := Fibers.length_parts covers.emitted
  rw [added, emitted]
  refine congrArg List.sum (List.map_congr_left fun index member => ?_)
  have same := congrArg List.length (ended index (List.mem_range.mp member))
  simpa only [addedBy, emittedBy, List.length_map] using same

theorem sum_records (covers : log.Covers pool) (all : reports.length = pool.threads.length)
    (each : ∀ index report, reports[index]? = some report →
      report.records = if index ∈ log.fallen then 0 else (log.emittedBy index).length) :
    (reports.map WorkerReport.records).sum =
      (log.emitted.filter fun entry => entry.1 ∉ log.fallen).length := by
  have inside : ∀ entry ∈ log.emitted.filter (fun entry => entry.1 ∉ log.fallen),
      entry.1 < pool.threads.length :=
    fun entry member => covers.emitted entry (List.mem_of_mem_filter member)
  rw [Fibers.length_parts inside]
  refine congrArg List.sum (List.ext_getElem (by simp [all]) fun index bound _ => ?_)
  rw [List.length_map] at bound
  have records := each index reports[index] (List.getElem?_eq_getElem bound)
  have part := Fibers.part_filter Prod.fst index (fun slot => decide (slot ∉ log.fallen))
    log.emitted
  rw [List.getElem_map, List.getElem_map, List.getElem_range, part, records, emittedBy]
  by_cases fell : index ∈ log.fallen <;> simp [fell]

end Worklog

namespace WorkerPool

theorem made_openWorker {plan : Plan κ σ} {id : WorkerId} {bench left : Bench κ} {worker : Worker σ}
    (opened : openWorker plan id bench = (.ok worker, left)) :
    worker.id = id ∧ plan.classifierFor id = .ok worker.classifier := by
  rw [openWorker] at opened
  split at opened
  next => exact nomatch opened
  next channel captures found =>
    split at opened
    next => exact nomatch opened
    next classifier made =>
      cases opened
      exact ⟨rfl, made⟩

def Staffed (plan : Plan κ σ) (count : Nat) (workers : List (Worker σ)) : Prop :=
  ∀ (index : Nat) (worker : Worker σ), workers[index]? = some worker →
    worker.id = ⟨index, count⟩ ∧ plan.classifierFor ⟨index, count⟩ = .ok worker.classifier

theorem staffed_extend {plan : Plan κ σ} {count missing : Nat} {workers all : List (Worker σ)}
    {bench left : Bench κ} (opened : extend plan count missing workers bench = (.ok all, left))
    (staffed : Staffed plan count workers) : Staffed plan count all := by
  induction missing generalizing workers bench with
  | zero =>
    cases opened
    exact staffed
  | succ missing ih =>
    rw [extend] at opened
    split at opened
    next worker between made =>
      exact ih opened (forall_concat staffed (made_openWorker made))
    next => cases opened

theorem staffed_openAll {plan : Plan κ σ} {count : Nat} {workers : List (Worker σ)}
    {site left : Site κ} (opened : openAll plan count site = (.ok workers, left)) :
    Staffed plan count workers := by
  obtain ⟨-, bench, extended, -⟩ := extend_of_openAll opened
  exact staffed_extend extended nofun

end WorkerPool

theorem Worklog.covers_start {plan : WorkerPool.Plan κ σ} {count : Nat} {workers : List (Worker σ)}
    {site left : Site κ} (opened : WorkerPool.openAll plan count site = (.ok workers, left))
    (after : Site κ) : start.Covers (RunningPool.start workers after) where
  emitted := nofun
  added := nofun
  fallen := nofun
  tallied := by
    intro index thread there
    obtain ⟨worker, found, rfl⟩ := Option.map_eq_some_iff.mp (List.getElem?_map ▸ there)
    have own := (WorkerPool.staffed_openAll opened index worker found).1
    exact ⟨congrArg WorkerId.index own, WorkerThread.tallied_start worker⟩

end FlowProbe
