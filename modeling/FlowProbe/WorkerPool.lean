import FlowProbe.Worker

set_option autoImplicit false

namespace FlowProbe

namespace WorkerPool

variable {κ σ : Type}

-- What a pool is made from.
structure Plan (κ σ : Type) where
  capture : Capture κ
  device : String
  group : UInt16
  classifierFor : WorkerId → Except PoolFailure σ

/-- Why nothing can be said of a pool: more octets than can be asked for, or more than are given. -/
inductive RoomFailure where
  | overflow
  | exhausted
  deriving DecidableEq

namespace Plan

-- The octets of a worker: those of its channel, and 40 for its place in the pool, its classifier and
-- its producer.
def workerSize (plan : Plan κ σ) : Nat :=
  plan.capture.channelSize + 40

/-- Room is made for all workers at once, of the octets that `grants` lets be had in one piece. -/
def reserve (grants : Nat → Bool) (plan : Plan κ σ) (count : Nat) : Except RoomFailure Unit :=
  let octets := count * plan.workerSize
  if octets = 0 then .ok ()
  else if UInt64.size / 2 ≤ octets then .error .overflow
  else if grants octets then .ok ()
  else .error .exhausted

end Plan

/-- What pools are made on. It tells how many classifiers there are, and which workers were released,
in this order. -/
structure Bench (κ : Type) where
  site : Site κ
  classifiers : Nat
  released : List WorkerId

-- A worker that cannot be made gives its channel and its producer back.
def openWorker (plan : Plan κ σ) (id : WorkerId) (bench : Bench κ) :
    Except PoolFailure (Worker σ) × Bench κ :=
  let producer := bench.site.queue.producers.length
  let queue := bench.site.queue.clone
  match plan.capture.openChannel bench.site.captures plan.device plan.group with
  | (.error cause, captures) =>
    (.error (.capture id.index cause), { bench with site := ⟨captures, queue.drop producer⟩ })
  | (.ok channel, captures) =>
    match plan.classifierFor id with
    | .error failure =>
      (.error failure,
        { bench with site := ⟨plan.capture.close captures channel, queue.drop producer⟩ })
    | .ok classifier =>
      (.ok ⟨id, channel, classifier, producer⟩,
        { bench with site := ⟨captures, queue⟩, classifiers := bench.classifiers + 1 })

namespace Bench

def release (capture : Capture κ) (worker : Worker σ) (bench : Bench κ) : Bench κ where
  site := worker.release capture bench.site
  classifiers := bench.classifiers - 1
  released := bench.released ++ [worker.id]

-- The most recent worker goes first.
def releaseAll (capture : Capture κ) (workers : List (Worker σ)) (bench : Bench κ) : Bench κ :=
  workers.foldr (fun worker bench => bench.release capture worker) bench

end Bench

def extend (plan : Plan κ σ) (count : Nat) :
    Nat → List (Worker σ) → Bench κ → Except PoolFailure (List (Worker σ)) × Bench κ
  | 0, workers, bench => (.ok workers, bench)
  | missing + 1, workers, bench =>
    match openWorker plan ⟨workers.length, count⟩ bench with
    | (.ok worker, bench) => extend plan count missing (workers ++ [worker]) bench
    | (.error failure, bench) => (.error failure, bench.releaseAll plan.capture workers)

def fill (plan : Plan κ σ) (count : Nat) (bench : Bench κ) :
    Except PoolFailure (List (Worker σ)) × Bench κ :=
  if count = 0 then (.error .noWorkers, bench) else extend plan count count [] bench

def openAll (plan : Plan κ σ) (count : Nat) (site : Site κ) :
    Except PoolFailure (List (Worker σ)) × Site κ :=
  let (outcome, bench) := fill plan count ⟨site, 0, []⟩
  (outcome, bench.site)

/-- Where there is no room, nothing is made and nothing is answered. -/
def make (grants : Nat → Bool) (plan : Plan κ σ) (count : Nat) (bench : Bench κ) :
    Except RoomFailure (Except PoolFailure (List (Worker σ))) × Bench κ :=
  match plan.reserve grants count with
  | .error failure => (.error failure, bench)
  | .ok () =>
    let (outcome, bench) := fill plan count bench
    (.ok outcome, bench)

end WorkerPool

structure RunningPool (κ σ : Type) where
  threads : List (WorkerThread σ)
  site : Site κ

namespace RunningPool

variable {κ σ : Type}

def start (workers : List (Worker σ)) (site : Site κ) : RunningPool κ σ where
  threads := workers.map WorkerThread.start
  site := site

def step (capture : Capture κ) (classifier : Classifier σ) (pool : RunningPool κ σ)
    (index : Nat) : RunningPool κ σ :=
  match pool.threads[index]? with
  | none => pool
  | some thread =>
    let (thread, site) := thread.step capture classifier pool.site
    ⟨pool.threads.set index thread, site⟩

def wake (capture : Capture κ) (pool : RunningPool κ σ) (index : Nat) : RunningPool κ σ :=
  match pool.threads[index]? with
  | none => pool
  | some thread =>
    { pool with
      site := { pool.site with captures := capture.wake pool.site.captures thread.channel } }

def distance (pool : RunningPool κ σ) (index : Nat) : Nat :=
  (pool.threads[index]?).elim 0 WorkerThread.distance

def stepMany (capture : Capture κ) (classifier : Classifier σ) (index : Nat) :
    Nat → RunningPool κ σ → RunningPool κ σ
  | 0, pool => pool
  | count + 1, pool => stepMany capture classifier index count (pool.step capture classifier index)

/-- Lets one thread go on until it has looked into its channel a number of times, and is about to do
so again or has ended. -/
def work (capture : Capture κ) (classifier : Classifier σ) (index : Nat) :
    Nat → RunningPool κ σ → RunningPool κ σ
  | 0, pool => stepMany capture classifier index (pool.distance index) pool
  | looks + 1, pool =>
    let pool := stepMany capture classifier index (pool.distance index) pool
    work capture classifier index looks (pool.step capture classifier index)

def workAll (capture : Capture κ) (classifier : Classifier σ) (looks : Nat)
    (pool : RunningPool κ σ) : RunningPool κ σ :=
  (List.range pool.threads.length).foldl
    (fun pool index => pool.work capture classifier index looks) pool

def live (pool : RunningPool κ σ) : Nat :=
  pool.threads.countP WorkerThread.holdsClassifier

def reports? (pool : RunningPool κ σ) : Option (List WorkerReport) :=
  pool.threads.mapM WorkerThread.report?

end RunningPool

end FlowProbe
