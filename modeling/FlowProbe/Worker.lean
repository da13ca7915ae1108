import FlowProbe.Capture
import FlowProbe.Classifier
import FlowProbe.Queue

set_option autoImplicit false

namespace FlowProbe

structure WorkerReport where
  index : Nat
  packets : Nat := 0
  records : Nat := 0
  error : Option String := none
  deriving DecidableEq

-- A worker that did not survive its run can tell no more than that.
def WorkerReport.panicked (index : Nat) : WorkerReport where
  index := index
  error := some "worker thread panicked"

structure Site (κ : Type) where
  captures : κ
  queue : Queue

structure Worker (σ : Type) where
  id : WorkerId
  channel : Nat
  classifier : σ
  -- The worker's own producer.
  producer : Nat

def Worker.release {κ σ : Type} (capture : Capture κ) (worker : Worker σ) (site : Site κ) :
    Site κ where
  captures := capture.close site.captures worker.channel
  queue := site.queue.drop worker.producer

inductive Holding where
  | channel
  | classifier
  | producer
  deriving DecidableEq, Repr

inductive Continuation (σ : Type) where
  | resume (classifier : σ)
  | leave
  | unwind

inductive Activity (σ : Type) where
  | receiving (classifier : σ)
  | emitting (records : List Record) (next : Continuation σ)
  -- A record was added to the queue and has not been counted.
  | counting (records : List Record) (next : Continuation σ)
  | releasing (holdings : List Holding) (report : WorkerReport)
  | ended (report : WorkerReport)

structure WorkerThread (σ : Type) where
  id : WorkerId
  channel : Nat
  producer : Nat
  packets : Nat
  records : Nat
  error : Option String
  activity : Activity σ

namespace WorkerThread

variable {κ σ : Type}

def start (worker : Worker σ) : WorkerThread σ where
  id := worker.id
  channel := worker.channel
  producer := worker.producer
  packets := 0
  records := 0
  error := none
  activity := .receiving worker.classifier

def report (thread : WorkerThread σ) : WorkerReport where
  index := thread.id.index
  packets := thread.packets
  records := thread.records
  error := thread.error

def report? (thread : WorkerThread σ) : Option WorkerReport :=
  match thread.activity with
  | .ended report => some report
  | _ => none

def holdsClassifier (thread : WorkerThread σ) : Bool :=
  match thread.activity with
  | .releasing holdings _ => holdings.contains .classifier
  | .ended _ => false
  | _ => true

-- Whether a call returned decides what follows its records.
def continuation (returned : σ → Continuation σ) (emission : Emission σ) : Continuation σ :=
  match emission.next with
  | some classifier => returned classifier
  | none => .unwind

def look (capture : Capture κ) (classifier : Classifier σ) (thread : WorkerThread σ) (state : σ)
    (site : Site κ) : WorkerThread σ × Site κ :=
  let (receipt, captures) := capture.receive site.captures thread.channel
  let site := { site with captures }
  match receipt with
  | .nothing => (thread, site)
  | .frame captured =>
    let emission := classifier.process thread.id state captured
    ({ thread with
        packets := thread.packets + 1
        activity := .emitting emission.records (continuation .resume emission) }, site)
  | .ended failure =>
    let emission := classifier.flush thread.id state
    ({ thread with
        error := failure.map CaptureFailure.message
        activity := .emitting emission.records (continuation (fun _ => .leave) emission) }, site)

def letGo (capture : Capture κ) (thread : WorkerThread σ) (site : Site κ) : Holding → Site κ
  | .channel => { site with captures := capture.close site.captures thread.channel }
  | .classifier => site
  | .producer => { site with queue := site.queue.drop thread.producer }

def step (capture : Capture κ) (classifier : Classifier σ) (thread : WorkerThread σ)
    (site : Site κ) : WorkerThread σ × Site κ :=
  match thread.activity with
  | .receiving state => thread.look capture classifier state site
  | .emitting (record :: records) next =>
    ({ thread with records := thread.records + 1, activity := .counting records next },
      { site with queue := site.queue.push thread.producer record })
  | .counting records next =>
    ({ thread with activity := .emitting records next },
      { site with queue := site.queue.count thread.producer })
  | .emitting [] (.resume state) => ({ thread with activity := .receiving state }, site)
  | .emitting [] .leave =>
    ({ thread with activity := .releasing [.channel, .classifier, .producer] thread.report }, site)
  | .emitting [] .unwind =>
    ({ thread with
        activity := .releasing [.producer, .classifier, .channel] (.panicked thread.id.index) },
      site)
  | .releasing (holding :: holdings) report =>
    ({ thread with activity := .releasing holdings report },
      thread.letGo capture site holding)
  | .releasing [] report => ({ thread with activity := .ended report }, site)
  | .ended _ => (thread, site)

def tailLength : Continuation σ → Nat
  | .resume _ => 1
  | .leave => 5
  | .unwind => 5

def distance (thread : WorkerThread σ) : Nat :=
  match thread.activity with
  | .receiving _ => 0
  | .emitting records next => 2 * records.length + tailLength next
  | .counting records next => 2 * records.length + 1 + tailLength next
  | .releasing holdings _ => holdings.length + 1
  | .ended _ => 0

end WorkerThread

end FlowProbe
