import FlowProbe.Proofs.Meter.Isolation
import FlowProbe.Proofs.WorkerPool.Crew

set_option autoImplicit false

namespace FlowProbe

namespace Meter

def emitted (meter : Meter) : List MeterCall → List Record
  | [] => []
  | call :: rest => meter.records call ++ emitted (meter.call call).1 rest

theorem record_congr {meter other : Meter} (config : meter.config = other.config) :
    meter.record = other.record := by
  funext report
  rw [record, record, summary, summary, config]

theorem emitted_eq (meter : Meter) (calls : List MeterCall) :
    meter.emitted calls = (meter.reports calls).map meter.record := by
  induction calls generalizing meter with
  | nil => rfl
  | cons call rest ih =>
    rw [emitted, reports, ih, List.map_append, record_congr (call_settings meter call).1]
    rfl

theorem emitted_concat (meter : Meter) (calls : List MeterCall) (call : MeterCall) :
    meter.emitted (calls ++ [call]) = meter.emitted calls ++ (meter.after calls).records call := by
  induction calls generalizing meter with
  | nil => exact List.append_nil _
  | cons first rest ih =>
    rw [List.cons_append, emitted, ih, emitted, List.append_assoc]
    rfl

theorem withoutId_emitted (meter : Meter) (calls : List MeterCall) :
    (meter.emitted calls).map Record.withoutId =
      ((meter.reports calls).map Report.unnamed).map (Report.plain meter.config.enrichment) := by
  rw [emitted_eq, List.map_map, List.map_map]
  exact List.map_congr_left fun report _ => withoutId_record meter report

end Meter

namespace WorkerThread

def Heads (start : Meter) (taken : List Captured) (output : List Record) :
    Continuation Meter → Prop
  | .resume meter =>
    meter = start.after (taken.map .process) ∧ output = start.emitted (taken.map .process)
  | .leave => output = start.emitted (Meter.sitting taken)
  | .unwind => False

/-- From the meter `start` and the frames `taken` come the records `written` and those in hand. -/
def Keeps (start : Meter) (taken : List Captured) (written : List Record)
    (thread : WorkerThread Meter) : Prop :=
  match thread.activity with
  | .receiving meter => Heads start taken written (.resume meter)
  | .emitting records next => Heads start taken (written ++ records) next
  | .counting records next => Heads start taken (written ++ records) next
  | .releasing _ _ => Heads start taken written .leave
  | .ended _ => Heads start taken written .leave

variable {κ : Type} {start : Meter} {taken : List Captured} {written : List Record}
  {thread : WorkerThread Meter}

theorem keeps_start (worker : Worker Meter) :
    (WorkerThread.start worker).Keeps worker.classifier [] [] :=
  ⟨rfl, rfl⟩

-- A meter returns from every call, so the thread never unwinds.
theorem keeps_look (capture : Capture κ) {meter : Meter}
    (heads : Heads start taken written (.resume meter)) (doing : thread.activity = .receiving meter)
    (site : Site κ) :
    (thread.look capture Meter.classifier meter site).1.Keeps start
      (taken ++ thread.takes capture site.captures) written := by
  obtain ⟨rfl, rfl⟩ := heads
  unfold look takes
  rw [doing]
  rcases capture.receive site.captures thread.channel with ⟨receipt, captures⟩
  cases receipt with
  | nothing => simp [Keeps, doing, Heads]
  | frame captured =>
    have calls : (taken ++ [captured]).map MeterCall.process =
        taken.map .process ++ [.process captured] := by
      rw [List.map_append]
      rfl
    change Heads start (taken ++ [captured]) _ (.resume _)
    rw [Heads, calls, Meter.after_concat, Meter.emitted_concat]
    exact ⟨rfl, rfl⟩
  | ended failure =>
    change Heads start (taken ++ []) _ .leave
    rw [List.append_nil, Heads, Meter.sitting, Meter.emitted_concat]
    rfl

theorem keeps_step (keeps : thread.Keeps start taken written) (capture : Capture κ)
    (site : Site κ) :
    (thread.step capture Meter.classifier site).1.Keeps start
      (taken ++ thread.takes capture site.captures) (written ++ thread.adds) := by
  cases doing : thread.activity with
  | receiving meter =>
    have heads : Heads start taken written (.resume meter) := by simpa [Keeps, doing] using keeps
    have nothing : thread.adds = [] := by simp [adds, doing]
    have looks : thread.step capture Meter.classifier site =
        thread.look capture Meter.classifier meter site := by
      unfold step
      simp only [doing]
    rw [looks, nothing, List.append_nil]
    exact keeps_look capture heads doing site
  | emitting records next =>
    have heads : Heads start taken (written ++ records) next := by simpa [Keeps, doing] using keeps
    cases records with
    | cons record records => simpa [step, takes, adds, doing, Keeps] using heads
    | nil =>
      rw [List.append_nil] at heads
      cases next with
      | resume meter => simpa [step, takes, adds, doing, Keeps] using heads
      | leave => simpa [step, takes, adds, doing, Keeps] using heads
      | unwind => exact heads.elim
  | counting records next =>
    have heads : Heads start taken (written ++ records) next := by simpa [Keeps, doing] using keeps
    simpa [step, takes, adds, doing, Keeps] using heads
  | releasing holdings report =>
    have heads : Heads start taken written .leave := by simpa [Keeps, doing] using keeps
    cases holdings <;> simpa [step, takes, adds, doing, Keeps] using heads
  | ended report =>
    have heads : Heads start taken written .leave := by simpa [Keeps, doing] using keeps
    simpa [step, takes, adds, doing, Keeps] using heads

theorem written_of_report (keeps : thread.Keeps start taken written)
    (ended : thread.report?.isSome) : written = start.emitted (Meter.sitting taken) := by
  unfold report? at ended
  split at ended
  next report doing => simpa [Keeps, doing, Heads] using keeps
  next => exact nomatch ended

end WorkerThread

end FlowProbe
