import FlowProbe.Proofs.Exporter.Accounting
import Mathlib.Data.List.Basic

set_option autoImplicit false

namespace FlowProbe

/-- A record offered to the transport, by its place among the records added, and the answer. -/
structure Attempt where
  place : Nat
  record : Record
  reply : Reply

-- A place comes up again only when the transport could not take its record yet, and only as long as
-- no later place has come up.
def Attempt.Before (earlier later : Attempt) : Prop :=
  earlier.place < later.place ∨
    earlier.place = later.place ∧ earlier.record = later.record ∧
      earlier.reply = .refused .wouldBlock

variable {attempts : List Attempt} {dropped : List Nat} {count : Nat}

/-- The first `count` places have been tried, and each was accepted or given up. -/
structure Settled (count : Nat) (attempts : List Attempt) (dropped : List Nat) : Prop where
  tried : ∀ place < count, ∃ attempt ∈ attempts, attempt.place = place
  fate : ∀ place < count,
    (∃ attempt ∈ attempts, attempt.place = place ∧ attempt.reply = .accepted) ↔ place ∉ dropped
  dropped : ∀ place ∈ dropped, place < count

theorem settled_attempt (settled : Settled count attempts dropped) {attempt : Attempt}
    (here : attempt.place = count) : Settled count (attempts ++ [attempt]) dropped where
  tried := by
    intro place earlier
    obtain ⟨old, member, there⟩ := settled.tried place earlier
    exact ⟨old, List.mem_append_left _ member, there⟩
  fate := by
    intro place earlier
    rw [← settled.fate place earlier]
    have other : attempt.place ≠ place := by omega
    simp [or_and_right, exists_or, other]
  dropped := settled.dropped

theorem settled_accepted (settled : Settled count attempts dropped)
    (accepted : ∃ attempt ∈ attempts, attempt.place = count ∧ attempt.reply = .accepted) :
    Settled (count + 1) attempts dropped where
  tried := by
    intro place below
    rcases Nat.lt_succ_iff_lt_or_eq.mp below with earlier | rfl
    next => exact settled.tried place earlier
    next =>
      obtain ⟨attempt, member, here, -⟩ := accepted
      exact ⟨attempt, member, here⟩
  fate := by
    intro place below
    rcases Nat.lt_succ_iff_lt_or_eq.mp below with earlier | rfl
    next => exact settled.fate place earlier
    next => exact iff_of_true accepted fun member => Nat.lt_irrefl _ (settled.dropped _ member)
  dropped := fun place member => Nat.lt_succ_of_lt (settled.dropped place member)

theorem settled_dropped (settled : Settled count attempts dropped)
    (tried : ∃ attempt ∈ attempts, attempt.place = count)
    (refused : ∀ attempt ∈ attempts, attempt.place = count → attempt.reply ≠ .accepted) :
    Settled (count + 1) attempts (dropped ++ [count]) where
  tried := by
    intro place below
    rcases Nat.lt_succ_iff_lt_or_eq.mp below with earlier | rfl
    next => exact settled.tried place earlier
    next => exact tried
  fate := by
    intro place below
    rcases Nat.lt_succ_iff_lt_or_eq.mp below with earlier | rfl
    next =>
      rw [settled.fate place earlier]
      have other : place ≠ count := by omega
      simp [other]
    next =>
      refine iff_of_false ?_ (by simp)
      rintro ⟨attempt, member, here, accepted⟩
      exact refused attempt member here accepted
  dropped := by
    refine List.forall_mem_append.mpr ⟨fun place member => ?_, by simp⟩
    exact Nat.lt_succ_of_lt (settled.dropped place member)

namespace Exporter

variable {τ : Type} {transport : Transport τ} {exporter : Exporter τ} {queue : Queue}
  {added : List Record}

-- The record in hand is the last one that was taken from the queue.
def attempted (transport : Transport τ) (exporter : Exporter τ) (queue : Queue) : List Attempt :=
  match exporter.phase with
  | .offering record =>
    [⟨queue.dequeued - 1, record, (transport.offer exporter.transport record).1⟩]
  | _ => []

def givenUp (transport : Transport τ) (raised : Bool) (exporter : Exporter τ) (queue : Queue) :
    List Nat :=
  match exporter.phase with
  | .offering record =>
    match (transport.offer exporter.transport record).1 with
    | .refused (.fatal _) => [queue.dequeued - 1]
    | _ => []
  | .refused _ => if raised then [queue.dequeued - 1] else []
  | _ => []

-- The places that came up so far, the one in hand last. It was not answered in any other way than
-- that it should come again.
def Upto (record : Record) (count : Nat) (attempts : List Attempt) : Prop :=
  ∀ attempt ∈ attempts, attempt.place < count ∨
    attempt.place = count ∧ attempt.record = record ∧ attempt.reply = .refused .wouldBlock

def Progress (phase : ExporterPhase) (taken : Nat) (added : List Record) (attempts : List Attempt)
    (dropped : List Nat) : Prop :=
  match phase with
  | .offering record => ∃ count, taken = count + 1 ∧ Settled count attempts dropped ∧
      added[count]? = some record ∧ Upto record count attempts
  | .refused record => ∃ count, taken = count + 1 ∧ Settled count attempts dropped ∧
      added[count]? = some record ∧ Upto record count attempts ∧
      ∃ attempt ∈ attempts, attempt.place = count
  | .crashed => ∃ count, taken = count + 1 ∧ Settled count attempts dropped ∧
      ∀ attempt ∈ attempts, attempt.place < count ∨
        attempt.place = count ∧ attempt.reply ≠ .accepted
  | _ => Settled taken attempts dropped ∧ ∀ attempt ∈ attempts, attempt.place < taken

structure Ordered (phase : ExporterPhase) (queue : Queue) (added : List Record)
    (attempts : List Attempt) (dropped : List Nat) : Prop where
  source : ∃ taken, added = taken ++ queue.pending ∧ taken.length = queue.dequeued
  named : ∀ attempt ∈ attempts, added[attempt.place]? = some attempt.record
  turns : attempts.Pairwise Attempt.Before
  progress : Progress phase queue.dequeued added attempts dropped

theorem within_of_upto {record : Record} (upto : Upto record count attempts) :
    ∀ attempt ∈ attempts, attempt.place < count + 1 := by
  intro attempt member
  rcases upto attempt member with earlier | ⟨same, -⟩ <;> omega

theorem unsettled_of_upto {record : Record} (upto : Upto record count attempts) :
    ∀ attempt ∈ attempts, attempt.place = count → attempt.reply ≠ .accepted := by
  intro attempt member there
  rcases upto attempt member with earlier | ⟨-, -, again⟩
  next => omega
  next =>
    rw [again]
    exact nofun

theorem phase_of_reply (transport : Transport τ) (exporter : Exporter τ) (record : Record) :
    (exporter.offer transport record).phase =
      match (transport.offer exporter.transport record).1 with
      | .accepted => .polling
      | .refused .wouldBlock => .refused record
      | .refused (.fatal _) => .polling
      | .crashed => .crashed := by
  rw [offer]
  rcases transport.offer exporter.transport record with ⟨reply, state⟩
  cases reply with
  | accepted => rfl
  | refused failure => cases failure <;> rfl
  | crashed => rfl

theorem progress_offer (reply : Reply) {record : Record} (settled : Settled count attempts dropped)
    (upto : Upto record count attempts) (here : added[count]? = some record) :
    let tried := attempts ++ [⟨count, record, reply⟩]
    match reply with
    | .accepted => Progress .polling (count + 1) added tried dropped
    | .refused .wouldBlock => Progress (.refused record) (count + 1) added tried dropped
    | .refused (.fatal _) => Progress .polling (count + 1) added tried (dropped ++ [count])
    | .crashed => Progress .crashed (count + 1) added tried dropped := by
  intro tried
  have last : ⟨count, record, reply⟩ ∈ tried := List.mem_append_right _ (List.mem_singleton_self _)
  have settled : Settled count tried dropped := settled_attempt settled rfl
  have within : ∀ attempt ∈ tried, attempt.place < count + 1 :=
    List.forall_mem_append.mpr ⟨within_of_upto upto, by simp⟩
  cases reply with
  | accepted => exact ⟨settled_accepted settled ⟨_, last, rfl, rfl⟩, within⟩
  | refused failure =>
    cases failure with
    | wouldBlock =>
      refine ⟨count, rfl, settled, here, ?_, _, last, rfl⟩
      exact List.forall_mem_append.mpr ⟨upto, by simp⟩
    | fatal cause =>
      refine ⟨settled_dropped settled ⟨_, last, rfl⟩ ?_, within⟩
      exact List.forall_mem_append.mpr ⟨unsettled_of_upto upto, by simp⟩
  | crashed =>
    refine ⟨count, rfl, settled, ?_⟩
    refine List.forall_mem_append.mpr ⟨fun attempt member => ?_, by simp⟩
    refine (upto attempt member).imp_right fun last => ⟨last.1, ?_⟩
    exact unsettled_of_upto upto attempt member last.1

theorem turns_offer (reply : Reply) {record : Record} (turns : attempts.Pairwise Attempt.Before)
    (upto : Upto record count attempts) :
    (attempts ++ [Attempt.mk count record reply]).Pairwise Attempt.Before := by
  refine List.pairwise_append.mpr ⟨turns, List.pairwise_singleton _ _, ?_⟩
  intro attempt member last equal
  cases List.mem_singleton.mp equal
  exact upto attempt member

theorem named_offer (reply : Reply) {record : Record}
    (named : ∀ attempt ∈ attempts, added[attempt.place]? = some attempt.record)
    (here : added[count]? = some record) :
    ∀ attempt ∈ attempts ++ [⟨count, record, reply⟩],
      added[attempt.place]? = some attempt.record :=
  List.forall_mem_append.mpr ⟨named, by simpa using here⟩

theorem ordered_step (transport : Transport τ) (raised : Bool)
    (ordered : Ordered exporter.phase queue added attempts dropped) :
    Ordered (exporter.step transport raised queue).1.phase
      (exporter.step transport raised queue).2 added
      (attempts ++ exporter.attempted transport queue)
      (dropped ++ exporter.givenUp transport raised queue) := by
  obtain ⟨source, named, turns, progress⟩ := ordered
  rw [step, attempted, givenUp]
  cases phase : exporter.phase with
  | polling =>
    rw [phase] at progress
    simp only [List.append_nil]
    cases waiting : queue.pending with
    | nil =>
      simp only [Queue.dequeue, waiting]
      exact ⟨source, named, turns, progress⟩
    | cons record rest =>
      obtain ⟨taken, split, length⟩ := source
      rw [waiting] at split
      -- The next place is the one of the record that heads the queue.
      have here : added[queue.dequeued]? = some record := by simp [split, ← length]
      simp only [Queue.dequeue, waiting]
      refine ⟨⟨taken ++ [record], ?_, ?_⟩, named, turns, queue.dequeued, rfl, progress.1, here, ?_⟩
      next => simpa using split
      next => simp [length]
      next => exact fun attempt member => .inl (progress.2 attempt member)
  | starved =>
    rw [phase] at progress
    simp only [List.append_nil]
    cases raised <;> exact ⟨source, named, turns, progress⟩
  | offering record =>
    rw [phase] at progress
    obtain ⟨count, taken, settled, here, upto⟩ := progress
    simp only [phase_of_reply, taken, Nat.add_sub_cancel]
    generalize (transport.offer exporter.transport record).1 = reply
    have next := progress_offer reply settled upto here
    refine ⟨source, named_offer reply named here, turns_offer reply turns upto, ?_⟩
    rw [taken]
    cases reply with
    | accepted => simpa only [List.append_nil] using next
    | refused failure =>
      cases failure with
      | wouldBlock => simpa only [List.append_nil] using next
      | fatal cause => exact next
    | crashed => simpa only [List.append_nil] using next
  | refused record =>
    rw [phase] at progress
    obtain ⟨count, taken, settled, here, upto, tried⟩ := progress
    simp only [List.append_nil, taken, Nat.add_sub_cancel]
    cases raised with
    | true =>
      simp only [if_true]
      refine ⟨source, named, turns, ?_⟩
      rw [taken]
      exact ⟨settled_dropped settled tried (unsettled_of_upto upto), within_of_upto upto⟩
    | false =>
      simp only [Bool.false_eq_true, if_false, List.append_nil]
      exact ⟨source, named, turns, count, taken, settled, here, upto⟩
  | finished =>
    rw [phase] at progress
    simp only [List.append_nil]
    exact ⟨source, named, turns, phase ▸ progress⟩
  | crashed =>
    rw [phase] at progress
    simp only [List.append_nil]
    exact ⟨source, named, turns, phase ▸ progress⟩

theorem ordered_start (state : τ) {queue : Queue} (untouched : queue.dequeued = 0)
    (nothing : queue.pending = []) : Ordered (start state).phase queue [] [] [] where
  source := ⟨[], by rw [nothing, List.append_nil], untouched.symm⟩
  named := nofun
  turns := .nil
  progress := by
    rw [untouched]
    exact ⟨⟨nofun, nofun, nofun⟩, nofun⟩

theorem progress_added {phase : ExporterPhase} {taken : Nat}
    (progress : Progress phase taken added attempts dropped) (more : List Record) :
    Progress phase taken (added ++ more) attempts dropped := by
  have kept {place : Nat} {record : Record} (here : added[place]? = some record) :
      (added ++ more)[place]? = some record := by
    rw [List.getElem?_append_left (List.getElem?_eq_some_iff.mp here).1, here]
  cases phase with
  | offering record =>
    obtain ⟨count, last, settled, here, upto⟩ := progress
    exact ⟨count, last, settled, kept here, upto⟩
  | refused record =>
    obtain ⟨count, last, settled, here, upto, tried⟩ := progress
    exact ⟨count, last, settled, kept here, upto, tried⟩
  | polling => exact progress
  | starved => exact progress
  | finished => exact progress
  | crashed => exact progress

theorem ordered_added {phase : ExporterPhase} {next : Queue} {more : List Record}
    (ordered : Ordered phase queue added attempts dropped)
    (pending : next.pending = queue.pending ++ more) (dequeued : next.dequeued = queue.dequeued) :
    Ordered phase next (added ++ more) attempts dropped := by
  obtain ⟨⟨taken, split, length⟩, named, turns, progress⟩ := ordered
  refine ⟨⟨taken, ?_, length.trans dequeued.symm⟩, fun attempt member => ?_, turns, ?_⟩
  next => rw [split, pending, List.append_assoc]
  next =>
    have here := named attempt member
    rw [List.getElem?_append_left (List.getElem?_eq_some_iff.mp here).1, here]
  next => exact dequeued.symm ▸ progress_added progress more

theorem settled_of_progress {phase : ExporterPhase} {taken : Nat}
    (progress : Progress phase taken added attempts dropped) :
    ∃ count, Settled count attempts dropped ∧ count ≤ taken ∧ taken ≤ count + 1 ∧
      ∀ attempt ∈ attempts, attempt.place < count ∨
        attempt.place = count ∧ attempt.reply ≠ .accepted := by
  have all {record : Record} {count : Nat} (upto : Upto record count attempts) :
      ∀ attempt ∈ attempts, attempt.place < count ∨
        attempt.place = count ∧ attempt.reply ≠ .accepted := fun attempt member =>
    (upto attempt member).imp_right fun last =>
      ⟨last.1, unsettled_of_upto upto attempt member last.1⟩
  cases phase with
  | offering record =>
    obtain ⟨count, rfl, settled, -, upto⟩ := progress
    exact ⟨count, settled, Nat.le_succ _, Nat.le_refl _, all upto⟩
  | refused record =>
    obtain ⟨count, rfl, settled, -, upto, -⟩ := progress
    exact ⟨count, settled, Nat.le_succ _, Nat.le_refl _, all upto⟩
  | crashed =>
    obtain ⟨count, rfl, settled, last⟩ := progress
    exact ⟨count, settled, Nat.le_succ _, Nat.le_refl _, last⟩
  | polling => exact ⟨taken, progress.1, Nat.le_refl _, Nat.le_succ _, fun a m => .inl (progress.2 a m)⟩
  | starved => exact ⟨taken, progress.1, Nat.le_refl _, Nat.le_succ _, fun a m => .inl (progress.2 a m)⟩
  | finished => exact ⟨taken, progress.1, Nat.le_refl _, Nat.le_succ _, fun a m => .inl (progress.2 a m)⟩

-- When a place comes up, all earlier places have come up before.
theorem in_turn (turns : attempts.Pairwise Attempt.Before) (settled : Settled count attempts dropped)
    (upto : ∀ attempt ∈ attempts, attempt.place ≤ count) {before after : List Attempt}
    {attempt : Attempt} (split : attempts = before ++ attempt :: after) :
    ∀ place < attempt.place, ∃ earlier ∈ before, earlier.place = place := by
  subst split
  intro place less
  have bound := upto attempt (by simp)
  obtain ⟨other, member, there⟩ := settled.tried place (by omega)
  have later := (List.pairwise_cons.mp (List.pairwise_append.mp turns).2.1).1
  rcases List.mem_append.mp member with early | rest
  next => exact ⟨other, early, there⟩
  next =>
    rcases List.mem_cons.mp rest with rfl | late
    next => omega
    next =>
      rcases later other late with after' | ⟨same, -⟩ <;> omega

end Exporter

end FlowProbe
