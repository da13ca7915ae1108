import FlowProbe.Proofs.Hub.Membership
import FlowProbe.Proofs.WorkerPool.Metering

set_option autoImplicit false

namespace FlowProbe

namespace WorkerThread

variable {σ : Type}

def HoldsChannel (thread : WorkerThread σ) : Prop :=
  match thread.activity with
  | .releasing holdings _ => .channel ∈ holdings
  | .ended _ => False
  | _ => True

inductive Touches (thread next : WorkerThread σ) (hub after : Hub) : List Captured → Prop where
  | take {mailbox : Mailbox} {captured : Captured} {rest : List Captured}
      (holds : thread.HoldsChannel) (found : hub.member? thread.channel = some mailbox)
      (frames : mailbox.frames = captured :: rest)
      (taken : after = hub.update thread.channel fun mailbox => { mailbox with frames := rest }) :
      Touches thread next hub after [captured]
  | leave (released : ¬ next.HoldsChannel) (left : after = hub.leave thread.channel) :
      Touches thread next hub after []
  | rest (holds : next.HoldsChannel → thread.HoldsChannel) (same : after = hub) :
      Touches thread next hub after []

theorem channel_look {κ : Type} (capture : Capture κ) (classifier : Classifier σ)
    (thread : WorkerThread σ) (state : σ) (site : Site κ) :
    (thread.look capture classifier state site).1.channel = thread.channel := by
  unfold look
  rcases capture.receive site.captures thread.channel with ⟨receipt, captures⟩
  cases receipt <;> rfl

theorem channel_step {κ : Type} (capture : Capture κ) (classifier : Classifier σ)
    (thread : WorkerThread σ) (site : Site κ) :
    (thread.step capture classifier site).1.channel = thread.channel := by
  unfold step
  split
  next state doing => exact channel_look capture classifier thread state site
  all_goals rfl

theorem touches_look (classifier : Classifier σ) {thread : WorkerThread σ} {state : σ}
    (doing : thread.activity = .receiving state) (site : Site Hub) :
    thread.Touches (thread.look Hub.capture classifier state site).1 site.captures
      (thread.look Hub.capture classifier state site).2.captures
      (thread.takes Hub.capture site.captures) := by
  have holds : thread.HoldsChannel := by simp [HoldsChannel, doing]
  rcases site.captures.receive_cases thread.channel with
    ⟨mailbox, captured, rest, found, -, frames, received⟩ | received | received
  all_goals simp only [look, takes, doing, Hub.capture, received]
  next => exact .take holds found frames rfl
  next => exact .rest (fun holds => holds) rfl
  next => exact .rest (fun _ => holds) rfl

theorem touches_step (classifier : Classifier σ) {thread : WorkerThread σ} (tidy : thread.Tidy)
    (site : Site Hub) :
    thread.Touches (thread.step Hub.capture classifier site).1 site.captures
      (thread.step Hub.capture classifier site).2.captures
      (thread.takes Hub.capture site.captures) := by
  cases doing : thread.activity with
  | receiving state =>
    have looks : thread.step Hub.capture classifier site =
        thread.look Hub.capture classifier state site := by
      unfold step
      simp only [doing]
    rw [looks]
    exact touches_look classifier doing site
  | emitting records next =>
    have holds : thread.HoldsChannel := by simp [HoldsChannel, doing]
    simp only [step, takes, doing]
    cases records with
    | cons record records => exact .rest (fun _ => holds) rfl
    | nil => cases next <;> exact .rest (fun _ => holds) rfl
  | counting records next =>
    have holds : thread.HoldsChannel := by simp [HoldsChannel, doing]
    simp only [step, takes, doing]
    exact .rest (fun _ => holds) rfl
  | releasing holdings report =>
    simp only [step, takes, doing]
    cases holdings with
    | nil => exact .rest False.elim rfl
    | cons holding holdings =>
      have distinct : (holding :: holdings).Nodup := by simpa [Tidy, doing] using tidy
      have holds (member : Holding.channel ∈ holdings) : thread.HoldsChannel := by
        simpa [HoldsChannel, doing] using .inr member
      -- The channel is held once, so it is not held any more when it was released.
      cases holding with
      | channel => exact .leave (List.nodup_cons.mp distinct).1 rfl
      | classifier => exact .rest holds rfl
      | producer => exact .rest holds rfl
  | ended report =>
    simp only [step, takes, doing]
    exact .rest (fun holds => holds) rfl

/-- A thread has got the first frames of its share, and as long as it has its channel, the others are
waiting there. -/
structure Supplied (share got : List Captured) (hub : Hub) (thread : WorkerThread σ) : Prop where
  prior : got <+: share
  waiting : thread.HoldsChannel → ∃ mailbox, hub.member? thread.channel = some mailbox ∧
    got ++ mailbox.frames = share

section Touching

variable {thread next : WorkerThread σ} {hub after : Hub} {taken : List Captured}

theorem ids_touched (touches : thread.Touches next hub after taken) :
    after.ids.Sublist hub.ids := by
  cases touches with
  | take _ _ _ took =>
    have same : after.ids = hub.ids := by
      rw [took]
      exact Hub.ids_update _ _ fun _ => rfl
    rw [same]
  | leave _ left => exact left ▸ List.filter_sublist.map _
  | rest _ same => rw [same]

theorem others_untouched (touches : thread.Touches next hub after taken) {other : Nat}
    (different : other ≠ thread.channel) : after.member? other = hub.member? other := by
  cases touches with
  | take _ _ _ took =>
    rw [took, Hub.member?_withFrames]
    cases found : hub.member? other with
    | none => rfl
    | some mailbox =>
      have foreign : mailbox.id ≠ thread.channel := Hub.id_of_member? found ▸ different
      exact congrArg some (if_neg foreign)
  | leave _ left => rw [left, Hub.member?_leave hub different]
  | rest _ same => rw [same]

theorem supplied_touched (touches : thread.Touches next hub after taken)
    (channel : next.channel = thread.channel) {share got : List Captured}
    (supplied : thread.Supplied share got hub) : next.Supplied share (got ++ taken) after := by
  obtain ⟨prior, waiting⟩ := supplied
  cases touches with
  | take holds found frames took =>
    obtain ⟨mailbox, found', order⟩ := waiting holds
    cases found.symm.trans found'
    rw [frames, List.append_cons] at order
    refine ⟨⟨_, order⟩, fun _ => ?_⟩
    rw [took, channel, Hub.member?_withFrames, found', Option.map_some,
      if_pos (Hub.id_of_member? found')]
    exact ⟨_, rfl, order⟩
  | leave released _ =>
    rw [List.append_nil]
    exact ⟨prior, fun holds => absurd holds released⟩
  | rest holds same =>
    rw [List.append_nil, same]
    refine ⟨prior, fun still => ?_⟩
    rw [channel]
    exact waiting (holds still)

end Touching

end WorkerThread

namespace RunningPool

variable {κ σ : Type} {pool : RunningPool κ σ}

theorem channels_step (capture : Capture κ) (classifier : Classifier σ) (index : Nat) :
    (pool.step capture classifier index).threads.map WorkerThread.channel =
      pool.threads.map WorkerThread.channel := by
  cases here : pool.threads[index]? with
  | none => rw [step_absent capture classifier here]
  | some thread =>
    obtain ⟨bound, atIndex⟩ := List.getElem?_eq_some_iff.mp here
    rw [step_eq capture classifier here, List.map_set, WorkerThread.channel_step, ← atIndex,
      ← List.map_set, List.set_getElem_self]

theorem other_channel (distinct : (pool.threads.map WorkerThread.channel).Nodup)
    {index slot : Nat} {thread other : WorkerThread σ}
    (here : pool.threads[index]? = some thread) (there : pool.threads[slot]? = some other)
    (different : slot ≠ index) : other.channel ≠ thread.channel := by
  intro same
  obtain ⟨bound, -⟩ := List.getElem?_eq_some_iff.mp there
  apply different
  apply (List.getElem?_inj (by simpa using bound) distinct).mp
  rw [List.getElem?_map, List.getElem?_map, there, here, Option.map_some, Option.map_some, same]

end RunningPool

end FlowProbe
