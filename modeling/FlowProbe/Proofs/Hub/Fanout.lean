import FlowProbe.Proofs.FlowKey
import FlowProbe.Proofs.Hub.Membership
import FlowProbe.Proofs.Wire.Frame

set_option autoImplicit false

namespace FlowProbe

inductive Traffic where
  | inject (captured : Captured)
  | receive (channel : Nat)
  | wake (channel : Nat)

def Traffic.injected? : Traffic → Option Captured
  | .inject captured => some captured
  | _ => none

structure HubRun where
  hub : Hub
  -- The frames in the order in which they came, and the slots that the hub answered with.
  injected : List (Captured × Option Nat)
  -- Which channel got which frame, in order.
  delivered : List (Nat × Captured)

namespace HubRun

def start (hub : Hub) : HubRun :=
  ⟨hub, [], []⟩

def inject (run : HubRun) (captured : Captured) : HubRun :=
  { run with
    hub := (run.hub.inject captured).2
    injected := run.injected ++ [(captured, (run.hub.inject captured).1)] }

def receive (run : HubRun) (channel : Nat) : HubRun :=
  match run.hub.receive channel with
  | (.frame captured, hub) =>
    { run with hub, delivered := run.delivered ++ [(channel, captured)] }
  | (_, hub) => { run with hub }

def wake (run : HubRun) (channel : Nat) : HubRun :=
  { run with hub := run.hub.wake channel }

def act (run : HubRun) : Traffic → HubRun
  | .inject captured => run.inject captured
  | .receive channel => run.receive channel
  | .wake channel => run.wake channel

def follow (run : HubRun) (traffic : List Traffic) : HubRun :=
  traffic.foldl act run

def assigned (run : HubRun) (slot : Nat) : List Captured :=
  (run.injected.filter fun entry => entry.2 = some slot).map Prod.fst

def deliveredTo (run : HubRun) (channel : Nat) : List Captured :=
  (run.delivered.filter fun entry => entry.1 = channel).map Prod.snd

structure Served (slot : Nat) (mailbox later : Mailbox) (before after : HubRun)
    (given got : List Captured) : Prop where
  there : after.hub.members[slot]? = some later
  id : later.id = mailbox.id
  assigned : after.assigned slot = before.assigned slot ++ given
  delivered : after.deliveredTo mailbox.id = before.deliveredTo mailbox.id ++ got
  order : got ++ later.frames = mailbox.frames ++ given
  woken : mailbox.woken = true → later.woken = true ∧ got = []

variable {run : HubRun} {slot : Nat} {mailbox : Mailbox}

theorem served_refl (here : run.hub.members[slot]? = some mailbox) :
    Served slot mailbox mailbox run run [] [] where
  there := here
  id := rfl
  assigned := by simp
  delivered := by simp
  order := by simp
  woken := fun woken => ⟨woken, rfl⟩

theorem served_trans {middle later : Mailbox} {between after : HubRun}
    {given got given' got' : List Captured}
    (first : Served slot mailbox middle run between given got)
    (second : Served slot middle later between after given' got') :
    Served slot mailbox later run after (given ++ given') (got ++ got') where
  there := second.there
  id := second.id.trans first.id
  assigned := by rw [second.assigned, first.assigned, List.append_assoc]
  delivered := by rw [← first.id, second.delivered, first.id, first.delivered, List.append_assoc]
  order := by
    rw [List.append_assoc, second.order, ← List.append_assoc, first.order, List.append_assoc]
  woken := by
    intro woken
    obtain ⟨still, nothing⟩ := first.woken woken
    obtain ⟨last, nothing'⟩ := second.woken still
    exact ⟨last, by rw [nothing, nothing', List.append_nil]⟩

theorem assigned_inject (run : HubRun) (captured : Captured) (slot : Nat) :
    (run.inject captured).assigned slot = run.assigned slot ++
      if (run.hub.inject captured).1 = some slot then [captured] else [] := by
  by_cases chosen : (run.hub.inject captured).1 = some slot <;>
    simp [assigned, inject, List.filter_append, chosen]

theorem served_inject (here : run.hub.members[slot]? = some mailbox) (captured : Captured) :
    ∃ later given got, Served slot mailbox later run (run.inject captured) given got := by
  have occupied : 0 < run.hub.size := Nat.zero_lt_of_lt (List.getElem?_eq_some_iff.mp here).1
  have assigned := assigned_inject run captured slot
  have there := run.hub.getElem?_inject captured slot
  simp only [Hub.slot_inject occupied, Option.some.injEq] at assigned
  rw [here, Option.map_some] at there
  by_cases chosen : Hub.slotOf run.hub.size captured.bytes = slot
  next =>
    rw [if_pos chosen] at assigned there
    exact ⟨_, [captured], [], there, rfl, assigned, by simp [inject, deliveredTo], rfl,
      fun woken => ⟨woken, rfl⟩⟩
  next =>
    rw [if_neg chosen] at assigned there
    exact ⟨mailbox, [], [], there, rfl, assigned, by simp [inject, deliveredTo], by simp,
      fun woken => ⟨woken, rfl⟩⟩

theorem deliveredTo_concat (run : HubRun) (hub : Hub) (channel id : Nat) (captured : Captured) :
    deliveredTo { run with hub, delivered := run.delivered ++ [(channel, captured)] } id =
      run.deliveredTo id ++ if channel = id then [captured] else [] := by
  by_cases own : channel = id <;> simp [deliveredTo, List.filter_append, own]

theorem receive_cases (run : HubRun) (channel : Nat) :
    (∃ target captured rest, run.hub.member? channel = some target ∧ target.woken = false ∧
      target.frames = captured :: rest ∧
      run.receive channel = { run with
        hub := run.hub.update channel fun mailbox => { mailbox with frames := rest }
        delivered := run.delivered ++ [(channel, captured)] }) ∨
    run.receive channel = run := by
  unfold receive
  rcases run.hub.receive_cases channel with
    ⟨target, captured, rest, found, awake, frames, received⟩ | received | received
  next => exact .inl ⟨target, captured, rest, found, awake, frames, by rw [received]⟩
  next => rw [received]; exact .inr rfl
  next => rw [received]; exact .inr rfl

theorem served_receive (distinct : run.hub.ids.Nodup)
    (here : run.hub.members[slot]? = some mailbox) (channel : Nat) :
    ∃ later given got, Served slot mailbox later run (run.receive channel) given got := by
  rcases run.receive_cases channel with
    ⟨target, captured, rest, found, awake, frames, received⟩ | received
  next =>
    rw [received]
    have there := run.hub.getElem?_update channel slot fun mailbox =>
      { mailbox with frames := rest }
    have delivered := run.deliveredTo_concat
      (run.hub.update channel fun mailbox => { mailbox with frames := rest }) channel mailbox.id
      captured
    rw [here, Option.map_some] at there
    by_cases own : mailbox.id = channel
    next =>
      -- Only one member has the number, so it is the one that the frame is taken from.
      rw [← own, Hub.member?_at distinct here] at found
      cases found
      rw [if_pos own] at there
      rw [if_pos own.symm] at delivered
      exact ⟨_, [], [captured], there, rfl, by simp [assigned], delivered, by simp [frames],
        by simp [awake]⟩
    next =>
      rw [if_neg own] at there
      rw [if_neg (Ne.symm own)] at delivered
      exact ⟨mailbox, [], [], there, rfl, by simp [assigned], delivered, by simp,
        fun woken => ⟨woken, rfl⟩⟩
  next =>
    rw [received]
    exact ⟨mailbox, [], [], served_refl here⟩

theorem served_wake (here : run.hub.members[slot]? = some mailbox) (channel : Nat) :
    ∃ woken, Served slot mailbox { mailbox with woken } run (run.wake channel) [] [] ∧
      (mailbox.id = channel → woken = true) := by
  have there := run.hub.getElem?_update channel slot fun mailbox => { mailbox with woken := true }
  rw [here, Option.map_some] at there
  by_cases own : mailbox.id = channel
  next =>
    rw [if_pos own] at there
    exact ⟨true, ⟨there, rfl, by simp [assigned, wake], by simp [deliveredTo, wake], by simp,
      fun _ => ⟨rfl, rfl⟩⟩, fun _ => rfl⟩
  next =>
    rw [if_neg own] at there
    exact ⟨mailbox.woken, ⟨there, rfl, by simp [assigned, wake], by simp [deliveredTo, wake],
      by simp, fun woken => ⟨woken, rfl⟩⟩, fun same => absurd same own⟩

theorem served_act (distinct : run.hub.ids.Nodup) (here : run.hub.members[slot]? = some mailbox)
    (step : Traffic) :
    ∃ later given got, Served slot mailbox later run (run.act step) given got := by
  cases step with
  | inject captured => exact served_inject here captured
  | receive channel => exact served_receive distinct here channel
  | wake channel =>
    obtain ⟨woken, served, _⟩ := served_wake here channel
    exact ⟨_, [], [], served⟩

theorem ids_act (run : HubRun) (step : Traffic) : (run.act step).hub.ids = run.hub.ids := by
  cases step with
  | inject captured => exact run.hub.ids_inject captured
  | receive channel =>
    rcases run.receive_cases channel with ⟨_, _, rest, _, _, _, received⟩ | received
    next => rw [act, received]; exact run.hub.ids_update channel fun _ => rfl
    next => rw [act, received]
  | wake channel => exact run.hub.ids_wake channel

theorem ids_follow (run : HubRun) (traffic : List Traffic) :
    (run.follow traffic).hub.ids = run.hub.ids := by
  induction traffic generalizing run with
  | nil => rfl
  | cons step rest ih => exact (ih (run.act step)).trans (run.ids_act step)

theorem served_follow (run : HubRun) (distinct : run.hub.ids.Nodup)
    (here : run.hub.members[slot]? = some mailbox) (traffic : List Traffic) :
    ∃ later given got, Served slot mailbox later run (run.follow traffic) given got := by
  induction traffic generalizing run mailbox with
  | nil => exact ⟨mailbox, [], [], served_refl here⟩
  | cons step rest ih =>
    -- The numbers stay as they are, so they are as distinct after the step as before.
    obtain ⟨middle, given, got, first⟩ := served_act distinct here step
    obtain ⟨later, given', got', second⟩ :=
      ih (run.act step) (run.ids_act step ▸ distinct) first.there
    exact ⟨later, _, _, served_trans first second⟩

theorem injected_act (run : HubRun) (occupied : 0 < run.hub.size) (step : Traffic) :
    (run.act step).injected = run.injected ++ step.injected?.toList.map fun captured =>
      (captured, some (Hub.slotOf run.hub.size captured.bytes)) := by
  cases step with
  | inject captured => simp [act, inject, Traffic.injected?, Hub.slot_inject occupied]
  | receive channel =>
    have same : (run.receive channel).injected = run.injected := by
      unfold receive
      split <;> rfl
    simpa [act, Traffic.injected?] using same
  | wake channel => simp [act, wake, Traffic.injected?]

theorem injected_follow (run : HubRun) (occupied : 0 < run.hub.size) (traffic : List Traffic) :
    (run.follow traffic).injected =
      run.injected ++ (traffic.filterMap Traffic.injected?).map fun captured =>
        (captured, some (Hub.slotOf run.hub.size captured.bytes)) := by
  induction traffic generalizing run with
  | nil => simp [follow]
  | cons step rest ih =>
    have size : (run.act step).hub.size = run.hub.size := by
      rw [← Hub.length_ids, ← Hub.length_ids, ids_act]
    have tail := ih (run.act step) (size ▸ occupied)
    rw [run.injected_act occupied, size] at tail
    rw [follow, List.foldl_cons, ← follow, tail]
    cases found : step.injected? <;> simp [found]

theorem routed_follow {hub : Hub} (occupied : 0 < hub.size) (traffic : List Traffic) :
    ∀ entry ∈ ((start hub).follow traffic).injected,
      entry.2 = some (Hub.slotOf hub.size entry.1.bytes) := by
  intro entry member
  rw [(start hub).injected_follow occupied] at member
  obtain ⟨captured, _, rfl⟩ := List.mem_map.mp member
  rfl

theorem same_slot {hub : Hub} (occupied : 0 < hub.size) (traffic : List Traffic)
    {one other : Captured × Option Nat} {packet answer : Packet}
    (member : one ∈ ((start hub).follow traffic).injected)
    (member' : other ∈ ((start hub).follow traffic).injected)
    (parsed : Packet.parse? one.1.bytes = some packet)
    (parsed' : Packet.parse? other.1.bytes = some answer)
    (related : packet.key = answer.key ∨ packet.Answers answer) : one.2 = other.2 := by
  have same : packet.key = answer.key := related.elim id Packet.key_of_answers
  rw [routed_follow occupied traffic one member, routed_follow occupied traffic other member',
    Hub.slotOf_parsed parsed, Hub.slotOf_parsed parsed', same]

theorem delivered_act (run : HubRun) (step : Traffic) :
    ∀ entry ∈ (run.act step).delivered, entry ∈ run.delivered ∨ entry.1 ∈ run.hub.ids := by
  cases step with
  | inject captured => exact fun _ => .inl
  | wake channel => exact fun _ => .inl
  | receive channel =>
    rcases run.receive_cases channel with ⟨target, captured, rest, found, _, _, received⟩ | received
    next =>
      rw [act, received]
      intro entry member
      rcases List.mem_append.mp member with old | new
      next => exact .inl old
      next =>
        have number : target.id = channel := Hub.id_of_member? found
        rw [List.mem_singleton.mp new]
        exact .inr (List.mem_map.mpr ⟨target, List.mem_of_find?_eq_some found, number⟩)
    next =>
      rw [act, received]
      exact fun _ => .inl

theorem delivered_follow (run : HubRun) (traffic : List Traffic) :
    ∀ entry ∈ (run.follow traffic).delivered, entry ∈ run.delivered ∨ entry.1 ∈ run.hub.ids := by
  induction traffic generalizing run with
  | nil => exact fun _ => .inl
  | cons step rest ih =>
    intro entry member
    rcases ih (run.act step) entry member with old | new
    next => exact run.delivered_act step entry old
    next => exact .inr (run.ids_act step ▸ new)

theorem woken_keeps_frames (distinct : run.hub.ids.Nodup)
    (here : run.hub.members[slot]? = some mailbox) (more : List Traffic) :
    let later := (run.act (.wake mailbox.id)).follow more
    later.deliveredTo mailbox.id = run.deliveredTo mailbox.id ∧
      ∃ given, later.assigned slot = run.assigned slot ++ given ∧
        later.hub.members[slot]? = some ⟨mailbox.id, mailbox.frames ++ given, true⟩ := by
  intro later
  obtain ⟨woken, first, certain⟩ := served_wake here mailbox.id
  have distinct' := run.ids_act (.wake mailbox.id) ▸ distinct
  obtain ⟨⟨id, frames, flag⟩, given, got, second⟩ := served_follow _ distinct' first.there more
  have both := served_trans first second
  -- It is woken at the beginning of the second part, so nothing is handed out from there on.
  obtain ⟨still, nothing⟩ := second.woken (certain rfl)
  subst nothing
  have same : id = mailbox.id := both.id
  have kept : frames = mailbox.frames ++ given := both.order
  have up : flag = true := still
  subst same kept up
  exact ⟨both.delivered.trans (List.append_nil _), given, both.assigned, both.there⟩

/-- Over any traffic with any number of members. The frames of a conversation share a slot, in both
directions, and what cannot be parsed is for the oldest member. What a channel got and what still
waits for it are the frames of its slot in the order in which they came, behind those that waited
before. -/
theorem traffic_partitioned_in_order {hub : Hub} (reachable : hub.Reachable)
    (occupied : 0 < hub.size) (traffic : List Traffic) :
    let run := (start hub).follow traffic
    run.hub.ids = hub.ids ∧
      run.injected.map Prod.fst = traffic.filterMap Traffic.injected? ∧
      (∀ entry ∈ run.injected, ∃ slot < hub.size, entry.2 = some slot) ∧
      (∀ one ∈ run.injected, ∀ other ∈ run.injected, ∀ packet answer,
        Packet.parse? one.1.bytes = some packet → Packet.parse? other.1.bytes = some answer →
          packet.key = answer.key ∨ packet.Answers answer → one.2 = other.2) ∧
      (∀ one ∈ run.injected, ∀ other ∈ run.injected, ∀ frame answer : Wire.Frame,
        one.1.bytes = frame.octets → other.1.bytes = answer.octets → frame.Answers answer →
          one.2 = other.2) ∧
      (∀ entry ∈ run.injected, Packet.parse? entry.1.bytes = none →
        entry.2 = some 0 ∧ ∃ oldest, run.hub.members[0]? = some oldest ∧
          ∀ id ∈ hub.ids, oldest.id ≤ id) ∧
      (∀ entry ∈ run.delivered, entry.1 ∈ hub.ids) ∧
      (∀ slot before, hub.members[slot]? = some before →
        ∃ mailbox, run.hub.members[slot]? = some mailbox ∧ mailbox.id = before.id ∧
          run.deliveredTo before.id ++ mailbox.frames = before.frames ++ run.assigned slot) ∧
      ∀ slot mailbox, run.hub.members[slot]? = some mailbox → ∀ more,
        let later := (run.act (.wake mailbox.id)).follow more
        later.deliveredTo mailbox.id = run.deliveredTo mailbox.id ∧
          ∃ given, later.assigned slot = run.assigned slot ++ given ∧
            later.hub.members[slot]? = some ⟨mailbox.id, mailbox.frames ++ given, true⟩ := by
  intro run
  have numbered : hub.Numbered := Hub.numbered_reachable reachable
  have ids : run.hub.ids = hub.ids := ids_follow (start hub) traffic
  refine ⟨ids, ?_, ?_, ?_, ?_, ?_, ?_, ?_, ?_⟩
  next =>
    have injected : run.injected = _ := (start hub).injected_follow occupied traffic
    rw [injected]
    simp [start, Function.comp_def]
  next => exact fun entry member =>
    ⟨_, Hub.slotOf_lt occupied _, routed_follow occupied traffic entry member⟩
  next =>
    intro one member other member' packet answer
    exact same_slot occupied traffic member member'
  next =>
    intro one member other member' frame answer written written' answers
    obtain ⟨packet, reply, parsed, parsed', answers⟩ := Wire.Frame.answers_octets answers
    rw [← written] at parsed
    rw [← written'] at parsed'
    exact same_slot occupied traffic member member' parsed parsed' (.inr answers)
  next =>
    intro entry member refused
    have size : run.hub.size = hub.size := by rw [← Hub.length_ids, ids, Hub.length_ids]
    have oldest := run.hub.exists_oldest (ids ▸ numbered.rising) (size ▸ occupied)
    rw [ids] at oldest
    rw [routed_follow occupied traffic entry member, Hub.slotOf_refused refused]
    exact ⟨rfl, oldest⟩
  next =>
    intro entry member
    exact (delivered_follow (start hub) traffic entry member).resolve_left nofun
  next =>
    intro slot before here
    obtain ⟨mailbox, given, got, served⟩ :=
      (start hub).served_follow numbered.distinct here traffic
    refine ⟨mailbox, served.there, served.id, ?_⟩
    have delivered : run.deliveredTo before.id = got := served.delivered
    have assigned : run.assigned slot = given := served.assigned
    rw [delivered, assigned, served.order]
  next => exact fun slot mailbox here more => woken_keeps_frames (ids ▸ numbered.distinct) here more

def pair : Hub :=
  (((Hub.ofDevice "syn0").openChannel "syn0" 7).2.openChannel "syn0" 7).2

def noise (octet : UInt8) : Captured :=
  .of 0 1 [octet]

def noisy : List Traffic :=
  [.inject (noise 1), .inject (noise 2), .receive 0, .wake 0, .inject (noise 3), .receive 0]

theorem pair_keeps_noise : pair.Reachable ∧ 0 < pair.size ∧
    ∃ mailbox, ((start pair).follow noisy).hub.members[0]? = some mailbox ∧ mailbox.id = 0 ∧
      ((start pair).follow noisy).deliveredTo 0 ++ mailbox.frames =
        [noise 1, noise 2, noise 3] := by
  have reachable : pair.Reachable :=
    .openChannel "syn0" 7 (.openChannel "syn0" 7 (.ofDevice "syn0"))
  have occupied : 0 < pair.size := by decide
  obtain ⟨_, _, _, _, _, _, _, order, _⟩ :=
    traffic_partitioned_in_order reachable occupied noisy
  exact ⟨reachable, occupied, order 0 ⟨0, [], false⟩ rfl⟩

end HubRun

end FlowProbe
