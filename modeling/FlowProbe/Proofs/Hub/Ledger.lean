import FlowProbe.Proofs.Hub.Binding

set_option autoImplicit false

namespace FlowProbe

/-- The channels that were opened and closed, in order, and how many frames were given a slot, were
received and were lost with a closed channel. -/
structure HubLedger where
  opened : List Nat := []
  closed : List Nat := []
  slotted : Nat := 0
  received : Nat := 0
  lost : Nat := 0

def HubLedger.enter (ledger : HubLedger) (hub : Hub) : HubCall → HubLedger
  | .openChannel device group =>
    match (hub.openChannel device group).1 with
    | .ok id => { ledger with opened := ledger.opened ++ [id] }
    | .error _ => ledger
  | .inject captured =>
    if (hub.inject captured).1.isSome then { ledger with slotted := ledger.slotted + 1 } else ledger
  | .receive id =>
    match (hub.receive id).1 with
    | .frame _ => { ledger with received := ledger.received + 1 }
    | _ => ledger
  | .leave id =>
    match hub.member? id with
    | some mailbox => {
        ledger with
        closed := ledger.closed ++ [id]
        lost := ledger.lost + mailbox.frames.length }
    | none => ledger
  | .limit _ | .wake _ => ledger

def HubCall.failJoinsAfter (joins : UInt64) : HubCall :=
  .limit (if joins.toNat = 2 ^ 64 - 1 then none else some joins.toNat)

namespace Hub

def account : Hub → HubLedger → List HubCall → HubLedger
  | _, ledger, [] => ledger
  | hub, ledger, call :: calls => (hub.perform call).2.account (ledger.enter hub call) calls

def admits (hub : Hub) (device : String) (group : UInt16) : Bool :=
  device = hub.device && hub.group.all (· = group)

def tries (hub : Hub) : HubCall → Bool
  | .openChannel device group => hub.admits device group
  | _ => false

def attempts : Hub → List HubCall → Nat
  | _, [] => 0
  | hub, call :: calls => (hub.tries call).toNat + (hub.perform call).2.attempts calls

variable {hub : Hub}

section Frames

theorem pending_eq (hub : Hub) :
    hub.pending = (hub.members.map fun mailbox => mailbox.frames.length).sum := by
  rw [pending, List.sum_eq_foldl, List.foldl_map]

theorem pending_replace {next : Hub} {before behind : List Mailbox} {mailbox other : Mailbox}
    (members : hub.members = before ++ mailbox :: behind)
    (members' : next.members = before ++ other :: behind) :
    next.pending + mailbox.frames.length = hub.pending + other.frames.length := by
  simp only [pending_eq, members, members', List.map_append, List.map_cons, List.sum_append,
    List.sum_cons]
  omega

theorem pending_inject (hub : Hub) (captured : Captured) :
    (hub.inject captured).2.pending = hub.pending + (hub.inject captured).1.isSome.toNat := by
  by_cases occupied : 0 < hub.size
  next =>
    let slot := slotOf hub.size captured.bytes
    have inside : slot < hub.members.length := slotOf_lt occupied captured.bytes
    have split : hub.members =
        hub.members.take slot ++ hub.members[slot] :: hub.members.drop (slot + 1) := by
      rw [List.getElem_cons_drop, List.take_append_drop]
    have members : hub.members.isEmpty = false := by simpa using List.ne_nil_of_length_pos occupied
    have next : (hub.inject captured).2.members = hub.members.modify slot fun mailbox =>
        { mailbox with frames := mailbox.frames ++ [captured] } := by
      simp [inject, members, slot, size]
    have replaced := pending_replace split (next.trans (List.modify_eq_take_cons_drop inside))
    rw [slot_inject occupied]
    simp only [List.length_append, List.length_singleton] at replaced
    simp only [Option.isSome_some, Bool.toNat_true]
    omega
  next =>
    have empty : hub.members = [] := List.eq_nil_of_length_eq_zero (Nat.eq_zero_of_not_pos occupied)
    simp [inject, empty]

theorem pending_wake (hub : Hub) (id : Nat) : (hub.wake id).pending = hub.pending := by
  rw [pending_eq, pending_eq, wake, update, List.map_map]
  refine congrArg List.sum (List.map_congr_left fun mailbox _ => ?_)
  by_cases own : mailbox.id = id <;> simp [own]

theorem split_member (distinct : hub.ids.Nodup) {id : Nat} {mailbox : Mailbox}
    (found : hub.member? id = some mailbox) :
    ∃ before behind, hub.members = before ++ mailbox :: behind ∧
      ∀ other ∈ before ++ behind, other.id ≠ id := by
  obtain ⟨before, behind, members⟩ := List.append_of_mem (List.mem_of_find?_eq_some found)
  refine ⟨before, behind, members, fun other there same => ?_⟩
  rw [ids, members, List.map_append, List.map_cons, List.nodup_middle, ← List.map_append] at distinct
  apply (List.nodup_cons.mp distinct).1
  rw [id_of_member? found, ← same]
  exact List.mem_map_of_mem there

theorem members_leave {id : Nat} {mailbox : Mailbox} {before behind : List Mailbox}
    (members : hub.members = before ++ mailbox :: behind) (own : mailbox.id = id)
    (others : ∀ other ∈ before ++ behind, other.id ≠ id) :
    (hub.leave id).members = before ++ behind := by
  change hub.members.filter _ = _
  rw [members, List.filter_append, List.filter_cons_of_neg (by simp [own]), ← List.filter_append]
  exact List.filter_eq_self.mpr fun other member => by simp [others other member]

theorem members_update {id : Nat} {mailbox : Mailbox} {before behind : List Mailbox}
    (members : hub.members = before ++ mailbox :: behind) (own : mailbox.id = id)
    (others : ∀ other ∈ before ++ behind, other.id ≠ id) (change : Mailbox → Mailbox) :
    (hub.update id change).members = before ++ change mailbox :: behind := by
  have kept (part : List Mailbox) (inside : ∀ other ∈ part, other ∈ before ++ behind) :
      part.map (fun mailbox => if mailbox.id = id then change mailbox else mailbox) = part := by
    refine (List.map_congr_left fun other member => ?_).trans (List.map_id part)
    exact if_neg (others other (inside other member))
  change hub.members.map _ = _
  rw [members, List.map_append, List.map_cons, if_pos own,
    kept before fun _ => List.mem_append_left _, kept behind fun _ => List.mem_append_right _]

theorem pending_leave (distinct : hub.ids.Nodup) {id : Nat} {mailbox : Mailbox}
    (found : hub.member? id = some mailbox) :
    (hub.leave id).pending + mailbox.frames.length = hub.pending ∧
      (hub.leave id).size + 1 = hub.size := by
  obtain ⟨before, behind, members, others⟩ := split_member distinct found
  have left := members_leave members (id_of_member? found) others
  simp only [pending_eq, size, left, members, List.map_append, List.map_cons, List.sum_append,
    List.sum_cons, List.length_append, List.length_cons]
  omega

theorem pending_received (distinct : hub.ids.Nodup) {id : Nat} {mailbox : Mailbox}
    (found : hub.member? id = some mailbox) {captured : Captured} {rest : List Captured}
    (waiting : mailbox.frames = captured :: rest) :
    (hub.update id fun mailbox => { mailbox with frames := rest }).pending + 1 = hub.pending := by
  obtain ⟨before, behind, members, others⟩ := split_member distinct found
  have next := members_update members (id_of_member? found) others fun mailbox =>
    { mailbox with frames := rest }
  have replaced := pending_replace members next
  rw [waiting] at replaced
  exact Nat.add_right_cancel ((Nat.add_right_comm _ _ _).trans replaced)

end Frames

theorem ids_leave (hub : Hub) (id : Nat) : (hub.leave id).ids = hub.ids.filter (· ≠ id) := by
  rw [ids, ids, List.filter_map]
  rfl

/-- The hub is as its books say. -/
structure Balanced (hub : Hub) (ledger : HubLedger) : Prop where
  numbered : hub.Numbered
  below : ∀ id ∈ ledger.opened, id < hub.nextId
  distinct : ledger.opened.Nodup
  known : ∀ id ∈ ledger.closed, id ∈ ledger.opened
  survivors : hub.ids = ledger.opened.filter (· ∉ ledger.closed)
  members : hub.size + ledger.closed.length = ledger.opened.length
  frames : hub.pending + ledger.received + ledger.lost = ledger.slotted

theorem balanced_ofDevice (device : String) : (ofDevice device).Balanced {} where
  numbered := numbered_reachable (.ofDevice device)
  below := nofun
  distinct := .nil
  known := nofun
  survivors := rfl
  members := rfl
  frames := rfl

section Steps

variable {ledger : HubLedger} (balanced : hub.Balanced ledger)
include balanced

theorem balanced_same {next : Hub} {entered : HubLedger} (ids : next.ids = hub.ids)
    (nextId : next.nextId = hub.nextId) (opened : entered.opened = ledger.opened)
    (closed : entered.closed = ledger.closed)
    (frames : next.pending + entered.received + entered.lost = entered.slotted) :
    next.Balanced entered where
  numbered := balanced.numbered.congr ids nextId
  below := by rw [opened, nextId]; exact balanced.below
  distinct := by rw [opened]; exact balanced.distinct
  known := by rw [opened, closed]; exact balanced.known
  survivors := by rw [opened, closed, ids]; exact balanced.survivors
  members := by rw [opened, closed, ← length_ids, ids, length_ids]; exact balanced.members
  frames := frames

theorem balanced_openChannel (device : String) (group : UInt16) :
    (hub.openChannel device group).2.Balanced (ledger.enter hub (.openChannel device group)) := by
  have numbered := numbered_openChannel balanced.numbered device group
  rcases hub.openChannel_cases device group with
    ⟨-, failure, opened⟩ | ⟨-, opened⟩ | ⟨-, after, opened, -⟩
  all_goals
    rw [opened] at numbered ⊢
    simp only [HubLedger.enter, opened]
  next => exact balanced
  next => exact balanced_same balanced rfl rfl rfl rfl balanced.frames
  next =>
    have members := (opened_channel opened).2
    have ids : after.ids = hub.ids ++ [hub.nextId] := by
      rw [Hub.ids, members, List.map_append]
      rfl
    have less : hub.nextId < after.nextId := numbered.given _ (by simp [ids])
    have fresh : hub.nextId ∉ ledger.opened := fun old => Nat.lt_irrefl _ (balanced.below _ old)
    refine ⟨numbered, ?_, ?_, ?_, ?_, ?_, ?_⟩
    next =>
      intro id member
      rcases List.mem_append.mp member with old | new
      next => exact (balanced.below id old).trans less
      next => rwa [List.mem_singleton.mp new]
    next =>
      refine List.nodup_append.mpr ⟨balanced.distinct, List.nodup_singleton _, ?_⟩
      rintro id old other new rfl
      exact fresh (List.mem_singleton.mp new ▸ old)
    next => exact fun id member => List.mem_append_left _ (balanced.known id member)
    next =>
      have still : hub.nextId ∉ ledger.closed := fun closed => fresh (balanced.known _ closed)
      rw [ids, balanced.survivors, List.filter_append, List.filter_cons_of_pos (by simpa using still)]
      rfl
    next =>
      have before := balanced.members
      simp only [size, members, List.length_append, List.length_singleton] at before ⊢
      omega
    next =>
      have before := balanced.frames
      simpa [pending_eq, members] using before

theorem balanced_leave (id : Nat) : (hub.leave id).Balanced (ledger.enter hub (.leave id)) := by
  cases found : hub.member? id with
  | none =>
    have others : ∀ mailbox ∈ hub.members, mailbox.id ≠ id := by
      intro mailbox member
      simpa using List.find?_eq_none.mp found mailbox member
    have same : (hub.leave id).members = hub.members :=
      List.filter_eq_self.mpr fun mailbox member => by simp [others mailbox member]
    have pending : (hub.leave id).pending = hub.pending := by rw [pending_eq, pending_eq, same]
    simp only [HubLedger.enter, found]
    exact balanced_same balanced (congrArg (List.map Mailbox.id) same) rfl rfl rfl
      (pending ▸ balanced.frames)
  | some mailbox =>
    obtain ⟨frames, members⟩ := pending_leave balanced.numbered.distinct found
    have here : id ∈ hub.ids := by
      rw [← id_of_member? found]
      exact List.mem_map_of_mem (List.mem_of_find?_eq_some found)
    have opened : id ∈ ledger.opened := List.mem_of_mem_filter (balanced.survivors ▸ here)
    simp only [HubLedger.enter, found]
    refine ⟨numbered_leave balanced.numbered id, balanced.below, balanced.distinct, ?_, ?_, ?_, ?_⟩
    next =>
      intro other member
      rcases List.mem_append.mp member with old | new
      next => exact balanced.known other old
      next => rwa [List.mem_singleton.mp new]
    next =>
      rw [ids_leave, balanced.survivors, List.filter_filter]
      refine List.filter_congr fun other _ => ?_
      by_cases same : other = id <;> simp [same]
    next =>
      have before := balanced.members
      change _ + (ledger.closed ++ [id]).length = ledger.opened.length
      rw [List.length_append, List.length_singleton]
      omega
    next =>
      have before := balanced.frames
      change _ + ledger.received + (ledger.lost + mailbox.frames.length) = ledger.slotted
      omega

theorem balanced_inject (captured : Captured) :
    (hub.inject captured).2.Balanced (ledger.enter hub (.inject captured)) := by
  have before := balanced.frames
  have pending := hub.pending_inject captured
  cases slot : (hub.inject captured).1 with
  | none =>
    simp only [HubLedger.enter, slot, Option.isSome_none, Bool.false_eq_true, if_false] at pending ⊢
    exact balanced_same balanced (ids_inject hub captured) (nextId_inject hub captured) rfl rfl
      (pending ▸ before)
  | some slot' =>
    simp only [HubLedger.enter, slot, Option.isSome_some, if_true, Bool.toNat_true] at pending ⊢
    refine balanced_same balanced (ids_inject hub captured) (nextId_inject hub captured) rfl rfl ?_
    change _ + ledger.received + ledger.lost = ledger.slotted + 1
    omega

theorem balanced_receive (id : Nat) :
    (hub.receive id).2.Balanced (ledger.enter hub (.receive id)) := by
  rcases hub.receive_cases id with ⟨mailbox, captured, rest, found, -, waiting, received⟩ | received |
    received
  all_goals simp only [HubLedger.enter, received]
  next =>
    have before := balanced.frames
    have pending := pending_received balanced.numbered.distinct found waiting
    refine balanced_same balanced (ids_update hub id fun _ => rfl) rfl rfl rfl ?_
    change _ + (ledger.received + 1) + ledger.lost = ledger.slotted
    omega
  next => exact balanced
  next => exact balanced

theorem balanced_perform (call : HubCall) :
    (hub.perform call).2.Balanced (ledger.enter hub call) := by
  cases call with
  | openChannel device group => exact balanced_openChannel balanced device group
  | limit joins => exact balanced_same balanced rfl rfl rfl rfl balanced.frames
  | inject captured => exact balanced_inject balanced captured
  | receive id => exact balanced_receive balanced id
  | wake id =>
    refine balanced_same balanced (ids_wake hub id) rfl rfl rfl ?_
    exact (pending_wake hub id).symm ▸ balanced.frames
  | leave id => exact balanced_leave balanced id

end Steps

theorem balanced_account {ledger : HubLedger} (balanced : hub.Balanced ledger) (calls : List HubCall) :
    (hub.after calls).Balanced (hub.account ledger calls) := by
  induction calls generalizing hub ledger with
  | nil => exact balanced
  | cons call rest ih => exact ih (balanced_perform balanced call)

section Budget

variable {device : String} {group : UInt16}

theorem openChannel_of_not_admits (refused : hub.admits device group = false) :
    ∃ failure, hub.openChannel device group = (.error failure, hub) := by
  by_cases own : device = hub.device
  next =>
    cases bound : hub.group with
    | none => simp [admits, own, bound] at refused
    | some other =>
      have different : other ≠ group := by simpa [admits, own, bound] using refused
      refine ⟨.fanoutJoinFailed group ⟨boundMessage other⟩, ?_⟩
      rw [openChannel, if_neg (not_not.mpr own), bind, bound]
      simp only [if_neg different]
  next => exact ⟨_, if_pos own⟩

theorem openChannel_of_admits (admitted : hub.admits device group = true) :
    (hub.openChannel device group).1 =
        (if hub.budget = some 0 then .error (.fanoutJoinFailed group ⟨"join rejected"⟩)
        else .ok hub.nextId) ∧
      (hub.openChannel device group).2.budget = hub.budget.map (· - 1) := by
  simp only [admits, Bool.and_eq_true, decide_eq_true_eq] at admitted
  obtain ⟨own, free⟩ := admitted
  have binds : hub.bind group = .ok { hub with group := some group } := by
    unfold bind
    split
    next other bound =>
      have same : other = group := by simpa [bound] using free
      rw [if_pos same, ← same, ← bound]
    next => rfl
  rw [openChannel, if_neg (not_not.mpr own), binds]
  simp only [spend]
  cases hub.budget with
  | none => exact ⟨rfl, rfl⟩
  | some left => cases left <;> exact ⟨rfl, rfl⟩

theorem budget_perform (hub : Hub) (call : HubCall) (kept : ∀ joins, call ≠ .limit joins) :
    (hub.perform call).2.budget = hub.budget.map (· - (hub.tries call).toNat) := by
  have same : hub.budget = hub.budget.map (· - 0) := Option.map_id'.symm
  cases call with
  | openChannel device group =>
    cases admitted : hub.admits device group with
    | true =>
      rw [tries, admitted]
      exact (openChannel_of_admits admitted).2
    | false =>
      obtain ⟨failure, refused⟩ := openChannel_of_not_admits admitted
      rw [tries, admitted, perform, refused]
      exact same
  | limit joins => exact absurd rfl (kept joins)
  | inject captured => exact (congrArg Hub.budget (hub.inject_eq captured)).trans same
  | receive id => exact (congrArg Hub.budget (hub.receive_eq id)).trans same
  | wake id => exact same
  | leave id => exact same

theorem budget_after (hub : Hub) {calls : List HubCall} (kept : ∀ joins, HubCall.limit joins ∉ calls) :
    (hub.after calls).budget = hub.budget.map (· - hub.attempts calls) := by
  induction calls generalizing hub with
  | nil => exact Option.map_id'.symm
  | cons call rest ih =>
    have later := ih (hub.perform call).2 fun joins member =>
      kept joins (List.mem_cons_of_mem _ member)
    have first := hub.budget_perform call fun joins same => kept joins (same ▸ List.mem_cons_self)
    rw [first, Option.map_map] at later
    refine later.trans (congrArg (Option.map · hub.budget) (funext fun left => ?_))
    exact Nat.sub_sub left _ _

theorem join_within_limit (hub : Hub) (joins : UInt64) {calls : List HubCall}
    (kept : ∀ joins, HubCall.limit joins ∉ calls) :
    let start := (hub.perform (.failJoinsAfter joins)).2
    (start.after calls).admits device group = true →
      ((start.after calls).openChannel device group).1 =
        if joins.toNat = 2 ^ 64 - 1 ∨ start.attempts calls < joins.toNat then
          .ok (start.after calls).nextId
        else .error (.fanoutJoinFailed group ⟨"join rejected"⟩) := by
  intro start admitted
  have budget : start.budget = if joins.toNat = 2 ^ 64 - 1 then none else some joins.toNat := rfl
  rw [(openChannel_of_admits admitted).1, budget_after start kept, budget]
  by_cases most : joins.toNat = 2 ^ 64 - 1
  next => simp only [most, if_true, Option.map_none, true_or, reduceCtorEq, if_false]
  next =>
    simp only [most, if_false, Option.map_some, false_or, Option.some.injEq]
    by_cases few : start.attempts calls < joins.toNat
    next => rw [if_pos few, if_neg (by omega)]
    next => rw [if_neg few, if_pos (by omega)]

end Budget

/-- Over every history of a hub. Its members are as many as were opened less those that were closed, no
number is given out twice, and the slots are the channels that are left in the order in which they
joined. Closing a channel removes it and no other, with the frames that wait in it. Every frame that was
given a slot waits, was received or was lost with its channel. After a limit the joins that succeed are
the first ones that are tried, as many as it says, if it is not the largest number; the others are
rejected. A channel that is refused for its device or group leaves the hub as it was. -/
theorem books_balance (device : String) (calls : List HubCall) :
    let hub := (ofDevice device).after calls
    let ledger := (ofDevice device).account {} calls
    (hub.size + ledger.closed.length = ledger.opened.length ∧ ledger.opened.Nodup ∧
        hub.ids = ledger.opened.filter (· ∉ ledger.closed)) ∧
      (∀ id, (hub.leave id).ids = hub.ids.filter (· ≠ id) ∧
        (∀ other, other ≠ id → (hub.leave id).member? other = hub.member? other) ∧
        ∀ mailbox, hub.member? id = some mailbox →
          (hub.leave id).pending + mailbox.frames.length = hub.pending) ∧
      hub.pending + ledger.received + ledger.lost = ledger.slotted ∧
      ∀ joins more, (∀ other, HubCall.limit other ∉ more) →
        let start := (hub.perform (.failJoinsAfter joins)).2
        let now := start.after more
        ∀ name group,
          (now.admits name group = true → (now.openChannel name group).1 =
            if joins.toNat = 2 ^ 64 - 1 ∨ start.attempts more < joins.toNat then .ok now.nextId
            else .error (.fanoutJoinFailed group ⟨"join rejected"⟩)) ∧
          (now.admits name group = false →
            ∃ failure, now.openChannel name group = (.error failure, now)) := by
  intro hub ledger
  have balanced : hub.Balanced ledger := balanced_account (balanced_ofDevice device) calls
  refine ⟨⟨balanced.members, balanced.distinct, balanced.survivors⟩, ?_, balanced.frames, ?_⟩
  next =>
    exact fun id => ⟨ids_leave hub id, fun other different => member?_leave hub different,
      fun mailbox found => (pending_leave balanced.numbered.distinct found).1⟩
  next =>
    intro joins more kept start now name group
    exact ⟨join_within_limit hub joins kept, openChannel_of_not_admits⟩

-- A channel is opened, given a frame and closed with it.
def visit : List HubCall :=
  [.openChannel "syn0" 1, .inject (.of 0 0 []), .leave 0]

-- Two try to join while one may, and one comes to the wrong device. The first is closed again.
def rush : List HubCall :=
  [.openChannel "eth0" 1, .openChannel "syn0" 1, .openChannel "syn0" 1, .leave 1]

theorem rush_meets_limit :
    let hub := (ofDevice "syn0").after visit
    let start := (hub.perform (.failJoinsAfter 1)).2
    (ofDevice "syn0").account {} visit = ⟨[0], [0], 1, 0, 1⟩ ∧
      start.attempts rush = 2 ∧
      ((start.after rush).openChannel "syn0" 1).1 =
        .error (.fanoutJoinFailed 1 ⟨"join rejected"⟩) := by
  intro hub start
  have kept : ∀ joins, HubCall.limit joins ∉ rush := by
    intro joins member
    simp [rush] at member
  obtain ⟨-, -, -, limited⟩ := books_balance "syn0" visit
  refine ⟨rfl, rfl, ?_⟩
  exact (limited 1 rush kept "syn0" 1).1 (by decide)

end Hub

end FlowProbe
