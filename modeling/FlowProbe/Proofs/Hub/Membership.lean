import FlowProbe.Hub
import FlowProbe.Proofs.FlowKey
import Mathlib.Data.List.Nodup

set_option autoImplicit false

namespace FlowProbe.Hub

variable {hub : Hub}

def ids (hub : Hub) : List Nat :=
  hub.members.map Mailbox.id

@[simp] theorem length_ids (hub : Hub) : hub.ids.length = hub.size :=
  List.length_map _

/-- The hubs that come about, by any use of them. -/
inductive Reachable : Hub → Prop where
  | ofDevice (device : String) : Reachable (ofDevice device)
  | limit {hub : Hub} (joins : Option Nat) : Reachable hub → Reachable (hub.limit joins)
  | openChannel {hub : Hub} (device : String) (group : UInt16) :
      Reachable hub → Reachable (hub.openChannel device group).2
  | leave {hub : Hub} (id : Nat) : Reachable hub → Reachable (hub.leave id)
  | inject {hub : Hub} (captured : Captured) : Reachable hub → Reachable (hub.inject captured).2
  | receive {hub : Hub} (id : Nat) : Reachable hub → Reachable (hub.receive id).2
  | wake {hub : Hub} (id : Nat) : Reachable hub → Reachable (hub.wake id)

-- Numbers are given out in rising order, each once.
structure Numbered (hub : Hub) : Prop where
  rising : hub.ids.Pairwise (· < ·)
  given : ∀ id ∈ hub.ids, id < hub.nextId

theorem ids_update (hub : Hub) (id : Nat) {change : Mailbox → Mailbox}
    (same : ∀ mailbox, (change mailbox).id = mailbox.id) :
    (hub.update id change).ids = hub.ids := by
  simp only [ids, update, List.map_map]
  apply List.map_congr_left
  intro mailbox _
  by_cases own : mailbox.id = id <;> simp [own, same]

theorem getElem?_update (hub : Hub) (id slot : Nat) (change : Mailbox → Mailbox) :
    (hub.update id change).members[slot]? = hub.members[slot]?.map fun mailbox =>
      if mailbox.id = id then change mailbox else mailbox :=
  List.getElem?_map

theorem slot_inject (occupied : 0 < hub.size) (captured : Captured) :
    (hub.inject captured).1 = some (slotOf hub.size captured.bytes) := by
  have members : hub.members.isEmpty = false := by simpa using List.ne_nil_of_length_pos occupied
  simp [inject, members, size]

theorem slotOf_lt {members : Nat} (occupied : 0 < members) (bytes : List UInt8) :
    slotOf members bytes < members := by
  unfold slotOf
  split
  next packet _ => exact packet.key.slot_lt occupied
  next => exact occupied

theorem slotOf_parsed {members : Nat} {bytes : List UInt8} {packet : Packet}
    (parsed : Packet.parse? bytes = some packet) :
    slotOf members bytes = packet.key.slot members := by
  simp [slotOf, parsed]

theorem slotOf_refused {members : Nat} {bytes : List UInt8}
    (refused : Packet.parse? bytes = none) : slotOf members bytes = 0 := by
  simp [slotOf, refused]

theorem slotOf_eq (members : Nat) (bytes : List UInt8) :
    slotOf members bytes =
      (((Packet.parse? bytes).map Packet.key).map fun key => key.slot members).getD 0 := by
  unfold slotOf
  cases Packet.parse? bytes <;> rfl

theorem slot_congr (hub : Hub) {captured other : Captured}
    (same : (Packet.parse? captured.bytes).map Packet.key =
      (Packet.parse? other.bytes).map Packet.key) :
    (hub.inject captured).1 = (hub.inject other).1 := by
  have slots : slotOf hub.members.length captured.bytes = slotOf hub.members.length other.bytes := by
    rw [slotOf_eq, same, slotOf_eq]
  unfold inject
  split
  next => rfl
  next => exact congrArg some slots

theorem getElem?_inject (hub : Hub) (captured : Captured) (slot : Nat) :
    (hub.inject captured).2.members[slot]? = hub.members[slot]?.map fun mailbox =>
      if slotOf hub.size captured.bytes = slot then
        { mailbox with frames := mailbox.frames ++ [captured] }
      else mailbox := by
  unfold inject
  split
  next empty => simp [List.isEmpty_iff.mp empty]
  next => exact List.getElem?_modify _ _ _ _

theorem ids_inject (hub : Hub) (captured : Captured) :
    (hub.inject captured).2.ids = hub.ids := by
  apply List.ext_getElem?
  intro slot
  simp only [ids, List.getElem?_map, getElem?_inject, Option.map_map]
  congr 1
  funext mailbox
  by_cases chosen : slotOf hub.size captured.bytes = slot <;> simp [chosen]

theorem inject_eq (hub : Hub) (captured : Captured) :
    (hub.inject captured).2 = { hub with members := (hub.inject captured).2.members } := by
  unfold inject
  split <;> rfl

theorem nextId_inject (hub : Hub) (captured : Captured) :
    (hub.inject captured).2.nextId = hub.nextId := by
  rw [inject_eq]

-- A channel gets a frame only as long as it was not woken, and then the oldest one that waits.
theorem receive_cases (hub : Hub) (id : Nat) :
    (∃ mailbox captured rest, hub.member? id = some mailbox ∧ mailbox.woken = false ∧
      mailbox.frames = captured :: rest ∧
      hub.receive id = (.frame captured, hub.update id fun mailbox =>
        { mailbox with frames := rest })) ∨
    hub.receive id = (.nothing, hub) ∨ hub.receive id = (.ended none, hub) := by
  unfold receive
  cases found : hub.member? id with
  | none => exact .inr (.inl rfl)
  | some mailbox =>
    by_cases woken : mailbox.woken = true
    next => exact .inr (.inr (if_pos woken))
    next =>
      simp only [woken]
      cases frames : mailbox.frames with
      | nil => exact .inr (.inl rfl)
      | cons captured rest =>
        exact .inl ⟨mailbox, captured, rest, rfl, by simpa using woken, frames, rfl⟩

theorem ids_receive (hub : Hub) (id : Nat) : (hub.receive id).2.ids = hub.ids := by
  rcases receive_cases hub id with ⟨_, _, rest, _, _, _, received⟩ | received | received
  next => rw [received]; exact ids_update hub id fun _ => rfl
  next => rw [received]
  next => rw [received]

theorem receive_eq (hub : Hub) (id : Nat) :
    (hub.receive id).2 = { hub with members := (hub.receive id).2.members } := by
  rcases receive_cases hub id with ⟨_, _, rest, _, _, _, received⟩ | received | received
  next => rw [received]; rfl
  next => rw [received]
  next => rw [received]

theorem nextId_receive (hub : Hub) (id : Nat) : (hub.receive id).2.nextId = hub.nextId := by
  rw [receive_eq]

theorem ids_wake (hub : Hub) (id : Nat) : (hub.wake id).ids = hub.ids :=
  ids_update hub id fun _ => rfl

theorem Numbered.congr {after : Hub} (numbered : hub.Numbered) (ids : after.ids = hub.ids)
    (next : after.nextId = hub.nextId) : after.Numbered := by
  constructor
  next => rw [ids]; exact numbered.rising
  next => rw [ids, next]; exact numbered.given

theorem numbered_join (numbered : hub.Numbered) : hub.join.Numbered := by
  have extended : hub.join.ids = hub.ids ++ [hub.nextId] := by simp [ids, join]
  constructor
  next =>
    rw [extended, List.pairwise_append]
    refine ⟨numbered.rising, List.pairwise_singleton _ _, ?_⟩
    intro id old new fresh
    rw [List.mem_singleton.mp fresh]
    exact numbered.given id old
  next =>
    rw [extended]
    intro id member
    rcases List.mem_append.mp member with old | fresh
    next => exact Nat.lt_succ_of_lt (numbered.given id old)
    next => rw [List.mem_singleton.mp fresh]; exact Nat.lt_succ_self _

theorem bind_eq {bound : Hub} {group : UInt16} (binds : hub.bind group = .ok bound) :
    bound = { hub with group := some group } := by
  unfold bind at binds
  split at binds
  next other there =>
    split at binds
    next same =>
      cases binds
      rw [← same, ← there]
    next => exact nomatch binds
  next => exact (Except.ok.inj binds).symm

theorem bind_keeps {bound : Hub} {group : UInt16} (done : hub.bind group = .ok bound) :
    bound.members = hub.members ∧ bound.nextId = hub.nextId := by
  rw [bind_eq done]
  exact ⟨rfl, rfl⟩

theorem spend_keeps {spent : Hub} {group : UInt16} (done : hub.spend group = .ok spent) :
    spent.members = hub.members ∧ spent.nextId = hub.nextId := by
  unfold spend at done
  split at done
  next => cases done; exact ⟨rfl, rfl⟩
  next => cases done
  next => cases done; exact ⟨rfl, rfl⟩

theorem numbered_openChannel (numbered : hub.Numbered) (device : String) (group : UInt16) :
    (hub.openChannel device group).2.Numbered := by
  unfold openChannel
  split
  next => exact numbered
  next =>
    cases bound : hub.bind group with
    | error failure => exact numbered
    | ok hub' =>
      obtain ⟨members, next⟩ := bind_keeps bound
      have numbered' : hub'.Numbered := numbered.congr (congrArg (List.map Mailbox.id) members) next
      cases spent : hub'.spend group with
      | error failure => simp only [spent]; exact numbered'
      | ok hub'' =>
        simp only [spent]
        obtain ⟨members, next⟩ := spend_keeps spent
        exact numbered_join (numbered'.congr (congrArg (List.map Mailbox.id) members) next)

theorem opened_channel {device : String} {group : UInt16} {channel : Nat} {after : Hub}
    (opened : hub.openChannel device group = (.ok channel, after)) :
    channel = hub.nextId ∧ after.members = hub.members ++ [⟨hub.nextId, [], false⟩] := by
  unfold openChannel at opened
  split at opened
  next => exact nomatch opened
  next =>
    split at opened
    next => exact nomatch opened
    next bound binds =>
      split at opened
      next => exact nomatch opened
      next spent spends =>
        cases opened
        obtain ⟨members, next⟩ := bind_keeps binds
        obtain ⟨members', next'⟩ := spend_keeps spends
        exact ⟨next'.trans next, by rw [join, members', members, next', next]⟩

theorem numbered_leave (numbered : hub.Numbered) (id : Nat) : (hub.leave id).Numbered := by
  have fewer : (hub.leave id).ids.Sublist hub.ids := List.filter_sublist.map _
  constructor
  next => exact numbered.rising.sublist fewer
  next => exact fun id member => numbered.given id (fewer.subset member)

theorem numbered_reachable (reachable : hub.Reachable) : hub.Numbered := by
  induction reachable with
  | ofDevice device => exact ⟨.nil, nofun⟩
  | limit joins _ ih => exact ih.congr rfl rfl
  | openChannel device group _ ih => exact numbered_openChannel ih device group
  | leave id _ ih => exact numbered_leave ih id
  | inject captured _ ih => exact ih.congr (ids_inject _ _) (nextId_inject _ _)
  | receive id _ ih => exact ih.congr (ids_receive _ _) (nextId_receive _ _)
  | wake id _ ih => exact ih.congr (ids_wake _ _) rfl

theorem Numbered.distinct (numbered : hub.Numbered) : hub.ids.Nodup :=
  numbered.rising.imp Nat.ne_of_lt

theorem id_of_member? {id : Nat} {mailbox : Mailbox} (found : hub.member? id = some mailbox) :
    mailbox.id = id := by
  simpa using List.find?_some found

theorem member?_at (distinct : hub.ids.Nodup) {slot : Nat} {mailbox : Mailbox}
    (here : hub.members[slot]? = some mailbox) : hub.member? mailbox.id = some mailbox := by
  have member := List.mem_of_getElem? here
  cases found : hub.member? mailbox.id with
  | none =>
    have absent := List.find?_eq_none.mp found mailbox member
    simp at absent
  | some other =>
    have same := id_of_member? found
    rw [List.inj_on_of_nodup_map distinct (List.mem_of_find?_eq_some found) member same]

theorem member?_of_ids (distinct : hub.ids.Nodup) {slot id : Nat}
    (here : hub.ids[slot]? = some id) :
    ∃ mailbox, hub.members[slot]? = some mailbox ∧ hub.member? id = some mailbox := by
  rw [ids, List.getElem?_map] at here
  obtain ⟨mailbox, there, same⟩ := Option.map_eq_some_iff.mp here
  exact ⟨mailbox, there, same ▸ member?_at distinct there⟩

theorem member?_update (hub : Hub) (id other : Nat) {change : Mailbox → Mailbox}
    (same : ∀ mailbox, (change mailbox).id = mailbox.id) :
    (hub.update id change).member? other = (hub.member? other).map fun mailbox =>
      if mailbox.id = id then change mailbox else mailbox := by
  unfold member? update
  rw [List.find?_map]
  congr 2
  funext mailbox
  by_cases own : mailbox.id = id <;> simp [own, same]

theorem member?_withFrames (hub : Hub) (id other : Nat) (frames : List Captured) :
    (hub.update id fun mailbox => { mailbox with frames }).member? other =
      (hub.member? other).map fun mailbox =>
        if mailbox.id = id then { mailbox with frames } else mailbox :=
  hub.member?_update id other fun _ => rfl

theorem member?_leave (hub : Hub) {id other : Nat} (different : other ≠ id) :
    (hub.leave id).member? other = hub.member? other := by
  unfold member? leave
  rw [List.find?_filter]
  congr 1
  funext mailbox
  by_cases own : mailbox.id = other <;> simp [own, different]

theorem exists_oldest (hub : Hub) (rising : hub.ids.Pairwise (· < ·)) (occupied : 0 < hub.size) :
    ∃ oldest, hub.members[0]? = some oldest ∧ ∀ id ∈ hub.ids, oldest.id ≤ id := by
  obtain ⟨oldest, rest, members⟩ := List.exists_cons_of_length_pos occupied
  refine ⟨oldest, by rw [members]; rfl, ?_⟩
  intro id member
  rw [ids, members, List.map_cons] at rising member
  rcases List.mem_cons.mp member with same | later
  next => exact Nat.le_of_eq same.symm
  next => exact Nat.le_of_lt ((List.pairwise_cons.mp rising).1 id later)

end FlowProbe.Hub
