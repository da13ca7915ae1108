import FlowProbe.Proofs.Hub.Membership
import Mathlib.Data.UInt

set_option autoImplicit false

namespace FlowProbe

-- What can be done with a hub and its channels.
inductive HubCall where
  | openChannel (device : String) (group : UInt16)
  | limit (joins : Option Nat)
  | inject (captured : Captured)
  | receive (id : Nat)
  | wake (id : Nat)
  | leave (id : Nat)

inductive HubResult where
  | opened (answer : Except CaptureFailure Nat)
  | done
  | injected (slot : Option Nat)
  | received (receipt : Receipt)

-- What shows after a call.
structure HubAnswer where
  result : HubResult
  size : Nat
  pending : Nat

namespace Hub

def perform (hub : Hub) : HubCall → HubResult × Hub
  | .openChannel device group =>
    (.opened (hub.openChannel device group).1, (hub.openChannel device group).2)
  | .limit joins => (.done, hub.limit joins)
  | .inject captured => (.injected (hub.inject captured).1, (hub.inject captured).2)
  | .receive id => (.received (hub.receive id).1, (hub.receive id).2)
  | .wake id => (.done, hub.wake id)
  | .leave id => (.done, hub.leave id)

def after (hub : Hub) (calls : List HubCall) : Hub :=
  calls.foldl (fun hub call => (hub.perform call).2) hub

def answers : Hub → List HubCall → List HubAnswer
  | _, [] => []
  | hub, call :: calls =>
    let next := (hub.perform call).2
    ⟨(hub.perform call).1, next.size, next.pending⟩ :: next.answers calls

/-- A join that is refused for the budget, at a hub that is not bound. -/
def BindsInVain (hub : Hub) : HubCall → Prop
  | .openChannel device _ => device = hub.device ∧ hub.group = none ∧ hub.budget = some 0
  | _ => False

variable {hub : Hub} {stray : Prop}

theorem openChannel_cases (hub : Hub) (device : String) (group : UInt16) :
    (¬ hub.BindsInVain (.openChannel device group) ∧
      ∃ failure, hub.openChannel device group = (.error failure, hub)) ∨
    (hub.BindsInVain (.openChannel device group) ∧
      hub.openChannel device group =
        (.error (.fanoutJoinFailed group ⟨"join rejected"⟩), { hub with group := some group })) ∨
    (¬ hub.BindsInVain (.openChannel device group) ∧
      ∃ after, hub.openChannel device group = (.ok hub.nextId, after) ∧
        after.group = some group ∧ after.members ≠ []) := by
  by_cases own : device = hub.device
  next =>
    cases binds : hub.bind group with
    | error failure =>
      refine .inl ⟨?_, failure, by simp [openChannel, own, binds]⟩
      rintro ⟨-, unbound, -⟩
      simp [bind, unbound] at binds
    | ok bound =>
      have same := bind_eq binds
      cases budget : hub.budget with
      | none =>
        refine .inr (.inr ⟨by simp [BindsInVain, budget], ?_⟩)
        simp [openChannel, own, binds, same, spend, budget, join]
      | some left =>
        cases left with
        | succ left =>
          refine .inr (.inr ⟨by simp [BindsInVain, budget], ?_⟩)
          simp [openChannel, own, binds, same, spend, budget, join]
        | zero =>
          cases present : hub.group with
          | none =>
            refine .inr (.inl ⟨⟨own, present, budget⟩, ?_⟩)
            simp [openChannel, own, binds, same, spend, budget]
          | some other =>
            -- A hub that is bound to the group already stays as it is.
            refine .inl ⟨by simp [BindsInVain, present], ?_⟩
            have unchanged : bound = hub := by
              simp only [bind, present] at binds
              split at binds
              next => exact (Except.ok.inj binds).symm
              next => cases binds
            simp [openChannel, own, binds, unchanged, spend, budget]
  next =>
    refine .inl ⟨fun vain => own vain.1, ?_⟩
    simp [openChannel, own]

structure Tied (hub : Hub) (stray : Prop) : Prop where
  bound : hub.members ≠ [] → hub.group.isSome
  joined : hub.group.isSome → hub.members ≠ [] ∨ stray

theorem tied_congr {after : Hub} (tied : hub.Tied stray) (ids : after.ids = hub.ids)
    (group : after.group = hub.group) : after.Tied stray := by
  have empty : after.members = [] ↔ hub.members = [] := by
    rw [← List.map_eq_nil_iff (f := Mailbox.id), ← List.map_eq_nil_iff (f := Mailbox.id)]
    exact iff_of_eq (congrArg (· = []) ids)
  constructor
  next => exact fun some => group ▸ tied.bound (mt empty.mpr some)
  next => exact fun bound => (tied.joined (group ▸ bound)).imp_left (mt empty.mp)

theorem tied_leave (tied : hub.Tied stray) (id : Nat) : (hub.leave id).Tied stray := by
  cases left : (hub.leave id).members with
  | nil =>
    have freed : (hub.leave id).group = none := if_pos (List.isEmpty_iff.mpr left)
    exact ⟨absurd left, by simp [freed]⟩
  | cons mailbox rest =>
    have occupied : ¬ (hub.leave id).members.isEmpty = true := by simp [left]
    have kept : (hub.leave id).group = hub.group := if_neg occupied
    have before : hub.members ≠ [] := by
      intro none
      simp [leave, none] at left
    exact ⟨fun _ => kept ▸ tied.bound before, fun _ => .inl (left ▸ nofun)⟩

theorem tied_perform (tied : hub.Tied stray) (call : HubCall) :
    (hub.perform call).2.Tied (stray ∨ hub.BindsInVain call) := by
  have weaker {hub : Hub} {other : Prop} (tied : hub.Tied stray) : hub.Tied (stray ∨ other) :=
    ⟨tied.bound, fun bound => (tied.joined bound).imp_right .inl⟩
  cases call with
  | openChannel device group =>
    rcases hub.openChannel_cases device group with
      ⟨-, failure, opened⟩ | ⟨vain, opened⟩ | ⟨-, after, opened, bound, joined⟩
    next => simpa only [perform, opened] using weaker tied
    next =>
      simp only [perform, opened]
      exact ⟨fun _ => rfl, fun _ => .inr (.inr vain)⟩
    next =>
      simp only [perform, opened]
      exact ⟨fun _ => by simp [bound], fun _ => .inl joined⟩
  | limit joins => exact weaker (tied_congr tied rfl rfl)
  | inject captured =>
    have group := congrArg Hub.group (hub.inject_eq captured)
    exact weaker (tied_congr tied (ids_inject hub captured) group)
  | receive id =>
    have group := congrArg Hub.group (hub.receive_eq id)
    exact weaker (tied_congr tied (ids_receive hub id) group)
  | wake id => exact weaker (tied_congr tied (ids_wake hub id) rfl)
  | leave id => exact weaker (tied_leave tied id)

/-- Some call of a run is a join that binds the hub in vain. -/
def Strays (hub : Hub) (calls : List HubCall) : Prop :=
  ∃ earlier call later, calls = earlier ++ call :: later ∧ (hub.after earlier).BindsInVain call

theorem tied_after (tied : hub.Tied stray) (calls : List HubCall) :
    (hub.after calls).Tied (stray ∨ hub.Strays calls) := by
  induction calls generalizing hub stray with
  | nil => exact ⟨tied.bound, fun bound => (tied.joined bound).imp_right .inl⟩
  | cons call rest ih =>
    obtain ⟨bound, joined⟩ := ih (tied_perform tied call)
    refine ⟨bound, fun some => (joined some).imp_right ?_⟩
    rintro ((before | vain) | ⟨earlier, other, later, split, vain⟩)
    next => exact .inl before
    next => exact .inr ⟨[], call, rest, rfl, vain⟩
    next => exact .inr ⟨call :: earlier, other, later, congrArg _ split, vain⟩

theorem tied_ofDevice (device : String) : (ofDevice device).Tied False :=
  ⟨absurd rfl, nofun⟩

theorem answers_stray {device : String} {group : UInt16}
    (vain : hub.BindsInVain (.openChannel device group)) :
    ∃ calls, answers { hub with group := some group } calls ≠ hub.answers calls := by
  obtain ⟨own, unbound, -⟩ := vain
  have other : group ≠ group + 1 := by simp
  refine ⟨[.limit none, .openChannel device (group + 1)], fun same => ?_⟩
  have results := congrArg (List.map HubAnswer.result) same
  simp [answers, perform, limit, openChannel, own, bind, unbound, other, spend] at results

/-- Whatever was done with a hub before. It is bound if anybody has joined, and a channel that is
refused leaves it as it was, so that nothing done later can tell, unless the join was refused for the
budget and nobody had joined: that binds the hub. Without such a join it is bound only if somebody has
joined. -/
theorem refused_channel_untraced (device : String) (calls : List HubCall) :
    let hub := (ofDevice device).after calls
    (hub.members ≠ [] → hub.group.isSome) ∧
      (¬ (ofDevice device).Strays calls → (hub.group.isSome ↔ hub.members ≠ [])) ∧
      ∀ name group failure after, hub.openChannel name group = (.error failure, after) →
        let call := HubCall.openChannel name group
        (¬ hub.BindsInVain call → after = hub) ∧
          (hub.BindsInVain call → hub.members = [] ∧ after = { hub with group := some group }) ∧
          ((∀ more, after.answers more = hub.answers more) ↔ ¬ hub.BindsInVain call) := by
  intro hub
  have tied : hub.Tied (False ∨ _) := tied_after (tied_ofDevice device) calls
  refine ⟨tied.bound, fun sober => ⟨fun bound => ?_, tied.bound⟩, ?_⟩
  next => exact (tied.joined bound).resolve_right (not_or_intro not_false sober)
  next =>
    intro name group failure after refused call
    rcases hub.openChannel_cases name group with
      ⟨sober, other, opened⟩ | ⟨vain, opened⟩ | ⟨-, other, opened, -⟩
    next =>
      have same : after = hub := (Prod.mk.inj (refused.symm.trans opened)).2
      exact ⟨fun _ => same, fun vain => absurd vain sober,
        iff_of_true (fun more => same ▸ rfl) sober⟩
    next =>
      have bound := (Prod.mk.inj (refused.symm.trans opened)).2
      have nobody : hub.members = [] := by
        by_contra joined
        simpa [vain.2.1] using tied.bound joined
      refine ⟨absurd vain, fun _ => ⟨nobody, bound⟩, iff_of_false (fun same => ?_) (not_not.mpr vain)⟩
      obtain ⟨more, differs⟩ := answers_stray vain
      exact differs (bound ▸ same more)
    next => exact nomatch refused.symm.trans opened

def attended : List HubCall := [.openChannel "syn0" 1]

theorem refused_group_untraced :
    ¬ (ofDevice "syn0").Strays attended ∧
      (((ofDevice "syn0").after attended).openChannel "syn0" 2).1 =
        .error (.fanoutJoinFailed 2 ⟨boundMessage 1⟩) ∧
      ∀ more, (((ofDevice "syn0").after attended).openChannel "syn0" 2).2.answers more =
        ((ofDevice "syn0").after attended).answers more := by
  have sober : ¬ (ofDevice "syn0").Strays attended := by
    rintro ⟨earlier, call, later, split, vain⟩
    cases earlier with
    | nil =>
      cases split
      exact nomatch vain.2.2
    | cons first rest => simp [attended] at split
  refine ⟨sober, rfl, ?_⟩
  have untraced := (refused_channel_untraced "syn0" attended).2.2 "syn0" 2
    (.fanoutJoinFailed 2 ⟨boundMessage 1⟩) _ rfl
  exact untraced.2.2.mpr fun vain => nomatch vain.2.1

-- A hub that no channel may join, before and after one has tried.
def barred : Hub := (ofDevice "syn0").limit (some 0)

def strayed : Hub := (barred.openChannel "syn0" 1).2

/-- The hub is bound although nobody has joined. When the budget is lifted, it turns a channel of
another group away. -/
theorem refused_first_join_binds :
    (barred.openChannel "syn0" 1).1 = .error (.fanoutJoinFailed 1 ⟨"join rejected"⟩) ∧
      strayed.members = [] ∧ strayed.group = some 1 ∧
      ((strayed.limit none).openChannel "syn0" 2).1 =
        .error (.fanoutJoinFailed 2 ⟨boundMessage 1⟩) ∧
      ((barred.limit none).openChannel "syn0" 2).1 = .ok 0 :=
  ⟨rfl, rfl, rfl, rfl, rfl⟩

end Hub

end FlowProbe
