import FlowProbe.Proofs.Hub.Membership
import FlowProbe.Proofs.Meter.Stretch
import Mathlib.Data.List.Pairwise

set_option autoImplicit false

namespace FlowProbe

/-- Any two of the frames were captured in less than the span of each other. -/
def Captured.Close (span : Nanos) (frames : List Captured) : Prop :=
  frames.Pairwise fun one other =>
    one.time < other.time + span ∧ other.time < one.time + span

theorem Captured.positive_of_near {one other span : Nat}
    (near : one < other + span ∧ other < one + span) : 0 < span := by
  omega

theorem Captured.near_of_close {span : Nat} {frames : List Captured} (positive : 0 < span)
    (close : Captured.Close span frames) :
    ∀ one ∈ frames, ∀ other ∈ frames, other.time < one.time + span := by
  have flipped : frames.Pairwise fun one other =>
      other.time < one.time + span ∧ one.time < other.time + span := close.imp And.symm
  have self : ∀ one ∈ frames, one.time < one.time + span ∧ one.time < one.time + span := fun _ _ =>
    ⟨Nat.lt_add_of_pos_right positive, Nat.lt_add_of_pos_right positive⟩
  intro one here other there
  exact (close.forall_of_forall_of_flip self flipped here there).2

theorem Report.ofKey_flatMap {α : Type} (key : FlowKey) (items : List α)
    (reports : α → List Report) :
    ofKey key (items.flatMap reports) = items.flatMap fun item => ofKey key (reports item) := by
  simp only [ofKey, Fibers.part, List.map_flatMap, List.filter_flatMap]

theorem MeterCall.exists_frame {frames : List Captured} {sighting : Sighting}
    (seen : sighting ∈ MeterCall.sightings (frames.map .process)) :
    ∃ captured ∈ frames, sighting.time = captured.time := by
  obtain ⟨call, member, shown⟩ := List.mem_filterMap.mp seen
  obtain ⟨captured, here, rfl⟩ := List.mem_map.mp member
  obtain ⟨packet, -, rfl⟩ := Option.map_eq_some_iff.mp shown
  exact ⟨captured, here, rfl⟩

namespace Meter

-- A single frame is too early for a scan, and may come with a timeout of zero.
theorem frame_course (config : MeterConfig) (supply : Nat → Uuid) (captured : Captured) (key : FlowKey) :
    (((empty config supply).process captured).1.flowAt key,
        Report.ofKey key ((empty config supply).process captured).2) =
      Course.run config none (MeterCall.sightingsOf key [.process captured]) := by
  cases parsed : Packet.parse? captured.bytes with
  | none =>
    rw [process_unparsed _ captured parsed, MeterCall.sightingsOf_unparsed key parsed]
    rfl
  | some packet =>
    have fresh : (empty config supply).table = [] := rfl
    exact process_awake (explained_fresh _ fresh []).1 (named_after fresh []) parsed
      fun due => absurd due (by decide : ¬scanInterval ≤ 0 + 1)

theorem sitting_course (config : MeterConfig) (supply : Nat → Uuid) {frames : List Captured}
    (close : Captured.Close config.idleTimeout frames) (key : FlowKey) :
    Report.ofKey key ((empty config supply).reports (sitting frames)) =
      Course.reports config (MeterCall.sightingsOf key (frames.map .process)) := by
  have fresh : (empty config supply).table = [] := rfl
  match frames with
  | [] => exact sitting_of_run fresh [] rfl
  | [captured] =>
    have course := frame_course config supply captured key
    refine sitting_of_run fresh [] ?_
    rw [← List.append_nil (Meter.process _ _).2] at course
    exact course
  | first :: second :: rest =>
    have positive : 0 < config.idleTimeout :=
      Captured.positive_of_near ((List.pairwise_cons.mp close).1 second List.mem_cons_self)
    have absent : ((empty config supply).after []).table.find? key = none := rfl
    refine sitting_stretch fresh positive absent (first :: second :: rest) fun own here other there => ?_
    obtain ⟨frame, member, time⟩ := MeterCall.exists_frame (List.mem_filter.mp here).1
    obtain ⟨frame', member', time'⟩ := MeterCall.exists_frame there
    rw [time, time']
    exact Captured.near_of_close positive close frame member frame' member'

/-- The frames that a group of the given size hands to one of its members. -/
def share (members slot : Nat) (frames : List Captured) : List Captured :=
  Fibers.part (fun captured => Hub.slotOf members captured.bytes) slot frames

theorem sightingsOf_elsewhere {members : Nat} {key : FlowKey} {captured : Captured}
    (elsewhere : Hub.slotOf members captured.bytes ≠ key.slot members) :
    MeterCall.sightingsOf key [.process captured] = [] := by
  cases parsed : Packet.parse? captured.bytes with
  | none => exact MeterCall.sightingsOf_unparsed key parsed
  | some packet =>
    have other : packet.key ≠ key := by
      intro same
      apply elsewhere
      rw [Hub.slotOf_parsed parsed, same]
    rw [MeterCall.sightingsOf_parsed key parsed, if_neg other]

theorem sightingsOf_share (members slot : Nat) (key : FlowKey) (frames : List Captured) :
    MeterCall.sightingsOf key ((share members slot frames).map .process) =
      if slot = key.slot members then MeterCall.sightingsOf key (frames.map .process) else [] := by
  induction frames with
  | nil => simp [share, Fibers.part, MeterCall.sightingsOf, MeterCall.sightings]
  | cons captured rest ih =>
    rw [List.map_cons, MeterCall.sightingsOf_cons]
    by_cases chosen : Hub.slotOf members captured.bytes = slot
    next =>
      have taken : share members slot (captured :: rest) = captured :: share members slot rest := by
        simp [share, Fibers.part, chosen]
      rw [taken, List.map_cons, MeterCall.sightingsOf_cons, ih]
      by_cases own : slot = key.slot members
      next => simp [own]
      next => simp [own, sightingsOf_elsewhere (chosen ▸ own)]
    next =>
      have left : share members slot (captured :: rest) = share members slot rest := by
        simp [share, Fibers.part, chosen]
      rw [left, ih]
      by_cases own : slot = key.slot members
      next => simp [own, sightingsOf_elsewhere (own ▸ chosen)]
      next => simp [own]

theorem shares_report (config : MeterConfig) (supplies : Nat → Nat → Uuid) (supply : Nat → Uuid)
    {members : Nat} (occupied : 0 < members) {frames : List Captured}
    (close : Captured.Close config.idleTimeout frames) :
    (((List.range members).flatMap fun slot =>
        (empty config (supplies slot)).reports (sitting (share members slot frames))).map
      Report.unnamed).Perm
      (((empty config supply).reports (sitting frames)).map Report.unnamed) := by
  -- Key by key: one of the meters has seen all packets of the key, the others none.
  apply Fibers.perm_of_parts fun report => report.flow.key
  intro key
  let course := Course.reports config (MeterCall.sightingsOf key (frames.map .process))
  have each (slot : Nat) : Report.ofKey key
      ((empty config (supplies slot)).reports (sitting (share members slot frames))) =
        if slot = key.slot members then course else [] := by
    have fewer : Captured.Close config.idleTimeout (share members slot frames) :=
      close.sublist List.filter_sublist
    rw [sitting_course config (supplies slot) fewer, sightingsOf_share]
    split
    next => rfl
    next => rfl
  have together : Report.ofKey key ((List.range members).flatMap fun slot =>
      (empty config (supplies slot)).reports (sitting (share members slot frames))) = course := by
    simp only [Report.ofKey_flatMap, each]
    rw [Fibers.flatMap_range_single, if_pos (key.slot_lt occupied)]
  have alone : Report.ofKey key ((empty config supply).reports (sitting frames)) = course :=
    sitting_course config supply close key
  exact .of_eq (together.trans alone.symm)

end Meter

end FlowProbe
