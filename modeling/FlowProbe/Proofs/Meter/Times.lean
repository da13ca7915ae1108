import FlowProbe.Proofs.Meter.Account
import FlowProbe.Proofs.Meter.Gap
import FlowProbe.Proofs.Time.Moment

set_option autoImplicit false

namespace FlowProbe

namespace Lifetime

theorem first_le_lastSeen (life : Lifetime) : life.first.time ≤ life.lastSeen := by
  have grows (times : List Nanos) (latest : Nanos) : latest ≤ times.foldl max latest := by
    induction times generalizing latest with
    | nil => exact Nat.le_refl _
    | cons time rest ih => exact Nat.le_trans (Nat.le_max_left _ _) (ih _)
  exact Nat.le_trans (Nat.le_max_right 0 _) (grows _ _)

end Lifetime

namespace Meter

variable {meter : Meter} {calls : List MeterCall}

theorem exists_lifetime (fresh : meter.table = []) {report : Report}
    (member : report ∈ meter.reports calls) :
    ∃ life reported, report.flow = Lifetime.flow life reported ∧
      ∀ sighting ∈ life.sightings, sighting ∈ MeterCall.sightings calls := by
  obtain ⟨done, call, front, here⟩ := mem_reports member
  obtain ⟨earlier, since, split, -, first, later, reported, seen, equal⟩ :=
    shows_tells meter done (explained_fresh meter fresh done) call _ _ (report_shown fresh here)
  refine ⟨_, reported, equal, fun sighting counted => ?_⟩
  have own : sighting ∈ MeterCall.sightingsOf report.flow.key (since ++ [call]) := seen ▸ counted
  obtain ⟨more, rfl⟩ := front
  rw [split, List.append_assoc earlier, MeterCall.sightings_append, MeterCall.sightings_append]
  exact List.mem_append_left _ (List.mem_append_right _ (List.mem_filter.mp own).1)

theorem report_times_held (fresh : meter.table = [])
    (held : ∀ sighting ∈ MeterCall.sightings calls, sighting.time.seconds < UInt64.size)
    {report : Report} (member : report ∈ meter.reports calls) :
    report.flow.firstSeen ≤ report.flow.lastSeen ∧
      report.flow.lastSeen.seconds < UInt64.size := by
  obtain ⟨life, reported, equal, counted⟩ := exists_lifetime fresh member
  have last : life.lastSeen ≤ UInt64.size * Nanos.perSecond - 1 := by
    refine Lifetime.lastSeen_le fun sighting own => Nat.le_sub_one_of_lt ?_
    exact (Nat.div_lt_iff_lt_mul (by decide)).mp (held sighting (counted sighting own))
  rw [equal]
  refine ⟨life.first_le_lastSeen, (Nat.div_lt_iff_lt_mul (by decide)).mpr ?_⟩
  exact Nat.lt_of_le_of_lt last (by decide)

/-- A record shows the times of its flow, first and last. A time in the years that can be written is
shown as it is, and no other time is. Of the later ones those that wrap are shown nevertheless, as moments
before the epoch, so that the times run backwards if the last one wraps and the first one does not. -/
theorem times_exact_unless_wrapped (config : MeterConfig) (supply : Nat → Uuid)
    (calls : List MeterCall)
    (held : ∀ sighting ∈ MeterCall.sightings calls, sighting.time.seconds < UInt64.size) :
    ∀ report ∈ (empty config supply).reports calls,
      let flow := report.flow
      (∃ entries, ((empty config supply).record report).entries? = some entries ∧
        entries.lookup "first_seen" = some (.text (Calendar.text flow.firstSeen)) ∧
        entries.lookup "last_seen" = some (.text (Calendar.text flow.lastSeen))) ∧
      (∀ time ∈ [flow.firstSeen, flow.lastSeen],
        (Calendar.text time ≠ "" ↔ time.seconds < Calendar.ending ∨ Calendar.Wraps time) ∧
        (Calendar.moment? (Calendar.text time) = some (time.seconds : Int) ↔
          time.seconds < Calendar.ending) ∧
        (Calendar.Wraps time → ∃ moment < 0,
          Calendar.moment? (Calendar.text time) = some moment ∧
            moment = time.seconds - UInt64.size)) ∧
      ∀ first last, Calendar.moment? (Calendar.text flow.firstSeen) = some first →
        Calendar.moment? (Calendar.text flow.lastSeen) = some last →
        (last < first ↔ ¬Calendar.Wraps flow.firstSeen ∧ Calendar.Wraps flow.lastSeen) := by
  intro report member flow
  obtain ⟨order, heldLast⟩ := report_times_held rfl held member
  have heldFirst : flow.firstSeen.seconds < UInt64.size :=
    Nat.lt_of_le_of_lt (Nat.div_le_div_right order) heldLast
  refine ⟨⟨_, Record.entries?_summary _ _, rfl, rfl⟩, fun time own => ?_, fun first last => ?_⟩
  next =>
    have heldTime : time.seconds < UInt64.size := by
      rcases List.mem_pair.mp own with rfl | rfl
      next => exact heldFirst
      next => exact heldLast
    refine ⟨Calendar.text_ne_empty_iff heldTime, Calendar.moment?_exact_iff heldTime, fun wraps => ?_⟩
    exact ⟨_, Int.sub_neg_of_lt (Int.ofNat_lt.mpr heldTime),
      (Calendar.text_wrapped heldTime wraps).2, rfl⟩
  next => exact Calendar.moment?_lt_iff order heldLast

-- A segment of the fifth second, and one of the last second that a word of 64 bits holds.
def overdue : List MeterCall := [
  .process (.of (.ofParts 5 0) 54 (segmentFrame 0x02)),
  .process (.of (.ofParts 18446744073709551615 0) 54 (segmentFrame 0x10))]

theorem overdue_report :
    ∃ report, (empty {} (Uuid.supply 0)).reports overdue = [report] ∧
      report.flow.firstSeen.seconds = 5 ∧ report.flow.lastSeen.seconds = 18446744073709551615 := by
  have times : ((empty {} (Uuid.supply 0)).reports overdue).map (fun report =>
      (report.flow.firstSeen.seconds, report.flow.lastSeen.seconds)) =
        [(5, 18446744073709551615)] := by decide
  obtain ⟨report, single, seconds⟩ := List.map_eq_singleton_iff.mp times
  exact ⟨report, single, Prod.mk.inj seconds⟩

theorem overdue_shown_backwards :
    ∃ report ∈ (empty {} (Uuid.supply 0)).reports overdue,
      Calendar.moment? (Calendar.text report.flow.firstSeen) = some 5 ∧
        Calendar.moment? (Calendar.text report.flow.lastSeen) = some (-1) := by
  obtain ⟨report, single, first, last⟩ := overdue_report
  have member : report ∈ (empty {} (Uuid.supply 0)).reports overdue :=
    single ▸ List.mem_singleton_self report
  obtain ⟨-, shown, -⟩ :=
    times_exact_unless_wrapped {} (Uuid.supply 0) overdue (by decide) report member
  obtain ⟨-, exact, -⟩ := shown report.flow.firstSeen List.mem_cons_self
  obtain ⟨-, -, wrapped⟩ := shown report.flow.lastSeen (List.mem_cons_of_mem _ List.mem_cons_self)
  obtain ⟨moment, -, reads, rfl⟩ := wrapped (by rw [Calendar.Wraps, last]; decide)
  rw [last] at reads
  rw [first] at exact
  exact ⟨report, member, exact.mpr (by decide), reads⟩

/-- The last second of all is shown as the one before the epoch. -/
theorem last_second_shown_before_epoch :
    ∃ report, (empty {} (Uuid.supply 0)).reports overdue = [report] ∧
      report.flow.lastSeen.seconds = 18446744073709551615 ∧
      Calendar.text report.flow.firstSeen = "1970-01-01T00:00:05" ∧
      Calendar.text report.flow.lastSeen = "1969-12-31T23:59:59" ∧
      Calendar.moment? "1970-01-01T00:00:05" = some 5 ∧
      Calendar.moment? "1969-12-31T23:59:59" = some (-1) := by
  have texts : ((empty {} (Uuid.supply 0)).reports overdue).map (fun report =>
      (report.flow.lastSeen.seconds, Calendar.text report.flow.firstSeen,
        Calendar.text report.flow.lastSeen)) =
          [(18446744073709551615, "1970-01-01T00:00:05", "1969-12-31T23:59:59")] := by decide
  obtain ⟨report, single, shown⟩ := List.map_eq_singleton_iff.mp texts
  obtain ⟨seconds, first, last⟩ := Prod.mk.inj shown |>.imp_right Prod.mk.inj
  exact ⟨report, single, seconds, first, last, @Calendar.moment?_stamp 5 _ (by decide),
    @Calendar.moment?_stamp (-1) _ (by decide)⟩

end Meter

end FlowProbe
