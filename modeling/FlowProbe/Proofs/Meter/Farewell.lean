import FlowProbe.Proofs.Meter.Identity
import FlowProbe.Proofs.Meter.Stretch

set_option autoImplicit false

namespace FlowProbe

namespace Lifetime

/-- The packet closes the connection, as only the other side has done so far, and nobody resets it. -/
structure ClosedBy (life : Lifetime) (last : Sighting) : Prop where
  kept : ∀ sighting ∈ life.sightings ++ [last], sighting.packet.resets = false
  closes : last.packet.closes = true
  half : ∃ sighting ∈ life.sightings, sighting.packet.closes = true
  opposite : ∀ sighting ∈ life.sightings, sighting.packet.closes = true →
    sighting.packet.source ≠ last.packet.source

theorem sender_cases {life : Lifetime} {sighting : Sighting}
    (own : sighting.packet.key = life.first.packet.key) :
    sighting.packet.source = life.client ∨ sighting.packet.source = life.server := by
  obtain ⟨-, ⟨source, -⟩ | ⟨source, -⟩⟩ := FlowKey.between_eq_iff.mp own
  all_goals
    rw [client, server, source]
    cases life.first.packet.answers
  · exact .inl rfl
  · exact .inr rfl
  · exact .inr rfl
  · exact .inl rfl

theorem closed_by_sides {life : Lifetime} {one other : Sighting} (here : one ∈ life.sightings)
    (there : other ∈ life.sightings) (closes : one.packet.closes = true)
    (closes' : other.packet.closes = true) (sent : one.packet.source = life.client)
    (received : other.packet.source ≠ life.client) (reported : Nanos) :
    (life.flow reported).clientClosed = true ∧ (life.flow reported).serverClosed = true := by
  refine ⟨List.any_eq_true.mpr ⟨one, List.mem_filter.mpr ⟨here, ?_⟩, closes⟩,
    List.any_eq_true.mpr ⟨other, List.mem_filter.mpr ⟨there, ?_⟩, closes'⟩⟩
  next => exact decide_eq_true sent
  next => simpa [fromClient] using received

theorem closed_of_apart (life : Lifetime) {one other : Sighting} (here : one ∈ life.sightings)
    (there : other ∈ life.sightings) (closes : one.packet.closes = true)
    (closes' : other.packet.closes = true) (apart : one.packet.source ≠ other.packet.source)
    (own : ∀ sighting ∈ life.sightings, sighting.packet.key = life.first.packet.key)
    (reported : Nanos) :
    (life.flow reported).clientClosed = true ∧ (life.flow reported).serverClosed = true := by
  by_cases sent : one.packet.source = life.client
  next => exact closed_by_sides here there closes closes' sent (sent ▸ apart.symm) reported
  next =>
    have server := (sender_cases (own one here)).resolve_left sent
    have client := (sender_cases (own other there)).resolve_right (server ▸ apart.symm)
    exact closed_by_sides there here closes' closes client sent reported

theorem ClosedBy.quiet {life : Lifetime} {last : Sighting} (closed : life.ClosedBy last)
    (own : ∀ sighting ∈ life.sightings ++ [last], sighting.packet.key = life.first.packet.key) :
    life.Quiet where
  kept := fun sighting member => closed.kept sighting (List.mem_append_left _ member)
  halfOpen := by
    intro one here other there closes closes'
    have one_cases := sender_cases (own one (List.mem_append_left _ here))
    have other_cases := sender_cases (own other (List.mem_append_left _ there))
    have last_cases := sender_cases (own last (List.mem_append_right _ (List.mem_singleton_self _)))
    have apart := closed.opposite one here closes
    have apart' := closed.opposite other there closes'
    grind

end Lifetime

namespace Course

variable {config : MeterConfig} (positive : 0 < config.activeTimeout)
include positive

theorem run_closing {first last : Sighting} {middle : List Sighting}
    (closed : Lifetime.ClosedBy ⟨.nil, first, middle⟩ last)
    (own : ∀ sighting ∈ first :: middle ++ [last], sighting.packet.key = first.packet.key)
    (early : ∀ sighting ∈ middle, sighting.time < first.time + config.activeTimeout) :
    run config none (first :: middle ++ [last]) =
      (none, [⟨.finished, Lifetime.flow ⟨.nil, first, middle ++ [last]⟩ first.time⟩]) := by
  let whole : Lifetime := ⟨.nil, first, middle ++ [last]⟩
  obtain ⟨one, here, closes⟩ := closed.half
  have sides := whole.closed_of_apart (List.mem_append_left [last] here)
    (List.mem_append_right (first :: middle) (List.mem_singleton_self last)) closes closed.closes
    (closed.opposite one here closes) own first.time
  have finished : (whole.flow first.time).finishedBy last.packet = true := by
    rw [Flow.finishedBy, sides.1, sides.2]
    exact Bool.or_true _
  have counted : counted (some (Lifetime.flow ⟨.nil, first, middle⟩ first.time)) last =
      whole.flow first.time := Lifetime.flow_push ⟨.nil, first, middle⟩ last first.time
  rw [run_append, run_quiet positive (closed.quiet own) early, run, run, step, counted, if_pos finished]
  rfl

theorem reports_closed {first last next : Sighting} {middle later : List Sighting}
    (closed : Lifetime.ClosedBy ⟨.nil, first, middle⟩ last)
    (own : ∀ sighting ∈ first :: middle ++ [last], sighting.packet.key = first.packet.key)
    (early : ∀ sighting ∈ middle, sighting.time < first.time + config.activeTimeout)
    (quiet : Lifetime.Quiet ⟨.nil, next, later⟩)
    (soon : ∀ sighting ∈ later, sighting.time < next.time + config.activeTimeout) :
    reports config (first :: middle ++ last :: next :: later) =
      [⟨.finished, Lifetime.flow ⟨.nil, first, middle ++ [last]⟩ first.time⟩,
        ⟨.flushed, Lifetime.flow ⟨.nil, next, later⟩ next.time⟩] := by
  rw [reports, List.append_cons (first :: middle), run_append, run_closing positive closed own early,
    run_quiet positive quiet soon]
  rfl

end Course

namespace Passage

variable {config : MeterConfig} {key : FlowKey} (passage : Passage config key)

theorem apart_of_ended (positive : 0 < config.idleTimeout)
    (distinct : ∀ one < (passage.meter.after (Meter.sitting passage.frames)).drawn,
      ∀ other < (passage.meter.after (Meter.sitting passage.frames)).drawn,
        passage.supply one = passage.supply other → one = other) {report stray : Report}
    (told : passage.reports = [report, stray]) (ended : report.isTerminal = true) :
    report.flow.id ≠ stray.flow.id := by
  rw [meter, ← Meter.after_append] at distinct
  have continues := Meter.reports_continue (rfl : (Meter.empty config passage.supply).table = [])
    positive distinct List.prefix_rfl
  rw [Meter.reports_append] at continues
  have both : passage.reports.Pairwise fun earlier later => earlier.flow.id = later.flow.id →
      earlier.isTerminal = false ∧ earlier.flow.Continues later.flow :=
    (List.pairwise_append.mp continues).2.1.sublist List.filter_sublist
  rw [told] at both
  intro same
  have lasts := ((List.pairwise_cons.mp both).1 stray (List.mem_singleton_self stray) same).1
  rw [ended] at lasts
  cases lasts

/-- Where anything comes after both sides have closed a connection, it is reported as two flows: one when
it is closed, with all packets until then, and the rest at the end, under another identifier. When it is
closed the first of them has gone. -/
theorem closed_connection_leaves_second_flow {first last next : Sighting} {middle later : List Sighting}
    (seen : passage.sightings = first :: middle ++ last :: next :: later)
    (closed : Lifetime.ClosedBy ⟨.nil, first, middle⟩ last)
    (strays : ∀ sighting ∈ next :: later,
      sighting.packet.resets = false ∧ sighting.packet.closes = false)
    (distinct : ∀ one < (passage.meter.after (Meter.sitting passage.frames)).drawn,
      ∀ other < (passage.meter.after (Meter.sitting passage.frames)).drawn,
        passage.supply one = passage.supply other → one = other) :
    ∃ report stray, passage.reports = [report, stray] ∧
      report.unnamed = ⟨.finished, Lifetime.flow ⟨.nil, first, middle ++ [last]⟩ first.time⟩ ∧
      stray.unnamed = ⟨.flushed, Lifetime.flow ⟨.nil, next, later⟩ next.time⟩ ∧
      report.flow.id ≠ stray.flow.id ∧
      ∀ done, done <+: passage.frames →
        MeterCall.sightingsOf key (done.map .process) = first :: middle ++ [last] →
        (passage.meter.after (done.map .process)).table.find? key = none ∧
          Report.about key (passage.meter.reports (done.map .process)) = [report] := by
  have all : ∀ sighting ∈ first :: middle ++ last :: next :: later, sighting ∈ passage.sightings :=
    fun _ member => seen ▸ member
  have start := all first List.mem_cons_self
  have again := all next (by simp)
  obtain ⟨idle, active⟩ := timeouts_positive start
  have own : ∀ sighting ∈ first :: middle ++ [last], sighting.packet.key = first.packet.key := by
    intro sighting member
    have here := all sighting (by simp at member ⊢; tauto)
    exact (own_key here).trans (own_key start).symm
  have early : ∀ sighting ∈ middle, sighting.time < first.time + config.activeTimeout :=
    fun sighting member => passage.brisk.early first start sighting (all sighting (by simp [member]))
  have soon : ∀ sighting ∈ later, sighting.time < next.time + config.activeTimeout :=
    fun sighting member => passage.brisk.early next again sighting (all sighting (by simp [member]))
  have quiet : Lifetime.Quiet ⟨.nil, next, later⟩ := {
    kept := fun sighting member => (strays sighting member).1
    halfOpen := fun one here _ _ closes _ => absurd ((strays one here).2.symm.trans closes) nofun }
  have course := passage.reports_unnamed idle
  rw [seen, Course.reports_closed active closed own early quiet soon] at course
  obtain ⟨report, rest, reports, ended, others⟩ := List.map_eq_cons_iff.mp course
  obtain ⟨stray, rfl, flushed⟩ := List.map_eq_singleton_iff.mp others
  have terminal : report.isTerminal = true := by
    change report.unnamed.isTerminal = true
    rw [ended]
    rfl
  refine ⟨report, stray, reports, ended, flushed,
    passage.apart_of_ended idle distinct reports terminal, ?_⟩
  intro done front whole
  have part := passage.frames_course front idle
  rw [whole, Course.run_closing active closed own early] at part
  refine ⟨Option.map_eq_none_iff.mp (congrArg Prod.fst part), ?_⟩
  obtain ⟨only, told, -⟩ := List.map_eq_singleton_iff.mp (congrArg Prod.snd part)
  obtain ⟨more, split⟩ := front
  have continued : passage.reports = [only] ++ Report.about key
      ((passage.meter.after (done.map .process)).reports (Meter.sitting more)) := by
    rw [← told, ← Report.about_append, ← Meter.reports_append, Passage.reports, ← split, Meter.sitting,
      Meter.sitting, List.map_append, List.append_assoc]
  rw [told, (List.cons.inj (reports.symm.trans continued)).1]

def hangUp : Passage {} (Meter.segmentPacket ⟨true, false, false, false, 0x2000⟩).key where
  supply := Uuid.supply 0
  before := []
  frames := [.of 1 0 (Meter.segmentFrame 0x02), .of 2 0 (Meter.replyFrame 0x12),
    .of 3 0 (Meter.segmentFrame 0x10), .of 4 0 (Meter.segmentFrame 0x11),
    .of 5 0 (Meter.replyFrame 0x11), .of 6 0 (Meter.segmentFrame 0x10)]
  absent := rfl
  brisk := ⟨by decide, by decide⟩

-- All of its packets but the last two.
def talk : Lifetime where
  id := .nil
  first := ⟨Meter.segmentPacket ⟨true, false, false, false, 0x2000⟩, 54, 1⟩
  later := [⟨Meter.replyPacket ⟨true, true, false, false, 0x2000⟩, 54, 2⟩,
    ⟨Meter.segmentPacket ⟨false, true, false, false, 0x2000⟩, 54, 3⟩,
    ⟨Meter.segmentPacket ⟨false, true, true, false, 0x2000⟩, 54, 4⟩]

def goodbye : Sighting :=
  ⟨Meter.replyPacket ⟨false, true, true, false, 0x2000⟩, 54, 5⟩

def acknowledgement : Sighting :=
  ⟨Meter.segmentPacket ⟨false, true, false, false, 0x2000⟩, 54, 6⟩

theorem hangUp_sightings : hangUp.sightings = talk.sightings ++ [goodbye, acknowledgement] := by
  decide

theorem talk_closed : talk.ClosedBy goodbye where
  kept := by decide
  closes := rfl
  half := by decide
  opposite := by decide

theorem hangUp_reported_twice :
    ∃ report stray, hangUp.reports = [report, stray] ∧ report.occasion = .finished ∧
      report.flow.packets = 5 ∧ stray.occasion = .flushed ∧ stray.flow.packets = 1 ∧
      report.flow.id ≠ stray.flow.id := by
  have strays : ∀ sighting ∈ [acknowledgement],
      sighting.packet.resets = false ∧ sighting.packet.closes = false := by decide
  obtain ⟨report, stray, reports, ended, flushed, apart, -⟩ :=
    closed_connection_leaves_second_flow hangUp hangUp_sightings talk_closed strays (by decide)
  refine ⟨report, stray, reports, congrArg Report.occasion ended, ?_, congrArg Report.occasion flushed,
    ?_, apart⟩
  next => exact congrArg (fun report => report.flow.packets) ended
  next => exact congrArg (fun report => report.flow.packets) flushed

/-- One record is too few for a connection of six packets, the last of which carries none of the control
bits SYN, FIN and RST: that packet brings the key back into the table. -/
theorem one_record_too_few :
    hangUp.sightings = talk.sightings ++ [goodbye, acknowledgement] ∧ talk.ClosedBy goodbye ∧
      acknowledgement.packet.tcp = some ⟨false, true, false, false, 0x2000⟩ ∧
      (¬∃ report, hangUp.reports = [report]) ∧
      (hangUp.meter.after (hangUp.frames.map .process)).table.find? acknowledgement.packet.key ≠
        none := by
  have twice : hangUp.reports.length ≠ 1 := by decide
  refine ⟨hangUp_sightings, talk_closed, rfl, ?_, by decide⟩
  rintro ⟨report, single⟩
  rw [single] at twice
  exact twice rfl

end Passage

end FlowProbe
