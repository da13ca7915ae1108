import FlowProbe.Proofs.Meter.Soundness
import FlowProbe.Proofs.Meter.Stretch

set_option autoImplicit false

namespace FlowProbe

theorem find?_of_perm {α : Type} {p : α → Bool} {items others : List α}
    (same : items.Perm others) (unique : (items.filter p).length ≤ 1) :
    items.find? p = others.find? p := by
  have chosen := same.filter p
  rw [← List.head?_filter, ← List.head?_filter]
  cases found : items.filter p with
  | nil =>
    rw [found] at chosen
    rw [chosen.nil_eq]
  | cons item rest =>
    have alone : rest = [] := by
      rw [found, List.length_cons] at unique
      exact List.eq_nil_of_length_eq_zero (Nat.le_zero.mp (Nat.le_of_succ_le_succ unique))
    rw [found, alone] at chosen
    rw [alone, List.singleton_perm.mp chosen]

namespace Lifetime

theorem flow_reordered (life other : Lifetime) (same : life.sightings.Perm other.sightings)
    (client : other.client = life.client) (server : other.server = life.server)
    (proto : other.first.packet.proto = life.first.packet.proto)
    (version : other.first.packet.version = life.first.packet.version)
    (single : (life.clientSightings.filter fun sighting => sighting.packet.opens).length ≤ 1)
    (reported : Nanos) :
    other.flow reported = { life.flow reported with id := other.id, firstSeen := other.first.time } := by
  have sender : other.fromClient = life.fromClient := by
    funext sighting
    rw [fromClient, fromClient, client]
  have sent : life.clientSightings.Perm other.clientSightings := by
    rw [clientSightings, clientSightings, sender]
    exact same.filter _
  have received : life.serverSightings.Perm other.serverSightings := by
    rw [serverSightings, serverSightings, sender]
    exact same.filter _
  have shown : other.fingerprint = life.fingerprint := by
    rw [fingerprint, fingerprint, find?_of_perm sent single]
  have latest : other.lastSeen = life.lastSeen := ((same.map Sighting.time).foldl_eq 0).symm
  simp only [flow, Flow.mk.injEq, client, server, proto, version, shown, latest, true_and]
  exact ⟨sent.symm.length_eq, received.symm.length_eq, (sent.symm.map _).sum_eq,
    (received.symm.map _).sum_eq, sent.symm.any_eq, received.symm.any_eq⟩

end Lifetime

/-- Behind a request or behind its answer, the roles are the same. -/
def Sighting.LeadsLike (first other : Sighting) : Prop :=
  first = other ∨
    first.packet.answers = true ∧ other.packet.opens = true ∧ first.packet.Answers other.packet

theorem Packet.answers_of_opens {packet : Packet} (request : packet.opens = true) :
    packet.answers = false := by
  obtain ⟨header, carried, bits⟩ := (Option.any_eq_true _ _).mp request
  simp only [Bool.and_eq_true, Bool.not_eq_true'] at bits
  simp [answers, carried, bits]

theorem Sighting.LeadsLike.roles {first other : Sighting} (leads : first.LeadsLike other)
    (rest rest' : List Sighting) (id id' : Uuid) :
    Lifetime.client ⟨id, first, rest⟩ = Lifetime.client ⟨id', other, rest'⟩ ∧
      Lifetime.server ⟨id, first, rest⟩ = Lifetime.server ⟨id', other, rest'⟩ := by
  obtain rfl | ⟨answers, opens, back, forth, -⟩ := leads
  next => exact ⟨rfl, rfl⟩
  next => simp [Lifetime.client, Lifetime.server, answers, Packet.answers_of_opens opens, back, forth]

namespace Passage

variable {config : MeterConfig} {key : FlowKey}

theorem sighting_sound {passage : Passage config key} {sighting : Sighting}
    (member : sighting ∈ passage.sightings) : sighting.packet.Sound := by
  obtain ⟨call, -, seen⟩ := List.mem_filterMap.mp (passage.sighting_mem member)
  cases call with
  | flush => cases seen
  | process captured =>
    obtain ⟨packet, parsed, rfl⟩ := Option.map_eq_some_iff.mp seen
    exact Packet.sound_of_parse? parsed

theorem reports_quiet {passage : Passage config key} {first : Sighting} {rest : List Sighting}
    (seen : passage.sightings = first :: rest) (quiet : Lifetime.Quiet ⟨.nil, first, rest⟩) :
    ∃ report, passage.reports = [report] ∧
      report.flow = Lifetime.flow ⟨report.flow.id, first, rest⟩ first.time := by
  have all : ∀ sighting ∈ first :: rest, sighting ∈ passage.sightings := fun _ member =>
    seen ▸ member
  have here := all first List.mem_cons_self
  have early : ∀ sighting ∈ rest, sighting.time < first.time + config.activeTimeout :=
    fun sighting member =>
      passage.brisk.early first here sighting (all sighting (List.mem_cons_of_mem _ member))
  have course := passage.reports_unnamed (timeouts_positive here).1
  rw [seen, Course.reports, Course.run_quiet (timeouts_positive here).2 quiet early] at course
  obtain ⟨report, reports, unnamed⟩ := List.map_eq_singleton_iff.mp course
  refine ⟨report, reports, ?_⟩
  have flow : report.flow.unnamed = Lifetime.flow ⟨.nil, first, rest⟩ first.time :=
    congrArg Report.flow unnamed
  exact congrArg (fun flow : Flow => { flow with id := report.flow.id }) flow

/-- Packets of one key that come in any order behind the first one, with whatever traffic around them,
make the same record but for the identifier. Where an answer comes first instead of its request, the
time of the first packet changes too, and nothing else. -/
theorem record_in_any_order (one other : Passage config key) {first first' : Sighting}
    {rest rest' : List Sighting} (seen : one.sightings = first :: rest)
    (seen' : other.sightings = first' :: rest') (same : (first :: rest).Perm (first' :: rest'))
    (leads : first'.LeadsLike first) (quiet : Lifetime.Quiet ⟨.nil, first, rest⟩)
    (single : ((Lifetime.clientSightings ⟨.nil, first, rest⟩).filter fun sighting =>
      sighting.packet.opens).length ≤ 1) :
    ∃ report report', one.reports = [report] ∧ other.reports = [report'] ∧
      report.flow.firstSeen = first.time ∧
      other.meter.record report' = one.meter.record ⟨report.occasion,
        { report.flow with id := report'.flow.id, firstSeen := first'.time }⟩ ∧
      (first' = first →
        (other.meter.record report').withoutId = (one.meter.record report).withoutId) := by
  have quiet' : Lifetime.Quiet ⟨.nil, first', rest'⟩ :=
    quiet.of_subset fun sighting member => same.mem_iff.mpr member
  obtain ⟨report, told, flow⟩ := reports_quiet seen quiet
  obtain ⟨report', told', flow'⟩ := reports_quiet seen' quiet'
  have sound := sighting_sound (seen ▸ List.mem_cons_self : first ∈ one.sightings)
  have sound' := sighting_sound (seen' ▸ List.mem_cons_self : first' ∈ other.sightings)
  obtain ⟨client, server⟩ := leads.roles rest' rest report'.flow.id report.flow.id
  have kind : first'.packet.proto = first.packet.proto ∧
      first'.packet.version = first.packet.version := by
    obtain rfl | ⟨-, -, back, -, proto⟩ := leads
    next => exact ⟨rfl, rfl⟩
    next => exact ⟨proto, by rw [← sound'.source, back, sound.destination]⟩
  have reordered := Lifetime.flow_reordered ⟨report.flow.id, first, rest⟩
    ⟨report'.flow.id, first', rest'⟩ same client server kind.1 kind.2 single first'.time
  have began : report.flow.firstSeen = first.time := congrArg Flow.firstSeen flow
  have record : other.meter.record report' = one.meter.record ⟨report.occasion,
      { report.flow with id := report'.flow.id, firstSeen := first'.time }⟩ := by
    rw [Meter.record, Meter.record, Meter.summary, Meter.summary, config_meter, config_meter, flow',
      reordered, flow]
    rfl
  refine ⟨report, report', told, told', began, record, ?_⟩
  rintro rfl
  rw [record, Meter.withoutId_record, Meter.withoutId_record, ← began]
  rfl

def request : Sighting where
  packet := Meter.segmentPacket ⟨true, false, false, false, 0x2000⟩
  length := 54
  time := 1

def answer : Sighting where
  packet := Meter.replyPacket ⟨true, true, false, false, 0x2000⟩
  length := 54
  time := 2

def segment : Sighting where
  packet := Meter.segmentPacket ⟨false, true, false, false, 0x2000⟩
  length := 900
  time := 3

-- A request, its answer and a segment.
def usual : Passage {} request.packet.key where
  supply := Uuid.supply 0
  before := []
  frames := [.of 1 0 (Meter.segmentFrame 0x02), .of 2 0 (Meter.replyFrame 0x12),
    .of 3 900 (Meter.segmentFrame 0x10)]
  absent := rfl
  brisk := ⟨by decide, by decide⟩

-- The same packets, the request last, while a datagram of others comes twice.
def unusual : Passage {} request.packet.key where
  supply := Uuid.supply 9
  before := [.process (.of 0 0 (Meter.datagramFrame 3))]
  frames := [.of 2 0 (Meter.replyFrame 0x12), .of 3 900 (Meter.segmentFrame 0x10),
    .of 4 0 (Meter.datagramFrame 3), .of 1 0 (Meter.segmentFrame 0x02)]
  absent := by decide
  brisk := ⟨by decide, by decide⟩

theorem answer_before_request :
    ∃ report report', usual.reports = [report] ∧ unusual.reports = [report'] ∧
      report.flow.firstSeen = request.time ∧
      unusual.meter.record report' = usual.meter.record ⟨report.occasion,
        { report.flow with id := report'.flow.id, firstSeen := answer.time }⟩ := by
  have seen : usual.sightings = [request, answer, segment] := by decide
  have seen' : unusual.sightings = [answer, segment, request] := by decide
  have same : [request, answer, segment].Perm [answer, segment, request] := by decide
  have leads : answer.LeadsLike request := .inr ⟨by decide, by decide, rfl, rfl, rfl⟩
  have quiet : Lifetime.Quiet ⟨.nil, request, [answer, segment]⟩ := ⟨by decide, by decide⟩
  obtain ⟨report, report', told, told', began, record, -⟩ :=
    record_in_any_order usual unusual seen seen' same leads quiet (by decide)
  exact ⟨report, report', told, told', began, record⟩

end Passage

end FlowProbe
