import FlowProbe.Proofs.Meter.Scan

set_option autoImplicit false

namespace FlowProbe

theorem Captured.wait_lt {now seen span : Nat} (positive : 0 < span) (recent : now < seen + span) :
    now - seen < span := by
  omega

def Report.about (key : FlowKey) (reports : List Report) : List Report :=
  Fibers.part (fun report => report.flow.key) key reports

theorem Report.ofKey_eq_about (key : FlowKey) (reports : List Report) :
    ofKey key reports = (about key reports).map unnamed := by
  rw [ofKey, about, Fibers.part, Fibers.part, List.filter_map]
  rfl

theorem Report.about_append (key : FlowKey) (reports more : List Report) :
    about key (reports ++ more) = about key reports ++ about key more :=
  Fibers.part_append ..

namespace Meter

/-- Nothing in the frames comes an idle timeout or more after a packet of the key, and none of its
packets an active timeout or more after another. -/
structure Brisk (config : MeterConfig) (key : FlowKey) (frames : List Captured) : Prop where
  awake : ∀ own ∈ MeterCall.sightingsOf key (frames.map .process),
    ∀ other ∈ MeterCall.sightings (frames.map .process), other.time < own.time + config.idleTimeout
  early : ∀ own ∈ MeterCall.sightingsOf key (frames.map .process),
    ∀ other ∈ MeterCall.sightingsOf key (frames.map .process),
      other.time < own.time + config.activeTimeout

def Recalls (meter : Meter) (key : FlowKey) (past : List Sighting) : Prop :=
  ∀ flow, meter.table.find? key = some flow → ∃ own ∈ past, own.time ≤ flow.lastSeen

section Calls

variable {meter : Meter} (distinct : meter.table.keys.Nodup)
  (named : ∀ key flow, meter.table.find? key = some flow → flow.key = key)

include named in
theorem about_count (key : FlowKey) (sighting : Sighting) :
    let next := meter.count sighting.packet sighting.length sighting.time
    Report.about key next.2 = if sighting.packet.key = key then next.2 else [] := by
  intro next
  have own : ∀ report ∈ next.2, report.flow.key = sighting.packet.key := by
    intro report member
    obtain ⟨reported, equal⟩ := count_report meter sighting report member
    rw [equal]
    exact key_counted named sighting
  split
  next same =>
    apply List.filter_eq_self.mpr
    intro report member
    simp [own report member, same]
  next other =>
    apply List.filter_eq_nil_iff.mpr
    intro report member
    simp [own report member, other]

include distinct

include named in
theorem about_tick (now : Nanos) (key : FlowKey) :
    let leaving := leaves meter.config (if scanInterval ≤ meter.sinceScan + 1 then some now else none)
    (meter.tick now).1.table.find? key = (meter.table.find? key).filter (fun flow => !leaving flow) ∧
      Report.about key (meter.tick now).2 =
        ((meter.table.find? key).filter leaving).toList.map fun flow => ⟨.idle, flow⟩ := by
  have idle : ∀ report ∈ (meter.tick now).2, report.occasion = .idle := by
    unfold tick
    split
    next =>
      intro report member
      obtain ⟨entry, -, rfl⟩ := List.mem_map.mp member
      rfl
    next => exact List.forall_mem_nil _
  have same : Report.about key (meter.tick now).2 = idleReports key (meter.tick now).2 :=
    List.filter_congr fun report member => by simp [idle report member]
  rw [same]
  exact tick_found distinct named now key

include named in
theorem tick_awake (now : Nanos) (key : FlowKey)
    (awake : scanInterval ≤ meter.sinceScan + 1 →
      ∀ flow, meter.table.find? key = some flow → meter.isIdle now flow = false) :
    (meter.tick now).1.table.find? key = meter.table.find? key ∧
      Report.about key (meter.tick now).2 = [] := by
  obtain ⟨found, told⟩ := about_tick distinct named now key
  rw [found, told]
  cases here : meter.table.find? key with
  | none => exact ⟨rfl, rfl⟩
  | some flow =>
    have stays : leaves meter.config
        (if scanInterval ≤ meter.sinceScan + 1 then some now else none) flow = false := by
      split
      next due => exact awake due flow here
      next => rfl
    simp [stays]

include named in
-- A packet whose scan finds the flow of the key awake takes the course of the key a step further if it
-- is of the key, and leaves it alone otherwise.
theorem process_awake {captured : Captured} {packet : Packet}
    (parsed : Packet.parse? captured.bytes = some packet) {key : FlowKey}
    (awake : scanInterval ≤ meter.sinceScan + 1 →
      ∀ flow, (meter.settledBy (.process captured)).find? key = some flow →
        meter.isIdle captured.time flow = false) :
    ((meter.process captured).1.flowAt key, Report.ofKey key (meter.process captured).2) =
      Course.run meter.config (meter.flowAt key) (MeterCall.sightingsOf key [.process captured]) := by
  let sighting : Sighting := ⟨packet, captured.length, captured.time⟩
  have counted := course_count named sighting distinct key
  have config := (count_settings meter packet captured.length captured.time).1
  obtain ⟨found, told⟩ := tick_awake (count_keys meter distinct sighting)
    (named_count named sighting distinct) captured.time key (by
      intro due flow found
      rw [count_sinceScan] at due
      rw [isIdle, config]
      exact awake due flow (by
        simpa only [settledBy, MeterCall.sighting?, parsed, Option.map_some] using found))
  rw [process_parsed meter captured packet parsed]
  dsimp only
  rw [Report.ofKey_append, flowAt, found, ← flowAt, Report.ofKey_eq_about key (Meter.tick _ _).2, told,
    List.map_nil, List.append_nil, MeterCall.sightingsOf_parsed key parsed]
  by_cases same : packet.key = key
  next => simpa [Course.run, same, sighting] using counted
  next => simpa [Course.run, same, sighting] using counted

theorem awake_settled (positive : 0 < meter.config.idleTimeout) {captured : Captured}
    {packet : Packet} (parsed : Packet.parse? captured.bytes = some packet) {key : FlowKey}
    {past : List Sighting} (recalls : meter.Recalls key past)
    (near : ∀ own ∈ past, captured.time < own.time + meter.config.idleTimeout) (flow : Flow)
    (found : (meter.settledBy (.process captured)).find? key = some flow) :
    meter.isIdle captured.time flow = false := by
  by_cases same : packet.key = key
  next =>
    subst same
    exact isIdle_recent positive (lastSeen_settled distinct parsed found)
  next =>
    rw [settledBy, MeterCall.sighting?, parsed, Option.map_some] at found
    have others := count_others meter distinct ⟨packet, captured.length, captured.time⟩ same
    obtain ⟨own, member, seen⟩ := recalls flow (others.symm.trans found)
    rw [isIdle, decide_eq_false_iff_not, Nat.not_le]
    exact Captured.wait_lt positive
      (Nat.lt_of_lt_of_le (near own member) (Nat.add_le_add_right seen _))

end Calls

theorem recalls_process {meter : Meter} (distinct : meter.table.keys.Nodup) {key : FlowKey}
    {past : List Sighting} (recalls : meter.Recalls key past) (captured : Captured) :
    (meter.process captured).1.Recalls key
      (past ++ MeterCall.sightingsOf key [.process captured]) := by
  intro flow found
  have shown := (call_shows meter distinct (.process captured)).2.1 key flow found
  cases parsed : Packet.parse? captured.bytes with
  | none =>
    rw [Shows, MeterCall.sighting?, parsed] at shown
    rw [MeterCall.sightingsOf_unparsed key parsed, List.append_nil]
    exact recalls flow shown
  | some packet =>
    rw [Shows, MeterCall.sighting?, parsed, Option.map_some] at shown
    rw [MeterCall.sightingsOf_parsed key parsed]
    by_cases same : packet.key = key
    next =>
      obtain ⟨reported, rfl⟩ := (if_pos same).mp shown
      rw [if_pos same]
      exact ⟨_, List.mem_append_right _ (List.mem_singleton_self _), Nat.le_max_right _ _⟩
    next =>
      rw [if_neg same, List.append_nil]
      exact recalls flow ((if_neg same).mp shown)

theorem sitting_of_run {meter : Meter} (fresh : meter.table = []) (calls : List MeterCall)
    {key : FlowKey} {frames : List Captured}
    (run : ((meter.after (calls ++ frames.map .process)).flowAt key,
        Report.ofKey key ((meter.after calls).reports (frames.map .process))) =
      Course.run meter.config none (MeterCall.sightingsOf key (frames.map .process))) :
    Report.ofKey key ((meter.after calls).reports (sitting frames)) =
      Course.reports meter.config (MeterCall.sightingsOf key (frames.map .process)) := by
  have last (meter : Meter) : meter.reports [.flush] = meter.flush.2 := List.append_nil _
  rw [sitting, reports_append, Report.ofKey_append, last, ← after_append,
    flush_course (explained_fresh meter fresh _).1 (named_after fresh _), Course.reports, ← run]

section Run

variable {meter : Meter} (fresh : meter.table = []) (positive : 0 < meter.config.idleTimeout)
  {key : FlowKey} {past : List Sighting} {calls : List MeterCall}
  (recalls : (meter.after calls).Recalls key past)
include fresh positive recalls

theorem process_stretch (captured : Captured)
    (near : ∀ own ∈ past, ∀ other ∈ MeterCall.sightings [.process captured],
      other.time < own.time + meter.config.idleTimeout) :
    (((meter.after calls).process captured).1.flowAt key,
        Report.ofKey key ((meter.after calls).process captured).2) =
      Course.run meter.config ((meter.after calls).flowAt key)
        (MeterCall.sightingsOf key [.process captured]) := by
  have config : (meter.after calls).config = meter.config := (after_settings meter calls).1
  cases parsed : Packet.parse? captured.bytes with
  | none =>
    rw [process_unparsed _ captured parsed, MeterCall.sightingsOf_unparsed key parsed]
    rfl
  | some packet =>
    have seen : MeterCall.sightings [.process captured] =
        [⟨packet, captured.length, captured.time⟩] := by
      rw [MeterCall.sightings_single, MeterCall.sighting?, parsed]
      rfl
    have distinct : (meter.after calls).table.keys.Nodup := (explained_fresh meter fresh calls).1
    rw [← config] at near positive ⊢
    refine process_awake distinct (named_after fresh calls) parsed fun _ =>
      awake_settled distinct positive parsed recalls fun own member => ?_
    exact near own member _ (seen ▸ List.mem_singleton_self _)

theorem frames_stretch (frames : List Captured)
    (near : ∀ own ∈ past ++ MeterCall.sightingsOf key (frames.map .process),
      ∀ other ∈ MeterCall.sightings (frames.map .process),
        other.time < own.time + meter.config.idleTimeout) :
    ((meter.after (calls ++ frames.map .process)).flowAt key,
        Report.ofKey key ((meter.after calls).reports (frames.map .process))) =
      Course.run meter.config ((meter.after calls).flowAt key)
        (MeterCall.sightingsOf key (frames.map .process)) := by
  induction frames generalizing calls past with
  | nil =>
    rw [List.map_nil, List.append_nil]
    rfl
  | cons captured rest ih =>
    have split : MeterCall.sightings ((captured :: rest).map .process) =
        MeterCall.sightings [.process captured] ++ MeterCall.sightings (rest.map .process) :=
      MeterCall.sightings_append [.process captured] _
    have own : MeterCall.sightingsOf key ((captured :: rest).map .process) =
        MeterCall.sightingsOf key [.process captured] ++
          MeterCall.sightingsOf key (rest.map .process) :=
      MeterCall.sightingsOf_cons key _ _
    rw [own, split] at near
    have step := process_stretch fresh positive recalls captured fun own member other here =>
      near own (List.mem_append_left _ member) other (List.mem_append_left _ here)
    have distinct : (meter.after calls).table.keys.Nodup := (explained_fresh meter fresh calls).1
    have next : meter.after (calls ++ [.process captured]) = ((meter.after calls).process captured).1 :=
      after_concat meter calls _
    have later := ih (next ▸ recalls_process distinct recalls captured) fun own member other here =>
      near own (List.append_assoc past _ _ ▸ member) other (List.mem_append_right _ here)
    rw [next, List.append_assoc, List.singleton_append] at later
    rw [own, Course.run_append, ← step, List.map_cons]
    dsimp only
    rw [← later]
    exact congrArg (Prod.mk _) (Report.ofKey_append key _ _)

omit recalls in
theorem sitting_stretch (absent : (meter.after calls).table.find? key = none) (frames : List Captured)
    (near : ∀ own ∈ MeterCall.sightingsOf key (frames.map .process),
      ∀ other ∈ MeterCall.sightings (frames.map .process),
        other.time < own.time + meter.config.idleTimeout) :
    Report.ofKey key ((meter.after calls).reports (sitting frames)) =
      Course.reports meter.config (MeterCall.sightingsOf key (frames.map .process)) := by
  have recalls : (meter.after calls).Recalls key [] := fun flow found => by simp [absent] at found
  have run := frames_stretch fresh positive recalls frames near
  have start : (meter.after calls).flowAt key = none := by rw [flowAt, absent, Option.map_none]
  rw [start] at run
  exact sitting_of_run fresh calls run

end Run

end Meter

namespace Lifetime

-- Nobody resets the connection, and at most one side closes it.
structure Quiet (life : Lifetime) : Prop where
  kept : ∀ sighting ∈ life.sightings, sighting.packet.resets = false
  halfOpen : ∀ one ∈ life.sightings, ∀ other ∈ life.sightings, one.packet.closes = true →
    other.packet.closes = true → one.packet.source = other.packet.source

theorem Quiet.of_subset {life other : Lifetime} (quiet : life.Quiet)
    (fewer : ∀ sighting ∈ other.sightings, sighting ∈ life.sightings) : other.Quiet where
  kept := fun sighting member => quiet.kept sighting (fewer sighting member)
  halfOpen := fun one here other there =>
    quiet.halfOpen one (fewer one here) other (fewer other there)

theorem Quiet.open {life : Lifetime} (quiet : life.Quiet) (reported : Nanos) :
    ((life.flow reported).clientClosed && (life.flow reported).serverClosed) = false := by
  rw [Bool.and_eq_false_iff, ← Bool.not_eq_true, ← Bool.not_eq_true, ← not_and_or]
  rintro ⟨client, server⟩
  obtain ⟨one, here, closes⟩ := List.any_eq_true.mp client
  obtain ⟨other, there, closes'⟩ := List.any_eq_true.mp server
  obtain ⟨here, sent⟩ := List.mem_filter.mp here
  obtain ⟨there, received⟩ := List.mem_filter.mp there
  have same := quiet.halfOpen one here other there closes closes'
  simp only [fromClient, decide_eq_true_eq, Bool.not_eq_true', decide_eq_false_iff_not] at sent received
  exact received (same.symm.trans sent)

theorem Quiet.lasts {life : Lifetime} (quiet : life.Quiet) (reported : Nanos) {sighting : Sighting}
    (member : sighting ∈ life.sightings) :
    (life.flow reported).finishedBy sighting.packet = false := by
  rw [Flow.finishedBy, quiet.kept sighting member, quiet.open reported]
  rfl

end Lifetime

namespace Course

variable {config : MeterConfig} (positive : 0 < config.activeTimeout)
include positive

theorem step_lasting {life : Lifetime} (quiet : life.Quiet) (flow? : Option Flow) {reported : Nanos}
    {sighting : Sighting} (member : sighting ∈ life.sightings)
    (counted : counted flow? sighting = life.flow reported)
    (early : sighting.time < reported + config.activeTimeout) :
    step config flow? sighting = (some (life.flow reported), []) := by
  have undue : ¬config.activeTimeout ≤ sighting.time - (life.flow reported).lastReport :=
    Nat.not_le.mpr (Captured.wait_lt positive early)
  rw [step, counted, quiet.lasts reported member, if_neg Bool.false_ne_true, if_neg undue]

theorem run_lasting (life : Lifetime) {reported : Nanos} {more : List Sighting}
    (quiet : Lifetime.Quiet { life with later := life.later ++ more })
    (early : ∀ sighting ∈ more, sighting.time < reported + config.activeTimeout) :
    run config (some (life.flow reported)) more =
      (some (Lifetime.flow { life with later := life.later ++ more } reported), []) := by
  induction more generalizing life with
  | nil =>
    rw [List.append_nil]
    rfl
  | cons sighting rest ih =>
    rw [List.append_cons] at quiet ⊢
    have shorter : (life.push sighting).Quiet := quiet.of_subset fun other member => by
      simp only [Lifetime.sightings, Lifetime.push, List.mem_cons, List.mem_append] at member ⊢
      tauto
    have last : sighting ∈ (life.push sighting).sightings := by
      simp [Lifetime.sightings, Lifetime.push]
    have here := step_lasting positive shorter (some (life.flow reported)) last
      (life.flow_push sighting reported) (early sighting List.mem_cons_self)
    have later := ih (life.push sighting) quiet fun other member =>
      early other (List.mem_cons_of_mem _ member)
    rw [run, here]
    exact congrArg₂ Prod.mk (congrArg Prod.fst later) (congrArg Prod.snd later)

theorem run_quiet {first : Sighting} {rest : List Sighting}
    (quiet : Lifetime.Quiet ⟨.nil, first, rest⟩)
    (early : ∀ sighting ∈ rest, sighting.time < first.time + config.activeTimeout) :
    run config none (first :: rest) = (some (Lifetime.flow ⟨.nil, first, rest⟩ first.time), []) := by
  have alone : Lifetime.Quiet ⟨.nil, first, []⟩ := quiet.of_subset fun other member => by
    simp only [Lifetime.sightings, List.mem_singleton] at member
    rw [member]
    exact List.mem_cons_self
  have here := step_lasting positive alone none List.mem_cons_self
    (Lifetime.flow_start .nil first) (Nat.lt_add_of_pos_right positive)
  have later := run_lasting positive ⟨.nil, first, []⟩ quiet early
  rw [run, here]
  exact congrArg₂ Prod.mk (congrArg Prod.fst later) (congrArg Prod.snd later)

end Course

/-- Traffic that a meter sees between a moment without a flow of the key and its next flush, with
nothing in it that reports a flow of the key for its age. The meter may have seen anything before. -/
structure Passage (config : MeterConfig) (key : FlowKey) where
  supply : Nat → Uuid
  before : List MeterCall
  frames : List Captured
  absent : ((Meter.empty config supply).after before).table.find? key = none
  brisk : Meter.Brisk config key frames

namespace Passage

variable {config : MeterConfig} {key : FlowKey}

def meter (passage : Passage config key) : Meter :=
  (Meter.empty config passage.supply).after passage.before

def sightings (passage : Passage config key) : List Sighting :=
  MeterCall.sightingsOf key (passage.frames.map .process)

def reports (passage : Passage config key) : List Report :=
  Report.about key (passage.meter.reports (Meter.sitting passage.frames))

variable (passage : Passage config key)

theorem config_meter : passage.meter.config = config :=
  (Meter.after_settings (Meter.empty config passage.supply) passage.before).1

theorem sighting_mem {sighting : Sighting} (member : sighting ∈ passage.sightings) :
    sighting ∈ MeterCall.sightings (passage.frames.map .process) :=
  (List.mem_filter.mp member).1

variable {passage}

theorem own_key {sighting : Sighting} (member : sighting ∈ passage.sightings) :
    sighting.packet.key = key :=
  of_decide_eq_true (List.mem_filter.mp member).2

theorem timeouts_positive {sighting : Sighting} (member : sighting ∈ passage.sightings) :
    0 < config.idleTimeout ∧ 0 < config.activeTimeout :=
  ⟨Nat.pos_of_lt_add_right
      (passage.brisk.awake sighting member sighting (passage.sighting_mem member)),
    Nat.pos_of_lt_add_right (passage.brisk.early sighting member sighting member)⟩

variable (passage)

theorem reports_unnamed (positive : 0 < config.idleTimeout) :
    passage.reports.map Report.unnamed = Course.reports config passage.sightings := by
  rw [reports, ← Report.ofKey_eq_about]
  exact Meter.sitting_stretch rfl positive passage.absent passage.frames passage.brisk.awake

theorem frames_course {done : List Captured} (front : done <+: passage.frames)
    (positive : 0 < config.idleTimeout) :
    ((passage.meter.after (done.map .process)).flowAt key,
        (Report.about key (passage.meter.reports (done.map .process))).map Report.unnamed) =
      Course.run config none (MeterCall.sightingsOf key (done.map .process)) := by
  have recalls : passage.meter.Recalls key [] := fun flow found =>
    absurd (passage.absent.symm.trans found) nofun
  have fewer : (MeterCall.sightings (done.map .process)).Sublist
      (MeterCall.sightings (passage.frames.map .process)) := (front.sublist.map _).filterMap _
  have start : passage.meter.flowAt key = none := by
    rw [Meter.flowAt, meter, passage.absent, Option.map_none]
  have run := Meter.frames_stretch rfl positive recalls done fun own member other here =>
    passage.brisk.awake own ((fewer.filter _).subset member) other (fewer.subset here)
  rw [← meter, start, Report.ofKey_eq_about, Meter.after_append] at run
  exact run

end Passage

end FlowProbe
