import FlowProbe.Proofs.Meter.Scan
import FlowProbe.Proofs.Wire.Extent

set_option autoImplicit false

namespace FlowProbe

/-- Both addresses are of the version that the packet states, and a TCP header comes with protocol 6. -/
structure Packet.Sound (packet : Packet) : Prop where
  source : packet.source.addr.version = packet.version
  destination : packet.destination.addr.version = packet.version
  tcp : packet.tcp ≠ none → packet.proto = 6

theorem Datagram.sound_read4? {bytes : List UInt8} {datagram : Datagram}
    (read : read4? bytes = some datagram) :
    datagram.source.version = datagram.version ∧ datagram.destination.version = datagram.version := by
  have long : 20 ≤ bytes.length := by
    apply Nat.le_of_not_lt
    intro short
    rw [Wire.Header4.read4?_short short] at read
    cases read
  obtain ⟨header, rest, rfl⟩ := Wire.Header4.exists_of_length long
  rw [Wire.Header4.read4?_octets] at read
  split at read
  next =>
    obtain ⟨carried, -, rfl⟩ := Option.map_eq_some_iff.mp read
    exact ⟨rfl, rfl⟩
  next => cases read

theorem Datagram.sound_read6? {bytes : List UInt8} {datagram : Datagram}
    (read : read6? bytes = some datagram) :
    datagram.source.version = datagram.version ∧ datagram.destination.version = datagram.version := by
  have long : 40 ≤ bytes.length := by
    apply Nat.le_of_not_lt
    intro short
    rw [Wire.Header6.read6?_short short] at read
    cases read
  obtain ⟨header, rest, rfl⟩ := Wire.Header6.exists_of_length long
  rw [Wire.Header6.read6?_octets] at read
  split at read
  next =>
    obtain ⟨carried, -, rfl⟩ := Option.map_eq_some_iff.mp read
    exact ⟨rfl, rfl⟩
  next => cases read

theorem Datagram.sound_read? {kind : UInt16} {bytes : List UInt8} {datagram : Datagram}
    (read : read? kind bytes = some datagram) :
    datagram.source.version = datagram.version ∧ datagram.destination.version = datagram.version := by
  unfold read? at read
  split at read
  next => exact sound_read4? read
  next =>
    split at read
    next => exact sound_read6? read
    next => cases read

theorem Packet.sound_of_parse? {frame : List UInt8} {packet : Packet}
    (parsed : parse? frame = some packet) : packet.Sound := by
  obtain ⟨kind, bytes, datagram, -, read, made⟩ := parse?_layers.mp parsed
  obtain ⟨source, destination⟩ := Datagram.sound_read? read
  unfold ofDatagram? at made
  split at made
  next =>
    cases made
    exact ⟨source, destination, fun tcp => absurd rfl tcp⟩
  next =>
    obtain ⟨segment, -, rfl⟩ := Option.map_eq_some_iff.mp made
    cases segment with
    | none => exact ⟨source, destination, fun tcp => absurd rfl tcp⟩
    | some segment =>
      refine ⟨source, destination, fun tcp => ?_⟩
      cases segment with
      | tcp => rfl
      | udp => exact absurd rfl tcp
      | icmp => exact absurd rfl tcp
      | icmp6 => exact absurd rfl tcp

namespace Flow

structure Regular (key : FlowKey) (flow : Flow) : Prop where
  named : flow.key = key
  client : flow.client.addr.version = flow.version
  server : flow.server.addr.version = flow.version
  reported : flow.firstSeen ≤ flow.lastReport
  recent : flow.lastReport ≤ flow.lastSeen
  tcp : flow.clientClosed = true ∨ flow.serverClosed = true ∨ flow.fingerprint ≠ none →
    flow.proto = 6
  oneSided : flow.client = flow.server → flow.serverPackets = 0

structure Sound (key : FlowKey) (flow : Flow) : Prop extends flow.Regular key where
  counted : 1 ≤ flow.clientPackets + flow.serverPackets
  lasting : ¬(flow.clientClosed = true ∧ flow.serverClosed = true)

variable {packet : Packet}

theorem regular_start (sound : packet.Sound) (id : Uuid) (time : Nanos) :
    (start id packet time).Regular packet.key where
  named := key_start id packet time
  client := by cases answers : packet.answers <;> simp [start, answers, sound.source, sound.destination]
  server := by cases answers : packet.answers <;> simp [start, answers, sound.source, sound.destination]
  reported := Nat.le_refl _
  recent := Nat.le_refl _
  tcp := by simp [start]
  oneSided := fun _ => rfl

theorem regular_update (sound : packet.Sound) {flow : Flow} (regular : flow.Regular packet.key)
    (length : Nat) (time : Nanos) : (flow.update packet length time).Regular packet.key where
  named := regular.named
  client := regular.client
  server := regular.server
  reported := regular.reported
  recent := Nat.le_trans regular.recent (Nat.le_max_left _ _)
  tcp := by
    intro shown
    by_cases plain : packet.tcp = none
    next =>
      apply regular.tcp
      simpa [update, Packet.closes, Packet.opens, plain] using shown
    next => exact (FlowKey.between_eq_iff.mp regular.named).1.trans (sound.tcp plain)
  oneSided := by
    intro same
    replace same : flow.client = flow.server := same
    have sent : flow.fromClient packet = true := by
      rcases (FlowKey.between_eq_iff.mp regular.named).2 with ⟨client, -⟩ | ⟨-, server⟩
      next => simp [fromClient, client]
      next => simp [fromClient, same, server]
    change flow.serverPackets + (if flow.fromClient packet then 0 else 1) = 0
    rw [sent, regular.oneSided same]
    rfl

theorem counted_update (flow : Flow) (packet : Packet) (length : Nat) (time : Nanos) :
    1 ≤ (flow.update packet length time).clientPackets +
      (flow.update packet length time).serverPackets := by
  unfold update
  cases flow.fromClient packet <;> simp <;> omega

-- With a timeout above zero a report moves the time of the last one forward.
theorem regular_reportedAt {key : FlowKey} {flow : Flow} (regular : flow.Regular key) {active : Nat}
    (positive : 0 < active) {time : Nanos} (due : active ≤ time - flow.lastReport)
    (seen : time ≤ flow.lastSeen) : (flow.reportedAt time).Regular key :=
  { regular with
    reported := Nat.le_trans regular.reported
      (Nat.le_of_lt (Nat.lt_of_sub_pos (Nat.lt_of_lt_of_le positive due)))
    recent := seen }

theorem lasting_of_unfinished {flow : Flow} (lasts : flow.finishedBy packet = false) :
    ¬(flow.clientClosed = true ∧ flow.serverClosed = true) := by
  rintro ⟨client, server⟩
  simp [finishedBy, client, server] at lasts

end Flow

namespace Meter

structure Sound (meter : Meter) : Prop where
  distinct : meter.table.keys.Nodup
  entries : ∀ key flow, meter.table.find? key = some flow → flow.Sound key

variable {meter : Meter}

theorem sound_filter (sound : meter.Sound) (keep : FlowKey × Flow → Bool) :
    Sound { meter with table := meter.table.filter keep } where
  distinct := FlowTable.nodup_filter _ sound.distinct keep
  entries := by
    intro key flow found
    rw [FlowTable.find?_filter _ sound.distinct] at found
    exact sound.entries key flow (Option.filter_eq_some_iff.mp found).1

theorem regular_counted (sound : meter.Sound) {sighting : Sighting}
    (regular : sighting.packet.Sound) : (meter.counted sighting).Regular sighting.packet.key := by
  refine Flow.regular_update regular ?_ _ _
  unfold flowOf
  split
  next flow found => exact (sound.entries _ _ found).toRegular
  next => exact Flow.regular_start regular _ _

theorem sound_count (positive : 0 < meter.config.activeTimeout) (sound : meter.Sound)
    {sighting : Sighting} (regular : sighting.packet.Sound) :
    (meter.count sighting.packet sighting.length sighting.time).1.Sound where
  distinct := count_keys meter sound.distinct sighting
  entries := by
    have counted := regular_counted sound regular
    have some_counted := (meter.flowOf sighting.packet sighting.time).counted_update sighting.packet
      sighting.length sighting.time
    intro key flow found
    obtain ⟨-, table, -⟩ | ⟨lasts, due, table, -⟩ | ⟨lasts, -, table, -⟩ :=
      count_cases meter sighting
    all_goals rw [table] at found
    next =>
      rw [FlowTable.find?_erase _ sound.distinct] at found
      split at found
      next => cases found
      next => exact sound.entries key flow found
    next =>
      rcases FlowTable.found_insert found with ⟨rfl, rfl⟩ | ⟨-, found⟩
      next =>
        exact ⟨Flow.regular_reportedAt counted positive due (Nat.le_max_right _ _), some_counted,
          Flow.lasting_of_unfinished lasts⟩
      next => exact sound.entries key flow found
    next =>
      rcases FlowTable.found_insert found with ⟨rfl, rfl⟩ | ⟨-, found⟩
      next => exact ⟨counted, some_counted, Flow.lasting_of_unfinished lasts⟩
      next => exact sound.entries key flow found

theorem sound_tick (sound : meter.Sound) (now : Nanos) : (meter.tick now).1.Sound := by
  obtain ⟨keep, kept⟩ := tick_table meter now
  obtain ⟨distinct, entries⟩ := sound_filter sound keep
  exact ⟨kept ▸ distinct, kept ▸ entries⟩

theorem sound_call (positive : 0 < meter.config.activeTimeout) (sound : meter.Sound)
    (call : MeterCall) : (meter.call call).1.Sound := by
  cases call with
  | flush => exact ⟨List.nodup_nil, fun _ _ found => nomatch found⟩
  | process captured =>
    cases parsed : Packet.parse? captured.bytes with
    | none => rwa [Meter.call, process_unparsed meter captured parsed]
    | some packet =>
      rw [Meter.call, process_parsed meter captured packet parsed]
      let sighting : Sighting := ⟨packet, captured.length, captured.time⟩
      have regular : sighting.packet.Sound := Packet.sound_of_parse? parsed
      exact sound_tick (sound_count positive sound regular) _

theorem sound_after (positive : 0 < meter.config.activeTimeout) (sound : meter.Sound)
    (calls : List MeterCall) : (meter.after calls).Sound := by
  induction calls generalizing meter with
  | nil => exact sound
  | cons call rest ih =>
    exact ih ((call_settings meter call).1 ▸ positive) (sound_call positive sound call)

/-- At every point of a run each flow in the table is sound under its key, and the packets since the last
scan are fewer than it takes for the next one. -/
theorem flows_in_table_sound (config : MeterConfig) (supply : Nat → Uuid)
    (positive : 0 < config.activeTimeout) (calls : List MeterCall) :
    let meter := (empty config supply).after calls
    (∀ entry ∈ meter.table, entry.2.Sound entry.1) ∧ meter.sinceScan < scanInterval := by
  intro meter
  have start : (empty config supply).Sound := ⟨List.nodup_nil, fun _ _ found => nomatch found⟩
  have sound : meter.Sound := sound_after positive start calls
  constructor
  next =>
    intro ⟨key, flow⟩ member
    exact sound.entries key flow ((FlowTable.find?_eq_some_iff _ sound.distinct key flow).mpr member)
  next =>
    rw [sinceScan_after config supply calls]
    exact Nat.mod_lt _ (by decide)

theorem reported_flow_sound :
    ∃ entry, ((empty hurried (Uuid.supply 0)).after (reconnecting.take 2)).table = [entry] ∧
      entry.2.Sound entry.1 ∧ entry.2.firstSeen < entry.2.lastReport ∧ entry.2.fingerprint ≠ none := by
  have one : ((empty hurried (Uuid.supply 0)).after (reconnecting.take 2)).table.length = 1 := by
    decide
  have shown : ∀ entry ∈ ((empty hurried (Uuid.supply 0)).after (reconnecting.take 2)).table,
      entry.2.firstSeen < entry.2.lastReport ∧ entry.2.fingerprint ≠ none := by
    decide
  obtain ⟨entry, only⟩ := List.length_eq_one_iff.mp one
  obtain ⟨sound, -⟩ :=
    flows_in_table_sound hurried (Uuid.supply 0) (by decide) (reconnecting.take 2)
  rw [only] at sound shown
  have member := List.mem_singleton_self entry
  exact ⟨entry, only, sound entry member, shown entry member⟩

end Meter

end FlowProbe
