import FlowProbe.Meter.Flow
import Mathlib.Algebra.Ring.Nat

set_option autoImplicit false

namespace FlowProbe

def Flow.reportedAt (flow : Flow) (time : Nanos) : Flow :=
  { flow with lastReport := time }

/-- A parsed packet, its length on the wire and the moment of its capture. -/
structure Sighting where
  packet : Packet
  length : Nat
  time : Nanos
  deriving DecidableEq

structure Lifetime where
  id : Uuid
  first : Sighting
  later : List Sighting

namespace Lifetime

def sightings (life : Lifetime) : List Sighting :=
  life.first :: life.later

def client (life : Lifetime) : Endpoint :=
  if life.first.packet.answers then life.first.packet.destination else life.first.packet.source

def server (life : Lifetime) : Endpoint :=
  if life.first.packet.answers then life.first.packet.source else life.first.packet.destination

def fromClient (life : Lifetime) (sighting : Sighting) : Bool :=
  sighting.packet.source = life.client

def clientSightings (life : Lifetime) : List Sighting :=
  life.sightings.filter life.fromClient

def serverSightings (life : Lifetime) : List Sighting :=
  life.sightings.filter fun sighting => !life.fromClient sighting

def fingerprint (life : Lifetime) : Option (UInt16 × UInt8) :=
  (life.clientSightings.find? fun sighting => sighting.packet.opens).bind fun sighting =>
    sighting.packet.fingerprint

def lastSeen (life : Lifetime) : Nanos :=
  (life.sightings.map Sighting.time).foldl max 0

def members (life : Lifetime) (known : Enrichment) : List (String × JsonText.Value) := [
  ("uuid", .text life.id.text),
  ("src_ip", .text life.client.addr.text),
  ("dest_ip", .text life.server.addr.text),
  ("src_port", .number life.client.port.toNat),
  ("dst_port", .number life.server.port.toNat),
  ("ip", .number life.first.packet.version.number),
  ("tcp_fingerprint", .text (Flow.fingerprintText life.fingerprint)),
  ("proto", .text (protocolName life.first.packet.proto)),
  ("src_country", .text ((known.country life.client.addr).getD "")),
  ("dst_country", .text ((known.country life.server.addr).getD "")),
  ("src_as", .text ((known.network life.client.addr).getD "")),
  ("dst_as", .text ((known.network life.server.addr).getD "")),
  ("first_seen", .text (Calendar.text life.first.time)),
  ("last_seen", .text (Calendar.text life.lastSeen)),
  ("client_num_pkts", .number life.clientSightings.length),
  ("server_num_pkts", .number life.serverSightings.length),
  ("client_len_pkts", .number (life.clientSightings.map Sighting.length).sum),
  ("server_len_pkts", .number (life.serverSightings.map Sighting.length).sum)]

def flow (life : Lifetime) (reported : Nanos) : Flow where
  id := life.id
  client := life.client
  server := life.server
  proto := life.first.packet.proto
  version := life.first.packet.version
  fingerprint := life.fingerprint
  firstSeen := life.first.time
  lastSeen := life.lastSeen
  lastReport := reported
  clientPackets := life.clientSightings.length
  serverPackets := life.serverSightings.length
  clientBytes := (life.clientSightings.map Sighting.length).sum
  serverBytes := (life.serverSightings.map Sighting.length).sum
  clientClosed := life.clientSightings.any fun sighting => sighting.packet.closes
  serverClosed := life.serverSightings.any fun sighting => sighting.packet.closes

def push (life : Lifetime) (sighting : Sighting) : Lifetime :=
  { life with later := life.later ++ [sighting] }

@[simp]
theorem flow_reportedAt (life : Lifetime) (reported time : Nanos) :
    (life.flow reported).reportedAt time = life.flow time :=
  rfl

@[simp]
theorem id_push (life : Lifetime) (sighting : Sighting) : (life.push sighting).id = life.id :=
  rfl

@[simp]
theorem first_push (life : Lifetime) (sighting : Sighting) :
    (life.push sighting).first = life.first :=
  rfl

@[simp]
theorem client_push (life : Lifetime) (sighting : Sighting) :
    (life.push sighting).client = life.client :=
  rfl

@[simp]
theorem server_push (life : Lifetime) (sighting : Sighting) :
    (life.push sighting).server = life.server :=
  rfl

theorem clientSightings_push (life : Lifetime) (sighting : Sighting) :
    (life.push sighting).clientSightings =
      life.clientSightings ++ if life.fromClient sighting then [sighting] else [] := by
  change (life.sightings ++ [sighting]).filter life.fromClient = _
  rw [List.filter_append, clientSightings]
  cases sender : life.fromClient sighting <;> simp [sender]

theorem serverSightings_push (life : Lifetime) (sighting : Sighting) :
    (life.push sighting).serverSightings =
      life.serverSightings ++ if life.fromClient sighting then [] else [sighting] := by
  change (life.sightings ++ [sighting]).filter (fun sighting => !life.fromClient sighting) = _
  rw [List.filter_append, serverSightings]
  cases sender : life.fromClient sighting <;> simp [sender]

theorem lastSeen_push (life : Lifetime) (sighting : Sighting) :
    (life.push sighting).lastSeen = max life.lastSeen sighting.time := by
  change ((life.sightings ++ [sighting]).map Sighting.time).foldl max 0 = _
  simp [lastSeen, List.foldl_append]

theorem opens_fingerprint (packet : Packet) (opens : packet.opens = true) :
    packet.fingerprint.isSome := by
  unfold Packet.opens at opens
  cases header : packet.tcp with
  | none => simp [header] at opens
  | some header' => simp [Packet.fingerprint, header]

theorem fingerprint_isNone (life : Lifetime) :
    life.fingerprint.isNone =
      (life.clientSightings.find? fun sighting => sighting.packet.opens).isNone := by
  unfold fingerprint
  cases opening : life.clientSightings.find? fun sighting => sighting.packet.opens with
  | none => rfl
  | some opener =>
    have opens : opener.packet.opens = true := by simpa using List.find?_some opening
    obtain ⟨shown, equal⟩ := Option.isSome_iff_exists.mp (opens_fingerprint opener.packet opens)
    simp [equal]

-- The first fingerprint stays: a later opening packet is not looked at.
theorem fingerprint_push (life : Lifetime) (sighting : Sighting) :
    (life.push sighting).fingerprint =
      if life.fromClient sighting && sighting.packet.opens && life.fingerprint.isNone then
        sighting.packet.fingerprint
      else life.fingerprint := by
  rw [fingerprint_isNone]
  unfold fingerprint
  rw [clientSightings_push, List.find?_append]
  cases life.clientSightings.find? fun sighting => sighting.packet.opens with
  | some opener => simp
  | none =>
    cases sender : life.fromClient sighting <;> cases opens : sighting.packet.opens <;>
      simp [opens]

theorem flow_start (id : Uuid) (sighting : Sighting) :
    (Flow.start id sighting.packet sighting.time).update sighting.packet sighting.length
        sighting.time =
      flow ⟨id, sighting, []⟩ sighting.time := by
  let life : Lifetime := ⟨id, sighting, []⟩
  have sender : (Flow.start id sighting.packet sighting.time).fromClient sighting.packet =
      life.fromClient sighting := rfl
  have sent : life.clientSightings = if life.fromClient sighting then [sighting] else [] := by
    cases here : life.fromClient sighting <;>
      simp [clientSightings, sightings, life] <;> exact here
  have received : life.serverSightings = if life.fromClient sighting then [] else [sighting] := by
    cases here : life.fromClient sighting <;>
      simp [serverSightings, sightings, life] <;> exact here
  have latest : life.lastSeen = sighting.time := by
    simp [lastSeen, sightings, life]
  change _ = life.flow sighting.time
  simp only [Flow.update, sender, flow, fingerprint, sent, received, latest, Flow.mk.injEq]
  cases life.fromClient sighting <;> cases opens : sighting.packet.opens <;>
    simp [Flow.start, client, server, life, opens]

theorem flow_push (life : Lifetime) (sighting : Sighting) (reported : Nanos) :
    (life.flow reported).update sighting.packet sighting.length sighting.time =
      (life.push sighting).flow reported := by
  have sender : (life.flow reported).fromClient sighting.packet = life.fromClient sighting := rfl
  simp only [Flow.update, sender]
  simp only [flow, clientSightings_push, serverSightings_push, lastSeen_push, fingerprint_push,
    Flow.mk.injEq]
  cases life.fromClient sighting <;> simp

end Lifetime

end FlowProbe
