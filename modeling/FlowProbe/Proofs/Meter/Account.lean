import FlowProbe.Proofs.Address.Text
import FlowProbe.Proofs.Meter.Identifier
import FlowProbe.Proofs.Text.Json
import FlowProbe.Proofs.Time.Calendar
import FlowProbe.Text

set_option autoImplicit false

namespace FlowProbe

section Identifiers

open Address (digitValue?)

theorem parts_plain {separator : Char} {part : List Char} (plain : separator ∉ part) :
    parts separator part = [part] := by
  induction part with
  | nil => rfl
  | cons c rest ih =>
    obtain ⟨other, plain⟩ := not_or.mp (List.mem_cons.not.mp plain)
    rw [parts, if_neg (Ne.symm other), ih plain]

theorem parts_append {separator : Char} {part : List Char} (plain : separator ∉ part)
    (rest : List Char) :
    parts separator (part ++ separator :: rest) = part :: parts separator rest := by
  induction part with
  | nil => rw [List.nil_append, parts, if_pos rfl]
  | cons c part ih =>
    obtain ⟨other, plain⟩ := not_or.mp (List.mem_cons.not.mp plain)
    rw [List.cons_append, parts, if_neg (Ne.symm other), ih plain]

namespace Uuid

def octets? : List Char → Option (List UInt8)
  | [] => some []
  | [_] => none
  | high :: low :: rest => do
    let value := (← digitValue? 16 high) * 16 + (← digitValue? 16 low)
    return UInt8.ofNat value :: (← octets? rest)

def ofText? (source : String) : Option Uuid := do
  let groups := parts '-' source.toList
  if groups.map List.length = [8, 4, 4, 4, 12] then
    let octets ← octets? groups.flatten
    if sixteen : octets.length = 16 then some ⟨⟨octets, sixteen⟩⟩ else none
  else none

theorem octets?_hex (bytes : List UInt8) : octets? (bytes.flatMap hex) = some bytes := by
  induction bytes with
  | nil => rfl
  | cons byte rest ih =>
    have below := byte.toNat_lt
    have high : digitValue? 16 (Nat.digitChar (byte.toNat / 16)) = some (byte.toNat / 16) :=
      Address.digitValue?_digitChar (by decide) (by omega)
    have low : digitValue? 16 (Nat.digitChar (byte.toNat % 16)) = some (byte.toNat % 16) :=
      Address.digitValue?_digitChar (by decide) (Nat.mod_lt _ (by decide))
    have value : UInt8.ofNat (byte.toNat / 16 * 16 + byte.toNat % 16) = byte := by
      rw [Nat.div_add_mod', UInt8.ofNat_toNat]
    rw [List.flatMap_cons, hex, List.cons_append, List.singleton_append, octets?, high, low, ih]
    exact congrArg (fun octet => some (octet :: rest)) value

theorem dash_hex (bytes : List UInt8) : '-' ∉ bytes.flatMap hex := by
  have digit : ∀ value < 16, '-' ≠ Nat.digitChar value := by decide
  rw [List.mem_flatMap]
  rintro ⟨byte, -, member⟩
  have below := byte.toNat_lt
  simp only [hex, List.mem_cons, List.not_mem_nil, or_false] at member
  rcases member with high | low
  next => exact digit _ (by omega) high
  next => exact digit _ (by omega) low

def pieces (octets : List UInt8) : List (List UInt8) := [
  (octets.drop 0).take 4, (octets.drop 4).take 2, (octets.drop 6).take 2, (octets.drop 8).take 2,
  (octets.drop 10).take 6]

theorem flatten_pieces {octets : List UInt8} (sixteen : octets.length = 16) :
    (pieces octets).flatten = octets := by
  have join (first count : Nat) :
      (octets.drop first).take count ++ octets.drop (first + count) = octets.drop first := by
    rw [← List.drop_drop, List.take_append_drop]
  have last : (octets.drop 10).take 6 = octets.drop 10 := by
    rw [List.take_of_length_le]
    rw [List.length_drop, sixteen]
  simp only [pieces, List.flatten_cons, List.flatten_nil, List.append_nil]
  rw [last, join 8 2, join 6 2, join 4 2, join 0 4, List.drop_zero]

theorem parts_chars (uuid : Uuid) :
    parts '-' uuid.chars = (pieces uuid.octets.val).map fun piece => piece.flatMap hex := by
  simp only [chars, pieces, List.append_assoc, List.cons_append, parts_append (dash_hex _),
    parts_plain (dash_hex _), List.map_cons, List.map_nil]

theorem ofText?_text (uuid : Uuid) : ofText? uuid.text = some uuid := by
  have sixteen := uuid.octets.property
  have lengths : (((pieces uuid.octets.val).map fun piece => piece.flatMap hex).map List.length) =
      [8, 4, 4, 4, 12] := by
    simp only [pieces, List.map_cons, List.map_nil, length_hex, List.length_take, List.length_drop,
      sixteen]
    rfl
  have flat : ((pieces uuid.octets.val).map fun piece => piece.flatMap hex).flatten =
      uuid.octets.val.flatMap hex := by
    rw [← List.flatMap_def, ← List.flatMap_assoc, List.flatMap_id', flatten_pieces sixteen]
  rw [ofText?, text, String.toList_ofList, parts_chars, if_pos lengths, flat, octets?_hex]
  exact dif_pos sixteen

end Uuid

end Identifiers

section Values

open Address (symbol)

def port? (number : Nat) : Option UInt16 :=
  if number < 65536 then some (UInt16.ofNat number) else none

def IpVersion.ofNumber? : Nat → Option IpVersion
  | 4 => some .v4
  | 6 => some .v6
  | _ => none

def Flow.fingerprint? (source : String) : Option (Option (UInt16 × UInt8)) :=
  if source = "" then some none
  else do
    let (window, rest) ← JsonText.number? source.toList
    let (hops, rest) ← JsonText.number? (← symbol '_' rest)
    if rest = [] ∧ window < 65536 ∧ hops < 256 then
      some (some (UInt16.ofNat window, UInt8.ofNat hops))
    else none

theorem port?_toNat (port : UInt16) : port? port.toNat = some port := by
  rw [port?, if_pos port.toNat_lt, UInt16.ofNat_toNat]

theorem IpVersion.ofNumber?_number (version : IpVersion) :
    IpVersion.ofNumber? version.number = some version := by
  cases version <;> rfl

theorem Flow.fingerprint?_text (fingerprint : Option (UInt16 × UInt8)) :
    Flow.fingerprint? (Flow.fingerprintText fingerprint) = some fingerprint := by
  cases fingerprint with
  | none => rfl
  | some shown =>
    obtain ⟨window, hops⟩ := shown
    have written : (Flow.fingerprintText (some (window, hops))).toList =
        Nat.toDigits 10 window.toNat ++ '_' :: Nat.toDigits 10 hops.toNat := by
      simp [Flow.fingerprintText, Nat.toList_repr]
    have nonempty : Flow.fingerprintText (some (window, hops)) ≠ "" := by
      intro empty
      rw [empty] at written
      simp at written
    have last : JsonText.number? (Nat.toDigits 10 hops.toNat) = some (hops.toNat, []) := by
      rw [← List.append_nil (Nat.toDigits 10 hops.toNat)]
      exact JsonText.number?_toDigits hops.toNat rfl
    have first := JsonText.number?_toDigits window.toNat
      (Address.digits_stop 10 (c := '_') (by decide) (Nat.toDigits 10 hops.toNat))
    rw [Flow.fingerprint?, if_neg nonempty, written, first]
    simp [symbol, last, window.toNat_lt, hops.toNat_lt]

theorem Record.text?_ofText (source : String) : (Record.ofText source).text? = some source := by
  have octets : ByteArray.mk source.toUTF8.toList.toArray = source.toUTF8 := by
    rw [ByteArray.toList, toList_loop]
    rfl
  rw [text?, ofText, octets, String.fromUTF8?]
  exact dif_pos source.isValidUTF8

def Record.entries? (record : Record) : Option (List (String × JsonText.Value)) :=
  record.text?.bind JsonText.object?

theorem Record.entries?_summary (flow : Flow) (known : Enrichment) :
    (Record.ofText (flow.summary known)).entries? = some (flow.members known) := by
  rw [entries?, text?_ofText, Option.bind_some, Flow.summary, JsonText.object?_object]

end Values

/-- What a record says of a flow. Times are whole seconds since the epoch. -/
structure Account where
  id : Uuid
  client : Endpoint
  server : Endpoint
  version : IpVersion
  fingerprint : Option (UInt16 × UInt8)
  protocol : String
  clientCountry : String
  serverCountry : String
  clientNetwork : String
  serverNetwork : String
  firstSeen : Int
  lastSeen : Int
  clientPackets : Nat
  serverPackets : Nat
  clientBytes : Nat
  serverBytes : Nat
  deriving DecidableEq

namespace Account

def names : List String := [
  "uuid", "src_ip", "dest_ip", "src_port", "dst_port", "ip", "tcp_fingerprint", "proto",
  "src_country", "dst_country", "src_as", "dst_as", "first_seen", "last_seen", "client_num_pkts",
  "server_num_pkts", "client_len_pkts", "server_len_pkts"]

def ofValues? : List JsonText.Value → Option Account
  | [.text id, .text clientAddr, .text serverAddr, .number clientPort, .number serverPort,
      .number version, .text fingerprint, .text protocol, .text clientCountry, .text serverCountry,
      .text clientNetwork, .text serverNetwork, .text firstSeen, .text lastSeen,
      .number clientPackets, .number serverPackets, .number clientBytes, .number serverBytes] => do
    return {
      id := ← Uuid.ofText? id
      client := ⟨← Address.ofText? clientAddr, ← port? clientPort⟩
      server := ⟨← Address.ofText? serverAddr, ← port? serverPort⟩
      version := ← IpVersion.ofNumber? version
      fingerprint := ← Flow.fingerprint? fingerprint
      protocol, clientCountry, serverCountry, clientNetwork, serverNetwork
      firstSeen := ← Calendar.second? firstSeen
      lastSeen := ← Calendar.second? lastSeen
      clientPackets, serverPackets, clientBytes, serverBytes }
  | _ => none

def ofRecord? (record : Record) : Option Account := do
  let entries ← record.entries?
  if entries.map Prod.fst = names then ofValues? (entries.map Prod.snd) else none

def ofFlow (flow : Flow) (known : Enrichment) : Account where
  id := flow.id
  client := flow.client
  server := flow.server
  version := flow.version
  fingerprint := flow.fingerprint
  protocol := protocolName flow.proto
  clientCountry := (known.country flow.client.addr).getD ""
  serverCountry := (known.country flow.server.addr).getD ""
  clientNetwork := (known.network flow.client.addr).getD ""
  serverNetwork := (known.network flow.server.addr).getD ""
  firstSeen := flow.firstSeen.seconds
  lastSeen := flow.lastSeen.seconds
  clientPackets := flow.clientPackets
  serverPackets := flow.serverPackets
  clientBytes := flow.clientBytes
  serverBytes := flow.serverBytes

theorem ofValues?_members {flow : Flow} (first : Calendar.Writable flow.firstSeen)
    (last : Calendar.Writable flow.lastSeen) (known : Enrichment) :
    ofValues? ((flow.members known).map Prod.snd) = some (ofFlow flow known) := by
  simp only [Flow.members, List.map_cons, List.map_nil, ofValues?, Uuid.ofText?_text,
    Address.ofText?_text, port?_toNat, IpVersion.ofNumber?_number, Flow.fingerprint?_text,
    Calendar.second?_text first, Calendar.second?_text last]
  rfl

theorem ofRecord?_summary {flow : Flow} (first : Calendar.Writable flow.firstSeen)
    (last : Calendar.Writable flow.lastSeen) (known : Enrichment) :
    ofRecord? (.ofText (flow.summary known)) = some (ofFlow flow known) := by
  have listed : (flow.members known).map Prod.fst = names := rfl
  rw [ofRecord?, Record.entries?_summary, Option.bind_eq_bind, Option.bind_some, if_pos listed,
    ofValues?_members first last]

end Account

/-- The record of a flow whose times can be written is one object with all the members in their order,
which reads as the account of the flow. Flows of different accounts have different records. -/
theorem Meter.record_reads_as_account (meter : Meter) (report : Report)
    (first : Calendar.Writable report.flow.firstSeen)
    (last : Calendar.Writable report.flow.lastSeen) :
    let record := meter.record report
    let account := Account.ofFlow report.flow meter.config.enrichment
    (∃ entries, record.entries? = some entries ∧ entries.map Prod.fst = Account.names) ∧
      Account.ofRecord? record = some account ∧
      ∀ (other : Meter) (twin : Report), Calendar.Writable twin.flow.firstSeen →
        Calendar.Writable twin.flow.lastSeen →
          Account.ofFlow twin.flow other.config.enrichment ≠ account →
            other.record twin ≠ record := by
  intro record account
  have reads := Account.ofRecord?_summary first last meter.config.enrichment
  refine ⟨⟨_, Record.entries?_summary _ _, rfl⟩, reads, ?_⟩
  intro other twin twinFirst twinLast apart same
  have twinReads := Account.ofRecord?_summary twinFirst twinLast other.config.enrichment
  have equal : some (Account.ofFlow twin.flow other.config.enrichment) = some account := by
    rw [← twinReads, ← reads]
    exact congrArg Account.ofRecord? same
  exact apart (Option.some.inj equal)

-- A flow between a mapped address and one with two runs of zeros, from a leap day to the first year of
-- five digits.
def Flow.enduring : Flow where
  id := .supply 3 5
  client := ⟨.v6 ⟨List.replicate 10 0 ++ [0xff, 0xff, 192, 0, 2, 7], rfl⟩, 40000⟩
  server := ⟨.v6 ⟨[0x20, 0x01, 0x0d, 0xb8, 0, 0, 0, 0, 0, 1, 0, 0, 0, 0, 0, 1], rfl⟩, 443⟩
  proto := 6
  version := .v6
  fingerprint := some (64240, 57)
  firstSeen := .ofParts 951782400 5
  lastSeen := .ofParts 253402300800 0
  lastReport := 0
  clientPackets := 12
  serverPackets := 18446744073709551615
  clientBytes := 0
  serverBytes := 4096
  clientClosed := true
  serverClosed := false

-- What is known holds the marks of the text that it is put in.
def Enrichment.marked : Enrichment where
  country := fun address =>
    if address = Flow.enduring.client.addr then some "\"\u00c5land\"\\\x01\n" else Option.none
  network := fun address =>
    if address = Flow.enduring.server.addr then some "\",\"dst_as\":\"" else Option.none

theorem Meter.enduring_record_reads_as_account :
    Account.ofRecord? ((Meter.empty { known := some .marked } (.supply 3)).record
        ⟨.finished, .enduring⟩) =
      some {
        id := .supply 3 5
        client := Flow.enduring.client
        server := Flow.enduring.server
        version := .v6
        fingerprint := some (64240, 57)
        protocol := "TCP"
        clientCountry := "\"\u00c5land\"\\\x01\n"
        serverCountry := ""
        clientNetwork := ""
        serverNetwork := "\",\"dst_as\":\""
        firstSeen := 951782400
        lastSeen := 253402300800
        clientPackets := 12
        serverPackets := 18446744073709551615
        clientBytes := 0
        serverBytes := 4096 } :=
  (record_reads_as_account (.empty { known := some .marked } (.supply 3)) ⟨.finished, .enduring⟩
    (by decide) (by decide)).2.1

end FlowProbe
