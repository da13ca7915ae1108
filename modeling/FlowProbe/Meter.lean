import FlowProbe.Capture
import FlowProbe.Meter.Flow

set_option autoImplicit false

namespace FlowProbe

abbrev FlowTable := List (FlowKey × Flow)

namespace FlowTable

def find? : FlowTable → FlowKey → Option Flow
  | [], _ => none
  | (k, flow) :: rest, key => if k = key then some flow else find? rest key

def insert : FlowTable → FlowKey → Flow → FlowTable
  | [], key, flow => [(key, flow)]
  | (k, old) :: rest, key, flow =>
    if k = key then (k, flow) :: rest else (k, old) :: insert rest key flow

def erase : FlowTable → FlowKey → FlowTable
  | [], _ => []
  | (k, flow) :: rest, key => if k = key then rest else (k, flow) :: erase rest key

theorem find?_insert (table : FlowTable) (key other : FlowKey) (flow : Flow) :
    (table.insert key flow).find? other = if key = other then some flow else table.find? other := by
  induction table with
  | nil => simp [insert, find?]
  | cons entry rest ih =>
    obtain ⟨k, old⟩ := entry
    by_cases h : k = key
    · subst h
      by_cases h' : k = other <;> simp [insert, find?, h']
    · by_cases h' : k = other
      · subst h'
        simp [insert, find?, h, Ne.symm h]
      · simp [insert, find?, h, h', ih]

end FlowTable

structure MeterConfig where
  idleTimeout : Nanos := 30 * Nanos.perSecond
  activeTimeout : Nanos := 120 * Nanos.perSecond
  countryDb : Option String := none
  networkDb : Option String := none
  known : Option Enrichment := none

def MeterConfig.enrichment (config : MeterConfig) : Enrichment :=
  config.known.getD .none

structure Meter where
  config : MeterConfig
  -- The identifiers to draw from, in order.
  supply : Nat → Uuid
  drawn : Nat
  table : FlowTable
  sinceScan : Nat

/-- Why a flow is reported. All but the periodic report remove it from the table. -/
inductive Occasion where
  | finished
  | periodic
  | idle
  | flushed
  deriving DecidableEq, Repr

structure Report where
  occasion : Occasion
  flow : Flow

namespace Meter

def scanInterval : Nat := 1024

def empty (config : MeterConfig) (supply : Nat → Uuid) : Meter where
  config := config
  supply := supply
  drawn := 0
  table := []
  sinceScan := 0

def flowOf (meter : Meter) (packet : Packet) (time : Nanos) : Flow :=
  match meter.table.find? packet.key with
  | some flow => flow
  | none => .start (meter.supply meter.drawn) packet time

def drawnAfter (meter : Meter) (packet : Packet) : Nat :=
  match meter.table.find? packet.key with
  | some _ => meter.drawn
  | none => meter.drawn + 1

def count (meter : Meter) (packet : Packet) (length : Nat) (time : Nanos) :
    Meter × List Report :=
  let flow := (meter.flowOf packet time).update packet length time
  let meter := { meter with drawn := meter.drawnAfter packet }
  if flow.finishedBy packet then
    ({ meter with table := meter.table.erase packet.key }, [⟨.finished, flow⟩])
  else if meter.config.activeTimeout ≤ time - flow.lastReport then
    let flow := { flow with lastReport := time }
    ({ meter with table := meter.table.insert packet.key flow }, [⟨.periodic, flow⟩])
  else
    ({ meter with table := meter.table.insert packet.key flow }, [])

def isIdle (meter : Meter) (now : Nanos) (flow : Flow) : Bool :=
  meter.config.idleTimeout ≤ now - flow.lastSeen

def expire (meter : Meter) (now : Nanos) : Meter × List Report :=
  ({ meter with table := meter.table.filter fun entry => !meter.isIdle now entry.2 },
    (meter.table.filter fun entry => meter.isIdle now entry.2).map fun entry =>
      ⟨.idle, entry.2⟩)

/-- Takes note of one more parsed packet and scans if it is time to. -/
def tick (meter : Meter) (now : Nanos) : Meter × List Report :=
  if scanInterval ≤ meter.sinceScan + 1 then
    { meter with sinceScan := 0 }.expire now
  else
    ({ meter with sinceScan := meter.sinceScan + 1 }, [])

/-- A frame that cannot be parsed leaves no trace. -/
def process (meter : Meter) (captured : Captured) : Meter × List Report :=
  match Packet.parse? captured.bytes with
  | none => (meter, [])
  | some packet =>
    let (meter, counted) := meter.count packet captured.length captured.time
    let (meter, expired) := meter.tick captured.time
    (meter, counted ++ expired)

def flush (meter : Meter) : Meter × List Report :=
  ({ meter with table := [] }, meter.table.map fun entry => ⟨.flushed, entry.2⟩)

def summary (meter : Meter) (report : Report) : String :=
  report.flow.summary meter.config.enrichment

end Meter

end FlowProbe
