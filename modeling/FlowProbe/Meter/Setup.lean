import FlowProbe.Classifier
import FlowProbe.Failure
import FlowProbe.Files
import FlowProbe.Meter
import FlowProbe.Text.Quoted

set_option autoImplicit false

namespace FlowProbe

namespace MeterConfig

def databases (config : MeterConfig) : List String :=
  config.countryDb.toList ++ config.networkDb.toList

def firstMissing? (config : MeterConfig) (files : FileTree) : Option String :=
  config.databases.find? fun path => !files.isFile path

def meterFor (config : MeterConfig) (files : FileTree) (worker : WorkerId) :
    Except PoolFailure Meter :=
  match config.firstMissing? files with
  | some path =>
    .error (.classifier worker.index ("enrichment database " ++ path ++ " not found"))
  | none => .ok (.empty config (Uuid.supply worker.index))

def optionText : Option String → String
  | none => "None"
  | some path => "Some(" ++ Quoted.text path ++ ")"

def describe (config : MeterConfig) : String :=
  "FlowMeterConfig \x7b idle_timeout: " ++ Span.text config.idleTimeout ++
    ", active_timeout: " ++ Span.text config.activeTimeout ++
    ", country_db: " ++ optionText config.countryDb ++
    ", asn_db: " ++ optionText config.networkDb ++
    ", geo: " ++ toString config.known.isSome ++ " \x7d"

end MeterConfig

namespace Meter

def record (meter : Meter) (report : Report) : Record :=
  .ofText (meter.summary report)

def classifier : Classifier Meter where
  process := fun _ meter captured =>
    let (next, reports) := meter.process captured
    ⟨reports.map meter.record, some next⟩
  flush := fun _ meter =>
    let (next, reports) := meter.flush
    ⟨reports.map meter.record, some next⟩

end Meter

end FlowProbe
