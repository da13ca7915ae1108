import FlowProbe.Collector
import FlowProbe.Files
import FlowProbe.Meter
import FlowProbe.Ring
import FlowProbe.Text

set_option autoImplicit false

namespace FlowProbe

structure CaptureSection where
  device : String
  workers : UInt64
  ring : Ring := {}
  promiscuous : Bool := true
  deriving DecidableEq

structure CollectorSection where
  endpoint : String
  highWater : UInt64 := 1000
  deriving DecidableEq

structure EnrichmentSection where
  countryDb : Option String := none
  networkDb : Option String := none
  deriving DecidableEq

structure FlowSection where
  idle : UInt64 := 30
  active : UInt64 := 120
  deriving DecidableEq

inductive LogFormat where
  | compact
  | json
  deriving DecidableEq, Repr

def LogFormat.name : LogFormat → String
  | .compact => "compact"
  | .json => "json"

structure LoggingSection where
  level : String := "info"
  format : LogFormat := .compact
  deriving DecidableEq

structure Config where
  capture : CaptureSection
  collector : CollectorSection
  enrichment : EnrichmentSection := {}
  flows : FlowSection := {}
  logging : LoggingSection := {}
  deriving DecidableEq

namespace Config

def meter (config : Config) : MeterConfig where
  idleTimeout := config.flows.idle.toNat * Nanos.perSecond
  activeTimeout := config.flows.active.toNat * Nanos.perSecond
  countryDb := config.enrichment.countryDb
  networkDb := config.enrichment.networkDb

end Config

inductive ConfigFault where
  | noDevice
  | noWorkers
  | ring (fault : RingFault)
  | noScheme (endpoint : String)
  | noHighWater
  | noCountryDb (path : String)
  | noNetworkDb (path : String)
  | noTimeout

def ConfigFault.message : ConfigFault → String
  | .noDevice => "capture.device must not be empty"
  | .noWorkers => "capture.workers must be at least 1"
  | .ring fault => "capture ring: " ++ fault.message
  | .noScheme endpoint => "collector.endpoint '" ++ endpoint ++ "' has no supported scheme"
  | .noHighWater => "collector.send_hwm must be at least 1"
  | .noCountryDb path => "enrichment.country_db '" ++ path ++ "' does not exist"
  | .noNetworkDb path => "enrichment.asn_db '" ++ path ++ "' does not exist"
  | .noTimeout => "flow timeouts must be at least 1s"

namespace CaptureSection

def check (page : Nat) (capture : CaptureSection) : Except ConfigFault Unit :=
  if allBlank capture.device then .error .noDevice
  else if capture.workers = 0 then .error .noWorkers
  else
    match capture.ring.check page with
    | .error fault => .error (.ring fault)
    | .ok () => .ok ()

end CaptureSection

namespace CollectorSection

def check (collector : CollectorSection) : Except ConfigFault Unit :=
  if !Collector.supports collector.endpoint then .error (.noScheme collector.endpoint)
  else if collector.highWater = 0 then .error .noHighWater
  else .ok ()

end CollectorSection

namespace EnrichmentSection

def present (files : FileTree) : Option String → (String → ConfigFault) → Except ConfigFault Unit
  | none, _ => .ok ()
  | some path, fault => if files.isFile path then .ok () else .error (fault path)

def check (files : FileTree) (enrichment : EnrichmentSection) : Except ConfigFault Unit := do
  present files enrichment.countryDb .noCountryDb
  present files enrichment.networkDb .noNetworkDb

end EnrichmentSection

namespace FlowSection

def check (flows : FlowSection) : Except ConfigFault Unit :=
  if flows.idle = 0 ∨ flows.active = 0 then .error .noTimeout else .ok ()

end FlowSection

namespace Config

def check (page : Nat) (files : FileTree) (config : Config) : Except ConfigFault Unit := do
  config.capture.check page
  config.collector.check
  config.enrichment.check files
  config.flows.check

end Config

end FlowProbe
