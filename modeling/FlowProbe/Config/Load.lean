import FlowProbe.Config
import FlowProbe.Toml.Document
import FlowProbe.Toml.Layout

set_option autoImplicit false

namespace FlowProbe

open Toml (Decoder Field Layout)

namespace Config

def word : Decoder UInt32 := fun value =>
  (Decoder.natural UInt32.size "u32" value).map UInt32.ofNat

def long (name : String) : Decoder UInt64 := fun value =>
  (Decoder.natural UInt64.size name value).map UInt64.ofNat

def path : Decoder (Option String) := fun value =>
  (Decoder.string "path string" value).map some

def text : Decoder String := Decoder.string "a string"

end Config

namespace CaptureSection

def layout : Layout CaptureSection where
  title := "struct CaptureConfig"
  blank := { device := "", workers := 0 }
  fields := [
    .of "device" .required Config.text fun device draft => { draft with device },
    .of "workers" .required (Config.long "usize") fun workers draft => { draft with workers },
    .of "ring_block_size" .optional Config.word fun blockSize draft =>
      { draft with ring.blockSize := blockSize },
    .of "ring_block_count" .optional Config.word fun blockCount draft =>
      { draft with ring.blockCount := blockCount },
    .of "frame_size" .optional Config.word fun frameSize draft =>
      { draft with ring.frameSize := frameSize },
    .of "promiscuous" .optional Decoder.boolean fun promiscuous draft =>
      { draft with promiscuous }]

end CaptureSection

namespace CollectorSection

def layout : Layout CollectorSection where
  title := "struct CollectorConfig"
  blank := { endpoint := "" }
  fields := [
    .of "endpoint" .required Config.text fun endpoint draft => { draft with endpoint },
    .of "send_hwm" .optional (Config.long "usize") fun highWater draft =>
      { draft with highWater }]

end CollectorSection

namespace EnrichmentSection

def layout : Layout EnrichmentSection where
  title := "struct EnrichmentConfig"
  blank := {}
  fields := [
    .of "country_db" .listed Config.path fun countryDb draft => { draft with countryDb },
    .of "asn_db" .listed Config.path fun networkDb draft => { draft with networkDb }]

end EnrichmentSection

namespace FlowSection

def layout : Layout FlowSection where
  title := "struct FlowsConfig"
  blank := {}
  fields := [
    .of "idle_timeout_secs" .optional (Config.long "u64") fun idle draft => { draft with idle },
    .of "active_timeout_secs" .optional (Config.long "u64") fun active draft =>
      { draft with active }]

end FlowSection

namespace LoggingSection

def formats : List (String × LogFormat) :=
  [LogFormat.compact, LogFormat.json].map fun format => (format.name, format)

def layout : Layout LoggingSection where
  title := "struct LoggingConfig"
  blank := {}
  fields := [
    .of "level" .optional Config.text fun level draft => { draft with level },
    .of "format" .optional (Decoder.variant formats) fun format draft => { draft with format }]

end LoggingSection

namespace Config

def layout : Layout Config where
  title := "struct Config"
  blank := ⟨CaptureSection.layout.blank, CollectorSection.layout.blank, {}, {}, {}⟩
  fields := [
    .of "capture" .required CaptureSection.layout.decode fun capture draft =>
      { draft with capture },
    .of "collector" .required CollectorSection.layout.decode fun collector draft =>
      { draft with collector },
    .of "enrichment" .optional EnrichmentSection.layout.decode fun enrichment draft =>
      { draft with enrichment },
    .of "flows" .optional FlowSection.layout.decode fun flows draft => { draft with flows },
    .of "logging" .optional LoggingSection.layout.decode fun logging draft =>
      { draft with logging }]

end Config

end FlowProbe

namespace FlowProbe.Config

def validated (page : Nat) (files : FileTree) (config : Config) : Except ConfigFailure Config :=
  match config.check page files with
  | .error fault => .error (.invalid fault.message)
  | .ok () => .ok config

def parse (path source : String) : Except ConfigFailure Config :=
  match Toml.read? source with
  | none => .error (.malformed path)
  | some entries => (layout.ofEntries entries).mapError (.misfit path)

def load (page : Nat) (files : FileTree) (path : String) : Except ConfigFailure Config := do
  let source ← (files.readText path).mapError fun fault => .unreadable path ⟨fault.message⟩
  let config ← parse path source
  config.validated page files

end FlowProbe.Config
