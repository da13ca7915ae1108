import FlowProbe.Collector
import FlowProbe.CommandLine
import FlowProbe.Config.Load
import FlowProbe.LogFilter
import FlowProbe.Meter.Setup
import FlowProbe.Probe

set_option autoImplicit false

namespace FlowProbe.Program

variable {κ : Type}

structure Setting (κ : Type) where
  files : FileTree
  network : Network
  -- The group that all workers join.
  group : UInt16
  page : Nat
  -- The octets that can be had in one piece.
  grants : Nat → Bool
  capture : Ring → Capture κ
  captures : κ

inductive Outcome (κ : Type) where
  | answered (text : String)
  | misused (name : String) (refusal : CommandLine.Refusal)
  -- The links of a chain of causes.
  | failed (chain : List String)
  | running (probe : Probe κ Meter Link)
  | crashed
  -- There was no more room on the machine.
  | aborted

def plan (setting : Setting κ) (config : Config) : WorkerPool.Plan κ Meter where
  capture := setting.capture config.capture.ring
  device := config.capture.device
  group := setting.group
  classifierFor := config.meter.meterFor setting.files

def serve (setting : Setting κ) (config : Config) : Outcome κ :=
  let plan := plan setting config
  let workers := config.capture.workers.toNat
  match Collector.connect setting.network setting.files config.collector.endpoint
      config.collector.highWater.toNat with
  | .crashed => .crashed
  | .refused failure => .failed failure.chain
  | .opened link =>
    match plan.reserve setting.grants workers with
    | .error .overflow => .crashed
    | .error .exhausted => .aborted
    | .ok () =>
      match (Probe.launch plan workers setting.captures link).1 with
      | .error failure => .failed ("failed to start capture workers" :: failure.chain)
      | .ok probe => .running probe

def badLevel (level : String) : String :=
  "invalid log level '" ++ level ++ "': invalid filter directive"

def probe (setting : Setting κ) (path : String) : Outcome κ :=
  match Config.load setting.page setting.files path with
  | .error failure => .failed [failure.message]
  | .ok config =>
    match LogFilter.check config.logging.level with
    | .ok () => serve setting config
    | .error .malformed => .failed [badLevel config.logging.level]
    | .error .splitCharacter => .crashed

def run (setting : Setting κ) (arguments : List String) : Outcome κ :=
  let name := CommandLine.calledBy arguments.head?
  match CommandLine.parse arguments.tail with
  | .error refusal => .misused name refusal
  | .ok .help => .answered (CommandLine.helpText name)
  | .ok .version => .answered CommandLine.versionText
  | .ok (.probe path) => probe setting path

namespace Outcome

def exitCode? : Outcome κ → Option UInt8
  | .answered _ => some 0
  | .misused _ _ => some 2
  | .failed _ => some 1
  | .running _ => none
  | .crashed => some 101
  | .aborted => some 134

def output : Outcome κ → String
  | .answered text => text
  | _ => ""

def complaint : Outcome κ → String
  | .failed chain => "error: " ++ String.intercalate ": " chain ++ "\n"
  | .misused name refusal =>
    "error: " ++ refusal.message ++ "\n\n" ++ CommandLine.usage name ++
      "\n\nFor more information, try '--help'.\n"
  | _ => ""

end Outcome

end FlowProbe.Program
