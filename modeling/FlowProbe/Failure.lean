import FlowProbe.Toml.Value

set_option autoImplicit false

namespace FlowProbe

structure SystemFault where
  message : String
  deriving DecidableEq

inductive CaptureFailure where
  | noSuchDevice (device : String)
  | permissionDenied (device : String)
  | fanoutJoinFailed (group : UInt16) (cause : SystemFault)
  | invalidRing (reason : String)
  | system (cause : SystemFault)
  deriving DecidableEq

namespace CaptureFailure

def message : CaptureFailure → String
  | .noSuchDevice device => "no such device: " ++ device
  | .permissionDenied device =>
    "permission denied opening capture on " ++ device ++ " (needs CAP_NET_RAW)"
  | .fanoutJoinFailed group cause =>
    "failed to join fanout group " ++ toString group.toNat ++ ": " ++ cause.message
  | .invalidRing reason => "invalid ring geometry: " ++ reason
  | .system cause => cause.message

def chain (failure : CaptureFailure) : List String :=
  failure.message :: match failure with
    | .fanoutJoinFailed _ cause => [cause.message]
    | .system cause => [cause.message]
    | _ => []

end CaptureFailure

inductive PoolFailure where
  | noWorkers
  | capture (worker : Nat) (cause : CaptureFailure)
  | classifier (worker : Nat) (reason : String)
  | spawn (cause : SystemFault)
  deriving DecidableEq

namespace PoolFailure

def message : PoolFailure → String
  | .noWorkers => "worker count must be at least 1"
  | .capture worker cause => "worker " ++ toString worker ++ ": " ++ cause.message
  | .classifier worker reason =>
    "worker " ++ toString worker ++ ": classifier init failed: " ++ reason
  | .spawn cause => "failed to spawn thread: " ++ cause.message

def chain (failure : PoolFailure) : List String :=
  failure.message :: match failure with
    | .capture _ cause => cause.chain
    | .spawn cause => [cause.message]
    | _ => []

end PoolFailure

inductive ConnectFailure where
  | unsupported (endpoint : String)
  | unreachable (endpoint : String) (cause : SystemFault)
  deriving DecidableEq

namespace ConnectFailure

def message : ConnectFailure → String
  | .unsupported endpoint => "unsupported collector endpoint: " ++ endpoint
  | .unreachable endpoint cause =>
    "failed to reach collector at " ++ endpoint ++ ": " ++ cause.message

def chain (failure : ConnectFailure) : List String :=
  failure.message :: match failure with
    | .unreachable _ cause => [cause.message]
    | _ => []

end ConnectFailure

inductive SendFailure where
  | wouldBlock
  | fatal (cause : SystemFault)
  deriving DecidableEq

namespace SendFailure

def message : SendFailure → String
  | .wouldBlock => "transport would block"
  | .fatal cause => "transport failure: " ++ cause.message

def chain (failure : SendFailure) : List String :=
  failure.message :: match failure with
    | .fatal cause => [cause.message]
    | _ => []

end SendFailure

inductive ConfigFailure where
  | unreadable (path : String) (cause : SystemFault)
  | malformed (path : String)
  | misfit (path : String) (cause : Toml.Misfit)
  | invalid (reason : String)
  deriving DecidableEq

namespace ConfigFailure

def unparsed (path reason : String) : String :=
  "can't parse '" ++ path ++ "': " ++ reason

def malformation : String := "malformed document"

def message : ConfigFailure → String
  | .unreadable path cause => "can't read '" ++ path ++ "': " ++ cause.message
  | .malformed path => unparsed path malformation
  | .misfit path cause => unparsed path cause.message
  | .invalid reason => "invalid configuration: " ++ reason

def chain (failure : ConfigFailure) : List String :=
  failure.message :: match failure with
    | .unreadable _ cause => [cause.message]
    | .malformed _ => [malformation]
    | .misfit _ cause => [cause.message]
    | .invalid _ => []

end ConfigFailure

inductive ProbeFailure where
  | config (cause : ConfigFailure)
  | pool (cause : PoolFailure)
  | connect (cause : ConnectFailure)
  deriving DecidableEq

namespace ProbeFailure

def message : ProbeFailure → String
  | .config cause => cause.message
  | .pool cause => cause.message
  | .connect cause => cause.message

def chain : ProbeFailure → List String
  | .config cause => cause.chain
  | .pool cause => cause.chain
  | .connect cause => cause.chain

end ProbeFailure

end FlowProbe
