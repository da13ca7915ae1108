import FlowProbe.Failure
import FlowProbe.Ring
import FlowProbe.Time

set_option autoImplicit false

namespace FlowProbe

/-- A frame as it was captured. Its length on the wire is never less than what was kept, as far as a
word of 32 bits can tell. -/
structure Captured where
  time : Nanos
  bytes : List UInt8
  wireLength : UInt32
  kept_le : UInt32.ofNat bytes.length ≤ wireLength

namespace Captured

def of (time : Nanos) (length : UInt32) (bytes : List UInt8) : Captured where
  time := time
  bytes := bytes
  wireLength := if length < UInt32.ofNat bytes.length then UInt32.ofNat bytes.length else length
  kept_le := by
    split
    next => exact UInt32.le_refl _
    next enough => exact UInt32.not_lt.mp enough

def length (captured : Captured) : Nat :=
  captured.wireLength.toNat

def keptLength (captured : Captured) : UInt32 :=
  UInt32.ofNat captured.bytes.length

def isTruncated (captured : Captured) : Bool :=
  captured.keptLength < captured.wireLength

theorem isTruncated_of (time : Nanos) (length : UInt32) (bytes : List UInt8) :
    (of time length bytes).isTruncated = true ↔ UInt32.ofNat bytes.length < length := by
  rw [isTruncated, decide_eq_true_eq]
  simp only [keptLength, of]
  split
  next less =>
    exact ⟨fun own => absurd own (UInt32.lt_irrefl _),
      fun more => absurd less (UInt32.not_lt.mpr (UInt32.le_of_lt more))⟩
  next => exact Iff.rfl

end Captured

inductive Receipt where
  | frame (captured : Captured)
  -- There is no frame yet.
  | nothing
  | ended (failure : Option CaptureFailure)

/-- A backend whose channels have numbers, and whose state is a `κ`. -/
structure Capture (κ : Type) where
  -- How many octets a channel takes.
  channelSize : Nat
  openChannel : κ → String → UInt16 → Except CaptureFailure Nat × κ
  receive : κ → Nat → Receipt × κ
  wake : κ → Nat → κ
  close : κ → Nat → κ

structure ScriptedCapture where
  -- What is left to deliver, and how each channel ends, in the order of opening.
  frames : List (List Captured)
  ends : List (Option CaptureFailure)
  opened : Nat := 0
  closed : List Nat := []

namespace ScriptedCapture

def live (state : ScriptedCapture) : Nat :=
  state.opened - state.closed.length

def receive (state : ScriptedCapture) (channel : Nat) : Receipt × ScriptedCapture :=
  match state.frames.getD channel [] with
  | [] => (.ended (state.ends.getD channel none), state)
  | captured :: rest => (.frame captured, { state with frames := state.frames.set channel rest })

def capture : Capture ScriptedCapture where
  channelSize := 16
  openChannel := fun state _ _ => (.ok state.opened, { state with opened := state.opened + 1 })
  receive := receive
  wake := fun state _ => state
  close := fun state channel => { state with closed := state.closed ++ [channel] }

end ScriptedCapture

end FlowProbe

namespace FlowProbe.Interface

/-- The failure that opening a capture channel ends in without the right to capture. The ring is
checked before the interface is looked for. -/
def refusal (page : Nat) (present : List String) (ring : Ring) (device : String) : CaptureFailure :=
  match ring.check page with
  | .error fault => .invalidRing fault.message
  | .ok _ => if present.contains device then .permissionDenied device else .noSuchDevice device

def capture (page : Nat) (present : List String) (ring : Ring) : Capture Unit where
  channelSize := 64
  openChannel := fun _ device _ => (.error (refusal page present ring device), ())
  receive := fun _ _ => (.ended none, ())
  wake := fun _ _ => ()
  close := fun _ _ => ()

end FlowProbe.Interface
