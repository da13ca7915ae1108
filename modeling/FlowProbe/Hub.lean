import FlowProbe.Capture
import FlowProbe.Packet

set_option autoImplicit false

namespace FlowProbe

structure Mailbox where
  id : Nat
  frames : List Captured
  woken : Bool

structure Hub where
  device : String
  -- The group that joining binds the hub to.
  group : Option UInt16
  -- The joined channels, oldest first.
  members : List Mailbox
  nextId : Nat
  -- How many more channels may join, if there is a limit.
  budget : Option Nat

namespace Hub

def ofDevice (device : String) : Hub :=
  ⟨device, none, [], 0, none⟩

def limit (hub : Hub) (joins : Option Nat) : Hub :=
  { hub with budget := joins }

def size (hub : Hub) : Nat := hub.members.length

def pending (hub : Hub) : Nat :=
  hub.members.foldl (fun total mailbox => total + mailbox.frames.length) 0

def member? (hub : Hub) (id : Nat) : Option Mailbox :=
  hub.members.find? fun mailbox => mailbox.id = id

def boundMessage (group : UInt16) : String :=
  "hub already bound to group " ++ toString group.toNat

def bind (hub : Hub) (group : UInt16) : Except CaptureFailure Hub :=
  match hub.group with
  | some bound =>
    if bound = group then .ok hub
    else .error (.fanoutJoinFailed group ⟨boundMessage bound⟩)
  | none => .ok { hub with group := some group }

def spend (hub : Hub) (group : UInt16) : Except CaptureFailure Hub :=
  match hub.budget with
  | none => .ok hub
  | some 0 => .error (.fanoutJoinFailed group ⟨"join rejected"⟩)
  | some (joins + 1) => .ok { hub with budget := some joins }

def join (hub : Hub) : Hub :=
  { hub with
    members := hub.members ++ [⟨hub.nextId, [], false⟩]
    nextId := hub.nextId + 1 }

/-- Opens a channel. Its identifier is the next one of the hub before. A hub that has been bound
stays bound, also if the channel is refused. -/
def openChannel (hub : Hub) (device : String) (group : UInt16) : Except CaptureFailure Nat × Hub :=
  if device ≠ hub.device then (.error (.noSuchDevice device), hub)
  else
    match hub.bind group with
    | .error failure => (.error failure, hub)
    | .ok bound =>
      match bound.spend group with
      | .error failure => (.error failure, bound)
      | .ok hub => (.ok hub.nextId, hub.join)

/-- The last channel to leave frees the hub for another group. -/
def leave (hub : Hub) (id : Nat) : Hub :=
  let members := hub.members.filter fun mailbox => mailbox.id ≠ id
  { hub with members, group := if members.isEmpty then none else hub.group }

/-- The position of the member that a frame goes to. What cannot be parsed goes to the oldest. -/
def slotOf (members : Nat) (frame : List UInt8) : Nat :=
  match Packet.parse? frame with
  | some packet => packet.key.slot members
  | none => 0

def update (hub : Hub) (id : Nat) (change : Mailbox → Mailbox) : Hub :=
  { hub with
    members := hub.members.map fun mailbox => if mailbox.id = id then change mailbox else mailbox }

def inject (hub : Hub) (captured : Captured) : Option Nat × Hub :=
  if hub.members.isEmpty then (none, hub)
  else
    let slot := slotOf hub.members.length captured.bytes
    (some slot, { hub with
      members := hub.members.modify slot fun mailbox =>
        { mailbox with frames := mailbox.frames ++ [captured] } })

def wake (hub : Hub) (id : Nat) : Hub :=
  hub.update id fun mailbox => { mailbox with woken := true }

/-- Takes the next frame of a channel. A channel that was woken keeps its frames. -/
def receive (hub : Hub) (id : Nat) : Receipt × Hub :=
  match hub.member? id with
  | none => (.nothing, hub)
  | some mailbox =>
    if mailbox.woken then (.ended none, hub)
    else
      match mailbox.frames with
      | [] => (.nothing, hub)
      | captured :: rest =>
        (.frame captured, hub.update id fun mailbox => { mailbox with frames := rest })

def receiveMany (hub : Hub) (id : Nat) : Nat → List Captured × Hub
  | 0 => ([], hub)
  | count + 1 =>
    match hub.receive id with
    | (.frame captured, hub) =>
      let (more, hub) := receiveMany hub id count
      (captured :: more, hub)
    | (_, hub) => ([], hub)

def capture : Capture Hub where
  channelSize := 16
  openChannel := openChannel
  receive := receive
  wake := wake
  close := leave

end Hub

end FlowProbe
