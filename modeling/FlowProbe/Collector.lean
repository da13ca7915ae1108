import FlowProbe.Address.Reader
import FlowProbe.Failure
import FlowProbe.Files
import FlowProbe.Transport.Framed

set_option autoImplicit false

namespace FlowProbe

structure Network where
  connecting : Except SystemFault Unit
  binding : Address → Except SystemFault Unit

namespace Collector

def invalidArgument : SystemFault := ⟨"Invalid argument"⟩

def noSuchDevice : SystemFault := ⟨"No such device"⟩

def addressInUse : SystemFault := ⟨"Address already in use"⟩

def lastSplit? (separator : Char) (text : List Char) : Option (List Char × List Char) :=
  match text.reverse.span (· ≠ separator) with
  | (_, []) => none
  | (behind, _ :: before) => some (before.reverse, behind.reverse)

def digits? (text : List Char) : Option Nat :=
  if text.isEmpty || !text.all Char.isDigit then none
  else some (text.foldl (fun n c => n * 10 + (c.toNat - 48)) 0)

/-- The integer that a text begins with, blanks and a sign in front of it, held in a signed word of
64 bits. -/
def leadingInteger (text : List Char) : Int :=
  let text := text.dropWhile fun c => c = ' ' ∨ (9 ≤ c.toNat ∧ c.toNat ≤ 13)
  let (negative, text) := match text with
    | '-' :: rest => (true, rest)
    | '+' :: rest => (false, rest)
    | _ => (false, text)
  let value := ((digits? (text.takeWhile Char.isDigit)).getD 0 : Int)
  if negative then max (-value) Int64.minValue.toInt else min value Int64.maxValue.toInt

-- A port to bind: any port, or a number that does not vanish in 16 bits.
def bindsPort (text : List Char) : Bool :=
  text = ['*'] || text = ['0'] || leadingInteger text % 65536 ≠ 0

-- The number of an interface does not vanish in 32 bits.
def isZone (text : List Char) : Bool :=
  match text with
  | [] => false
  | c :: _ => !c.isAlpha && leadingInteger text % UInt32.size ≠ 0

def withoutBrackets (text : List Char) : List Char :=
  match text, text.getLast? with
  | '[' :: rest, some ']' => rest.dropLast
  | _, _ => text

def withoutZone (host : List Char) : Except SystemFault (List Char) :=
  match lastSplit? '%' host with
  | none => .ok host
  | some (host, zone) => if isZone zone then .ok host else .error invalidArgument

def anyAddress : Address := .v4 ⟨[0, 0, 0, 0], rfl⟩

def resolve (text : List Char) : Except SystemFault Address := do
  match lastSplit? ':' text with
  | none => .error invalidArgument
  | some (host, port) =>
    if !bindsPort port then .error invalidArgument
    else
      let host ← withoutZone (withoutBrackets host)
      if host = ['*'] then .ok anyAddress
      else
        match Address.ofNumbers? host with
        | some address => .ok address
        | none => .error noSuchDevice

/-- Binds an address. One to send from, before a semicolon, must be right as well. -/
def bind (network : Network) (text : List Char) : Except SystemFault Unit := do
  match lastSplit? ';' text with
  | none => network.binding (← resolve text)
  | some (source, text) =>
    let _ ← resolve source
    network.binding (← resolve text)

-- Octets in the path of a socket, its terminator included.
def pathLimit : Nat := 108

/-- Binds a path: a new one for an asterisk, or one outside the file system behind an at sign. -/
def bindPath (files : FileTree) (text : List Char) : Except SystemFault Unit :=
  let path := String.ofList text
  if text.head? = some '*' then .ok ()
  else if pathLimit ≤ path.utf8ByteSize then .error ⟨FileFault.nameTooLong.reason⟩
  else if text.head? = some '@' then if text.length = 1 then .error invalidArgument else .ok ()
  else
    match files.vacate path with
    | .ok () => .ok ()
    | .error .alreadyExists => .error addressInUse
    | .error fault => .error ⟨fault.reason⟩

end Collector

namespace Collector

inductive Scheme where
  | framed
  | tcp
  | ipc
  | inproc
  deriving DecidableEq, Repr

namespace Scheme

def opening : Scheme → String
  | .framed => "tcp+framed://"
  | .tcp => "tcp://"
  | .ipc => "ipc://"
  | .inproc => "inproc://"

def all : List Scheme := [.framed, .tcp, .ipc, .inproc]

end Scheme

def supports (endpoint : String) : Bool :=
  Scheme.all.any fun scheme => scheme.opening.toList.isPrefixOf endpoint.toList

def split? (endpoint : String) : Option (Scheme × List Char) :=
  (Scheme.all.find? fun scheme => scheme.opening.toList.isPrefixOf endpoint.toList).map
    fun scheme => (scheme, endpoint.toList.drop scheme.opening.length)

def port? (text : List Char) : Option UInt16 :=
  let unsigned := match text with
    | '+' :: rest => rest
    | _ => text
  match digits? unsigned with
  | some n => if n < 65536 then some (UInt16.ofNat n) else none
  | none => none

def checkFramed (address : List Char) : Except SystemFault Unit :=
  match lastSplit? ':' address with
  | none => .error ⟨"invalid socket address"⟩
  | some (host, behind) =>
    if (port? behind).isNone then .error ⟨"invalid port value"⟩
    else if host.contains '\x00' then .error ⟨FileFault.nulInName.reason⟩
    else .ok ()

end Collector

inductive Link where
  | framed (link : FramedLink)
  -- A bound push socket that nobody has connected to, and the most messages that may wait in it.
  | push (limit : Nat)

namespace Link

def limit : Link → Nat
  | .framed link => link.connection.limit
  | .push limit => limit

def offer : Link → Record → Reply × Link
  | .framed link, record =>
    let (reply, link) := FramedLink.transport.offer link record
    (reply, .framed link)
  | .push limit, record => ((Transport.peerless.offer () record).1, .push limit)

def takeDiscarded : Link → Nat × Link
  | .framed link =>
    let (lost, link) := FramedLink.transport.takeDiscarded link
    (lost, .framed link)
  | .push limit => (0, .push limit)

def close : Link → Link
  | .framed link => .framed (FramedLink.transport.close link)
  | .push limit => .push limit

def transport : Transport Link := ⟨offer, takeDiscarded, close⟩

end Link

inductive Connection where
  | opened (link : Link)
  | refused (failure : ConnectFailure)
  -- A push socket cannot be given an endpoint with a NUL in it.
  | crashed

namespace Collector

def unreachable (endpoint : String) (cause : SystemFault) : Connection :=
  .refused (.unreachable endpoint cause)

-- A push socket holds its limit in a signed word of 32 bits.
def pushLimit (highWater : Nat) : Nat :=
  min highWater (UInt32.size / 2 - 1)

def checkPush (network : Network) (files : FileTree) (address : List Char) :
    Scheme → Except SystemFault Unit
  | .tcp => bind network address
  | .ipc => bindPath files address
  | _ => .ok ()

def connect (network : Network) (files : FileTree) (endpoint : String) (highWater : Nat) :
    Connection :=
  match split? endpoint with
  | none => .refused (.unsupported endpoint)
  | some (.framed, address) =>
    match checkFramed address, network.connecting with
    | .error cause, _ => unreachable endpoint cause
    | .ok _, .error cause => unreachable endpoint cause
    | .ok _, .ok _ => .opened (.framed ⟨.connected highWater, [], []⟩)
  | some (scheme, address) =>
    if endpoint.toList.contains '\x00' then .crashed
    else if address.isEmpty then unreachable endpoint invalidArgument
    else
      match checkPush network files address scheme with
      | .error cause => unreachable endpoint cause
      | .ok _ => .opened (.push (pushLimit highWater))

end Collector

end FlowProbe
