import FlowProbe.Frame
import FlowProbe.Proofs.Octets
import Mathlib.Data.Nat.Bitwise

set_option autoImplicit false

namespace FlowProbe.Wire

structure Control where
  cwr : Bool
  ece : Bool
  urg : Bool
  ack : Bool
  psh : Bool
  rst : Bool
  syn : Bool
  fin : Bool

namespace Control

def bits (control : Control) (index : Fin 8) : Bool :=
  [control.fin, control.syn, control.rst, control.psh, control.ack, control.urg, control.ece,
    control.cwr][index]

def octet (control : Control) : UInt8 :=
  UInt8.ofNat (Nat.ofBits control.bits)

theorem bit_octet (control : Control) (index : Fin 8) :
    Segment.bit control.octet index = control.bits index := by
  have small : Nat.ofBits control.bits < 2 ^ 8 := Nat.ofBits_lt_two_pow _
  rw [Segment.bit, octet, UInt8.toNat_ofNat', Nat.mod_eq_of_lt small]
  exact Nat.testBit_ofBits_lt _ _ index.isLt

end Control

structure Tcp where
  sourcePort : UInt16
  destinationPort : UInt16
  sequence : UInt32
  acknowledgment : UInt32
  -- The bits between the data offset and the control bits.
  reserved : Fin 16
  control : Control
  window : UInt16
  checksum : UInt16
  urgent : UInt16
  optionWords : Fin 11
  options : Octets (4 * optionWords)
  payload : List UInt8

structure Udp where
  sourcePort : UInt16
  destinationPort : UInt16
  length : UInt16
  checksum : UInt16
  payload : List UInt8

structure Message where
  kind : UInt8
  code : UInt8
  checksum : UInt16
  word : UInt32
  payload : List UInt8

structure Icmp extends Message where
  timestamp : (kind = 13 ∨ kind = 14) → code = 0 → payload.length = 12

inductive Segment where
  | tcp (segment : Tcp)
  | udp (segment : Udp)
  | icmp (segment : Icmp)
  | icmp6 (segment : Message)

def Tcp.octets (segment : Tcp) : List UInt8 :=
  Octets.bigEndian 2 segment.sourcePort.toNat ++
    Octets.bigEndian 2 segment.destinationPort.toNat ++
    Octets.bigEndian 4 segment.sequence.toNat ++
    Octets.bigEndian 4 segment.acknowledgment.toNat ++
    [UInt8.ofNat ((5 + segment.optionWords) * 16 + segment.reserved), segment.control.octet] ++
    Octets.bigEndian 2 segment.window.toNat ++
    Octets.bigEndian 2 segment.checksum.toNat ++
    Octets.bigEndian 2 segment.urgent.toNat ++
    segment.options.val ++ segment.payload

def Udp.octets (segment : Udp) : List UInt8 :=
  Octets.bigEndian 2 segment.sourcePort.toNat ++
    Octets.bigEndian 2 segment.destinationPort.toNat ++
    Octets.bigEndian 2 segment.length.toNat ++
    Octets.bigEndian 2 segment.checksum.toNat ++ segment.payload

def Message.octets (message : Message) : List UInt8 :=
  [message.kind, message.code] ++ Octets.bigEndian 2 message.checksum.toNat ++
    Octets.bigEndian 4 message.word.toNat ++ message.payload

@[simp] theorem Tcp.length_octets (segment : Tcp) :
    segment.octets.length = 4 * (5 + segment.optionWords) + segment.payload.length := by
  simp only [Tcp.octets, List.length_append, Octets.length_bigEndian, segment.options.property,
    List.length_cons, List.length_nil]
  omega

@[simp] theorem Udp.length_octets (segment : Udp) :
    segment.octets.length = 8 + segment.payload.length := by
  simp only [Udp.octets, List.length_append, Octets.length_bigEndian]

@[simp] theorem Message.length_octets (message : Message) :
    message.octets.length = 8 + message.payload.length := by
  simp only [Message.octets, List.length_append, Octets.length_bigEndian, List.length_cons,
    List.length_nil]

namespace Segment

def octets : Segment → List UInt8
  | .tcp segment => segment.octets
  | .udp segment => segment.octets
  | .icmp segment => segment.octets
  | .icmp6 segment => segment.octets

def proto : Segment → UInt8
  | .tcp _ => 6
  | .udp _ => 17
  | .icmp _ => 1
  | .icmp6 _ => 58

def sourcePort : Segment → UInt16
  | .tcp segment => segment.sourcePort
  | .udp segment => segment.sourcePort
  | _ => 0

def destinationPort : Segment → UInt16
  | .tcp segment => segment.destinationPort
  | .udp segment => segment.destinationPort
  | _ => 0

def tcpHeader? : Segment → Option TcpHeader
  | .tcp segment => some {
      syn := segment.control.syn
      ack := segment.control.ack
      fin := segment.control.fin
      rst := segment.control.rst
      window := segment.window }
  | _ => none

end Segment

theorem readTcp?_octets (segment : Tcp) :
    FlowProbe.Segment.readTcp? segment.octets =
      some (.tcp segment.sourcePort segment.destinationPort {
        syn := segment.control.syn
        ack := segment.control.ack
        fin := segment.control.fin
        rst := segment.control.rst
        window := segment.window }) := by
  have words : (UInt8.ofNat ((5 + segment.optionWords) * 16 + segment.reserved)).toNat / 16 =
      5 + segment.optionWords := by
    rw [UInt8.toNat_ofNat']
    omega
  have enough : 4 * (5 + segment.optionWords) ≤ segment.octets.length := by simp
  have syn : FlowProbe.Segment.bit segment.control.octet 1 = segment.control.syn :=
    segment.control.bit_octet 1
  have ack : FlowProbe.Segment.bit segment.control.octet 4 = segment.control.ack :=
    segment.control.bit_octet 4
  have fin : FlowProbe.Segment.bit segment.control.octet 0 = segment.control.fin :=
    segment.control.bit_octet 0
  have rst : FlowProbe.Segment.bit segment.control.octet 2 = segment.control.rst :=
    segment.control.bit_octet 2
  simp only [Tcp.octets, Octets.bigEndian_two, Octets.bigEndian_four, List.cons_append,
    List.nil_append] at enough ⊢
  simp only [FlowProbe.Segment.readTcp?, words, syn, ack, fin, rst, Octets.word_ofNat,
    UInt16.ofNat_toNat]
  exact if_pos ⟨Nat.le_add_right 5 _, enough⟩

theorem readUdp?_octets (segment : Udp) :
    FlowProbe.Segment.readUdp? segment.octets =
      some (.udp segment.sourcePort segment.destinationPort) := by
  simp [Udp.octets, Octets.bigEndian_two, FlowProbe.Segment.readUdp?]

theorem readIcmp?_octets (segment : Icmp) :
    FlowProbe.Segment.readIcmp? segment.octets = some .icmp := by
  have admitted : ¬((segment.kind = 13 ∨ segment.kind = 14) ∧ segment.code = 0 ∧
      segment.octets.length ≠ 20) := by
    rintro ⟨kind, code, length⟩
    rw [Message.length_octets, segment.timestamp kind code] at length
    exact length rfl
  simp only [Message.octets, Octets.bigEndian_two, Octets.bigEndian_four, List.cons_append,
    List.nil_append] at admitted ⊢
  exact if_neg admitted

theorem readIcmp6?_octets (segment : Message) :
    FlowProbe.Segment.readIcmp6? segment.octets = some .icmp6 := by
  apply if_pos
  simp

namespace Segment

def content : Segment → FlowProbe.Segment
  | .tcp segment => .tcp segment.sourcePort segment.destinationPort {
      syn := segment.control.syn
      ack := segment.control.ack
      fin := segment.control.fin
      rst := segment.control.rst
      window := segment.window }
  | .udp segment => .udp segment.sourcePort segment.destinationPort
  | .icmp _ => .icmp
  | .icmp6 _ => .icmp6

theorem read?_octets (segment : Segment) :
    FlowProbe.Segment.read? segment.proto segment.octets = some (some segment.content) := by
  cases segment with
  | tcp segment => exact congrArg (Option.map some) (readTcp?_octets segment)
  | udp segment => exact congrArg (Option.map some) (readUdp?_octets segment)
  | icmp segment => exact congrArg (Option.map some) (readIcmp?_octets segment)
  | icmp6 segment => exact congrArg (Option.map some) (readIcmp6?_octets segment)

theorem length_octets_pos (segment : Segment) : 0 < segment.octets.length := by
  cases segment <;>
    simp only [octets, Tcp.length_octets, Udp.length_octets, Message.length_octets] <;> omega

end Segment

end FlowProbe.Wire
