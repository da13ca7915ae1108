set_option autoImplicit false

namespace FlowProbe

abbrev Octets (n : Nat) := { bytes : List UInt8 // bytes.length = n }

namespace Octets

def big (bytes : List UInt8) : Nat :=
  bytes.foldl (fun value byte => value * 256 + byte.toNat) 0

def little : List UInt8 → Nat
  | [] => 0
  | byte :: rest => byte.toNat + 256 * little rest

def littleEndian : Nat → Nat → List UInt8
  | 0, _ => []
  | width + 1, value => UInt8.ofNat (value % 256) :: littleEndian width (value / 256)

def bigEndian (width value : Nat) : List UInt8 :=
  (littleEndian width value).reverse

def split? (n : Nat) (bytes : List UInt8) : Option (Octets n × List UInt8) :=
  if h : n ≤ bytes.length then
    some (⟨bytes.take n, by simp [h]⟩, bytes.drop n)
  else
    none

def word (high low : UInt8) : UInt16 :=
  UInt16.ofNat (high.toNat * 256 + low.toNat)

@[simp]
theorem length_littleEndian (width value : Nat) : (littleEndian width value).length = width := by
  induction width generalizing value with
  | zero => rfl
  | succ width ih => rw [littleEndian, List.length_cons, ih]

@[simp] theorem length_bigEndian (width value : Nat) :
    (bigEndian width value).length = width := by
  rw [bigEndian, List.length_reverse, length_littleEndian]

theorem little_littleEndian (width value : Nat) (h : value < 1 <<< (8 * width)) :
    little (littleEndian width value) = value := by
  induction width generalizing value with
  | zero => simp at h; simp [littleEndian, little, h]
  | succ width ih =>
    have small : value / 256 < 1 <<< (8 * width) := by
      rw [Nat.mul_succ, Nat.shiftLeft_add] at h
      rw [Nat.shiftLeft_eq _ 8] at h
      exact Nat.div_lt_of_lt_mul (by rw [Nat.mul_comm]; exact h)
    simp only [littleEndian, little, ih _ small, UInt8.toNat_ofNat']
    omega

end Octets

end FlowProbe

namespace FlowProbe.SipHash

structure State where
  v0 : UInt64
  v1 : UInt64
  v2 : UInt64
  v3 : UInt64

def rotateLeft (word : UInt64) (bits : UInt64) : UInt64 :=
  (word <<< bits) ||| (word >>> (64 - bits))

def State.start (key0 key1 : UInt64) : State where
  v0 := key0 ^^^ 0x736f6d6570736575
  v1 := key1 ^^^ 0x646f72616e646f6d
  v2 := key0 ^^^ 0x6c7967656e657261
  v3 := key1 ^^^ 0x7465646279746573

def State.round (s : State) : State :=
  let a := s.v0 + s.v1
  let b := rotateLeft s.v1 13 ^^^ a
  let c := s.v2 + s.v3
  let d := rotateLeft s.v3 16 ^^^ c
  let a := rotateLeft a 32
  let e := a + d
  let d := rotateLeft d 21 ^^^ e
  let f := c + b
  let b := rotateLeft b 17 ^^^ f
  ⟨e, b, rotateLeft f 32, d⟩

def State.absorb (s : State) (word : UInt64) : State :=
  let s := State.round { s with v3 := s.v3 ^^^ word }
  { s with v0 := s.v0 ^^^ word }

def State.finish (s : State) : UInt64 :=
  let s := State.round (State.round (State.round { s with v2 := s.v2 ^^^ 0xff }))
  s.v0 ^^^ s.v1 ^^^ s.v2 ^^^ s.v3

def words (length : Nat) : List UInt8 → List UInt64
  | a :: b :: c :: d :: e :: f :: g :: h :: rest =>
    UInt64.ofNat (Octets.little [a, b, c, d, e, f, g, h]) :: words length rest
  | rest => [UInt64.ofNat (Octets.little rest + (length % 256) <<< 56)]

def hash (key0 key1 : UInt64) (message : List UInt8) : UInt64 :=
  ((words message.length message).foldl State.absorb (State.start key0 key1)).finish

end FlowProbe.SipHash
