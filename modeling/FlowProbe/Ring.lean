set_option autoImplicit false

namespace FlowProbe

structure Ring where
  blockSize : UInt32 := 4194304
  blockCount : UInt32 := 64
  frameSize : UInt32 := 2048
  deriving DecidableEq

inductive RingFault where
  | zero
  | blockPages (blockSize : UInt32) (page : Nat)
  | frameAlignment (frameSize : UInt32)
  | frameHeader (frameSize : UInt32)
  | blockFrames (blockSize frameSize : UInt32)

namespace Ring

def pageSize : Nat := 4096

def alignment : Nat := 16

-- Octets in front of each frame: an aligned header and a link-layer address.
def headerSize : Nat := 52

-- Undefined for frames of size zero.
def framesPerBlock? (ring : Ring) : Option Nat :=
  if ring.frameSize = 0 then none else some (ring.blockSize.toNat / ring.frameSize.toNat)

-- The number of frames, if it fits in a word of 32 bits.
def frameCount? (ring : Ring) : Option Nat :=
  ring.framesPerBlock?.bind fun perBlock =>
    let count := perBlock * ring.blockCount.toNat
    if count < UInt32.size then some count else none

def length (ring : Ring) : Nat :=
  ring.blockSize.toNat * ring.blockCount.toNat

def check (page : Nat) (ring : Ring) : Except RingFault Unit :=
  if ring.blockSize = 0 ∨ ring.blockCount = 0 ∨ ring.frameSize = 0 then .error .zero
  else if ring.blockSize.toNat % page ≠ 0 then .error (.blockPages ring.blockSize page)
  else if ring.frameSize.toNat % alignment ≠ 0 then .error (.frameAlignment ring.frameSize)
  else if ring.frameSize.toNat < headerSize then .error (.frameHeader ring.frameSize)
  else if ring.blockSize.toNat % ring.frameSize.toNat ≠ 0 then
    .error (.blockFrames ring.blockSize ring.frameSize)
  else .ok ()

end Ring

def RingFault.message : RingFault → String
  | .zero => "ring sizes must be non-zero"
  | .blockPages size page =>
    "block size " ++ toString size.toNat ++ " is not a multiple of the page size " ++ toString page
  | .frameAlignment size =>
    "frame size " ++ toString size.toNat ++ " is not " ++ toString Ring.alignment ++
      "-byte aligned"
  | .frameHeader size =>
    "frame size " ++ toString size.toNat ++ " is smaller than the frame header (" ++
      toString Ring.headerSize ++ ")"
  | .blockFrames block frame =>
    "block size " ++ toString block.toNat ++ " is not a multiple of frame size " ++
      toString frame.toNat

end FlowProbe
