import FlowProbe.Ring
import Mathlib.Logic.ExistsUnique

set_option autoImplicit false

namespace FlowProbe.Ring

-- The word that counts the frames, which drops what does not fit.
def frameWord (ring : Ring) : UInt32 :=
  ring.blockSize / ring.frameSize * ring.blockCount

def frameStart (ring : Ring) (index : Nat) : Nat :=
  let perBlock := ring.blockSize.toNat / ring.frameSize.toNat
  index / perBlock * ring.blockSize.toNat + index % perBlock * ring.frameSize.toNat

structure Regular (page : Nat) (ring : Ring) : Prop where
  block : 0 < ring.blockSize.toNat
  blocks : 0 < ring.blockCount.toNat
  frame : 0 < ring.frameSize.toNat
  paged : page ∣ ring.blockSize.toNat
  aligned : alignment ∣ ring.frameSize.toNat
  header : headerSize ≤ ring.frameSize.toNat
  whole : ring.frameSize.toNat ∣ ring.blockSize.toNat

variable {page : Nat} {ring : Ring}

theorem toNat_pos {word : UInt32} (some : ¬ word = 0) : 0 < word.toNat := by
  apply Nat.pos_of_ne_zero
  intro zero
  exact some (UInt32.toNat_inj.mp zero)

theorem regular_of_check (accepted : ring.check page = .ok ()) : ring.Regular page := by
  rw [check] at accepted
  split at accepted
  next => exact nomatch accepted
  next sizes =>
    obtain ⟨block, blocks, frame⟩ := (not_or.mp sizes).imp_right not_or.mp
    split at accepted
    next => exact nomatch accepted
    next paged =>
      split at accepted
      next => exact nomatch accepted
      next aligned =>
        split at accepted
        next => exact nomatch accepted
        next header =>
          split at accepted
          next => exact nomatch accepted
          next whole =>
            exact ⟨toNat_pos block, toNat_pos blocks, toNat_pos frame,
              Nat.dvd_of_mod_eq_zero (Decidable.not_not.mp paged),
              Nat.dvd_of_mod_eq_zero (Decidable.not_not.mp aligned), Nat.le_of_not_lt header,
              Nat.dvd_of_mod_eq_zero (Decidable.not_not.mp whole)⟩

-- How many frames there are, whatever word may count them.
def frames (ring : Ring) : Nat :=
  ring.blockSize.toNat / ring.frameSize.toNat * ring.blockCount.toNat

theorem frames_size (regular : ring.Regular page) :
    ring.frames * ring.frameSize.toNat = ring.length := by
  rw [frames, Nat.mul_right_comm, Nat.div_mul_cancel regular.whole, length]

theorem framesPerBlock?_eq (regular : ring.Regular page) :
    ring.framesPerBlock? = some (ring.blockSize.toNat / ring.frameSize.toNat) := by
  apply if_neg
  intro zero
  exact absurd regular.frame (by simp [zero])

theorem frameCount?_eq (regular : ring.Regular page) :
    ring.frameCount? = if ring.frames < UInt32.size then some ring.frames else none := by
  rw [frameCount?, framesPerBlock?_eq regular]
  rfl

theorem frameWord_eq (ring : Ring) : ring.frameWord.toNat = ring.frames % UInt32.size := by
  rw [frameWord, UInt32.toNat_mul, UInt32.toNat_div]
  rfl

theorem frameStart_eq (regular : ring.Regular page) (index : Nat) :
    ring.frameStart index = index * ring.frameSize.toNat := by
  obtain ⟨perBlock, size⟩ := regular.whole
  have held : ring.blockSize.toNat / ring.frameSize.toNat = perBlock := by
    rw [size, Nat.mul_div_cancel_left _ regular.frame]
  calc ring.frameStart index
      = index / perBlock * ring.blockSize.toNat + index % perBlock * ring.frameSize.toNat := by
        rw [frameStart, held]
    _ = (perBlock * (index / perBlock) + index % perBlock) * ring.frameSize.toNat := by
        rw [size, Nat.add_mul, Nat.mul_comm perBlock (index / perBlock), Nat.mul_assoc,
          Nat.mul_comm perBlock ring.frameSize.toNat]
    _ = index * ring.frameSize.toNat := by rw [Nat.div_add_mod]

theorem frame_of_octet (regular : ring.Regular page) {octet : Nat} (inside : octet < ring.length) :
    ∃ index, (index < ring.frames ∧ ring.frameStart index ≤ octet ∧
        octet < ring.frameStart index + ring.frameSize.toNat) ∧
      ∀ other, ring.frameStart other ≤ octet →
        octet < ring.frameStart other + ring.frameSize.toNat → other = index := by
  rw [← frames_size regular] at inside
  refine ⟨octet / ring.frameSize.toNat, ⟨?_, ?_, ?_⟩, ?_⟩
  next => exact (Nat.div_lt_iff_lt_mul regular.frame).mpr inside
  next =>
    rw [frameStart_eq regular]
    exact Nat.div_mul_le_self _ _
  next =>
    rw [frameStart_eq regular]
    exact Nat.lt_div_mul_add regular.frame
  next =>
    intro other start stop
    rw [frameStart_eq regular] at start stop
    exact (Nat.div_eq_of_lt_le start (by rwa [Nat.succ_mul])).symm

/-- Each block of a ring that passes the check holds some frames and nothing else. If the number of
all frames fits in a word it is not zero, and that many frames cover the ring, each octet once. It is
not checked to fit: it does not for a ring of 2^32 frames or more, and then what is left in the word
is wrong. -/
theorem accepted_ring_tiled_if_counted (accepted : ring.check page = .ok ()) :
    ∃ perBlock, ring.framesPerBlock? = some perBlock ∧ 0 < perBlock ∧
      perBlock * ring.frameSize.toNat = ring.blockSize.toNat ∧
      (ring.frameCount? = none ↔ UInt32.size * ring.frameSize.toNat ≤ ring.length) ∧
      (ring.frameCount? = none → ring.frameWord.toNat * ring.frameSize.toNat ≠ ring.length) ∧
      ∀ count, ring.frameCount? = some count →
        0 < count ∧ count < UInt32.size ∧ ring.frameWord.toNat = count ∧
          count * ring.frameSize.toNat = ring.length ∧
          ∀ octet < ring.length, ∃! index, index < count ∧ ring.frameStart index ≤ octet ∧
            octet < ring.frameStart index + ring.frameSize.toNat := by
  have regular := regular_of_check accepted
  have size := frames_size regular
  have perBlock : 0 < ring.blockSize.toNat / ring.frameSize.toNat :=
    Nat.div_pos (Nat.le_of_dvd regular.block regular.whole) regular.frame
  have fits : ring.frameCount? = none ↔ UInt32.size ≤ ring.frames := by
    rw [frameCount?_eq regular]
    split <;> simp_all
  refine ⟨_, framesPerBlock?_eq regular, perBlock, Nat.div_mul_cancel regular.whole, ?_, ?_, ?_⟩
  next => rw [fits, ← size, Nat.mul_le_mul_right_iff regular.frame]
  next =>
    intro uncounted same
    rw [← size, frameWord_eq] at same
    have word := Nat.eq_of_mul_eq_mul_right regular.frame same
    have less : ring.frames % UInt32.size < UInt32.size := Nat.mod_lt _ (by decide)
    exact absurd (fits.mp uncounted) (by omega)
  next =>
    intro count counted
    rw [frameCount?_eq regular] at counted
    split at counted
    next small =>
      cases counted
      refine ⟨Nat.mul_pos perBlock regular.blocks, small, ?_, size, fun octet inside => ?_⟩
      next => rw [frameWord_eq, Nat.mod_eq_of_lt small]
      next =>
        obtain ⟨index, here, only⟩ := frame_of_octet regular inside
        exact ⟨index, here, fun other there => only other there.2.1 there.2.2⟩
    next => exact nomatch counted

theorem default_ring_tiled : ({} : Ring).check pageSize = .ok () ∧
    ({} : Ring).frameCount? = some 131072 ∧
      131072 * ({} : Ring).frameSize.toNat = ({} : Ring).length := by
  have accepted : ({} : Ring).check pageSize = .ok () := rfl
  have counted : ({} : Ring).frameCount? = some 131072 := by decide
  obtain ⟨_, _, _, _, _, _, tiled⟩ := accepted_ring_tiled_if_counted accepted
  exact ⟨accepted, counted, (tiled _ counted).2.2.2.1⟩

-- Blocks and frames have their default sizes.
def vast : Ring := { blockCount := 2097152 }

/-- The check has no objection to a ring of 2^32 frames, and a word counts none. -/
theorem vast_ring_uncounted :
    vast.check pageSize = .ok () ∧ vast.framesPerBlock? = some 2048 ∧ vast.frameCount? = none ∧
      vast.frameWord = 0 :=
  ⟨rfl, rfl, rfl, rfl⟩

end FlowProbe.Ring
