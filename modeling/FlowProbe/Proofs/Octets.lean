import FlowProbe.Octets
import Mathlib.Data.List.Induction

set_option autoImplicit false

namespace FlowProbe.Octets

theorem big_concat (bytes : List UInt8) (last : UInt8) :
    big (bytes ++ [last]) = big bytes * 256 + last.toNat := by
  simp [big]

theorem big_reverse (bytes : List UInt8) : big bytes.reverse = little bytes := by
  induction bytes with
  | nil => rfl
  | cons byte rest ih =>
    rw [List.reverse_cons, big_concat, ih, little]
    omega

theorem big_bigEndian (width value : Nat) (h : value < 1 <<< (8 * width)) :
    big (bigEndian width value) = value := by
  rw [bigEndian, big_reverse, little_littleEndian width value h]

theorem big_lt (bytes : List UInt8) : big bytes < 1 <<< (8 * bytes.length) := by
  induction bytes using List.reverseRecOn with
  | nil => decide
  | append_singleton front last ih =>
    have digit := last.toNat_lt
    have wider : 1 <<< (8 * (front.length + 1)) = 1 <<< (8 * front.length) * 256 :=
      Nat.shiftLeft_add 1 (8 * front.length) 8 ▸ Nat.shiftLeft_eq _ 8
    rw [big_concat, List.length_append, List.length_singleton, wider]
    omega

theorem big_injective {bytes other : List UInt8} (width : bytes.length = other.length)
    (same : big bytes = big other) : bytes = other := by
  induction bytes using List.reverseRecOn generalizing other with
  | nil => exact (List.length_eq_zero_iff.mp width.symm).symm
  | append_singleton front last ih =>
    cases other using List.reverseRecOn with
    | nil => simp at width
    | append_singleton start final =>
      simp only [List.length_append, List.length_singleton] at width
      simp only [big_concat] at same
      have digit := last.toNat_lt
      have digit' := final.toNat_lt
      have fronts : front = start := ih (by omega) (by omega)
      have lasts : last = final := UInt8.toNat_inj.mp (by omega)
      rw [fronts, lasts]

theorem littleEndian_injective {width value other : Nat} (small : value < 1 <<< (8 * width))
    (small' : other < 1 <<< (8 * width)) (same : littleEndian width value = littleEndian width other) :
    value = other := by
  rw [← little_littleEndian width value small, same, little_littleEndian width other small']

theorem bigEndian_two (value : Nat) :
    bigEndian 2 value = [UInt8.ofNat (value / 256 % 256), UInt8.ofNat (value % 256)] :=
  rfl

theorem bigEndian_four (value : Nat) :
    bigEndian 4 value = [
      UInt8.ofNat (value / 256 / 256 / 256 % 256), UInt8.ofNat (value / 256 / 256 % 256),
      UInt8.ofNat (value / 256 % 256), UInt8.ofNat (value % 256)] :=
  rfl

@[simp] theorem word_ofNat (value : Nat) :
    word (UInt8.ofNat (value / 256 % 256)) (UInt8.ofNat (value % 256)) = UInt16.ofNat value := by
  apply UInt16.toNat_inj.mp
  simp only [word, UInt8.toNat_ofNat', UInt16.toNat_ofNat']
  omega

theorem word_inj {high low high' low' : UInt8} :
    word high low = word high' low' ↔ high = high' ∧ low = low' := by
  have first := high.toNat_lt
  have second := low.toNat_lt
  have first' := high'.toNat_lt
  have second' := low'.toNat_lt
  rw [← UInt16.toNat_inj, ← UInt8.toNat_inj, ← UInt8.toNat_inj]
  simp only [word, UInt16.toNat_ofNat']
  omega

theorem split?_append {n : Nat} (block : Octets n) (rest : List UInt8) :
    split? n (block.val ++ rest) = some (block, rest) := by
  obtain ⟨bytes, rfl⟩ := block
  simp [split?]

end FlowProbe.Octets
