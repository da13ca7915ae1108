import FlowProbe.Address.Reader

set_option autoImplicit false

namespace FlowProbe.Address

theorem digitValue?_digitChar {radix value : Nat} (most : radix ≤ 16) (less : value < radix) :
    digitValue? radix (Nat.digitChar value) = some value := by
  have all : ∀ value < 16, digitValue? 16 (Nat.digitChar value) = some value := by decide
  have widest := all value (Nat.lt_of_lt_of_le less most)
  rw [digitValue?, Option.filter_eq_some_iff] at widest ⊢
  exact ⟨widest.1, decide_eq_true less⟩

theorem digits_digitChar {radix value : Nat} (most : radix ≤ 16) (less : value < radix)
    (rest : List Char) :
    digits radix (Nat.digitChar value :: rest) =
      (value :: (digits radix rest).1, (digits radix rest).2) := by
  rw [digits, digitValue?_digitChar most less]

theorem digits_stop (radix : Nat) {c : Char} (other : digitValue? radix c = none)
    (rest : List Char) : digits radix (c :: rest) = ([], c :: rest) := by
  rw [digits, other]

theorem numberOf_concat (radix : Nat) (values : List Nat) (last : Nat) :
    numberOf radix (values ++ [last]) = numberOf radix values * radix + last := by
  simp [numberOf, List.foldl_append]

structure Shows (radix number : Nat) (values : List Nat) : Prop where
  value : numberOf radix values = number
  length : values.length = (Nat.toDigits radix number).length
  lead : values.head? = some 0 → number = 0

theorem Shows.ne_nil {radix number : Nat} {values : List Nat} (shows : Shows radix number values) :
    values ≠ [] := by
  rw [← List.length_pos_iff, shows.length]
  exact Nat.length_toDigits_pos

theorem Shows.no_leading_zero {radix number : Nat} {values : List Nat}
    (shows : Shows radix number values) : ¬(values.head? = some 0 ∧ 1 < values.length) := by
  rintro ⟨zero, long⟩
  rw [shows.length, shows.lead zero, Nat.toDigits_zero] at long
  exact Nat.lt_irrefl 1 long

theorem digits_toDigits (radix : Nat) (least : 1 < radix) (most : radix ≤ 16) (number : Nat) :
    ∃ values, Shows radix number values ∧ ∀ rest,
      digits radix (Nat.toDigits radix number ++ rest) =
        (values ++ (digits radix rest).1, (digits radix rest).2) := by
  induction number using Nat.strongRecOn with
  | ind number ih =>
    by_cases small : number < radix
    next =>
      refine ⟨[number], ⟨by simp [numberOf], ?_, by simp⟩, fun rest => ?_⟩
      next => rw [Nat.toDigits_of_lt_base small]; rfl
      next =>
        rw [Nat.toDigits_of_lt_base small]
        exact digits_digitChar most small rest
    next =>
      have large := Nat.le_of_not_lt small
      have positive : 0 < number / radix := Nat.div_pos large (Nat.zero_lt_of_lt least)
      obtain ⟨values, shows, reads⟩ := ih (number / radix)
        (Nat.div_lt_self (Nat.lt_of_lt_of_le (Nat.zero_lt_of_lt least) large) least)
      have written := Nat.toDigits_of_base_le least large
      have low : number % radix < radix := Nat.mod_lt _ (Nat.zero_lt_of_lt least)
      refine ⟨values ++ [number % radix], ⟨?_, ?_, ?_⟩, fun rest => ?_⟩
      next =>
        rw [numberOf_concat, shows.value]
        exact Nat.div_add_mod' number radix
      next => rw [written, List.length_append, List.length_append, shows.length]; rfl
      next =>
        intro zero
        obtain ⟨first, more, rfl⟩ := List.exists_cons_of_ne_nil shows.ne_nil
        exact absurd (shows.lead zero) (Nat.ne_of_gt positive)
      next =>
        rw [written, List.append_assoc, reads, List.singleton_append, digits_digitChar most low]
        simp

theorem digit_of_digits {radix : Nat} {chars : List Char} {values : List Nat}
    (reads : digits radix chars = (values, [])) : ∀ c ∈ chars, digitValue? radix c ≠ none := by
  induction chars generalizing values with
  | nil => exact List.forall_mem_nil _
  | cons c rest ih =>
    rw [digits] at reads
    cases value : digitValue? radix c with
    | none =>
      rw [value] at reads
      cases reads
    | some first =>
      rw [value] at reads
      obtain ⟨-, behind⟩ := Prod.mk.inj reads
      exact List.forall_mem_cons.mpr ⟨by rw [value]; exact nofun, ih (Prod.ext rfl behind)⟩

theorem digit_of_toDigits {radix : Nat} (least : 1 < radix) (most : radix ≤ 16) {number : Nat}
    {c : Char} (member : c ∈ Nat.toDigits radix number) : digitValue? radix c ≠ none := by
  obtain ⟨values, -, reads⟩ := digits_toDigits radix least most number
  have all := reads []
  rw [List.append_nil] at all
  exact digit_of_digits all c member

end FlowProbe.Address
