import FlowProbe.Proofs.Time.Calendar
import Mathlib.Order.Monotone.Basic

set_option autoImplicit false

namespace FlowProbe

open Calendar

section Years

theorem Date.ofDays_cycles (days cycles : Int) :
    ofDays (days + cycles * cycle) =
      { ofDays days with year := (ofDays days).year + cycles * 400 } := by
  have shifted : days + cycles * cycle + epoch = days + epoch + cycles * cycle := by omega
  have turns : (days + epoch + cycles * cycle) / cycle = (days + epoch) / cycle + cycles :=
    Int.add_mul_ediv_right _ _ (by decide)
  have inCycle : (days + epoch + cycles * cycle) % cycle = (days + epoch) % cycle :=
    Int.add_mul_emod_self_right ..
  simp only [ofDays, shifted, turns, inCycle, Date.mk.injEq, and_true]
  split <;> omega

theorem Calendar.daysToYear_mono : Monotone daysToYear :=
  monotone_nat_of_le_succ fun _ => Nat.le_add_right _ _

theorem Calendar.IsDate.within_year {year month day : Nat} (date : IsDate year month day) :
    daysToMonth year month + day ≤ daysToMonth year 13 := by
  obtain ⟨⟨first, twelve⟩, -, within⟩ := date
  have next : daysToMonth year (month + 1) ≤ daysToMonth year 13 := by
    interval_cases month <;> simp [daysToMonth] <;> omega
  obtain ⟨before, rfl⟩ := Nat.exists_eq_add_of_le' first
  rw [daysToMonth] at next
  next => omega
  next => simp

theorem Date.year_spans (shifted : Nat) :
    ∃ year : Nat, (ofDays (shifted - epoch)).year = year ∧ daysToYear year ≤ shifted + 60 ∧
      shifted + 60 < daysToYear (year + 1) := by
  obtain ⟨year, civil, date, number⟩ := date_ofDays shifted
  have within := date.within_year
  have some_day := date.2.1
  rw [dayNumber] at number
  refine ⟨year, civil, ?_, ?_⟩
  next => omega
  next =>
    rw [daysToYear]
    omega

theorem Date.year_mono {days later : Int} (order : days ≤ later) :
    (ofDays days).year ≤ (ofDays later).year := by
  -- Both are moved by so many cycles that they do not lie before the year zero.
  let cycles : Int := (days + epoch).natAbs
  have moved (day : Int) (after : days ≤ day) :
      ∃ shifted : Nat, day + cycles * cycle = shifted - epoch := by
    refine ⟨(day + cycles * cycle + epoch).toNat, ?_⟩
    simp only [cycles, cycle]
    omega
  obtain ⟨shifted, first⟩ := moved days (Int.le_refl _)
  obtain ⟨shifted', second⟩ := moved later order
  obtain ⟨year, civil, start, -⟩ := year_spans shifted
  obtain ⟨year', civil', -, stop⟩ := year_spans shifted'
  rw [← first, ofDays_cycles] at civil
  rw [← second, ofDays_cycles] at civil'
  have years : year < year' + 1 := daysToYear_mono.reflect_lt (by omega)
  dsimp only at civil civil'
  omega

theorem Date.inRange_iff (days : Int) :
    inRange (ofDays days).year ↔ -96465292 ≤ days ∧ days ≤ 95026236 := by
  have first : (ofDays (-96465292)).year = -262143 := by decide
  have before : (ofDays (-96465293)).year = -262144 := by decide
  have last : (ofDays 95026236).year = 262142 := by decide
  have after : (ofDays 95026237).year = 262143 := by decide
  rw [inRange, Bool.and_eq_true, decide_eq_true_iff, decide_eq_true_iff]
  constructor
  next =>
    rintro ⟨early, late⟩
    refine ⟨Int.not_lt.mp fun less => ?_, Int.not_lt.mp fun more => ?_⟩
    next =>
      have years := year_mono (show days ≤ -96465293 by omega)
      omega
    next =>
      have years := year_mono (show 95026237 ≤ days by omega)
      omega
  next =>
    rintro ⟨early, late⟩
    have years := year_mono early
    have years' := year_mono late
    omega

theorem Date.late_of_year {days : Int} (after : 1 ≤ (ofDays days).year) : 0 ≤ days + epoch := by
  have start : (ofDays (-epoch - 1)).year = 0 := by decide
  rw [← Int.not_lt]
  intro early
  have years := year_mono (show days ≤ -epoch - 1 by omega)
  omega

end Years

section Text

open Address (digits numberOf symbol)

namespace Calendar

def yearBefore? (chars : List Char) : Option (Int × List Char) := do
  let (values, rest) := digits 10 (← symbol '-' chars)
  if 4 ≤ values.length then some (-(numberOf 10 values : Int), rest) else none

def anyYear? (chars : List Char) : Option (Int × List Char) :=
  match year? chars with
  | some (year, rest) => some (year, rest)
  | none => yearBefore? chars

/-- The moment that a text stands for, in seconds from the epoch. The calendar repeats itself every
four hundred years, so a date is read in one of the years from 400 to 799. -/
def moment? (source : String) : Option Int := do
  let (year, rest) ← anyYear? source.toList
  let second ← second? (String.ofList (yearText (year % 400 + 400) ++ rest))
  return second + (year / 400 - 1) * (Date.cycle * 86400)

theorem anyYear?_yearText (year : Int) {rest : List Char} (stop : digits 10 rest = ([], rest)) :
    anyYear? (yearText year ++ rest) = some (year, rest) := by
  by_cases early : year < 0
  next =>
    obtain ⟨values, reads, value, length⟩ := digits_padded 4 year.natAbs stop
    have unsigned : ¬(0 ≤ year ∧ year ≤ 9999) := fun range => by omega
    have field : field? 4 ('-' :: (padded 4 year.natAbs ++ rest)) = none := by
      rw [field?, Address.digits_stop 10 (by decide)]
      rfl
    have number : -(year.natAbs : Int) = year := by omega
    rw [yearText, if_neg unsigned, if_pos early, List.cons_append, anyYear?, year?, field]
    simp [symbol, yearBefore?, reads, value, length, number, -Nat.cast_natAbs]
  next =>
    obtain ⟨number, rfl⟩ := Int.eq_ofNat_of_zero_le (Int.not_lt.mp early)
    rw [anyYear?, year?_yearText number stop]

def behindYear (date : Date) (ofDay : Nat) : List Char :=
  '-' :: (padded 2 date.month ++ '-' :: (padded 2 date.day ++ 'T' :: (padded 2 (ofDay / 3600) ++
    ':' :: (padded 2 (ofDay / 60 % 60) ++ ':' :: padded 2 (ofDay % 60)))))

theorem digits_behindYear (date : Date) (ofDay : Nat) :
    digits 10 (behindYear date ofDay) = ([], behindYear date ofDay) :=
  Address.digits_stop 10 (by decide) _

-- Moments that are whole cycles apart differ in the year alone.
theorem stamp?_cycles (second cycles : Int) :
    let date := Date.ofDays (second / 86400)
    let year := date.year + cycles * 400
    stamp? (second + cycles * (Date.cycle * 86400)) =
      if inRange year then
        some (String.ofList (yearText year ++ behindYear date (second % 86400).toNat))
      else none := by
  have turned : second + cycles * (Date.cycle * 86400) = second + cycles * Date.cycle * 86400 := by
    rw [Int.mul_assoc]
  have days : (second + cycles * Date.cycle * 86400) / 86400 = second / 86400 + cycles * Date.cycle :=
    Int.add_mul_ediv_right _ _ (by decide)
  have ofDay : (second + cycles * Date.cycle * 86400) % 86400 = second % 86400 :=
    Int.add_mul_emod_self_right ..
  simp only [stamp?, turned, days, ofDay, Date.ofDays_cycles, behindYear, List.append_assoc,
    List.cons_append]

theorem moment?_stamp {second : Int} {source : String} (stamped : stamp? second = some source) :
    moment? source = some second := by
  let date := Date.ofDays (second / 86400)
  let cycles := 1 - date.year / 400
  let turned := second + cycles * (Date.cycle * 86400)
  have year : date.year + cycles * 400 = date.year % 400 + 400 := by omega
  have late : 0 ≤ turned / 86400 + Date.epoch := by
    apply Date.late_of_year
    have days : turned / 86400 = second / 86400 + cycles * Date.cycle := by
      rw [← Int.add_mul_ediv_right _ _ (by decide), Int.mul_assoc]
    rw [days, Date.ofDays_cycles]
    change 1 ≤ date.year + cycles * 400
    omega
  have written : inRange (date.year % 400 + 400) = true := by
    rw [inRange, Bool.and_eq_true, decide_eq_true_iff, decide_eq_true_iff]
    omega
  have moved := stamp?_cycles second cycles
  simp only [date, year, if_pos written] at moved
  have here := stamp?_cycles second 0
  simp only [Int.zero_mul, Int.add_zero, stamped] at here
  obtain ⟨-, source_eq⟩ := Option.ite_none_right_eq_some.mp here.symm
  obtain rfl := Option.some.inj source_eq
  rw [moment?, String.toList_ofList, anyYear?_yearText _ (digits_behindYear _ _),
    Option.bind_eq_bind, Option.bind_some]
  dsimp only
  rw [second?_stamp late moved, Option.bind_eq_bind, Option.bind_some]
  have back : turned + (date.year / 400 - 1) * (Date.cycle * 86400) = second := by
    simp only [turned, cycles, Date.cycle]
    omega
  exact congrArg some back

theorem moment?_empty : moment? "" = none := rfl

def ending : Nat := 8210266876800

def beginning : Nat := 8334601228800

theorem exists_stamp_iff (second : Int) :
    (∃ source, stamp? second = some source) ↔ -(beginning : Int) ≤ second ∧ second < ending := by
  have days : (∃ source, stamp? second = some source) ↔
      inRange (Date.ofDays (second / 86400)).year := by
    simp only [stamp?, Option.ite_none_right_eq_some, exists_and_left, Option.some.injEq,
      exists_eq', and_true]
  rw [days, Date.inRange_iff, beginning, ending]
  omega

theorem text_written {time : Nanos} (written : -(beginning : Int) ≤ second time ∧ second time < ending) :
    text time ≠ "" ∧ moment? (text time) = some (second time) := by
  obtain ⟨source, stamped⟩ := (exists_stamp_iff _).mpr written
  have reads := moment?_stamp stamped
  rw [text, stamped, Option.getD_some]
  refine ⟨?_, reads⟩
  rintro rfl
  rw [moment?_empty] at reads
  cases reads

theorem text_unwritten {time : Nanos}
    (outside : ¬(-(beginning : Int) ≤ second time ∧ second time < ending)) : text time = "" := by
  rw [← exists_stamp_iff, not_exists] at outside
  rw [text, Option.eq_none_iff_forall_ne_some.mpr outside]
  rfl

/-- A time so late that a signed word takes it for a moment before the epoch, in a year that can be
written. -/
def Wraps (time : Nanos) : Prop :=
  UInt64.size ≤ time.seconds + beginning

instance (time : Nanos) : Decidable (Wraps time) :=
  inferInstanceAs (Decidable (_ ≤ _))

theorem second_late {time : Nanos} (held : time.seconds < UInt64.size)
    (late : UInt64.size / 2 ≤ time.seconds) : second time = time.seconds - UInt64.size := by
  have size : ((UInt64.size : Nat) : Int) = 2 ^ 64 := rfl
  have half : UInt64.size / 2 = 2 ^ 63 := rfl
  have turned : second time = Int.bmod (time.seconds - UInt64.size) UInt64.size :=
    (Int.sub_bmod_right _ _).symm
  rw [turned]
  exact Int.bmod_eq_of_le (by omega) (by omega)

theorem not_wraps {time : Nanos} (early : time.seconds < ending) : ¬Wraps time := by
  rw [ending] at early
  rw [Wraps, beginning, Nat.not_le]
  exact Nat.lt_trans (Nat.add_lt_add_right early _) (by decide)

section Held

variable {time : Nanos} (held : time.seconds < UInt64.size)

theorem text_early (early : time.seconds < ending) :
    text time ≠ "" ∧ moment? (text time) = some (time.seconds : Int) := by
  have small : time.seconds < 2 ^ 63 := Nat.lt_trans early (by decide)
  have written := @text_written time
  rw [second_eq small, beginning, ending] at written
  exact written ⟨by omega, Int.ofNat_lt.mpr early⟩

include held

theorem text_wrapped (wraps : Wraps time) :
    text time ≠ "" ∧ moment? (text time) = some ((time.seconds : Int) - UInt64.size) := by
  have size : UInt64.size = 18446744073709551616 := rfl
  have written := @text_written time
  rw [Wraps, beginning] at wraps
  rw [second_late held (by omega), beginning, ending] at written
  exact written (by omega)

theorem text_between (late : ¬time.seconds < ending) (early : ¬Wraps time) : text time = "" := by
  have size : UInt64.size = 18446744073709551616 := rfl
  rw [Wraps, beginning] at early
  rw [ending] at late
  apply text_unwritten
  rw [beginning, ending]
  by_cases small : time.seconds < 2 ^ 63
  next =>
    rw [second_eq small]
    omega
  next =>
    rw [second_late held (by omega)]
    omega

theorem text_ne_empty_iff : text time ≠ "" ↔ time.seconds < ending ∨ Wraps time := by
  constructor
  next =>
    intro shown
    by_contra neither
    rw [not_or] at neither
    exact shown (text_between held neither.1 neither.2)
  next =>
    rintro (early | wraps)
    next => exact (text_early early).1
    next => exact (text_wrapped held wraps).1

theorem moment?_cases {moment : Int} (reads : moment? (text time) = some moment) :
    time.seconds < ending ∧ moment = time.seconds ∨
      Wraps time ∧ moment = time.seconds - UInt64.size := by
  have shown : text time ≠ "" := by
    intro empty
    rw [empty, moment?_empty] at reads
    cases reads
  rcases (text_ne_empty_iff held).mp shown with early | wraps
  next =>
    rw [(text_early early).2] at reads
    exact .inl ⟨early, (Option.some.inj reads).symm⟩
  next =>
    rw [(text_wrapped held wraps).2] at reads
    exact .inr ⟨wraps, (Option.some.inj reads).symm⟩

theorem moment?_exact_iff :
    moment? (text time) = some (time.seconds : Int) ↔ time.seconds < ending := by
  refine ⟨fun reads => ?_, fun early => (text_early early).2⟩
  rcases moment?_cases held reads with ⟨early, -⟩ | ⟨-, differs⟩
  next => exact early
  next =>
    have size : UInt64.size = 18446744073709551616 := rfl
    omega

end Held

-- Of two times in their order the texts are in reverse order if the later one wraps alone.
theorem moment?_lt_iff {time later : Nanos} (order : time ≤ later)
    (held : later.seconds < UInt64.size) {moment moment' : Int}
    (reads : moment? (text time) = some moment) (reads' : moment? (text later) = some moment') :
    moment' < moment ↔ ¬Wraps time ∧ Wraps later := by
  have seconds : time.seconds ≤ later.seconds := Nat.div_le_div_right order
  rcases moment?_cases (Nat.lt_of_le_of_lt seconds held) reads with ⟨early, rfl⟩ | ⟨wraps, rfl⟩
  next =>
    rcases moment?_cases held reads' with ⟨early', rfl⟩ | ⟨wraps', rfl⟩
    next =>
      have straight := not_wraps early'
      simp only [straight, and_false, iff_false]
      omega
    next =>
      simp only [not_wraps early, wraps', not_false_eq_true, and_true, iff_true]
      omega
  next =>
    have wraps' : Wraps later := Nat.le_trans wraps (Nat.add_le_add_right seconds _)
    rcases moment?_cases held reads' with ⟨early', -⟩ | ⟨-, rfl⟩
    next => exact absurd wraps' (not_wraps early')
    next =>
      simp only [wraps, not_true_eq_false, false_and, iff_false]
      omega

end Calendar

end Text

end FlowProbe
