import FlowProbe.Proofs.Text.Numeral
import FlowProbe.Time
import Mathlib.Tactic.IntervalCases

set_option autoImplicit false

namespace FlowProbe.Calendar

section Rules

/-- Of the years that end a century only every fourth has a leap day. -/
def IsLeap (year : Nat) : Prop :=
  4 ∣ year ∧ (100 ∣ year → 400 ∣ year)

instance (year : Nat) : Decidable (IsLeap year) :=
  inferInstanceAs (Decidable (_ ∧ _))

def daysOfMonth (year : Nat) : Nat → Nat
  | 2 => if IsLeap year then 29 else 28
  | 4 | 6 | 9 | 11 => 30
  | _ => 31

def daysToMonth (year : Nat) : Nat → Nat
  | 0 | 1 => 0
  | month + 1 => daysToMonth year month + daysOfMonth year month

def daysToYear : Nat → Nat
  | 0 => 0
  | year + 1 => daysToYear year + daysToMonth year 13

def dayNumber (year month day : Nat) : Nat :=
  daysToYear year + daysToMonth year month + (day - 1)

def IsDate (year month day : Nat) : Prop :=
  (1 ≤ month ∧ month ≤ 12) ∧ 1 ≤ day ∧ day ≤ daysOfMonth year month

instance (year month day : Nat) : Decidable (IsDate year month day) :=
  inferInstanceAs (Decidable (_ ∧ _))

theorem daysToMonth_thirteen (year : Nat) :
    daysToMonth year 13 = if IsLeap year then 366 else 365 := by
  simp only [daysToMonth, daysOfMonth]
  split <;> rfl

theorem daysToYear_succ (year : Nat) :
    daysToYear (year + 1) + year / 100 = 366 + 365 * year + year / 4 + year / 400 := by
  induction year with
  | zero => rfl
  | succ year ih =>
    rw [daysToYear, daysToMonth_thirteen]
    split
    next leap =>
      rw [IsLeap] at leap
      omega
    next common =>
      rw [IsLeap, not_and_or, Classical.not_imp] at common
      obtain between | ⟨century, between⟩ := common
      next => omega
      next => omega

theorem daysToYear_epoch : daysToYear 1970 = 719528 := by
  have closed := daysToYear_succ 1969
  change daysToYear (1969 + 1) = 719528
  generalize daysToYear (1969 + 1) = days at closed
  omega

end Rules

section Cycle

/-- A day of a cycle as so many centuries, spans of four years, years and days. Years begin in March,
so that a leap day is the last day of the fourth year. -/
structure Cut (inCycle : Nat) where
  centuries : Nat
  spans : Nat
  years : Nat
  days : Nat
  whole : inCycle = 36524 * centuries + 1461 * spans + 365 * years + days
  centuries_le : centuries ≤ 3
  spans_le : spans ≤ 24
  years_le : years ≤ 3
  days_le : days ≤ 365
  leap : days = 365 → years = 3 ∧ (spans < 24 ∨ centuries = 3)

def Cut.year {inCycle : Nat} (cut : Cut inCycle) : Nat :=
  100 * cut.centuries + 4 * cut.spans + cut.years

-- The last of `count` parts has room for one more unit.
theorem exists_part (size : Nat) {count whole : Nat} (positive : 0 < count)
    (inside : whole ≤ size * count) :
    ∃ part rest, whole = size * part + rest ∧ part < count ∧
      (rest < size ∨ (rest = size ∧ part + 1 = count)) := by
  obtain rfl | before := Nat.eq_or_lt_of_le inside
  next =>
    obtain ⟨count, rfl⟩ := Nat.exists_eq_add_of_le' positive
    exact ⟨count, size, Nat.mul_succ size count, Nat.lt_succ_self count, .inr ⟨rfl, rfl⟩⟩
  next =>
    have some_size : 0 < size := Nat.pos_of_mul_pos_right (Nat.zero_lt_of_lt before)
    exact ⟨whole / size, whole % size, (Nat.div_add_mod whole size).symm,
      Nat.div_lt_of_lt_mul before, .inl (Nat.mod_lt whole some_size)⟩

variable {inCycle : Nat}

theorem exists_cut (inside : inCycle < 146097) : Nonempty (Cut inCycle) := by
  obtain ⟨centuries, inCentury, cut, fewer, last⟩ :=
    exists_part 36524 (show 0 < 4 by decide) (show inCycle ≤ 36524 * 4 by omega)
  obtain ⟨spans, inSpan, cutSpans, fewerSpans, lastSpan⟩ :=
    exists_part 1461 (show 0 < 25 by decide) (show inCentury ≤ 1461 * 25 by omega)
  obtain ⟨years, days, cutYears, fewerYears, lastYear⟩ :=
    exists_part 365 (show 0 < 4 by decide) (show inSpan ≤ 365 * 4 by omega)
  refine ⟨⟨centuries, spans, years, days, ?_, ?_, ?_, ?_, ?_, ?_⟩⟩
  all_goals omega

theorem yearOfCycle_cut (cut : Cut inCycle) :
    (inCycle - inCycle / 1460 + inCycle / 36524 - inCycle / 146096) / 365 = cut.year := by
  obtain ⟨centuries, spans, years, days, whole, centuries_le, spans_le, years_le, days_le, leap⟩ := cut
  dsimp only [Cut.year]
  have inside : inCycle ≤ 146096 := by omega
  obtain rfl | before := Nat.eq_or_lt_of_le inside
  next =>
    obtain rfl : centuries = 3 := by omega
    obtain rfl : spans = 24 := by omega
    obtain rfl : years = 3 := by omega
    rfl
  next =>
    have century : inCycle / 36524 = centuries := by omega
    have late : inCycle / 146096 = 0 := Nat.div_eq_of_lt before
    -- The days in a year and the leap days before make up four years once more near its end.
    obtain ⟨extra, span, least, most⟩ : ∃ extra, inCycle / 1460 = 25 * centuries + spans + extra ∧
        extra ≤ days ∧ days < 365 + extra := by
      by_cases near : 1460 ≤ 24 * centuries + spans + 365 * years + days
      next => exact ⟨1, by omega, by omega, by omega⟩
      next => exact ⟨0, by omega, by omega, by omega⟩
    have numerator : inCycle - inCycle / 1460 + centuries =
        365 * (100 * centuries + 4 * spans + years) + (days - extra) := by
      omega
    rw [century, late, Nat.sub_zero, numerator]
    omega

theorem quotients_cut (cut : Cut inCycle) (cycles : Nat) :
    (400 * cycles + cut.year) / 4 = 100 * cycles + 25 * cut.centuries + cut.spans ∧
      (400 * cycles + cut.year) / 100 = 4 * cycles + cut.centuries ∧
      (400 * cycles + cut.year) / 400 = cycles := by
  obtain ⟨centuries, spans, years, -, -, centuries_le, spans_le, years_le, -, -⟩ := cut
  dsimp only [Cut.year]
  refine ⟨?_, ?_, ?_⟩
  all_goals omega

theorem dayOfYear_cut (cut : Cut inCycle) :
    inCycle - (365 * cut.year + cut.year / 4 - cut.year / 100) = cut.days := by
  obtain ⟨fourth, century, -⟩ := quotients_cut cut 0
  rw [Nat.mul_zero, Nat.zero_add] at fourth century
  have whole := cut.whole
  rw [fourth, century, Cut.year]
  omega

theorem daysToYear_cut (cut : Cut inCycle) (cycles : Nat) :
    daysToYear (400 * cycles + cut.year + 1) + cut.days = 146097 * cycles + inCycle + 366 := by
  obtain ⟨fourth, century, cycle⟩ := quotients_cut cut cycles
  have closed := daysToYear_succ (400 * cycles + cut.year)
  have whole := cut.whole
  rw [fourth, century, cycle] at closed
  have year : cut.year = 100 * cut.centuries + 4 * cut.spans + cut.years := rfl
  omega

theorem isLeap_cut (cut : Cut inCycle) (last : cut.days = 365) (cycles : Nat) :
    IsLeap (400 * cycles + cut.year + 1) := by
  obtain ⟨fourth, between⟩ := cut.leap last
  have centuries_le := cut.centuries_le
  have spans_le := cut.spans_le
  rw [Cut.year, fourth]
  constructor
  all_goals omega

theorem daysOfMonth_march {count : Nat} (tenth : count < 10) (year : Nat) :
    daysOfMonth year (count + 3) + (153 * count + 2) / 5 = (153 * (count + 1) + 2) / 5 := by
  interval_cases count <;> rfl

-- From the first of March to the end of a year there are 306 days.
theorem daysToMonth_march {count : Nat} (tenth : count ≤ 10) (year : Nat) :
    daysToMonth year (count + 3) + 306 = daysToMonth year 13 + (153 * count + 2) / 5 := by
  induction count with
  | zero =>
    rw [daysToMonth_thirteen]
    simp only [daysToMonth, daysOfMonth]
    split <;> rfl
  | succ count ih =>
    have month := daysOfMonth_march tenth year
    have before := ih (Nat.le_of_succ_le tenth)
    rw [daysToMonth]
    next => omega
    next => simp

theorem date_from_march {year dayOfYear : Nat} (short : dayOfYear ≤ 365)
    (leap : dayOfYear = 365 → IsLeap (year + 1)) :
    let monthFromMarch := (5 * dayOfYear + 2) / 153
    let day := dayOfYear - (153 * monthFromMarch + 2) / 5 + 1
    let month := if monthFromMarch < 10 then monthFromMarch + 3 else monthFromMarch - 9
    let civil := if month ≤ 2 then year + 1 else year
    IsDate civil month day ∧
      dayNumber civil month day + 306 = daysToYear (year + 1) + dayOfYear := by
  intro count day
  have begun : (153 * count + 2) / 5 ≤ dayOfYear := by omega
  have within : dayOfYear < (153 * (count + 1) + 2) / 5 := by omega
  by_cases tenth : count < 10
  next =>
    have month := daysOfMonth_march tenth year
    have before := daysToMonth_march (Nat.le_of_lt tenth) year
    have later : ¬count + 3 ≤ 2 := by omega
    simp only [if_pos tenth, if_neg later, dayNumber, daysToYear]
    exact ⟨⟨by omega, by omega, by omega⟩, by omega⟩
  next =>
    -- January and February belong to the civil year that follows.
    have last : count ≤ 11 := by omega
    have early : count - 9 ≤ 2 := by omega
    simp only [if_neg tenth, if_pos early, dayNumber]
    obtain ten | eleven : count = 10 ∨ count = 11 := by omega
    next =>
      have january : count - 9 = 1 := by omega
      rw [january]
      simp only [IsDate, daysToMonth, daysOfMonth]
      omega
    next =>
      have february : count - 9 = 2 := by omega
      rw [february]
      simp only [IsDate, daysToMonth, daysOfMonth]
      split
      next => omega
      next common =>
        have shorter : dayOfYear ≠ 365 := fun last => common (leap last)
        omega

theorem date_ofDays (shifted : Nat) :
    let date := Date.ofDays (shifted - Date.epoch)
    ∃ year : Nat, date.year = year ∧ IsDate year date.month date.day ∧
      dayNumber year date.month date.day = shifted + 60 := by
  obtain ⟨cut⟩ := exists_cut (Nat.mod_lt shifted (show 0 < 146097 by decide))
  have inCycle : ((shifted : Int) % Date.cycle).toNat = shifted % 146097 := by
    rw [Date.cycle]
    omega
  have year : (shifted : Int) / Date.cycle * 400 + cut.year =
      ((400 * (shifted / 146097) + cut.year : Nat) : Int) := by
    rw [Date.cycle]
    omega
  obtain ⟨valid, number⟩ := date_from_march cut.days_le fun last =>
    isLeap_cut cut last (shifted / 146097)
  have start := daysToYear_cut cut (shifted / 146097)
  rw [Nat.div_add_mod] at start
  simp only [Date.ofDays, Int.sub_add_cancel, inCycle, yearOfCycle_cut cut, dayOfYear_cut cut, year]
  refine ⟨_, ?_, valid, ?_⟩
  next => exact (apply_ite Nat.cast _ _ _).symm
  next => omega

end Cycle

section Text

open Address (digits numberOf symbol)

def field? (width : Nat) (chars : List Char) : Option (Nat × List Char) :=
  let (values, rest) := digits 10 chars
  if values.length = width then some (numberOf 10 values, rest) else none

def year? (chars : List Char) : Option (Nat × List Char) :=
  match field? 4 chars with
  | some read => some read
  | none => do
    let (values, rest) := digits 10 (← symbol '+' chars)
    if 4 < values.length ∧ values.head? ≠ some 0 then some (numberOf 10 values, rest) else none

def marked? (mark : Char) (chars : List Char) : Option (Nat × List Char) :=
  (symbol mark chars).bind (field? 2)

def secondOf (year month day hour minute second : Nat) : Int :=
  ((dayNumber year month day : Int) - daysToYear 1970) * 86400 +
    (hour * 3600 + minute * 60 + second : Nat)

def second? (source : String) : Option Int := do
  let (year, rest) ← year? source.toList
  let (month, rest) ← marked? '-' rest
  let (day, rest) ← marked? '-' rest
  let (hour, rest) ← marked? 'T' rest
  let (minute, rest) ← marked? ':' rest
  let (second, rest) ← marked? ':' rest
  if rest = [] ∧ IsDate year month day ∧ hour < 24 ∧ minute < 60 ∧ second < 60 then
    some (secondOf year month day hour minute second)
  else none

theorem digits_zeros (count : Nat) (chars : List Char) :
    digits 10 (List.replicate count '0' ++ chars) =
      (List.replicate count 0 ++ (digits 10 chars).1, (digits 10 chars).2) := by
  induction count with
  | zero => rfl
  | succ count ih =>
    rw [List.replicate_succ, List.cons_append, digits, ih]
    rfl

theorem numberOf_zeros (count : Nat) (values : List Nat) :
    numberOf 10 (List.replicate count 0 ++ values) = numberOf 10 values := by
  induction count with
  | zero => rfl
  | succ count ih => exact ih

theorem digits_padded (width number : Nat) {rest : List Char} (stop : digits 10 rest = ([], rest)) :
    ∃ values, digits 10 (padded width number ++ rest) = (values, rest) ∧
      numberOf 10 values = number ∧
      values.length = max width (Nat.toDigits 10 number).length := by
  obtain ⟨values, shows, reads⟩ := Address.digits_toDigits 10 (by decide) (by decide) number
  let zeros := width - (Nat.toDigits 10 number).length
  refine ⟨List.replicate zeros 0 ++ values, ?_, (numberOf_zeros zeros values).trans shows.value, ?_⟩
  next => rw [padded, List.append_assoc, digits_zeros, reads, stop, List.append_nil]
  next =>
    rw [List.length_append, List.length_replicate, shows.length]
    omega

theorem field?_padded {width number : Nat} (wide : 0 < width) (fits : number < 10 ^ width)
    {rest : List Char} (stop : digits 10 rest = ([], rest)) :
    field? width (padded width number ++ rest) = some (number, rest) := by
  obtain ⟨values, reads, value, length⟩ := digits_padded width number stop
  have short : (Nat.toDigits 10 number).length ≤ width :=
    (Nat.length_toDigits_le_iff (by decide) wide).mpr fits
  rw [Nat.max_eq_left short] at length
  rw [field?, reads]
  dsimp only
  rw [value, if_pos length]

theorem year?_yearText (year : Nat) {rest : List Char} (stop : digits 10 rest = ([], rest)) :
    year? (yearText year ++ rest) = some (year, rest) := by
  rw [yearText]
  split
  next few =>
    have fits : year < 10 ^ 4 := by omega
    rw [year?, Int.toNat_natCast, field?_padded (by decide) fits stop]
  next many =>
    have unsigned : ¬(year : Int) < 0 := by omega
    have large : ¬year < 10 ^ 4 := by omega
    obtain ⟨values, shows, reads⟩ := Address.digits_toDigits 10 (by decide) (by decide) year
    have long : 4 < values.length := by
      rw [shows.length, ← Nat.not_le, Nat.length_toDigits_le_iff (by decide) (by decide)]
      exact large
    have lead : values.head? ≠ some 0 := fun zero => large (by rw [shows.lead zero]; decide)
    have unpadded : padded 4 year = Nat.toDigits 10 year := by
      rw [shows.length] at long
      rw [padded, Nat.sub_eq_zero_of_le (Nat.le_of_lt long)]
      rfl
    have signed : field? 4 ('+' :: (Nat.toDigits 10 year ++ rest)) = none := by
      rw [field?, Address.digits_stop 10 (by decide)]
      rfl
    rw [if_neg unsigned, Int.natAbs_natCast, unpadded, List.cons_append, year?, signed]
    simp [symbol, reads, stop, long, lead, shows.value]

theorem marked?_padded (mark : Char) {number : Nat} (fits : number < 100) {rest : List Char}
    (stop : digits 10 rest = ([], rest)) :
    marked? mark (mark :: (padded 2 number ++ rest)) = some (number, rest) := by
  rw [marked?, symbol, if_pos rfl, Option.bind_some, field?_padded (by decide) fits stop]

theorem IsDate.lt_hundred {year month day : Nat} (date : IsDate year month day) :
    month < 100 ∧ day < 100 := by
  obtain ⟨⟨-, twelve⟩, -, within⟩ := date
  have most : daysOfMonth year month ≤ 31 := by
    unfold daysOfMonth
    split <;> try split
    all_goals decide
  omega

theorem second?_written {year month day hour minute second : Nat} (date : IsDate year month day)
    (hours : hour < 24) (minutes : minute < 60) (seconds : second < 60) :
    second? (String.ofList (yearText year ++ '-' :: padded 2 month ++ '-' ::
      padded 2 day ++ 'T' :: padded 2 hour ++ ':' :: padded 2 minute ++ ':' ::
      padded 2 second)) = some (secondOf year month day hour minute second) := by
  have stop {c : Char} (other : Address.digitValue? 10 c = none) (rest : List Char) :=
    Address.digits_stop 10 other rest
  have last : marked? ':' (':' :: padded 2 second) = some (second, []) := by
    rw [← List.append_nil (padded 2 second)]
    exact marked?_padded ':' (by omega) rfl
  obtain ⟨months, days⟩ := date.lt_hundred
  simp only [second?, String.toList_ofList, List.append_assoc, List.cons_append]
  rw [year?_yearText year (stop (by decide) _), Option.bind_eq_bind, Option.bind_some,
    marked?_padded '-' months (stop (by decide) _), Option.bind_some,
    marked?_padded '-' days (stop (by decide) _), Option.bind_some,
    marked?_padded 'T' (by omega) (stop (by decide) _), Option.bind_some,
    marked?_padded ':' (by omega) (stop (by decide) _), Option.bind_some, last, Option.bind_some]
  exact if_pos ⟨rfl, date, hours, minutes, seconds⟩

theorem second?_stamp {second : Int} (late : 0 ≤ second / 86400 + Date.epoch) {source : String}
    (stamped : stamp? second = some source) : second? source = some second := by
  obtain ⟨shifted, day⟩ := Int.eq_ofNat_of_zero_le late
  obtain ⟨year, civil, date, number⟩ := date_ofDays shifted
  have days : (shifted : Int) - Date.epoch = second / 86400 := by omega
  rw [days] at civil date number
  simp only [stamp?, Option.ite_none_right_eq_some, Option.some.injEq] at stamped
  obtain ⟨-, rfl⟩ := stamped
  rw [civil, second?_written date (by omega) (by omega) (by omega), secondOf, number,
    daysToYear_epoch]
  rw [Date.epoch] at days
  congr 1
  omega

/-- A moment whose second a signed word holds, in a year that can be written. -/
def Writable (time : Nanos) : Prop :=
  time.seconds < 2 ^ 63 ∧ inRange (Date.ofDays (time.seconds / 86400)).year

instance (time : Nanos) : Decidable (Writable time) :=
  inferInstanceAs (Decidable (_ ∧ _))

theorem second_eq {time : Nanos} (held : time.seconds < 2 ^ 63) : second time = time.seconds := by
  have size : ((UInt64.size : Nat) : Int) = 2 ^ 64 := rfl
  exact Int.bmod_eq_of_le (by omega) (by omega)

theorem exists_stamp {time : Nanos} (writable : Writable time) :
    ∃ source, stamp? time.seconds = some source := by
  rw [stamp?]
  exact ⟨_, if_pos writable.2⟩

theorem second?_text {time : Nanos} (writable : Writable time) :
    second? (text time) = some (time.seconds : Int) := by
  obtain ⟨source, stamped⟩ := exists_stamp writable
  have late : 0 ≤ (time.seconds : Int) / 86400 + Date.epoch := by
    rw [Date.epoch]
    omega
  rw [text, second_eq writable.1, stamped]
  exact second?_stamp late stamped

end Text

end FlowProbe.Calendar
