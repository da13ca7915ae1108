set_option autoImplicit false

namespace FlowProbe

abbrev Nanos := Nat

namespace Nanos

def perSecond : Nat := 1000000000

def ofParts (seconds nanos : Nat) : Nanos := seconds * perSecond + nanos

def seconds (time : Nanos) : Nat := time / perSecond

end Nanos

namespace Span

def decimals : Nat → Nat → Nat → List Char
  | 0, _, _ => []
  | places + 1, whole, part =>
    if part = 0 then []
    else Nat.digitChar (part * 10 / whole) :: decimals places whole (part * 10 % whole)

def inUnit (unit : Nat) (name : String) (span : Nanos) : String :=
  let fraction := decimals 9 unit (span % unit)
  let point := if fraction.isEmpty then [] else ['.']
  toString (span / unit) ++ String.ofList (point ++ fraction) ++ name

def text (span : Nanos) : String :=
  if Nanos.perSecond ≤ span then inUnit Nanos.perSecond "s" span
  else if 1000000 ≤ span then inUnit 1000000 "ms" span
  else if 1000 ≤ span then inUnit 1000 "µs" span
  else inUnit 1 "ns" span

end Span

structure Date where
  year : Int
  month : Nat
  day : Nat
  deriving DecidableEq, Repr

namespace Date

-- Days in a cycle of four hundred years.
def cycle : Int := 146097

-- From the first of March of the year zero to the epoch.
def epoch : Int := 719468

def ofDays (days : Int) : Date :=
  let shifted := days + epoch
  let inCycle := (shifted % cycle).toNat
  let yearOfCycle :=
    (inCycle - inCycle / 1460 + inCycle / 36524 - inCycle / 146096) / 365
  let dayOfYear := inCycle - (365 * yearOfCycle + yearOfCycle / 4 - yearOfCycle / 100)
  let monthFromMarch := (5 * dayOfYear + 2) / 153
  let day := dayOfYear - (153 * monthFromMarch + 2) / 5 + 1
  let month := if monthFromMarch < 10 then monthFromMarch + 3 else monthFromMarch - 9
  let year := shifted / cycle * 400 + yearOfCycle
  { year := if month ≤ 2 then year + 1 else year, month, day }

end Date

namespace Calendar

def inRange (year : Int) : Bool :=
  -262143 ≤ year && year ≤ 262142

def padded (width number : Nat) : List Char :=
  let digits := Nat.toDigits 10 number
  List.replicate (width - digits.length) '0' ++ digits

/-- Years of more than four digits and years before zero have a sign. -/
def yearText (year : Int) : List Char :=
  if 0 ≤ year ∧ year ≤ 9999 then padded 4 year.toNat
  else (if year < 0 then '-' else '+') :: padded 4 year.natAbs

def stamp? (second : Int) : Option String :=
  let date := Date.ofDays (second / 86400)
  let ofDay := (second % 86400).toNat
  if inRange date.year then
    some (String.ofList (yearText date.year ++ '-' :: padded 2 date.month ++ '-' ::
      padded 2 date.day ++ 'T' :: padded 2 (ofDay / 3600) ++ ':' ::
      padded 2 (ofDay / 60 % 60) ++ ':' :: padded 2 (ofDay % 60)))
  else
    none

/-- The second that a moment lies in. It is held in a signed word of 64 bits. -/
def second (time : Nanos) : Int :=
  Int.bmod time.seconds UInt64.size

/-- A moment as text, empty beyond the years that can be written. -/
def text (time : Nanos) : String :=
  (stamp? (second time)).getD ""

end Calendar

end FlowProbe
