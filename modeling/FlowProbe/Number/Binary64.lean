set_option autoImplicit false

namespace FlowProbe

/-- A magnitude, `mantissa * 2 ^ exponent`. -/
structure Binary64 where
  mantissa : Nat
  exponent : Int
  deriving DecidableEq, Repr

namespace Binary64

def precision : Nat := 53

def leastExponent : Int := -1074

def greatestExponent : Int := 971

def roundFraction (num den : Nat) : Nat :=
  let quotient := num / den
  let twice := 2 * (num % den)
  if twice < den then quotient
  else if den < twice then quotient + 1
  else quotient + quotient % 2

def scaleDown (num den : Nat) (exponent : Int) : Nat × Nat :=
  if 0 ≤ exponent then (num, den <<< exponent.toNat) else (num <<< (-exponent).toNat, den)

-- The exponent that gives a fraction a mantissa of full precision, or the least one.
def fittingExponent (num den : Nat) : Int :=
  let estimate := (Nat.log2 num : Int) - Nat.log2 den
  let (num, den) := scaleDown num den estimate
  let magnitude := if den ≤ num then estimate else estimate - 1
  max (magnitude + 1 - precision) leastExponent

def nearest? (num den : Nat) : Option Binary64 :=
  let exponent := fittingExponent num den
  let (num, den) := scaleDown num den exponent
  let mantissa := roundFraction num den
  let number : Binary64 :=
    if mantissa = 1 <<< precision then ⟨1 <<< (precision - 1), exponent + 1⟩
    else ⟨mantissa, exponent⟩
  if number.exponent ≤ greatestExponent then some number else none

-- Beyond these positions of the first digit a decimal number is out of range, or vanishes.
def decimalLimit : Int := 400

def ofDecimal? (digits : Nat) (exponent : Int) : Option Binary64 :=
  let position := ((Nat.toDigits 10 digits).length : Int) + exponent
  if digits = 0 ∨ position < -decimalLimit then some ⟨0, leastExponent⟩
  else if decimalLimit < position then none
  else if 0 ≤ exponent then nearest? (digits * Nat.pow 10 exponent.toNat) 1
  else nearest? digits (Nat.pow 10 (-exponent).toNat)

structure Decimal where
  digits : Nat
  exponent : Int

/-- The fractions between which every value is nearest to the number, over a common denominator:
the lower bound, the number, the upper bound and the denominator. -/
def bounds (number : Binary64) : Nat × Nat × Nat × Nat :=
  let narrow := number.mantissa = 1 <<< (precision - 1) ∧ leastExponent < number.exponent
  let value := 4 * number.mantissa
  let lower := if narrow then value - 1 else value - 2
  let exponent := number.exponent - 2
  if 0 ≤ exponent then
    let unit := 1 <<< exponent.toNat
    (lower * unit, value * unit, (value + 2) * unit, 1)
  else
    (lower, value, value + 2, 1 <<< (-exponent).toNat)

-- The place of the point in a fraction: `10 ^ (place - 1) ≤ num / den < 10 ^ place`.
def pointOf (num den : Nat) : Int :=
  let above := (Nat.toDigits 10 (num / den)).length
  if den ≤ num then above
  else
    let below := (Nat.toDigits 10 ((den - 1) / num)).length
    1 - (below : Int)

/-- The digits of a number on the grid that has `count` digits of it: of the two points around it
the nearer, provided that it is within the bounds. -/
def onGrid? (number : Binary64) (count : Nat) : Option Decimal :=
  let (lower, value, upper, den) := number.bounds
  let step : Int := pointOf value den - count
  let scale := if 0 ≤ step then Nat.pow 10 step.toNat else 1
  let factor := if 0 ≤ step then 1 else Nat.pow 10 (-step).toNat
  let grid := den * scale
  let below := value * factor / grid
  let inside (digits : Nat) : Bool :=
    let place := digits * grid
    if number.mantissa % 2 = 0 then lower * factor ≤ place && place ≤ upper * factor
    else lower * factor < place && place < upper * factor
  let nearerAbove := grid ≤ 2 * (value * factor - below * grid)
  let pick := if nearerAbove then [below + 1, below] else [below, below + 1]
  (pick.find? inside).map fun digits => ⟨digits, step⟩

def shortest (number : Binary64) : Decimal :=
  ((List.range 17).findSome? fun count => number.onGrid? (count + 1)).getD ⟨0, 0⟩

def positional (decimal : Decimal) : List Char :=
  let all := Nat.toDigits 10 decimal.digits
  let digits := (all.reverse.dropWhile (· = '0')).reverse
  let point := (all.length : Int) + decimal.exponent
  if digits.isEmpty then ['0', '.', '0']
  else if point ≤ 0 then '0' :: '.' :: List.replicate (-point).toNat '0' ++ digits
  else if point < digits.length then digits.take point.toNat ++ '.' :: digits.drop point.toNat
  else digits ++ List.replicate (point.toNat - digits.length) '0' ++ ['.', '0']

def chars (number : Binary64) : List Char :=
  if number.mantissa = 0 then positional ⟨0, 0⟩ else positional number.shortest

end Binary64

end FlowProbe
