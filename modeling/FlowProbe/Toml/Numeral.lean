import FlowProbe.Toml.Value

set_option autoImplicit false

namespace FlowProbe.Toml

def moreDigits? (isDigit : Char → Bool) : List Char → Option (List Char × List Char)
  | [] => some ([], [])
  | '_' :: c :: rest =>
    if isDigit c then (moreDigits? isDigit rest).map fun (digits, rest) => (c :: digits, rest)
    else none
  | c :: rest =>
    if isDigit c then (moreDigits? isDigit rest).map fun (digits, rest) => (c :: digits, rest)
    else some ([], c :: rest)

def digitRun? (isDigit : Char → Bool) : List Char → Option (List Char × List Char)
  | [] => none
  | c :: rest =>
    if isDigit c then (moreDigits? isDigit rest).map fun (digits, rest) => (c :: digits, rest)
    else none

def decimalValue (digits : List Char) : Nat :=
  digits.foldl (fun n c => n * 10 + (c.toNat - 48)) 0

namespace Numeral

def integer? (value : Int) : Option Value :=
  if Int64.minValue.toInt ≤ value ∧ value ≤ Int64.maxValue.toInt then some (.integer value)
  else none

def whole? : List Char → Option (List Char × List Char)
  | '0' :: rest => some (['0'], rest)
  | source => digitRun? Char.isDigit source

def fraction? : List Char → Option (List Char × List Char)
  | '.' :: rest => digitRun? Char.isDigit rest
  | rest => some ([], rest)

def exponentOf? (rest : List Char) : Option (Int × List Char) :=
  match rest with
  | '-' :: rest => (digitRun? Char.isDigit rest).map fun (digits, rest) =>
      (-(decimalValue digits : Int), rest)
  | '+' :: rest => (digitRun? Char.isDigit rest).map fun (digits, rest) =>
      ((decimalValue digits : Int), rest)
  | rest => (digitRun? Char.isDigit rest).map fun (digits, rest) =>
      ((decimalValue digits : Int), rest)

def exponent? : List Char → Option (Int × List Char)
  | 'e' :: rest => exponentOf? rest
  | 'E' :: rest => exponentOf? rest
  | rest => some (0, rest)

/-- A number too large is infinite, which is only allowed below zero. -/
def float? (negative : Bool) (digits : Nat) (exponent : Int) : Option Value :=
  match Binary64.ofDecimal? digits exponent with
  | some magnitude => some (.float (.finite negative magnitude))
  | none => if negative then some (.float (.infinite true)) else none

def decimal? (negative : Bool) (source : List Char) : Option (Value × List Char) := do
  let (whole, rest) ← whole? source
  match rest with
  | '.' :: _ | 'e' :: _ | 'E' :: _ =>
    let (fraction, rest) ← fraction? rest
    let (exponent, rest) ← exponent? rest
    let value ← float? negative (decimalValue (whole ++ fraction)) (exponent - fraction.length)
    return (value, rest)
  | _ =>
    let magnitude : Int := decimalValue whole
    let value ← integer? (if negative then -magnitude else magnitude)
    return (value, rest)

def radixDigit (c : Char) : Nat :=
  if c.isDigit then c.toNat - 48
  else if 'a' ≤ c ∧ c ≤ 'f' then c.toNat - 87
  else if 'A' ≤ c ∧ c ≤ 'F' then c.toNat - 55
  else 16

def inRadix? (radix : Nat) (source : List Char) : Option (Value × List Char) := do
  let (digits, rest) ← digitRun? (fun c => radixDigit c < radix) source
  let value ← integer? (digits.foldl (fun n c => n * radix + radixDigit c) 0 : Nat)
  return (value, rest)

def signed? (negative : Bool) (source : List Char) : Option (Value × List Char) :=
  match source with
  | 'i' :: 'n' :: 'f' :: rest => some (.float (.infinite negative), rest)
  | 'n' :: 'a' :: 'n' :: rest => some (.float .nan, rest)
  | _ => decimal? negative source

def number? : List Char → Option (Value × List Char)
  | '0' :: 'x' :: rest => inRadix? 16 rest
  | '0' :: 'o' :: rest => inRadix? 8 rest
  | '0' :: 'b' :: rest => inRadix? 2 rest
  | '+' :: rest => signed? false rest
  | '-' :: rest => signed? true rest
  | source => signed? false source

end Numeral

namespace Moment

inductive Reading where
  | absent
  | malformed
  | found (rest : List Char)

def digits? (count : Nat) (source : List Char) : Option (Nat × List Char) :=
  let digits := source.take count
  if digits.length = count ∧ digits.all Char.isDigit then
    some (decimalValue digits, source.drop count)
  else none

def digitsIn? (count low high : Nat) (source : List Char) : Option (Nat × List Char) :=
  (digits? count source).filter fun read => low ≤ read.1 && read.1 ≤ high

def char? (c : Char) : List Char → Option (List Char)
  | first :: rest => if first = c then some rest else none
  | [] => none

def daysIn (year month : Nat) : Nat :=
  if month = 2 then if year % 4 = 0 ∧ (year % 100 ≠ 0 ∨ year % 400 = 0) then 29 else 28
  else if month = 4 ∨ month = 6 ∨ month = 9 ∨ month = 11 then 30
  else 31

def monthDay? (year : Nat) (source : List Char) : Option (List Char) := do
  let (month, rest) ← digitsIn? 2 1 12 source
  let rest ← char? '-' rest
  let (_, rest) ← digitsIn? 2 1 (daysIn year month) rest
  return rest

def decimals : List Char → Option (List Char)
  | '.' :: rest =>
    if (rest.head?).any Char.isDigit then some (rest.dropWhile Char.isDigit) else some ('.' :: rest)
  | rest => some rest

def minuteSecond? (source : List Char) : Option (List Char) := do
  let (_, rest) ← digitsIn? 2 0 59 source
  let rest ← char? ':' rest
  let (_, rest) ← digitsIn? 2 0 60 rest
  decimals rest

def ofOption : Option (List Char) → Reading
  | some rest => .found rest
  | none => .malformed

def time (source : List Char) : Reading :=
  match (digitsIn? 2 0 23 source).bind fun (_, rest) => char? ':' rest with
  | none => .absent
  | some rest => ofOption (minuteSecond? rest)

def hourMinute? (source : List Char) : Option (List Char) := do
  let (_, rest) ← digitsIn? 2 0 23 source
  let rest ← char? ':' rest
  let (_, rest) ← digitsIn? 2 0 59 rest
  return rest

def offset : List Char → Reading
  | [] => .found []
  | c :: rest =>
    if c = 'Z' ∨ c = 'z' then .found rest
    else if c = '+' ∨ c = '-' then ofOption (hourMinute? rest)
    else .found (c :: rest)

def timeOfDay : List Char → Reading
  | [] => .found []
  | c :: rest =>
    if c = 'T' ∨ c = 't' ∨ c = ' ' then
      match time rest with
      | .absent => .found (c :: rest)
      | .malformed => .malformed
      | .found rest => offset rest
    else .found (c :: rest)

def read (source : List Char) : Reading :=
  let year := (digits? 4 source).bind fun (year, rest) =>
    (char? '-' rest).map fun rest => (year, rest)
  match year with
  | none => time source
  | some (year, rest) =>
    match monthDay? year rest with
    | none => .malformed
    | some rest => timeOfDay rest

end Moment

def numeral? (source : List Char) : Option (Value × List Char) :=
  match Moment.read source with
  | .found rest =>
    some (.dateTime (String.ofList (source.take (source.length - rest.length))), rest)
  | .malformed => none
  | .absent => Numeral.number? source

end FlowProbe.Toml
