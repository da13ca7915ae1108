import FlowProbe.Proofs.Text.Numeral
import FlowProbe.Text
import Mathlib.Tactic.SplitIfs

set_option autoImplicit false

namespace FlowProbe.JsonText

open Address (digits numberOf digitValue? symbol)

def marked? (mark : Char) : Option Char :=
  if mark = '"' ∨ mark = '\\' ∨ mark = '/' then some mark
  else if mark = 'b' then some '\x08'
  else if mark = 'f' then some '\x0c'
  else if mark = 'n' then some '\n'
  else if mark = 'r' then some '\r'
  else if mark = 't' then some '\t'
  else none

def numbered? (a b c d : Char) : Option Char := do
  let values := [← digitValue? 16 a, ← digitValue? 16 b, ← digitValue? 16 c, ← digitValue? 16 d]
  if (numberOf 16 values).isValidChar then some (Char.ofNat (numberOf 16 values)) else none

def push (c : Char) (read : List Char × List Char) : List Char × List Char :=
  (c :: read.1, read.2)

def content? : List Char → Option (List Char × List Char)
  | '"' :: rest => some ([], rest)
  | '\\' :: 'u' :: a :: b :: c :: d :: rest => do
    return push (← numbered? a b c d) (← content? rest)
  | '\\' :: mark :: rest => do
    return push (← marked? mark) (← content? rest)
  | c :: rest =>
    if c = '\\' ∨ c.toNat < 0x20 then none else (content? rest).map (push c)
  | [] => none

def number? (chars : List Char) : Option (Nat × List Char) :=
  let (values, rest) := digits 10 chars
  if values = [] ∨ (values.head? = some 0 ∧ 1 < values.length) then none
  else some (numberOf 10 values, rest)

def quoted? (chars : List Char) : Option (String × List Char) := do
  let (content, rest) ← content? (← symbol '"' chars)
  return (String.ofList content, rest)

def value? (chars : List Char) : Option (Value × List Char) :=
  match quoted? chars with
  | some (content, rest) => some (.text content, rest)
  | none => (number? chars).map fun (number, rest) => (.number number, rest)

def member? (chars : List Char) : Option ((String × Value) × List Char) := do
  let (name, rest) ← quoted? chars
  let (value, rest) ← value? (← symbol ':' rest)
  return ((name, value), rest)

def members? : Nat → List Char → Option (List (String × Value) × List Char)
  | 0, _ => none
  | limit + 1, chars => do
    let (entry, rest) ← member? chars
    match symbol ',' rest with
    | some rest =>
      let (entries, rest) ← members? limit rest
      return (entry :: entries, rest)
    | none => return ([entry], rest)

def object? (source : String) : Option (List (String × Value)) := do
  let rest ← symbol '\x7b' source.toList
  match members? rest.length rest with
  | some (entries, rest) => if rest = ['\x7d'] then some entries else none
  | none => if rest = ['\x7d'] then some [] else none

theorem numbered?_control {c : Char} (low : c.toNat < 0x20) :
    numbered? '0' '0' (Nat.digitChar (c.toNat / 16)) (Nat.digitChar (c.toNat % 16)) = some c := by
  have zero : digitValue? 16 '0' = some 0 := by decide
  have high : digitValue? 16 (Nat.digitChar (c.toNat / 16)) = some (c.toNat / 16) :=
    Address.digitValue?_digitChar (by decide) (by omega)
  have rest : digitValue? 16 (Nat.digitChar (c.toNat % 16)) = some (c.toNat % 16) :=
    Address.digitValue?_digitChar (by decide) (Nat.mod_lt _ (by decide))
  have value : numberOf 16 [0, 0, c.toNat / 16, c.toNat % 16] = c.toNat := by
    simpa [numberOf] using Nat.div_add_mod' c.toNat 16
  have valid : c.toNat.isValidChar := c.valid
  simp only [numbered?, zero, high, rest, bind, Option.bind_some, value, if_pos valid,
    Char.ofNat_toNat]

-- What may be written for a character: a letter behind a backslash, its number, or itself.
theorem escape_cases (c : Char) :
    (∃ mark, escape c = ['\\', mark] ∧ mark ≠ 'u' ∧ marked? mark = some c) ∨
      (escape c = control c ∧ c.toNat < 0x20) ∨
      (escape c = [c] ∧ c ≠ '"' ∧ c ≠ '\\' ∧ ¬c.toNat < 0x20) := by
  unfold escape
  split_ifs with quote backslash back feed line carriage tab low
  iterate 7
    next => exact .inl ⟨_, rfl, by decide, by subst_vars; rfl⟩
  next => exact .inr (.inl ⟨rfl, low⟩)
  next => exact .inr (.inr ⟨rfl, quote, backslash, low⟩)

theorem content?_escape (c : Char) (rest : List Char) :
    content? (escape c ++ rest) = (content? rest).map (push c) := by
  obtain ⟨mark, written, other, marks⟩ | ⟨written, low⟩ | ⟨written, quote, backslash, high⟩ :=
    escape_cases c
  next =>
    rw [written, List.cons_append, List.singleton_append, content?]
    next =>
      rw [marks, Option.map_eq_bind]
      rfl
    next => simp [other]
  next =>
    simp only [written, control, List.cons_append, List.nil_append, content?,
      numbered?_control low, Option.map_eq_bind]
    rfl
  next =>
    rw [written, List.singleton_append, content?]
    next => rw [if_neg (not_or.mpr ⟨backslash, high⟩)]
    all_goals simp [quote, backslash]

theorem content?_flatMap (content rest : List Char) :
    content? (content.flatMap escape ++ '"' :: rest) = some (content, rest) := by
  induction content with
  | nil => rfl
  | cons c content ih =>
    rw [List.flatMap_cons, List.append_assoc, content?_escape, ih]
    rfl

theorem quoted?_quoted (content : String) (rest : List Char) :
    quoted? (quoted content.toList ++ rest) = some (content, rest) := by
  simp [quoted?, quoted, symbol, content?_flatMap]

theorem number?_toDigits (number : Nat) {rest : List Char} (stop : digits 10 rest = ([], rest)) :
    number? (Nat.toDigits 10 number ++ rest) = some (number, rest) := by
  obtain ⟨values, shows, reads⟩ := Address.digits_toDigits 10 (by decide) (by decide) number
  rw [number?, reads, stop, List.append_nil]
  exact (if_neg (not_or.mpr ⟨shows.ne_nil, shows.no_leading_zero⟩)).trans (by rw [shows.value])

theorem quoted?_toDigits (number : Nat) (rest : List Char) :
    quoted? (Nat.toDigits 10 number ++ rest) = none := by
  cases written : Nat.toDigits 10 number with
  | nil => exact absurd written Nat.toDigits_ne_nil
  | cons c more =>
    have member : c ∈ Nat.toDigits 10 number := by
      rw [written]
      exact List.mem_cons_self
    have digit := Address.digit_of_toDigits (by decide) (by decide) member
    have other : c ≠ '"' := by
      rintro rfl
      exact digit (by decide)
    simp [quoted?, symbol, other]

theorem value?_value (content : Value) {rest : List Char} (stop : digits 10 rest = ([], rest)) :
    value? (value content ++ rest) = some (content, rest) := by
  cases content with
  | text content => rw [value, value?, quoted?_quoted]
  | number number => rw [value, value?, quoted?_toDigits, number?_toDigits number stop]; rfl

theorem member?_member (entry : String × Value) {rest : List Char}
    (stop : digits 10 rest = ([], rest)) :
    member? (member entry ++ rest) = some (entry, rest) := by
  simp [member?, member, List.append_assoc, quoted?_quoted, symbol, value?_value entry.2 stop]

theorem members?_members {limit : Nat} {entries : List (String × Value)} (some_entry : entries ≠ [])
    (room : entries.length ≤ limit) :
    members? limit (members entries ++ ['\x7d']) = some (entries, ['\x7d']) := by
  induction limit generalizing entries with
  | zero => exact absurd (List.eq_nil_of_length_eq_zero (Nat.le_zero.mp room)) some_entry
  | succ limit ih =>
    match entries with
    | [entry] =>
      rw [members, members?, member?_member entry (Address.digits_stop 10 (by decide) [])]
      rfl
    | entry :: next :: others =>
      have more := ih (List.cons_ne_nil next others) (Nat.le_of_succ_le_succ room)
      have stop := Address.digits_stop 10 (c := ',') (by decide) (members (next :: others) ++ ['\x7d'])
      rw [members, List.append_assoc, List.cons_append, members?, member?_member entry stop]
      -- The comma makes the reader go on with one member less.
      next => simp [symbol, more]
      next => simp

theorem length_le_members (entries : List (String × Value)) :
    entries.length ≤ (members entries).length := by
  fun_induction members entries with
  | case1 => exact Nat.le_refl 0
  | case2 entry => simp [member, quoted]
  | case3 entry others _ ih =>
    rw [List.length_cons, List.length_append, List.length_cons]
    omega

theorem object?_object (entries : List (String × Value)) :
    object? (object entries) = some entries := by
  cases entries with
  | nil => rfl
  | cons entry others =>
    have room : (entry :: others).length ≤ (members (entry :: others) ++ ['\x7d']).length := by
      rw [List.length_append]
      exact Nat.le_add_right_of_le (length_le_members (entry :: others))
    rw [object?, object, String.toList_ofList, List.cons_append, symbol, if_pos rfl,
      Option.bind_eq_bind, Option.bind_some,
      members?_members (List.cons_ne_nil entry others) room]
    rfl

end FlowProbe.JsonText
