set_option autoImplicit false

namespace FlowProbe.Toml

def isPlain (c : Char) : Bool :=
  c = '\t' || (0x20 ≤ c.toNat && c.toNat ≠ 0x7f)

def isBlankChar (c : Char) : Bool :=
  c = ' ' || c = '\t'

def newline? : List Char → Option (List Char)
  | '\n' :: rest => some rest
  | '\r' :: '\n' :: rest => some rest
  | _ => none

def hexValue? (c : Char) : Option Nat :=
  if c.isDigit then some (c.toNat - 48)
  else if 'a' ≤ c ∧ c ≤ 'f' then some (c.toNat - 87)
  else if 'A' ≤ c ∧ c ≤ 'F' then some (c.toNat - 55)
  else none

def byNumber? (digits : List Char) : Option Char :=
  (digits.mapM hexValue?).bind fun values =>
    let number := values.foldl (fun n d => n * 16 + d) 0
    if number.isValidChar then some (Char.ofNat number) else none

def escape? : List Char → Option (Char × Nat)
  | [] => none
  | c :: rest =>
    if c = 'b' then some ('\x08', 1)
    else if c = 'f' then some ('\x0c', 1)
    else if c = 'n' then some ('\n', 1)
    else if c = 'r' then some ('\r', 1)
    else if c = 't' then some ('\t', 1)
    else if c = '"' ∨ c = '\\' then some (c, 1)
    else if c = 'u' ∧ 4 ≤ rest.length then (byNumber? (rest.take 4)).map fun x => (x, 5)
    else if c = 'U' ∧ 8 ≤ rest.length then (byNumber? (rest.take 8)).map fun x => (x, 9)
    else none

namespace Quotation

def basic : List Char → Option (List Char × List Char)
  | [] => none
  | c :: rest =>
    if c = '"' then some ([], rest)
    else if c = '\\' then
      match escape? rest with
      | none => none
      | some (x, length) => (basic (rest.drop length)).map fun (body, rest) => (x :: body, rest)
    else if isPlain c then (basic rest).map fun (body, rest) => (c :: body, rest)
    else none
  termination_by source => source.length
  decreasing_by all_goals simp; try omega

def literal : List Char → Option (List Char × List Char)
  | [] => none
  | c :: rest =>
    if c = '\'' then some ([], rest)
    else if isPlain c then (literal rest).map fun (body, rest) => (c :: body, rest)
    else none

def skipSpace : List Char → List Char
  | [] => []
  | c :: rest =>
    if isBlankChar c ∨ c = '\n' then skipSpace rest
    else if c = '\r' ∧ rest.head? = some '\n' then skipSpace rest
    else c :: rest

def endsLine (behind : List Char) : Bool :=
  (newline? (behind.dropWhile isBlankChar)).isSome

theorem length_skipSpace_le (source : List Char) :
    (skipSpace source).length ≤ source.length := by
  induction source with
  | nil => simp [skipSpace]
  | cons c rest ih =>
    simp only [skipSpace]
    split
    · simp; omega
    · split
      · simp; omega
      · simp

/-- What a run of quotes comes to, `more` being the quotes behind the first: part of the text, or
its end. Three close the text, and up to two before them belong to it. -/
def ending? (quote : Char) (more : Nat) (behind : List Char) : Option (List Char × List Char) :=
  if more < 2 then none
  else
    let extra := min (more - 2) 2
    some (List.replicate extra quote, behind.drop (extra + 2))

def basicLines : List Char → Option (List Char × List Char)
  | [] => none
  | c :: rest =>
    if c = '"' then
      let more := (rest.takeWhile (· = c)).length
      match ending? c more rest with
      | some ending => some ending
      | none =>
        (basicLines (rest.drop more)).map fun (body, rest) =>
          (List.replicate (more + 1) c ++ body, rest)
    else if c = '\\' then
      if endsLine rest then basicLines (skipSpace rest)
      else
        match escape? rest with
        | none => none
        | some (x, length) =>
          (basicLines (rest.drop length)).map fun (body, rest) => (x :: body, rest)
    else if c = '\n' ∨ isPlain c then
      (basicLines rest).map fun (body, rest) => (c :: body, rest)
    else if c = '\r' ∧ rest.head? = some '\n' then basicLines rest
    else none
  termination_by source => source.length
  decreasing_by
    all_goals simp_wf
    all_goals have := length_skipSpace_le rest
    all_goals omega

def literalLines : List Char → Option (List Char × List Char)
  | [] => none
  | c :: rest =>
    if c = '\'' then
      let more := (rest.takeWhile (· = c)).length
      match ending? c more rest with
      | some ending => some ending
      | none =>
        (literalLines (rest.drop more)).map fun (body, rest) =>
          (List.replicate (more + 1) c ++ body, rest)
    else if c = '\n' ∨ isPlain c then
      (literalLines rest).map fun (body, rest) => (c :: body, rest)
    else if c = '\r' ∧ rest.head? = some '\n' then literalLines rest
    else none
  termination_by source => source.length
  decreasing_by all_goals simp_wf; try omega

-- A line end right behind opening triple quotes is no part of the text.
def afterOpening (source : List Char) : List Char :=
  (newline? source).getD source

def line? : List Char → Option (List Char × List Char)
  | '"' :: rest => basic rest
  | '\'' :: rest => literal rest
  | _ => none

def read? : List Char → Option (List Char × List Char)
  | '"' :: '"' :: '"' :: rest => basicLines (afterOpening rest)
  | '\'' :: '\'' :: '\'' :: rest => literalLines (afterOpening rest)
  | source => line? source

end Quotation

end FlowProbe.Toml
