import FlowProbe.Text.Quoted

set_option autoImplicit false

namespace FlowProbe

structure Record where
  bytes : List UInt8
  deriving DecidableEq

namespace Record

def ofText (text : String) : Record :=
  ⟨text.toUTF8.toList⟩

def text? (record : Record) : Option String :=
  String.fromUTF8? ⟨record.bytes.toArray⟩

def size (record : Record) : Nat :=
  record.bytes.length

def describe (record : Record) : String :=
  let content := match record.text? with
    | some text => Quoted.text text
    | none => toString record.size
  "FlowRecord(" ++ content ++ ")"

end Record

/-- A record cut at its identifier; one without an identifier has only a text. -/
structure TranscriptEntry where
  id : Option String
  rest : String

namespace TranscriptEntry

def opening : String := "\x7b\"uuid\":\""

def ofRecord (record : String) : TranscriptEntry :=
  let chars := record.toList
  if opening.toList.isPrefixOf chars then
    let behind := chars.drop opening.length
    ⟨some (String.ofList (behind.take 36)), String.ofList (behind.drop 36)⟩
  else
    ⟨none, record⟩

end TranscriptEntry

abbrev Shown := List String

namespace Shown

def position (shown : Shown) (entry : TranscriptEntry) : Nat :=
  match entry.id with
  | some id => shown.idxOf id
  | none => 0

def precedes (shown : Shown) (a b : TranscriptEntry) : Bool :=
  a.rest < b.rest || (a.rest == b.rest && shown.position a ≤ shown.position b)

def note (shown : Shown) (entry : TranscriptEntry) : Shown :=
  match entry.id with
  | some id => if shown.contains id then shown else shown ++ [id]
  | none => shown

def render (shown : Shown) (entry : TranscriptEntry) : String :=
  match entry.id with
  | some _ =>
    TranscriptEntry.opening ++ "flow-" ++ toString (shown.position entry + 1) ++ entry.rest
  | none => entry.rest

def showAll : Shown → List TranscriptEntry → List String × Shown
  | shown, [] => ([], shown)
  | shown, entry :: rest =>
    let shown := shown.note entry
    let (texts, final) := showAll shown rest
    (shown.render entry :: texts, final)

def batch (shown : Shown) (records : List String) : List String × Shown :=
  showAll shown ((records.map TranscriptEntry.ofRecord).mergeSort shown.precedes)

end Shown

end FlowProbe
