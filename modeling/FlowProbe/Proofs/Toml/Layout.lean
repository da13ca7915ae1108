import FlowProbe.Proofs.Toml.Keys
import FlowProbe.Toml.Layout

set_option autoImplicit false

namespace FlowProbe

section Outcomes

variable {ε α β : Type}

theorem bind_eq_ok {outcome : Except ε α} {next : α → Except ε β} {result : β} :
    outcome >>= next = .ok result ↔ ∃ value, outcome = .ok value ∧ next value = .ok result := by
  cases outcome <;> simp [bind, Except.bind]

theorem check_bind_eq_ok {check : Except ε Unit} {next : Unit → Except ε β} {result : β} :
    check >>= next = .ok result ↔ check = .ok () ∧ next () = .ok result := by
  cases check <;> simp [bind, Except.bind]

theorem map_eq_ok {outcome : Except ε α} {change : α → β} {result : β} :
    outcome.map change = .ok result ↔ ∃ value, outcome = .ok value ∧ change value = result := by
  cases outcome <;> simp [Except.map]

theorem mapError_eq_ok {δ : Type} {outcome : Except ε α} {change : ε → δ} {result : α} :
    outcome.mapError change = .ok result ↔ outcome = .ok result := by
  cases outcome <;> simp [Except.mapError]

end Outcomes

namespace Toml

variable {α β : Type}

def Reads (decode : Decoder β) (given : Option Value) (before after : β) : Prop :=
  match given with
  | some value => decode value = .ok after
  | none => after = before

namespace Layout

def given? (layout : Layout α) (name : String) : Value → Option Value
  | .table _ entries => entries.lookup name
  | .array _ items => (layout.names.zip items).lookup name
  | _ => none

/-- One part of what is read is decoded from one field, and no other field touches it. -/
structure Governs (fields : List (Field α)) (name : String) (decode : Decoder β) (part : α → β) :
    Prop where
  sets : ∀ field ∈ fields, field.name = name → ∀ {value : Value} {draft next : α},
    field.assign value draft = .ok next → decode value = .ok (part next)
  spares : ∀ field ∈ fields, field.name ≠ name → ∀ {value : Value} {draft next : α},
    field.assign value draft = .ok next → part next = part draft

namespace Governs

variable {fields : List (Field α)} {name : String} {decode : Decoder β} {part : α → β}

theorem nil : Governs [] name decode part :=
  ⟨List.forall_mem_nil _, List.forall_mem_nil _⟩

theorem own {presence : Presence} {set : β → α → α}
    (sets : ∀ content draft, part (set content draft) = content)
    (governs : Governs fields name decode part) :
    Governs (.of name presence decode set :: fields) name decode part where
  sets := by
    refine List.forall_mem_cons.mpr ⟨fun _ value draft next assigned => ?_, governs.sets⟩
    obtain ⟨content, decoded, rfl⟩ := map_eq_ok.mp assigned
    rw [decoded, sets]
  spares := List.forall_mem_cons.mpr ⟨fun other => absurd rfl other, governs.spares⟩

theorem other {γ : Type} {key : String} {presence : Presence} {read : Decoder γ} {set : γ → α → α}
    (different : key ≠ name) (spares : ∀ content draft, part (set content draft) = part draft)
    (governs : Governs fields name decode part) :
    Governs (.of key presence read set :: fields) name decode part where
  sets := List.forall_mem_cons.mpr ⟨fun named => absurd named different, governs.sets⟩
  spares := by
    refine List.forall_mem_cons.mpr ⟨fun _ value draft next assigned => ?_, governs.spares⟩
    obtain ⟨content, -, rfl⟩ := map_eq_ok.mp assigned
    exact spares content draft

end Governs

variable {layout : Layout α} {name : String} {decode : Decoder β} {part : α → β}

section Entries

variable (governs : Governs layout.fields name decode part)
include governs

theorem part_assign {draft next : α} {entry : String × Value}
    (assigned : layout.assign draft entry = .ok next) :
    Reads decode ([entry].lookup name) (part draft) (part next) := by
  obtain ⟨key, value⟩ := entry
  rw [assign] at assigned
  split at assigned
  next field found =>
    have member := List.mem_of_find?_eq_some found
    have named : field.name = key := by simpa using List.find?_some found
    by_cases own : name = key
    next => simpa [Reads, own] using governs.sets field member (named.trans own.symm) assigned
    next =>
      have other : field.name ≠ name := fun same => own (same.symm.trans named)
      simpa [Reads, List.lookup_cons, beq_eq_false_iff_ne.mpr own] using
        governs.spares field member other assigned
  next => cases assigned

theorem part_foldlM {entries : Entries} (distinct : (entries.map Prod.fst).Nodup) {draft filled : α}
    (assigned : entries.foldlM layout.assign draft = .ok filled) :
    Reads decode (entries.lookup name) (part draft) (part filled) := by
  induction entries generalizing draft with
  | nil => exact congrArg part (Except.ok.inj assigned).symm
  | cons entry rest ih =>
    obtain ⟨key, value⟩ := entry
    rw [List.foldlM_cons, bind_eq_ok] at assigned
    obtain ⟨next, first, later⟩ := assigned
    obtain ⟨once, distinct⟩ := List.nodup_cons.mp distinct
    have now := part_assign governs first
    have afterwards := ih distinct later
    by_cases own : name = key
    next =>
      subst own
      have absent : rest.lookup name = none := Entries.lookup_eq_none.mpr once
      have kept : part filled = part next := by simpa [Reads, absent] using afterwards
      simpa [Reads, kept] using now
    next =>
      have kept : part next = part draft := by
        simpa [Reads, List.lookup_cons, beq_eq_false_iff_ne.mpr own] using now
      rw [List.lookup_cons, beq_eq_false_iff_ne.mpr own, ← kept]
      exact afterwards

theorem part_ofEntries {entries : Entries} (distinct : (entries.map Prod.fst).Nodup) {read : α}
    (decoded : layout.ofEntries entries = .ok read) :
    Reads decode (entries.lookup name) (part layout.blank) (part read) := by
  rw [ofEntries, bind_eq_ok] at decoded
  obtain ⟨filled, assigned, complete⟩ := decoded
  split at complete
  next => cases complete
  next => exact Except.ok.inj complete ▸ part_foldlM governs distinct assigned

end Entries

section Items

variable (distinct : layout.names.Nodup)
include distinct

theorem assign_own {field : Field α} (member : field ∈ layout.fields) (draft : α) (value : Value) :
    layout.assign draft (field.name, value) = field.assign value draft := by
  rw [assign]
  split
  next other found =>
    have named : other.name = field.name := by simpa using List.find?_some found
    rw [List.inj_on_of_nodup_map distinct (List.mem_of_find?_eq_some found) member named]
  next absent =>
    have other := List.find?_eq_none.mp absent field member
    simp at other

theorem foldlM_items {fields : List (Field α)} (own : fields ⊆ layout.fields) (items : List Value)
    (draft : α) :
    (fields.zip items).foldlM (fun draft (field, value) => field.assign value draft) draft =
      ((fields.map Field.name).zip items).foldlM layout.assign draft := by
  induction fields generalizing items draft with
  | nil => rfl
  | cons field rest ih =>
    obtain ⟨member, own⟩ := List.cons_subset.mp own
    cases items with
    | nil => rfl
    | cons value items =>
      simp only [List.map_cons, List.zip_cons_cons, List.foldlM_cons, assign_own distinct member]
      exact bind_congr fun next => ih own items next

theorem nodup_zip (items : List Value) : ((layout.names.zip items).map Prod.fst).Nodup := by
  rw [List.zip_eq_zip_take_min, List.map_fst_zip (by simp)]
  exact distinct.sublist (List.take_sublist _ _)

theorem part_ofItems (governs : Governs layout.fields name decode part) {items : List Value}
    {read : α} (decoded : layout.ofItems items = .ok read) :
    Reads decode ((layout.names.zip items).lookup name) (part layout.blank) (part read) := by
  rw [ofItems, bind_eq_ok] at decoded
  obtain ⟨filled, assigned, complete⟩ := decoded
  rw [foldlM_items distinct (List.Subset.refl _)] at assigned
  split at complete
  next =>
    exact Except.ok.inj complete ▸ part_foldlM governs (nodup_zip distinct items) assigned
  next => cases complete

end Items

theorem part_decode (distinct : layout.names.Nodup) (undated : name ≠ dateKey)
    (governs : Governs layout.fields name decode part) {value : Value} (keyed : value.Keyed) {read : α}
    (decoded : layout.decode value = .ok read) :
    Reads decode (layout.given? name value) (part layout.blank) (part read) := by
  cases value with
  | table origin entries =>
    exact part_ofEntries governs (Entries.keyed_of_table keyed).distinct decoded
  | array grows items => exact part_ofItems distinct governs decoded
  | dateTime text =>
    have keys : ([(dateKey, Value.string text)].map Prod.fst).Nodup := List.nodup_singleton _
    have absent : [(dateKey, Value.string text)].lookup name = none :=
      Entries.lookup_eq_none.mpr (List.mem_singleton.not.mpr undated)
    have left := part_ofEntries governs keys decoded
    rw [absent] at left
    exact left
  | _ => cases decoded

end Layout

end Toml

end FlowProbe
