import FlowProbe.Toml.Document
import Mathlib.Data.List.Nodup
import Mathlib.Tactic.SplitIfs

set_option autoImplicit false

namespace FlowProbe.Toml

inductive Value.Keyed : Value → Prop
  | string (content : String) : Keyed (.string content)
  | integer (value : Int) : Keyed (.integer value)
  | float (value : FloatValue) : Keyed (.float value)
  | boolean (value : Bool) : Keyed (.boolean value)
  | dateTime (text : String) : Keyed (.dateTime text)
  | array (grows : Bool) {items : List Value} (values : ∀ item ∈ items, Keyed item) :
    Keyed (.array grows items)
  | table (origin : Origin) {entries : Entries} (distinct : (entries.map Prod.fst).Nodup)
    (values : ∀ entry ∈ entries, Keyed entry.2) : Keyed (.table origin entries)

namespace Entries

structure Keyed (entries : Entries) : Prop where
  distinct : (entries.map Prod.fst).Nodup
  values : ∀ entry ∈ entries, entry.2.Keyed

variable {entries : Entries} {key : String} {value : Value}

theorem keyed_nil : Keyed [] :=
  ⟨List.nodup_nil, List.forall_mem_nil _⟩

theorem Keyed.table (keyed : Keyed entries) (origin : Origin) : (Value.table origin entries).Keyed :=
  .table origin keyed.distinct keyed.values

theorem keyed_of_table {origin : Origin} (keyed : (Value.table origin entries).Keyed) :
    Keyed entries := by
  cases keyed with
  | table _ distinct values => exact ⟨distinct, values⟩

theorem keyed_of_array {grows : Bool} {items : List Value} (keyed : (Value.array grows items).Keyed) :
    ∀ item ∈ items, item.Keyed := by
  cases keyed with
  | array _ values => exact values

theorem lookup_eq_none : entries.lookup key = none ↔ key ∉ entries.map Prod.fst := by
  rw [List.lookup_eq_none_iff, List.mem_map]
  simp only [not_exists, not_and, bne_iff_ne, ne_comm, ne_eq]

theorem keyed_concat (keyed : Keyed entries) (absent : entries.lookup key = none)
    (new : value.Keyed) : Keyed (entries ++ [(key, value)]) where
  distinct := by
    rw [List.map_append, List.map_singleton, ← List.concat_eq_append]
    exact keyed.distinct.concat (lookup_eq_none.mp absent)
  values := List.forall_mem_append.mpr ⟨keyed.values, List.forall_mem_singleton.mpr new⟩

theorem keys_replace (key : String) (value : Value) (entries : Entries) :
    (replace key value entries).map Prod.fst = entries.map Prod.fst := by
  induction entries with
  | nil => rfl
  | cons entry rest ih =>
    rw [replace]
    split
    next => rfl
    next => rw [List.map_cons, List.map_cons, ih]

theorem keyed_replace (keyed : Keyed entries) (new : value.Keyed) :
    Keyed (replace key value entries) where
  distinct := keys_replace key value entries ▸ keyed.distinct
  values := by
    have values := keyed.values
    clear keyed
    induction entries with
    | nil => exact List.forall_mem_nil _
    | cons entry rest ih =>
      obtain ⟨first, later⟩ := List.forall_mem_cons.mp values
      rw [replace]
      split
      next => exact List.forall_mem_cons.mpr ⟨new, later⟩
      next => exact List.forall_mem_cons.mpr ⟨first, ih later⟩

theorem keyed_erase (keyed : Keyed entries) (key : String) : Keyed (erase key entries) where
  distinct := keyed.distinct.sublist (List.filter_sublist.map Prod.fst)
  values := fun entry member => keyed.values entry (List.mem_filter.mp member).1

theorem lookup_erase (key : String) (entries : Entries) : (erase key entries).lookup key = none := by
  refine lookup_eq_none.mpr fun member => ?_
  obtain ⟨entry, left, same⟩ := List.mem_map.mp member
  exact of_decide_eq_true (List.mem_filter.mp left).2 same

theorem keyed_lookup (keyed : Keyed entries) (found : entries.lookup key = some value) :
    value.Keyed := by
  obtain ⟨before, after, rfl, -⟩ := List.lookup_eq_some_iff.mp found
  exact keyed.values (key, value) (by simp)

theorem keyed_lastTable {items before : List Value} {origin : Origin} {sub : Entries}
    (keyed : (Value.array true items).Keyed) (last : lastTable? items = some (before, origin, sub)) :
    Keyed sub ∧ ∀ sub', Keyed sub' →
      (Value.array true (before ++ [.table origin sub'])).Keyed := by
  have values := keyed_of_array keyed
  rw [lastTable?] at last
  split at last
  next origin entries there =>
    cases last
    refine ⟨keyed_of_table (values _ (List.mem_of_getLast? there)), fun sub' keyed' => ?_⟩
    refine .array true (List.forall_mem_append.mpr ⟨fun item member => ?_, ?_⟩)
    next => exact values item (List.dropLast_subset _ member)
    next => exact List.forall_mem_singleton.mpr (keyed'.table _)
  next => cases last

-- One step of a path: the table below is changed, and put in its place.
section Steps

variable {change : Entries → Option Entries}
  (keeps : ∀ {sub sub' : Entries}, Keyed sub → change sub = some sub' → Keyed sub')
  (keyed : Keyed entries) {entries' : Entries}
include keeps keyed

theorem keyed_begun (origin : Origin) (absent : entries.lookup key = none)
    (changed : ((change []).map fun sub => entries ++ [(key, .table origin sub)]) = some entries') :
    Keyed entries' := by
  obtain ⟨sub, made, rfl⟩ := Option.map_eq_some_iff.mp changed
  exact keyed_concat keyed absent ((keeps keyed_nil made).table origin)

theorem keyed_entered {origin : Origin} {sub : Entries}
    (found : entries.lookup key = some (.table origin sub))
    (changed : ((change sub).map fun sub => replace key (.table origin sub) entries) =
      some entries') : Keyed entries' := by
  obtain ⟨sub', made, rfl⟩ := Option.map_eq_some_iff.mp changed
  exact keyed_replace keyed ((keeps (keyed_of_table (keyed_lookup keyed found)) made).table origin)

theorem keyed_last {items : List Value} (found : entries.lookup key = some (.array true items))
    (changed : (match lastTable? items with
      | none => none
      | some (before, origin, sub) => (change sub).map fun sub =>
        replace key (.array true (before ++ [.table origin sub])) entries) = some entries') :
    Keyed entries' := by
  split at changed
  next => cases changed
  next before origin sub last =>
    obtain ⟨sub', made, rfl⟩ := Option.map_eq_some_iff.mp changed
    obtain ⟨within, around⟩ := keyed_lastTable (keyed_lookup keyed found) last
    exact keyed_replace keyed (around sub' (keeps within made))

end Steps

theorem keyed_insert (new : value.Keyed) {path : List String} {entries' : Entries}
    (keyed : Keyed entries) (inserted : insert value path entries = some entries') :
    Keyed entries' := by
  induction path generalizing entries entries' with
  | nil => cases inserted
  | cons key path ih =>
    cases path with
    | nil =>
      rw [insert, Option.ite_none_left_eq_some, Bool.not_eq_true, Option.isSome_eq_false_iff,
        Option.isNone_iff_eq_none] at inserted
      exact Option.some.inj inserted.2 ▸ keyed_concat keyed inserted.1 new
    | cons next path =>
      rw [insert] at inserted
      split at inserted
      next absent => exact keyed_begun ih keyed .dotted absent inserted
      next found =>
        rw [Option.ite_none_right_eq_some] at inserted
        exact keyed_entered ih keyed found inserted.2
      next found =>
        rw [Option.ite_none_left_eq_some] at inserted
        exact keyed_last ih keyed found inserted.2
      next => cases inserted
      next => exact List.cons_ne_nil next path

theorem keyed_within {change : Entries → Option Entries}
    (keeps : ∀ {sub sub' : Entries}, Keyed sub → change sub = some sub' → Keyed sub')
    {path : List String} {entries' : Entries} (keyed : Keyed entries)
    (changed : within change path entries = some entries') : Keyed entries' := by
  induction path generalizing entries entries' with
  | nil => exact keeps keyed changed
  | cons key path ih =>
    rw [within] at changed
    split at changed
    next absent => exact keyed_begun ih keyed .implied absent changed
    next => cases changed
    next found => exact keyed_entered ih keyed found changed
    next found => exact keyed_last ih keyed found changed
    next => cases changed

theorem keyed_openTable {entries' : Entries} (keyed : Keyed entries)
    (opened : openTable key entries = some entries') : Keyed entries' := by
  rw [openTable] at opened
  split at opened
  next absent =>
    exact Option.some.inj opened ▸ keyed_concat keyed absent (keyed_nil.table .header)
  next sub found =>
    have moved := keyed_of_table (keyed_lookup keyed found)
    exact Option.some.inj opened ▸
      keyed_concat (keyed_erase keyed key) (lookup_erase key entries) (moved.table .header)
  next => cases opened

theorem keyed_openItem {entries' : Entries} (keyed : Keyed entries)
    (opened : openItem key entries = some entries') : Keyed entries' := by
  have fresh : (Value.table .header []).Keyed := keyed_nil.table .header
  rw [openItem] at opened
  split at opened
  next absent =>
    exact Option.some.inj opened ▸
      keyed_concat keyed absent (.array true (List.forall_mem_singleton.mpr fresh))
  next items found =>
    have values := keyed_of_array (keyed_lookup keyed found)
    have grown := List.forall_mem_append.mpr ⟨values, List.forall_mem_singleton.mpr fresh⟩
    exact Option.some.inj opened ▸ keyed_replace keyed (.array true grown)
  next => cases opened

theorem keyed_atPath {header : String → Entries → Option Entries}
    (keeps : ∀ {key : String} {sub sub' : Entries},
      Keyed sub → header key sub = some sub' → Keyed sub')
    {path : List String} {entries' : Entries} (keyed : Keyed entries)
    (opened : atPath header path entries = some entries') : Keyed entries' := by
  rw [atPath] at opened
  split at opened
  next => cases opened
  next => exact keyed_within keeps keyed opened

end Entries

section Numerals

variable {value : Value} {source rest : List Char}

namespace Numeral

theorem keyed_integer? {number : Int} (read : integer? number = some value) : value.Keyed := by
  obtain ⟨-, made⟩ := Option.ite_none_right_eq_some.mp read
  exact Option.some.inj made ▸ .integer number

theorem keyed_float? {negative : Bool} {digits : Nat} {exponent : Int}
    (read : float? negative digits exponent = some value) : value.Keyed := by
  rw [float?] at read
  split at read
  next => exact Option.some.inj read ▸ .float _
  next =>
    obtain ⟨-, made⟩ := Option.ite_none_right_eq_some.mp read
    exact Option.some.inj made ▸ .float _

theorem keyed_decimal? {negative : Bool} (read : decimal? negative source = some (value, rest)) :
    value.Keyed := by
  simp only [decimal?, Option.bind_eq_bind, Option.bind_eq_some_iff] at read
  obtain ⟨⟨whole, behind⟩, -, read⟩ := read
  split at read
  case h_4 =>
    obtain ⟨number, read, same⟩ := Option.bind_eq_some_iff.mp read
    exact (Prod.mk.inj (Option.some.inj same)).1 ▸ keyed_integer? read
  all_goals
    simp only [Option.bind_eq_some_iff] at read
    obtain ⟨_, -, _, -, number, read, same⟩ := read
    exact (Prod.mk.inj (Option.some.inj same)).1 ▸ keyed_float? read

theorem keyed_inRadix? {radix : Nat} (read : inRadix? radix source = some (value, rest)) :
    value.Keyed := by
  simp only [inRadix?, Option.bind_eq_bind, Option.bind_eq_some_iff] at read
  obtain ⟨_, -, number, read, same⟩ := read
  exact (Prod.mk.inj (Option.some.inj same)).1 ▸ keyed_integer? read

theorem keyed_signed? {negative : Bool} (read : signed? negative source = some (value, rest)) :
    value.Keyed := by
  unfold signed? at read
  split at read
  next => exact (Prod.mk.inj (Option.some.inj read)).1 ▸ .float _
  next => exact (Prod.mk.inj (Option.some.inj read)).1 ▸ .float _
  next => exact keyed_decimal? read

theorem keyed_number? (read : number? source = some (value, rest)) : value.Keyed := by
  unfold number? at read
  split at read
  next => exact keyed_inRadix? read
  next => exact keyed_inRadix? read
  next => exact keyed_inRadix? read
  next => exact keyed_signed? read
  next => exact keyed_signed? read
  next => exact keyed_signed? read

end Numeral

theorem keyed_numeral? (read : numeral? source = some (value, rest)) : value.Keyed := by
  rw [numeral?] at read
  split at read
  next => exact (Prod.mk.inj (Option.some.inj read)).1 ▸ .dateTime _
  next => cases read
  next => exact Numeral.keyed_number? read

end Numerals

section Readers

open Entries (Keyed)

theorem keyed_word? {word : String} {value read : Value} {source rest : List Char}
    (keyed : value.Keyed) (found : word? word value source = some (read, rest)) : read.Keyed := by
  obtain ⟨-, same⟩ := Option.ite_none_right_eq_some.mp found
  exact (Prod.mk.inj (Option.some.inj same)).1 ▸ keyed

section Parts

variable {value : Reader Value}
  (keyed : ∀ {source rest : List Char} {read : Value}, value source = some (read, rest) → read.Keyed)
include keyed

theorem keyed_items {limit : Nat} {source rest : List Char} {read : List Value}
    (found : items value limit source = some (read, rest)) : ∀ item ∈ read, item.Keyed := by
  induction limit generalizing source rest read with
  | zero => cases found
  | succ limit ih =>
    simp only [items, Option.bind_eq_bind, Option.bind_eq_some_iff] at found
    obtain ⟨source, -, found⟩ := found
    split at found
    next =>
      obtain ⟨rfl, -⟩ := Prod.mk.inj (Option.some.inj found)
      exact List.forall_mem_nil _
    next =>
      obtain ⟨⟨item, behind⟩, first, found⟩ := Option.bind_eq_some_iff.mp found
      obtain ⟨source, -, found⟩ := Option.bind_eq_some_iff.mp found
      split at found
      next =>
        obtain ⟨⟨more, last⟩, later, same⟩ := Option.bind_eq_some_iff.mp found
        obtain ⟨rfl, -⟩ := Prod.mk.inj (Option.some.inj same)
        exact List.forall_mem_cons.mpr ⟨keyed first, ih later⟩
      next =>
        obtain ⟨rfl, -⟩ := Prod.mk.inj (Option.some.inj found)
        exact List.forall_mem_singleton.mpr (keyed first)
      next => cases found

theorem keyed_pair? {source rest : List Char} {key : List String} {read : Value}
    (found : pair? value source = some ((key, read), rest)) : read.Keyed := by
  simp only [pair?, Option.bind_eq_bind, Option.bind_eq_some_iff] at found
  obtain ⟨⟨path, behind⟩, -, found⟩ := found
  split at found
  next =>
    obtain ⟨⟨given, last⟩, first, same⟩ := Option.bind_eq_some_iff.mp found
    obtain ⟨same, -⟩ := Prod.mk.inj (Option.some.inj same)
    exact (Prod.mk.inj same).2 ▸ keyed first
  next => cases found

theorem keyed_pairs {limit : Nat} {source rest : List Char} {entries read : Entries}
    (before : Keyed entries) (found : pairs value limit entries source = some (read, rest)) :
    Keyed read := by
  induction limit generalizing source entries with
  | zero => cases found
  | succ limit ih =>
    simp only [pairs, Option.bind_eq_bind, Option.bind_eq_some_iff] at found
    obtain ⟨⟨⟨key, given⟩, behind⟩, first, more, inserted, found⟩ := found
    have grown := Entries.keyed_insert (keyed_pair? keyed first) before inserted
    split at found
    next => exact ih grown found
    next => exact (Prod.mk.inj (Option.some.inj found)).1 ▸ grown
    next => cases found

theorem keyed_braces {source rest : List Char} {read : Entries}
    (found : braces value source = some (read, rest)) : Keyed read := by
  rw [braces] at found
  split at found
  next => exact (Prod.mk.inj (Option.some.inj found)).1 ▸ Entries.keyed_nil
  next => exact keyed_pairs keyed Entries.keyed_nil found

end Parts

theorem keyed_value? {depth : Nat} {source rest : List Char} {read : Value}
    (found : value? depth source = some (read, rest)) : read.Keyed := by
  induction depth using Nat.strongRecOn generalizing source rest read with
  | ind depth below =>
    unfold value? at found
    split at found
    next => cases found
    next c behind =>
      split_ifs at found with quoted listed braced truth falsehood number
      next =>
        obtain ⟨_, -, same⟩ := Option.map_eq_some_iff.mp found
        exact (Prod.mk.inj same).1 ▸ .string _
      next =>
        split at found
        next => cases found
        next depth =>
          obtain ⟨_, first, same⟩ := Option.map_eq_some_iff.mp found
          have values := keyed_items (below depth (Nat.lt_succ_self depth)) first
          exact (Prod.mk.inj same).1 ▸ .array false values
      next =>
        split at found
        next => cases found
        next depth =>
          obtain ⟨_, first, same⟩ := Option.map_eq_some_iff.mp found
          have entries := keyed_braces (below depth (Nat.lt_succ_self depth)) first
          exact (Prod.mk.inj same).1 ▸ entries.table .braces
      next => exact keyed_word? (.boolean true) found
      next => exact keyed_word? (.boolean false) found
      next => exact keyed_numeral? found

end Readers

section Document

open Entries (Keyed)

namespace Draft

variable {draft next : Draft} {source rest : List Char} (keyed : Keyed draft.entries)
include keyed

theorem keyed_header? {header : String → Entries → Option Entries} {closing : List Char}
    (keeps : ∀ {key : String} {sub sub' : Entries},
      Keyed sub → header key sub = some sub' → Keyed sub')
    (found : header? header closing draft source = some (next, rest)) : Keyed next.entries := by
  simp only [header?, Option.bind_eq_bind, Option.bind_eq_some_iff] at found
  obtain ⟨⟨path, behind⟩, -, entries, opened, found⟩ := found
  obtain ⟨-, found⟩ := Option.ite_none_right_eq_some.mp found
  obtain ⟨last, -, same⟩ := Option.bind_eq_some_iff.mp found
  exact (Prod.mk.inj (Option.some.inj same)).1 ▸ Entries.keyed_atPath keeps keyed opened

theorem keyed_statement (found : draft.entry? source = some (next, rest)) : Keyed next.entries := by
  simp only [ entry?, Option.bind_eq_bind, Option.bind_eq_some_iff] at found
  obtain ⟨⟨⟨key, given⟩, behind⟩, first, last, -, entries, changed, same⟩ := found
  have given := keyed_pair? keyed_value? first
  have keyed := Entries.keyed_within (Entries.keyed_insert given) keyed changed
  exact (Prod.mk.inj (Option.some.inj same)).1 ▸ keyed

theorem keyed_lines {limit : Nat} {entries : Entries}
    (found : lines limit draft source = some entries) : Keyed entries := by
  induction limit generalizing draft source with
  | zero => cases found
  | succ limit ih =>
    rw [lines] at found
    split at found
    next => exact Option.some.inj found ▸ keyed
    next =>
      obtain ⟨rest, -, found⟩ := Option.bind_eq_some_iff.mp found
      exact ih keyed found
    next =>
      obtain ⟨⟨next, rest⟩, opened, found⟩ := Option.bind_eq_some_iff.mp found
      exact ih (keyed_header? keyed Entries.keyed_openItem opened) found
    next =>
      obtain ⟨⟨next, rest⟩, opened, found⟩ := Option.bind_eq_some_iff.mp found
      exact ih (keyed_header? keyed Entries.keyed_openTable opened) found
    next => exact ih keyed found
    next =>
      obtain ⟨rest, -, found⟩ := Option.bind_eq_some_iff.mp found
      exact ih keyed found
    next =>
      obtain ⟨⟨next, rest⟩, read, found⟩ := Option.bind_eq_some_iff.mp found
      exact ih (keyed_statement keyed read) found

end Draft

theorem keyed_of_read {text : String} {entries : Entries} (read : read? text = some entries) :
    Keyed entries :=
  Draft.keyed_lines Entries.keyed_nil read

end Document

end FlowProbe.Toml
