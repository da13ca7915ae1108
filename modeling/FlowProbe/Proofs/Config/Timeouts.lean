import FlowProbe.Config.Load
import FlowProbe.Proofs.Toml.Layout

set_option autoImplicit false

namespace FlowProbe

open Toml (Entries Layout Value)

theorem Toml.Decoder.natural_eq_ok {bound number : Nat} {wanted : String} {value : Value} :
    natural bound wanted value = .ok number ↔ value = .integer number ∧ number < bound := by
  cases value with
  | integer value =>
    simp only [natural, Value.integer.injEq]
    split
    next within => simp only [Except.ok.injEq]; omega
    next beyond => simp only [reduceCtorEq, false_iff]; omega
  | _ => simp [natural]

theorem Config.long_eq_ok {name : String} {value : Value} {word : UInt64} :
    long name value = .ok word ↔ value = .integer word.toNat := by
  rw [long, map_eq_ok]
  constructor
  next =>
    rintro ⟨number, read, rfl⟩
    obtain ⟨rfl, bound⟩ := Toml.Decoder.natural_eq_ok.mp read
    rw [UInt64.toNat_ofNat_of_lt' bound]
  next =>
    rintro rfl
    exact ⟨word.toNat, Toml.Decoder.natural_eq_ok.mpr ⟨rfl, word.toNat_lt⟩, UInt64.ofNat_toNat⟩

namespace FlowSection

theorem governs_idle :
    Layout.Governs layout.fields "idle_timeout_secs" (Config.long "u64") idle :=
  .own (fun _ _ => rfl) (.other (by decide) (fun _ _ => rfl) .nil)

theorem governs_active :
    Layout.Governs layout.fields "active_timeout_secs" (Config.long "u64") active :=
  .other (by decide) (fun _ _ => rfl) (.own (fun _ _ => rfl) .nil)

def seconds? (document : Entries) (name : String) (default : Int) : Option Int :=
  match (document.lookup "flows").bind (layout.given? name) with
  | none => some default
  | some (.integer seconds) => some seconds
  | some _ => none

end FlowSection

theorem Config.governs_flows :
    Layout.Governs layout.fields "flows" FlowSection.layout.decode flows :=
  .other (by decide) (fun _ _ => rfl) <| .other (by decide) (fun _ _ => rfl) <|
    .other (by decide) (fun _ _ => rfl) <| .own (fun _ _ => rfl) <|
    .other (by decide) (fun _ _ => rfl) .nil

namespace FlowSection

variable {document : Entries} {config : Config} (keyed : Entries.Keyed document)
  (decoded : Config.layout.ofEntries document = .ok config)
include keyed decoded

theorem seconds?_part {name : String} {part : FlowSection → UInt64} (undated : name ≠ Layout.dateKey)
    (governs : Layout.Governs layout.fields name (Config.long "u64") part) :
    seconds? document name (part {}).toNat = some ((part config.flows).toNat : Int) := by
  have whole := Layout.part_ofEntries Config.governs_flows keyed.distinct decoded
  rw [seconds?]
  cases stated : document.lookup "flows" with
  | none =>
    rw [stated] at whole
    have blank : config.flows = {} := whole
    rw [blank]
    rfl
  | some value =>
    rw [stated] at whole
    have single :=
      Layout.part_decode (by decide) undated governs (Entries.keyed_lookup keyed stated) whole
    rw [Option.bind_some]
    cases given : layout.given? name value with
    | none =>
      rw [given] at single
      have blank : part config.flows = part {} := single
      rw [blank]
    | some value =>
      rw [given] at single
      rw [Config.long_eq_ok.mp single]

end FlowSection

end FlowProbe
