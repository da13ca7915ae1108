import FlowProbe.Meter

set_option autoImplicit false

namespace FlowProbe

namespace FlowTable

def keys (table : FlowTable) : List FlowKey :=
  table.map Prod.fst

theorem find?_eq_none_iff (table : FlowTable) (key : FlowKey) :
    table.find? key = none ↔ key ∉ table.keys := by
  induction table with
  | nil => simp [find?, keys]
  | cons entry rest ih =>
    obtain ⟨k, flow⟩ := entry
    by_cases same : k = key
    · simp [find?, keys, same]
    · have other : ¬ key = k := fun equal => same equal.symm
      simpa [find?, keys, same, other] using ih

theorem find?_eq_some_iff (table : FlowTable) (distinct : table.keys.Nodup) (key : FlowKey)
    (flow : Flow) : table.find? key = some flow ↔ (key, flow) ∈ table := by
  induction table with
  | nil => simp [find?]
  | cons entry rest ih =>
    obtain ⟨k, old⟩ := entry
    obtain ⟨fresh, distinct⟩ := List.nodup_cons.mp distinct
    by_cases same : k = key
    · subst same
      have absent : (k, flow) ∉ rest := by
        intro member
        exact fresh (List.mem_map.mpr ⟨_, member, rfl⟩)
      simp [find?, absent, eq_comm]
    · have other : ¬ key = k := fun equal => same equal.symm
      simp [find?, same, other, ih distinct]

theorem keys_insert (table : FlowTable) (key : FlowKey) (flow : Flow) :
    (table.insert key flow).keys = if key ∈ table.keys then table.keys else table.keys ++ [key] := by
  induction table with
  | nil => simp [insert, keys]
  | cons entry rest ih =>
    obtain ⟨k, old⟩ := entry
    by_cases same : k = key
    · simp [insert, keys, same]
    · have other : ¬ key = k := fun equal => same equal.symm
      simp only [keys] at ih
      by_cases member : key ∈ rest.map Prod.fst <;>
        simp only [member, if_true, if_false] at ih <;>
        simp [insert, keys, same, other, ih, member]

theorem nodup_insert (table : FlowTable) (distinct : table.keys.Nodup) (key : FlowKey)
    (flow : Flow) : (table.insert key flow).keys.Nodup := by
  rw [keys_insert]
  split
  · exact distinct
  · next absent =>
    rw [List.nodup_append]
    refine ⟨distinct, by simp, ?_⟩
    intro k member last lastMember equal
    exact absent (by simpa [List.mem_singleton.mp lastMember, equal] using member)

theorem nodup_filter (table : FlowTable) (distinct : table.keys.Nodup)
    (keep : FlowKey × Flow → Bool) : keys (table.filter keep) |>.Nodup :=
  distinct.sublist (List.filter_sublist.map Prod.fst)

theorem find?_filter (table : FlowTable) (distinct : table.keys.Nodup)
    (keep : FlowKey × Flow → Bool) (key : FlowKey) :
    find? (table.filter keep) key = (table.find? key).filter fun flow => keep (key, flow) := by
  apply Option.ext
  intro flow
  rw [find?_eq_some_iff _ (nodup_filter table distinct keep)]
  simp [find?_eq_some_iff table distinct]

theorem filter_key (table : FlowTable) (distinct : table.keys.Nodup) (key : FlowKey) :
    table.filter (fun entry => entry.1 = key) =
      (table.find? key).toList.map fun flow => (key, flow) := by
  induction table with
  | nil => rfl
  | cons entry rest ih =>
    obtain ⟨k, flow⟩ := entry
    obtain ⟨fresh, distinct⟩ := List.nodup_cons.mp distinct
    by_cases same : k = key
    next =>
      subst same
      have absent : find? rest k = none := (find?_eq_none_iff rest k).mpr fresh
      have others := ih distinct
      rw [absent] at others
      simpa [find?] using others
    next => simpa [find?, same] using ih distinct

theorem erase_eq_filter (table : FlowTable) (distinct : table.keys.Nodup) (key : FlowKey) :
    table.erase key = table.filter fun entry => entry.1 ≠ key := by
  induction table with
  | nil => rfl
  | cons entry rest ih =>
    obtain ⟨k, flow⟩ := entry
    obtain ⟨fresh, distinct⟩ := List.nodup_cons.mp distinct
    by_cases same : k = key
    · subst same
      have others : rest.filter (fun entry => entry.1 ≠ k) = rest := by
        apply List.filter_eq_self.mpr
        intro entry member
        have different : entry.1 ≠ k := fun equal => fresh (List.mem_map.mpr ⟨entry, member, equal⟩)
        simpa using different
      simpa [erase] using others.symm
    · simpa [erase, same] using ih distinct

theorem find?_erase (table : FlowTable) (distinct : table.keys.Nodup) (key other : FlowKey) :
    (table.erase key).find? other = if key = other then none else table.find? other := by
  rw [erase_eq_filter table distinct, find?_filter table distinct]
  by_cases same : key = other
  · simp [same]
  · have different : ¬ other = key := fun equal => same equal.symm
    cases table.find? other <;> simp [same, different]

end FlowTable

end FlowProbe
