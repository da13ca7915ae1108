import Mathlib.Algebra.Order.BigOperators.Group.List
import Mathlib.Algebra.Order.Group.Nat
import Mathlib.Algebra.Ring.Nat
import Mathlib.Data.List.Count
import Mathlib.Data.List.Induction

set_option autoImplicit false

namespace FlowProbe.Fibers

variable {α κ : Type} [DecidableEq κ]

def part (keyOf : α → κ) (key : κ) (items : List α) : List α :=
  items.filter fun item => keyOf item = key

theorem part_append (keyOf : α → κ) (key : κ) (items more : List α) :
    part keyOf key (items ++ more) = part keyOf key items ++ part keyOf key more :=
  List.filter_append ..

theorem part_single (keyOf : α → κ) (key : κ) (item : α) :
    part keyOf key [item] = if keyOf item = key then [item] else [] := by
  by_cases own : keyOf item = key <;> simp [part, own]

theorem part_tagged (tag key : κ) (items : List α) :
    (part Prod.fst key (items.map fun item => (tag, item))).map Prod.snd =
      if tag = key then items else [] := by
  by_cases own : tag = key <;> simp [part, own, List.filter_map, Function.comp_def]

theorem part_filter (keyOf : α → κ) (key : κ) (keep : κ → Bool) (items : List α) :
    part keyOf key (items.filter fun item => keep (keyOf item)) =
      if keep key then part keyOf key items else [] := by
  have chosen : ∀ item ∈ items, (decide (keyOf item = key) && keep (keyOf item)) =
      (decide (keyOf item = key) && keep key) := by
    intro item _
    by_cases own : keyOf item = key <;> simp [own]
  rw [part, List.filter_filter, List.filter_congr chosen]
  cases keep key <;> simp [part]

theorem pairwise_of_parts (keyOf : α → κ) {Before : α → α → Prop} {items : List α}
    (within : ∀ key, (part keyOf key items).Pairwise Before)
    (across : ∀ one ∈ items, ∀ other ∈ items, keyOf one ≠ keyOf other → Before one other) :
    items.Pairwise Before := by
  induction items with
  | nil => exact .nil
  | cons first rest ih =>
    refine List.pairwise_cons.mpr ⟨fun other member => ?_, ?_⟩
    next =>
      by_cases same : keyOf first = keyOf other
      next =>
        have own := within (keyOf first)
        rw [part, List.filter_cons_of_pos (by simp)] at own
        exact (List.pairwise_cons.mp own).1 other (List.mem_filter.mpr ⟨member, by simp [same]⟩)
      next => exact across first List.mem_cons_self other (List.mem_cons_of_mem _ member) same
    next =>
      refine ih (fun key => ?_) fun one here other there =>
        across one (List.mem_cons_of_mem _ here) other (List.mem_cons_of_mem _ there)
      exact (within key).sublist ((List.sublist_cons_self first rest).filter _)

theorem exists_sources {α β : Type} (build : β → α) (sources : Nat → List β)
    (items : List (Nat × α))
    (parts : ∀ key, (part Prod.fst key items).map Prod.snd <+: (sources key).map build) :
    ∃ origins : List (Nat × β), items = origins.map (fun entry => (entry.1, build entry.2)) ∧
      ∀ key, (part Prod.fst key origins).map Prod.snd <+: sources key := by
  induction items using List.reverseRecOn with
  | nil => exact ⟨[], rfl, fun key => List.nil_prefix⟩
  | append_singleton items item ih =>
    obtain ⟨tag, item⟩ := item
    have split (key : Nat) : (part Prod.fst key (items ++ [(tag, item)])).map Prod.snd =
        (part Prod.fst key items).map Prod.snd ++ if tag = key then [item] else [] := by
      rw [part_append, List.map_append]
      exact congrArg _ (part_tagged tag key [item])
    obtain ⟨origins, rfl, before⟩ := ih fun key =>
      (List.prefix_append _ _).trans (split key ▸ parts key)
    -- The next entry of the item's own list is where the item comes from.
    obtain ⟨rest, source⟩ := before tag
    have here := parts tag
    have built : (part Prod.fst tag (origins.map fun entry => (entry.1, build entry.2))).map
        Prod.snd = ((part Prod.fst tag origins).map Prod.snd).map build := by
      simp [part, List.filter_map, Function.comp_def]
    rw [split, ← source, List.map_append, if_pos rfl, built, List.prefix_append_right_inj] at here
    cases rest with
    | nil => simp at here
    | cons origin rest =>
      obtain ⟨rfl, -⟩ := List.cons_prefix_cons.mp here
      refine ⟨origins ++ [(tag, origin)], by simp, fun key => ?_⟩
      rw [part_append, List.map_append]
      by_cases same : tag = key
      next =>
        subst same
        refine ⟨rest, ?_⟩
        simpa [part] using source
      next => simpa [part, same] using before key

theorem perm_of_parts (keyOf : α → κ) {one other : List α}
    (same : ∀ key, (part keyOf key one).Perm (part keyOf key other)) : one.Perm other := by
  classical
  -- Whatever is counted is counted in the part of its own key.
  have inPart (item : α) (items : List α) :
      (part keyOf (keyOf item) items).count item = items.count item :=
    List.count_filter (by simp)
  rw [List.perm_iff_count]
  intro item
  rw [← inPart item one, ← inPart item other]
  exact (same (keyOf item)).count_eq item

theorem flatMap_range_single (count chosen : Nat) (items : List α) :
    ((List.range count).flatMap fun slot => if slot = chosen then items else []) =
      if chosen < count then items else [] := by
  induction count with
  | zero => simp
  | succ count ih =>
    rw [List.range_succ, List.flatMap_append, ih, List.flatMap_singleton]
    by_cases last : count = chosen
    next => simp [last]
    next =>
      have same : chosen < count + 1 ↔ chosen < count := by omega
      simp [last, same]

theorem perm_flatMap_parts {keyOf : α → Nat} {count : Nat} {items : List α}
    (covered : ∀ item ∈ items, keyOf item < count) :
    items.Perm ((List.range count).flatMap fun slot => part keyOf slot items) := by
  apply perm_of_parts keyOf
  intro key
  have each (slot : Nat) : part keyOf key (part keyOf slot items) =
      if slot = key then part keyOf key items else [] := by
    by_cases same : slot = key
    next => simp [part, same]
    next =>
      simp only [part, List.filter_filter, same, if_false, List.filter_eq_nil_iff]
      intro item _
      simp only [Bool.and_eq_true, decide_eq_true_eq, not_and]
      exact fun own other => same (other.symm.trans own)
  have gathered : part keyOf key ((List.range count).flatMap fun slot => part keyOf slot items) =
      if key < count then part keyOf key items else [] := by
    rw [part, List.filter_flatMap, ← flatMap_range_single]
    exact List.flatMap_congr fun slot _ => each slot
  rw [gathered]
  split
  next => exact .refl _
  next outside =>
    have nothing : part keyOf key items = [] := by
      apply List.filter_eq_nil_iff.mpr
      intro item member
      have inside := covered item member
      simp only [decide_eq_true_eq]
      omega
    rw [nothing]

theorem length_parts {keyOf : α → Nat} {count : Nat} {items : List α}
    (covered : ∀ item ∈ items, keyOf item < count) :
    items.length = ((List.range count).map fun slot => (part keyOf slot items).length).sum := by
  rw [(perm_flatMap_parts covered).length_eq, List.length_flatMap]

theorem eq_of_sum_eq {few many : Nat → Nat} {count : Nat}
    (within : ∀ slot < count, few slot ≤ many slot)
    (total : ((List.range count).map few).sum = ((List.range count).map many).sum) :
    ∀ slot < count, few slot = many slot := by
  induction count with
  | zero => exact fun slot none => absurd none (Nat.not_lt_zero slot)
  | succ count ih =>
    have within' : ∀ slot < count, few slot ≤ many slot := fun slot inside =>
      within slot (Nat.lt_succ_of_lt inside)
    have below : ((List.range count).map few).sum ≤ ((List.range count).map many).sum :=
      List.sum_le_sum fun slot member => within' slot (List.mem_range.mp member)
    have last := within count (Nat.lt_succ_self count)
    simp only [List.range_succ, List.map_append, List.sum_append, List.map_singleton,
      List.sum_singleton] at total
    intro slot inside
    rcases Nat.lt_succ_iff_lt_or_eq.mp inside with earlier | rfl
    next => exact ih within' (by omega) slot earlier
    next => omega

end FlowProbe.Fibers
