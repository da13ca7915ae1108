import FlowProbe.Proofs.Meter.Isolation
import FlowProbe.Proofs.Meter.Succession

set_option autoImplicit false

namespace FlowProbe

/-- How what is known of a flow may differ at a later time. -/
structure Flow.Continues (flow later : Flow) : Prop extends flow.Grows later where
  key : later.key = flow.key
  version : later.version = flow.version
  fingerprint : flow.fingerprint ≠ none → later.fingerprint = flow.fingerprint

theorem Flow.continues_update (flow : Flow) (packet : Packet) (length : Nat)
    (time reported : Nanos) :
    flow.Continues ((flow.update packet length time).reportedAt reported) where
  toGrows := flow.grows_update packet length time reported
  key := rfl
  version := rfl
  fingerprint := by
    intro shown
    cases there : flow.fingerprint with
    | none => exact absurd there shown
    | some => simp [update, reportedAt, there]

theorem Flow.continues_trans {flow later last : Flow} (first : flow.Continues later)
    (second : later.Continues last) : flow.Continues last where
  toGrows := grows_trans first.toGrows second.toGrows
  key := second.key.trans first.key
  version := second.version.trans first.version
  fingerprint := by
    intro shown
    have kept := first.fingerprint shown
    exact (second.fingerprint (kept ▸ shown)).trans kept

theorem Lifetime.key_flow (life : Lifetime) (reported : Nanos) :
    (life.flow reported).key = life.first.packet.key :=
  Flow.key_start life.id life.first.packet life.first.time

theorem Lifetime.continues_append (id : Uuid) (first : Sighting) (later more : List Sighting)
    (reported reported' : Nanos) :
    (flow ⟨id, first, later⟩ reported).Continues (flow ⟨id, first, later ++ more⟩ reported') := by
  induction more using List.reverseRecOn generalizing reported' with
  | nil =>
    rw [List.append_nil]
    exact ⟨⟨rfl, rfl, rfl, rfl, Nat.le_refl _, Nat.le_refl _, Nat.le_refl _, Nat.le_refl _,
      Nat.le_refl _⟩, rfl, rfl, fun _ => rfl⟩
  | append_singleton more sighting ih =>
    have step := (flow ⟨id, first, later ++ more⟩ reported').continues_update sighting.packet
      sighting.length sighting.time reported'
    rw [flow_push, flow_reportedAt, push, List.append_assoc] at step
    exact Flow.continues_trans (ih reported') step

theorem MeterCall.sightingsOf_single {key : FlowKey} {call : MeterCall} {first : Sighting}
    {later : List Sighting} (seen : sightingsOf key [call] = first :: later) :
    call.sighting? = some first ∧ first.packet.key = key ∧ later = [] := by
  cases here : call.sighting? with
  | none => simp [sightingsOf, sightings_single, here] at seen
  | some sighting =>
    by_cases own : sighting.packet.key = key
    next =>
      simp only [sightingsOf, sightings_single, here, Option.toList_some, own, decide_true,
        List.filter_cons_of_pos, List.filter_nil, List.cons.injEq] at seen
      obtain ⟨rfl, rfl⟩ := seen
      exact ⟨rfl, own, rfl⟩
    next => simp [sightingsOf, sightings_single, here, own] at seen

namespace Meter

/-- After `earlier` the packet of the call `opening` finds no flow of its key. The one that it makes is
in the table up to the last of the calls `since`, and is then the flow given. -/
structure Stay (meter : Meter) (earlier : List MeterCall) (opening : MeterCall) (first : Sighting)
    (since : List MeterCall) (flow : Flow) : Prop where
  opens : opening.sighting? = some first
  absent : (meter.after earlier).table.find? first.packet.key = none
  tells : ∃ reported, flow = Lifetime.flow ⟨meter.supply (meter.after earlier).drawn, first,
    MeterCall.sightingsOf first.packet.key since⟩ reported
  present : ∀ part, part <+: since → part ≠ since →
    (meter.after (earlier ++ opening :: part)).table.find? first.packet.key ≠ none

variable {meter : Meter}

theorem sighting_of_opened {call : MeterCall} {key : FlowKey} (distinct : meter.table.keys.Nodup)
    (absent : meter.table.find? key = none)
    (found : (meter.call call).1.table.find? key ≠ none) :
    MeterCall.sightingsOf key [call] ≠ [] := by
  obtain ⟨flow, here⟩ := Option.ne_none_iff_exists'.mp found
  have shown := (call_shows meter distinct call).2.1 key flow here
  unfold Shows at shown
  cases seen : call.sighting? with
  | none =>
    rw [seen, absent] at shown
    cases shown
  | some sighting =>
    rw [seen] at shown
    by_cases own : sighting.packet.key = key
    next => simp [MeterCall.sightingsOf, MeterCall.sightings_single, seen, own]
    next =>
      simp only [own, if_false, absent] at shown
      cases shown

theorem exists_stay (fresh : meter.table = []) {calls : List MeterCall} {call : MeterCall}
    {key : FlowKey} {flow : Flow} (shown : (meter.after calls).Shows call key flow) :
    ∃ earlier opening first since, calls ++ [call] = earlier ++ opening :: since ∧
      first.packet.key = key ∧ meter.Stay earlier opening first since flow := by
  have explained := explained_fresh meter fresh
  obtain ⟨earlier, since, rfl, resides, first, later, reported, seen, equal⟩ :=
    shows_tells meter calls (explained calls) call key flow shown
  cases since with
  | nil =>
    obtain ⟨opens, rfl, rfl⟩ := MeterCall.sightingsOf_single seen
    refine ⟨earlier, call, first, [], by simp, rfl, opens, resides.absent, ⟨reported, equal⟩, ?_⟩
    intro part front less
    exact absurd (List.prefix_nil.mp front) less
  | cons opening rest =>
    have found := resides.present [opening] ⟨rest, rfl⟩ (List.cons_ne_nil _ _)
    rw [after_concat] at found
    have own := sighting_of_opened (explained earlier).1 resides.absent found
    obtain ⟨sighting, others, single⟩ := List.exists_cons_of_ne_nil own
    obtain ⟨opens, rfl, rfl⟩ := MeterCall.sightingsOf_single single
    rw [List.cons_append, MeterCall.sightingsOf_cons, single] at seen
    obtain ⟨rfl, rfl⟩ := List.cons.inj seen
    refine ⟨earlier, opening, sighting, rest ++ [call], by simp, rfl, opens, resides.absent,
      ⟨reported, equal⟩, ?_⟩
    intro part front less
    have inside := (List.prefix_concat_iff.mp front).resolve_left less
    exact resides.present (opening :: part) (List.cons_prefix_cons.mpr ⟨rfl, inside⟩)
      (List.cons_ne_nil _ _)

theorem drawn_lt_call {call : MeterCall} {first : Sighting} (opens : call.sighting? = some first)
    (absent : meter.table.find? first.packet.key = none) :
    meter.drawn < (meter.call call).1.drawn := by
  cases call with
  | flush => cases opens
  | process captured =>
    obtain ⟨packet, parsed, rfl⟩ := Option.map_eq_some_iff.mp opens
    simp [Meter.call, process_parsed meter captured packet parsed, drawn_tick, drawn_count,
      drawnAfter, absent]

variable {earlier earlier' since since' calls : List MeterCall} {opening opening' : MeterCall}
  {first first' : Sighting} {flow flow' : Flow}

theorem Stay.id (stay : meter.Stay earlier opening first since flow) :
    flow.id = meter.supply (meter.after earlier).drawn := by
  obtain ⟨reported, rfl⟩ := stay.tells
  rfl

theorem Stay.drawn_lt (stay : meter.Stay earlier opening first since flow)
    {later : List MeterCall} (past : earlier ++ [opening] <+: later) :
    (meter.after earlier).drawn < (meter.after later).drawn := by
  obtain ⟨rest, rfl⟩ := past
  rw [after_append, after_concat]
  exact Nat.lt_of_lt_of_le (drawn_lt_call stay.opens stay.absent) (drawn_le_after _ rest)

theorem opening_within (within : earlier ++ opening :: since <+: calls) :
    earlier ++ [opening] <+: calls := by
  refine List.IsPrefix.trans ⟨since, ?_⟩ within
  rw [List.append_assoc, List.singleton_append]

theorem concat_within {one other : List MeterCall} {call : MeterCall}
    (here : one ++ [call] <+: calls) (there : other <+: calls) (less : one.length < other.length) :
    one ++ [call] <+: other := by
  refine List.prefix_of_prefix_length_le here there ?_
  rwa [List.length_append, List.length_singleton]

-- A flow whose key is missing on the way was opened behind that point.
theorem Stay.opened_behind (stay : meter.Stay earlier opening first since flow)
    {done : List MeterCall} (within : done <+: earlier ++ opening :: since)
    (less : done ≠ earlier ++ opening :: since)
    (gone : (meter.after done).table.find? first.packet.key = none) : done <+: earlier := by
  rcases Nat.lt_or_ge earlier.length done.length with longer | shorter
  next =>
    obtain ⟨part, rfl⟩ : earlier ++ [opening] <+: done :=
      concat_within (opening_within List.prefix_rfl) within longer
    rw [List.append_assoc, List.singleton_append] at within less gone
    rw [List.prefix_append_right_inj, List.cons_prefix_cons] at within
    refine absurd gone (stay.present part within.2 ?_)
    rintro rfl
    exact less rfl
  next => exact List.prefix_of_prefix_length_le within (List.prefix_append _ _) shorter

-- Whichever call opened its flow first has drawn an identifier before the other one did.
theorem Stay.unique (stay : meter.Stay earlier opening first since flow)
    (stay' : meter.Stay earlier' opening' first' since' flow')
    (within : earlier ++ opening :: since <+: calls)
    (within' : earlier' ++ opening' :: since' <+: calls)
    (same : (meter.after earlier).drawn = (meter.after earlier').drawn) :
    earlier = earlier' ∧ opening = opening' := by
  have opened := opening_within within
  have opened' := opening_within within'
  have before := (List.prefix_append earlier [opening]).trans opened
  have before' := (List.prefix_append earlier' [opening']).trans opened'
  rcases Nat.lt_trichotomy earlier.length earlier'.length with less | level | more
  next => exact absurd same (Nat.ne_of_lt (stay.drawn_lt (concat_within opened before' less)))
  next =>
    have equal : earlier ++ [opening] = earlier' ++ [opening'] :=
      (List.prefix_of_prefix_length_le opened opened' (by simp [level])).eq_of_length
        (by simp [level])
    obtain ⟨front, call⟩ := List.append_inj' equal rfl
    exact ⟨front, List.singleton_inj.mp call⟩
  next =>
    exact absurd same.symm (Nat.ne_of_lt (stay'.drawn_lt (concat_within opened' before more)))

-- One call has opened both flows, and what the first has counted stands at the front of what the
-- second has.
theorem shown_continues {done done' : List MeterCall} {call call' : MeterCall} {key key' : FlowKey}
    (fresh : meter.table = [])
    (distinct : ∀ one < (meter.after calls).drawn, ∀ other < (meter.after calls).drawn,
      meter.supply one = meter.supply other → one = other)
    (order : done ++ [call] <+: done' ++ [call']) (within : done' ++ [call'] <+: calls)
    (shown : (meter.after done).Shows call key flow)
    (shown' : (meter.after done').Shows call' key' flow') (same : flow.id = flow'.id) :
    flow.Continues flow' ∧ key = key' ∧ ∀ part, done ++ [call] <+: part → part <+: done' →
      (meter.after part).table.find? key ≠ none := by
  obtain ⟨earlier, opening, first, since, split, rfl, stay⟩ := exists_stay fresh shown
  obtain ⟨earlier', opening', first', since', split', rfl, stay'⟩ := exists_stay fresh shown'
  obtain ⟨reported, rfl⟩ := stay.tells
  obtain ⟨reported', rfl⟩ := stay'.tells
  have inside' : earlier' ++ opening' :: since' <+: calls := split' ▸ within
  have inside : earlier ++ opening :: since <+: calls := split ▸ order.trans within
  have serial : (meter.after earlier).drawn = (meter.after earlier').drawn :=
    distinct _ (stay.drawn_lt (opening_within inside)) _
      (stay'.drawn_lt (opening_within inside')) same
  obtain ⟨rfl, rfl⟩ := stay.unique stay' inside inside' serial
  obtain rfl : first = first' := Option.some.inj (stay.opens.symm.trans stay'.opens)
  have front (part : List MeterCall) (before : earlier ++ opening :: part <+: done' ++ [call']) :
      part <+: since' := by
    rw [split', List.prefix_append_right_inj, List.cons_prefix_cons] at before
    exact before.2
  obtain ⟨more, rfl⟩ := front since (split ▸ order)
  refine ⟨?_, rfl, ?_⟩
  next =>
    rw [MeterCall.sightingsOf_append]
    exact Lifetime.continues_append _ first _ _ reported reported'
  next =>
    intro part past before
    rw [split] at past
    obtain ⟨tail, rfl⟩ := past
    rw [List.append_assoc, List.cons_append] at before ⊢
    refine stay'.present _ (front _ (before.trans (List.prefix_append _ _))) ?_
    intro whole
    have shorter := before.length_le
    rw [whole, ← split', List.length_append, List.length_singleton] at shorter
    omega

end Meter

end FlowProbe
