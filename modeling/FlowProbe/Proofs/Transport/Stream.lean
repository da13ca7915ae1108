import FlowProbe.Proofs.Transport.Messages

set_option autoImplicit false

namespace FlowProbe

namespace Framed

def unwritten (state : Framed) : List UInt8 :=
  match state.pending with
  | [] => []
  | front :: rest => front.drop state.offset ++ rest.flatten

inductive Progress : Framed → Framed → Prop where
  | none (state : Framed) : Progress state state
  | took {state final : Framed} {wire front : List UInt8} {rest : List (List UInt8)} {count : Nat}
      (up : state.wire = some wire) (pending : state.pending = front :: rest)
      (taken : 0 < count) (offered : count ≤ front.length - state.offset)
      (next : Progress (state.advance wire front rest count) final) : Progress state final

@[simp] theorem wire_advance (state : Framed) (wire front : List UInt8)
    (rest : List (List UInt8)) (count : Nat) :
    (state.advance wire front rest count).wire =
      some (wire ++ (front.drop state.offset).take count) := by
  unfold advance
  dsimp only
  split <;> rfl

@[simp] theorem closedWires_advance (state : Framed) (wire front : List UInt8)
    (rest : List (List UInt8)) (count : Nat) :
    (state.advance wire front rest count).closedWires = state.closedWires := by
  unfold advance
  dsimp only
  split <;> rfl

theorem progress_flush (state : Framed) (outcomes : List WriteOutcome) :
    Progress state (state.flush outcomes).2 := by
  induction outcomes generalizing state with
  | nil => exact .none state
  | cons outcome outcomes ih =>
    unfold flush
    cases up : state.wire with
    | none => exact .none state
    | some wire =>
      cases pending : state.pending with
      | nil => exact .none state
      | cons front rest =>
        cases outcome with
        | took count =>
          dsimp only
          split
          next => exact .none state
          next taken =>
            exact .took up pending (Nat.pos_of_ne_zero taken) (Nat.min_le_right _ _) (ih _)
        | wouldBlock => exact .none state
        | interrupted => exact ih state
        | failed cause => exact .none state

-- Lingering writes what flushing would; only how it ends is told otherwise.
theorem linger_state (state : Framed) (outcomes : List WriteOutcome) :
    (state.linger outcomes).2 = (state.flush outcomes).2 := by
  induction outcomes generalizing state with
  | nil => rfl
  | cons outcome outcomes ih =>
    unfold linger flush
    cases up : state.wire with
    | none => rfl
    | some wire =>
      cases pending : state.pending with
      | nil => rfl
      | cons front rest =>
        cases outcome with
        | took count =>
          dsimp only
          split
          next => rfl
          next => exact ih _
        | wouldBlock => rfl
        | interrupted => exact ih state
        | failed cause => rfl

theorem pending_linger {state : Framed} {wire : List UInt8} (up : state.wire = some wire)
    (outcomes : List WriteOutcome) (done : (state.linger outcomes).1 = .ok ()) :
    (state.linger outcomes).2.pending = [] := by
  induction outcomes generalizing state wire with
  | nil =>
    unfold linger at done ⊢
    cases pending : state.pending with
    | nil => rfl
    | cons front rest => simp [pending] at done
  | cons outcome outcomes ih =>
    unfold linger at done ⊢
    cases pending : state.pending with
    | nil => simp only [up, pending]
    | cons front rest =>
      simp only [up, pending] at done ⊢
      cases outcome with
      | took count =>
        dsimp only at done ⊢
        split at done
        next => exact nomatch done
        next taken =>
          rw [if_neg taken]
          exact ih (wire_advance ..) done
      | wouldBlock => exact nomatch done
      | interrupted => exact ih up done
      | failed cause => exact nomatch done

def Carries (state : Framed) (records : List Record) : Prop :=
  match state.wire with
  | some wire =>
    wire ++ state.unwritten = stream records ∧ (state.pending = [] → state.offset = 0)
  | none => state.pending = [] ∧ state.offset = 0 ∧ records = []

variable {state final : Framed} {wire : List UInt8} {records : List Record}

theorem carries_up (up : state.wire = some wire) :
    state.Carries records ↔
      wire ++ state.unwritten = stream records ∧ (state.pending = [] → state.offset = 0) := by
  unfold Carries
  rw [up]

theorem carries_down (down : state.wire = none) :
    state.Carries records ↔ state.pending = [] ∧ state.offset = 0 ∧ records = [] := by
  unfold Carries
  rw [down]

theorem unwritten_fresh (fresh : state.offset = 0) : state.unwritten = state.pending.flatten := by
  unfold unwritten
  cases pending : state.pending with
  | nil => rfl
  | cons front rest => simp [fresh]

theorem carries_advance {front : List UInt8} {rest : List (List UInt8)} {count : Nat}
    (up : state.wire = some wire) (pending : state.pending = front :: rest)
    (carries : state.Carries records) :
    (state.advance wire front rest count).Carries records := by
  have whole := ((carries_up up).mp carries).1
  simp only [unwritten, pending] at whole
  unfold advance
  dsimp only
  split
  next complete =>
    -- The front message is done with; the next one has not been begun.
    have all : (front.drop state.offset).take count = front.drop state.offset := by
      apply List.take_of_length_le
      rw [List.length_drop]
      omega
    refine (carries_up rfl).mpr ⟨?_, fun _ => rfl⟩
    rw [unwritten_fresh rfl, all, List.append_assoc]
    exact whole
  next =>
    refine (carries_up rfl).mpr ⟨?_, fun none => absurd (pending.symm.trans none) nofun⟩
    simp only [unwritten, pending]
    rw [← List.drop_drop, List.append_assoc, ← List.append_assoc (List.take _ _),
      List.take_append_drop]
    exact whole

theorem carries_progress (progress : Progress state final) (carries : state.Carries records) :
    final.Carries records := by
  induction progress with
  | none => exact carries
  | took up pending taken offered next ih => exact ih (carries_advance up pending carries)

theorem closedWires_progress (progress : Progress state final) :
    final.closedWires = state.closedWires ∧ final.wire.isSome = state.wire.isSome := by
  induction progress with
  | none => exact ⟨rfl, rfl⟩
  | took up pending taken offered next ih =>
    rw [ih.1, ih.2, up, wire_advance, closedWires_advance]
    exact ⟨rfl, rfl⟩

theorem carries_concat (up : state.wire = some wire) (carries : state.Carries records)
    (record : Record) :
    { state with pending := state.pending ++ [frame record] }.Carries (records ++ [record]) := by
  obtain ⟨whole, fresh⟩ := (carries_up up).mp carries
  have still : { state with pending := state.pending ++ [frame record] }.wire = some wire := up
  refine (carries_up still).mpr ⟨?_, ?_⟩
  next =>
    rw [stream_concat, ← whole, List.append_assoc]
    congr 1
    cases pending : state.pending with
    | nil => simp [unwritten, pending, fresh pending]
    | cons front rest => simp [unwritten, pending]
  next =>
    intro none
    exact absurd none (List.append_ne_nil_of_right_ne_nil _ nofun)

def acceptedOn (accepted : List (Nat × Record)) (number : Nat) : List Record :=
  (accepted.filter (·.1 = number)).map Prod.snd

structure Kept (state : Framed) (accepted : List (Nat × Record)) : Prop where
  past : ∀ (number : Nat) (octets : List UInt8), state.closedWires[number]? = some octets →
    octets <+: stream (acceptedOn accepted number)
  present : state.Carries (acceptedOn accepted state.closedWires.length)
  numbered : ∀ entry ∈ accepted, entry.1 ≤ state.closedWires.length
  small : ∀ entry ∈ accepted, entry.2.size < sizeLimit

variable {accepted : List (Nat × Record)}

theorem acceptedOn_concat (accepted : List (Nat × Record)) (number other : Nat) (record : Record) :
    acceptedOn (accepted ++ [(number, record)]) other =
      acceptedOn accepted other ++ if number = other then [record] else [] := by
  unfold acceptedOn
  by_cases same : number = other <;> simp [same]

theorem kept_progress (progress : Progress state final) (kept : state.Kept accepted) :
    final.Kept accepted := by
  have same := (closedWires_progress progress).1
  refine ⟨?_, ?_, ?_, kept.small⟩
  next => rw [same]; exact kept.past
  next => rw [same]; exact carries_progress progress kept.present
  next => rw [same]; exact kept.numbered

theorem kept_opened (down : state.wire = none) (kept : state.Kept accepted) :
    { state with wire := some [], retryAt := none }.Kept accepted := by
  obtain ⟨pending, fresh, none⟩ := (carries_down down).mp kept.present
  refine ⟨kept.past, (carries_up rfl).mpr ⟨?_, fun _ => fresh⟩, kept.numbered, kept.small⟩
  rw [none]
  simp [unwritten, pending]

theorem kept_accepted (up : state.wire = some wire) (kept : state.Kept accepted)
    {record : Record} (small : record.size < sizeLimit) :
    { state with pending := state.pending ++ [frame record] }.Kept
      (accepted ++ [(state.closedWires.length, record)]) := by
  refine ⟨?_, ?_, ?_, ?_⟩
  next =>
    intro number octets here
    have earlier : state.closedWires.length ≠ number :=
      Nat.ne_of_gt (List.getElem?_eq_some_iff.mp here).1
    rw [acceptedOn_concat, if_neg earlier, List.append_nil]
    exact kept.past number octets here
  next =>
    rw [acceptedOn_concat, if_pos rfl]
    exact carries_concat up kept.present record
  next =>
    intro entry member
    rcases List.mem_append.mp member with old | new
    next => exact kept.numbered entry old
    next => exact List.eq_of_mem_singleton new ▸ Nat.le_refl _
  next =>
    intro entry member
    rcases List.mem_append.mp member with old | new
    next => exact kept.small entry old
    next => exact List.eq_of_mem_singleton new ▸ small

theorem kept_closed (kept : state.Kept accepted)
    (closed : final.closedWires = state.closedWires ++ state.wire.toList)
    (down : final.wire = none) (nothing : final.pending = []) (fresh : final.offset = 0) :
    final.Kept accepted := by
  cases up : state.wire with
  | none =>
    have same : final.closedWires = state.closedWires := by simpa [up] using closed
    refine ⟨same ▸ kept.past, (carries_down down).mpr ⟨nothing, fresh, ?_⟩, same ▸ kept.numbered,
      kept.small⟩
    rw [same]
    exact ((carries_down up).mp kept.present).2.2
  | some wire =>
    have longer : final.closedWires = state.closedWires ++ [wire] := by simpa [up] using closed
    have size : final.closedWires.length = state.closedWires.length + 1 := by simp [longer]
    refine ⟨?_, (carries_down down).mpr ⟨nothing, fresh, ?_⟩, ?_, kept.small⟩
    next =>
      intro number octets here
      rw [longer, List.getElem?_append] at here
      split at here
      next => exact kept.past number octets here
      next later =>
        obtain ⟨bound, same⟩ := List.getElem?_eq_some_iff.mp here
        have last : number = state.closedWires.length := by
          rw [List.length_singleton] at bound
          omega
        rw [List.getElem_singleton] at same
        rw [last, ← same]
        exact ⟨_, ((carries_up up).mp kept.present).1⟩
    next =>
      -- No message belongs to the next connection yet.
      simp only [acceptedOn, List.map_eq_nil_iff, List.filter_eq_nil_iff, decide_eq_true_eq]
      intro entry member
      have bound := kept.numbered entry member
      omega
    next =>
      intro entry member
      have bound := kept.numbered entry member
      omega

theorem kept_reset (kept : state.Kept accepted) (now : Nanos) : (state.reset now).Kept accepted :=
  kept_closed kept rfl rfl rfl rfl

theorem kept_reconnect (kept : state.Kept accepted) (conditions : SendConditions) :
    (state.reconnect conditions).2.Kept accepted ∧
      (state.reconnect conditions).2.closedWires = state.closedWires ∧
      ((state.reconnect conditions).1 = .ok () → (state.reconnect conditions).2.wire.isSome) := by
  unfold reconnect
  cases up : state.wire with
  | some wire => exact ⟨kept, rfl, fun _ => by simp [up]⟩
  | none =>
    dsimp only
    split
    next => exact ⟨kept, rfl, nofun⟩
    next =>
      cases conditions.connecting with
      | ok => exact ⟨kept_opened up kept, rfl, fun _ => rfl⟩
      | error cause =>
        have present := (carries_down up).mp kept.present
        exact ⟨⟨kept.past, (carries_down rfl).mpr present, kept.numbered, kept.small⟩, rfl, nofun⟩

theorem kept_append (up : state.wire.isSome) (kept : state.Kept accepted) {record : Record}
    (small : record.size < sizeLimit) (conditions : SendConditions) :
    (state.append record conditions).Kept
      (accepted ++ [(state.closedWires.length, record)]) := by
  obtain ⟨wire, up⟩ := Option.isSome_iff_exists.mp up
  have added := kept_accepted up kept small
  have flushed := kept_progress (progress_flush _ conditions.later) added
  unfold append
  dsimp only
  split
  next wrote =>
    rw [wrote] at flushed
    exact flushed
  next wrote =>
    rw [wrote] at flushed
    exact kept_reset flushed conditions.now

theorem kept_send (kept : state.Kept accepted) (record : Record) (conditions : SendConditions) :
    (state.send record conditions).1 = .accepted ∧
        (state.send record conditions).2.Kept
          (accepted ++ [(state.closedWires.length, record)]) ∨
      (state.send record conditions).1 ≠ .accepted ∧
        (state.send record conditions).2.Kept accepted := by
  obtain ⟨connected, same, up⟩ := kept_reconnect kept conditions
  unfold send
  cases tried : state.reconnect conditions with
  | mk result state' =>
    rw [tried] at connected same up
    cases result with
    | error cause => exact .inr ⟨nofun, connected⟩
    | ok =>
      have progress := progress_flush state' conditions.earlier
      obtain ⟨same', up'⟩ := closedWires_progress progress
      have flushed := kept_progress progress connected
      dsimp only at same up ⊢
      cases wrote : state'.flush conditions.earlier with
      | mk result state'' =>
        rw [wrote] at flushed same' up'
        cases result with
        | error cause => exact .inr ⟨nofun, kept_reset flushed conditions.now⟩
        | ok =>
          dsimp only at flushed same' up' ⊢
          split
          next => exact .inr ⟨nofun, flushed⟩
          next =>
            split
            next => exact .inr ⟨nofun, flushed⟩
            next small =>
              rw [← same, ← same']
              exact .inl ⟨rfl, kept_append (up'.trans (up rfl)) flushed (Nat.lt_of_not_le small)
                conditions⟩

theorem kept_close (kept : state.Kept accepted) (outcomes : List WriteOutcome) :
    (state.close outcomes).Kept accepted := by
  unfold close
  cases up : state.wire with
  | none => exact kept
  | some wire =>
    have progress := linger_state state outcomes ▸ progress_flush state outcomes
    have lingered := kept_progress progress kept
    have still := (closedWires_progress progress).2
    have written := pending_linger up outcomes
    dsimp only
    cases wrote : state.linger outcomes with
    | mk result final =>
      rw [wrote] at lingered still written
      cases result with
      | error cause => exact kept_closed lingered rfl rfl rfl rfl
      | ok =>
        obtain ⟨wire', up'⟩ := Option.isSome_iff_exists.mp (still.trans (up ▸ rfl))
        have nothing := written rfl
        exact kept_closed lingered rfl rfl nothing
          (((carries_up up').mp lingered.present).2 nothing)

end Framed

inductive FramedCall where
  | send (record : Record) (conditions : SendConditions)
  | takeDiscarded
  | close (outcomes : List WriteOutcome)

structure FramedRun where
  state : Framed
  accepted : List (Nat × Record)

namespace FramedRun

def start (limit : Nat) : FramedRun :=
  ⟨.connected limit, []⟩

def act (run : FramedRun) : FramedCall → FramedRun
  | .send record conditions =>
    let (reply, state) := run.state.send record conditions
    ⟨state,
      if reply = .accepted then run.accepted ++ [(run.state.closedWires.length, record)]
      else run.accepted⟩
  | .takeDiscarded => { run with state := run.state.takeDiscarded.2 }
  | .close outcomes => { run with state := run.state.close outcomes }

def follow (run : FramedRun) (calls : List FramedCall) : FramedRun :=
  calls.foldl act run

def connections (run : FramedRun) : List (List UInt8) :=
  run.state.closedWires ++ run.state.wire.toList

def acceptedOn (run : FramedRun) (number : Nat) : List Record :=
  Framed.acceptedOn run.accepted number

variable {run : FramedRun}

theorem kept_act (kept : run.state.Kept run.accepted) (call : FramedCall) :
    (run.act call).state.Kept (run.act call).accepted := by
  cases call with
  | send record conditions =>
    rcases Framed.kept_send kept record conditions with ⟨taken, kept⟩ | ⟨refused, kept⟩
    next =>
      simp only [act, if_pos taken]
      exact kept
    next =>
      simp only [act, if_neg refused]
      exact kept
  | takeDiscarded => exact ⟨kept.past, kept.present, kept.numbered, kept.small⟩
  | close outcomes => exact Framed.kept_close kept outcomes

theorem kept_follow (kept : run.state.Kept run.accepted) (calls : List FramedCall) :
    (run.follow calls).state.Kept (run.follow calls).accepted := by
  induction calls generalizing run with
  | nil => exact kept
  | cons call rest ih => exact ih (kept_act kept call)

theorem kept_start (limit : Nat) : (start limit).state.Kept (start limit).accepted := by
  refine ⟨nofun, (Framed.carries_up rfl).mpr ⟨rfl, fun _ => rfl⟩, nofun, nofun⟩

theorem prefix_of_connection (kept : run.state.Kept run.accepted) {number : Nat}
    {octets : List UInt8} (here : run.connections[number]? = some octets) :
    octets <+: Framed.stream (run.acceptedOn number) := by
  unfold connections at here
  rw [List.getElem?_append] at here
  split at here
  next => exact kept.past number octets here
  next later =>
    cases up : run.state.wire with
    | none => simp [up] at here
    | some wire =>
      obtain ⟨bound, same⟩ := List.getElem?_eq_some_iff.mp here
      simp only [up, Option.toList_some, List.length_singleton, List.getElem_singleton]
        at bound same
      have last : number = run.state.closedWires.length := by omega
      rw [last, ← same]
      exact ⟨_, ((Framed.carries_up up).mp kept.present).1⟩

theorem small_of_accepted (kept : run.state.Kept run.accepted) (number : Nat) :
    ∀ record ∈ run.acceptedOn number, record.size < Framed.sizeLimit := by
  intro record member
  obtain ⟨entry, chosen, rfl⟩ := List.mem_map.mp member
  exact kept.small entry (List.mem_filter.mp chosen).1

/-- On every connection the sockets have taken the beginning of the messages accepted on it, and a
reader gets those of them that are there in full. Of the connection that is up only the pending
octets are missing, and nothing is pending when none is up. -/
theorem connections_carry_accepted_messages (limit : Nat) (calls : List FramedCall) :
    let run := (start limit).follow calls
    (∀ (number : Nat) (octets : List UInt8), run.connections[number]? = some octets →
      octets <+: Framed.stream (run.acceptedOn number) ∧
        ∃ whole tail, whole <+: run.acceptedOn number ∧
          octets = Framed.stream whole ++ tail ∧
          Framed.messages octets = whole.map Record.bytes ∧
          ∀ next, whole ++ [next] <+: run.acceptedOn number →
            tail.length < (Framed.frame next).length) ∧
      (∀ wire, run.state.wire = some wire →
        wire ++ run.state.unwritten =
          Framed.stream (run.acceptedOn run.state.closedWires.length)) ∧
      (run.state.wire = none → run.state.pending = [] ∧ run.state.offset = 0) := by
  intro run
  have kept : run.state.Kept run.accepted := kept_follow (kept_start limit) calls
  refine ⟨?_, ?_, ?_⟩
  next =>
    intro number octets here
    have front := prefix_of_connection kept here
    refine ⟨front, ?_⟩
    obtain ⟨whole, part, tail, split, taken, read, short⟩ :=
      Framed.messages_of_prefix (small_of_accepted kept number) front
    refine ⟨whole, tail, ⟨part, split.symm⟩, taken, read, ?_⟩
    intro next ahead
    apply short
    obtain ⟨later, ahead⟩ := ahead
    rw [List.append_assoc, split] at ahead
    simp [← List.append_cancel_left ahead]
  next =>
    intro wire up
    exact ((Framed.carries_up up).mp kept.present).1
  next =>
    intro down
    have idle := (Framed.carries_down down).mp kept.present
    exact ⟨idle.1, idle.2.1⟩

end FramedRun

end FlowProbe
