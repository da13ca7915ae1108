import FlowProbe.Proofs.Transport.Stream
import Mathlib.Algebra.Ring.Nat

set_option autoImplicit false

namespace FlowProbe

namespace Framed

-- The messages that the readers of some connections get.
def readable (wires : List (List UInt8)) : Nat :=
  (wires.map fun octets => (messages octets).length).sum

def delivered (state : Framed) : Nat :=
  readable (state.closedWires ++ state.wire.toList)

theorem readable_append (earlier later : List (List UInt8)) :
    readable (earlier ++ later) = readable earlier + readable later := by
  simp [readable]

theorem messages_stream_append {records : List Record}
    (small : ∀ record ∈ records, record.size < sizeLimit) (rest : List UInt8) :
    messages (stream records ++ rest) = records.map Record.bytes ++ messages rest := by
  induction records with
  | nil => rfl
  | cons record records ih =>
    have first := small record List.mem_cons_self
    have others := ih fun record member => small record (List.mem_cons_of_mem _ member)
    rw [stream_cons, List.append_assoc, messages_frame_append first, others]
    rfl

/-- The wire of a connection holds some messages in full and the beginning of the first pending one,
up to the offset. -/
structure Laid (state : Framed) (wire : List UInt8) (whole later : List Record) : Prop where
  small : ∀ record ∈ whole ++ later, record.size < sizeLimit
  pending : state.pending = later.map frame
  octets : wire = stream whole ++ (state.pending.headD []).take state.offset
  begun : state.offset = 0 ∨ state.offset < (state.pending.headD []).length

variable {state opened flushed final : Framed} {wire : List UInt8} {whole later : List Record}

theorem messages_laid (laid : state.Laid wire whole later) :
    messages wire = whole.map Record.bytes := by
  have written : ∀ record ∈ whole, record.size < sizeLimit :=
    fun record member => laid.small record (List.mem_append_left _ member)
  have cut : messages ((state.pending.headD []).take state.offset) = [] := by
    cases later with
    | nil =>
      have front : ([] : List UInt8) <+: frame ⟨[]⟩ := List.nil_prefix
      rw [laid.pending]
      simpa using messages_of_cut (by decide) front (by decide)
    | cons record later =>
      have small := laid.small record (by simp)
      have head : state.pending.headD [] = frame record := by simp [laid.pending]
      have begun := laid.begun
      rw [head] at begun ⊢
      apply messages_of_cut small (List.take_prefix _ _)
      rw [List.length_take]
      rw [length_frame] at begun ⊢
      omega
  rw [laid.octets, messages_stream_append written, cut, List.append_nil]

-- The counter of written messages is what the readers of all wires get.
def Tallied (state : Framed) : Prop :=
  match state.wire with
  | some wire => ∃ whole later, state.Laid wire whole later ∧
      state.written = readable state.closedWires + whole.length
  | none => state.pending = [] ∧ state.offset = 0 ∧ state.written = readable state.closedWires

theorem tallied_up (up : state.wire = some wire) :
    state.Tallied ↔ ∃ whole later, state.Laid wire whole later ∧
      state.written = readable state.closedWires + whole.length := by
  unfold Tallied
  rw [up]

theorem tallied_down (down : state.wire = none) :
    state.Tallied ↔
      state.pending = [] ∧ state.offset = 0 ∧ state.written = readable state.closedWires := by
  unfold Tallied
  rw [down]

theorem delivered_of_tallied (tallied : state.Tallied) : state.delivered = state.written := by
  unfold delivered
  cases up : state.wire with
  | none => simpa using ((tallied_down up).mp tallied).2.2.symm
  | some wire =>
    obtain ⟨whole, later, laid, written⟩ := (tallied_up up).mp tallied
    rw [readable_append, written]
    simp [readable, messages_laid laid]

theorem tallied_advance {front : List UInt8} {rest : List (List UInt8)} {count : Nat}
    (up : state.wire = some wire) (pending : state.pending = front :: rest)
    (offered : count ≤ front.length - state.offset) (taken : 0 < count)
    (tallied : state.Tallied) : (state.advance wire front rest count).Tallied := by
  obtain ⟨whole, later, laid, written⟩ := (tallied_up up).mp tallied
  obtain ⟨small, frames, octets, begun⟩ := laid
  rw [pending] at frames octets begun
  cases later with
  | nil => exact nomatch frames
  | cons record later =>
    obtain ⟨rfl, rfl⟩ := List.cons.inj frames
    simp only [List.headD_cons] at octets begun
    unfold advance
    dsimp only
    split
    next complete =>
      -- The message at the front joins those that are there in full.
      refine (tallied_up rfl).mpr ⟨whole ++ [record], later, ⟨?_, rfl, ?_, .inl rfl⟩, ?_⟩
      next => simpa using small
      next =>
        have last : ((frame record).drop state.offset).take count =
            (frame record).drop state.offset := by
          apply List.take_of_length_le
          rw [List.length_drop]
          omega
        rw [octets, last, List.append_assoc, List.take_append_drop]
        simp
      next =>
        simp only [written, List.length_append, List.length_singleton]
        omega
    next incomplete =>
      refine (tallied_up rfl).mpr ⟨whole, record :: later, ⟨small, pending, ?_, ?_⟩, written⟩
      next =>
        simp only [pending, List.headD_cons]
        rw [octets, List.append_assoc, List.take_add]
      next =>
        simp only [pending, List.headD_cons]
        omega

theorem tallied_progress (progress : Progress state final) (tallied : state.Tallied) :
    final.Tallied := by
  induction progress with
  | none => exact tallied
  | took up pending taken offered next ih =>
    exact ih (tallied_advance up pending offered taken tallied)

theorem tallied_opened (down : state.wire = none) (tallied : state.Tallied) :
    { state with wire := some [], retryAt := none }.Tallied := by
  obtain ⟨pending, fresh, written⟩ := (tallied_down down).mp tallied
  refine (tallied_up rfl).mpr ⟨[], [], ⟨nofun, pending, ?_, .inl fresh⟩, written⟩
  simp [pending]

theorem tallied_concat (up : state.wire = some wire) (tallied : state.Tallied) {record : Record}
    (small : record.size < sizeLimit) :
    { state with pending := state.pending ++ [frame record] }.Tallied := by
  obtain ⟨whole, later, laid, written⟩ := (tallied_up up).mp tallied
  have still : { state with pending := state.pending ++ [frame record] }.wire = some wire := up
  refine (tallied_up still).mpr ⟨whole, later ++ [record], ⟨?_, ?_, ?_, ?_⟩, written⟩
  next =>
    intro other member
    rw [← List.append_assoc] at member
    rcases List.mem_append.mp member with old | new
    next => exact laid.small other old
    next => exact List.eq_of_mem_singleton new ▸ small
  next => simp [laid.pending]
  next =>
    have octets := laid.octets
    have begun := laid.begun
    cases pending : state.pending with
    | nil =>
      rw [pending] at octets begun
      have fresh : state.offset = 0 := by simpa using begun
      simpa [fresh] using octets
    | cons front rest => simpa [pending] using octets
  next =>
    have begun := laid.begun
    cases pending : state.pending with
    | nil =>
      rw [pending] at begun
      exact .inl (by simpa using begun)
    | cons front rest => simpa [pending] using begun

-- A connection that is given up keeps what its reader can make of it.
theorem tallied_closed (tallied : state.Tallied)
    (closed : final.closedWires = state.closedWires ++ state.wire.toList)
    (down : final.wire = none) (nothing : final.pending = []) (fresh : final.offset = 0)
    (same : final.written = state.written) : final.Tallied := by
  refine (tallied_down down).mpr ⟨nothing, fresh, ?_⟩
  rw [same, closed]
  exact (delivered_of_tallied tallied).symm

theorem tallied_reset (tallied : state.Tallied) (now : Nanos) : (state.reset now).Tallied :=
  tallied_closed tallied rfl rfl rfl rfl rfl

inductive Opening (state : Framed) : Framed → Prop where
  | up {wire : List UInt8} (up : state.wire = some wire) : Opening state state
  | opened (down : state.wire = none) :
    Opening state { state with wire := some [], retryAt := none }

inductive Attempt (state : Framed) (record : Record) (conditions : SendConditions) :
    Reply → Framed → Prop where
  | unreached (down : state.wire = none) (cause : SystemFault) (retryAt : Option Nanos) :
    Attempt state record conditions (.refused (.fatal cause)) { state with retryAt }
  | broken {opened flushed : Framed} {cause : SystemFault} (opening : state.Opening opened)
    (wrote : opened.flush conditions.earlier = (.error cause, flushed)) :
    Attempt state record conditions (.refused (.fatal cause)) (flushed.reset conditions.now)
  | full {opened flushed : Framed} (opening : state.Opening opened)
    (wrote : opened.flush conditions.earlier = (.ok (), flushed))
    (full : flushed.limit ≤ flushed.pending.length) :
    Attempt state record conditions (.refused .wouldBlock) flushed
  | tooLarge {opened flushed : Framed} (opening : state.Opening opened)
    (wrote : opened.flush conditions.earlier = (.ok (), flushed))
    (large : sizeLimit ≤ record.size) :
    Attempt state record conditions (.refused (.fatal tooLarge)) flushed
  | accepted {opened flushed : Framed} (opening : state.Opening opened)
    (wrote : opened.flush conditions.earlier = (.ok (), flushed))
    (room : flushed.pending.length < flushed.limit) (small : record.size < sizeLimit) :
    Attempt state record conditions .accepted (flushed.append record conditions)

theorem attempt_send (state : Framed) (record : Record) (conditions : SendConditions) :
    Attempt state record conditions (state.send record conditions).1
      (state.send record conditions).2 := by
  have reached {opened : Framed} (opening : state.Opening opened)
      (tried : state.reconnect conditions = (.ok (), opened)) :
      Attempt state record conditions (state.send record conditions).1
        (state.send record conditions).2 := by
    unfold send
    simp only [tried]
    cases wrote : opened.flush conditions.earlier with
    | mk result flushed =>
      cases result with
      | error cause => exact .broken opening wrote
      | ok =>
        dsimp only
        split
        next full => exact .full opening wrote full
        next room =>
          split
          next large => exact .tooLarge opening wrote large
          next small =>
            exact .accepted opening wrote (Nat.lt_of_not_le room) (Nat.lt_of_not_le small)
  cases up : state.wire with
  | some wire => exact reached (.up up) (by simp only [reconnect, up])
  | none =>
    by_cases early : (state.retryAt.any fun time => conditions.now < time) = true
    next =>
      have tried : state.reconnect conditions = (.error notConnected, state) := by
        simp only [reconnect, up, if_pos early]
      unfold send
      simp only [tried]
      exact .unreached up notConnected state.retryAt
    next =>
      cases connecting : conditions.connecting with
      | ok => exact reached (.opened up) (by simp only [reconnect, up, if_neg early, connecting])
      | error cause =>
        have tried : state.reconnect conditions =
            (.error cause, { state with retryAt := some (conditions.now + reconnectDelay) }) := by
          simp only [reconnect, up, if_neg early, connecting]
        unfold send
        simp only [tried]
        exact .unreached up cause _

theorem attempt_answered {record : Record} {conditions : SendConditions} {reply : Reply}
    (attempt : Attempt state record conditions reply final) : reply ≠ .crashed := by
  cases attempt <;> exact nofun

-- What was accepted is written, pending or discarded.
def entrusted (state : Framed) : Nat :=
  state.written + state.pending.length + state.discarded

theorem limit_advance (state : Framed) (wire front : List UInt8) (rest : List (List UInt8))
    (count : Nat) : (state.advance wire front rest count).limit = state.limit := by
  unfold advance
  dsimp only
  split <;> rfl

theorem entrusted_advance {front : List UInt8} {rest : List (List UInt8)}
    (pending : state.pending = front :: rest) (wire : List UInt8) (count : Nat) :
    (state.advance wire front rest count).entrusted = state.entrusted ∧
      (state.advance wire front rest count).pending <:+ state.pending := by
  unfold advance entrusted
  dsimp only
  rw [pending]
  split
  next =>
    refine ⟨?_, List.suffix_cons _ _⟩
    simp only [List.length_cons]
    omega
  next => exact ⟨by simp, by simp⟩

theorem entrusted_progress (progress : Progress state final) :
    final.entrusted = state.entrusted ∧ final.pending <:+ state.pending ∧
      final.limit = state.limit ∧ final.discarded = state.discarded := by
  induction progress with
  | none => exact ⟨rfl, List.suffix_rfl, rfl, rfl⟩
  | @took state final wire front rest count up pending taken offered next ih =>
    obtain ⟨total, shorter⟩ := entrusted_advance pending wire count
    have lost : (state.advance wire front rest count).discarded = state.discarded := by
      unfold advance
      dsimp only
      split <;> rfl
    exact ⟨ih.1.trans total, ih.2.1.trans shorter, ih.2.2.1.trans (limit_advance ..),
      ih.2.2.2.trans lost⟩

theorem entrusted_reset (state : Framed) (now : Nanos) :
    (state.reset now).entrusted = state.entrusted := by
  simp only [entrusted, reset, discardPending, disconnect, List.length_nil]
  omega

structure Sound (state : Framed) : Prop where
  tallied : state.Tallied
  roomy : 0 < state.limit
  bounded : state.pending.length ≤ state.limit

theorem sound_progress (progress : Progress state final) (sound : state.Sound) : final.Sound := by
  obtain ⟨-, shorter, limit, -⟩ := entrusted_progress progress
  refine ⟨tallied_progress progress sound.tallied, limit ▸ sound.roomy, ?_⟩
  rw [limit]
  exact Nat.le_trans shorter.length_le sound.bounded

theorem sound_reset (sound : state.Sound) (now : Nanos) : (state.reset now).Sound :=
  ⟨tallied_reset sound.tallied now, sound.roomy, Nat.zero_le _⟩

theorem sound_opening (opening : state.Opening opened) (sound : state.Sound) :
    opened.Sound ∧ opened.wire.isSome ∧ opened.entrusted = state.entrusted ∧
      opened.pending = state.pending ∧ opened.limit = state.limit := by
  cases opening with
  | up up => exact ⟨sound, by simp [up], rfl, rfl, rfl⟩
  | opened down =>
    exact ⟨⟨tallied_opened down sound.tallied, sound.roomy, sound.bounded⟩, rfl, rfl, rfl, rfl⟩

theorem progress_of_flush {result : Except SystemFault Unit} {outcomes : List WriteOutcome}
    (wrote : state.flush outcomes = (result, final)) : Progress state final := by
  have progress := progress_flush state outcomes
  rwa [wrote] at progress

-- What the attempts that reach a connection have in common: it is opened if need be, and the messages
-- that wait are written first.
theorem sound_reached {result : Except SystemFault Unit} {outcomes : List WriteOutcome}
    (opening : state.Opening opened) (wrote : opened.flush outcomes = (result, flushed))
    (sound : state.Sound) :
    flushed.Sound ∧ flushed.wire.isSome ∧ flushed.entrusted = state.entrusted ∧
      flushed.pending <:+ state.pending ∧ flushed.limit = state.limit := by
  obtain ⟨begun, up, total, same, limit⟩ := sound_opening opening sound
  have progress := progress_of_flush wrote
  obtain ⟨total', shorter, limit', -⟩ := entrusted_progress progress
  have still := (closedWires_progress progress).2.trans up
  exact ⟨sound_progress progress begun, still, total'.trans total, same ▸ shorter,
    limit'.trans limit⟩

theorem sound_append (up : state.wire.isSome) (sound : state.Sound)
    (room : state.pending.length < state.limit) {record : Record}
    (small : record.size < sizeLimit) (conditions : SendConditions) :
    (state.append record conditions).Sound ∧
      (state.append record conditions).entrusted = state.entrusted + 1 ∧
      (state.append record conditions).limit = state.limit := by
  obtain ⟨wire, up⟩ := Option.isSome_iff_exists.mp up
  let added : Framed := { state with pending := state.pending ++ [frame record] }
  have longer : added.pending.length = state.pending.length + 1 := by simp [added]
  have within : added.Sound := by
    refine ⟨tallied_concat up sound.tallied small, sound.roomy, ?_⟩
    rw [longer]
    exact room
  have more : added.entrusted = state.entrusted + 1 := by
    unfold entrusted
    rw [longer]
    simp only [added]
    omega
  unfold append
  dsimp only
  -- Once it is in the buffer the message counts, even if the connection breaks.
  split
  next wrote =>
    have progress := progress_of_flush wrote
    obtain ⟨total, -, limit, -⟩ := entrusted_progress progress
    exact ⟨sound_progress progress within, total.trans more, limit⟩
  next wrote =>
    have progress := progress_of_flush wrote
    obtain ⟨total, -, limit, -⟩ := entrusted_progress progress
    exact ⟨sound_reset (sound_progress progress within) _,
      (entrusted_reset _ _).trans (total.trans more), limit⟩

theorem entrusted_attempt {record : Record} {conditions : SendConditions} {reply : Reply}
    (attempt : Attempt state record conditions reply final) (sound : state.Sound) :
    final.Sound ∧ final.limit = state.limit ∧
      final.entrusted = state.entrusted + (if reply = .accepted then 1 else 0) ∧
      (reply ≠ .accepted → final.pending <:+ state.pending) := by
  cases attempt with
  | unreached down cause retryAt =>
    have idle := (tallied_down down).mp sound.tallied
    have still : { state with retryAt }.wire = none := down
    exact ⟨⟨(tallied_down still).mpr idle, sound.roomy, sound.bounded⟩, rfl, rfl,
      fun _ => List.suffix_rfl⟩
  | broken opening wrote =>
    obtain ⟨kept, -, total, -, limit⟩ := sound_reached opening wrote sound
    exact ⟨sound_reset kept _, limit, (entrusted_reset _ _).trans total, fun _ => List.nil_suffix⟩
  | full opening wrote full =>
    obtain ⟨kept, -, total, shorter, limit⟩ := sound_reached opening wrote sound
    exact ⟨kept, limit, total, fun _ => shorter⟩
  | tooLarge opening wrote large =>
    obtain ⟨kept, -, total, shorter, limit⟩ := sound_reached opening wrote sound
    exact ⟨kept, limit, total, fun _ => shorter⟩
  | accepted opening wrote room small =>
    obtain ⟨kept, up, total, -, limit⟩ := sound_reached opening wrote sound
    obtain ⟨kept', more, limit'⟩ := sound_append up kept room small conditions
    refine ⟨kept', limit'.trans limit, ?_, fun refused => absurd rfl refused⟩
    rw [more, total, if_pos rfl]

theorem sound_takeDiscarded (sound : state.Sound) : state.takeDiscarded.2.Sound := by
  refine ⟨?_, sound.roomy, sound.bounded⟩
  have tallied := sound.tallied
  cases up : state.wire with
  | none =>
    have down : state.takeDiscarded.2.wire = none := up
    exact (tallied_down down).mpr ((tallied_down up).mp tallied)
  | some wire =>
    obtain ⟨whole, later, laid, written⟩ := (tallied_up up).mp tallied
    have still : state.takeDiscarded.2.wire = some wire := up
    exact (tallied_up still).mpr
      ⟨whole, later, ⟨laid.small, laid.pending, laid.octets, laid.begun⟩, written⟩

theorem sound_connected (limit : Nat) : (connected limit).Sound :=
  ⟨(tallied_up rfl).mpr ⟨[], [], ⟨nofun, rfl, rfl, .inl rfl⟩, rfl⟩,
    Nat.lt_of_lt_of_le Nat.one_pos (Nat.le_max_right _ _), Nat.zero_le _⟩

theorem idle_of_sound (sound : state.Sound) (down : state.wire = none) :
    state.pending = [] ∧ state.offset = 0 :=
  ⟨((tallied_down down).mp sound.tallied).1, ((tallied_down down).mp sound.tallied).2.1⟩

-- The buffer is full when an attempt has to be made again, and what could be written was.
theorem full_of_wouldBlock {record : Record} {conditions : SendConditions}
    (attempt : Attempt state record conditions (.refused .wouldBlock) final)
    (sound : state.Sound) :
    final.pending.length = state.limit ∧ state.flush conditions.earlier = (.ok (), final) := by
  obtain ⟨still, limit, -, -⟩ := entrusted_attempt attempt sound
  cases attempt with
  | full opening wrote full =>
    refine ⟨limit ▸ Nat.le_antisymm still.bounded full, ?_⟩
    cases opening with
    | up up => exact wrote
    | opened down =>
      -- A connection that was just opened has an empty buffer, and there is room for one message.
      have shorter := (entrusted_progress (progress_of_flush wrote)).2.1.length_le
      have empty := (idle_of_sound sound down).1
      simp only [empty, List.length_nil] at shorter
      have roomy := still.roomy
      omega

theorem linger_idle {state : Framed} (idle : state.pending = []) (outcomes : List WriteOutcome) :
    (state.linger outcomes).1 = .ok () := by
  cases outcomes with
  | nil => simp [linger, idle]
  | cons outcome outcomes =>
    unfold linger
    cases state.wire <;> simp only [idle]

-- Closing writes all that is pending, or reports all of it as lost, also what it has written.
theorem close_cases (sound : state.Sound) (outcomes : List WriteOutcome) :
    (state.close outcomes).Tallied ∧ (state.close outcomes).wire = none ∧
      ((state.close outcomes).written = state.written + state.pending.length ∧
          (state.close outcomes).discarded = state.discarded ∨
        (state.linger outcomes).1 ≠ .ok () ∧ state.written ≤ (state.close outcomes).written ∧
          (state.close outcomes).discarded = state.discarded + state.pending.length) := by
  unfold close
  cases up : state.wire with
  | none =>
    have idle := (idle_of_sound sound up).1
    exact ⟨sound.tallied, up, .inl ⟨by simp [idle], rfl⟩⟩
  | some wire =>
    have progress := linger_state state outcomes ▸ progress_flush state outcomes
    have tallied := tallied_progress progress sound.tallied
    have emptied := pending_linger up outcomes
    have still := (closedWires_progress progress).2
    obtain ⟨total, shorter, -, lost⟩ := entrusted_progress progress
    unfold entrusted at total
    dsimp only
    cases wrote : state.linger outcomes with
    | mk result final =>
      rw [wrote] at tallied emptied still total shorter lost
      dsimp only at tallied emptied still total shorter lost
      cases result with
      | error cause =>
        have fewer := shorter.length_le
        have more : state.written ≤ final.written := by omega
        exact ⟨tallied_closed tallied rfl rfl rfl rfl rfl, rfl, .inr ⟨nofun, more, rfl⟩⟩
      | ok =>
        have nothing : final.pending = [] := emptied rfl
        have fresh : final.offset = 0 := by
          obtain ⟨wire', up'⟩ := Option.isSome_iff_exists.mp (still.trans (up ▸ rfl))
          obtain ⟨whole, later, laid, -⟩ := (tallied_up up').mp tallied
          simpa [nothing] using laid.begun
        refine ⟨tallied_closed tallied rfl rfl nothing fresh rfl, rfl, .inl ⟨?_, lost⟩⟩
        simp only [nothing, List.length_nil] at total
        change final.written = _
        omega

end Framed

inductive SendingCall where
  | send (record : Record) (conditions : SendConditions)
  | takeDiscarded

structure Sending where
  state : Framed
  -- Attempts that were accepted.
  accepted : Nat
  -- Lost messages that it was asked for.
  taken : Nat

namespace Sending

def start (limit : Nat) : Sending :=
  ⟨.connected limit, 0, 0⟩

def act (run : Sending) : SendingCall → Sending
  | .send record conditions =>
    let (reply, state) := run.state.send record conditions
    { run with state, accepted := run.accepted + if reply = .accepted then 1 else 0 }
  | .takeDiscarded =>
    let (lost, state) := run.state.takeDiscarded
    { run with state, taken := run.taken + lost }

def follow (run : Sending) (calls : List SendingCall) : Sending :=
  calls.foldl act run

structure Balanced (limit : Nat) (run : Sending) : Prop where
  sound : run.state.Sound
  limit : run.state.limit = limit
  total : run.accepted = run.state.entrusted + run.taken

variable {limit : Nat} {run : Sending}

theorem balanced_act (balanced : run.Balanced limit) (call : SendingCall) :
    (run.act call).Balanced limit := by
  cases call with
  | send record conditions =>
    have attempt := Framed.attempt_send run.state record conditions
    obtain ⟨sound, same, total, -⟩ := Framed.entrusted_attempt attempt balanced.sound
    refine ⟨sound, same.trans balanced.limit, ?_⟩
    have before := balanced.total
    simp only [act]
    omega
  | takeDiscarded =>
    refine ⟨Framed.sound_takeDiscarded balanced.sound, balanced.limit, ?_⟩
    have before := balanced.total
    simp only [act, Framed.takeDiscarded, Framed.entrusted] at before ⊢
    omega

theorem balanced_follow (balanced : run.Balanced limit) (calls : List SendingCall) :
    (run.follow calls).Balanced limit := by
  induction calls generalizing run with
  | nil => exact balanced
  | cons call rest ih => exact ih (balanced_act balanced call)

theorem balanced_start (limit : Nat) : (start limit).Balanced (max limit 1) :=
  ⟨Framed.sound_connected limit, rfl, rfl⟩

/-- Whatever the sockets do, a reader gets an accepted message, or it is pending, or it was or will be
reported as lost. A refused attempt leaves no message behind, and an attempt has to be made again
only if the buffer is full. -/
theorem accepted_messages_accounted (limit : Nat) (calls : List SendingCall) :
    let run := (start limit).follow calls
    run.accepted = run.state.delivered + run.state.pending.length +
        (run.taken + run.state.discarded) ∧
      run.state.pending.length ≤ max limit 1 ∧
      (run.state.wire = none → run.state.pending = [] ∧ run.state.offset = 0) ∧
      ∀ record conditions reply next, run.state.send record conditions = (reply, next) →
        (reply = .refused .wouldBlock → next.pending.length = max limit 1 ∧
          run.state.flush conditions.earlier = (.ok (), next)) ∧
        (reply ≠ .accepted → next.pending <:+ run.state.pending ∧
          next.delivered + next.pending.length + next.discarded =
            run.state.delivered + run.state.pending.length + run.state.discarded) ∧
        (Framed.sizeLimit ≤ record.size → reply ≠ .accepted) := by
  intro run
  have balanced : run.Balanced (max limit 1) := balanced_follow (balanced_start limit) calls
  have sound := balanced.sound
  have written := Framed.delivered_of_tallied sound.tallied
  refine ⟨?_, ?_, Framed.idle_of_sound sound, ?_⟩
  next =>
    have total := balanced.total
    rw [written]
    unfold Framed.entrusted at total
    omega
  next => exact balanced.limit ▸ sound.bounded
  next =>
    intro record conditions reply next answer
    have attempt := Framed.attempt_send run.state record conditions
    rw [answer] at attempt
    obtain ⟨still, -, total, shorter⟩ := Framed.entrusted_attempt attempt sound
    refine ⟨?_, ?_, ?_⟩
    next =>
      rintro rfl
      exact balanced.limit ▸ Framed.full_of_wouldBlock attempt sound
    next =>
      intro refused
      rw [if_neg refused, Nat.add_zero] at total
      rw [written, Framed.delivered_of_tallied still.tallied]
      exact ⟨shorter refused, total⟩
    next =>
      rintro large rfl
      cases attempt with
      | accepted opening wrote room small => exact Nat.lt_irrefl _ (Nat.lt_of_lt_of_le small large)

end Sending

end FlowProbe
