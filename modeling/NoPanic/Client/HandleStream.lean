/-
# What a stream leaves behind

`handle_stream` bridges a SOCKS client to a destination. It registers a channel with the
circuit, and has about ten ways to end: most of them lead through `cleanup_stream`, which
unregisters the channel, and two return at once. Between any two awaits the reader of the
circuit, the monitor and other streams may run, so the calls are tasks around one circuit,
and a step is one lock scope or one await of one of them.

The channels of the circuit are those of the calls that are still being served, in every run
in which no call returns at once with its channel registered.
-/

import NoPanic.Client.SendFailure
import NoPanic.Client.Pool
import NoPanic.Circuit.StreamData

namespace NoPanic

open NoPanic.Math

/-! ## The body of a call -/

/-- The size of the buffer for what the SOCKS client sends. -/
def socks5ReadBufSize : Nat := 4096

/-- The seconds to wait for CONNECTED. -/
def connectedTimeout : Nat := 30

/-- What a read from the SOCKS client gives: at most a full buffer. -/
structure SocksRead where
  bytes : Bytes
  fits : bytes.length ≤ socks5ReadBufSize

/-- Where a call of `handle_stream` stands. -/
inductive HandleStreamPhase
  /-- The channel is registered, and BEGIN is to be sent. -/
  | registered
  | waiting
  /-- Something else than CONNECTED has come, and the SOCKS client is to be told. -/
  | refusing (command : MessageCommand)
  | replying
  | relaying
  | sending (chunk : Bytes) (rest : List Bytes)
  | writing (data : Bytes)
  /-- `cleanup_stream`: END is to be sent, -/
  | ending (result : Except String Unit)
  /-- the channel is to be unregistered, -/
  | unregistering (result : Except String Unit)
  /-- and the SOCKS stream is to be shut down. -/
  | shuttingDown (result : Except String Unit)
  | returned (result : Except String Unit)

/-- What an await gives. -/
inductive StreamOutcome
  | sent (result : Except TorError Message)
  | received (msg : Option Message)
  | timedOut
  | replied (result : Except String Unit)
  | read (result : Except String SocksRead)
  | wrote (result : Except String Unit)
  | unregistered
  | shutDown

/-- A call of `handle_stream`. -/
structure HandleStream where
  streamId : StreamId
  destination : String
  phase : HandleStreamPhase

namespace HandleStreamPhase

/-- The loop over the chunks of a read. -/
def sendChunks : List Bytes → HandleStreamPhase
  | [] => .relaying
  | chunk :: rest => .sending chunk rest

/-- Clean up, and return a result then. -/
def cleanupStream (result : Except String Unit) : HandleStreamPhase := .ending result

/-- The call has its channel registered, or is to unregister it. -/
def holds : HandleStreamPhase → Bool
  | .shuttingDown _ | .returned _ => false
  | _ => true

end HandleStreamPhase

namespace HandleStream

/-- The call has returned. -/
def returned (call : HandleStream) : Bool :=
  match call.phase with
  | .returned _ => true
  | _ => false

/-- The cell that a call sends next. -/
def cell? (call : HandleStream) : Option (MessageCommand × Bytes) :=
  match call.phase with
  | .registered => some (.begin, beginPayload call.destination)
  | .sending chunk _ => some (.data, chunk)
  | .ending _ => some (.end, [])
  | _ => none

/-- Where a call goes from an await. -/
def next (call : HandleStream) (outcome : StreamOutcome) : Option HandleStreamPhase :=
  match call.phase, outcome with
  | .registered, .sent (.ok _) => some .waiting
  | .registered, .sent (.error _) => some (.returned (.error "Failed to send BEGIN message"))
  | .waiting, .received (some msg) =>
      if msg.command != .connected then some (.refusing msg.command) else some .replying
  | .waiting, .received none =>
      some (.cleanupStream (.error
        s!"Circuit closed before CONNECTED received for stream {call.streamId}"))
  | .waiting, .timedOut =>
      some (.cleanupStream (.error
        s!"Timed out waiting for CONNECTED on stream {call.streamId} ({connectedTimeout}s)"))
  | .refusing command, .replied _ =>
      let name := command.displayName
      some (.cleanupStream (.error s!"Expected CONNECTED for stream {call.streamId}, got {name}"))
  | .replying, .replied (.ok ()) => some .relaying
  | .replying, .replied (.error _) =>
      some (.returned (.error "Failed to send SOCKS5 success reply"))
  | .relaying, .read (.ok data) =>
      if data.bytes.length = 0 then some (.cleanupStream (.ok ()))
      else some (.sendChunks (chunks (maxPayloadSize - 1) data.bytes.length data.bytes))
  | .relaying, .read (.error _) => some (.cleanupStream (.ok ()))
  | .relaying, .timedOut => some (.cleanupStream (.ok ()))
  | .relaying, .received (some msg) =>
      if msg.command = .data then some (.writing msg.data)
      else if msg.command = .end then some (.cleanupStream (.ok ()))
      else some .relaying
  | .relaying, .received none => some (.cleanupStream (.ok ()))
  | .sending _ rest, .sent (.ok _) => some (.sendChunks rest)
  | .sending _ _, .sent (.error _) => some (.cleanupStream (.ok ()))
  | .writing _, .wrote (.ok ()) => some .relaying
  | .writing _, .wrote (.error _) => some (.cleanupStream (.ok ()))
  | .ending result, .sent _ => some (.unregistering result)
  | .unregistering result, .unregistered => some (.shuttingDown result)
  | .shuttingDown result, .shutDown => some (.returned result)
  | _, _ => none

/-- The two ways to return without cleanup: BEGIN is not sent, or the success reply is not
written. -/
def ReturnsAtOnce (call : HandleStream) : StreamOutcome → Prop
  | .sent (.error _) => call.phase = .registered
  | .replied (.error _) => call.phase = .replying
  | _ => False

theorem holds_sendChunks (chunks : List Bytes) :
    (HandleStreamPhase.sendChunks chunks).holds = true := by
  cases chunks <;> rfl

/-- A call keeps its channel until it unregisters it, or returns at once. -/
theorem next_cases {call : HandleStream} {outcome : StreamOutcome} {phase : HandleStreamPhase}
    (h : call.next outcome = some phase) :
    phase.holds = true ∨ outcome = .unregistered ∨ call.phase.holds = false ∨
      call.ReturnsAtOnce outcome := by
  -- one case for every arm of the body
  unfold next at h
  split at h <;> grind [HandleStreamPhase.holds, ReturnsAtOnce, holds_sendChunks,
    HandleStreamPhase.cleanupStream]

/-- Where it returns at once, it returns. -/
theorem next_of_returnsAtOnce {call : HandleStream} {outcome : StreamOutcome}
    {phase : HandleStreamPhase} (h : call.next outcome = some phase)
    (hreturns : call.ReturnsAtOnce outcome) : ∃ result, phase = .returned result := by
  cases outcome with
  | sent result =>
      cases result with
      | ok msg => cases hreturns
      | error e =>
          have hphase : call.phase = .registered := hreturns
          simp only [next, hphase] at h
          exact ⟨_, (Option.some.inj h).symm⟩
  | replied result =>
      cases result with
      | ok written => cases hreturns
      | error text =>
          have hphase : call.phase = .replying := hreturns
          simp only [next, hphase] at h
          exact ⟨_, (Option.some.inj h).symm⟩
  | _ => cases hreturns

end HandleStream

/-! ## The calls on a circuit -/

/-- A circuit with the calls that bridge streams over it, in the order they began, and the
call whose channel is registered under an id. -/
structure CircuitStreams where
  task : CircuitTask
  calls : List HandleStream
  owner : StreamId → Option Nat

/-- What happens around a circuit: the reader or the monitor acts, a call begins, sends a
cell, unregisters its channel, or goes on from another await. -/
inductive StreamsEvent
  | circuit (e : CircuitEvent)
  | opens (destination : String)
  | sends (h : Nat) (entryWriter : Except String Unit)
  | unregisters (h : Nat)
  | proceeds (h : Nat) (outcome : StreamOutcome)

/-- An await that does not concern the circuit. -/
def StreamOutcome.isLocal : StreamOutcome → Bool
  | .sent _ | .unregistered => false
  | _ => true

namespace CircuitStreams

/-- A circuit without calls. -/
def start (circuit : Circuit) : CircuitStreams := ⟨CircuitTask.spawn circuit, [], fun _ => none⟩

/-- The number of open streams. -/
def activeStreamCount (s : CircuitStreams) : Nat := s.task.circuit.activeStreamCount

/-- An id has a channel. -/
def Registered (s : CircuitStreams) (streamId : StreamId) : Prop :=
  (s.task.circuit.streamSenders.lookup streamId).isSome = true

/-- A call has got to another place. -/
def setPhase (s : CircuitStreams) (h : Nat) (call : HandleStream) (phase : HandleStreamPhase) :
    CircuitStreams :=
  { s with calls := s.calls.set h { call with phase } }

/-- The lock scope a call begins with: it takes an id and registers its channel. -/
def beginCall (s : CircuitStreams) (destination : String) : CircuitStreams :=
  let streamId := s.task.circuit.nextStreamId
  { task := s.task.openStream
    calls := s.calls ++ [⟨streamId, destination, .registered⟩]
    owner := Function.update s.owner streamId (some s.calls.length) }

/-- A call sends a cell. -/
def sendCell [Primitives] (s : CircuitStreams) (call : HandleStream) (command : MessageCommand)
    (data : Bytes) (entryWriter : Except String Unit) : CircuitStreams :=
  { s with
    task := { s.task with
      circuit := (s.task.circuit.sendMessage call.streamId command data entryWriter).1 } }

/-- A call unregisters its channel. -/
def unregister (s : CircuitStreams) (streamId : StreamId) : CircuitStreams :=
  { s with
    task := { s.task with
      circuit := s.task.circuit.unregisterStream streamId
      demux := s.task.demux.drop fun k => k == streamId }
    owner := Function.update s.owner streamId none }

/-- The circuit after a step of its reader or of the monitor. Ids without a channel belong to
nobody. -/
def setTask (s : CircuitStreams) (t : CircuitTask) : CircuitStreams :=
  { s with
    task := t
    owner := fun streamId =>
      if (t.circuit.streamSenders.lookup streamId).isSome then s.owner streamId else none }

section

variable [Primitives]

/-- One step. What a call receives is any message, or the end of its channel. -/
inductive Step : CircuitStreams → StreamsEvent → CircuitStreams → Prop
  | circuit {s : CircuitStreams} {e : CircuitEvent} {t : CircuitTask}
      (hevent : e.ofReader ∨ e = .expires) (hstep : s.task.Step e t) :
      Step s (.circuit e) (s.setTask t)
  | opens (s : CircuitStreams) (destination : String) :
      Step s (.opens destination) (s.beginCall destination)
  | sends {s : CircuitStreams} {h : Nat} {call : HandleStream} {command : MessageCommand}
      {data : Bytes} {phase : HandleStreamPhase} (entryWriter : Except String Unit)
      (hcall : s.calls[h]? = some call) (hcell : call.cell? = some (command, data))
      (hnext : call.next (.sent (s.task.circuit.sendMessage call.streamId command data
        entryWriter).2) = some phase) :
      Step s (.sends h entryWriter)
        ((s.sendCell call command data entryWriter).setPhase h call phase)
  | unregisters {s : CircuitStreams} {h : Nat} {call : HandleStream} {phase : HandleStreamPhase}
      (hcall : s.calls[h]? = some call) (hnext : call.next .unregistered = some phase) :
      Step s (.unregisters h) ((s.unregister call.streamId).setPhase h call phase)
  | proceeds {s : CircuitStreams} {h : Nat} {call : HandleStream} {outcome : StreamOutcome}
      {phase : HandleStreamPhase} (hcall : s.calls[h]? = some call)
      (hlocal : outcome.isLocal = true) (hnext : call.next outcome = some phase) :
      Step s (.proceeds h outcome) (s.setPhase h call phase)

/-- The runs of a circuit with its calls, from when it is built. -/
def system : TransitionSystem CircuitStreams StreamsEvent where
  init s := ∃ circuit, circuit.streamSenders = ∅ ∧ s = start circuit
  step := Step

/-- Every step is made of steps of the tasks around the circuit. -/
theorem Step.task_run {s s' : CircuitStreams} {e : StreamsEvent} (hstep : Step s e s')
    (circuit : Circuit) : ∃ es, (CircuitTask.system circuit).Run s.task es s'.task := by
  cases hstep with
  | @circuit e t hevent hstep => exact ⟨[e], (TransitionSystem.Run.nil _).snoc hstep⟩
  | opens destination =>
      have hallocated : (CircuitTask.system circuit).Run s.task _ _ :=
        (TransitionSystem.Run.nil s.task).snoc (CircuitTask.Step.allocates s.task)
      exact ⟨_, hallocated.snoc (CircuitTask.Step.registers _ s.task.circuit.nextStreamId)⟩
  | @sends h call command data phase entryWriter hcall hcell hnext =>
      exact ⟨_, (TransitionSystem.Run.nil _).snoc
        (CircuitTask.Step.sends s.task call.streamId command data entryWriter)⟩
  | @unregisters h call phase hcall hnext =>
      exact ⟨_, (TransitionSystem.Run.nil _).snoc
        (CircuitTask.Step.unregisters s.task call.streamId)⟩
  | proceeds hcall hlocal hnext => exact ⟨[], TransitionSystem.Run.nil _⟩

end

/-! ## What a channel belongs to -/

/-- No call returns at once while its channel is registered: BEGIN fits a cell and is
written, and so is the success reply. -/
def Orderly (s : CircuitStreams) : StreamsEvent → Prop
  | .sends h entryWriter => ∀ call, s.calls[h]? = some call → call.phase = .registered →
      s.owner call.streamId = some h →
        (beginPayload call.destination).length ≤ maxPayloadSize ∧ entryWriter = .ok ()
  | .proceeds h (.replied result) => ∀ call, s.calls[h]? = some call → call.phase = .replying →
      s.owner call.streamId = some h → result = .ok ()
  | _ => True

/-- The channels of a circuit are those of the calls that are being served. -/
structure Released (s : CircuitStreams) : Prop where
  /-- When a call has returned its channel is gone: if its id has a channel, that is the
  channel of another call with this id, which has not returned. -/
  released : ∀ (h : Nat) (call : HandleStream), s.calls[h]? = some call → call.returned = true →
    s.Registered call.streamId → ∃ (h' : Nat) (other : HandleStream), h' ≠ h ∧
      s.owner call.streamId = some h' ∧ s.calls[h']? = some other ∧
        other.streamId = call.streamId ∧ other.returned = false
  /-- Only streams that are being served are counted. -/
  counted : s.activeStreamCount ≤ s.calls.countP fun call => !call.returned
  /-- An idle circuit counts no streams, so the monitor cleans it up when it is dirty. -/
  idle : (∀ call ∈ s.calls, call.returned = true) → s.activeStreamCount = 0

/-- Every channel belongs to a call that holds it. -/
structure Owned (s : CircuitStreams) : Prop where
  registered_iff : ∀ streamId, s.Registered streamId ↔ (s.owner streamId).isSome = true
  holder : ∀ streamId h, s.owner streamId = some h →
    ∃ call, s.calls[h]? = some call ∧ call.streamId = streamId ∧ call.phase.holds = true

theorem returned_eq_false_of_holds {call : HandleStream} (h : call.phase.holds = true) :
    call.returned = false := by
  obtain ⟨streamId, destination, phase⟩ := call
  cases phase <;> first | rfl | cases h

section

variable {s s' : CircuitStreams}

/-- Channels that belong to calls that hold them are those of the calls being served. -/
theorem Owned.released (hown : s.Owned) : s.Released := by
  have hserved : ∀ streamId, s.Registered streamId → ∃ (h : Nat) (call : HandleStream),
      s.owner streamId = some h ∧ s.calls[h]? = some call ∧ call.streamId = streamId ∧
        call.returned = false := by
    intro streamId hregistered
    obtain ⟨h, hh⟩ := Option.isSome_iff_exists.mp ((hown.registered_iff streamId).mp hregistered)
    obtain ⟨call, hcall, hid, hholds⟩ := hown.holder streamId h hh
    exact ⟨h, call, hh, hcall, hid, returned_eq_false_of_holds hholds⟩
  have hcounted : s.activeStreamCount ≤ s.calls.countP fun call => !call.returned := by
    -- the ids that are registered are among the ids of the calls that are being served
    have hsub : s.task.circuit.streamSenders.keys ⊆
        (s.calls.filter fun call => !call.returned).map HandleStream.streamId := by
      intro streamId hmem
      have hregistered : s.Registered streamId := AList.lookup_isSome.mpr hmem
      obtain ⟨h, call, -, hcall, rfl, hserving⟩ := hserved streamId hregistered
      refine List.mem_map_of_mem (List.mem_filter.mpr ⟨List.mem_of_getElem? hcall, ?_⟩)
      rw [hserving]
      rfl
    have hle := (List.subperm_of_subset s.task.circuit.streamSenders.keys_nodup hsub).length_le
    rwa [List.length_map, ← List.countP_eq_length_filter] at hle
  refine ⟨?_, hcounted, ?_⟩
  · intro h call hcall hreturned hregistered
    obtain ⟨h', other, howner, hother, hid, hserving⟩ := hserved _ hregistered
    refine ⟨h', other, ?_, howner, hother, hid, hserving⟩
    rintro rfl
    rw [hcall] at hother
    rw [Option.some.inj hother, hserving] at hreturned
    cases hreturned
  · intro hall
    have hnone : (s.calls.countP fun call => !call.returned) = 0 := by
      rw [List.countP_eq_zero]
      intro call hmem
      rw [hall call hmem]
      exact Bool.false_ne_true
    omega

/-- A call that has returned while its channel is registered is not released. -/
theorem not_released {h : Nat} {call : HandleStream} (hown : s.Registered call.streamId)
    (howner : s.owner call.streamId = some h) (hcall : s.calls[h]? = some call)
    (hreturned : call.returned = true) : ¬ s.Released := by
  intro hreleased
  obtain ⟨h', other, hne, howner', -⟩ := hreleased.released h call hcall hreturned hown
  exact hne (Option.some.inj (howner'.symm.trans howner))

/-- A call goes on and still holds its channel, if it has one. -/
theorem Owned.setPhase (hown : s.Owned) {h : Nat} {call : HandleStream}
    {phase : HandleStreamPhase} (hcall : s.calls[h]? = some call)
    (hholds : s.owner call.streamId = some h → phase.holds = true) :
    (s.setPhase h call phase).Owned := by
  refine ⟨hown.registered_iff, ?_⟩
  intro streamId k hk
  obtain ⟨other, hother, hid, hother_holds⟩ := hown.holder streamId k hk
  by_cases hsame : h = k
  · subst hsame
    rw [hcall] at hother
    obtain rfl := Option.some.inj hother
    subst hid
    refine ⟨{ call with phase }, ?_, rfl, hholds hk⟩
    exact List.getElem?_set_self (List.getElem?_eq_some_iff.mp hcall).1
  · refine ⟨other, ?_, hid, hother_holds⟩
    rw [CircuitStreams.setPhase, List.getElem?_set_ne hsame, hother]

end

section

variable [Primitives] {s s' : CircuitStreams}

/-- The reader and the monitor register no channels. -/
theorem registered_of_step {t t' : CircuitTask} {e : CircuitEvent}
    (hevent : e.ofReader ∨ e = .expires) (hstep : t.Step e t') {streamId : StreamId}
    (h : (t'.circuit.streamSenders.lookup streamId).isSome = true) :
    (t.circuit.streamSenders.lookup streamId).isSome = true := by
  cases hstep with
  | allocates => simp [CircuitEvent.ofReader] at hevent
  | registers id => simp [CircuitEvent.ofReader] at hevent
  | unregisters id => simp [CircuitEvent.ofReader] at hevent
  | sends id command data entryWriter => simp [CircuitEvent.ofReader] at hevent
  | expires =>
      unfold CircuitTask.expire at h
      split at h
      · exact h
      · exact h
  | receives msg hreading =>
      cases haccept : t.circuit.onionKeys.backwardEnd.accept? msg with
      | none =>
          rcases (CircuitTask.receive_of_not_accept haccept).2.2 with ⟨-, hsenders⟩ | ⟨-, hsenders⟩
          · rwa [hsenders] at h
          · rw [hsenders] at h
            cases h
      | some accepted =>
          obtain ⟨next, decrypted⟩ := accepted
          have hsenders := (CircuitTask.receive_of_accept haccept).2.2.2.2
          rw [hsenders] at h
          cases hqueued : t.circuit.streamSenders.lookup decrypted.streamId with
          | none => simpa only [hqueued] using h
          | some queued =>
              simp only [hqueued, HashMap.lookup_insert_eq] at h
              split at h
              · next hsame =>
                  rw [hsame, hqueued]
                  rfl
              · exact h
  | ends hreading => exact h
  | finishes hstopping => cases h

end

/-! ## Steps -/

section

variable {s : CircuitStreams}

/-- A circuit whose channels are dropped, or stay. -/
theorem Owned.setTask (hown : s.Owned) {t : CircuitTask}
    (hfewer : ∀ streamId, (t.circuit.streamSenders.lookup streamId).isSome = true →
      s.Registered streamId) : (s.setTask t).Owned := by
  constructor
  · intro streamId
    by_cases hregistered : (t.circuit.streamSenders.lookup streamId).isSome = true
    · have howner := (hown.registered_iff streamId).mp (hfewer streamId hregistered)
      simp only [Registered, CircuitStreams.setTask, hregistered, if_true, howner]
    · simp [Registered, CircuitStreams.setTask, hregistered]
  · intro streamId h hh
    simp only [CircuitStreams.setTask] at hh
    split at hh
    · exact hown.holder streamId h hh
    · cases hh

/-- A call that begins holds the channel it registers. -/
theorem Owned.beginCall (hown : s.Owned) (destination : String) :
    (s.beginCall destination).Owned := by
  constructor
  · intro streamId
    have hregistered := hown.registered_iff streamId
    simp only [Registered, CircuitStreams.beginCall, CircuitTask.openStream, Circuit.openStream,
      Circuit.registerStream, Circuit.allocateStreamId, HashMap.lookup_insert_eq,
      Function.update_apply] at hregistered ⊢
    split
    · simp
    · exact hregistered
  · intro streamId h hh
    simp only [CircuitStreams.beginCall, Function.update_apply] at hh ⊢
    split at hh
    · next hsame =>
        obtain rfl := Option.some.inj hh
        exact ⟨_, List.getElem?_concat_length, hsame.symm, rfl⟩
    · obtain ⟨call, hcall, hid, hholds⟩ := hown.holder streamId h hh
      have hlt := (List.getElem?_eq_some_iff.mp hcall).1
      exact ⟨call, by rw [List.getElem?_append_left hlt, hcall], hid, hholds⟩

/-- A channel that is unregistered belongs to nobody. -/
theorem Owned.unregister (hown : s.Owned) (streamId : StreamId) :
    (s.unregister streamId).Owned := by
  constructor
  · intro id
    have hregistered := hown.registered_iff id
    simp only [Registered, CircuitStreams.unregister, Circuit.unregisterStream,
      HashMap.lookup_erase_eq, Function.update_apply] at hregistered ⊢
    split
    · simp
    · exact hregistered
  · intro id h hh
    simp only [CircuitStreams.unregister, Function.update_apply] at hh ⊢
    split at hh
    · cases hh
    · exact hown.holder id h hh

/-- A circuit without calls has no channels. -/
theorem owned_start {circuit : Circuit} (hempty : circuit.streamSenders = ∅) :
    (start circuit).Owned := by
  constructor
  · intro streamId
    simp [Registered, start, CircuitTask.spawn, hempty]
  · intro streamId h hh
    cases hh

/-- A call that owns its channel goes on with it, unless it unregisters it or returns at
once. -/
theorem Owned.holds_next (hown : s.Owned) {h : Nat} {call : HandleStream}
    {outcome : StreamOutcome} {phase : HandleStreamPhase} (hcall : s.calls[h]? = some call)
    (howner : s.owner call.streamId = some h) (hnext : call.next outcome = some phase)
    (hkeeps : outcome ≠ .unregistered) (hstays : ¬ call.ReturnsAtOnce outcome) :
    phase.holds = true := by
  obtain ⟨other, hother, -, hholds⟩ := hown.holder _ _ howner
  rw [hcall] at hother
  obtain rfl := Option.some.inj hother
  rcases HandleStream.next_cases hnext with h | h | h | h
  · exact h
  · exact absurd h hkeeps
  · rw [h] at hholds
    cases hholds
  · exact absurd h hstays

/-- A call that returns at once while its channel is registered leaves it behind. -/
theorem not_released_of_returnsAtOnce {h : Nat} {call : HandleStream} {outcome : StreamOutcome}
    {phase : HandleStreamPhase} (hown : s.Owned) (hcall : s.calls[h]? = some call)
    (howner : s.owner call.streamId = some h) (hnext : call.next outcome = some phase)
    (hreturns : call.ReturnsAtOnce outcome) : ¬ (s.setPhase h call phase).Released := by
  have hregistered : s.Registered call.streamId := by
    rw [hown.registered_iff, howner]
    rfl
  obtain ⟨result, rfl⟩ := HandleStream.next_of_returnsAtOnce hnext hreturns
  have hlt := (List.getElem?_eq_some_iff.mp hcall).1
  let returned : HandleStream := { call with phase := .returned result }
  have hreturned : (s.setPhase h call (.returned result)).calls[h]? = some returned :=
    List.getElem?_set_self hlt
  have hregistered' : (s.setPhase h call (.returned result)).Registered returned.streamId :=
    hregistered
  exact not_released hregistered' howner hreturned rfl

end

section

variable [Primitives] {s s' : CircuitStreams}

/-- Sending a cell leaves the channels alone. -/
theorem Owned.sendCell (hown : s.Owned) (call : HandleStream) (command : MessageCommand)
    (data : Bytes) (entryWriter : Except String Unit) :
    (s.sendCell call command data entryWriter).Owned := by
  have hsenders := (CircuitTask.sendMessage_frame s.task.circuit call.streamId command data
    entryWriter).1
  refine ⟨fun streamId => ?_, hown.holder⟩
  rw [← show s.Registered streamId ↔ (s.sendCell call command data entryWriter).Registered
    streamId by simp only [Registered, CircuitStreams.sendCell, hsenders]]
  exact hown.registered_iff streamId

/-- BEGIN is sent exactly when it fits a cell and is written. -/
theorem returnsAtOnce_sent_iff {call : HandleStream} {command : MessageCommand} {data : Bytes}
    (entryWriter : Except String Unit) (c : Circuit)
    (hcell : call.cell? = some (command, data)) :
    call.ReturnsAtOnce (.sent (c.sendMessage call.streamId command data entryWriter).2) ↔
      call.phase = .registered ∧
        ¬ ((beginPayload call.destination).length ≤ maxPayloadSize ∧ entryWriter = .ok ()) := by
  have hsent : (∃ msg, (c.sendMessage call.streamId command data entryWriter).2 = .ok msg) ↔ _ :=
    c.sendMessage_ok_iff call.streamId command entryWriter
  have hpayload : call.phase = .registered → data = beginPayload call.destination := by
    intro hphase
    rw [HandleStream.cell?, hphase] at hcell
    exact (Prod.mk.inj (Option.some.inj hcell)).2.symm
  cases hresult : (c.sendMessage call.streamId command data entryWriter).2 with
  | ok msg =>
      have hboth := hsent.mp ⟨msg, hresult⟩
      apply iff_of_false id
      rintro ⟨hphase, hnot⟩
      exact hnot (hpayload hphase ▸ hboth)
  | error e =>
      refine ⟨fun hphase => ⟨hphase, fun hboth => ?_⟩, And.left⟩
      rw [← hpayload hphase, ← hsent, hresult] at hboth
      obtain ⟨msg, hmsg⟩ := hboth
      cases hmsg

/-- An orderly step keeps every channel with a call that holds it. -/
theorem Owned.step {e : StreamsEvent} (hown : s.Owned) (horderly : s.Orderly e)
    (hstep : Step s e s') : s'.Owned := by
  cases hstep with
  | circuit hevent hstep => exact hown.setTask fun _ => registered_of_step hevent hstep
  | opens destination => exact hown.beginCall destination
  | @sends h call command data phase entryWriter hcall hcell hnext =>
      apply (hown.sendCell call command data entryWriter).setPhase hcall
      intro howner
      apply hown.holds_next hcall howner hnext StreamOutcome.noConfusion
      rw [returnsAtOnce_sent_iff _ s.task.circuit hcell]
      rintro ⟨hphase, hnot⟩
      exact hnot (horderly call hcall hphase howner)
  | @unregisters h call phase hcall hnext =>
      apply (hown.unregister call.streamId).setPhase hcall
      intro howner
      simp [CircuitStreams.unregister] at howner
  | @proceeds h call outcome phase hcall hlocal hnext =>
      apply hown.setPhase hcall
      intro howner
      apply hown.holds_next hcall howner hnext
      · rintro rfl
        cases hlocal
      · intro hreturns
        cases outcome with
        | replied result =>
            cases result with
            | ok written => exact hreturns
            | error text => cases horderly call hcall hreturns howner
        | sent result => cases hlocal
        | _ => exact hreturns

/-- A step that is not orderly leaves a channel behind. -/
theorem not_released_of_not_orderly {e : StreamsEvent} (hown : s.Owned) (hstep : Step s e s')
    (hnot : ¬ s.Orderly e) : ¬ s'.Released := by
  cases hstep with
  | circuit hevent hstep => exact absurd trivial hnot
  | opens destination => exact absurd trivial hnot
  | @sends h call command data phase entryWriter hcall hcell hnext =>
      simp only [Orderly, not_forall] at hnot
      obtain ⟨other, hother, hphase, howner, hfails⟩ := hnot
      rw [hcall] at hother
      obtain rfl := Option.some.inj hother
      have hreturns := (returnsAtOnce_sent_iff entryWriter s.task.circuit hcell).mpr
        ⟨hphase, hfails⟩
      exact not_released_of_returnsAtOnce (hown.sendCell call command data entryWriter) hcall
        howner hnext hreturns
  | unregisters hcall hnext => exact absurd trivial hnot
  | @proceeds h call outcome phase hcall hlocal hnext =>
      cases outcome with
      | replied result =>
          simp only [Orderly, not_forall] at hnot
          obtain ⟨other, hother, hphase, howner, hfails⟩ := hnot
          rw [hcall] at hother
          obtain rfl := Option.some.inj hother
          cases result with
          | ok written => exact absurd rfl hfails
          | error text => exact not_released_of_returnsAtOnce hown hcall howner hnext hphase
      | _ => exact absurd trivial hnot

/-- In every run of orderly steps the channels are those of the calls that are being served;
and the first step that is not orderly leaves a channel behind. -/
theorem released_of_orderly (hreach : (system.restrict Orderly).Reachable s) :
    s.Released ∧ ∀ e s', Step s e s' → (s'.Released ↔ s.Orderly e) := by
  have hown : s.Owned := by
    refine TransitionSystem.Reachable.invariant Owned ?_ ?_ hreach
    · rintro s ⟨circuit, hempty, rfl⟩
      exact owned_start hempty
    · intro s e t hs hstep
      exact hs.step hstep.1 hstep.2
  refine ⟨hown.released, fun e s' hstep => ⟨fun hreleased => ?_, fun horderly => ?_⟩⟩
  · by_contra hnot
    exact not_released_of_not_orderly hown hstep hnot hreleased
  · exact (hown.step horderly hstep).released

end

/-! ## BEGIN is not written -/

section

open Reference

/-- A circuit that has just been built. -/
def sampleBuilt : Circuit := Circuit.built 1 (OnionKeys.new [] [])

/-- A circuit on which one call has begun. -/
def sampleBegun : CircuitStreams := (start sampleBuilt).beginCall "example.org:80"

/-- Its channel is that of the call. -/
theorem released_of_orderly_begun :
    sampleBegun.Released ∧
      ∀ e s', Step sampleBegun e s' → (s'.Released ↔ sampleBegun.Orderly e) := by
  have hstart : (system.restrict Orderly).Reachable (start sampleBuilt) :=
    TransitionSystem.reachable_of_init ⟨sampleBuilt, rfl, rfl⟩
  have hbegun : (system.restrict Orderly).step (start sampleBuilt) (.opens "example.org:80")
      sampleBegun := ⟨trivial, Step.opens _ _⟩
  exact released_of_orderly (hstart.next hbegun)

/-- It is not so that every call that has returned has left no channel behind: the entry relay
hangs up before BEGIN. -/
theorem not_released_brokenPipe : ¬ ∀ s : CircuitStreams, system.Reachable s → s.Released := by
  intro hclaim
  have hown : sampleBegun.Owned := (owned_start rfl).beginCall _
  have hstart : system.Reachable (start sampleBuilt) :=
    TransitionSystem.reachable_of_init ⟨sampleBuilt, rfl, rfl⟩
  have hreach : system.Reachable sampleBegun :=
    hstart.next (Step.opens (start sampleBuilt) "example.org:80")
  let call : HandleStream := ⟨1, "example.org:80", .registered⟩
  let result := (sampleBegun.task.circuit.sendMessage 1 .begin (beginPayload "example.org:80")
    (.error "broken pipe")).2
  have hfails : ∃ e, result = .error e := by
    cases hresult : result with
    | error e => exact ⟨e, rfl⟩
    | ok msg => cases ((Circuit.sendMessage_ok_iff _ _ _ _).mp ⟨msg, hresult⟩).2
  have hnext : call.next (.sent result) =
      some (.returned (.error "Failed to send BEGIN message")) := by
    obtain ⟨e, he⟩ := hfails
    rw [he]
    rfl
  have hcall : sampleBegun.calls[0]? = some call := rfl
  have hstep := Step.sends (.error "broken pipe") hcall rfl hnext
  have hnot : ¬ sampleBegun.Orderly (.sends 0 (.error "broken pipe")) := by
    intro horderly
    cases (horderly call rfl rfl rfl).2
  exact not_released_of_not_orderly hown hstep hnot (hclaim _ (hreach.next hstep))

end

end CircuitStreams

end NoPanic
