/-
# The reader of a circuit

The background task that reads what the entry relay sends, removes the layers and
hands every cell to its stream. Meanwhile streams are registered and unregistered,
cells are sent, and the pool may expire the circuit. Each step here is one scope of
the circuit's lock: when the digest of a cell does not match, the circuit is closed
in one scope and its channels are dropped in a later one, and other tasks may run in
between.

The history of the channels is a `Demux`; the decrypted cells are a function of the
cells that came in and of nothing else.
-/

import NoPanic.Client.Streams
import NoPanic.Common.Reference
import NoPanic.Math.Demux
import NoPanic.Math.TransitionSystem

namespace NoPanic

open NoPanic.Math

/-- Where the reader of a circuit stands. -/
inductive ReaderPhase
  | reading
  /-- It has left its loop, and is to drop all channels. -/
  | stopping
  | stopped
  deriving DecidableEq, Repr

/-- A circuit with its reader, and the history of its channels. -/
structure CircuitTask where
  circuit : Circuit
  reader : ReaderPhase
  demux : Demux StreamId Message

/-- What the tasks around a circuit do. -/
inductive CircuitEvent
  | allocates
  | registers (streamId : StreamId)
  | unregisters (streamId : StreamId)
  | sends (streamId : StreamId) (command : MessageCommand) (data : Bytes)
      (entryWriter : Except String Unit)
  | expires
  | receives (msg : Message)
  | ends
  | finishes

/-- The cell that the reader takes from the entry relay. -/
def CircuitEvent.received? : CircuitEvent → Option Message
  | .receives msg => some msg
  | _ => none

section

variable [Primitives]

/-- The decrypted form of a cell, if the reader accepts it: it is no DESTROY, and its
digest matches. -/
def OnionEnd.accept? (s : OnionEnd) (msg : Message) : Option (OnionEnd × Message) :=
  if msg.command = .destroy then none
  else
    match s.decode msg with
    | (s, some cell) =>
        some (s, Message.new msg.circuitId cell.streamId cell.command cell.data)
    | (_, none) => none

/-- What the exit has sealed under the same layers is accepted. -/
theorem OnionEnd.accept?_encode (circuitId : CircuitId) (s : OnionEnd) {cell : RelayCell}
    (hcell : cell.command ≠ .destroy) :
    s.accept? (OnionEnd.encode circuitId s cell).2 = some ((OnionEnd.encode circuitId s cell).1,
      Message.new circuitId cell.streamId cell.command cell.data) := by
  have hcommand : (OnionEnd.encode circuitId s cell).2.command ≠ .destroy := hcell
  rw [accept?, if_neg hcommand, decode_encode]
  rfl

/-- The decrypted forms of a sequence of cells, up to the first that is not accepted. -/
def OnionEnd.acceptAll (s : OnionEnd) : List Message → Option OnionEnd × List Message
  | [] => (some s, [])
  | msg :: msgs =>
      match s.accept? msg with
      | none => (none, [])
      | some (s, decrypted) =>
          let (s, others) := s.acceptAll msgs
          (s, decrypted :: others)

/-- One more cell after some that were all accepted. -/
theorem OnionEnd.acceptAll_snoc {s s' : OnionEnd} {msgs decrypted : List Message}
    (h : s.acceptAll msgs = (some s', decrypted)) (msg : Message) :
    s.acceptAll (msgs ++ [msg]) =
      match s'.accept? msg with
      | none => (none, decrypted)
      | some (next, last) => (some next, decrypted ++ [last]) := by
  induction msgs generalizing s decrypted with
  | nil =>
      cases h
      simp only [List.nil_append, acceptAll]
  | cons first msgs ih =>
      simp only [acceptAll, List.cons_append] at h ⊢
      cases hfirst : s.accept? first with
      | none =>
          rw [hfirst] at h
          cases h
      | some out =>
          simp only [hfirst] at h ⊢
          cases hrest : out.1.acceptAll msgs with
          | mk last others =>
              rw [hrest] at h
              cases h
              rw [ih hrest]
              cases s'.accept? msg with
              | none => rfl
              | some next => rfl

namespace CircuitTask

/-- The task of a circuit that has just been built. -/
def spawn (circuit : Circuit) : CircuitTask := ⟨circuit, .reading, Demux.empty⟩

/-- One round of the reader. -/
def receive (t : CircuitTask) (msg : Message) : CircuitTask :=
  if msg.command = .destroy then
    ⟨t.circuit.close, .stopping, t.demux.drop fun _ => true⟩
  else
    let (onionKeys, decryptedData) := t.circuit.onionKeys.onionDecrypt msg.data
    let (backwardDigest, valid) :=
      onionKeys.backwardDigest.verify msg.streamId msg.command.toU8 decryptedData msg.digest
    let c := { t.circuit with onionKeys := { onionKeys with backwardDigest } }
    if !valid then ⟨{ c with state := .closed }, .stopping, t.demux⟩
    else
      let decryptedMsg := Message.new msg.circuitId msg.streamId msg.command decryptedData
      let demux := t.demux.deliver msg.streamId decryptedMsg
      match c.streamSenders.lookup msg.streamId with
      | none => ⟨c, t.reader, demux⟩
      | some queued =>
          ⟨c.registerStream msg.streamId (queued ++ [decryptedMsg]), t.reader, demux⟩

/-- The stream ends or fails. -/
def endStream (t : CircuitTask) : CircuitTask :=
  { t with circuit := { t.circuit with state := .closed }, reader := .stopping }

/-- The last scope of the reader: close the circuit and drop all channels. -/
def finish (t : CircuitTask) : CircuitTask :=
  ⟨t.circuit.close, .stopped, t.demux.drop fun _ => true⟩

/-- A circuit that has become too old takes no more streams. -/
def expire (t : CircuitTask) : CircuitTask :=
  if t.circuit.state = .ready then { t with circuit := { t.circuit with state := .dirty } } else t

omit [Primitives] in
/-- Expiry does not touch the reader or the channels. -/
theorem expire_frame (t : CircuitTask) :
    t.expire.reader = t.reader ∧ t.expire.demux = t.demux := by
  rw [expire]
  split <;> exact ⟨rfl, rfl⟩

omit [Primitives] in
/-- Neither does the end of the stream touch the channels. -/
theorem demux_endStream (t : CircuitTask) : t.endStream.demux = t.demux := rfl

/-- One step of a task around a circuit. -/
inductive Step : CircuitTask → CircuitEvent → CircuitTask → Prop
  | allocates (t : CircuitTask) :
      Step t .allocates { t with circuit := t.circuit.allocateStreamId.1 }
  | registers (t : CircuitTask) (streamId : StreamId) :
      Step t (.registers streamId)
        { t with
          circuit := t.circuit.registerStream streamId []
          demux := t.demux.register streamId }
  | unregisters (t : CircuitTask) (streamId : StreamId) :
      Step t (.unregisters streamId)
        { t with
          circuit := t.circuit.unregisterStream streamId
          demux := t.demux.drop fun k => k == streamId }
  | sends (t : CircuitTask) (streamId : StreamId) (command : MessageCommand) (data : Bytes)
      (entryWriter : Except String Unit) :
      Step t (.sends streamId command data entryWriter)
        { t with circuit := (t.circuit.sendMessage streamId command data entryWriter).1 }
  | expires (t : CircuitTask) : Step t .expires t.expire
  | receives {t : CircuitTask} (msg : Message) (hreading : t.reader = .reading) :
      Step t (.receives msg) (t.receive msg)
  | ends {t : CircuitTask} (hreading : t.reader = .reading) : Step t .ends t.endStream
  | finishes {t : CircuitTask} (hstopping : t.reader = .stopping) : Step t .finishes t.finish

/-- The runs of a circuit from when it is built. -/
def system (start : Circuit) : TransitionSystem CircuitTask CircuitEvent where
  init t := t = spawn start
  step := Step

/-! ## What one round does -/

/-- An accepted cell goes to its stream, and the circuit stays open. -/
theorem receive_of_accept {t : CircuitTask} {msg decrypted : Message} {next : OnionEnd}
    (h : t.circuit.onionKeys.backwardEnd.accept? msg = some (next, decrypted)) :
    (t.receive msg).circuit.onionKeys.backwardEnd = next ∧
      (t.receive msg).circuit.state = t.circuit.state ∧
      (t.receive msg).reader = t.reader ∧
      (t.receive msg).demux = t.demux.deliver decrypted.streamId decrypted ∧
      (t.receive msg).circuit.streamSenders =
        match t.circuit.streamSenders.lookup decrypted.streamId with
        | none => t.circuit.streamSenders
        | some queued =>
            t.circuit.streamSenders.insert decrypted.streamId (queued ++ [decrypted]) := by
  by_cases hdestroy : msg.command = .destroy
  · simp [OnionEnd.accept?, hdestroy] at h
  · simp only [OnionEnd.accept?, if_neg hdestroy, OnionEnd.decode, OnionKeys.backwardEnd] at h
    simp only [receive, if_neg hdestroy, OnionKeys.onionDecrypt, applyBackwardAll_snd,
      OnionKeys.backwardEnd]
    cases hvalid : (t.circuit.onionKeys.backwardDigest.verify msg.streamId msg.command.toU8
      (maskAll (t.circuit.onionKeys.ciphers.map CipherPair.backward) msg.data) msg.digest).2 with
    | false => simp [hvalid] at h
    | true =>
        simp only [hvalid, if_true, Option.some.injEq, Prod.mk.injEq] at h
        obtain ⟨rfl, rfl⟩ := h
        simp only [Bool.not_true, Bool.false_eq_true, if_false, Message.new]
        cases t.circuit.streamSenders.lookup msg.streamId with
        | none => exact ⟨by rw [applyBackwardAll_backward], rfl, rfl, rfl, rfl⟩
        | some queued => exact ⟨by rw [← applyBackwardAll_backward]; rfl, rfl, rfl, rfl, rfl⟩

/-- A cell that the exit has sealed under the same layers goes to its stream. -/
theorem receive_encode {t : CircuitTask} {s : OnionEnd}
    (hkeys : t.circuit.onionKeys.backwardEnd = s) (circuitId : CircuitId) {cell : RelayCell}
    (hcell : cell.command ≠ .destroy) :
    let t' := t.receive (OnionEnd.encode circuitId s cell).2
    t'.circuit.onionKeys.backwardEnd = (OnionEnd.encode circuitId s cell).1 ∧
      t'.reader = t.reader ∧ t'.demux = t.demux.deliver cell.streamId
        (Message.new circuitId cell.streamId cell.command cell.data) := by
  intro t'
  have haccept := OnionEnd.accept?_encode circuitId s hcell
  rw [← hkeys] at haccept
  obtain ⟨hnext, -, hreader, hdemux, -⟩ := receive_of_accept haccept
  rw [hkeys] at hnext hreader hdemux
  exact ⟨hnext, hreader, hdemux⟩

/-- Any other cell closes the circuit and ends the loop; what was sent to the streams
stays as it is. -/
theorem receive_of_not_accept {t : CircuitTask} {msg : Message}
    (h : t.circuit.onionKeys.backwardEnd.accept? msg = none) :
    (t.receive msg).circuit.state = .closed ∧ (t.receive msg).reader = .stopping ∧
      ((t.receive msg).demux = t.demux ∧
          (t.receive msg).circuit.streamSenders = t.circuit.streamSenders ∨
        (t.receive msg).demux = t.demux.drop (fun _ => true) ∧
          (t.receive msg).circuit.streamSenders = ∅) := by
  by_cases hdestroy : msg.command = .destroy
  · simp [receive, hdestroy, Circuit.close]
  · simp only [OnionEnd.accept?, if_neg hdestroy, OnionEnd.decode, OnionKeys.backwardEnd] at h
    simp only [receive, if_neg hdestroy, OnionKeys.onionDecrypt, applyBackwardAll_snd]
    cases hvalid : (t.circuit.onionKeys.backwardDigest.verify msg.streamId msg.command.toU8
      (maskAll (t.circuit.onionKeys.ciphers.map CipherPair.backward) msg.data) msg.digest).2 with
    | false =>
        simp
    | true => simp [hvalid] at h

/-- Sending a cell changes neither the streams, nor the state, nor what the reader
decrypts with. -/
theorem sendMessage_frame (c : Circuit) (streamId : StreamId) (command : MessageCommand)
    (data : Bytes) (entryWriter : Except String Unit) :
    let c' := (c.sendMessage streamId command data entryWriter).1
    c'.streamSenders = c.streamSenders ∧ c'.state = c.state ∧
      c'.onionKeys.backwardEnd = c.onionKeys.backwardEnd := by
  intro c'
  have hbackward := applyForwardAll_backward c.onionKeys.ciphers data
  simp only [c', Circuit.sendMessage, OnionKeys.onionEncrypt]
  split
  · exact ⟨rfl, rfl, by simp only [OnionKeys.backwardEnd, hbackward]⟩
  · exact ⟨rfl, rfl, by simp only [OnionKeys.backwardEnd, hbackward]⟩

/-! ## What every run keeps -/

/-- The reader has decrypted what came in, and every channel holds its part of it. The reader
has left its loop exactly when the stream has ended or failed or a cell has been refused, and
then the circuit is closed. -/
structure Inv (start : Circuit) (events : List CircuitEvent) (t : CircuitTask) : Prop where
  sound : Demux.Sound Message.streamId t.demux
  agrees : Demux.Agrees t.circuit.streamSenders t.demux
  arrived : (start.onionKeys.backwardEnd.acceptAll
    (events.filterMap CircuitEvent.received?)).2 = t.demux.arrived
  keys : t.reader = .reading → (start.onionKeys.backwardEnd.acceptAll
    (events.filterMap CircuitEvent.received?)).1 = some t.circuit.onionKeys.backwardEnd
  reading : t.reader = .reading → t.circuit.state = .ready ∨ t.circuit.state = .dirty
  left : t.reader ≠ .reading → t.circuit.state = .closed
  cut : t.reader ≠ .reading ↔ .ends ∈ events ∨ (start.onionKeys.backwardEnd.acceptAll
    (events.filterMap CircuitEvent.received?)).1 = none

/-- An event that brings neither a cell nor the end of the stream to the reader adds nothing to
the history. -/
theorem Inv.unreceived {start : Circuit} {events : List CircuitEvent} {t : CircuitTask}
    (h : Inv start events t) {e : CircuitEvent} (he : e.received? = none) (hends : e ≠ .ends) :
    Inv start (events ++ [e]) t := by
  have hevents : (events ++ [e]).filterMap CircuitEvent.received? =
      events.filterMap CircuitEvent.received? := by
    simp [List.filterMap_append, he]
  have hmem : .ends ∈ events ++ [e] ↔ .ends ∈ events := by
    simp [Ne.symm hends]
  exact { h with
    arrived := hevents ▸ h.arrived
    keys := hevents ▸ h.keys
    cut := by
      rw [hevents, hmem]
      exact h.cut }

/-- Another circuit with the same keys, state and channels. -/
theorem Inv.congr {start : Circuit} {events : List CircuitEvent} {t : CircuitTask}
    (h : Inv start events t) {c : Circuit}
    (hsenders : c.streamSenders = t.circuit.streamSenders) (hstate : c.state = t.circuit.state)
    (hkeys : c.onionKeys.backwardEnd = t.circuit.onionKeys.backwardEnd) :
    Inv start events { t with circuit := c } := by
  refine ⟨h.sound, ?_, h.arrived, ?_, ?_, ?_, h.cut⟩
  · exact hsenders ▸ h.agrees
  · intro hreading
    rw [hkeys]
    exact h.keys hreading
  · intro hreading
    rw [hstate]
    exact h.reading hreading
  · intro hleft
    rw [hstate]
    exact h.left hleft

/-- A cell that the reader receives is accepted or refused as the direction has it. -/
theorem Inv.receives {start : Circuit} {events : List CircuitEvent} {t : CircuitTask}
    (h : Inv start events t) (hreading : t.reader = .reading) (msg : Message) :
    Inv start (events ++ [.receives msg]) (t.receive msg) := by
  have hreceived : (events ++ [CircuitEvent.receives msg]).filterMap CircuitEvent.received? =
      events.filterMap CircuitEvent.received? ++ [msg] := by
    simp [List.filterMap_append, CircuitEvent.received?]
  have hall := OnionEnd.acceptAll_snoc (Prod.ext (h.keys hreading) h.arrived) msg
  rw [← hreceived] at hall
  have hends : .ends ∉ events ++ [.receives msg] := by
    intro hmem
    rcases List.mem_append.mp hmem with hbefore | hlast
    · exact h.cut.mpr (Or.inl hbefore) hreading
    · cases List.mem_singleton.mp hlast
  cases haccept : t.circuit.onionKeys.backwardEnd.accept? msg with
  | none =>
      obtain ⟨hclosed, hstopping, hstreams⟩ := receive_of_not_accept haccept
      rw [haccept] at hall
      refine ⟨?_, ?_, ?_, ?_, ?_, fun _ => hclosed, ?_⟩
      · rcases hstreams with ⟨hdemux, -⟩ | ⟨hdemux, -⟩
        · rw [hdemux]
          exact h.sound
        · rw [hdemux]
          exact h.sound.drop _
      · rcases hstreams with ⟨hdemux, hsenders⟩ | ⟨hdemux, hsenders⟩
        · rw [hdemux, hsenders]
          exact h.agrees
        · rw [hdemux, hsenders]
          exact h.agrees.drop _ (by simp)
      · rw [hall]
        rcases hstreams with ⟨hdemux, -⟩ | ⟨hdemux, -⟩
        · rw [hdemux]
        · rw [hdemux]
          rfl
      · intro hreading'
        exact absurd (hstopping.symm.trans hreading') (by decide)
      · intro hreading'
        exact absurd (hstopping.symm.trans hreading') (by decide)
      · rw [hstopping, hall]
        exact iff_of_true (by decide) (Or.inr rfl)
  | some out =>
      obtain ⟨next, decrypted⟩ := out
      obtain ⟨hkeys, hstate, hreader, hdemux, hsenders⟩ := receive_of_accept haccept
      rw [haccept] at hall
      refine ⟨?_, ?_, ?_, ?_, ?_, ?_, ?_⟩
      · rw [hdemux]
        exact h.sound.deliver decrypted
      · rw [hdemux, hsenders]
        split
        · next hnone => exact h.agrees.deliver_none hnone decrypted
        · next queued hopen => exact h.agrees.deliver hopen decrypted
      · rw [hall, hdemux]
        rfl
      · intro _
        rw [hall, hkeys]
      · intro _
        rw [hstate]
        exact h.reading hreading
      · intro hleft
        exact absurd (hreader.trans hreading) hleft
      · rw [hreader, hall]
        refine iff_of_false (not_not_intro hreading) ?_
        rintro (hmem | hnone)
        · exact hends hmem
        · cases hnone

/-- One step keeps what every run keeps. -/
theorem Inv.step {start : Circuit} {events : List CircuitEvent} {t t' : CircuitTask}
    {e : CircuitEvent} (h : Inv start events t) (hstep : Step t e t') :
    Inv start (events ++ [e]) t' := by
  cases hstep with
  | allocates => exact (h.unreceived rfl (by simp)).congr rfl rfl rfl
  | registers streamId =>
      have hsame := h.unreceived (e := .registers streamId) rfl (by simp)
      exact ⟨h.sound.register streamId, h.agrees.register streamId, hsame.arrived, hsame.keys,
        h.reading, h.left, hsame.cut⟩
  | unregisters streamId =>
      have hsame := h.unreceived (e := .unregisters streamId) rfl (by simp)
      refine ⟨h.sound.drop _, h.agrees.drop _ ?_, hsame.arrived, hsame.keys, h.reading, h.left,
        hsame.cut⟩
      intro key
      rw [Circuit.unregisterStream, HashMap.lookup_erase_eq]
      simp only [beq_iff_eq]
  | sends streamId command data entryWriter =>
      obtain ⟨hsenders, hstate, hkeys⟩ :=
        sendMessage_frame t.circuit streamId command data entryWriter
      exact (h.unreceived rfl (by simp)).congr hsenders hstate hkeys
  | expires =>
      have hsame := h.unreceived (e := .expires) rfl (by simp)
      by_cases hready : t.circuit.state = .ready
      · rw [expire, if_pos hready]
        refine ⟨h.sound, h.agrees, hsame.arrived, hsame.keys, fun _ => Or.inr rfl, ?_, hsame.cut⟩
        intro hleft
        exact absurd (hready.symm.trans (h.left hleft)) (by decide)
      · rw [expire, if_neg hready]
        exact hsame
  | receives msg hreading => exact h.receives hreading msg
  | ends hreading =>
      have hevents : (events ++ [CircuitEvent.ends]).filterMap CircuitEvent.received? =
          events.filterMap CircuitEvent.received? := by
        simp [List.filterMap_append, CircuitEvent.received?]
      refine ⟨h.sound, h.agrees, hevents ▸ h.arrived, ?_, ?_, fun _ => rfl, ?_⟩
      · intro hstopping
        exact absurd hstopping (by simp [endStream])
      · intro hstopping
        exact absurd hstopping (by simp [endStream])
      · exact iff_of_true (by simp [endStream]) (Or.inl (by simp))
  | finishes hstopping =>
      have hsame := h.unreceived (e := .finishes) rfl (by simp)
      refine ⟨h.sound.drop _, h.agrees.drop _ (by simp [finish, Circuit.close]), hsame.arrived,
        ?_, ?_, fun _ => rfl, ?_⟩
      · intro hstopped
        exact absurd hstopped (by simp [finish])
      · intro hstopped
        exact absurd hstopped (by simp [finish])
      · rw [← hsame.cut, hstopping]
        exact iff_of_true (by simp [finish]) (by decide)

/-- Every run from a circuit that has just been built keeps it. -/
theorem inv_of_run {start : Circuit} (hready : start.state = .ready)
    (hempty : start.streamSenders = ∅) {events : List CircuitEvent} {t : CircuitTask}
    (hrun : (system start).Run (spawn start) events t) : Inv start events t := by
  refine TransitionSystem.Run.invariant_history (fun t events => Inv start events t) ?_ ?_ hrun
  · refine ⟨Demux.sound_empty, ?_, rfl, fun _ => rfl, fun _ => Or.inl hready, ?_, ?_⟩
    · show Demux.Agrees start.streamSenders Demux.empty
      rw [hempty]
      exact Demux.agrees_empty
    · intro hleft
      exact absurd rfl hleft
    · exact iff_of_false (not_not_intro rfl) (by simp [OnionEnd.acceptAll])
  · intro t events e t' _ h hstep
    exact h.step hstep

/-- How the state of a circuit may change. -/
inductive StateMove : CircuitState → CircuitState → Prop
  | expires : StateMove .ready .dirty
  | closes : StateMove .ready .closed
  | closesDirty : StateMove .dirty .closed

/-- A step leaves the state alone, or moves it forward. -/
theorem Inv.stateMove {start : Circuit} {events : List CircuitEvent} {t t' : CircuitTask}
    {e : CircuitEvent} (h : Inv start events t) (hstep : Step t e t') :
    t'.circuit.state = t.circuit.state ∨ StateMove t.circuit.state t'.circuit.state := by
  have hcloses : t.reader = .reading → StateMove t.circuit.state .closed := by
    intro hreading
    rcases h.reading hreading with hready | hdirty
    · rw [hready]
      exact .closes
    · rw [hdirty]
      exact .closesDirty
  cases hstep with
  | allocates => exact Or.inl rfl
  | registers streamId => exact Or.inl rfl
  | unregisters streamId => exact Or.inl rfl
  | sends streamId command data entryWriter =>
      exact Or.inl (sendMessage_frame t.circuit streamId command data entryWriter).2.1
  | expires =>
      by_cases hready : t.circuit.state = .ready
      · rw [expire, if_pos hready, hready]
        exact Or.inr .expires
      · rw [expire, if_neg hready]
        exact Or.inl rfl
  | receives msg hreading =>
      cases haccept : t.circuit.onionKeys.backwardEnd.accept? msg with
      | none =>
          rw [(receive_of_not_accept haccept).1]
          exact Or.inr (hcloses hreading)
      | some out => exact Or.inl (receive_of_accept haccept).2.1
  | ends hreading => exact Or.inr (hcloses hreading)
  | finishes hstopping =>
      have hclosed := h.left (by rw [hstopping]; decide)
      exact Or.inl hclosed.symm

/-- A reader that has left its loop stays out of it, and nothing comes in any more. -/
theorem Step.left {t t' : CircuitTask} {e : CircuitEvent} (hstep : Step t e t')
    (hleft : t.reader ≠ .reading) :
    t'.reader ≠ .reading ∧ t'.demux.arrived = t.demux.arrived ∧ e.received? = none := by
  cases hstep with
  | allocates => exact ⟨hleft, rfl, rfl⟩
  | registers streamId => exact ⟨hleft, rfl, rfl⟩
  | unregisters streamId => exact ⟨hleft, rfl, rfl⟩
  | sends streamId command data entryWriter => exact ⟨hleft, rfl, rfl⟩
  | expires =>
      obtain ⟨hreader, hdemux⟩ := expire_frame t
      exact ⟨hreader ▸ hleft, congrArg Demux.arrived hdemux, rfl⟩
  | receives msg hreading => exact absurd hreading hleft
  | ends hreading => exact absurd hreading hleft
  | finishes hstopping => exact ⟨by simp [finish], rfl, rfl⟩

/-- The same for a whole run. -/
theorem left_of_run {start : Circuit} {t t' : CircuitTask} {events : List CircuitEvent}
    (hrun : (system start).Run t events t') (hleft : t.reader ≠ .reading) :
    t'.reader ≠ .reading ∧ t'.demux.arrived = t.demux.arrived ∧
      events.filterMap CircuitEvent.received? = [] := by
  refine hrun.invariant_history (fun t' events => t'.reader ≠ .reading ∧
    t'.demux.arrived = t.demux.arrived ∧ events.filterMap CircuitEvent.received? = [])
    ⟨hleft, rfl, rfl⟩ ?_
  intro s before e u _ ⟨hs, harrived, hnone⟩ hstep
  obtain ⟨hu, hsame, he⟩ := Step.left hstep hs
  refine ⟨hu, hsame.trans harrived, ?_⟩
  rw [List.filterMap_append, hnone, List.nil_append]
  simp [he]

/-- The reader of a circuit delivers exactly. In every run, whatever cells come in and
whatever the other tasks do, each channel has been sent exactly the decrypted cells with
its stream id, in order, out of those that came in while it was registered and before
the first that is a DESTROY or fails its digest. The reader leaves its loop exactly at the
first such cell or when the stream ends or fails; the circuit is closed then, and no cell
comes in any more. The state only moves from ready to dirty, from ready to
closed and from dirty to closed, and a closed circuit stays closed. -/
theorem delivered_exactly {start : Circuit} (hready : start.state = .ready)
    (hempty : start.streamSenders = ∅) {events : List CircuitEvent} {t : CircuitTask}
    (hrun : (system start).Run (spawn start) events t) :
    let accepted := start.onionKeys.backwardEnd.acceptAll
      (events.filterMap CircuitEvent.received?)
    (∀ ch ∈ t.demux.channels, ch.opened ≤ accepted.2.length ∧
      ch.sent = (ch.window accepted.2).filter fun msg => decide (msg.streamId = ch.key)) ∧
    (∀ streamId sent, t.circuit.streamSenders.lookup streamId = some sent ↔
      ∃ ch ∈ t.demux.channels, ch.dropped = none ∧ ch.key = streamId ∧ ch.sent = sent) ∧
    (t.reader ≠ .reading ↔ .ends ∈ events ∨ accepted.1 = none) ∧
    (t.reader ≠ .reading ↔ t.circuit.state = .closed) ∧
    (t.reader ≠ .reading → ∀ later t', (system start).Run t later t' →
      later.filterMap CircuitEvent.received? = [] ∧ t'.demux.arrived = accepted.2) ∧
    (∀ e t', Step t e t' →
      t'.circuit.state = t.circuit.state ∨ StateMove t.circuit.state t'.circuit.state) ∧
    (t.circuit.state = .closed → ∀ later t', (system start).Run t later t' →
      t'.circuit.state = .closed) := by
  intro accepted
  have h := inv_of_run hready hempty hrun
  have harrived : accepted.2 = t.demux.arrived := h.arrived
  have hclosed : t.reader ≠ .reading ↔ t.circuit.state = .closed := by
    refine ⟨h.left, fun hclosed hreading => ?_⟩
    rcases h.reading hreading with hstate | hstate
    · exact absurd (hstate.symm.trans hclosed) (by decide)
    · exact absurd (hstate.symm.trans hclosed) (by decide)
  refine ⟨?_, h.agrees, h.cut, hclosed, ?_, fun e t' hstep => h.stateMove hstep, ?_⟩
  · intro ch hmem
    rw [harrived]
    exact ⟨(h.sound ch hmem).opened_le, (h.sound ch hmem).sent_eq⟩
  · intro hleft later t' hlater
    obtain ⟨-, hsame, hnone⟩ := left_of_run hlater hleft
    exact ⟨hnone, hsame.trans harrived.symm⟩
  · intro hstate later t' hlater
    exact (inv_of_run hready hempty (hrun.trans hlater)).left
      (left_of_run hlater (hclosed.mpr hstate)).1

end CircuitTask

end

/-! ## A circuit that is torn down -/

namespace CircuitTask

open Reference

/-- Stream 1 is registered, a cell for it, one for stream 2 and another for stream 1 come in, the
circuit expires, and the entry relay closes the connection. The channel of stream 1 has been sent
its two cells, the circuit is closed, and no cell comes in any more. -/
theorem delivered_exactly_torndown :
    let start : Circuit := ⟨7, .ready, OnionKeys.new [] [], ∅, 1⟩
    let cells : List RelayCell := [⟨1, .data, [1, 2]⟩, ⟨2, .data, [3]⟩, ⟨1, .end, []⟩]
    let msgs := ((OnionEnd.channel 7).encodeAll start.onionKeys.backwardEnd cells).2
    ∃ t, (system start).Run (spawn start)
        (.registers 1 :: msgs.map .receives ++ [.expires, .ends]) t ∧
      t.circuit.state = .closed ∧
      (∃ ch ∈ t.demux.channels, ch.key = 1 ∧
        ch.sent = [Message.new 7 1 .data [1, 2], Message.new 7 1 .end []]) ∧
      ∀ later t', (system start).Run t later t' →
        later.filterMap CircuitEvent.received? = [] ∧ t'.demux.arrived.length = 3 := by
  intro start cells msgs
  let keys := start.onionKeys.backwardEnd
  let keys₁ := (OnionEnd.encode 7 keys ⟨1, .data, [1, 2]⟩).1
  let keys₂ := (OnionEnd.encode 7 keys₁ ⟨2, .data, [3]⟩).1
  let t₁ : CircuitTask := { spawn start with
    circuit := start.registerStream 1 []
    demux := Demux.empty.register 1 }
  let t₂ := t₁.receive (OnionEnd.encode 7 keys ⟨1, .data, [1, 2]⟩).2
  let t₃ := t₂.receive (OnionEnd.encode 7 keys₁ ⟨2, .data, [3]⟩).2
  let t₄ := t₃.receive (OnionEnd.encode 7 keys₂ ⟨1, .end, []⟩).2
  obtain ⟨hkeys₂, hreader₂, hdemux₂⟩ : _ ∧ t₂.reader = .reading ∧
      t₂.demux = t₁.demux.deliver 1 (Message.new 7 1 .data [1, 2]) :=
    receive_encode (t := t₁) rfl 7 (by decide)
  obtain ⟨hkeys₃, hreader₃, hdemux₃⟩ : _ ∧ t₃.reader = t₂.reader ∧
      t₃.demux = t₂.demux.deliver 2 (Message.new 7 2 .data [3]) :=
    receive_encode hkeys₂ 7 (by decide)
  obtain ⟨-, hreader₄, hdemux₄⟩ : _ ∧ t₄.reader = t₃.reader ∧
      t₄.demux = t₃.demux.deliver 1 (Message.new 7 1 .end []) :=
    receive_encode hkeys₃ 7 (by decide)
  have hstart : (system start).Run (spawn start) [] (spawn start) := .nil _
  have hreading₃ : t₃.reader = .reading := hreader₃.trans hreader₂
  have hreading₄ : t₄.expire.reader = .reading :=
    (expire_frame t₄).1.trans (hreader₄.trans hreading₃)
  have hrun : (system start).Run (spawn start)
      (.registers 1 :: msgs.map .receives ++ [.expires, .ends]) t₄.expire.endStream :=
    (((((hstart.snoc (Step.registers (spawn start) 1)).snoc (Step.receives _ rfl)).snoc
      (Step.receives _ hreader₂)).snoc (Step.receives _ hreading₃)).snoc
      (Step.expires t₄)).snoc (Step.ends hreading₄)
  obtain ⟨-, -, hcut, hclosed, hsilent, -⟩ := delivered_exactly rfl rfl hrun
  have hleft := hcut.mpr (Or.inl (by simp))
  have hdemux : t₄.expire.endStream.demux = t₄.demux :=
    (demux_endStream _).trans (expire_frame t₄).2
  have hchannels : t₄.demux = ⟨[Message.new 7 1 .data [1, 2], Message.new 7 2 .data [3],
      Message.new 7 1 .end []], [⟨1, 0, none, [Message.new 7 1 .data [1, 2],
        Message.new 7 1 .end []]⟩]⟩ := by
    rw [hdemux₄, hdemux₃, hdemux₂]
    rfl
  refine ⟨_, hrun, hclosed.mp hleft, ?_, fun later t' hlater => ?_⟩
  · rw [hdemux, hchannels]
    exact ⟨_, List.mem_singleton_self _, rfl, rfl⟩
  · obtain ⟨hnone, harrived⟩ := hsilent hleft later t' hlater
    refine ⟨hnone, ?_⟩
    rw [harrived, ← (hsilent hleft [] _ (.nil _)).2, hdemux, hchannels]
    rfl

end CircuitTask

end NoPanic
