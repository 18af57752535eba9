/-
# The bytes of the streams

Any number of streams share a circuit. The client opens each under an id of its own,
waits for CONNECTED, and then sends what its SOCKS client writes, slice by slice and
every slice in chunks that fit a cell; END is its last cell. At the exit a channel leads
from the handler to the task of every stream, which writes to the destination. What a
task has not written yet stays in its channel when the handler drops its end.

The cells of a stream stand in the log of the circuit as a script: BEGIN, any number of
DATA, END. Whatever the exit has recovered is the first part of that log.
-/

import NoPanic.Circuit.EndToEnd

namespace NoPanic

open NoPanic.Math

/-! ## The cells of one stream -/

/-- The commands of the cells of a stream. -/
def commandsOf (s : StreamId) (cells : List RelayCell) : List MessageCommand :=
  (cells.filter fun cell => cell.streamId == s).map RelayCell.command

/-- What the DATA cells of a stream carry. -/
def dataOf (s : StreamId) (cells : List RelayCell) : List Bytes :=
  (cells.filter fun cell => cell.streamId == s && cell.command == .data).map RelayCell.data

theorem commandsOf_append (s : StreamId) (cells others : List RelayCell) :
    commandsOf s (cells ++ others) = commandsOf s cells ++ commandsOf s others := by
  simp [commandsOf]

/-- Cells of other streams say nothing. -/
theorem commandsOf_eq_nil {s : StreamId} {cells : List RelayCell}
    (hother : ∀ cell ∈ cells, cell.streamId ≠ s) : commandsOf s cells = [] := by
  rw [commandsOf, List.map_eq_nil_iff, List.filter_eq_nil_iff]
  intro cell hmem heq
  exact hother cell hmem (beq_iff_eq.mp heq)

theorem dataOf_append (s : StreamId) (cells others : List RelayCell) :
    dataOf s (cells ++ others) = dataOf s cells ++ dataOf s others := by
  simp [dataOf]

/-- The commands of a stream after one more cell. -/
theorem commandsOf_singleton (s : StreamId) (cell : RelayCell) :
    commandsOf s [cell] = if cell.streamId = s then [cell.command] else [] := by
  by_cases hstream : cell.streamId = s <;> simp [commandsOf, hstream]

/-- The data of a stream in one cell. -/
theorem dataOf_singleton (s : StreamId) (cell : RelayCell) :
    dataOf s [cell] = if cell.streamId = s ∧ cell.command = .data then [cell.data] else [] := by
  by_cases hstream : cell.streamId = s ∧ cell.command = .data <;> simp_all [dataOf]

/-- A stream without cells has no data. -/
theorem dataOf_eq_nil {s : StreamId} {cells : List RelayCell} (h : commandsOf s cells = []) :
    dataOf s cells = [] := by
  rw [commandsOf, List.map_eq_nil_iff, List.filter_eq_nil_iff] at h
  rw [dataOf, List.map_eq_nil_iff, List.filter_eq_nil_iff]
  intro cell hmem hboth
  exact h cell hmem (Bool.and_eq_true_iff.mp hboth).1

/-- What a stream says: nothing yet, or BEGIN, then DATA, and END at last. -/
def Script (commands : List MessageCommand) : Prop :=
  ∃ n, commands = [] ∨ commands = .begin :: List.replicate n .data ∨
    commands = .begin :: List.replicate n .data ++ [.end]

/-- BEGIN comes first. -/
theorem Script.begins {commands before : List MessageCommand} (h : Script commands)
    (hinitial : before ++ [.begin] <+: commands) : before = [] := by
  obtain ⟨rest, rfl⟩ := hinitial
  cases before with
  | nil => rfl
  | cons first others =>
      obtain ⟨n, hnil | hopen | hclosed⟩ := h
      · cases hnil
      · have hrest : others ++ [.begin] ++ rest = List.replicate n .data :=
          (List.cons.inj hopen).2
        have hmem : MessageCommand.begin ∈ List.replicate n MessageCommand.data := by
          rw [← hrest]
          simp
        cases List.eq_of_mem_replicate hmem
      · have hrest : others ++ [.begin] ++ rest = List.replicate n .data ++ [.end] :=
          (List.cons.inj hclosed).2
        have hmem : MessageCommand.begin ∈ List.replicate n MessageCommand.data ++ [.end] := by
          rw [← hrest]
          simp
        rcases List.mem_append.mp hmem with hmem | hmem
        · cases List.eq_of_mem_replicate hmem
        · cases List.mem_singleton.mp hmem

/-- END comes last. -/
theorem Script.ends {commands before rest : List MessageCommand} (h : Script commands)
    (hsplit : before ++ .end :: rest = commands) : rest = [] := by
  have hopen : ∀ n, MessageCommand.end ∉ MessageCommand.begin :: List.replicate n .data := by
    intro n hmem
    rcases List.mem_cons.mp hmem with hmem | hmem
    · cases hmem
    · cases List.eq_of_mem_replicate hmem
  have hend : MessageCommand.end ∈ commands := by
    rw [← hsplit]
    simp
  obtain ⟨n, hnil | hscript | hclosed⟩ := h
  · rw [hnil] at hend
    cases hend
  · rw [hscript] at hend
    exact absurd hend (hopen n)
  · -- END stands only at the end, so nothing can follow it
    rcases List.eq_nil_or_concat rest with hrest | ⟨others, last, rfl⟩
    · exact hrest
    · rw [hclosed, List.concat_eq_append, ← List.cons_append, ← List.append_assoc] at hsplit
      have hinit := (List.append_inj' hsplit rfl).1
      exact absurd (hinit ▸ by simp) (hopen n)

/-! ## The client's end -/

/-- Where `handle_stream` stands. -/
inductive StreamPhase
  | idle
  /-- BEGIN has been sent. -/
  | waiting
  /-- The stream is connected, and these chunks of a slice are still to be sent. -/
  | relaying (chunks : List Bytes)
  /-- The loop has ended, and END is to be sent. -/
  | closing
  | closed
  deriving DecidableEq, Repr

/-- The chunks that are still to be sent. -/
def StreamPhase.left : StreamPhase → List Bytes
  | .relaying chunks => chunks
  | _ => []

/-- The payload of BEGIN. -/
def beginPayload (destination : String) : Bytes :=
  asBytes (destination ++ String.singleton (Char.ofNat 0))

/-! ## The exit's end -/

/-- Where the task of a stream stands at the exit. -/
inductive ExitTaskPhase
  | absent
  | running
  /-- Its channel was closed and empty. -/
  | finished
  /-- The destination has closed, or reading or writing has failed. -/
  | dead
  deriving DecidableEq, Repr

/-- The data that a handler has queued for a stream. -/
def RelayEffect.queued? (s : StreamId) : RelayEffect → Option Bytes
  | .queue streamId data => if streamId = s then some data else none
  | _ => none

/-- The stream whose task a handler has started. -/
def RelayEffect.opened? : RelayEffect → Option StreamId
  | .openStream streamId _ => some streamId
  | _ => none

namespace ExitCircuitHandler

/-- What a call of the exit's handler does to the streams, by the branch it takes. -/
inductive Serves (io : RelayIo) (h : ExitCircuitHandler) (cell : RelayCell)
    (out : Handled ExitCircuitHandler (Option Message)) : Prop
  | connects (stream : ExitStream) (hcommand : cell.command = .begin)
      (hstreams : out.handler.streams = h.streams.insert cell.streamId stream)
      (hqueued : ∀ s, out.effects.filterMap (RelayEffect.queued? s) = [])
      (hopened : out.effects.filterMap RelayEffect.opened? = [cell.streamId])
      (hsealed : out.effects.filterMap RelayEffect.sealed? = [⟨cell.streamId, .connected, []⟩])
  | queues (stream : ExitStream) (hcommand : cell.command = .data)
      (hlookup : h.streams.lookup cell.streamId = some stream)
      (hstreams : out.handler.streams = h.streams)
      (hqueued : ∀ s, out.effects.filterMap (RelayEffect.queued? s) =
        if cell.streamId = s then [cell.data] else [])
      (hopened : out.effects.filterMap RelayEffect.opened? = [])
      (hsealed : out.effects.filterMap RelayEffect.sealed? = [])
  | /-- The destination cannot be reached, there is no such stream, or its task is gone. -/
    refuses (hcommand : cell.command = .begin ∧ ¬ io.Connects ∨ cell.command = .data ∧
        ∀ stream, h.streams.lookup cell.streamId = some stream →
          io.destinationOpen cell.streamId = false)
      (hstreams : out.handler.streams = h.streams)
      (hqueued : ∀ s, out.effects.filterMap (RelayEffect.queued? s) = [])
      (hopened : out.effects.filterMap RelayEffect.opened? = [])
      (hsealed : ∀ answer ∈ out.effects.filterMap RelayEffect.sealed?, answer.command = .end)
  | ends (hcommand : cell.command = .end)
      (hstreams : out.handler.streams = h.streams.erase cell.streamId)
      (hqueued : ∀ s, out.effects.filterMap (RelayEffect.queued? s) = [])
      (hopened : out.effects.filterMap RelayEffect.opened? = [])
      (hsealed : ∀ answer ∈ out.effects.filterMap RelayEffect.sealed?, answer.command = .end)

/-- A cell does nothing to the other streams. -/
theorem Serves.others {io : RelayIo} {h : ExitCircuitHandler} {cell : RelayCell}
    {out : Handled ExitCircuitHandler (Option Message)} (hserves : h.Serves io cell out)
    {s : StreamId} (hne : cell.streamId ≠ s) :
    out.handler.streams.lookup s = h.streams.lookup s ∧
      out.effects.filterMap (RelayEffect.queued? s) = [] ∧
      s ∉ out.effects.filterMap RelayEffect.opened? ∧
      ∀ answer ∈ out.effects.filterMap RelayEffect.sealed?,
        answer.streamId = s → answer.command ≠ .connected := by
  have hnot : ∀ {answers : List RelayCell}, (∀ answer ∈ answers, answer.command = .end) →
      ∀ answer ∈ answers, answer.streamId = s → answer.command ≠ .connected := by
    intro answers hends answer hmem _
    rw [hends answer hmem]
    decide
  cases hserves with
  | connects stream hcommand hstreams hqueued hopened hsealed =>
      refine ⟨?_, hqueued s, ?_, ?_⟩
      · rw [hstreams, HashMap.lookup_insert_eq, if_neg (Ne.symm hne)]
      · rw [hopened, List.mem_singleton]
        exact Ne.symm hne
      · rw [hsealed]
        intro answer hmem hstream
        rw [List.mem_singleton.mp hmem] at hstream
        exact absurd hstream hne
  | queues stream hcommand hlookup hstreams hqueued hopened hsealed =>
      refine ⟨by rw [hstreams], ?_, by rw [hopened]; simp, by rw [hsealed]; simp⟩
      rw [hqueued, if_neg hne]
  | refuses hcommand hstreams hqueued hopened hsealed =>
      exact ⟨by rw [hstreams], hqueued s, by rw [hopened]; simp, hnot hsealed⟩
  | ends hcommand hstreams hqueued hopened hsealed =>
      refine ⟨?_, hqueued s, by rw [hopened]; simp, hnot hsealed⟩
      rw [hstreams, HashMap.lookup_erase_eq, if_neg (Ne.symm hne)]

/-- Every cell that a handler has sealed is of a stream. -/
def SealsOf (s : StreamId) (effects : List RelayEffect) : Prop :=
  ∀ answer ∈ effects.filterMap RelayEffect.sealed?, answer.streamId = s

/-- Effects that seal nothing, and then one cell of the stream at most. -/
theorem sealsOf_append {s : StreamId} {effects others : List RelayEffect}
    (heffects : effects.filterMap RelayEffect.sealed? = []) (hothers : SealsOf s others) :
    SealsOf s (effects ++ others) := by
  intro answer hmem
  rw [List.filterMap_append, heffects, List.nil_append] at hmem
  exact hothers answer hmem

variable [Primitives]

/-- What a cell of a stream does to the streams of the exit. -/
theorem handleMessage_serves {h : ExitCircuitHandler} {io : RelayIo} (prevHop : ConnId)
    {msg : Message} {state : ExitCryptoState} {cell : RelayCell}
    (hstate : h.sharedState = some state)
    (hdecode : (state.forwardEnd.decode msg).2 = some cell) (hcell : cell.Sendable)
    (hdelivers : io.Delivers) : h.Serves io cell (h.handleMessage io (some prevHop) msg) := by
  obtain ⟨state₁, hopen, -, -, hstream, hcommand⟩ := ExitCryptoState.openCell_eq hdecode
  rcases hcell.command with hbegin | hdata | hend
  · obtain ⟨dest, hdest⟩ := hcell.text hbegin
    have hmsg : msg.command = .begin := hcommand ▸ hbegin
    simp only [handleMessage, hmsg, handleBegin, hstate, hopen, Bool.not_true, Bool.false_eq_true,
      if_false, hdest, fromUtf8_asBytes]
    cases houtcome : (io.connectTo (trimEndZeros dest)).2 with
    | ok _ =>
        obtain ⟨state₂, hseal, -, -⟩ :=
          state₁.sealCell_eq h.context.circuitId ⟨msg.streamId, .connected, []⟩
        have hwrite := hdelivers.written prevHop (OnionEnd.encode h.context.circuitId
          state₁.backwardEnd ⟨msg.streamId, .connected, []⟩).2 (by simp)
        simp only at hseal
        simp only [hseal, hwrite]
        refine .connects ⟨trimEndZeros dest⟩ hbegin ?_ ?_ ?_ ?_
        · rw [hstream]
        · intro s
          simp [List.filterMap_cons, RelayEffect.queued?]
        · simp [List.filterMap_cons, RelayEffect.opened?, hstream]
        · simp [List.filterMap_cons, RelayEffect.sealed?, hstream]
    | error e =>
        have hnot : ¬ io.Connects := fun hconnects => by cases (hconnects _).symm.trans houtcome
        refine .refuses (Or.inl ⟨hbegin, hnot⟩) rfl ?_ ?_ ?_
        · intro s
          simp [replyEnd, List.filterMap_cons, RelayEffect.queued?]
        · simp [replyEnd, List.filterMap_cons, RelayEffect.opened?]
        · simp [replyEnd, List.filterMap_cons, RelayEffect.sealed?]
  · have hmsg : msg.command = .data := hcommand ▸ hdata
    simp only [handleMessage, hmsg, handleData, hstate, hopen, Bool.not_true, Bool.false_eq_true,
      if_false]
    cases hlookup : h.streams.lookup msg.streamId with
    | none =>
        refine .refuses (Or.inr ⟨hdata, ?_⟩) rfl ?_ ?_ ?_
        · intro stream hsome
          rw [hstream, hlookup] at hsome
          cases hsome
        · simp [replyEnd, RelayEffect.queued?]
        · simp [replyEnd, RelayEffect.opened?]
        · simp [replyEnd, RelayEffect.sealed?]
    | some stream =>
        by_cases hlive : io.destinationOpen msg.streamId = true
        · simp only [hlive, if_true]
          refine .queues stream hdata (by rw [hstream, hlookup]) rfl ?_ ?_ ?_
          · intro s
            by_cases hs : msg.streamId = s <;>
              simp [List.filterMap_cons, RelayEffect.queued?, hstream, hs]
          · simp [RelayEffect.opened?]
          · simp [RelayEffect.sealed?]
        · simp only [hlive, Bool.false_eq_true, if_false]
          refine .refuses (Or.inr ⟨hdata, fun _ _ => ?_⟩) rfl ?_ ?_ ?_
          · rw [hstream]
            exact Bool.eq_false_iff.mpr hlive
          · simp [replyEnd, RelayEffect.queued?]
          · simp [replyEnd, RelayEffect.opened?]
          · simp [replyEnd, RelayEffect.sealed?]
  · have hmsg : msg.command = .end := hcommand ▸ hend
    simp only [handleMessage, hmsg, handleEnd, hstate, hopen, Bool.not_true, Bool.false_eq_true,
      if_false]
    refine .ends hend ?_ ?_ ?_ ?_
    · rw [hstream]
      rfl
    · simp [replyEnd, RelayEffect.queued?]
    · simp [replyEnd, RelayEffect.opened?]
    · simp [replyEnd, RelayEffect.sealed?]

/-- A reply with END is of its stream. -/
theorem sealsOf_replyEnd (h : ExitCircuitHandler) (state : ExitCryptoState)
    {effects : List RelayEffect} (heffects : effects.filterMap RelayEffect.sealed? = [])
    (s : StreamId) (endData : Bytes) : SealsOf s (h.replyEnd state effects s endData).effects :=
  sealsOf_append heffects (by simp [SealsOf, RelayEffect.sealed?])

/-- The exit answers a cell on its own stream. -/
theorem sealsOf_handleMessage (h : ExitCircuitHandler) (io : RelayIo) (prevHop : ConnId)
    (msg : Message) :
    SealsOf msg.streamId (h.handleMessage io (some prevHop) msg).effects := by
  have hnil : SealsOf msg.streamId [] := by simp [SealsOf]
  unfold handleMessage
  cases msg.command with
  | create =>
      simp only
      unfold handleCreate
      split
      · exact hnil
      · simp only
        split <;> exact hnil
  | begin =>
      simp only
      unfold handleBegin
      split
      · exact hnil
      · simp only
        split
        · exact hnil
        · split
          · simp [SealsOf, RelayEffect.sealed?]
          · split
            · split
              · exact sealsOf_append (by simp [RelayEffect.sealed?])
                  (by simp [SealsOf, RelayEffect.sealed?])
              · rw [List.append_assoc]
                exact sealsOf_append (by simp [RelayEffect.sealed?])
                  (by simp [SealsOf, RelayEffect.sealed?])
            · exact sealsOf_replyEnd _ _ (by simp [RelayEffect.sealed?]) _ _
  | data =>
      simp only
      unfold handleData
      split
      · exact hnil
      · simp only
        split
        · exact hnil
        · split
          · split
            · simp [SealsOf, RelayEffect.sealed?]
            · exact sealsOf_replyEnd _ _ (by simp [RelayEffect.sealed?]) _ _
          · exact sealsOf_replyEnd _ _ (by simp [RelayEffect.sealed?]) _ _
  | «end» =>
      simp only
      unfold handleEnd
      split
      · exact hnil
      · simp only
        split
        · exact hnil
        · exact sealsOf_replyEnd _ _ (by simp [RelayEffect.sealed?]) _ _
  | _ => exact hnil

end ExitCircuitHandler

/-! ## The streams of a circuit -/

/-- A circuit with its streams: where each stands at the client and at the exit, the slices
read from its SOCKS client, what the exit has queued for its destination, and what its
task has written there. -/
structure StreamNetwork where
  net : Network
  phases : StreamId → StreamPhase
  tasks : StreamId → ExitTaskPhase
  read : StreamId → List Bytes
  queued : StreamId → List Bytes
  written : StreamId → List Bytes

/-- What may happen next on the streams of a circuit. -/
inductive StreamNetworkEvent
  | moves (event : NetworkEvent)
  | opens (s : StreamId) (destination : String)
  | connects (s : StreamId)
  | reads (s : StreamId) (slice : Bytes)
  | sends (s : StreamId)
  | stops (s : StreamId)
  | closes (s : StreamId)
  | abandons (s : StreamId)
  | exits
  | writes (s : StreamId)
  | finishes (s : StreamId)
  | dies (s : StreamId)

/-- A read on the way to the exit. -/
def StreamNetworkEvent.Forwards : StreamNetworkEvent → Prop
  | .moves event => event.Forwards
  | .exits => True
  | _ => False

/-- What happens in a circuit without its streams: keepalive, relaying, the cells that the
tasks of the streams emit, and what the client's reader reads. -/
def NetworkEvent.Moves : NetworkEvent → Prop
  | .send _ | .exit => False
  | _ => True

namespace StreamNetwork

/-- Change where a stream stands at the client. -/
def setPhase (st : StreamNetwork) (s : StreamId) (phase : StreamPhase) : StreamNetwork :=
  { st with phases := Function.update st.phases s phase }

/-- Change where a stream stands at the exit. -/
def setTask (st : StreamNetwork) (s : StreamId) (task : ExitTaskPhase) : StreamNetwork :=
  { st with tasks := Function.update st.tasks s task }

/-- A circuit that is established and has no streams yet. -/
structure Ready (st : StreamNetwork) : Prop where
  net : st.net.Ready
  streams : st.net.exit.streams = ∅
  phases : ∀ s, st.phases s = .idle
  tasks : ∀ s, st.tasks s = .absent
  read : ∀ s, st.read s = []
  queued : ∀ s, st.queued s = []
  written : ∀ s, st.written s = []

section

variable [Primitives]

/-- The client sends a cell of a stream. -/
def clientSends (st : StreamNetwork) (s : StreamId) (command : MessageCommand) (data : Bytes) :
    StreamNetwork :=
  { st with net := st.net.clientSends ⟨s, command, data⟩ }

/-- The exit reads a message. -/
def exitReads (st : StreamNetwork) (io : RelayIo) (msg : Message) (rest : List Message) :
    StreamNetwork :=
  let out := st.net.exit.handleMessage io (some exitPrevHop) msg
  { st with
    net := st.net.exitReads io msg rest
    queued := fun s => st.queued s ++ out.effects.filterMap (RelayEffect.queued? s)
    tasks := fun s =>
      if s ∈ out.effects.filterMap RelayEffect.opened? then .running else st.tasks s }

/-- One step. Every id is given to one stream, and a stream that is open can be written to
exactly while its task runs. -/
inductive Step [AddrText] : StreamNetwork → StreamNetworkEvent → StreamNetwork → Prop
  | moves {st : StreamNetwork} {event : NetworkEvent} {net : Network} (hmoves : event.Moves)
      (hstep : Network.Step st.net event net) : Step st (.moves event) { st with net }
  | opens {st : StreamNetwork} {s : StreamId} (destination : String)
      (hphase : st.phases s = .idle) (hfits : (beginPayload destination).length ≤ maxPayloadSize) :
      Step st (.opens s destination)
        ((st.clientSends s .begin (beginPayload destination)).setPhase s .waiting)
  | connects {st : StreamNetwork} {s : StreamId} {data : Bytes} (hphase : st.phases s = .waiting)
      (hconnected : ⟨s, .connected, data⟩ ∈ st.net.received) :
      Step st (.connects s) (st.setPhase s (.relaying []))
  | reads {st : StreamNetwork} {s : StreamId} (slice : Bytes)
      (hphase : st.phases s = .relaying []) :
      Step st (.reads s slice)
        { st.setPhase s (.relaying (chunks (maxPayloadSize - 1) slice.length slice)) with
          read := Function.update st.read s (st.read s ++ [slice]) }
  | sends {st : StreamNetwork} {s : StreamId} {chunk : Bytes} {rest : List Bytes}
      (hphase : st.phases s = .relaying (chunk :: rest)) :
      Step st (.sends s) ((st.clientSends s .data chunk).setPhase s (.relaying rest))
  | /-- The loop ends, or nobody answers BEGIN with CONNECTED. -/
    stops {st : StreamNetwork} {s : StreamId}
      (hphase : st.phases s = .relaying [] ∨ st.phases s = .waiting) :
      Step st (.stops s) (st.setPhase s .closing)
  | closes {st : StreamNetwork} {s : StreamId} (hphase : st.phases s = .closing) :
      Step st (.closes s) ((st.clientSends s .end []).setPhase s .closed)
  | /-- A failure without cleanup. -/
    abandons {st : StreamNetwork} {s : StreamId} (hphase : st.phases s = .waiting) :
      Step st (.abandons s) (st.setPhase s .closed)
  | exits {st : StreamNetwork} {io : RelayIo} {msg : Message} {rest : List Message}
      (hinbox : st.net.exitInbox = msg :: rest) (hdelivers : io.Delivers) (htexts : io.TextsFit)
      (hopen : ∀ s stream, st.net.exit.streams.lookup s = some stream →
        (io.destinationOpen s = true ↔ st.tasks s = .running)) :
      Step st .exits (st.exitReads io msg rest)
  | writes {st : StreamNetwork} {s : StreamId} {data : Bytes} {later : List Bytes}
      (htask : st.tasks s = .running) (hqueued : st.queued s = st.written s ++ data :: later) :
      Step st (.writes s)
        { st with written := Function.update st.written s (st.written s ++ [data]) }
  | /-- The handler has dropped its end of the channel, and the channel is empty. -/
    finishes {st : StreamNetwork} {s : StreamId} (htask : st.tasks s = .running)
      (hdropped : st.net.exit.streams.lookup s = none) (hempty : st.queued s = st.written s) :
      Step st (.finishes s) (st.setTask s .finished)
  | dies {st : StreamNetwork} {s : StreamId} (htask : st.tasks s = .running) :
      Step st (.dies s) (st.setTask s .dead)

/-- The runs of the streams of a circuit. -/
def system [AddrText] : TransitionSystem StreamNetwork StreamNetworkEvent where
  init := Ready
  step := Step

end

/-! ## The invariant -/

/-- The script of a stream, by where it stands at the client. -/
def Said : StreamPhase → List MessageCommand → Prop
  | .idle, commands => commands = []
  | .waiting, commands => commands = [.begin]
  | .relaying _, commands => ∃ n, commands = .begin :: List.replicate n .data
  | .closing, commands => ∃ n, commands = .begin :: List.replicate n .data
  | .closed, commands => Script commands

/-- What a stream has said is a script. -/
theorem Said.script {phase : StreamPhase} {commands : List MessageCommand}
    (h : Said phase commands) : Script commands := by
  cases phase with
  | idle => exact ⟨0, Or.inl h⟩
  | waiting => exact ⟨0, Or.inr (Or.inl h)⟩
  | relaying chunks | closing =>
      obtain ⟨n, hn⟩ := h
      exact ⟨n, Or.inr (Or.inl hn)⟩
  | closed => exact h

/-- Once END has been sent, no chunk is left. -/
theorem Said.left_eq_nil {phase : StreamPhase} {commands : List MessageCommand}
    (h : Said phase commands) (hend : .end ∈ commands) : phase.left = [] := by
  cases phase with
  | relaying chunks =>
      obtain ⟨n, hn⟩ := h
      rw [hn] at hend
      rcases List.mem_cons.mp hend with heq | hmem
      · cases heq
      · cases List.eq_of_mem_replicate hmem
  | _ => rfl

/-- The client's end of a stream, with the cells that have been sent on the circuit, the
slices read, and whether CONNECTED has been emitted: the stream follows its script, its
data is what was read, and it sends data only after CONNECTED. -/
structure ClientOk (s : StreamId) (phase : StreamPhase) (sent : List RelayCell)
    (read : List Bytes) (connected : Prop) : Prop where
  said : Said phase (commandsOf s sent)
  bytes : (dataOf s sent).flatten ++ phase.left.flatten = read.flatten
  fits : ∀ chunk ∈ phase.left, chunk.length ≤ maxPayloadSize
  answered : (∃ chunks, phase = .relaying chunks) ∨ .data ∈ commandsOf s sent → connected

namespace ClientOk

variable {s : StreamId} {sent : List RelayCell} {read : List Bytes} {connected : Prop}

/-- A cell of another stream. -/
theorem other {phase : StreamPhase} (h : ClientOk s phase sent read connected)
    {cell : RelayCell} (hne : cell.streamId ≠ s) :
    ClientOk s phase (sent ++ [cell]) read connected := by
  have hcommands : commandsOf s (sent ++ [cell]) = commandsOf s sent := by
    rw [commandsOf_append, commandsOf_singleton, if_neg hne, List.append_nil]
  have hdata : dataOf s (sent ++ [cell]) = dataOf s sent := by
    rw [dataOf_append, dataOf_singleton, if_neg fun h => hne h.1, List.append_nil]
  refine ⟨?_, ?_, h.fits, ?_⟩
  · rw [hcommands]
    exact h.said
  · rw [hdata]
    exact h.bytes
  · rw [hcommands]
    exact h.answered

/-- More cells have been emitted. -/
theorem mono {phase : StreamPhase} {connected' : Prop} (h : ClientOk s phase sent read connected)
    (hmono : connected → connected') : ClientOk s phase sent read connected' :=
  ⟨h.said, h.bytes, h.fits, fun hsaid => hmono (h.answered hsaid)⟩

/-- BEGIN is sent. -/
theorem opens (h : ClientOk s .idle sent read connected) (payload : Bytes) :
    ClientOk s .waiting (sent ++ [⟨s, .begin, payload⟩]) read connected := by
  have hcommands : commandsOf s (sent ++ [⟨s, .begin, payload⟩]) = [.begin] := by
    rw [commandsOf_append, show commandsOf s sent = [] from h.said, commandsOf_singleton,
      if_pos rfl, List.nil_append]
  have hdata : dataOf s (sent ++ [⟨s, .begin, payload⟩]) = dataOf s sent := by
    rw [dataOf_append, dataOf_singleton, if_neg (by simp), List.append_nil]
  refine ⟨hcommands, ?_, h.fits, ?_⟩
  · rw [hdata]
    exact h.bytes
  · rw [hcommands]
    rintro (⟨chunks, hphase⟩ | hmem)
    · cases hphase
    · cases List.mem_singleton.mp hmem

/-- CONNECTED has come. -/
theorem connects (h : ClientOk s .waiting sent read connected) (hconnected : connected) :
    ClientOk s (.relaying []) sent read connected := by
  have hsaid : commandsOf s sent = [.begin] := h.said
  exact ⟨⟨0, hsaid⟩, h.bytes, h.fits, fun _ => hconnected⟩

/-- A slice is read. -/
theorem reads (h : ClientOk s (.relaying []) sent read connected) (slice : Bytes) :
    ClientOk s (.relaying (chunks (maxPayloadSize - 1) slice.length slice)) sent
      (read ++ [slice]) connected := by
  have hbytes : (dataOf s sent).flatten ++ [] = read.flatten := h.bytes
  refine ⟨h.said, ?_, ?_, fun _ => h.answered (Or.inl ⟨[], rfl⟩)⟩
  · rw [StreamPhase.left, flatten_chunks _ (le_refl _), List.flatten_append, ← hbytes]
    simp
  · intro chunk hmem
    exact length_le_of_mem_chunks hmem

/-- A chunk is sent. -/
theorem sends {chunk : Bytes} {rest : List Bytes}
    (h : ClientOk s (.relaying (chunk :: rest)) sent read connected) :
    ClientOk s (.relaying rest) (sent ++ [⟨s, .data, chunk⟩]) read connected := by
  obtain ⟨n, hn⟩ := h.said
  have hbytes : (dataOf s sent).flatten ++ (chunk :: rest).flatten = read.flatten := h.bytes
  refine ⟨⟨n + 1, ?_⟩, ?_, ?_, fun _ => h.answered (Or.inl ⟨_, rfl⟩)⟩
  · rw [commandsOf_append, hn, commandsOf_singleton, if_pos rfl, List.replicate_succ']
    rfl
  · rw [dataOf_append, dataOf_singleton, if_pos ⟨rfl, rfl⟩, StreamPhase.left, ← hbytes]
    simp
  · intro other hmem
    exact h.fits other (List.mem_cons_of_mem _ hmem)

/-- The stream ends. -/
theorem stops {phase : StreamPhase} (hphase : phase = .relaying [] ∨ phase = .waiting)
    (h : ClientOk s phase sent read connected) : ClientOk s .closing sent read connected := by
  have hdata : (∃ chunks, StreamPhase.closing = .relaying chunks) ∨
      .data ∈ commandsOf s sent → connected := by
    rintro (⟨chunks, heq⟩ | hmem)
    · cases heq
    · exact h.answered (Or.inr hmem)
  rcases hphase with rfl | rfl
  · exact ⟨h.said, h.bytes, h.fits, hdata⟩
  · have hsaid : commandsOf s sent = [.begin] := h.said
    exact ⟨⟨0, hsaid⟩, h.bytes, h.fits, hdata⟩

/-- END is sent. -/
theorem closes (h : ClientOk s .closing sent read connected) :
    ClientOk s .closed (sent ++ [⟨s, .end, []⟩]) read connected := by
  obtain ⟨n, hn⟩ := h.said
  have hcommands : commandsOf s (sent ++ [⟨s, .end, []⟩]) =
      .begin :: List.replicate n .data ++ [.end] := by
    rw [commandsOf_append, hn, commandsOf_singleton, if_pos rfl]
  have hdata : dataOf s (sent ++ [⟨s, .end, []⟩]) = dataOf s sent := by
    rw [dataOf_append, dataOf_singleton, if_neg (by simp), List.append_nil]
  refine ⟨⟨n, Or.inr (Or.inr hcommands)⟩, ?_, h.fits, ?_⟩
  · rw [hdata]
    exact h.bytes
  · rintro (⟨chunks, heq⟩ | hmem)
    · cases heq
    · rw [commandsOf_append, commandsOf_singleton, if_pos rfl] at hmem
      rcases List.mem_append.mp hmem with hmem | hmem
      · exact h.answered (Or.inr hmem)
      · cases List.mem_singleton.mp hmem

/-- The stream is given up. -/
theorem abandons (h : ClientOk s .waiting sent read connected) :
    ClientOk s .closed sent read connected := by
  refine ⟨h.said.script, h.bytes, h.fits, ?_⟩
  rintro (⟨chunks, heq⟩ | hmem)
  · cases heq
  · exact h.answered (Or.inr hmem)

end ClientOk

/-- The exit's end of a stream, with the cells that the exit has recovered, the entry of its
map, and the channel to the task: a task runs from CONNECTED on, its stream is in the map
up to END, and unless it dies it has been given the data of all cells. -/
structure ExitOk (s : StreamId) (task : ExitTaskPhase) (recovered : List RelayCell)
    (entry : Option ExitStream) (queued written : List Bytes) (connected : Prop) : Prop where
  unopened : .begin ∉ commandsOf s recovered → task = .absent
  answered : connected → task ≠ .absent
  present : task ≠ .absent → .end ∉ commandsOf s recovered → entry ≠ none
  runs : entry ≠ none → task = .running ∨ task = .dead
  given : task ≠ .dead → queued = dataOf s recovered
  behind : written <+: queued
  finished : task = .finished → written = queued ∧ .end ∈ commandsOf s recovered

namespace ExitOk

variable {s : StreamId} {task : ExitTaskPhase} {recovered : List RelayCell}
  {entry : Option ExitStream} {queued written : List Bytes} {connected : Prop}

/-- A cell of another stream. -/
theorem other (h : ExitOk s task recovered entry queued written connected) {cell : RelayCell}
    (hne : cell.streamId ≠ s) :
    ExitOk s task (recovered ++ [cell]) entry queued written connected := by
  have hcommands : commandsOf s (recovered ++ [cell]) = commandsOf s recovered := by
    rw [commandsOf_append, commandsOf_singleton, if_neg hne, List.append_nil]
  have hdata : dataOf s (recovered ++ [cell]) = dataOf s recovered := by
    rw [dataOf_append, dataOf_singleton, if_neg fun h => hne h.1, List.append_nil]
  refine ⟨?_, h.answered, ?_, h.runs, ?_, h.behind, ?_⟩
  · rw [hcommands]
    exact h.unopened
  · rw [hcommands]
    exact h.present
  · rw [hdata]
    exact h.given
  · rw [hcommands]
    exact h.finished

/-- No CONNECTED has been emitted. -/
theorem anti {connected' : Prop} (h : ExitOk s task recovered entry queued written connected)
    (hanti : connected' → connected) :
    ExitOk s task recovered entry queued written connected' :=
  ⟨h.unopened, fun hnow => h.answered (hanti hnow), h.present, h.runs, h.given, h.behind,
    h.finished⟩

/-- The exit has connected. -/
theorem connects (h : ExitOk s task recovered entry queued written connected) {data : Bytes}
    {connected' : Prop} (hfirst : commandsOf s recovered = []) (stream : ExitStream) :
    ExitOk s .running (recovered ++ [⟨s, .begin, data⟩]) (some stream) queued written
      connected' := by
  have hcommands : commandsOf s (recovered ++ [⟨s, .begin, data⟩]) = [.begin] := by
    rw [commandsOf_append, hfirst, commandsOf_singleton, if_pos rfl, List.nil_append]
  have habsent : task = .absent := h.unopened (by rw [hfirst]; simp)
  refine ⟨?_, fun _ => by simp, fun _ _ => by simp, fun _ => Or.inl rfl, fun _ => ?_, h.behind,
    fun hfinished => by cases hfinished⟩
  · rw [hcommands]
    intro hnot
    exact absurd (List.mem_singleton_self _) hnot
  · rw [dataOf_append, dataOf_singleton, if_neg (by simp), List.append_nil]
    exact h.given (by rw [habsent]; decide)

/-- Data is queued. -/
theorem queues (h : ExitOk s task recovered entry queued written connected) {data : Bytes}
    (hentry : entry ≠ none) :
    ExitOk s task (recovered ++ [⟨s, .data, data⟩]) entry (queued ++ [data]) written
      connected := by
  have hcommands : commandsOf s (recovered ++ [⟨s, .data, data⟩]) =
      commandsOf s recovered ++ [.data] := by
    rw [commandsOf_append, commandsOf_singleton, if_pos rfl]
  refine ⟨?_, h.answered, fun _ _ => hentry, h.runs, fun hlive => ?_,
    h.behind.trans (List.prefix_append _ _), fun hfinished => ?_⟩
  · rw [hcommands]
    exact fun hnot => h.unopened fun hmem => hnot (List.mem_append_left _ hmem)
  · rw [dataOf_append, dataOf_singleton, if_pos ⟨rfl, rfl⟩, h.given hlive]
  · rcases h.runs hentry with hrunning | hdead
    · rw [hrunning] at hfinished
      cases hfinished
    · rw [hdead] at hfinished
      cases hfinished

/-- The destination of a stream cannot be reached. -/
theorem refuses (h : ExitOk s task recovered entry queued written connected) {data : Bytes}
    (hfirst : commandsOf s recovered = []) :
    ExitOk s task (recovered ++ [⟨s, .begin, data⟩]) entry queued written connected := by
  have habsent : task = .absent := h.unopened (by rw [hfirst]; simp)
  refine ⟨fun _ => habsent, h.answered, fun hopen => absurd habsent hopen, h.runs, fun hlive => ?_,
    h.behind, fun hfinished => ?_⟩
  · rw [dataOf_append, dataOf_singleton, if_neg (by simp), List.append_nil]
    exact h.given hlive
  · rw [habsent] at hfinished
    cases hfinished

/-- Data comes for a task that has died. -/
theorem loses (h : ExitOk s .dead recovered entry queued written connected) {data : Bytes} :
    ExitOk s .dead (recovered ++ [⟨s, .data, data⟩]) entry queued written connected := by
  have hcommands : commandsOf s (recovered ++ [⟨s, .data, data⟩]) =
      commandsOf s recovered ++ [.data] := by
    rw [commandsOf_append, commandsOf_singleton, if_pos rfl]
  refine ⟨?_, h.answered, ?_, h.runs, fun hlive => absurd rfl hlive, h.behind,
    fun hfinished => by cases hfinished⟩
  · rw [hcommands]
    exact fun hnot => h.unopened fun hmem => hnot (List.mem_append_left _ hmem)
  · rw [hcommands]
    exact fun hopen hnot => h.present hopen fun hmem => hnot (List.mem_append_left _ hmem)

/-- END comes, and the stream leaves the map. -/
theorem ends (h : ExitOk s task recovered entry queued written connected) {data : Bytes} :
    ExitOk s task (recovered ++ [⟨s, .end, data⟩]) none queued written connected := by
  have hcommands : commandsOf s (recovered ++ [⟨s, .end, data⟩]) =
      commandsOf s recovered ++ [.end] := by
    rw [commandsOf_append, commandsOf_singleton, if_pos rfl]
  have hlast : .end ∈ commandsOf s (recovered ++ [⟨s, .end, data⟩]) := by
    rw [hcommands]
    exact List.mem_append_right _ (List.mem_singleton_self _)
  refine ⟨?_, h.answered, fun _ hnot => absurd hlast hnot, fun hentry => absurd rfl hentry,
    fun hlive => ?_, h.behind, fun hfinished => ⟨(h.finished hfinished).1, hlast⟩⟩
  · rw [hcommands]
    exact fun hnot => h.unopened fun hmem => hnot (List.mem_append_left _ hmem)
  · rw [dataOf_append, dataOf_singleton, if_neg (by simp), List.append_nil]
    exact h.given hlive

/-- The task writes what comes next. -/
theorem writes (h : ExitOk s .running recovered entry queued written connected) {data : Bytes}
    {later : List Bytes} (hqueued : queued = written ++ data :: later) :
    ExitOk s .running recovered entry queued (written ++ [data]) connected := by
  refine ⟨h.unopened, h.answered, h.present, h.runs, h.given, ?_,
    fun hfinished => by cases hfinished⟩
  exact ⟨later, by rw [hqueued]; simp⟩

/-- The task ends once its channel is closed and empty. -/
theorem finishes (h : ExitOk s .running recovered none queued written connected)
    (hempty : queued = written) :
    ExitOk s .finished recovered none queued written connected := by
  have hend : .end ∈ commandsOf s recovered := by
    by_contra hnot
    exact h.present (by decide) hnot rfl
  refine ⟨fun hnot => ?_, fun _ => by decide, fun _ hnot => absurd hend hnot,
    fun hentry => absurd rfl hentry, fun _ => h.given (by decide), h.behind,
    fun _ => ⟨hempty.symm, hend⟩⟩
  cases h.unopened hnot

/-- The task dies. -/
theorem dies (h : ExitOk s .running recovered entry queued written connected) :
    ExitOk s .dead recovered entry queued written connected := by
  refine ⟨fun hnot => ?_, fun _ => by decide, fun _ => h.present (by decide),
    fun _ => Or.inr rfl, fun hlive => absurd rfl hlive, h.behind,
    fun hfinished => by cases hfinished⟩
  cases h.unopened hnot

end ExitOk

/-- The exit has answered the BEGIN of a stream with CONNECTED. -/
def Connected (emitted : List RelayCell) (s : StreamId) : Prop :=
  ∃ cell ∈ emitted, cell.streamId = s ∧ cell.command = .connected

/-- Cells that are not CONNECTED. -/
theorem connected_append {s : StreamId} {emitted cells : List RelayCell}
    (hcells : ∀ cell ∈ cells, cell.streamId = s → cell.command ≠ .connected) :
    Connected (emitted ++ cells) s ↔ Connected emitted s := by
  constructor
  · rintro ⟨cell, hmem, hstream, hcommand⟩
    rcases List.mem_append.mp hmem with hmem | hmem
    · exact ⟨cell, hmem, hstream, hcommand⟩
    · exact absurd hcommand (hcells cell hmem hstream)
  · rintro ⟨cell, hmem, hcell⟩
    exact ⟨cell, List.mem_append_left _ hmem, hcell⟩

/-- DATA is refused only where the task of its stream has died: CONNECTED has been emitted and
END has not been recovered, so that the stream is in the map. -/
theorem ExitOk.dead_of_refused {s : StreamId} {task : ExitTaskPhase} {recovered : List RelayCell}
    {entry : Option ExitStream} {queued written : List Bytes} {connected : Prop}
    {later : List MessageCommand} {live : Bool}
    (hok : ExitOk s task recovered entry queued written connected) (hconnected : connected)
    (hscript : Script (commandsOf s recovered ++ .data :: later))
    (hopen : ∀ stream, entry = some stream → (live = true ↔ task = .running))
    (hclosed : ∀ stream, entry = some stream → live = false) : task = .dead := by
  have hnot : .end ∉ commandsOf s recovered := by
    intro hmem
    obtain ⟨before, rest, hsplit⟩ := List.append_of_mem hmem
    have hall : before ++ .end :: (rest ++ .data :: later) =
        commandsOf s recovered ++ .data :: later := by
      rw [hsplit]
      simp
    have hrest := hscript.ends hall
    simp at hrest
  obtain ⟨stream, hstream⟩ :=
    Option.ne_none_iff_exists'.mp (hok.present (hok.answered hconnected) hnot)
  rcases hok.runs (by rw [hstream]; simp) with hrunning | hdead
  · have hlive := (hopen stream hstream).mpr hrunning
    rw [hclosed stream hstream] at hlive
    cases hlive
  · exact hdead

/-- A stream at the exit, after the exit has served one of its cells. -/
theorem ExitOk.serves {io : RelayIo} {cell : RelayCell} {task : ExitTaskPhase}
    {recovered sent emitted : List RelayCell} {queued written : List Bytes}
    {h : ExitCircuitHandler} {out : Handled ExitCircuitHandler (Option Message)}
    (hok : ExitOk cell.streamId task recovered (h.streams.lookup cell.streamId) queued written
      (Connected emitted cell.streamId))
    (hserves : h.Serves io cell out) (hscript : Script (commandsOf cell.streamId sent))
    (hinitial : recovered ++ [cell] <+: sent)
    (hconnected : .data ∈ commandsOf cell.streamId sent → Connected emitted cell.streamId)
    (hopen : ∀ stream, h.streams.lookup cell.streamId = some stream →
      (io.destinationOpen cell.streamId = true ↔ task = .running)) :
    ExitOk cell.streamId
      (if cell.streamId ∈ out.effects.filterMap RelayEffect.opened? then .running else task)
      (recovered ++ [cell]) (out.handler.streams.lookup cell.streamId)
      (queued ++ out.effects.filterMap (RelayEffect.queued? cell.streamId)) written
      (Connected (emitted ++ out.effects.filterMap RelayEffect.sealed?) cell.streamId) := by
  obtain ⟨s, command, data⟩ := cell
  simp only at hok hscript hconnected hopen ⊢
  obtain ⟨later, hlater⟩ := hinitial
  have hcommands : commandsOf s recovered ++ command :: commandsOf s later = commandsOf s sent := by
    rw [← hlater, commandsOf_append, commandsOf_append, commandsOf_singleton, if_pos rfl]
    simp
  have hsame : ∀ {answers : List RelayCell}, (∀ answer ∈ answers, answer.command = .end) →
      (Connected (emitted ++ answers) s ↔ Connected emitted s) := by
    intro answers hends
    apply connected_append
    intro answer hmem _
    rw [hends answer hmem]
    decide
  have hfirst : command = .begin → commandsOf s recovered = [] := by
    rintro rfl
    exact hscript.begins ⟨commandsOf s later, by rw [← hcommands]; simp⟩
  cases hserves with
  | connects stream hcommand hstreams hqueued hopened hsealed =>
      obtain rfl : command = .begin := hcommand
      rw [hstreams, HashMap.lookup_insert_eq, if_pos rfl, hqueued, List.append_nil, hopened,
        if_pos (List.mem_singleton_self _)]
      exact hok.connects (hfirst rfl) stream
  | queues stream hcommand hlookup hstreams hqueued hopened hsealed =>
      obtain rfl : command = .data := hcommand
      rw [hstreams, hqueued, if_pos rfl, hopened, if_neg (by simp), hsealed, List.append_nil]
      apply hok.queues
      rw [show h.streams.lookup s = some stream from hlookup]
      simp
  | refuses hcommand hstreams hqueued hopened hsealed =>
      rw [hstreams, hqueued, List.append_nil, hopened, if_neg (by simp)]
      refine ExitOk.anti ?_ (hsame hsealed).mp
      rcases hcommand with ⟨hbegin, -⟩ | ⟨hdata, hclosed⟩
      · obtain rfl : command = .begin := hbegin
        exact hok.refuses (hfirst rfl)
      · obtain rfl : command = .data := hdata
        have hdead : task = .dead :=
          hok.dead_of_refused (hconnected (by rw [← hcommands]; simp))
            (by rw [hcommands]; exact hscript) hopen hclosed
        subst hdead
        exact hok.loses
  | ends hcommand hstreams hqueued hopened hsealed =>
      obtain rfl : command = .end := hcommand
      rw [hstreams, HashMap.lookup_erase_eq, if_pos rfl, hqueued, List.append_nil, hopened,
        if_neg (by simp)]
      exact hok.ends.anti (hsame hsealed).mp

/-! ## What a step does to the logs -/

/-- Writing back leaves the logs and the exit alone. -/
theorem writeBack_frame (net : Network) (front back : List HopNode) (msgs : List Message) :
    (net.writeBack front back msgs).sent = net.sent ∧
      (net.writeBack front back msgs).recovered = net.recovered ∧
      (net.writeBack front back msgs).emitted = net.emitted ∧
      (net.writeBack front back msgs).exit = net.exit := by
  unfold Network.writeBack
  split <;> exact ⟨rfl, rfl, rfl, rfl⟩

section

variable [Primitives]

/-- A cell that the client may send is sent. -/
theorem clientSends_frame (net : Network) {cell : RelayCell} (hcell : cell.Sendable) :
    (net.clientSends cell).sent = net.sent ++ [cell] ∧
      (net.clientSends cell).recovered = net.recovered ∧
      (net.clientSends cell).emitted = net.emitted ∧
      (net.clientSends cell).exit = net.exit := by
  obtain ⟨hmsg, -⟩ := net.client.sendMessage_eq cell.streamId cell.command hcell.fits
  unfold Network.clientSends
  generalize net.client.sendMessage cell.streamId cell.command cell.data (.ok ()) = out at hmsg
  obtain ⟨client, result⟩ := out
  simp only at hmsg
  subst hmsg
  exact ⟨rfl, rfl, rfl, rfl⟩

/-- What the exit has read shows in its logs. -/
theorem exitReads_frame (net : Network) (io : RelayIo) (msg : Message) (rest : List Message) :
    let out := net.exit.handleMessage io (some exitPrevHop) msg
    (net.exitReads io msg rest).sent = net.sent ∧
      (net.exitReads io msg rest).recovered =
        net.recovered ++ out.effects.filterMap RelayEffect.recovered? ∧
      (net.exitReads io msg rest).emitted =
        net.emitted ++ out.effects.filterMap RelayEffect.sealed? ∧
      (net.exitReads io msg rest).exit = out.handler := by
  intro out
  unfold Network.exitReads
  simp only
  split
  · exact ⟨rfl, rfl, rfl, rfl⟩
  · exact writeBack_frame _ _ _ _

/-- Everything else that moves in a circuit sends and recovers no cell of a stream, and
emits no CONNECTED. -/
theorem moves_frame [AddrText] {net net' : Network} {event : NetworkEvent} (hmoves : event.Moves)
    (hstep : Network.Step net event net') :
    net'.sent = net.sent ∧ net'.recovered = net.recovered ∧
      (∃ cells, net'.emitted = net.emitted ++ cells ∧ ∀ cell ∈ cells, cell.command ≠ .connected) ∧
      net'.exit.streams = net.exit.streams := by
  have hsame : ∀ {after : Network}, after.sent = net.sent ∧ after.recovered = net.recovered ∧
      after.emitted = net.emitted ∧ after.exit = net.exit →
      after.sent = net.sent ∧ after.recovered = net.recovered ∧
        (∃ cells, after.emitted = net.emitted ++ cells ∧
          ∀ cell ∈ cells, cell.command ≠ .connected) ∧
        after.exit.streams = net.exit.streams := by
    rintro after ⟨hsent, hrecovered, hemitted, hexit⟩
    exact ⟨hsent, hrecovered, ⟨[], by simp [hemitted], by simp⟩, by rw [hexit]⟩
  cases hstep with
  | send | exit => exact absurd hmoves id
  | padding => exact hsame ⟨rfl, rfl, rfl, rfl⟩
  | relay =>
      apply hsame
      unfold Network.hopReads
      simp only
      split
      · exact ⟨rfl, rfl, rfl, rfl⟩
      · exact writeBack_frame _ _ _ _
  | relayBack =>
      apply hsame
      unfold Network.hopReadsBack
      split
      · exact ⟨rfl, rfl, rfl, rfl⟩
      · simp only
        split
        · exact ⟨rfl, rfl, rfl, rfl⟩
        · exact writeBack_frame _ _ _ _
  | receive =>
      apply hsame
      unfold Network.clientReads
      simp only
      split <;> exact ⟨rfl, rfl, rfl, rfl⟩
  | emit cell hrunning hcell =>
      obtain ⟨read, hread⟩ := hcell.read
      have hcommand : cell.command ≠ .connected := by
        cases read with
        | closed => simp_all [StreamRead.cells]
        | data bytes =>
            obtain ⟨chunk, -, heq⟩ := List.mem_map.mp hread
            rw [← (Prod.mk.inj heq).1]
            decide
        | error message => simp_all [StreamRead.cells]
      unfold Network.exitEmits
      split
      · exact hsame ⟨rfl, rfl, rfl, rfl⟩
      · obtain ⟨hsent, hrecovered, hemitted, hexit⟩ := writeBack_frame { net with
            exit := { net.exit with sharedState := some (ExitCryptoState.sealCell _
              net.exit.context.circuitId cell.streamId cell.command cell.data).1 }
            emitted := net.emitted ++ [cell] } net.hops [] [_]
        refine ⟨hsent, hrecovered, ⟨[cell], hemitted, ?_⟩, by rw [hexit]⟩
        intro other hmem
        rw [List.mem_singleton.mp hmem]
        exact hcommand

/-! ## Every run -/

/-- The invariant of a circuit with its streams. -/
structure Inv (st : StreamNetwork) : Prop where
  net : ∃ origin, st.net.Sound origin
  client : ∀ s, ClientOk s (st.phases s) st.net.sent (st.read s) (Connected st.net.emitted s)
  exit : ∀ s, ExitOk s (st.tasks s) st.net.recovered (st.net.exit.streams.lookup s) (st.queued s)
    (st.written s) (Connected st.net.emitted s)

variable {st : StreamNetwork} {s : StreamId}

/-- A stream moves on at the client. -/
theorem Inv.setPhase (h : st.Inv) {phase : StreamPhase} {read : List Bytes}
    (hclient : ClientOk s phase st.net.sent read (Connected st.net.emitted s)) :
    Inv { st.setPhase s phase with read := Function.update st.read s read } := by
  refine ⟨h.net, ?_, h.exit⟩
  intro other
  show ClientOk other (Function.update st.phases s phase other) _
    (Function.update st.read s read other) _
  by_cases heq : other = s
  · subst heq
    rw [Function.update_self, Function.update_self]
    exact hclient
  · rw [Function.update_of_ne heq, Function.update_of_ne heq]
    exact h.client other

/-- A stream moves on at the client, and nothing is read. -/
theorem Inv.setPhase_same (h : st.Inv) {phase : StreamPhase}
    (hclient : ClientOk s phase st.net.sent (st.read s) (Connected st.net.emitted s)) :
    (st.setPhase s phase).Inv := by
  have hset := h.setPhase hclient
  rwa [Function.update_eq_self] at hset

/-- The client sends a cell of a stream. -/
theorem Inv.clientSends (h : st.Inv) {command : MessageCommand} {data : Bytes}
    {phase : StreamPhase} (hcell : RelayCell.Sendable ⟨s, command, data⟩)
    (hclient : ClientOk s phase (st.net.sent ++ [⟨s, command, data⟩]) (st.read s)
      (Connected st.net.emitted s)) :
    ((st.clientSends s command data).setPhase s phase).Inv := by
  obtain ⟨origin, hsound⟩ := h.net
  obtain ⟨hsent, hrecovered, hemitted, hexit⟩ := clientSends_frame st.net hcell
  refine ⟨⟨origin, (hsound.clientSends hcell).1⟩, ?_, ?_⟩
  · intro other
    show ClientOk other (Function.update st.phases s phase other)
      (st.net.clientSends ⟨s, command, data⟩).sent (st.read other)
      (Connected (st.net.clientSends ⟨s, command, data⟩).emitted other)
    rw [hsent, hemitted]
    by_cases heq : other = s
    · subst heq
      rw [Function.update_self]
      exact hclient
    · rw [Function.update_of_ne heq]
      exact (h.client other).other (Ne.symm heq)
  · intro other
    show ExitOk other (st.tasks other) (st.net.clientSends ⟨s, command, data⟩).recovered
      ((st.net.clientSends ⟨s, command, data⟩).exit.streams.lookup other) (st.queued other)
      (st.written other) (Connected (st.net.clientSends ⟨s, command, data⟩).emitted other)
    rw [hrecovered, hemitted, hexit]
    exact h.exit other

/-- A task of a stream moves on at the exit. -/
theorem Inv.setTask (h : st.Inv) {task : ExitTaskPhase}
    (hexit : ExitOk s task st.net.recovered (st.net.exit.streams.lookup s) (st.queued s)
      (st.written s) (Connected st.net.emitted s)) : (st.setTask s task).Inv := by
  refine ⟨h.net, h.client, ?_⟩
  intro other
  show ExitOk other (Function.update st.tasks s task other) _ _ _ _ _
  by_cases heq : other = s
  · subst heq
    rw [Function.update_self]
    exact hexit
  · rw [Function.update_of_ne heq]
    exact h.exit other

/-- What the exit has recovered of a stream is the first part of what the client has sent. -/
theorem Inv.recovered (h : st.Inv) (s : StreamId) :
    st.net.recovered <+: st.net.sent ∧
      commandsOf s st.net.recovered <+: commandsOf s st.net.sent := by
  obtain ⟨origin, hsound⟩ := h.net
  obtain ⟨later, hlater⟩ := hsound.forward.read_sent
  have hlater : st.net.recovered ++ later = st.net.sent := hlater
  refine ⟨⟨later, hlater⟩, ⟨commandsOf s later, ?_⟩⟩
  rw [← hlater, commandsOf_append]

/-- Other things move in the circuit. -/
theorem Inv.moves [AddrText] (h : st.Inv) {event : NetworkEvent} {net : Network}
    (hmoves : event.Moves) (hstep : Network.Step st.net event net) : Inv { st with net } := by
  obtain ⟨origin, hsound⟩ := h.net
  obtain ⟨hsent, hrecovered, ⟨cells, hemitted, hcells⟩, hstreams⟩ := moves_frame hmoves hstep
  have hconnected : ∀ s, Connected net.emitted s ↔ Connected st.net.emitted s := by
    intro s
    rw [hemitted]
    exact connected_append fun cell hmem _ => hcells cell hmem
  refine ⟨⟨origin, (hsound.step hstep).1⟩, ?_, ?_⟩
  · intro s
    show ClientOk s (st.phases s) net.sent (st.read s) (Connected net.emitted s)
    rw [hsent]
    exact (h.client s).mono (hconnected s).mpr
  · intro s
    show ExitOk s (st.tasks s) net.recovered (net.exit.streams.lookup s) (st.queued s)
      (st.written s) (Connected net.emitted s)
    rw [hrecovered, hstreams]
    exact (h.exit s).anti (hconnected s).mp

/-- The exit recovers the next cell that the client has sent, serves it, and answers on its
stream. -/
theorem Inv.exitServes [AddrText] (h : st.Inv) {io : RelayIo} {msg : Message}
    {rest : List Message} (hinbox : st.net.exitInbox = msg :: rest) (hdelivers : io.Delivers)
    (htexts : io.TextsFit) :
    ∃ cell, (st.exitReads io msg rest).net.recovered = st.net.recovered ++ [cell] ∧
      st.net.sent[st.net.recovered.length]? = some cell ∧
      st.net.recovered ++ [cell] <+: st.net.sent ∧
      st.net.exit.Serves io cell (st.net.exit.handleMessage io (some exitPrevHop) msg) ∧
      ExitCircuitHandler.SealsOf cell.streamId
        (st.net.exit.handleMessage io (some exitPrevHop) msg).effects := by
  obtain ⟨origin, hsound⟩ := h.net
  obtain ⟨cell, state, hdecode, hcell, -⟩ := hsound.exitOpens hinbox
  obtain ⟨-, -, -, -, hstream, -⟩ := ExitCryptoState.openCell_eq hdecode
  obtain ⟨answer, hanswers⟩ := ExitCircuitHandler.handleMessage_answers exitPrevHop hsound.exit
    hdecode hcell hdelivers htexts
  have hrecovered : (st.net.exitReads io msg rest).recovered = st.net.recovered ++ [cell] := by
    rw [← hanswers.recovered]
    exact (exitReads_frame st.net io msg rest).2.1
  obtain ⟨hafter, hlinks⟩ := hsound.exitReads hinbox hdelivers htexts
  obtain ⟨hsent, ⟨next, hnext, hlog⟩, -⟩ := hlinks.logStep
  obtain rfl : cell = next :=
    List.singleton_inj.mp (List.append_cancel_left (hrecovered.symm.trans hlog))
  have hread : (st.net.exitReads io msg rest).recovered <+:
      (st.net.exitReads io msg rest).sent := hafter.forward.read_sent
  rw [hrecovered, hsent] at hread
  exact ⟨cell, hrecovered, hnext, hread,
    ExitCircuitHandler.handleMessage_serves exitPrevHop hsound.exit hdecode hcell hdelivers,
    hstream ▸ ExitCircuitHandler.sealsOf_handleMessage _ io exitPrevHop msg⟩

/-- The exit reads a message. -/
theorem Inv.exitReads [AddrText] (h : st.Inv) {io : RelayIo} {msg : Message}
    {rest : List Message} (hinbox : st.net.exitInbox = msg :: rest) (hdelivers : io.Delivers)
    (htexts : io.TextsFit)
    (hopen : ∀ s stream, st.net.exit.streams.lookup s = some stream →
      (io.destinationOpen s = true ↔ st.tasks s = .running)) :
    (st.exitReads io msg rest).Inv := by
  obtain ⟨origin, hsound⟩ := h.net
  obtain ⟨cell, hrecovered, -, hinitial, hserves, -⟩ := h.exitServes hinbox hdelivers htexts
  obtain ⟨hsent, -, hemitted, hexit⟩ := exitReads_frame st.net io msg rest
  refine ⟨⟨origin, (hsound.exitReads hinbox hdelivers htexts).1⟩, ?_, ?_⟩
  · intro s
    show ClientOk s (st.phases s) (st.net.exitReads io msg rest).sent (st.read s)
      (Connected (st.net.exitReads io msg rest).emitted s)
    rw [hsent, hemitted]
    refine (h.client s).mono ?_
    rintro ⟨cell, hmem, hcell⟩
    exact ⟨cell, List.mem_append_left _ hmem, hcell⟩
  · intro s
    show ExitOk s (if s ∈ _ then _ else st.tasks s) (st.exitReads io msg rest).net.recovered
      ((st.net.exitReads io msg rest).exit.streams.lookup s) (st.queued s ++ _) (st.written s)
      (Connected (st.net.exitReads io msg rest).emitted s)
    rw [hrecovered, hemitted, hexit]
    by_cases hstream : cell.streamId = s
    · subst hstream
      have hclient := h.client cell.streamId
      exact (h.exit cell.streamId).serves hserves hclient.said.script hinitial
        (fun hdata => hclient.answered (Or.inr hdata)) (hopen cell.streamId)
    · obtain ⟨hlookup, hqueued, hopened, hsealed⟩ := hserves.others hstream
      rw [hlookup, hqueued, List.append_nil, if_neg hopened]
      exact ((h.exit s).other hstream).anti (connected_append hsealed).mp

/-- A circuit without streams. -/
theorem Ready.inv (h : st.Ready) : st.Inv := by
  have hsent : st.net.sent = [] := h.net.fresh.1
  have hrecovered : st.net.recovered = [] := h.net.fresh.2.1
  have hnone : ∀ s, ¬ Connected st.net.emitted s := by
    rintro s ⟨cell, hmem, -⟩
    rw [h.net.fresh.2.2.1] at hmem
    cases hmem
  refine ⟨⟨st.net.origin, h.net.sound⟩, ?_, ?_⟩
  · intro s
    rw [hsent, h.phases, h.read]
    refine ⟨rfl, rfl, fun chunk hmem => absurd hmem List.not_mem_nil, ?_⟩
    rintro (⟨chunks, hphase⟩ | hmem)
    · cases hphase
    · cases hmem
  · intro s
    rw [hrecovered, h.tasks, h.streams, h.queued, h.written]
    refine ⟨fun _ => rfl, fun hconnected => absurd hconnected (hnone s),
      fun hopen => absurd rfl hopen,
      fun hentry => absurd rfl hentry, fun _ => rfl, List.prefix_refl _,
      fun hfinished => by cases hfinished⟩

/-- Every step keeps the invariant. -/
theorem Inv.step [AddrText] {st' : StreamNetwork} {event : StreamNetworkEvent} (h : st.Inv)
    (hstep : Step st event st') : st'.Inv := by
  cases hstep with
  | moves hmoves hstep => exact h.moves hmoves hstep
  | @opens s destination hphase hfits =>
      have hclient := h.client s
      rw [hphase] at hclient
      exact h.clientSends ⟨Or.inl rfl, hfits, fun _ => ⟨_, rfl⟩⟩ (hclient.opens _)
  | @connects s data hphase hconnected =>
      have hclient := h.client s
      rw [hphase] at hclient
      obtain ⟨origin, hsound⟩ := h.net
      have hread : st.net.received <+: st.net.emitted := hsound.backward.read_sent
      exact h.setPhase_same (hclient.connects ⟨_, hread.subset hconnected, rfl, rfl⟩)
  | @reads s slice hphase =>
      have hclient := h.client s
      rw [hphase] at hclient
      exact h.setPhase (hclient.reads slice)
  | @sends s chunk rest hphase =>
      have hclient := h.client s
      rw [hphase] at hclient
      have hfits := hclient.fits chunk (List.mem_cons_self ..)
      exact h.clientSends ⟨Or.inr (Or.inl rfl), hfits, fun hbegin => by cases hbegin⟩ hclient.sends
  | @stops s hphase => exact h.setPhase_same ((h.client s).stops hphase)
  | @closes s hphase =>
      have hclient := h.client s
      rw [hphase] at hclient
      exact h.clientSends ⟨Or.inr (Or.inr rfl), Nat.zero_le _, fun hbegin => by cases hbegin⟩
        hclient.closes
  | @abandons s hphase =>
      have hclient := h.client s
      rw [hphase] at hclient
      exact h.setPhase_same hclient.abandons
  | exits hinbox hdelivers htexts hopen => exact h.exitReads hinbox hdelivers htexts hopen
  | @writes s data later htask hqueued =>
      refine ⟨h.net, h.client, ?_⟩
      intro other
      show ExitOk other (st.tasks other) _ _ _
        (Function.update st.written s (st.written s ++ [data]) other) _
      by_cases heq : other = s
      · subst heq
        have hexit := h.exit other
        rw [htask] at hexit
        rw [Function.update_self, htask]
        exact hexit.writes hqueued
      · rw [Function.update_of_ne heq]
        exact h.exit other
  | @finishes s htask hdropped hempty =>
      have hexit := h.exit s
      rw [htask, hdropped] at hexit
      apply h.setTask
      rw [hdropped]
      exact hexit.finishes hempty
  | @dies s htask =>
      have hexit := h.exit s
      rw [htask] at hexit
      exact h.setTask hexit.dies

/-- The invariant holds in every run. -/
theorem inv_of_reachable [AddrText] (hreach : system.Reachable st) : st.Inv :=
  hreach.invariant Inv (fun _ hready => Ready.inv hready) fun _ _ _ h hstep => h.step hstep

end

/-! ## A circuit of three hops -/

section

open Reference

/-- The circuit of three hops, without streams. -/
def sampleStreams : StreamNetwork :=
  ⟨sampleNetwork, fun _ => .idle, fun _ => .absent, fun _ => [], fun _ => [], fun _ => []⟩

theorem sampleStreams_ready : sampleStreams.Ready :=
  ⟨sampleNetwork_ready, rfl, fun _ => rfl, fun _ => rfl, fun _ => rfl, fun _ => rfl, fun _ => rfl⟩

end

end StreamNetwork

end NoPanic
