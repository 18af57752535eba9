/-
# What a stream brings back

The task of a stream at the exit reads from its destination and emits what it has read in cells.
The circuit carries them to the client, whose reader puts them into the channel of the stream, and
`handle_stream` writes them to its SOCKS client. Here a circuit with its streams gets the two ends
of this direction: every task with the cells that it has still to emit, and every call with its
channel in the circuit's own map. Between them stands the exit's loop, which may hold a reply with
END that is sealed and not written.

Each end keeps an account of its own. At the exit the cells emitted carry what has been read, and
END stands last; at the client what has been written is the data taken from the channel.
-/

import NoPanic.Circuit.ExitNode
import NoPanic.Circuit.HeldReply
import NoPanic.Client.Reader
import NoPanic.Client.Streams

namespace NoPanic

open NoPanic.Math

/-! ## The two ends -/

/-- What comes back on a stream: where its task stands at the exit and what it has read from the
destination; the cells that the call has taken from its channel, what it has written to the SOCKS
client, and whether it has read END. -/
structure Download where
  task : TaskPhase
  read : Bytes
  taken : List RelayCell
  written : Bytes
  ended : Bool

/-- Nothing has come back. -/
def Download.start : Download := ⟨.idle, [], [], [], false⟩

/-- The bytes of a read. -/
def StreamRead.bytes : StreamRead → Bytes
  | .data bytes => bytes
  | _ => []

/-- The bytes that a task has still to emit. -/
def TaskPhase.bytes (phase : TaskPhase) : Bytes :=
  ((phase.cells.filter fun cell => cell.1 == .data).map Prod.snd).flatten

/-- The cells of a stream. -/
def cellsOf (s : StreamId) (cells : List RelayCell) : List RelayCell :=
  cells.filter fun cell => cell.streamId == s

/-- A circuit with its streams in both directions, and the sealed reply that the exit's loop is to
write. -/
structure Tunnel where
  up : StreamNetwork
  hand : Option Message
  downloads : StreamId → Download

/-- What may happen next on a circuit with its streams in both directions. -/
inductive TunnelEvent
  | uploads (event : StreamNetworkEvent)
  | handles
  | replies
  | works (s : StreamId) (event : StreamNetworkEvent)
  | registers (s : StreamId)
  | opens (s : StreamId) (destination : String)
  | connects (s : StreamId) (replied : Bool)
  | refuses (s : StreamId)
  | delivers (s : StreamId)
  | breaks (s : StreamId) (part : Bytes)
  | ends (s : StreamId)
  | ignores (s : StreamId)
  | unregisters (s : StreamId)
  | downloads (s : StreamId) (read : StreamRead)
  | emits (s : StreamId)

/-- What happens without a look at the other direction: cells move, and the calls read from their
SOCKS clients, send and end. -/
def StreamNetworkEvent.Uploads : StreamNetworkEvent → Prop
  | .moves event => ∀ cell, event ≠ .emit cell
  | .reads _ _ | .sends _ | .stops _ | .closes _ => True
  | _ => False

/-- What the task of a stream does apart from reading its destination. -/
def StreamNetworkEvent.WorksOn (s : StreamId) : StreamNetworkEvent → Prop
  | .writes n | .finishes n | .dies n => n = s
  | _ => False

namespace Tunnel

/-- The channel from the reader of the circuit to the call of a stream. -/
def channel? (t : Tunnel) (s : StreamId) : Option (List Message) :=
  t.up.net.client.streamSenders.lookup s

/-- Change the channels of the circuit. -/
def setSenders (t : Tunnel) (senders : HashMap StreamId (List Message)) : Tunnel :=
  { t with up := { t.up with net := { t.up.net with
    client := { t.up.net.client with streamSenders := senders } } } }

/-- Change where a stream stands at the client. -/
def setPhase (t : Tunnel) (s : StreamId) (phase : StreamPhase) : Tunnel :=
  { t with up := t.up.setPhase s phase }

/-- Change what comes back on a stream. -/
def setDownload (t : Tunnel) (s : StreamId) (d : Download) : Tunnel :=
  { t with downloads := Function.update t.downloads s d }

/-- The call of a stream takes a message from its channel. -/
def take (t : Tunnel) (s : StreamId) (msg : Message) (rest : List Message) : Tunnel :=
  (t.setSenders (t.up.net.client.streamSenders.insert s rest)).setDownload s
    { t.downloads s with taken := (t.downloads s).taken ++ [Circuit.cellOf msg] }

/-- The call of a stream writes to its SOCKS client. -/
def write (t : Tunnel) (s : StreamId) (bytes : Bytes) : Tunnel :=
  t.setDownload s { t.downloads s with written := (t.downloads s).written ++ bytes }

/-- The circuit as it will be when the reply is written. -/
def settled (t : Tunnel) : StreamNetwork := t.up.handBack t.hand.toList

/-- A circuit that is established and has no streams yet, and so no channels. -/
structure Ready (t : Tunnel) : Prop where
  up : t.up.Ready
  hand : t.hand = none
  senders : t.up.net.client.streamSenders = ∅
  downloads : ∀ s, t.downloads s = .start

section

variable [Primitives]

/-- The exit's loop calls the handler, which may return a reply. -/
def handle (t : Tunnel) (io : RelayIo) (msg : Message) (rest : List Message) : Tunnel :=
  { t with
    up := { t.up.exitReads io msg rest with net := (t.up.net.exitHandles io msg rest).1 }
    hand := (t.up.net.exitHandles io msg rest).2 }

/-- The loop writes the reply. -/
def writeReply (t : Tunnel) (reply : Message) : Tunnel :=
  { t with
    up := { t.up with net := t.up.net.writeBack t.up.net.hops [] [reply] }
    hand := none }

/-- The task of a stream emits its next cell, and ends after the last one. -/
def emit (t : Tunnel) (s : StreamId) (cell : MessageCommand × Bytes) : Tunnel :=
  let phase : TaskPhase := (t.downloads s).task.advance
  let task := if phase = TaskPhase.finished then .dead else t.up.tasks s
  let up := { t.up with net := t.up.net.exitEmits ⟨s, cell.1, cell.2⟩ }
  { t with up := up.setTask s task }.setDownload s { t.downloads s with task := phase }

/-- One step. Every id is given to one stream. A call takes a message from its channel only where it
waits for one: before CONNECTED, and when it has no chunk left to send. The exit's loop reads the
next message when it has written its reply, and a task does not wait for that. -/
inductive Step [AddrText] : Tunnel → TunnelEvent → Tunnel → Prop
  | uploads {t : Tunnel} {event : StreamNetworkEvent} {up : StreamNetwork} (hevent : event.Uploads)
      (hstep : StreamNetwork.Step t.up event up) : Step t (.uploads event) { t with up }
  | handles {t : Tunnel} {io : RelayIo} {msg : Message} {rest : List Message}
      (hhand : t.hand = none) (hinbox : t.up.net.exitInbox = msg :: rest)
      (hdelivers : io.Delivers) (htexts : io.TextsFit)
      (hopen : ∀ s stream, t.up.net.exit.streams.lookup s = some stream →
        (io.destinationOpen s = true ↔ t.up.tasks s = .running)) :
      Step t .handles (t.handle io msg rest)
  | replies {t : Tunnel} {reply : Message} (hhand : t.hand = some reply) :
      Step t .replies (t.writeReply reply)
  | /-- The task writes to its destination, or ends: not while it has cells to emit. -/
    works {t : Tunnel} {s : StreamId} {event : StreamNetworkEvent} {up : StreamNetwork}
      (hevent : event.WorksOn s) (hidle : (t.downloads s).task = .idle)
      (hstep : StreamNetwork.Step t.up event up) : Step t (.works s event) { t with up }
  | registers {t : Tunnel} {s : StreamId} (hphase : t.up.phases s = .idle) :
      Step t (.registers s) (t.setSenders (t.up.net.client.registerStream s []).streamSenders)
  | opens {t : Tunnel} {s : StreamId} (destination : String) (hphase : t.up.phases s = .idle)
      (hregistered : (t.channel? s).isSome = true)
      (hfits : (beginPayload destination).length ≤ maxPayloadSize) :
      Step t (.opens s destination)
        { t with up := (t.up.clientSends s .begin (beginPayload destination)).setPhase s .waiting }
  | /-- CONNECTED has come, and the SOCKS client is told so, or has gone. -/
    connects {t : Tunnel} {s : StreamId} {msg : Message} {rest : List Message} (replied : Bool)
      (hphase : t.up.phases s = .waiting) (hchannel : t.channel? s = some (msg :: rest))
      (hcommand : msg.command = .connected) :
      Step t (.connects s replied)
        ((t.take s msg rest).setPhase s (if replied then .relaying [] else .closed))
  | refuses {t : Tunnel} {s : StreamId} {msg : Message} {rest : List Message}
      (hphase : t.up.phases s = .waiting) (hchannel : t.channel? s = some (msg :: rest))
      (hcommand : msg.command ≠ .connected) :
      Step t (.refuses s) ((t.take s msg rest).setPhase s .closing)
  | delivers {t : Tunnel} {s : StreamId} {msg : Message} {rest : List Message}
      (hphase : t.up.phases s = .relaying []) (hchannel : t.channel? s = some (msg :: rest))
      (hcommand : msg.command = .data) :
      Step t (.delivers s) ((t.take s msg rest).write s msg.data)
  | /-- Writing to the SOCKS client fails, after a part of the data perhaps. -/
    breaks {t : Tunnel} {s : StreamId} {msg : Message} {rest : List Message} {part : Bytes}
      (hphase : t.up.phases s = .relaying []) (hchannel : t.channel? s = some (msg :: rest))
      (hcommand : msg.command = .data) (hpart : part <+: msg.data) :
      Step t (.breaks s part) (((t.take s msg rest).write s part).setPhase s .closing)
  | ends {t : Tunnel} {s : StreamId} {msg : Message} {rest : List Message}
      (hphase : t.up.phases s = .relaying []) (hchannel : t.channel? s = some (msg :: rest))
      (hcommand : msg.command = .end) :
      Step t (.ends s) (((t.take s msg rest).setDownload s
        { (t.take s msg rest).downloads s with ended := true }).setPhase s .closing)
  | ignores {t : Tunnel} {s : StreamId} {msg : Message} {rest : List Message}
      (hphase : t.up.phases s = .relaying []) (hchannel : t.channel? s = some (msg :: rest))
      (hcommand : msg.command ≠ .data ∧ msg.command ≠ .end) :
      Step t (.ignores s) (t.take s msg rest)
  | unregisters {t : Tunnel} {s : StreamId} (hphase : t.up.phases s = .closed) :
      Step t (.unregisters s) (t.setSenders (t.up.net.client.unregisterStream s).streamSenders)
  | /-- The task reads from its destination. The text of an error fits a cell. -/
    downloads {t : Tunnel} {s : StreamId} (read : StreamRead) (htask : t.up.tasks s = .running)
      (hidle : (t.downloads s).task = .idle)
      (hfits : ∀ cell ∈ read.cells, cell.2.length ≤ maxPayloadSize) :
      Step t (.downloads s read) (t.setDownload s
        { t.downloads s with
          task := .next read.cells read.isLast
          read := (t.downloads s).read ++ read.bytes })
  | emits {t : Tunnel} {s : StreamId} {cell : MessageCommand × Bytes}
      {cells : List (MessageCommand × Bytes)}
      (hcells : (t.downloads s).task.cells = cell :: cells) : Step t (.emits s) (t.emit s cell)

/-- The runs of a circuit with its streams in both directions. -/
def system [AddrText] : TransitionSystem Tunnel TunnelEvent where
  init := Ready
  step := Step

omit [Primitives] in
/-- No task emits a cell while the loop holds a reply. -/
def KeepsOrder (t : Tunnel) : TunnelEvent → Prop
  | .emits _ => t.hand = none
  | _ => True

/-- The runs in which no cell overtakes a reply. -/
def orderly [AddrText] : TransitionSystem Tunnel TunnelEvent := system.restrict KeepsOrder

end

/-! ## The cells of one stream -/

theorem commandsOf_eq_map (s : StreamId) (cells : List RelayCell) :
    commandsOf s cells = (cellsOf s cells).map RelayCell.command := rfl

theorem cellsOf_append (s : StreamId) (cells others : List RelayCell) :
    cellsOf s (cells ++ others) = cellsOf s cells ++ cellsOf s others :=
  List.filter_append _ _

/-- Cells of other streams. -/
theorem cellsOf_eq_nil {s : StreamId} {cells : List RelayCell}
    (hother : ∀ cell ∈ cells, cell.streamId ≠ s) : cellsOf s cells = [] := by
  rw [cellsOf, List.filter_eq_nil_iff]
  intro cell hmem heq
  exact hother cell hmem (beq_iff_eq.mp heq)

/-- Cells of the stream itself. -/
theorem cellsOf_eq_self {s : StreamId} {cells : List RelayCell}
    (hsame : ∀ cell ∈ cells, cell.streamId = s) : cellsOf s cells = cells := by
  rw [cellsOf, List.filter_eq_self]
  intro cell hmem
  exact beq_iff_eq.mpr (hsame cell hmem)

/-- The data of a stream is in its cells. -/
theorem dataOf_cellsOf (s : StreamId) (cells : List RelayCell) :
    dataOf s (cellsOf s cells) = dataOf s cells := by
  rw [dataOf, dataOf, cellsOf, List.filter_filter]
  congr 2
  funext cell
  cases cell.streamId == s <;> simp

/-- Cells without DATA carry no data. -/
theorem dataOf_eq_nil_of_command {s : StreamId} {cells : List RelayCell}
    (hcells : ∀ cell ∈ cells, cell.command ≠ .data) : dataOf s cells = [] := by
  rw [dataOf, List.map_eq_nil_iff, List.filter_eq_nil_iff]
  intro cell hmem heq
  exact hcells cell hmem (beq_iff_eq.mp (Bool.and_eq_true_iff.mp heq).2)

/-- A first part of the cells has a first part of the stream's. -/
theorem cellsOf_mono {s : StreamId} {cells others : List RelayCell} (h : cells <+: others) :
    cellsOf s cells <+: cellsOf s others :=
  h.filter _

/-! ## The cells that a task holds -/

/-- A task with cells to emit is emitting. -/
theorem eq_sending_of_cells {phase : TaskPhase} {cell : MessageCommand × Bytes}
    {cells : List (MessageCommand × Bytes)} (h : phase.cells = cell :: cells) :
    ∃ last, phase = .sending (cell :: cells) last := by
  cases phase with
  | sending held last =>
      obtain rfl : held = cell :: cells := h
      exact ⟨last, rfl⟩
  | _ => cases h

/-- Going on with cells holds them. -/
theorem cells_next (cells : List (MessageCommand × Bytes)) (last : Bool) :
    (TaskPhase.next cells last).cells = cells := by
  cases cells with
  | nil => cases last <;> rfl
  | cons cell cells => rfl

/-- What a task holds after a read is what it has read. -/
theorem bytes_next (out : StreamRead) :
    (TaskPhase.next out.cells out.isLast).bytes = out.bytes := by
  rw [TaskPhase.bytes, cells_next]
  cases out with
  | data bytes =>
      have hall : ((StreamRead.data bytes).cells.filter fun cell => cell.1 == .data) =
          (StreamRead.data bytes).cells := by
        rw [List.filter_eq_self]
        intro cell hmem
        obtain ⟨chunk, -, rfl⟩ := List.mem_map.mp hmem
        rfl
      rw [hall, StreamRead.cells, List.map_map, StreamRead.bytes]
      exact (congrArg List.flatten (List.map_id _)).trans (flatten_chunks _ (le_refl _))
  | _ => rfl

/-- The cells of one read: DATA only, or one END and nothing after it. -/
def Orderly : TaskPhase → Prop
  | .sending cells false => ∀ cell ∈ cells, cell.1 = .data
  | .sending cells true => ∃ text, cells = [(.end, text)]
  | _ => True

/-- A read gives such cells. -/
theorem orderly_next (out : StreamRead) : Orderly (.next out.cells out.isLast) := by
  cases out with
  | closed => exact ⟨[], rfl⟩
  | error message => exact ⟨_, rfl⟩
  | data bytes =>
      rw [TaskPhase.next]
      split
      · trivial
      · intro cell hmem
        obtain ⟨chunk, -, rfl⟩ := List.mem_map.mp hmem
        rfl

/-- And so does going on with them. -/
theorem Orderly.advance {phase : TaskPhase} (h : Orderly phase) : Orderly phase.advance := by
  cases phase with
  | idle => exact h
  | finished => exact h
  | sending cells last =>
      cases cells with
      | nil => exact h
      | cons cell rest =>
          cases rest with
          | nil => cases last <;> trivial
          | cons later rest =>
              cases last with
              | false => exact fun cell hmem => h cell (List.mem_cons_of_mem _ hmem)
              | true =>
                  obtain ⟨text, heq⟩ := h
                  cases (List.cons.inj heq).2

/-! ## The exit's end -/

/-- The exit's end of the way back: the cells that the exit has emitted on a stream carry what its
task has read, but for what the task holds; and as long as the client has not ended the stream,
END comes only from a task that has stopped, so that no data follows it. -/
structure ExitSays (s : StreamId) (phase : TaskPhase) (read : Bytes) (task : ExitTaskPhase)
    (recovered emitted : List RelayCell) : Prop where
  silent : commandsOf s recovered = [] → cellsOf s emitted = []
  bytes : (dataOf s emitted).flatten ++ phase.bytes = read
  working : phase.cells ≠ [] → task = .running
  orderly : Orderly phase
  emittable : ∀ cell ∈ phase.cells, RelayCell.Emittable ⟨s, cell.1, cell.2⟩
  ending : .end ∈ commandsOf s emitted → .end ∈ commandsOf s recovered ∨ task ≠ .running
  order : .end ∉ commandsOf s recovered →
    (cellsOf s emitted).Pairwise fun first later => first.command = .end → later.command ≠ .data

/-- The client's end of the way back: what the call has taken and what is in its channel are the
cells that have been received on the stream, and the call has written the data it has taken. -/
structure CallHears (s : StreamId) (d : Download) (phase : StreamPhase) (received : List RelayCell)
    (channel : Option (List Message)) : Prop where
  queued : ∀ queue, channel = some queue → d.taken ++ queue.map Circuit.cellOf = cellsOf s received
  taken : d.taken <+: cellsOf s received
  registered : phase ≠ .idle → phase ≠ .closed → channel ≠ none
  waits : phase = .idle ∨ phase = .waiting → d.taken = [] ∧ d.written = []
  written : d.written <+: (dataOf s d.taken).flatten
  exact : (∃ chunks, phase = .relaying chunks) ∨ d.ended = true →
    d.written = (dataOf s d.taken).flatten

/-- A call that has read END has been given all that the task of its stream has read or ever will:
the task has stopped. -/
structure Whole (s : StreamId) (d : Download) (phase : StreamPhase) (task : ExitTaskPhase)
    (recovered : List RelayCell) : Prop where
  left : phase = .closing ∨ phase = .closed
  stopped : task ≠ .running
  begun : commandsOf s recovered ≠ []
  same : d.written = d.read

namespace ExitSays

variable {s : StreamId} {phase : TaskPhase} {read : Bytes} {task : ExitTaskPhase}
  {recovered emitted : List RelayCell}

/-- Cells of other streams are recovered and emitted. -/
theorem other (h : ExitSays s phase read task recovered emitted) {cells answers : List RelayCell}
    (hcells : ∀ cell ∈ cells, cell.streamId ≠ s)
    (hanswers : ∀ cell ∈ answers, cell.streamId ≠ s) :
    ExitSays s phase read task (recovered ++ cells) (emitted ++ answers) := by
  have hrecovered : commandsOf s (recovered ++ cells) = commandsOf s recovered := by
    rw [commandsOf_append, commandsOf_eq_map s cells, cellsOf_eq_nil hcells, List.map_nil,
      List.append_nil]
  have hemitted : cellsOf s (emitted ++ answers) = cellsOf s emitted := by
    rw [cellsOf_append, cellsOf_eq_nil hanswers, List.append_nil]
  have hdata : dataOf s (emitted ++ answers) = dataOf s emitted := by
    rw [← dataOf_cellsOf, hemitted, dataOf_cellsOf]
  refine ⟨?_, ?_, h.working, h.orderly, h.emittable, ?_, ?_⟩
  · rw [hrecovered, hemitted]
    exact h.silent
  · rw [hdata]
    exact h.bytes
  · rw [hrecovered, commandsOf_eq_map s (emitted ++ answers), hemitted]
    exact h.ending
  · rw [hrecovered, hemitted]
    exact h.order

/-- The task stops when it has nothing to emit. -/
theorem stops (h : ExitSays s phase read task recovered emitted) (hidle : phase = .idle)
    {task' : ExitTaskPhase} (hstopped : task' ≠ .running) :
    ExitSays s phase read task' recovered emitted := by
  refine ⟨h.silent, h.bytes, ?_, h.orderly, h.emittable, fun _ => Or.inr hstopped, h.order⟩
  rw [hidle]
  exact fun hcells => absurd rfl hcells

/-- The task reads from its destination. -/
theorem reads (h : ExitSays s .idle read .running recovered emitted) (out : StreamRead)
    (hfits : ∀ cell ∈ out.cells, cell.2.length ≤ maxPayloadSize) :
    ExitSays s (.next out.cells out.isLast) (read ++ out.bytes) .running recovered emitted := by
  refine ⟨h.silent, ?_, fun _ => rfl, orderly_next out, ?_, h.ending, h.order⟩
  · rw [bytes_next, ← h.bytes]
    simp [TaskPhase.bytes, TaskPhase.cells]
  · rw [cells_next]
    exact fun cell hmem => ⟨⟨out, hmem⟩, hfits cell hmem⟩

/-- The task emits its next cell. -/
theorem emits (h : ExitSays s phase read task recovered emitted) {cell : MessageCommand × Bytes}
    {cells : List (MessageCommand × Bytes)} (hcells : phase.cells = cell :: cells)
    (hbegun : commandsOf s recovered ≠ []) :
    ExitSays s phase.advance read (if phase.advance = .finished then .dead else task) recovered
      (emitted ++ [⟨s, cell.1, cell.2⟩]) := by
  obtain ⟨last, rfl⟩ := eq_sending_of_cells hcells
  have hrunning : task = .running := h.working (by rw [hcells]; simp)
  have hself : cellsOf s [⟨s, cell.1, cell.2⟩] = [⟨s, cell.1, cell.2⟩] :=
    cellsOf_eq_self (by simp)
  -- END is the last cell of its read, and the task stops with it
  have hend : cell.1 = .end → TaskPhase.next cells last = .finished := by
    intro hcommand
    cases last with
    | true =>
        obtain ⟨text, heq⟩ := h.orderly
        rw [(List.cons.inj heq).2]
        rfl
    | false =>
        have hdata := h.orderly cell (List.mem_cons_self ..)
        rw [hcommand] at hdata
        cases hdata
  refine ⟨fun hnone => absurd hnone hbegun, ?_, ?_, ?_, ?_, ?_, ?_⟩
  · rw [← h.bytes, dataOf_append, dataOf_singleton, TaskPhase.advance, TaskPhase.bytes,
      TaskPhase.bytes, cells_next, hcells, List.flatten_append, List.append_assoc]
    by_cases hdata : cell.1 = .data <;> simp [hdata]
  · intro hleft
    rw [if_neg, hrunning]
    intro hfinished
    rw [hfinished] at hleft
    exact hleft rfl
  · exact h.orderly.advance
  · intro other hmem
    rw [TaskPhase.advance, cells_next] at hmem
    exact h.emittable other (by rw [hcells]; exact List.mem_cons_of_mem _ hmem)
  · intro hmem
    rw [commandsOf_append, List.mem_append] at hmem
    rcases hmem with hbefore | hlast
    · exact (h.ending hbefore).imp_right fun hstopped => absurd hrunning hstopped
    · rw [commandsOf_singleton, if_pos rfl, List.mem_singleton] at hlast
      refine Or.inr ?_
      rw [TaskPhase.advance, if_pos (hend hlast.symm)]
      decide
  · intro hopen
    rw [cellsOf_append, hself, List.pairwise_append]
    refine ⟨h.order hopen, List.pairwise_singleton _ _, ?_⟩
    intro first hfirst later _ hcommand
    have hover : .end ∈ commandsOf s emitted := by
      rw [commandsOf_eq_map]
      exact hcommand ▸ List.mem_map_of_mem hfirst
    rcases h.ending hover with hended | hstopped
    · exact absurd hended hopen
    · exact absurd hrunning hstopped

/-- The exit serves a cell of the stream: it answers with CONNECTED or END, or not at all. -/
theorem serves {io : RelayIo} {h : ExitCircuitHandler} {cell : RelayCell}
    {out : Handled ExitCircuitHandler (Option Message)} {queued written : List Bytes}
    {connected : Prop} (htells : ExitSays cell.streamId phase read task recovered emitted)
    (hok : StreamNetwork.ExitOk cell.streamId task recovered (h.streams.lookup cell.streamId)
      queued written connected)
    (hserves : h.Serves io cell out)
    (hsealed : ∀ answer ∈ out.effects.filterMap RelayEffect.sealed?,
      answer.streamId = cell.streamId)
    (hfirst : cell.command = .begin → commandsOf cell.streamId recovered = [])
    (hopen : ∀ stream, h.streams.lookup cell.streamId = some stream →
      (io.destinationOpen cell.streamId = true ↔ task = .running)) :
    ExitSays cell.streamId phase read
      (if cell.streamId ∈ out.effects.filterMap RelayEffect.opened? then .running else task)
      (recovered ++ [cell]) (emitted ++ out.effects.filterMap RelayEffect.sealed?) := by
  have hcommands : commandsOf cell.streamId (recovered ++ [cell]) =
      commandsOf cell.streamId recovered ++ [cell.command] := by
    rw [commandsOf_append, commandsOf_singleton, if_pos rfl]
  have hplain : ∀ answer ∈ out.effects.filterMap RelayEffect.sealed?, answer.command ≠ .data := by
    cases hserves with
    | connects stream hcommand hstreams hqueued hopened hconnected =>
        rw [hconnected]
        simp
    | queues stream hcommand hlookup hstreams hqueued hopened hnone =>
        rw [hnone]
        simp
    | refuses hcommand hstreams hqueued hopened hends
    | ends hcommand hstreams hqueued hopened hends =>
        intro answer hmem
        rw [hends answer hmem]
        decide
  refine ⟨?_, ?_, ?_, htells.orderly, htells.emittable, ?_, ?_⟩
  · rw [hcommands]
    simp
  · rw [dataOf_append, dataOf_eq_nil_of_command hplain, List.append_nil]
    exact htells.bytes
  · intro hleft
    rw [htells.working hleft, ite_self]
  · rw [hcommands, commandsOf_append, List.mem_append, List.mem_append]
    intro hmem
    have hbefore := fun hend => (htells.ending hend).imp_left (Or.inl (b := .end ∈ [cell.command]))
    cases hserves with
    | connects stream hcommand hstreams hqueued hopened hconnected =>
        have hnone : cellsOf cell.streamId emitted = [] := htells.silent (hfirst hcommand)
        rw [commandsOf_eq_map, hnone, hconnected] at hmem
        simp [commandsOf] at hmem
    | queues stream hcommand hlookup hstreams hqueued hopened hnone =>
        rw [hnone] at hmem
        rw [hopened, if_neg (by simp)]
        exact hbefore (hmem.resolve_right (by simp [commandsOf]))
    | refuses hcommand hstreams hqueued hopened hends =>
        rw [hopened, if_neg (by simp)]
        by_cases hended : .end ∈ commandsOf cell.streamId recovered
        · exact Or.inl (Or.inl hended)
        · refine Or.inr ?_
          intro hrunning
          subst hrunning
          rcases hcommand with ⟨hbegin, -⟩ | ⟨-, hclosed⟩
          · cases hok.unopened (by rw [hfirst hbegin]; simp)
          · obtain ⟨stream, hstream⟩ :=
              Option.ne_none_iff_exists'.mp (hok.present (by decide) hended)
            have hlive := (hopen stream hstream).mpr rfl
            rw [hclosed stream hstream] at hlive
            cases hlive
    | ends hcommand => exact Or.inl (Or.inr (by rw [hcommand]; simp))
  · rw [hcommands]
    intro hnever
    rw [cellsOf_append, cellsOf_eq_self hsealed, List.pairwise_append]
    refine ⟨htells.order fun hend => hnever (List.mem_append_left _ hend), ?_, ?_⟩
    · exact List.pairwise_of_forall_mem_list fun first _ later hmem _ => hplain later hmem
    · exact fun first _ later hmem _ => hplain later hmem

end ExitSays

namespace CallHears

variable {s : StreamId} {d : Download} {phase : StreamPhase} {received : List RelayCell}
  {channel : Option (List Message)}

/-- The reader of the circuit receives a message, and puts it into the channel of its stream. -/
theorem receives (h : CallHears s d phase received channel) (msg : Message) :
    CallHears s d phase (received ++ [Circuit.cellOf msg])
      (channel.map fun queue => if msg.streamId = s then queue ++ [msg] else queue) := by
  refine ⟨?_, ?_, ?_, h.waits, h.written, h.exact⟩
  · intro queue hqueue
    obtain ⟨before, hbefore, rfl⟩ := Option.map_eq_some_iff.mp hqueue
    rw [cellsOf_append, ← h.queued before hbefore]
    by_cases hstream : msg.streamId = s
    · simp [hstream, cellsOf, Circuit.cellOf]
    · simp [hstream, cellsOf, Circuit.cellOf]
  · rw [cellsOf_append]
    exact h.taken.trans (List.prefix_append _ _)
  · intro hidle hclosed hnone
    exact h.registered hidle hclosed (Option.map_eq_none_iff.mp hnone)

/-- The task of the stream moves on. -/
theorem congr (h : CallHears s d phase received channel) {d' : Download}
    (htaken : d'.taken = d.taken) (hwritten : d'.written = d.written)
    (hended : d'.ended = d.ended) : CallHears s d' phase received channel := by
  refine ⟨?_, ?_, h.registered, ?_, ?_, ?_⟩
  · rw [htaken]
    exact h.queued
  · rw [htaken]
    exact h.taken
  · rw [htaken, hwritten]
    exact h.waits
  · rw [htaken, hwritten]
    exact h.written
  · rw [htaken, hwritten, hended]
    exact h.exact

/-- The call goes on without a look at its channel. -/
theorem goesOn (h : CallHears s d phase received channel) {phase' : StreamPhase}
    (hbefore : phase ≠ .idle ∧ phase ≠ .closed) (hafter : phase' ≠ .idle ∧ phase' ≠ .waiting)
    (hrelaying : (∃ chunks, phase' = .relaying chunks) → ∃ chunks, phase = .relaying chunks) :
    CallHears s d phase' received channel := by
  refine ⟨h.queued, h.taken, fun _ _ => h.registered hbefore.1 hbefore.2, ?_, h.written, ?_⟩
  · rintro (hidle | hwaiting)
    · exact absurd hidle hafter.1
    · exact absurd hwaiting hafter.2
  · rintro (hphase | hended)
    · exact h.exact (Or.inl (hrelaying hphase))
    · exact h.exact (Or.inr hended)

/-- A message in the channel of a stream is of that stream. -/
theorem streamId_eq {msg : Message} {rest : List Message}
    (h : CallHears s d phase received (some (msg :: rest))) : msg.streamId = s := by
  have hmem : Circuit.cellOf msg ∈ cellsOf s received := by
    rw [← h.queued _ rfl]
    simp
  exact beq_iff_eq.mp (List.mem_filter.mp hmem).2

/-- The call takes the next message from its channel, and goes on with what it has written then. -/
theorem takes {msg : Message} {rest : List Message}
    (h : CallHears s d phase received (some (msg :: rest))) {phase' : StreamPhase} {written : Bytes}
    {ended : Bool} (hafter : phase' ≠ .idle ∧ phase' ≠ .waiting)
    (hwritten : written <+: (dataOf s (d.taken ++ [Circuit.cellOf msg])).flatten)
    (hexact : (∃ chunks, phase' = .relaying chunks) ∨ ended = true →
      written = (dataOf s (d.taken ++ [Circuit.cellOf msg])).flatten) :
    CallHears s ⟨d.task, d.read, d.taken ++ [Circuit.cellOf msg], written, ended⟩ phase' received
      (some rest) := by
  have hqueued : d.taken ++ [Circuit.cellOf msg] ++ rest.map Circuit.cellOf =
      cellsOf s received := by
    rw [← h.queued _ rfl, List.map_cons, List.append_assoc, List.singleton_append]
  refine ⟨?_, ⟨_, hqueued⟩, fun _ _ => by simp, ?_, hwritten, hexact⟩
  · intro queue heq
    cases heq
    exact hqueued
  · rintro (hidle | hwaiting)
    · exact absurd hidle hafter.1
    · exact absurd hwaiting hafter.2

/-- What the call has taken, after one more message. -/
theorem dataOf_taken {msg : Message} {rest : List Message}
    (h : CallHears s d phase received (some (msg :: rest))) :
    (dataOf s (d.taken ++ [Circuit.cellOf msg])).flatten =
      (dataOf s d.taken).flatten ++ if msg.command = .data then msg.data else [] := by
  rw [dataOf_append, dataOf_singleton, List.flatten_append]
  by_cases hdata : msg.command = .data <;>
    simp [Circuit.cellOf, h.streamId_eq, hdata]

end CallHears

end Tunnel

end NoPanic
