/-
# The order of backward cells

A backward cell takes its place in the running digest and in the keystream when it
is sealed, and its place in what the client reads when it is written. The two
orders agree as long as nobody seals a cell while a sealed one is unwritten: then
an exit circuit is a sequencer, and the client accepts every cell. The tasks of the
streams keep to this among themselves, since they hold the crypto lock until they
have written; but a reply with END that the handler returns is unwritten without
any lock.
-/

import NoPanic.Circuit.ExitNode
import NoPanic.Circuit.Network
import NoPanic.Math.Sequencer

namespace NoPanic

open NoPanic.Math

/-- The cells that a task has still to emit are END and DATA, and DATA fits a cell. -/
def StreamTask.Speaks (task : StreamTask) : Prop :=
  ∀ cell ∈ task.phase.cells,
    cell.1 = .end ∨ (cell.1 = .data ∧ cell.2.length ≤ maxPayloadSize)

/-- What a task emits for a read. -/
theorem StreamRead.cells_speak (read : StreamRead) :
    ∀ cell ∈ read.cells, cell.1 = .end ∨ (cell.1 = .data ∧ cell.2.length ≤ maxPayloadSize) := by
  intro cell hcell
  cases read with
  | closed =>
      rw [StreamRead.cells, List.mem_singleton] at hcell
      exact .inl (congrArg Prod.fst hcell)
  | data bytes =>
      obtain ⟨chunk, hchunk, rfl⟩ := List.mem_map.mp hcell
      exact .inr ⟨rfl, length_le_of_mem_chunks hchunk⟩
  | error message =>
      rw [StreamRead.cells, List.mem_singleton] at hcell
      exact .inl (congrArg Prod.fst hcell)

/-- A cell that fits is written, or the connection breaks. -/
theorem Wire.write_eq (wire : Wire) {msg : Message}
    (hfits : msg.data.length ≤ maxPayloadSize) (stream : Except String Unit) :
    wire.write msg stream =
      match stream with
      | .ok () => ({ wire with cells := wire.cells ++ [msg] }, .ok ())
      | .error e => ({ wire with up := false }, .error (.io e)) := by
  cases stream <;> simp [Wire.write, Message.writeToStream, Nat.not_lt.mpr hfits, Except.mapError]

namespace ExitNode

/-- The condition under which the order is kept: a task seals no cell while the loop
holds a sealed reply, and an END that is sealed fits a cell. -/
def Orderly (node : ExitNode) : ExitEvent → Prop
  | .seals who =>
      (who ≠ .loop → node.reply = none) ∧
        ∀ cell, node.nextCell who = some cell → cell.command = .end →
          cell.data.length ≤ maxPayloadSize
  | _ => True

/-- The written cells are in the order in which they were sealed, and none is left
out but those that are still to be written. -/
def InOrder (node : ExitNode) : Prop :=
  node.wire.cells <+: node.sealedCells ∧
    (node.wire.up = true → node.pending = none → node.wire.cells = node.sealedCells)

/-- What holds between the steps of an orderly run. -/
structure Tidy (circuitId : CircuitId) (node : ExitNode) : Prop where
  id : node.context.circuitId = circuitId
  /-- A reply of the loop is pending without a lock. -/
  unlocked : node.reply.isSome = true → node.guard = none
  tasks : ∀ task ∈ node.tasks, task.Speaks
  fits : ∀ msg, node.pending = some msg → msg.data.length ≤ maxPayloadSize
  emitted : ∀ cell ∈ node.emitted, cell.command ≠ .padding ∧ cell.command ≠ .destroy ∧
    cell.data.length ≤ maxPayloadSize

/-- An exit circuit as a sequencer of backward cells. -/
def sequencer (node : ExitNode) : Sequencer OnionEnd RelayCell Message :=
  ⟨node.shared.backwardEnd, node.emitted, node.sealedCells, node.pending, node.wire.cells,
    node.wire.up⟩

/-- A circuit at its start is tidy. -/
theorem tidy_start (h : ExitCircuitHandler) (shared : ExitCryptoState) :
    (start h shared).Tidy h.context.circuitId where
  id := rfl
  unlocked := fun h => by cases h
  tasks := fun _ h => by cases h
  fits := fun _ h => by cases h
  emitted := fun _ h => by cases h

/-- A change of a task's phase keeps what the tasks say. -/
theorem speaks_setTask {node : ExitNode} (n : Nat) {f : TaskPhase → TaskPhase}
    (htasks : ∀ task ∈ node.tasks, task.Speaks)
    (hcells : ∀ task ∈ node.tasks, StreamTask.Speaks { task with phase := f task.phase }) :
    ∀ task ∈ (node.setTask n f).tasks, task.Speaks := by
  intro task htask
  obtain ⟨i, hi, rfl⟩ := List.mem_iff_getElem.mp htask
  simp only [setTask, List.length_modify] at hi
  simp only [setTask, List.getElem_modify]
  by_cases hn : n = i
  · rw [if_pos hn]
    exact hcells _ (List.getElem_mem hi)
  · rw [if_neg hn]
    exact htasks _ (List.getElem_mem hi)

/-- Cells that are left over are cells that were there. -/
theorem speaks_next {streamId : StreamId} {cells : List (MessageCommand × Bytes)} (last : Bool)
    (hcells : ∀ cell ∈ cells, cell.1 = .end ∨ (cell.1 = .data ∧ cell.2.length ≤ maxPayloadSize)) :
    StreamTask.Speaks ⟨streamId, .next cells last⟩ := by
  intro cell hcell
  apply hcells
  cases cells with
  | nil => cases last <;> simp [TaskPhase.next, TaskPhase.cells] at hcell
  | cons first rest => simpa [TaskPhase.next, TaskPhase.cells] using hcell

/-- A task that has written a cell. -/
theorem speaks_advance {task : StreamTask} (htask : task.Speaks) :
    StreamTask.Speaks { task with phase := task.phase.advance } := by
  obtain ⟨streamId, phase⟩ := task
  cases phase with
  | idle => exact htask
  | finished => exact htask
  | sending cells last =>
      cases cells with
      | nil => exact htask
      | cons first rest => exact speaks_next last fun cell hcell => htask cell (.tail _ hcell)

/-! ## Quiet steps -/

/-- A step that neither seals nor writes. -/
structure Quiet (node after : ExitNode) : Prop where
  id : after.context.circuitId = node.context.circuitId
  backward : after.shared.backwardEnd = node.shared.backwardEnd
  guard : after.guard = node.guard
  reply : after.reply = node.reply
  wire : after.wire = node.wire
  emitted : after.emitted = node.emitted
  sealedCells : after.sealedCells = node.sealedCells

/-- Nothing happens to the sequencer in a quiet step. -/
theorem Quiet.sequencer_eq {node after : ExitNode} (h : Quiet node after) :
    after.sequencer = node.sequencer := by
  simp [sequencer, pending, h.backward, h.guard, h.reply, h.wire, h.emitted, h.sealedCells]

/-- A quiet step keeps a circuit tidy. -/
theorem Tidy.quiet {circuitId : CircuitId} {node after : ExitNode} (h : node.Tidy circuitId)
    (hquiet : Quiet node after) (htasks : ∀ task ∈ after.tasks, task.Speaks) :
    after.Tidy circuitId where
  id := hquiet.id.trans h.id
  unlocked := by
    rw [hquiet.reply, hquiet.guard]
    exact h.unlocked
  tasks := htasks
  fits := by
    rw [pending, hquiet.reply, hquiet.guard]
    exact h.fits
  emitted := by
    rw [hquiet.emitted]
    exact h.emitted

/-- Changing the loop's phase is quiet when there is no reply before and after. -/
theorem reply_of_loop {node : ExitNode} {phase : LoopPhase} (hloop : node.loop = phase)
    (hphase : ∀ reply, phase ≠ .replying reply) : node.reply = none := by
  cases phase with
  | replying reply => exact absurd rfl (hphase reply)
  | _ => simp [reply, hloop]

/-- Handling a cell without a lock is quiet. -/
theorem quiet_dispatch {node : ExitNode} {msg : Message} (hloop : node.loop = .opening msg) :
    Quiet node (node.dispatch msg) ∧ (node.dispatch msg).tasks = node.tasks := by
  have hreply := reply_of_loop hloop fun _ h => by cases h
  rw [dispatch]
  split
  · exact ⟨⟨rfl, rfl, rfl, hreply.symm, rfl, rfl, rfl⟩, rfl⟩
  · exact ⟨⟨rfl, rfl, rfl, hreply.symm, rfl, rfl, rfl⟩, rfl⟩
  · exact ⟨⟨rfl, rfl, rfl, hreply.symm, rfl, rfl, rfl⟩, rfl⟩

/-- Deciding is quiet. -/
theorem quiet_decide (io : RelayIo) {node : ExitNode} {msg : Message} {decrypted : Bytes}
    (hloop : node.loop = .deciding msg decrypted) :
    Quiet node (node.decide io msg decrypted) ∧
      (node.decide io msg decrypted).tasks = node.tasks := by
  have hreply := reply_of_loop hloop fun _ h => by cases h
  have hquiet : ∀ streams phase, (∀ reply, phase ≠ LoopPhase.replying reply) →
      Quiet node { node with streams := streams, loop := phase } := by
    intro streams phase hphase
    exact ⟨rfl, rfl, rfl, (reply_of_loop rfl hphase).trans hreply.symm, rfl, rfl, rfl⟩
  rw [decide]
  split
  · split
    · exact ⟨hquiet _ _ (fun _ h => by cases h), rfl⟩
    · simp only
      split
      · exact ⟨hquiet _ _ (fun _ h => by cases h), rfl⟩
      · exact ⟨hquiet _ _ (fun _ h => by cases h), rfl⟩
  · split
    · split
      · exact ⟨hquiet _ _ (fun _ h => by cases h), rfl⟩
      · exact ⟨hquiet _ _ (fun _ h => by cases h), rfl⟩
    · exact ⟨hquiet _ _ (fun _ h => by cases h), rfl⟩
  · exact ⟨hquiet _ _ (fun _ h => by cases h), rfl⟩

/-- What an emitter seals is no padding and no DESTROY, and fits a cell unless it is
END. -/
theorem Tidy.nextCell_speaks {circuitId : CircuitId} {node : ExitNode} (h : node.Tidy circuitId)
    {who : Emitter} {cell : RelayCell} (hnext : node.nextCell who = some cell) :
    cell.command ≠ .padding ∧ cell.command ≠ .destroy ∧
      (cell.command ≠ .end → cell.data.length ≤ maxPayloadSize) := by
  cases who with
  | loop =>
      cases hloop : node.loop <;>
        simp only [nextCell, hloop, reduceCtorEq, Option.some.injEq] at hnext
      · subst hnext
        simp
      · subst hnext
        simp
  | task n =>
      simp only [nextCell, Option.bind_eq_some_iff, Option.map_eq_some_iff] at hnext
      obtain ⟨task, htask, first, hfirst, rfl⟩ := hnext
      have hspeaks := h.tasks task (List.mem_of_getElem? htask) first
        (List.mem_of_mem_head? hfirst)
      rcases hspeaks with hend | ⟨hdata, hfits⟩
      · simp [hend]
      · simp [hdata, hfits]
  | other n => simp [nextCell] at hnext

/-! ## Sealing and writing -/

/-- What an emitter writes is pending. -/
theorem Tidy.pending_of_toWrite {circuitId : CircuitId} {node : ExitNode}
    (h : node.Tidy circuitId) {who : Emitter} {msg : Message}
    (hmsg : node.toWrite who = some msg) : node.pending = some msg := by
  have hheld : ∀ owner, (node.guard.filter fun g => g.owner = owner).map CryptoGuard.reply =
      some msg → node.pending = some msg := by
    intro owner howner
    simp only [Option.map_eq_some_iff, Option.filter_eq_some_iff] at howner
    obtain ⟨g, ⟨hg, -⟩, rfl⟩ := howner
    have hreply : node.reply = none := by
      by_contra hsome
      simp [h.unlocked (Option.isSome_iff_ne_none.mpr hsome)] at hg
    simp [pending, hreply, hg]
  cases who with
  | loop =>
      cases hloop : node.loop <;> simp only [toWrite, hloop, reduceCtorEq] at hmsg
      · exact hheld .loop hmsg
      · simpa [pending, reply, hloop] using hmsg
  | task n => exact hheld _ hmsg
  | other n => simp [toWrite] at hmsg

/-- After a write nothing is pending. -/
theorem Tidy.pending_written {circuitId : CircuitId} {node : ExitNode} (h : node.Tidy circuitId)
    {who : Emitter} {msg : Message} (hmsg : node.toWrite who = some msg)
    (result : Except TorError Unit) :
    (node.written who result).pending = none := by
  cases who with
  | loop =>
      cases hloop : node.loop <;> simp only [toWrite, hloop, reduceCtorEq] at hmsg
      · cases result <;> simp [written, loopWritten, hloop, pending, reply]
      · have hguard := h.unlocked (by simp [reply, hloop])
        cases result <;> simp [written, loopWritten, hloop, pending, reply, hguard]
  | task n =>
      have hreply : node.reply = none := by
        by_contra hsome
        simp [toWrite, h.unlocked (Option.isSome_iff_ne_none.mpr hsome)] at hmsg
      have hquiet : ∀ after : ExitNode, after.loop = node.loop → after.guard = none →
          after.pending = none := by
        intro after hafter hguard
        simp only [pending, hguard, Option.map_none, Option.or_none]
        rw [← hreply, reply, reply, hafter]
      cases result <;> exact hquiet _ rfl rfl
  | other n => simp [toWrite] at hmsg

/-- A write leaves the crypto state and the history alone. -/
theorem written_frame (node : ExitNode) (who : Emitter) (result : Except TorError Unit) :
    (node.written who result).context = node.context ∧
      (node.written who result).shared = node.shared ∧
      (node.written who result).wire = node.wire ∧
      (node.written who result).emitted = node.emitted ∧
      (node.written who result).sealedCells = node.sealedCells := by
  cases who with
  | loop =>
      rw [written, loopWritten.eq_def]
      split <;> exact ⟨rfl, rfl, rfl, rfl, rfl⟩
  | task n => cases result <;> exact ⟨rfl, rfl, rfl, rfl, rfl⟩
  | other n => exact ⟨rfl, rfl, rfl, rfl, rfl⟩

/-- After a write the tasks still emit END and DATA. -/
theorem speaks_written {node : ExitNode} (who : Emitter) (result : Except TorError Unit)
    (htasks : ∀ task ∈ node.tasks, task.Speaks) :
    ∀ task ∈ (node.written who result).tasks, task.Speaks := by
  cases who with
  | loop =>
      rw [written, loopWritten.eq_def]
      split
      · intro task htask
        rcases List.mem_append.mp htask with hold | hnew
        · exact htasks task hold
        · rw [List.mem_singleton.mp hnew]
          exact fun _ h => by cases h
      · exact htasks
      · exact htasks
      · exact htasks
  | task n =>
      cases result with
      | ok _ => exact speaks_setTask n htasks fun task htask => speaks_advance (htasks task htask)
      | error _ =>
          exact speaks_setTask n (f := fun _ => .finished) htasks
            fun _ _ _ hcell => absurd hcell List.not_mem_nil
  | other n => exact htasks

section

variable [Primitives]

/-- Opening a cell is quiet. -/
theorem quiet_openCell {node : ExitNode} {msg : Message} (hloop : node.loop = .opening msg) :
    Quiet node (node.openCell msg) ∧ (node.openCell msg).tasks = node.tasks := by
  have hreply := reply_of_loop hloop fun _ h => by cases h
  refine ⟨⟨rfl, rfl, rfl, ?_, rfl, rfl, rfl⟩, rfl⟩
  rw [hreply]
  cases hvalid : (node.shared.openCell msg).2.2 <;> simp [openCell, reply, hvalid]

/-- Sealing a cell when nothing is pending. -/
theorem sealFor_spec {node : ExitNode} {who : Emitter} {cell : RelayCell}
    (hnext : node.nextCell who = some cell) (hlock : node.guard = none)
    (hreply : node.reply = none) :
    let sealed := OnionEnd.encode node.context.circuitId node.shared.backwardEnd cell
    (node.sealFor who cell).sequencer =
        { node.sequencer with
          state := sealed.1
          sent := node.emitted ++ [cell]
          encoded := node.sealedCells ++ [sealed.2]
          outstanding := some sealed.2 } ∧
      (node.sealFor who cell).context = node.context ∧
      (node.sealFor who cell).tasks = node.tasks ∧
      ((node.sealFor who cell).reply.isSome = true → (node.sealFor who cell).guard = none) := by
  cases who with
  | loop =>
      cases hloop : node.loop <;> simp only [nextCell, hloop, reduceCtorEq] at hnext
      · refine ⟨?_, ?_, ?_, ?_⟩ <;> simp only [sealFor, hloop]
        · rfl
        · exact fun h => by cases h
      · refine ⟨?_, ?_, ?_, ?_⟩ <;> simp only [sealFor, hloop]
        · rfl
        · exact fun _ => hlock
  | task n =>
      have hquiet : (node.sealFor (.task n) cell).reply = none := hreply
      refine ⟨?_, rfl, rfl, ?_⟩
      · simp only [sequencer, pending, hquiet]
        rfl
      · simp [hquiet]
  | other n => simp [nextCell] at hnext

/-- A sealing step of an orderly run encodes a cell. -/
theorem Tidy.sealFor {circuitId : CircuitId} {node : ExitNode} (h : node.Tidy circuitId)
    {who : Emitter} {cell : RelayCell} (hnext : node.nextCell who = some cell)
    (hlock : node.guard = none) (horderly : node.Orderly (.seals who)) :
    (node.sealFor who cell).Tidy circuitId ∧
      Sequencer.Step (OnionEnd.channel circuitId) node.sequencer (.encode cell)
        (node.sealFor who cell).sequencer := by
  have hreply : node.reply = none := by
    by_cases hwho : who = .loop
    · subst hwho
      cases hloop : node.loop <;> simp [nextCell, hloop] at hnext <;> simp [reply, hloop]
    · exact horderly.1 hwho
  obtain ⟨hsequencer, hcontext, htasks, hunlocked⟩ := sealFor_spec hnext hlock hreply
  obtain ⟨hpadding, hdestroy, hfits⟩ := h.nextCell_speaks hnext
  have hshort : cell.data.length ≤ maxPayloadSize := by
    by_cases hend : cell.command = .end
    · exact horderly.2 cell hnext hend
    · exact hfits hend
  have hid := h.id
  subst hid
  have hpending : (node.sealFor who cell).pending =
      some (OnionEnd.encode node.context.circuitId node.shared.backwardEnd cell).2 :=
    congrArg Sequencer.outstanding hsequencer
  have hemitted : (node.sealFor who cell).emitted = node.emitted ++ [cell] :=
    congrArg Sequencer.sent hsequencer
  refine ⟨⟨congrArg CircuitContext.circuitId hcontext, hunlocked, ?_, ?_, ?_⟩, ?_⟩
  · rw [htasks]
    exact h.tasks
  · intro msg hmsg
    rw [hpending, Option.some.injEq] at hmsg
    rw [← hmsg, OnionEnd.length_encode_data]
    exact hshort
  · intro other hother
    rw [hemitted, List.mem_append, List.mem_singleton] at hother
    rcases hother with hold | rfl
    · exact h.emitted other hold
    · exact ⟨hpadding, hdestroy, hshort⟩
  · rw [hsequencer]
    apply Sequencer.Step.encode
    simp [sequencer, pending, hreply, hlock]

/-- A writing step writes the pending cell, or finds the connection broken. -/
theorem Tidy.writes {circuitId : CircuitId} {node : ExitNode} (h : node.Tidy circuitId)
    {who : Emitter} {msg : Message} {stream : Except String Unit}
    (hmsg : node.toWrite who = some msg) (hup : stream = .ok () → node.wire.up = true) :
    let after := ({ node with wire := (node.wire.write msg stream).1 } : ExitNode).written who
      (node.wire.write msg stream).2
    after.Tidy circuitId ∧
      ∃ e, Sequencer.Step (OnionEnd.channel circuitId) node.sequencer e after.sequencer := by
  intro after
  have hpending := h.pending_of_toWrite hmsg
  have hnone : ∀ wire : Wire, ∀ result,
      (({ node with wire } : ExitNode).written who result).pending = none := by
    intro wire result
    have htidy : ({ node with wire } : ExitNode).Tidy circuitId :=
      ⟨h.id, h.unlocked, h.tasks, h.fits, h.emitted⟩
    have hmsg' : ({ node with wire } : ExitNode).toWrite who = some msg := by
      rw [← hmsg]
      cases who <;> rfl
    exact htidy.pending_written hmsg' result
  have hafter : after.pending = none := hnone _ _
  obtain ⟨hcontext, hshared, hwire, hemitted, hsealed⟩ :=
    written_frame ({ node with wire := (node.wire.write msg stream).1 } : ExitNode) who
      (node.wire.write msg stream).2
  refine ⟨⟨(congrArg CircuitContext.circuitId hcontext).trans h.id, ?_,
    speaks_written who _ h.tasks, ?_, ?_⟩, ?_⟩
  · intro hreply
    rw [pending, Option.or_eq_none_iff] at hafter
    simp [hafter.1] at hreply
  · intro other hother
    simp [hafter] at hother
  · rw [hemitted]
    exact h.emitted
  · have hsequencer : after.sequencer = { node.sequencer with
        outstanding := none
        wire := (node.wire.write msg stream).1.cells
        up := (node.wire.write msg stream).1.up } := by
      simp only [sequencer, hafter]
      rw [show after.shared = node.shared from hshared,
        show after.emitted = node.emitted from hemitted,
        show after.sealedCells = node.sealedCells from hsealed,
        show after.wire = (node.wire.write msg stream).1 from hwire]
    rw [hsequencer, node.wire.write_eq (h.fits msg hpending)]
    cases stream with
    | ok _ => exact ⟨_, .write hpending (hup rfl)⟩
    | error e => exact ⟨_, .lose⟩

/-- A step of an orderly run keeps a circuit tidy, and is a step of the sequencer or
no change to it. -/
theorem Tidy.step {circuitId : CircuitId} {node after : ExitNode} {event : ExitEvent}
    (h : node.Tidy circuitId) (horderly : node.Orderly event) (hstep : Step node event after) :
    after.Tidy circuitId ∧ (after.sequencer = node.sequencer ∨
      ∃ e, Sequencer.Step (OnionEnd.channel circuitId) node.sequencer e after.sequencer) := by
  have hquiet : Quiet node after → (∀ task ∈ after.tasks, task.Speaks) →
      after.Tidy circuitId ∧ (after.sequencer = node.sequencer ∨
        ∃ e, Sequencer.Step (OnionEnd.channel circuitId) node.sequencer e after.sequencer) :=
    fun hquiet htasks => ⟨h.quiet hquiet htasks, .inl hquiet.sequencer_eq⟩
  cases hstep with
  | arrives hloop hcommand =>
      have hreply := reply_of_loop hloop fun _ h => by cases h
      exact hquiet ⟨rfl, rfl, rfl, hreply.symm, rfl, rfl, rfl⟩ h.tasks
  | opens hloop hopens hlock =>
      obtain ⟨hsame, htasks⟩ := quiet_openCell hloop
      exact hquiet hsame (htasks ▸ h.tasks)
  | dispatches hloop hopens =>
      obtain ⟨hsame, htasks⟩ := quiet_dispatch hloop
      exact hquiet hsame (htasks ▸ h.tasks)
  | decides io hloop =>
      obtain ⟨hsame, htasks⟩ := quiet_decide io hloop
      exact hquiet hsame (htasks ▸ h.tasks)
  | reads read htask hidle =>
      apply hquiet ⟨rfl, rfl, rfl, rfl, rfl, rfl, rfl⟩
      exact speaks_setTask _ h.tasks fun _ _ => speaks_next _ read.cells_speak
  | stops htask hidle =>
      apply hquiet ⟨rfl, rfl, rfl, rfl, rfl, rfl, rfl⟩
      exact speaks_setTask _ (f := fun _ => .finished) h.tasks
        fun _ _ _ hcell => absurd hcell List.not_mem_nil
  | seals hnext hlock =>
      obtain ⟨htidy, hencode⟩ := h.sealFor hnext hlock horderly
      exact ⟨htidy, .inr ⟨_, hencode⟩⟩
  | locksWriter hfree hwaits =>
      exact hquiet ⟨rfl, rfl, rfl, rfl, rfl, rfl, rfl⟩ h.tasks
  | writes hwriter hmsg hup =>
      obtain ⟨htidy, hwrite⟩ := h.writes hmsg hup
      exact ⟨htidy, .inr hwrite⟩
  | @writesOther n stream hwriter hup =>
      cases stream with
      | ok _ => exact hquiet ⟨rfl, rfl, rfl, rfl, rfl, rfl, rfl⟩ h.tasks
      | error e =>
          exact ⟨⟨h.id, h.unlocked, h.tasks, h.fits, h.emitted⟩, .inr ⟨.cut, .cut⟩⟩

/-! ## Orderly runs -/

/-- An orderly exit circuit simulates a sequencer. -/
theorem simulation (h : ExitCircuitHandler) (shared : ExitCryptoState) :
    TransitionSystem.Simulation ((system (start h shared)).restrict Orderly)
      (Sequencer.system (OnionEnd.channel h.context.circuitId) shared.backwardEnd) sequencer
      (Tidy h.context.circuitId) where
  init node hnode := by
    rw [show node = start h shared from hnode]
    rfl
  step _ _ _ htidy hstep := (htidy.step hstep.1 hstep.2).2

/-- An orderly run leads to a tidy circuit that is a sound sequencer. -/
theorem tidy_and_sound {h : ExitCircuitHandler} {shared : ExitCryptoState} {node : ExitNode}
    (hreach : ((system (start h shared)).restrict Orderly).Reachable node) :
    node.Tidy h.context.circuitId ∧
      Sequencer.Sound (OnionEnd.channel h.context.circuitId) shared.backwardEnd
        node.sequencer := by
  have hinit : ∀ first, ((system (start h shared)).restrict Orderly).init first →
      first.Tidy h.context.circuitId := by
    intro first hfirst
    rw [show first = start h shared from hfirst]
    exact tidy_start h shared
  have hkeep : ∀ s e t, s.Tidy h.context.circuitId →
      ((system (start h shared)).restrict Orderly).step s e t → t.Tidy h.context.circuitId :=
    fun s e t hs hstep => (hs.step hstep.1 hstep.2).1
  refine ⟨hreach.invariant _ hinit hkeep, ?_⟩
  exact Sequencer.Reachable.sound ((simulation h shared).reachable hinit hkeep hreach)

/-- A client, and the relays in front of the exit, at the places where an exit stands. -/
structure Listens (client : Circuit) (hops : List HopNode) (shared : ExitCryptoState) : Prop where
  established : ∀ node ∈ hops, node.handler.Established
  ciphers : client.onionKeys.ciphers = hops.map HopNode.pair ++ [shared.cipher]
  digest : client.onionKeys.backwardDigest = shared.backwardDigest

/-- The client reads what is on the wire: it accepts every cell, and its circuit stays as
it is. -/
def AcceptedBy [AddrText] (node : ExitNode) (client : Circuit) (hops : List HopNode) : Prop :=
  let out := client.readAll (relayBackTransducer.chain hops.reverse node.wire.cells).2
  out.2.map Circuit.cellOf = node.emitted.take node.wire.cells.length ∧ out.1.state = client.state

omit [Primitives] in
/-- Where the client listens, its end of the backward direction is the exit's behind the
layers of the hops. -/
theorem Listens.backwardEnd_eq {client : Circuit} {hops : List HopNode}
    {shared : ExitCryptoState} (h : Listens client hops shared) :
    client.onionKeys.backwardEnd =
      ⟨hops.map (fun node => node.pair.backward) ++ [shared.cipher.backward],
        shared.backwardDigest⟩ := by
  simp [OnionKeys.backwardEnd, h.ciphers, h.digest, Function.comp_def]

/-- Encoded cells are backward traffic. -/
theorem backwardTraffic_encodeAll (circuitId : CircuitId) (s : OnionEnd) {cells : List RelayCell}
    (hcells : ∀ cell ∈ cells, cell.command ≠ .padding ∧ cell.command ≠ .destroy ∧
      cell.data.length ≤ maxPayloadSize) :
    ∀ msg ∈ ((OnionEnd.channel circuitId).encodeAll s cells).2, BackwardTraffic msg := by
  intro msg hmsg
  obtain ⟨s', cell, hmem, rfl⟩ := Channel.exists_of_mem_encodeAll _ hmsg
  obtain ⟨hpadding, hdestroy, hfits⟩ := hcells cell hmem
  have hdata : (OnionEnd.encode circuitId s' cell).2.data.length ≤ maxPayloadSize := by
    rw [OnionEnd.length_encode_data]
    exact hfits
  exact ⟨hpadding, hdestroy, hdata⟩

/-- A step that seals nothing is orderly. -/
theorem Step.orderly {origin node after : ExitNode} {event : ExitEvent}
    (hstep : Step node event after) (hevent : ∀ who, event ≠ .seals who) :
    ((system origin).restrict Orderly).step node event after := by
  refine ⟨?_, hstep⟩
  cases event with
  | seals who => exact absurd rfl (hevent who)
  | _ => trivial

/-- The loop reads a cell for a stream, and opens it. -/
theorem arrives_and_opens {node : ExitNode} {command : MessageCommand}
    (hcommand : command = .begin ∨ command = .data ∨ command = .end) (streamId : StreamId)
    (data : Bytes) (hloop : node.loop = .reading) (hlive : node.live = true)
    (hguard : node.guard = none) :
    let msg := node.shared.forwardCell node.context.circuitId streamId command data
    Step node (.arrives msg) { node with loop := .opening msg } ∧
      Step { node with loop := .opening msg } .opens
        { node with
          shared := node.shared.forwardNext streamId command data
          loop := .deciding msg data } := by
  intro msg
  have hmsg : msg.command = command := rfl
  have hcreate : msg.command ≠ .create := by
    rcases hcommand with rfl | rfl | rfl <;> simp [hmsg]
  have hopens : node.opensCell msg = true := by
    rcases hcommand with rfl | rfl | rfl <;> simp [opensCell, hlive, hmsg]
  have hopen : node.shared.openCell msg =
      (node.shared.forwardNext streamId command data, data, true) :=
    node.shared.openCell_forwardCell _ _ _ _
  have hstep : Step { node with loop := .opening msg } .opens _ := .opens rfl hopens hguard
  refine ⟨.arrives hloop hcreate, ?_⟩
  simpa [openCell, hopen] using hstep

/-- The state of a circuit after the loop alone has opened a stream. -/
def afterBegin (node : ExitNode) (streamId : StreamId) (text : String) : ExitNode :=
  let opened := node.shared.forwardNext streamId .begin (asBytes text)
  let sealed := opened.sealCell node.context.circuitId streamId .connected []
  { node with
    shared := sealed.1
    streams := node.streams.insert streamId ⟨trimEndZeros text⟩
    tasks := node.tasks ++ [⟨streamId, .idle⟩]
    wire := { node.wire with cells := node.wire.cells ++ [sealed.2] }
    emitted := node.emitted ++ [⟨streamId, .connected, []⟩]
    sealedCells := node.sealedCells ++ [sealed.2] }

/-- The loop alone opens a stream. -/
theorem run_begin (origin node : ExitNode) (io : RelayIo) (streamId : StreamId)
    (text : String) (hloop : node.loop = .reading) (hlive : node.live = true)
    (hguard : node.guard = none) (hwriter : node.writer = none) (hup : node.wire.up = true)
    (hconnect : (io.connectTo (trimEndZeros text)).2 = .ok ()) :
    ∃ events, ((system origin).restrict Orderly).Run node events
      (node.afterBegin streamId text) := by
  let opened := node.shared.forwardNext streamId .begin (asBytes text)
  let msg := node.shared.forwardCell node.context.circuitId streamId .begin (asBytes text)
  let sealed := opened.sealCell node.context.circuitId streamId .connected []
  obtain ⟨harrives, hopens⟩ := arrives_and_opens (Or.inl rfl) streamId (asBytes text) hloop hlive
    hguard
  let connecting : ExitNode :=
    { node with shared := opened, loop := .connecting streamId (trimEndZeros text) }
  have hdecides : Step { node with shared := opened, loop := .deciding msg (asBytes text) }
      (.decides io) connecting := by
    have hstep : Step { node with shared := opened, loop := .deciding msg (asBytes text) }
      (.decides io) _ := .decides io rfl
    simpa [decide, msg, ExitCryptoState.forwardCell, Message.new, hconnect] using hstep
  let announced : ExitNode := { node with
    shared := sealed.1
    loop := .announcing streamId (trimEndZeros text)
    guard := some ⟨.loop, sealed.2⟩
    emitted := node.emitted ++ [⟨streamId, .connected, []⟩]
    sealedCells := node.sealedCells ++ [sealed.2] }
  have hseals : Step connecting (.seals .loop)
      (connecting.sealFor .loop ⟨streamId, .connected, []⟩) := .seals rfl hguard
  have hlocks : Step announced (.locksWriter .loop) { announced with writer := some .loop } :=
    .locksWriter hwriter (.inr rfl)
  have hwrites : Step { announced with writer := some .loop } (.writes .loop (.ok ()))
      (node.afterBegin streamId text) := by
    have hwrite : sealed.2.writeToStream (.ok ()) = .ok () :=
      Message.writeToStream_ok (by simp [sealed, ExitCryptoState.sealCell, Message.new])
    have hstep : Step { announced with writer := some .loop } (.writes .loop (.ok ())) _ :=
      .writes rfl rfl fun _ => hup
    simp only [announced, Wire.write_ok hwrite, written, loopWritten] at hstep
    rwa [← hloop, ← hguard, ← hwriter] at hstep
  have horderly : connecting.Orderly (.seals .loop) := by
    refine ⟨fun hwho => absurd rfl hwho, ?_⟩
    intro cell hcell hend
    cases hcell
    exact absurd hend (by simp)
  have hstart : ((system origin).restrict Orderly).Run node [] node := .nil node
  have hdeciding := (hstart.snoc (harrives.orderly fun _ h => by cases h)).snoc
    (hopens.orderly fun _ h => by cases h)
  have hannounced := (hdeciding.snoc (hdecides.orderly fun _ h => by cases h)).snoc
    ⟨horderly, hseals⟩
  exact ⟨_, (hannounced.snoc (hlocks.orderly fun _ h => by cases h)).snoc
    (hwrites.orderly fun _ h => by cases h)⟩

/-- The loop reads END for a stream, and is to answer it. -/
theorem run_hearsEnd (origin node : ExitNode) (io : RelayIo) (streamId : StreamId)
    (hloop : node.loop = .reading) (hlive : node.live = true) (hguard : node.guard = none) :
    ∃ events, ((system origin).restrict Orderly).Run node events
      { node with
        shared := node.shared.forwardNext streamId .end []
        streams := node.streams.erase streamId
        loop := .ending streamId [] } := by
  let opened := node.shared.forwardNext streamId .end []
  let msg := node.shared.forwardCell node.context.circuitId streamId .end []
  obtain ⟨harrives, hopens⟩ := arrives_and_opens (Or.inr (Or.inr rfl)) streamId [] hloop hlive
    hguard
  have hdecides : Step { node with shared := opened, loop := .deciding msg [] } (.decides io)
      { node with
        shared := opened
        streams := node.streams.erase streamId
        loop := .ending streamId [] } := by
    have hstep : Step { node with shared := opened, loop := .deciding msg [] } (.decides io) _ :=
      .decides io rfl
    simpa [decide, msg, ExitCryptoState.forwardCell, Message.new] using hstep
  have hstart : ((system origin).restrict Orderly).Run node [] node := .nil node
  exact ⟨_, ((hstart.snoc (harrives.orderly fun _ h => by cases h)).snoc
    (hopens.orderly fun _ h => by cases h)).snoc (hdecides.orderly fun _ h => by cases h)⟩

/-- The state of a circuit after the loop alone has answered END. -/
def afterEnd (node : ExitNode) (streamId : StreamId) : ExitNode :=
  let reply := (node.shared.forwardNext streamId .end []).sealCell node.context.circuitId
    streamId .end []
  { node with
    shared := reply.1
    streams := node.streams.erase streamId
    wire := { node.wire with cells := node.wire.cells ++ [reply.2] }
    emitted := node.emitted ++ [⟨streamId, .end, []⟩]
    sealedCells := node.sealedCells ++ [reply.2] }

/-- The loop alone answers END. -/
theorem run_end (origin node : ExitNode) (io : RelayIo) (streamId : StreamId)
    (hloop : node.loop = .reading) (hlive : node.live = true) (hguard : node.guard = none)
    (hwriter : node.writer = none) (hup : node.wire.up = true) :
    ∃ events, ((system origin).restrict Orderly).Run node events (node.afterEnd streamId) := by
  obtain ⟨events, hending⟩ := run_hearsEnd origin node io streamId hloop hlive hguard
  let ending : ExitNode := { node with
    shared := node.shared.forwardNext streamId .end []
    streams := node.streams.erase streamId
    loop := .ending streamId [] }
  let reply := ending.shared.sealCell node.context.circuitId streamId .end []
  let replying := ending.sealFor .loop ⟨streamId, .end, []⟩
  have hseals : Step ending (.seals .loop) replying := .seals rfl hguard
  have hlocks : Step replying (.locksWriter .loop) { replying with writer := some .loop } :=
    .locksWriter hwriter (.inr rfl)
  have hwrites : Step { replying with writer := some .loop } (.writes .loop (.ok ()))
      (node.afterEnd streamId) := by
    have hwrite : reply.2.writeToStream (.ok ()) = .ok () :=
      Message.writeToStream_ok (by simp [reply, ExitCryptoState.sealCell, Message.new])
    have hholds : replying.toWrite .loop = some reply.2 := rfl
    have hstep : Step { replying with writer := some .loop } (.writes .loop (.ok ())) _ :=
      .writes rfl hholds fun _ => hup
    rw [Wire.write_ok hwrite] at hstep
    simp only [replying, ending, sealFor, written, loopWritten] at hstep
    rwa [← hloop, ← hwriter] at hstep
  have horderly : ending.Orderly (.seals .loop) := by
    refine ⟨fun hwho => absurd rfl hwho, ?_⟩
    rintro cell ⟨⟩ -
    exact Nat.zero_le _
  exact ⟨_, ((hending.snoc ⟨horderly, hseals⟩).snoc (hlocks.orderly fun _ h => by cases h)).snoc
    (hwrites.orderly fun _ h => by cases h)⟩

/-- The state of a circuit after a task has emitted its next cell. -/
def afterData (node : ExitNode) (n : Nat) (cell : RelayCell) : ExitNode :=
  let data := node.shared.sealCell node.context.circuitId cell.streamId cell.command cell.data
  { node.setTask n TaskPhase.advance with
    shared := data.1
    guard := none
    writer := none
    wire := { node.wire with cells := node.wire.cells ++ [data.2] }
    emitted := node.emitted ++ [cell]
    sealedCells := node.sealedCells ++ [data.2] }

/-- A task seals its next cell, takes the writer and writes the cell. -/
theorem seals_and_writes {node : ExitNode} {n : Nat} {cell : RelayCell}
    (hnext : node.nextCell (.task n) = some cell) (hfits : cell.data.length ≤ maxPayloadSize)
    (hguard : node.guard = none) (hwriter : node.writer = none) (hup : node.wire.up = true) :
    let guarded := node.sealFor (.task n) cell
    Step node (.seals (.task n)) guarded ∧
      Step guarded (.locksWriter (.task n)) { guarded with writer := some (.task n) } ∧
      Step { guarded with writer := some (.task n) } (.writes (.task n) (.ok ()))
        (node.afterData n cell) := by
  intro guarded
  let data := node.shared.sealCell node.context.circuitId cell.streamId cell.command cell.data
  have hwrite : guarded.toWrite (.task n) = some data.2 := by
    simp [guarded, sealFor, toWrite, data]
  have hdata : data.2.writeToStream (.ok ()) = .ok () := Message.writeToStream_ok (by
    simp only [data, ExitCryptoState.sealCell, Message.new, CipherPair.applyBackward_snd,
      Aes128Ctr.length_applyKeystream]
    exact hfits)
  have hwrites : Step { guarded with writer := some (.task n) } (.writes (.task n) (.ok ())) _ :=
    .writes rfl hwrite fun _ => hup
  rw [Wire.write_ok hdata] at hwrites
  exact ⟨.seals hnext hguard, .locksWriter hwriter (.inr (by rw [hwrite]; rfl)), hwrites⟩

/-- A task alone reads a byte and emits it. -/
theorem run_data (origin node : ExitNode) (n : Nat) (taskId : StreamId) (byte : UInt8)
    (hreply : node.reply = none) (hguard : node.guard = none) (hwriter : node.writer = none)
    (hup : node.wire.up = true) (htask : node.tasks[n]? = some ⟨taskId, .idle⟩) :
    ∃ events, ((system origin).restrict Orderly).Run node events
      ((node.setTask n fun _ => .sending [(.data, [byte])] false).afterData n
        ⟨taskId, .data, [byte]⟩) := by
  let sending := node.setTask n fun _ => .sending [(.data, [byte])] false
  have hreads : Step node (.reads n (.data [byte])) sending := .reads _ htask rfl
  have hnext : sending.nextCell (.task n) = some ⟨taskId, .data, [byte]⟩ := by
    simp [nextCell, sending, setTask, htask, TaskPhase.cells]
  obtain ⟨hseals, hlocks, hwrites⟩ := seals_and_writes hnext (Nat.le_of_ble_eq_true rfl) hguard
    hwriter hup
  have horderly : sending.Orderly (.seals (.task n)) := by
    refine ⟨fun _ => hreply, fun cell hcell hend => ?_⟩
    cases hnext.symm.trans hcell
    cases hend
  have hstart : ((system origin).restrict Orderly).Run node [] node := .nil node
  have hsealed := (hstart.snoc (hreads.orderly fun _ h => by cases h)).snoc ⟨horderly, hseals⟩
  exact ⟨_, (hsealed.snoc (hlocks.orderly fun _ h => by cases h)).snoc
    (hwrites.orderly fun _ h => by cases h)⟩

/-- In a run in which no task seals a cell while a sealed reply is unwritten, the cells
are written in the order in which they were sealed, and the client accepts them. -/
theorem inOrder_of_orderly [AddrText] {h : ExitCircuitHandler} {shared : ExitCryptoState}
    {node : ExitNode} (hreach : ((system (start h shared)).restrict Orderly).Reachable node) :
    node.InOrder ∧ ∀ client hops, Listens client hops shared → node.AcceptedBy client hops := by
  obtain ⟨htidy, hsound⟩ := tidy_and_sound hreach
  refine ⟨⟨hsound.ordered, ?_⟩, ?_⟩
  · intro hup hpending
    have hcomplete : node.wire.cells ++ node.pending.toList = node.sealedCells :=
      hsound.complete hup
    simpa [hpending] using hcomplete
  · intro client hops hlistens
    have hwire : node.wire.cells =
        ((OnionEnd.channel h.context.circuitId).encodeAll shared.backwardEnd
          (node.emitted.take node.wire.cells.length)).2 := hsound.wire_eq
    have hemitted : ∀ cell ∈ node.emitted.take node.wire.cells.length,
        cell.command ≠ .padding ∧ cell.command ≠ .destroy ∧
          cell.data.length ≤ maxPayloadSize := fun cell hcell =>
      htidy.emitted cell (List.mem_of_mem_take hcell)
    have hend := hlistens.backwardEnd_eq
    have hread := client.readAll_encodeAll h.context.circuitId
      fun cell hcell => (hemitted cell hcell).2.1
    have htransduced := relayBackTransducer_seenAs.chain
      (fun node hnode => hlistens.established node (List.mem_reverse.mp hnode))
      (backwardTraffic_encodeAll h.context.circuitId shared.backwardEnd hemitted)
    rw [← hwire, List.map_reverse] at htransduced
    have hchain : (relayBackTransducer.chain hops.reverse node.wire.cells).2 =
        ((OnionEnd.channel h.context.circuitId).encodeAll client.onionKeys.backwardEnd
          (node.emitted.take node.wire.cells.length)).2 := by
      rw [htransduced, hend, ← chain_wrap_encodeAll _ _ _ _ _ fun cell hcell =>
        (hemitted cell hcell).1]
      congr 2
    rw [AcceptedBy, hchain]
    exact hread

end

section

open Reference

/-- An outside that reaches every destination. -/
def connectingIo : RelayIo :=
  { sampleIo with
    resolve := fun _ => .ok [.v4 ⟨[93, 184, 216, 34], rfl⟩ 80]
    tcpConnect := fun _ => .ok () }

/-- The handler of a circuit whose CREATE carried a client's key. -/
def sampleExit : ExitCircuitHandler :=
  ((ExitCircuitHandler.new 1 (KeyPair.fromSecretBytes (FixedBytes.ofNat 32 5))).handleCreate
    sampleIo (Message.create 1 (FixedBytes.ofNat 32 9).1)).handler

/-- Its session key. -/
def sampleExitKey : SessionKey :=
  ((KeyPair.fromSecretBytes (FixedBytes.ofNat 32 5)).ntorServerHandshake sampleIo.ySecret
    (FixedBytes.ofNat 32 9)).2.2

/-- A client of that circuit, behind two relays. -/
def sampleListener : Circuit :=
  { sampleNetwork.client with
    onionKeys := OnionKeys.new [] (sampleNetwork.hops.map HopNode.pair ++
      [CipherPair.new sampleExitKey]) }

/-- The client of that circuit, and the relays in front of the exit, listen. -/
theorem sampleListener_listens : Listens sampleListener sampleNetwork.hops
    (ExitCryptoState.new (CipherPair.new sampleExitKey)) :=
  ⟨sampleNetwork_ready.established, rfl, rfl⟩

/-- On the circuit of the sample exit the loop announces a stream, the stream's task emits a byte,
and the loop answers END for another stream: the client accepts the three cells. -/
theorem inOrder_of_orderly_sampleExit :
    ∃ node, ((system (start sampleExit
        (ExitCryptoState.new (CipherPair.new sampleExitKey)))).restrict Orderly).Reachable node ∧
      node.emitted = [⟨1, .connected, []⟩, ⟨1, .data, [0x78]⟩, ⟨2, .end, []⟩] ∧
      node.InOrder ∧ node.wire.cells.length = 3 ∧
      node.AcceptedBy sampleListener sampleNetwork.hops := by
  let origin := start sampleExit (ExitCryptoState.new (CipherPair.new sampleExitKey))
  let opened := origin.afterBegin 1 "example.org:80"
  let emitting := (opened.setTask 0 fun _ => .sending [(.data, [0x78])] false).afterData 0
    ⟨1, .data, [0x78]⟩
  obtain ⟨begins, hbegin⟩ := run_begin origin origin connectingIo 1 "example.org:80" rfl rfl rfl
    rfl rfl rfl
  obtain ⟨emits, hemits⟩ := run_data origin opened 0 1 0x78 rfl rfl rfl rfl rfl
  obtain ⟨ends, hends⟩ := run_end origin emitting connectingIo 2 rfl rfl rfl rfl rfl
  have hreach : ((system origin).restrict Orderly).Reachable (emitting.afterEnd 2) :=
    ⟨origin, _, rfl, (hbegin.trans hemits).trans hends⟩
  obtain ⟨hinorder, haccepted⟩ := inOrder_of_orderly hreach
  exact ⟨_, hreach, rfl, hinorder, rfl, haccepted _ _ sampleListener_listens⟩

end

section

variable [Primitives]

/-! ## A run out of order -/

/-- The loop seals END in answer to an END, and a task writes DATA before the reply is
written. -/
theorem run_overtaking (origin node : ExitNode) (io : RelayIo) {n : Nat} {taskId : StreamId}
    (streamId : StreamId) (byte : UInt8) (hloop : node.loop = .reading)
    (hlive : node.live = true) (hguard : node.guard = none) (hwriter : node.writer = none)
    (hup : node.wire.up = true) (htask : node.tasks[n]? = some ⟨taskId, .idle⟩) :
    let opened := node.shared.forwardNext streamId .end []
    let reply := opened.sealCell node.context.circuitId streamId .end []
    let data := reply.1.sealCell node.context.circuitId taskId .data [byte]
    ∃ events after, (system origin).Run node events after ∧
      after.wire.cells = node.wire.cells ++ [data.2, reply.2] ∧
      after.sealedCells = node.sealedCells ++ [reply.2, data.2] := by
  intro opened reply data
  obtain ⟨hears, hending⟩ := run_hearsEnd origin node io streamId hloop hlive hguard
  let ending : ExitNode := { node with
    shared := opened
    streams := node.streams.erase streamId
    loop := .ending streamId [] }
  -- the reply is sealed, and the loop holds it without a lock
  let replying := ending.sealFor .loop ⟨streamId, .end, []⟩
  have hseals : Step ending (.seals .loop) replying := .seals rfl hguard
  let sending : ExitNode := replying.setTask n fun _ => .sending [(.data, [byte])] false
  have hreads : Step replying (.reads n (.data [byte])) sending := .reads _ htask rfl
  have hnext : sending.nextCell (.task n) = some ⟨taskId, .data, [byte]⟩ := by
    simp [nextCell, sending, setTask, replying, ending, sealFor, htask, TaskPhase.cells]
  obtain ⟨htaskSeals, htaskLocks, htaskWritten⟩ := seals_and_writes hnext
    (Nat.le_of_ble_eq_true rfl) hguard hwriter hup
  let overtaken := sending.afterData n ⟨taskId, .data, [byte]⟩
  -- now the loop writes the reply
  have hreply : reply.2.writeToStream (.ok ()) = .ok () := Message.writeToStream_ok (by
    simp [reply, ExitCryptoState.sealCell, Message.new])
  have hholds : overtaken.toWrite .loop = some reply.2 := rfl
  have hlocks : Step overtaken (.locksWriter .loop) { overtaken with writer := some .loop } :=
    .locksWriter rfl (.inr rfl)
  have hwritten : Step { overtaken with writer := some .loop } (.writes .loop (.ok ())) _ :=
    .writes rfl hholds fun _ => hup
  rw [Wire.write_ok hreply] at hwritten
  have hovertaken := ((((hending.of_restrict.snoc hseals).snoc hreads).snoc htaskSeals).snoc
    htaskLocks).snoc htaskWritten
  refine ⟨_, _, (hovertaken.snoc hlocks).snoc hwritten, ?_, ?_⟩
  · simp [written, loopWritten, overtaken, afterData, sending, replying, ending, sealFor, setTask,
      data, reply, opened]
  · simp [written, loopWritten, overtaken, afterData, sending, replying, ending, sealFor, setTask,
      data, reply, opened]

/-- A client that reads a cell whose digest was taken after a cell that is not written yet
closes the circuit. -/
theorem closed_of_overtaken [AddrText] {client : Circuit} {hops : List HopNode}
    {shared : ExitCryptoState} (hlistens : Listens client hops shared) (circuitId : CircuitId)
    (first cell : RelayCell) (digest : FixedBytes 4) (later : List Message)
    (hcells : ∀ c ∈ [first, cell], c.command ≠ .padding ∧ c.command ≠ .destroy ∧
      c.data.length ≤ maxPayloadSize) (hlater : ∀ msg ∈ later, BackwardTraffic msg) :
    let sealed := OnionEnd.encode circuitId shared.backwardEnd first
    let overtaking := (OnionEnd.encode circuitId sealed.1 cell).2
    digest ≠ overtaking.digest →
    (client.readAll (relayBackTransducer.chain hops.reverse
      ([sealed.2, { overtaking with digest }] ++ later)).2).1.state = .closed := by
  intro sealed overtaking hdigest
  have hfirst := hcells first (by simp)
  have hcell := hcells cell (by simp)
  have hend := hlistens.backwardEnd_eq
  have htraffic : ∀ msg ∈ [sealed.2, { overtaking with digest }] ++ later,
      BackwardTraffic msg := by
    intro msg hmsg
    simp only [List.cons_append, List.nil_append, List.mem_cons] at hmsg
    rcases hmsg with rfl | rfl | hmsg
    · exact ⟨hfirst.1, hfirst.2.1, by simpa [sealed] using hfirst.2.2⟩
    · exact ⟨hcell.1, hcell.2.1, by simpa [overtaking] using hcell.2.2⟩
    · exact hlater msg hmsg
  -- the hops let both cells through, each under all its layers
  have hchain : ∃ rest, (relayBackTransducer.chain hops.reverse
      ([sealed.2, { overtaking with digest }] ++ later)).2 =
        (OnionEnd.encode circuitId client.onionKeys.backwardEnd first).2 ::
          { (OnionEnd.encode circuitId
              (OnionEnd.encode circuitId client.onionKeys.backwardEnd first).1 cell).2 with
            digest } :: rest := by
    have hadvance : ∀ ciphers : List Aes128Ctr, advanceAll ciphers.reverse first.data =
        (advanceAll ciphers first.data).reverse := by
      intro ciphers
      simp [advanceAll]
    rw [relayBackTransducer_seenAs.chain
      (fun node hnode => hlistens.established node (List.mem_reverse.mp hnode)) htraffic,
      List.map_reverse, hend]
    have hwrap := chain_wrap circuitId (hops.map fun node => node.pair.backward)
      [shared.cipher.backward] shared.backwardDigest hfirst.1
    have hnext := congrArg Prod.snd (chain_wrap circuitId
      (advanceAll (hops.map fun node => node.pair.backward) first.data)
      sealed.1.ciphers sealed.1.digest hcell.1)
    have hdigest := chain_withDigest
      (advanceAll (hops.map fun node => node.pair.backward) first.data).reverse overtaking digest
    rw [show overtaking = (OnionEnd.encode circuitId ⟨sealed.1.ciphers, sealed.1.digest⟩ cell).2
      from rfl, hnext] at hdigest
    rw [show [sealed.2, { overtaking with digest }] ++ later =
      [sealed.2] ++ ([{ overtaking with digest }] ++ later) from rfl, Transducer.chain_append,
      show hopTransducer.chain _ [sealed.2] = _ from hwrap, Transducer.chain_append]
    simp only [hadvance]
    rw [show (hopTransducer.chain _ [{ overtaking with digest }]).2 = _ from hdigest]
    exact ⟨_, by simp [OnionEnd.encode, advanceAll, sealed, ExitCryptoState.backwardEnd]; rfl⟩
  obtain ⟨rest, hrest⟩ := hchain
  rw [hrest]
  have hdecode := OnionEnd.decode_encode circuitId client.onionKeys.backwardEnd first
  obtain ⟨next, hbackward, -, hread, -⟩ := client.readAll_cons
    (OnionEnd.encode circuitId client.onionKeys.backwardEnd first).2
    ({ (OnionEnd.encode circuitId
        (OnionEnd.encode circuitId client.onionKeys.backwardEnd first).1 cell).2 with
      digest } :: rest) hfirst.2.1 (congrArg Prod.snd hdecode)
  rw [hdecode] at hbackward
  rw [hread]
  apply next.readAll_mismatch _ _ hcell.2.1
  rw [hbackward]
  apply OnionEnd.decode_otherDigest
  rw [hend]
  exact hdigest

/-- The tag of DATA on stream 1 after CONNECTED, when END for stream 2 was sealed in
between. -/
def overtakingTag : FixedBytes 4 :=
  digestTag (RunningDigest.record 1 MessageCommand.connected.toU8 [] ++
    RunningDigest.record 2 MessageCommand.end.toU8 [] ++
    RunningDigest.record 1 MessageCommand.data.toU8 [0x78])

/-- The tag of the same DATA without the END. -/
def expectedTag : FixedBytes 4 :=
  digestTag (RunningDigest.record 1 MessageCommand.connected.toU8 [] ++
    RunningDigest.record 1 MessageCommand.data.toU8 [0x78])

/-- Stream 1 is open, and the client sends END for stream 2. The task of stream 1 writes
DATA before the loop writes the answer, which was sealed first. -/
theorem overtaken_of_tags [AddrText] (h : ExitCircuitHandler) (pair : CipherPair) (io : RelayIo)
    (text : String) (hconnect : (io.connectTo (trimEndZeros text)).2 = .ok ())
    (htags : overtakingTag ≠ expectedTag) :
    ∃ node, (system (start h (ExitCryptoState.new pair))).Reachable node ∧ ¬ node.InOrder ∧
      ∀ client hops, Listens client hops (ExitCryptoState.new pair) →
        (client.readAll (relayBackTransducer.chain hops.reverse node.wire.cells).2).1.state =
          .closed := by
  let origin := start h (ExitCryptoState.new pair)
  obtain ⟨opening, hopening⟩ := run_begin origin origin io 1 text rfl rfl rfl rfl rfl hconnect
  obtain ⟨events, node, hrun, hwire, hsealed⟩ := run_overtaking origin (origin.afterBegin 1 text)
    io (n := 0) 2 0x78 rfl rfl rfl rfl rfl rfl
  refine ⟨node, ⟨origin, _, rfl, hopening.of_restrict.trans hrun⟩, ?_, ?_⟩
  · intro hinorder
    have hordered := hinorder.1
    have hbefore : (origin.afterBegin 1 text).sealedCells =
        (origin.afterBegin 1 text).wire.cells := rfl
    rw [hwire, hsealed, hbefore, List.prefix_append_right_inj] at hordered
    have hsame := (List.cons_prefix_cons.mp hordered).1
    exact absurd (congrArg Message.command hsame) (by simp [ExitCryptoState.sealCell, Message.new])
  · intro client hops hlistens
    have hone : 1 ≤ maxPayloadSize := by decide
    have hcells : ∀ c ∈ [(⟨1, .connected, []⟩ : RelayCell), ⟨1, .data, [0x78]⟩],
        c.command ≠ .padding ∧ c.command ≠ .destroy ∧ c.data.length ≤ maxPayloadSize := by
      simp [hone]
    have hclosed := closed_of_overtaken hlistens h.context.circuitId ⟨1, .connected, []⟩
      ⟨1, .data, [0x78]⟩ overtakingTag
      [(((origin.afterBegin 1 text).shared.forwardNext 2 .end []).sealCell
        h.context.circuitId 2 .end []).2]
      hcells (by simp [BackwardTraffic, ExitCryptoState.sealCell, Message.new]) htags
    rw [hwire]
    exact hclosed

/-- The order is kept: in every state that an exit circuit reaches after its CREATE, the
cells are written in the order in which they were sealed, and every client at the other
end accepts them. -/
def KeepsOrder [AddrText] : Prop :=
  ∀ (circuitId : CircuitId) (keypair : KeyPair) (io : RelayIo) (clientPublic : FixedBytes 32)
    (shared : ExitCryptoState) (node : ExitNode),
    let h := ((ExitCircuitHandler.new circuitId keypair).handleCreate io
      (Message.create circuitId clientPublic.1)).handler
    h.sharedState = some shared → (system (start h shared)).Reachable node →
      node.InOrder ∧ ∀ client hops, Listens client hops shared → node.AcceptedBy client hops

end

section

open Reference

/-- Stream 1 is open, and the client sends END for stream 2. The task of stream 1 writes
DATA before the loop writes the answer, which was sealed first. The client takes the DATA
for tampered with, and closes the circuit. -/
theorem overtaken_sampleExit :
    (∃ node, (system (start sampleExit
        (ExitCryptoState.new (CipherPair.new sampleExitKey)))).Reachable node ∧
      ¬ node.InOrder ∧
      (sampleListener.readAll (relayBackTransducer.chain sampleNetwork.hops.reverse
        node.wire.cells).2).1.state = .closed) ∧
    ¬ KeepsOrder := by
  have htags : overtakingTag ≠ expectedTag := by decide +kernel
  obtain ⟨node, hreach, hdisorder, hclosed⟩ := overtaken_of_tags sampleExit
    (CipherPair.new sampleExitKey) connectingIo "example.org:80" rfl htags
  refine ⟨⟨node, hreach, hdisorder, hclosed _ _ sampleListener_listens⟩, ?_⟩
  intro hkeeps
  have hstate : sampleExit.sharedState =
      some (ExitCryptoState.new (CipherPair.new sampleExitKey)) := by
    rw [sampleExit, ExitCircuitHandler.handleCreate_eq]
    rfl
  exact hdisorder (hkeeps 1 _ sampleIo (FixedBytes.ofNat 32 9) _ node hstate hreach).1

end

end ExitNode

end NoPanic
