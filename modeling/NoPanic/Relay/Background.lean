/-
# What a relay does in the background

The readers of the next hops and the tasks of the streams go on beside the loops. Every
step of theirs is made of a few small changes, so a relation between relays that composes
and that holds across each of these changes holds across the step.
-/

import NoPanic.Relay.RelayNode

namespace NoPanic

open NoPanic.Math

/-- What the readers of the next hops and the streams do. -/
def RelayNodeEvent.Background : RelayNodeEvent → Prop
  | .receives .. | .loses .. | .relays .. | .closes .. => True
  | .reads .. | .emits .. | .forwards .. | .stops .. => True
  | _ => False

namespace RelayNode

/-- A relation that composes, and that holds across every small change in the background. A
task neither gains nor loses data there. -/
structure BackgroundFrame [Primitives] [AddrText] (R : RelayNode → RelayNode → Prop) : Prop where
  refl (s : RelayNode) : R s s
  trans {s s' s'' : RelayNode} (first : R s s') (second : R s' s'') : R s s''
  output (s : RelayNode) (n : Nat) (out : RelayOutput) : R s (s.output n out)
  addReceived (s : RelayNode) (bytes : Nat) : R s (s.count fun m => m.addReceived bytes)
  setReader (s : RelayNode) (ref : CircuitRef) (k : Nat) (phase : BackwardPhase) :
    R s (s.modifyCircuit ref fun c => c.setReader k phase)
  calls (s : RelayNode) {ref : CircuitRef} {c : HeldCircuit} (hcircuit : s.circuit? ref = some c)
    (msg : Message) :
    R s (s.modifyCircuit ref fun c' => c'.setHandler (c.handler.handleBackwardRelay msg).1)
  setShared (s : RelayNode) (ref : CircuitRef) (state : ExitCryptoState) :
    R s (s.modifyCircuit ref fun c => c.setShared state)
  modifyTask (s : RelayNode) (ref : CircuitRef) (i : Nat) {f : ExitTask → ExitTask}
    (hdata : ∀ c task, s.circuit? ref = some c → c.tasks[i]? = some task →
      (f task).written ++ (f task).queued = task.written ++ task.queued) :
    R s (s.modifyCircuit ref fun c => c.modifyTask i f)

namespace BackgroundFrame

variable [Primitives] [AddrText] {R : RelayNode → RelayNode → Prop} (h : BackgroundFrame R)

include h

/-- The reader of a next hop calls a handler, or ends. -/
theorem receive (s : RelayNode) (ref : CircuitRef) (k : Nat)
    (reader : NextHopReader) (msg : Message) : R s (s.receive ref k reader msg) := by
  unfold RelayNode.receive
  split
  · exact h.setReader s ref k _
  · split
    · exact h.setReader s ref k _
    · split
      · exact h.refl s
      · next c hcircuit => exact h.trans (h.calls s hcircuit msg) (h.setReader _ ref k _)

/-- The reader of a next hop writes an answer. -/
theorem relay (s : RelayNode) (ref : CircuitRef) (k : Nat) (reader : NextHopReader)
    (response : Message) (received : Nat) (stream : Except String Unit) :
    R s (s.relay ref k reader response received stream) := by
  unfold RelayNode.relay
  split
  · exact h.setReader s ref k _
  · have hout := h.trans (h.output s reader.prevHop (.cell response)) (h.setReader _ ref k .reading)
    exact h.trans hout (h.addReceived _ received)

/-- The reader of a next hop ends. -/
theorem close (s : RelayNode) (ref : CircuitRef) (k : Nat) (reader : NextHopReader)
    (stream : Except String Unit) : R s (s.close ref k reader stream) := by
  unfold RelayNode.close
  dsimp only
  split
  · exact h.trans (h.output s _ _) (h.setReader _ ref k _)
  · exact h.trans (h.trans (h.output s _ _) (h.output _ _ _)) (h.setReader _ ref k _)

/-- The task of a stream seals and writes a cell. -/
theorem emit (s : RelayNode) (ref : CircuitRef) (i : Nat) (circuitId : CircuitId)
    (state : ExitCryptoState) (task : ExitTask) (cell : MessageCommand × Bytes)
    (stream : Except String Unit) : R s (s.emit ref i circuitId state task cell stream) := by
  have hsealed := h.setShared s ref (state.sealCell circuitId task.streamId cell.1 cell.2).1
  have hphase : ∀ (s : RelayNode) (next : TaskPhase → TaskPhase),
      R s (s.modifyCircuit ref fun c =>
        c.modifyTask i fun task => { task with phase := next task.phase }) :=
    fun s next => h.modifyTask s ref i fun _ _ _ _ => rfl
  unfold RelayNode.emit
  dsimp only
  split
  · exact h.trans hsealed (hphase _ fun _ => .finished)
  · have hout := h.trans (h.trans hsealed (h.output _ task.prevHop
      (.cell (state.sealCell circuitId task.streamId cell.1 cell.2).2)))
      (hphase _ TaskPhase.advance)
    split
    · exact h.trans hout (h.addReceived _ task.read)
    · exact hout

/-- A frame holds across every step in the background. -/
theorem step {s s' : RelayNode} {e : RelayNodeEvent} (hstep : Step s e s')
    (hback : e.Background) : R s s' := by
  cases hstep with
  | arrives | creates | greets | registers | replies | hangsUp => exact hback.elim
  | receives msg hcircuit hreader hphase hlock => exact h.receive s _ _ _ msg
  | loses hcircuit hreader hphase => exact h.setReader s _ _ _
  | relays stream hcircuit hreader hphase => exact h.relay s _ _ _ _ _ stream
  | closes stream hcircuit hreader hphase => exact h.close s _ _ _ stream
  | reads read hcircuit htask hphase => exact h.modifyTask s _ _ fun _ _ _ _ => rfl
  | emits stream hcircuit htask hcell hshared => exact h.emit s _ _ _ _ _ _ stream
  | @forwards ref c i task data rest hcircuit htask hphase hqueued =>
      apply h.modifyTask s ref i
      intro c' task' hcircuit' htask'
      rw [hcircuit] at hcircuit'
      cases hcircuit'
      rw [htask] at htask'
      cases htask'
      simp [hqueued]
  | stops hcircuit htask hphase => exact h.modifyTask s _ _ fun _ _ _ _ => rfl

end BackgroundFrame

end RelayNode

end NoPanic
