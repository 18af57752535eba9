/-
# What a relay tells its next hop

The cells that a relay writes to the next hop of a circuit are the CREATE of an EXTEND
and the cells it passes on, under their own commands. DESTROY is never passed on: it
closes the handler, and nothing is written. So no step of a relay brings a DESTROY on
its way to a next hop, and a circuit stays active at every step of its relay but a
DESTROY that names it.
-/

import NoPanic.Relay.Accounting

namespace NoPanic

open NoPanic.Math

/-! ## What a relay writes to a next hop -/

/-- Not a DESTROY that is written. -/
def RelayEffect.Spares : RelayEffect → Prop
  | .send _ msg => msg.command ≠ .destroy
  | _ => True

namespace HopHandler

section

variable [Primitives] {io : RelayIo}

/-- EXTEND writes CREATE. -/
theorem openExtend_spares [AddrText] (texts : HopTexts) (h : HopHandler) (msg : Message) :
    ∀ effect ∈ (openExtend texts h io msg).effects, effect.Spares := by
  have hcreate : ∀ circuitId data conn,
      (RelayEffect.send conn (Message.create circuitId data)).Spares :=
    fun _ _ _ => by simp [RelayEffect.Spares, Message.create, Message.circuit, Message.new]
  have hdial : ∀ addr fingerprint conn, (RelayEffect.dial addr fingerprint conn).Spares :=
    fun _ _ _ => trivial
  unfold openExtend
  split
  · simp
  · dsimp only
    split
    · simp
    · split
      · simp
      · split
        · simp
        · split
          · simp [hdial]
          · split
            · simp [hdial, hcreate]
            · simp [hdial, hcreate]
            · simp [hdial, hcreate]
            · split
              · simp [hdial, hcreate]
              · simp [hdial, hcreate]

/-- A cell that is passed on keeps its command. -/
theorem handleRelay_spares (texts : HopTexts) (h : HopHandler) {msg : Message}
    (hcommand : msg.command ≠ .destroy) :
    ∀ effect ∈ (handleRelay texts h io msg).effects, effect.Spares := by
  unfold handleRelay
  split
  · simp
  · dsimp only
    split
    · simp
    · split
      · simp
      · intro effect hmem
        rw [List.mem_singleton.mp hmem]
        exact hcommand

end

end HopHandler

section

variable [Primitives] {io : RelayIo}

/-- An exit handler writes CONNECTED only. -/
theorem ExitCircuitHandler.handleMessage_spares (h : ExitCircuitHandler) (n : Nat)
    (msg : Message) :
    ∀ effect ∈ (h.handleMessage io (some (.prev n)) msg).effects, effect.Spares := by
  unfold ExitCircuitHandler.handleMessage
  split
  · unfold handleCreate
    split
    · simp
    · dsimp only
      split <;> simp
  · dsimp only
    unfold handleBegin
    split
    · simp
    · dsimp only
      split
      · simp
      · split
        · simp [RelayEffect.Spares]
        · split
          · split
            · simp [RelayEffect.Spares, or_imp, forall_and]
            · simp [RelayEffect.Spares, ExitCryptoState.sealCell, Message.new, or_imp, forall_and]
          · simp [replyEnd, RelayEffect.Spares, or_imp, forall_and]
  · unfold handleData
    split
    · simp
    · dsimp only
      split
      · simp
      · split
        · split
          · simp [RelayEffect.Spares]
          · simp [replyEnd, RelayEffect.Spares]
        · simp [replyEnd, RelayEffect.Spares]
  · unfold handleEnd
    split
    · simp
    · dsimp only
      split
      · simp
      · simp [replyEnd, RelayEffect.Spares]
  · simp
  · simp
  · simp
  · simp
  · simp
  · simp

variable [AddrText]

/-- No handler writes DESTROY. -/
theorem CircuitHandler.handleMessage_spares (handler : CircuitHandler) (n : Nat)
    (msg : Message) :
    ∀ effect ∈ (handler.handleMessage io (some (.prev n)) msg).effects, effect.Spares := by
  cases handler with
  | entry h =>
      show ∀ effect ∈ (EntryCircuitHandler.handleMessage h io msg).effects, effect.Spares
      have hrelay : msg.command ≠ .destroy →
          ∀ effect ∈ (EntryCircuitHandler.handleRelay h io msg).effects, effect.Spares :=
        HopHandler.handleRelay_spares EntryCircuitHandler.texts h
      unfold EntryCircuitHandler.handleMessage
      split
      · unfold EntryCircuitHandler.handleCreate HopHandler.handleCreate
        split <;> simp
      · next hcommand =>
        split
        · exact hrelay (by simp [hcommand])
        · unfold EntryCircuitHandler.handleExtend
          have hopen : ∀ effect ∈
              (HopHandler.openExtend EntryCircuitHandler.texts h io msg).effects, effect.Spares :=
            HopHandler.openExtend_spares EntryCircuitHandler.texts h msg
          split
          · next heq => rwa [heq] at hopen
          · next heq => rwa [heq] at hopen
      · next hcommand => exact hrelay (by simp [hcommand])
      · next hcommand => exact hrelay (by simp [hcommand])
      · next hcommand => exact hrelay (by simp [hcommand])
      · next hcommand => exact hrelay (by simp [hcommand])
      · simp
      · simp
      · simp
      · simp
  | middle h =>
      show ∀ effect ∈ (MiddleCircuitHandler.handleMessage h io msg).effects, effect.Spares
      have hrelay : msg.command ≠ .destroy →
          ∀ effect ∈ (MiddleCircuitHandler.handleRelay h io msg).effects, effect.Spares :=
        HopHandler.handleRelay_spares MiddleCircuitHandler.texts h
      unfold MiddleCircuitHandler.handleMessage
      split
      · unfold MiddleCircuitHandler.handleCreate HopHandler.handleCreate
        split <;> simp
      · next hcommand =>
        split
        · exact hrelay (by simp [hcommand])
        · unfold MiddleCircuitHandler.handleExtend
          have hopen : ∀ effect ∈
              (HopHandler.openExtend MiddleCircuitHandler.texts h io msg).effects,
              effect.Spares :=
            HopHandler.openExtend_spares MiddleCircuitHandler.texts h msg
          split
          · next heq => rwa [heq] at hopen
          · next heq =>
            rw [heq] at hopen
            split
            · exact hopen
            · exact hopen
      · unfold MiddleCircuitHandler.handleExtended
        split <;> simp
      · next hcommand => exact hrelay (by simp [hcommand])
      · next hcommand => exact hrelay (by simp [hcommand])
      · next hcommand => exact hrelay (by simp [hcommand])
      · next hcommand => exact hrelay (by simp [hcommand])
      · simp
      · simp
      · simp
  | exit h => exact ExitCircuitHandler.handleMessage_spares h n msg

end

/-- The cells written to one of a circuit's next hops. -/
def HeldCircuit.linkCells (c : HeldCircuit) (k : Nat) : List Message :=
  (c.links[k]?).elim [] NextHopLink.written

namespace RelayNode

/-- The cells written to one of a circuit's next hops. -/
def linkCells (node : RelayNode) (ref : CircuitRef) (k : Nat) : List Message :=
  (node.circuit? ref).elim [] fun c => c.linkCells k

/-- The next hops have been sent further cells at most, and no DESTROY. -/
def SparesNext (before after : RelayNode) : Prop :=
  ∀ ref k, ∃ cells, after.linkCells ref k = before.linkCells ref k ++ cells ∧
    ∀ msg ∈ cells, msg.command ≠ .destroy

section

variable {s s' s'' : RelayNode}

theorem SparesNext.refl (s : RelayNode) : SparesNext s s :=
  fun _ _ => ⟨[], by simp, by simp⟩

theorem SparesNext.trans (first : SparesNext s s') (second : SparesNext s' s'') :
    SparesNext s s'' := by
  intro ref k
  obtain ⟨cells, hcells, hspares⟩ := first ref k
  obtain ⟨cells', hcells', hspares'⟩ := second ref k
  refine ⟨cells ++ cells', by rw [hcells', hcells, List.append_assoc], ?_⟩
  intro msg hmem
  rcases List.mem_append.mp hmem with hmem | hmem
  · exact hspares msg hmem
  · exact hspares' msg hmem

/-- A step that keeps the circuits writes to no next hop. -/
theorem sparesNext_of_circuits (h : ∀ ref, s'.circuit? ref = s.circuit? ref) :
    SparesNext s s' := by
  intro ref k
  refine ⟨[], ?_, by simp⟩
  rw [linkCells, h ref, linkCells, List.append_nil]

/-- A change of a circuit that at most writes to its next hops. -/
theorem sparesNext_modifyCircuit (s : RelayNode) (ref : CircuitRef)
    {f : HeldCircuit → HeldCircuit} (hf : ∀ c k, ∃ cells,
      (f c).linkCells k = c.linkCells k ++ cells ∧ ∀ msg ∈ cells, msg.command ≠ .destroy) :
    SparesNext s (s.modifyCircuit ref f) := by
  intro ref' k
  rw [linkCells, circuit?_modifyCircuit, linkCells]
  split
  · next heq =>
    rw [heq]
    cases s.circuit? ref with
    | none => exact ⟨[], rfl, by simp⟩
    | some c => exact hf c k
  · exact ⟨[], by simp, by simp⟩

/-- A change of a circuit that keeps its next hops. -/
theorem sparesNext_of_links (s : RelayNode) (ref : CircuitRef) {f : HeldCircuit → HeldCircuit}
    (hf : ∀ c, (f c).links = c.links) : SparesNext s (s.modifyCircuit ref f) :=
  sparesNext_modifyCircuit s ref fun c k =>
    ⟨[], by rw [HeldCircuit.linkCells, hf, HeldCircuit.linkCells, List.append_nil], by simp⟩

/-- A change of a link that at most writes to it. -/
theorem sparesNext_modifyLink (s : RelayNode) (ref : CircuitRef) (k : Nat)
    {f : NextHopLink → NextHopLink} {cells : List Message}
    (hf : ∀ link, (f link).written = link.written ++ cells)
    (hcells : ∀ msg ∈ cells, msg.command ≠ .destroy) :
    SparesNext s (s.modifyCircuit ref fun c => c.modifyLink k f) := by
  apply sparesNext_modifyCircuit s ref
  intro c k'
  rw [HeldCircuit.linkCells, HeldCircuit.linkCells, HeldCircuit.modifyLink, List.getElem?_modify]
  cases c.links[k']? with
  | none => exact ⟨[], rfl, by simp⟩
  | some link =>
      by_cases hk : k = k'
      · exact ⟨cells, by simp [hk, hf], hcells⟩
      · exact ⟨[], by simp [hk], by simp⟩

theorem sparesNext_setPhase (s : RelayNode) (n : Nat) (phase : ConnectionPhase) :
    SparesNext s (s.setPhase n phase) :=
  sparesNext_of_circuits fun ref => circuit?_setPhase s n ref phase

theorem sparesNext_output (s : RelayNode) (n : Nat) (out : RelayOutput) :
    SparesNext s (s.output n out) :=
  sparesNext_of_circuits fun ref => circuit?_output s n ref out

theorem sparesNext_count (s : RelayNode) (f : RelayMetrics → RelayMetrics) :
    SparesNext s (s.count f) :=
  sparesNext_of_circuits fun _ => rfl

/-- What a handler does outside, when it writes no DESTROY. -/
theorem sparesNext_deliver (n : Nat) (ref : CircuitRef) (s : RelayNode) {effect : RelayEffect}
    (hspares : effect.Spares) : SparesNext s (deliver n ref s effect) := by
  cases effect with
  | dial addr fingerprint conn =>
      cases conn with
      | prev m => exact .refl s
      | next owner j =>
          -- the new connection is empty
          refine sparesNext_modifyCircuit s owner fun c k => ⟨[], ?_, by simp⟩
          rw [HeldCircuit.linkCells, HeldCircuit.linkCells, List.append_nil, List.getElem?_append]
          split
          · rfl
          · next hlong =>
            rw [List.getElem?_eq_none (Nat.not_lt.mp hlong), List.getElem?_singleton]
            split <;> rfl
  | send conn msg =>
      cases conn with
      | prev m => exact sparesNext_output s m _
      | next owner j =>
          apply sparesNext_modifyLink s owner j (fun _ => rfl)
          intro msg' hmem
          rw [List.mem_singleton.mp hmem]
          exact hspares
  | openStream streamId destination =>
      have hopened : SparesNext s (s.modifyCircuit ref fun c =>
          { c with tasks := c.tasks ++ [⟨streamId, n, .idle, 0, [], []⟩] }) :=
        sparesNext_of_links s ref fun _ => rfl
      exact hopened.trans (sparesNext_count _ RelayMetrics.addStream)
  | queue streamId data =>
      have hqueued : SparesNext s (s.modifyCircuit ref fun c =>
          { c with tasks := ExitTask.queueLast streamId data c.tasks }) :=
        sparesNext_of_links s ref fun _ => rfl
      exact hqueued.trans (sparesNext_count _ fun m => m.addForwarded data.length)
  | recovered | sealed | attempt => exact .refl s

theorem sparesNext_effects (n : Nat) (ref : CircuitRef) (s : RelayNode)
    {effects : List RelayEffect} (hspares : ∀ effect ∈ effects, effect.Spares) :
    SparesNext s (effects.foldl (deliver n ref) s) :=
  List.foldlRecOn effects (deliver n ref) (.refl s) fun t hdone effect hmem =>
    hdone.trans (sparesNext_deliver n ref t (hspares effect hmem))

theorem sparesNext_spawnReader (s : RelayNode) (n : Nat) (circuitId : CircuitId) :
    SparesNext s (s.spawnReader n circuitId) := by
  unfold spawnReader
  split
  · exact .refl s
  · next ref hlookup =>
    split
    · exact .refl s
    · split
      · next handler owner k htake =>
        have htaken : SparesNext s (s.modifyCircuit ref fun c => c.setHandler handler) :=
          sparesNext_of_links s ref fun _ => rfl
        apply htaken.trans
        exact sparesNext_modifyLink _ owner k (fun _ => (List.append_nil _).symm) (by simp)
      · exact .refl s

theorem sparesNext_conclude (s : RelayNode) (n : Nat) (command : MessageCommand)
    (circuitId : CircuitId) : SparesNext s (s.conclude n command circuitId) := by
  have hphase := sparesNext_setPhase s n .reading
  cases command with
  | extend | extended => exact hphase.trans (sparesNext_spawnReader _ n circuitId)
  | destroy => exact hphase.trans (sparesNext_count _ _)
  | _ => exact hphase

variable [Primitives] [AddrText]

/-- The call of a handler. -/
theorem sparesNext_dispatch (s : RelayNode) (n : Nat) (msg : Message) (io : RelayIo) :
    SparesNext s (s.dispatch n msg io) := by
  unfold dispatch
  split
  · exact sparesNext_setPhase s n _
  · next ref hlookup =>
    split
    · exact .refl s
    · next c hcircuit =>
      have heffects : ∀ effect ∈ (c.handler.handleMessage io (some (.prev n)) msg).effects,
          effect.Spares := c.handler.handleMessage_spares n msg
      have hdone := (sparesNext_of_links s ref (f := fun c' =>
          c'.setHandler (c.handler.handleMessage io (some (.prev n)) msg).handler)
        fun _ => rfl).trans (sparesNext_effects n ref _ heffects)
      unfold handle
      dsimp only
      split
      · exact hdone.trans (sparesNext_setPhase _ n _)
      · exact hdone.trans (sparesNext_conclude _ n _ _)
      · exact hdone.trans (sparesNext_setPhase _ n _)

/-- The readers and the streams write to no next hop. -/
theorem backgroundFrame_sparesNext : BackgroundFrame SparesNext where
  refl := .refl
  trans first second := first.trans second
  output := sparesNext_output
  addReceived s _ := sparesNext_count s _
  setReader s ref k _ := sparesNext_modifyLink s ref k (fun _ => (List.append_nil _).symm) (by simp)
  calls s ref _ _ _ := sparesNext_of_links s ref fun _ => rfl
  setShared s ref _ := sparesNext_of_links s ref fun _ => rfl
  modifyTask s ref _ _ _ := sparesNext_of_links s ref fun _ => rfl

/-- No step writes DESTROY to a next hop. -/
theorem sparesNext_step {e : RelayNodeEvent} (hstep : Step s e s') : SparesNext s s' := by
  have hback := backgroundFrame_sparesNext.step hstep
  cases hstep with
  | arrives msg io hphase hlock hcommand hio => exact sparesNext_dispatch s _ msg io
  | creates msg io hphase hcommand =>
      unfold create
      dsimp only
      split
      · exact sparesNext_setPhase s _ _
      · exact .refl s
      · exact sparesNext_setPhase s _ _
  | greets stream hphase =>
      unfold greet
      split
      · exact sparesNext_setPhase s _ _
      · exact ((sparesNext_output s _ _).trans (sparesNext_setPhase _ _ _)).trans
          (sparesNext_count _ _)
  | @registers n handler hphase hlock =>
      intro ref k
      refine ⟨[], ?_, by simp⟩
      rw [linkCells, circuit?_register, linkCells, List.append_nil]
      split
      · next heq =>
        -- no circuit was there before
        have hnone : s.circuit? ref = none := by
          rw [heq, circuit?, List.getElem?_eq_none (le_refl _)]
        rw [hnone]
        rfl
      · rfl
  | @replies n command circuitId response stream hphase =>
      unfold reply
      split
      · exact sparesNext_setPhase s n _
      · have hout := sparesNext_output s n (.cell response)
        have hcount : SparesNext s
            ((s.output n (.cell response)).countReply command response.data.length) := by
          cases command with
          | extend | extended | destroy => exact hout
          | _ => exact hout.trans (sparesNext_count _ fun m => m.addForwarded response.data.length)
        exact hcount.trans (sparesNext_conclude _ n command circuitId)
  | hangsUp hphase => exact sparesNext_setPhase s _ _
  | receives | loses | relays | closes | reads | emits | forwards | stops => exact hback trivial

/-- No loop is about to answer a DESTROY. -/
def AnswersNoDestroy (node : RelayNode) : Prop :=
  ∀ n command circuitId response,
    (node.connections n).phase = .replying command circuitId response → command ≠ .destroy

/-- A circuit stays active at every step but a DESTROY that finds it. -/
theorem active_step {e : RelayNodeEvent} {ref : CircuitRef} (hstep : Step s e s')
    (hanswers : s.AnswersNoDestroy) (hactive : s.state? ref = some .active)
    (hspared : ∀ n msg io, e = .arrives n msg io → msg.command = .destroy →
      s.registry.lookup msg.circuitId ≠ some ref) :
    s'.AnswersNoDestroy ∧ s'.state? ref = some .active := by
  have hother : ∀ {t : RelayNode} {n : Nat} {phase : ConnectionPhase},
      (∀ m, m ≠ n → (t.connections m).phase = (s.connections m).phase) →
      (t.connections n).phase = phase →
      (∀ command circuitId response, phase ≠ .replying command circuitId response) →
      t.AnswersNoDestroy := by
    intro t n phase hsame hphase hnot m command circuitId response hreplying
    by_cases hm : m = n
    · rw [hm, hphase] at hreplying
      exact absurd hreplying (hnot command circuitId response)
    · rw [hsame m hm] at hreplying
      exact hanswers m command circuitId response hreplying
  cases step_move hanswers hstep with
  | quiet hquiet =>
      refine ⟨?_, by rw [hquiet.states, hactive]⟩
      intro n command circuitId response hreplying
      rcases hquiet.phases n with heq | ⟨-, hplain⟩
      · exact hanswers n command circuitId response (heq ▸ hreplying)
      · rwa [hreplying] at hplain
  | @offers _ n handler response hphase hstate =>
      refine ⟨hother (n := n) ?_ (phase_setPhase ..) (by simp), ?_⟩
      · intro m hm
        rw [setPhase, connections_modify, if_neg hm]
      · rwa [state?, circuit?_setPhase]
  | @counts _ n handler response hphase =>
      refine ⟨hother (n := n) ?_ (by rw [phase_count, phase_setPhase]) (by simp), ?_⟩
      · intro m hm
        rw [phase_count, setPhase, connections_modify, if_neg hm, phase_output]
      · rwa [state?, circuit?_count, circuit?_setPhase, circuit?_output]
  | @registers n handler hphase =>
      have hread : ((s.register n handler).connections n).phase = .reading := by
        simp [register, connections_modify]
      refine ⟨hother (n := n) ?_ hread (by simp), ?_⟩
      · intro m hm
        simp [register, connections_modify, hm]
      · have hheld : s.circuit? ref ≠ none := by
          intro hnone
          rw [state?, hnone] at hactive
          cases hactive
        rwa [state?, circuit?_register, if_neg (ne_of_circuit? hheld)]
  | @destroys n msg io ref' c hphase hcommand hlookup hcircuit =>
      refine ⟨hother (n := n) ?_ (by rw [phase_count, phase_setPhase]) (by simp), ?_⟩
      · intro m hm
        rw [phase_count, setPhase, connections_modify, if_neg hm, phase_modifyCircuit]
      · have hne : ref ≠ ref' := by
          rintro rfl
          exact hspared n msg io rfl hcommand hlookup
        rwa [state?, circuit?_count, circuit?_setPhase, circuit?_modifyCircuit, if_neg hne]

end

end RelayNode

end NoPanic
