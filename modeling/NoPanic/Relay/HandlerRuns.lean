/-
# What a circuit handler holds

A handler keeps a state, a session key, a cipher and what the circuit leads to: a next
hop, or the streams of an exit. Calls may fail halfway. This module says how these fields
hang together after every call: key and cipher come and go with the active state, and
only an active circuit leads anywhere. An exit has moved its cipher out of the context.

A handler without a key therefore has no cipher to mask a cell with, and refuses every
cell that needs one. One cell of a middle relay needs none: EXTENDED goes back as it came.
-/

import NoPanic.Common.Reference
import NoPanic.Math.TransitionSystem
import NoPanic.Relay.RelayNode

namespace NoPanic

open NoPanic.Math

/-! ## Entry and middle relays -/

namespace HopHandler

/-- Key and cipher are there exactly while the circuit is active, and only then is there a
next hop. -/
structure Coherent (h : HopHandler) : Prop where
  key : h.context.state = .active ↔ h.context.sessionKey.isSome = true
  cipher : h.context.sessionKey.isSome = true ↔ h.context.cipherPair.isSome = true
  next : h.nextHop.isSome = true → h.context.state = .active

/-- A new handler holds nothing. -/
theorem coherent_new (circuitId : CircuitId) (keypair : KeyPair) :
    (new circuitId keypair).Coherent := by
  constructor <;> simp [new, CircuitContext.new]

/-- A closed handler holds nothing. -/
theorem coherent_close (h : HopHandler) : h.close.Coherent := by
  constructor <;> simp [close, CircuitContext.close]

variable {h : HopHandler}

/-- A cipher may be replaced where there is one. -/
theorem Coherent.setCipher (hh : h.Coherent) {old : CipherPair}
    (hold : h.context.cipherPair = some old) (pair : CipherPair) : (h.setCipher pair).Coherent := by
  have hkey : h.context.sessionKey.isSome = true := hh.cipher.mpr (by rw [hold]; rfl)
  exact ⟨hh.key, ⟨fun _ => rfl, fun _ => hkey⟩, hh.next⟩

/-- Where there is a cipher, the circuit is active and may get a next hop. -/
theorem Coherent.setNext (hh : h.Coherent) {pair : CipherPair}
    (hpair : h.context.cipherPair = some pair) (hop : NextHop) :
    Coherent { h with nextHop := some hop } := by
  have hkey : h.context.sessionKey.isSome = true := hh.cipher.mpr (by rw [hpair]; rfl)
  exact ⟨hh.key, hh.cipher, fun _ => hh.key.mpr hkey⟩

/-- Taking the reader keeps a next hop a next hop. -/
theorem Coherent.takeReader (hh : h.Coherent) : h.takeReader.1.Coherent := by
  rw [HopHandler.takeReader]
  cases hnext : h.nextHop with
  | none => exact hh
  | some hop => exact ⟨hh.key, hh.cipher, fun _ => hh.next (by rw [hnext]; rfl)⟩

variable [Primitives]

/-- CREATE activates the circuit, or changes nothing. -/
theorem Coherent.handleCreate (hh : h.Coherent) (io : RelayIo) (msg : Message) :
    (handleCreate h io msg).handler.Coherent := by
  rw [HopHandler.handleCreate]
  cases sliceArray? msg.data 0 32 with
  | none => exact hh
  | some clientPublic =>
      exact ⟨⟨fun _ => rfl, fun _ => rfl⟩, ⟨fun _ => rfl, fun _ => rfl⟩, fun _ => rfl⟩

/-- The handler after it has peeled a layer, if it has a cipher. -/
def peel (h : HopHandler) (data : Bytes) : HopHandler :=
  match h.context.cipherPair with
  | none => h
  | some pair => h.setCipher (pair.applyForward data).1

theorem Coherent.peel (hh : h.Coherent) (data : Bytes) : (h.peel data).Coherent := by
  rw [HopHandler.peel]
  cases hpair : h.context.cipherPair with
  | none => exact hh
  | some pair => exact hh.setCipher hpair _

/-- Passing a cell on changes the cipher at most. -/
theorem handleRelay_handler (texts : HopTexts) (h : HopHandler) (io : RelayIo) (msg : Message) :
    (handleRelay texts h io msg).handler = h.peel msg.data := by
  rw [handleRelay, peel]
  cases h.context.cipherPair with
  | none => rfl
  | some pair =>
      simp only [setCipher_nextHop]
      cases h.nextHop with
      | none => rfl
      | some hop =>
          simp only
          split <;> rfl

/-- So does an EXTEND up to the answer of the next hop. -/
theorem openExtend_handler [AddrText] (texts : HopTexts) (h : HopHandler) (io : RelayIo)
    (msg : Message) : (openExtend texts h io msg).handler = h.peel msg.data := by
  rw [openExtend, peel]
  cases h.context.cipherPair with
  | none => rfl
  | some pair =>
      simp only
      split
      · rfl
      split
      · rfl
      split
      · rfl
      split
      · rfl
      split <;> try rfl
      split <;> rfl

/-- An EXTEND that the next hop has answered found a cipher. -/
theorem cipher_of_openExtend [AddrText] {texts : HopTexts} {io : RelayIo} {msg : Message}
    {answer : ConnId × Message} (hopen : (openExtend texts h io msg).result = .ok answer) :
    ∃ pair, (h.peel msg.data).context.cipherPair = some pair := by
  rw [peel]
  cases hpair : h.context.cipherPair with
  | none =>
      rw [openExtend, hpair] at hopen
      cases hopen
  | some pair => exact ⟨_, rfl⟩

/-- Finishing an EXTEND keeps the next hop of an active circuit. -/
theorem Coherent.finishExtend (hh : h.Coherent) {pair : CipherPair}
    (hpair : h.context.cipherPair = some pair) (conn : ConnId) (createdMsg : Message) :
    (finishExtend h conn createdMsg).1.Coherent := by
  rw [HopHandler.finishExtend]
  simp only [hpair]
  exact (hh.setNext hpair (NextHop.new conn)).setCipher hpair _

/-- An EXTEND keeps the fields together, up to the answer and after it. -/
theorem Coherent.openExtend [AddrText] (hh : h.Coherent) {texts : HopTexts} {io : RelayIo}
    {msg : Message} {opened : Handled HopHandler (ConnId × Message)}
    (hopen : HopHandler.openExtend texts h io msg = opened) :
    opened.handler.Coherent ∧ ∀ answer, opened.result = .ok answer →
      (HopHandler.finishExtend opened.handler answer.1 answer.2).1.Coherent := by
  have hhandler : opened.handler = h.peel msg.data := by
    rw [← hopen, openExtend_handler]
  rw [hhandler]
  refine ⟨hh.peel msg.data, fun answer hanswer => ?_⟩
  rw [← hopen] at hanswer
  obtain ⟨pair, hpair⟩ := cipher_of_openExtend hanswer
  exact (hh.peel msg.data).finishExtend hpair _ _

/-- Adding a layer to a backward cell changes the cipher at most. -/
theorem Coherent.handleBackwardRelay (hh : h.Coherent) (texts : HopTexts) (msg : Message) :
    (handleBackwardRelay texts h msg).1.Coherent := by
  rw [HopHandler.handleBackwardRelay]
  cases hpair : h.context.cipherPair with
  | none => exact hh
  | some pair => exact hh.setCipher hpair _

/-- Passing a cell on keeps the fields together. -/
theorem Coherent.handleRelay (hh : h.Coherent) (texts : HopTexts) (io : RelayIo)
    (msg : Message) : (handleRelay texts h io msg).handler.Coherent := by
  rw [handleRelay_handler]
  exact hh.peel msg.data

end HopHandler

section

variable [Primitives] [AddrText] {h : HopHandler}

theorem EntryCircuitHandler.coherent_handleExtend (hh : h.Coherent) (io : RelayIo)
    (msg : Message) : (EntryCircuitHandler.handleExtend h io msg).handler.Coherent := by
  rw [EntryCircuitHandler.handleExtend]
  cases hopen : HopHandler.openExtend texts h io msg with
  | mk h' effects result =>
      obtain ⟨hkept, hfinish⟩ := hh.openExtend hopen
      cases result with
      | error e => exact hkept
      | ok answer => exact hfinish answer rfl

theorem MiddleCircuitHandler.coherent_handleExtend (hh : h.Coherent) (io : RelayIo)
    (msg : Message) : (MiddleCircuitHandler.handleExtend h io msg).handler.Coherent := by
  rw [MiddleCircuitHandler.handleExtend]
  cases hopen : HopHandler.openExtend texts h io msg with
  | mk h' effects result =>
      obtain ⟨hkept, hfinish⟩ := hh.openExtend hopen
      cases result with
      | error e => exact hkept
      | ok answer =>
          simp only
          split
          · exact hkept
          · exact hfinish answer rfl

/-- Every cell leaves the fields of an entry relay's handler together. -/
theorem EntryCircuitHandler.coherent_handleMessage (hh : h.Coherent) (io : RelayIo)
    (msg : Message) : (EntryCircuitHandler.handleMessage h io msg).handler.Coherent := by
  have hrelay := hh.handleRelay texts io msg
  rw [EntryCircuitHandler.handleMessage]
  cases msg.command with
  | create => exact hh.handleCreate io msg
  | extend =>
      simp only
      split
      · exact hrelay
      · exact coherent_handleExtend hh io msg
  | data | begin | «end» | connected => exact hrelay
  | destroy => exact h.coherent_close
  | padding | created | extended => exact hh

/-- Every cell leaves the fields of a middle relay's handler together. -/
theorem MiddleCircuitHandler.coherent_handleMessage (hh : h.Coherent) (io : RelayIo)
    (msg : Message) : (MiddleCircuitHandler.handleMessage h io msg).handler.Coherent := by
  have hrelay := hh.handleRelay texts io msg
  rw [MiddleCircuitHandler.handleMessage]
  cases msg.command with
  | create => exact hh.handleCreate io msg
  | extend =>
      simp only
      split
      · exact hrelay
      · exact coherent_handleExtend hh io msg
  | extended =>
      simp only [MiddleCircuitHandler.handleExtended]
      split <;> exact hh
  | data | begin | «end» | connected => exact hrelay
  | destroy => exact h.coherent_close
  | padding | created => exact hh

end

/-! ## Exit relays -/

namespace ExitCircuitHandler

/-- Key and shared crypto state are there exactly while the circuit is active, only then are
there streams, and the context holds no cipher. -/
structure Coherent (h : ExitCircuitHandler) : Prop where
  key : h.context.state = .active ↔ h.context.sessionKey.isSome = true
  shared : h.context.sessionKey.isSome = true ↔ h.sharedState.isSome = true
  moved : h.context.cipherPair = none
  streams : h.streams ≠ ∅ → h.context.state = .active

/-- A new handler holds nothing. -/
theorem coherent_new (circuitId : CircuitId) (keypair : KeyPair) :
    (new circuitId keypair).Coherent := by
  constructor <;> simp [new, CircuitContext.new]

/-- A closed handler holds nothing. -/
theorem coherent_close (h : ExitCircuitHandler) : h.close.Coherent := by
  constructor <;> simp [close, CircuitContext.close]

variable {h : ExitCircuitHandler}

/-- Where there is a crypto state, it may be replaced, and the streams may change. -/
theorem Coherent.setShared (hh : h.Coherent) {old : ExitCryptoState}
    (hold : h.sharedState = some old) (state : ExitCryptoState)
    (streams : HashMap StreamId ExitStream) :
    Coherent { h with sharedState := some state, streams := streams } := by
  have hkey : h.context.sessionKey.isSome = true := hh.shared.mpr (by rw [hold]; rfl)
  exact ⟨hh.key, ⟨fun _ => rfl, fun _ => hkey⟩, hh.moved, fun _ => hh.key.mpr hkey⟩

variable [Primitives]

/-- CREATE activates the circuit and moves its cipher, or changes nothing. -/
theorem Coherent.handleCreate (hh : h.Coherent) (io : RelayIo) (msg : Message) :
    (h.handleCreate io msg).handler.Coherent := by
  rw [ExitCircuitHandler.handleCreate]
  cases sliceArray? msg.data 0 32 with
  | none => exact hh
  | some clientPublic =>
      exact ⟨⟨fun _ => rfl, fun _ => rfl⟩, ⟨fun _ => rfl, fun _ => rfl⟩, rfl, fun _ => rfl⟩

/-- BEGIN changes the crypto state and the streams at most. -/
theorem Coherent.handleBegin (hh : h.Coherent) (io : RelayIo) (prevHopWrite : ConnId)
    (msg : Message) : (h.handleBegin io prevHopWrite msg).handler.Coherent := by
  rw [ExitCircuitHandler.handleBegin]
  cases hshared : h.sharedState with
  | none => exact hh
  | some state =>
      have hset := hh.setShared hshared
      simp only
      split
      · exact hset _ _
      split
      · exact hset _ _
      split
      · split
        · exact hset _ _
        · exact hset _ _
      · exact hset _ _

/-- So does DATA. -/
theorem Coherent.handleData (hh : h.Coherent) (io : RelayIo) (msg : Message) :
    (h.handleData io msg).handler.Coherent := by
  rw [ExitCircuitHandler.handleData]
  cases hshared : h.sharedState with
  | none => exact hh
  | some state =>
      have hset := hh.setShared hshared
      simp only
      split
      · exact hset _ _
      split
      · split
        · exact hset _ _
        · exact hset _ _
      · exact hset _ _

/-- So does END. -/
theorem Coherent.handleEnd (hh : h.Coherent) (msg : Message) :
    (h.handleEnd msg).handler.Coherent := by
  rw [ExitCircuitHandler.handleEnd]
  cases hshared : h.sharedState with
  | none => exact hh
  | some state =>
      have hset := hh.setShared hshared
      simp only
      split
      · exact hset _ _
      · exact hset _ _

/-- Every cell leaves the fields of an exit relay's handler together. -/
theorem coherent_handleMessage (hh : h.Coherent) (io : RelayIo) (prevHop : Option ConnId)
    (msg : Message) : (h.handleMessage io prevHop msg).handler.Coherent := by
  rw [handleMessage.eq_def]
  cases msg.command with
  | create => exact hh.handleCreate io msg
  | begin =>
      cases prevHop with
      | none => exact hh
      | some writer => exact hh.handleBegin io writer msg
  | data => exact hh.handleData io msg
  | «end» => exact hh.handleEnd msg
  | destroy => exact h.coherent_close
  | padding | created | extend | extended | connected => exact hh

end ExitCircuitHandler

/-! ## Runs of a handler -/

/-- What happens to a handler: a cell comes from the previous hop or from the next one, the
reader of the next hop starts, or a stream task of an exit uses the shared crypto state. -/
inductive HandlerEvent
  | handles (io : RelayIo) (prevHop : Option ConnId) (msg : Message)
  | handlesBackward (msg : Message)
  | takesReader
  | shares (state : ExitCryptoState)

namespace CircuitHandler

/-- The fields of a handler hang together. An exit holds its cipher in the shared state and
none in the context. -/
structure Coherent (handler : CircuitHandler) : Prop where
  key : handler.state = .active ↔ handler.sessionKey.isSome = true
  cipher : handler.sessionKey.isSome = true ↔ handler.cipherPair.isSome = true
  moved : handler.nodeType = .exit → handler.context.cipherPair = none
  next : handler.nextHop.isSome = true → handler.state = .active
  streams : handler.streams ≠ ∅ → handler.state = .active

/-- A closed handler holds nothing at all. -/
structure Empty (handler : CircuitHandler) : Prop where
  key : handler.sessionKey = none
  cipher : handler.cipherPair = none
  context : handler.context.cipherPair = none
  next : handler.nextHop = none
  streams : handler.streams = ∅

variable {handler : CircuitHandler}

theorem coherent_entry {h : EntryCircuitHandler} (hh : HopHandler.Coherent h) :
    (CircuitHandler.entry h).Coherent :=
  ⟨hh.key, hh.cipher, (fun hexit => by cases hexit), hh.next, fun hne => absurd rfl hne⟩

theorem coherent_middle {h : MiddleCircuitHandler} (hh : HopHandler.Coherent h) :
    (CircuitHandler.middle h).Coherent :=
  ⟨hh.key, hh.cipher, (fun hexit => by cases hexit), hh.next, fun hne => absurd rfl hne⟩

theorem coherent_exit {h : ExitCircuitHandler} (hh : h.Coherent) :
    (CircuitHandler.exit h).Coherent := by
  refine ⟨hh.key, ?_, fun _ => hh.moved, (fun hnext => by cases hnext), hh.streams⟩
  rw [cipherPair, Option.isSome_map]
  exact hh.shared

/-- The fields of the handler inside hang together. -/
theorem Coherent.hop (h : handler.Coherent) {hop : HopHandler}
    (hkind : handler = .entry hop ∨ handler = .middle hop) : hop.Coherent := by
  rcases hkind with rfl | rfl
  · exact ⟨h.key, h.cipher, h.next⟩
  · exact ⟨h.key, h.cipher, h.next⟩

theorem Coherent.exit {h : ExitCircuitHandler} (hh : (CircuitHandler.exit h).Coherent) :
    h.Coherent := by
  refine ⟨hh.key, ?_, hh.moved rfl, hh.streams⟩
  have hcipher := hh.cipher
  rwa [cipherPair, Option.isSome_map] at hcipher

/-- A closed handler whose fields hang together is empty. -/
theorem Coherent.empty (h : handler.Coherent) (hclosed : handler.state = .closed) :
    handler.Empty := by
  have hinactive : handler.state ≠ .active := by
    rw [hclosed]
    decide
  have hkey : handler.sessionKey = none := by
    rw [← Option.not_isSome_iff_eq_none, ← h.key]
    exact hinactive
  have hcipher : handler.cipherPair = none := by
    rw [← Option.not_isSome_iff_eq_none, ← h.cipher, hkey]
    decide
  refine ⟨hkey, hcipher, ?_, ?_, ?_⟩
  · cases handler with
    | entry hop => exact hcipher
    | middle hop => exact hcipher
    | exit hop => exact h.moved rfl
  · rw [← Option.not_isSome_iff_eq_none]
    exact fun hnext => hinactive (h.next hnext)
  · by_contra hne
    exact hinactive (h.streams hne)

/-- A new handler is coherent. -/
theorem coherent_new (nodeType : NodeType) (circuitId : CircuitId) (keypair : KeyPair) :
    (new nodeType circuitId keypair).Coherent := by
  cases nodeType with
  | entry => exact coherent_entry (HopHandler.coherent_new circuitId keypair)
  | middle => exact coherent_middle (HopHandler.coherent_new circuitId keypair)
  | exit => exact coherent_exit (ExitCircuitHandler.coherent_new circuitId keypair)

/-- Somebody else's use of the shared crypto state is not seen. -/
theorem Coherent.setShared (h : handler.Coherent) (state : ExitCryptoState) :
    (handler.setShared state).Coherent := by
  cases handler with
  | entry hop => exact h
  | middle hop => exact h
  | exit hop =>
      have hexit := h.exit
      refine coherent_exit ⟨hexit.key, ?_, hexit.moved, hexit.streams⟩
      rw [Option.isSome_map]
      exact hexit.shared

/-- Starting the reader is not seen. -/
theorem Coherent.takeReader (h : handler.Coherent) : handler.takeReader.1.Coherent := by
  cases handler with
  | entry hop => exact coherent_entry (h.hop (Or.inl rfl)).takeReader
  | middle hop => exact coherent_middle (h.hop (Or.inr rfl)).takeReader
  | exit hop => exact h

variable [Primitives] [AddrText]

/-- A step of a handler. -/
inductive Step : CircuitHandler → HandlerEvent → CircuitHandler → Prop
  | handles (handler : CircuitHandler) (io : RelayIo) (prevHop : Option ConnId) (msg : Message) :
      Step handler (.handles io prevHop msg) (handler.handleMessage io prevHop msg).handler
  | handlesBackward (handler : CircuitHandler) (msg : Message) :
      Step handler (.handlesBackward msg) (handler.handleBackwardRelay msg).1
  | takesReader (handler : CircuitHandler) : Step handler .takesReader handler.takeReader.1
  | shares (handler : CircuitHandler) (state : ExitCryptoState) :
      Step handler (.shares state) (handler.setShared state)

/-- The runs of a relay's handler, from when it is made. -/
def system (nodeType : NodeType) (circuitId : CircuitId) (keypair : KeyPair) :
    TransitionSystem CircuitHandler HandlerEvent where
  init handler := handler = new nodeType circuitId keypair
  step := Step

/-- Every cell from the previous hop keeps a handler coherent. -/
theorem Coherent.handleMessage (h : handler.Coherent) (io : RelayIo) (prevHop : Option ConnId)
    (msg : Message) : (handler.handleMessage io prevHop msg).handler.Coherent := by
  cases handler with
  | entry hop =>
      exact coherent_entry (EntryCircuitHandler.coherent_handleMessage (h.hop (Or.inl rfl)) io msg)
  | middle hop =>
      exact coherent_middle
        (MiddleCircuitHandler.coherent_handleMessage (h.hop (Or.inr rfl)) io msg)
  | exit hop =>
      exact coherent_exit (ExitCircuitHandler.coherent_handleMessage h.exit io prevHop msg)

/-- Every cell from the next hop keeps a handler coherent. -/
theorem Coherent.handleBackwardRelay (h : handler.Coherent) (msg : Message) :
    (handler.handleBackwardRelay msg).1.Coherent := by
  cases handler with
  | entry hop => exact coherent_entry ((h.hop (Or.inl rfl)).handleBackwardRelay _ msg)
  | middle hop => exact coherent_middle ((h.hop (Or.inr rfl)).handleBackwardRelay _ msg)
  | exit hop => exact h

/-- Every step keeps a handler coherent. -/
theorem Coherent.step {handler' : CircuitHandler} {e : HandlerEvent} (h : handler.Coherent)
    (hstep : Step handler e handler') : handler'.Coherent := by
  cases hstep with
  | handles io prevHop msg => exact h.handleMessage io prevHop msg
  | handlesBackward msg => exact h.handleBackwardRelay msg
  | takesReader => exact h.takeReader
  | shares state => exact h.setShared state

variable {nodeType : NodeType} {circuitId : CircuitId} {keypair : KeyPair}

/-- A handler is coherent in every run. -/
theorem reachable_coherent (hreach : (system nodeType circuitId keypair).Reachable handler) :
    handler.Coherent := by
  refine hreach.invariant Coherent ?_ fun _ _ _ h hstep => h.step hstep
  intro start hstart
  rw [hstart]
  exact coherent_new nodeType circuitId keypair

/-- After every step of every run the fields of a handler hang together, and a closed
handler holds nothing. -/
theorem coherent_and_empty (hreach : (system nodeType circuitId keypair).Reachable handler) :
    handler.Coherent ∧ (handler.state = .closed → handler.Empty) :=
  ⟨reachable_coherent hreach, (reachable_coherent hreach).empty⟩

end CircuitHandler

/-! ## Handlers without a key -/

/-- A call has returned no cell, and has forwarded nothing: it has asked nothing of the
outside. -/
def Handled.Silent {H : Type} (out : Handled H (Option Message)) : Prop :=
  (∀ response, out.result ≠ .ok (some response)) ∧ out.effects = []

/-- A call that fails before it does anything is silent. -/
theorem silent_error {H : Type} (h : H) (e : RelayError) :
    (⟨h, [], .error e⟩ : Handled H (Option Message)).Silent :=
  ⟨(fun _ hresult => by cases hresult), rfl⟩

/-- A call that returns nothing and does nothing is silent. -/
theorem silent_none {H : Type} (h : H) : (⟨h, [], .ok none⟩ : Handled H (Option Message)).Silent :=
  ⟨(fun _ hresult => by cases hresult), rfl⟩

section

variable [Primitives] {h : HopHandler}

/-- Without a cipher nothing is passed on. -/
theorem HopHandler.silent_handleRelay (hcipher : h.context.cipherPair = none) (texts : HopTexts)
    (io : RelayIo) (msg : Message) : (handleRelay texts h io msg).Silent := by
  rw [handleRelay, hcipher]
  exact silent_error h _

variable [AddrText]

/-- An entry relay without a cipher is silent at every cell but CREATE. -/
theorem EntryCircuitHandler.silent (hcipher : h.context.cipherPair = none) (io : RelayIo)
    {msg : Message} (hcommand : msg.command ≠ .create) :
    (EntryCircuitHandler.handleMessage h io msg).Silent := by
  have hrelay := HopHandler.silent_handleRelay hcipher texts io msg
  rw [EntryCircuitHandler.handleMessage]
  cases hmsg : msg.command with
  | create => exact absurd hmsg hcommand
  | extend =>
      simp only
      split
      · exact hrelay
      · rw [EntryCircuitHandler.handleExtend, HopHandler.openExtend, hcipher]
        exact silent_error h _
  | data | begin | «end» | connected => exact hrelay
  | destroy => exact silent_none _
  | padding => exact silent_none _
  | created | extended => exact silent_error h _

/-- A middle relay without a cipher is silent at every cell but CREATE and EXTENDED. -/
theorem MiddleCircuitHandler.silent (hcipher : h.context.cipherPair = none) (io : RelayIo)
    {msg : Message} (hcommand : msg.command ≠ .create) (hextended : msg.command ≠ .extended) :
    (MiddleCircuitHandler.handleMessage h io msg).Silent := by
  have hrelay := HopHandler.silent_handleRelay hcipher texts io msg
  rw [MiddleCircuitHandler.handleMessage]
  cases hmsg : msg.command with
  | create => exact absurd hmsg hcommand
  | extend =>
      simp only
      split
      · exact hrelay
      · rw [MiddleCircuitHandler.handleExtend, HopHandler.openExtend, hcipher]
        exact silent_error h _
  | extended => exact absurd hmsg hextended
  | data | begin | «end» | connected => exact hrelay
  | destroy => exact silent_none _
  | padding => exact silent_none _
  | created => exact silent_error h _

/-- At EXTENDED a middle relay is silent exactly when the cell is too short for a key. -/
theorem MiddleCircuitHandler.silent_extended_iff (io : RelayIo) {msg : Message}
    (hextended : msg.command = .extended) :
    (MiddleCircuitHandler.handleMessage h io msg).Silent ↔ msg.data.length < 32 := by
  simp only [MiddleCircuitHandler.handleMessage, hextended, MiddleCircuitHandler.handleExtended]
  by_cases hshort : msg.data.length < 32
  · simp only [hshort, if_true, iff_true]
    exact silent_error h _
  · simp only [hshort, if_false, iff_false]
    exact fun hsilent => hsilent.1 msg rfl

end

/-- An exit relay without a crypto state is silent at every cell but CREATE. -/
theorem ExitCircuitHandler.silent [Primitives] {h : ExitCircuitHandler}
    (hshared : h.sharedState = none) (io : RelayIo) (prevHop : Option ConnId) {msg : Message}
    (hcommand : msg.command ≠ .create) : (h.handleMessage io prevHop msg).Silent := by
  rw [handleMessage.eq_def]
  cases hmsg : msg.command with
  | create => exact absurd hmsg hcommand
  | begin =>
      cases prevHop with
      | none => exact silent_error h _
      | some writer =>
          simp only [handleBegin, hshared]
          exact silent_error h _
  | data =>
      simp only [handleData, hshared]
      exact silent_error h _
  | «end» =>
      simp only [handleEnd, hshared]
      exact silent_error h _
  | destroy => exact silent_none _
  | padding => exact silent_none _
  | created | extend | extended | connected => exact silent_error h _

namespace CircuitHandler

/-- What a handler returns and writes is silent when the handler inside is silent. -/
theorem silent_lift {H : Type} (wrap : H → CircuitHandler) (out : Handled H (Option Message)) :
    (lift wrap out).Silent ↔ out.Silent := Iff.rfl

section

variable [Primitives] [AddrText] {handler : CircuitHandler} {nodeType : NodeType}
  {circuitId : CircuitId} {keypair : KeyPair}

/-- A handler without a key is silent at a cell other than CREATE unless it is a middle
relay's and the cell is an EXTENDED that is long enough for a key. -/
theorem silent_iff_of_keyless (hreach : (system nodeType circuitId keypair).Reachable handler)
    (hkey : handler.sessionKey = none) (io : RelayIo) (prevHop : Option ConnId) {msg : Message}
    (hcommand : msg.command ≠ .create) :
    (handler.handleMessage io prevHop msg).Silent ↔
      ¬ (handler.nodeType = .middle ∧ msg.command = .extended ∧ 32 ≤ msg.data.length) := by
  have hcipher : handler.cipherPair = none := by
    rw [← Option.not_isSome_iff_eq_none, ← (reachable_coherent hreach).cipher, hkey]
    decide
  cases handler with
  | entry h =>
      have hsilent := EntryCircuitHandler.silent (h := h) hcipher io hcommand
      exact iff_of_true hsilent fun hmiddle => by cases hmiddle.1
  | middle h =>
      by_cases hextended : msg.command = .extended
      · have hiff := MiddleCircuitHandler.silent_extended_iff (h := h) io hextended
        rw [handleMessage, silent_lift, hiff]
        constructor
        · intro hshort hmiddle
          exact absurd hmiddle.2.2 (Nat.not_le.mpr hshort)
        · intro hnot
          by_contra hlong
          exact hnot ⟨rfl, hextended, Nat.not_lt.mp hlong⟩
      · have hsilent := MiddleCircuitHandler.silent (h := h) hcipher io hcommand hextended
        exact iff_of_true hsilent fun hmiddle => hextended hmiddle.2.1
  | exit h =>
      have hshared : h.sharedState = none := Option.map_eq_none_iff.mp hcipher
      have hsilent := ExitCircuitHandler.silent hshared io prevHop hcommand
      exact iff_of_true hsilent fun hmiddle => by cases hmiddle.1

end

/-! ## A new circuit -/

section

open Reference

/-- A new handler of the sample relay. -/
def sampleHandler (nodeType : NodeType) : CircuitHandler :=
  new nodeType 7 (KeyPair.fromSecretBytes (FixedBytes.ofNat 32 5))

/-- An exit relay's handler after CREATE. -/
theorem coherent_and_empty_created :
    let handler := ((sampleHandler .exit).handleMessage (.offline (FixedBytes.ofNat 32 7)) none
      (Message.create 7 (FixedBytes.ofNat 32 8).1)).handler
    handler.Coherent ∧ (handler.state = .closed → handler.Empty) := by
  intro handler
  have hreach : (system .exit 7 (KeyPair.fromSecretBytes (FixedBytes.ofNat 32 5))).Reachable
      (sampleHandler .exit) := TransitionSystem.reachable_of_init rfl
  exact coherent_and_empty (hreach.next (Step.handles _ _ _ _))

/-- DATA at an entry relay's handler before CREATE. -/
theorem silent_iff_of_keyless_data :
    ((sampleHandler .entry).handleMessage (.offline (FixedBytes.ofNat 32 7)) none
        (Message.dataMsg 7 1 [0x78])).Silent ↔
      ¬ ((sampleHandler .entry).nodeType = .middle ∧
        (Message.dataMsg 7 1 [0x78]).command = .extended ∧
        32 ≤ (Message.dataMsg 7 1 [0x78]).data.length) := by
  have hreach : (system .entry 7 (KeyPair.fromSecretBytes (FixedBytes.ofNat 32 5))).Reachable
      (sampleHandler .entry) := TransitionSystem.reachable_of_init rfl
  exact silent_iff_of_keyless hreach rfl _ none (by decide)

/-- A middle relay that has seen no CREATE sends an EXTENDED of 32 bytes back. -/
theorem not_silent_extended :
    ¬ ∀ (nodeType : NodeType) circuitId keypair handler,
      (system nodeType circuitId keypair).Reachable handler → handler.sessionKey = none →
        ∀ io prevHop (msg : Message), msg.command ≠ .create →
          (handler.handleMessage io prevHop msg).Silent := by
  intro hclaim
  have hreach : (system .middle 7 (KeyPair.fromSecretBytes (FixedBytes.ofNat 32 5))).Reachable
      (sampleHandler .middle) := TransitionSystem.reachable_of_init rfl
  have hsilent := hclaim .middle _ _ _ hreach rfl (.offline (FixedBytes.ofNat 32 7)) none
    (Message.extended 7 (FixedBytes.zero 32).1) (by decide)
  exact hsilent.1 _ rfl

end

end CircuitHandler

end NoPanic
