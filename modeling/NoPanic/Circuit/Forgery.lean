/-
# Tags without a secret

The running digest starts from nothing and is fed nothing but the cells, so the
tag of a cell is a function of what was sent. A relay that knows the plaintext of
a cell it carries can therefore replace it: it masks the difference to another
plaintext into the payload, which goes through all layers, and writes the tag of
the other cell beside it. The end of the direction takes the forged cell for the
one that was sent, under whatever keys.
-/

import NoPanic.Circuit.Network

namespace NoPanic

open NoPanic.Math

/-- A relay's change to a cell that it carries: from the cell it knows to a forged
one, with a tag made from the history that ends in the forged cell. -/
def tamper (f : List RelayCell → FixedBytes 4) (history : List RelayCell)
    (known forged : RelayCell) (msg : Message) : Message :=
  { msg with
    streamId := forged.streamId
    command := forged.command
    data := xorData msg.data (xorData known.data forged.data)
    digest := f (history ++ [forged]) }

/-- The running digest that has been fed a history. -/
def digestAfter (history : List RelayCell) : RunningDigest := ⟨records history⟩

/-- The client and the relays of a circuit hold the same ciphers, hop by hop. -/
structure Aligned (client : Circuit) (hops : List HopNode) (state : ExitCryptoState) : Prop where
  long : 3 ≤ hops.length + 1
  established : ∀ node ∈ hops, node.handler.Established
  ciphers : client.onionKeys.ciphers = hops.map HopNode.pair ++ [state.cipher]

section

variable [Primitives]

/-- With tags from `f` the last relay of `front` can replace any cell it carries to
the exit: the client sends one cell, and the exit recovers another, whatever the
keys. -/
def ForgesForward [AddrText] (f : List RelayCell → FixedBytes 4) : Prop :=
  ∀ (client : Circuit) (front behind : List HopNode) (exit : ExitCircuitHandler)
    (state : ExitCryptoState) (io : RelayIo) (prevHop : ConnId) (history : List RelayCell)
    (known forged : RelayCell), front ≠ [] → Aligned client (front ++ behind) state →
    exit.sharedState = some state → io.Delivers →
    client.onionKeys.forwardDigest = digestAfter history →
    state.forwardDigest = digestAfter history →
    known.Sendable → forged.Sendable → known.data.length = forged.data.length →
    ∃ msg carried arriving,
      (client.sendMessage known.streamId known.command known.data (.ok ())).2 = .ok msg ∧
      ((relayTransducer io).chain front [msg]).2 = [carried] ∧
      ((relayTransducer io).chain behind [tamper f history known forged carried]).2 = [arriving] ∧
      RelayEffect.recovered forged.streamId forged.command forged.data ∈
        (exit.handleMessage io (some prevHop) arriving).effects

/-- With tags from `f` the last relay of `front` can replace any cell it carries to
the client: the exit seals one cell, and the client accepts another, whatever the
keys. -/
def ForgesBackward [AddrText] (f : List RelayCell → FixedBytes 4) : Prop :=
  ∀ (client : Circuit) (front behind : List HopNode) (state : ExitCryptoState)
    (circuitId : CircuitId) (history : List RelayCell) (known forged : RelayCell),
    front ≠ [] → Aligned client (front ++ behind) state →
    client.onionKeys.backwardDigest = digestAfter history →
    state.backwardDigest = digestAfter history →
    known.command ≠ .padding ∧ known.command ≠ .destroy →
    forged.command ≠ .padding ∧ forged.command ≠ .destroy →
    known.data.length ≤ maxPayloadSize → known.data.length = forged.data.length →
    ∃ carried arriving,
      (relayBackTransducer.chain behind.reverse
        [(state.sealCell circuitId known.streamId known.command known.data).2]).2 = [carried] ∧
      (relayBackTransducer.chain front.reverse [tamper f history known forged carried]).2 =
        [arriving] ∧
      (client.readMessage arriving).2.cell? = some forged

/-- The tag is bound to the circuit's secret: no function of what was sent makes tags
that let a relay forge cells, in either direction. -/
def TagBound [AddrText] : Prop := (¬ ∃ f, ForgesForward f) ∧ ¬ ∃ f, ForgesBackward f

/-! ## The tag is a function of the history -/

/-- The tag of the last cell of a history. -/
def runningTag (history : List RelayCell) : FixedBytes 4 := digestTag (records history)

/-- A change masked into a layered string reaches the data under all layers. -/
theorem maskAll_xorData (ciphers : List Aes128Ctr) {data delta : Bytes}
    (hlen : data.length = delta.length) :
    maskAll ciphers (xorData data delta) = xorData (maskAll ciphers data) delta := by
  induction ciphers with
  | nil => rfl
  | cons cipher ciphers ih =>
      have hmasked : (maskAll ciphers data).length = delta.length := by
        rw [length_maskAll, hlen]
      simp only [maskAll, ih, cipher.applyKeystream_xorData hmasked]

/-- The forged cell is the very cell that an end in the same place would have
encoded. -/
theorem tamper_encode (circuitId : CircuitId) {s : OnionEnd} {history : List RelayCell}
    (hdigest : s.digest = digestAfter history) {known forged : RelayCell}
    (hlen : known.data.length = forged.data.length) :
    tamper runningTag history known forged (OnionEnd.encode circuitId s known).2 =
      (OnionEnd.encode circuitId s forged).2 := by
  have hdelta : (xorData known.data forged.data).length = known.data.length :=
    length_xorData hlen
  have hmask : xorData (maskAll s.ciphers known.data) (xorData known.data forged.data) =
      maskAll s.ciphers forged.data := by
    rw [← maskAll_xorData s.ciphers hdelta.symm, xorData_xorData _ _ hlen]
  simp only [tamper, OnionEnd.encode, Message.new, hmask]
  simp [runningTag, records, RunningDigest.update, hdigest, digestAfter]

/-! ## Both directions -/

/-- The exit recovers a cell that opens with a valid digest. -/
theorem ExitCircuitHandler.recovered_of_decode {h : ExitCircuitHandler} {state : ExitCryptoState}
    {io : RelayIo} {prevHop : ConnId} {msg : Message} {cell : RelayCell}
    (hstate : h.sharedState = some state)
    (hdecode : (state.forwardEnd.decode msg).2 = some cell) (hcell : cell.Sendable) :
    RelayEffect.recovered cell.streamId cell.command cell.data ∈
      (h.handleMessage io (some prevHop) msg).effects := by
  obtain ⟨state', hopen, -, -, hstream, hcommand⟩ := ExitCryptoState.openCell_eq hdecode
  rw [hstream, hcommand]
  rcases hcell.command with hbegin | hdata | hend
  · obtain ⟨dest, hdest⟩ := hcell.text hbegin
    rw [hcommand] at hbegin
    simp only [handleMessage, hbegin, handleBegin, hstate, hopen, Bool.not_true, Bool.false_eq_true,
      if_false, hdest, fromUtf8_asBytes]
    split
    · split <;> simp
    · simp [replyEnd]
  · rw [hcommand] at hdata
    simp only [handleMessage, hdata, handleData, hstate, hopen, Bool.not_true, Bool.false_eq_true,
      if_false]
    split
    · split <;> simp [replyEnd]
    · simp [replyEnd]
  · rw [hcommand] at hend
    simp [handleMessage, hend, handleEnd, hstate, hopen, replyEnd]

/-- The public tag forges cells to the exit. -/
theorem forgesForward_runningTag [AddrText] : ForgesForward runningTag := by
  intro client front behind exit state io prevHop history known forged _ haligned hstate
    hdelivers hclient hexit hknown hforged hlen
  have hends : client.onionKeys.forwardEnd =
      ⟨front.map (fun node => node.pair.forward) ++
        (behind.map (fun node => node.pair.forward) ++ [state.cipher.forward]),
        digestAfter history⟩ := by
    simp [OnionKeys.forwardEnd, haligned.ciphers, hclient, Function.comp_def]
  have hfront : ∀ node ∈ front, node.handler.Established := fun node hnode =>
    haligned.established node (by simp [hnode])
  have hbehind : ∀ node ∈ behind, node.handler.Established := fun node hnode =>
    haligned.established node (by simp [hnode])
  have htraffic : ∀ (s : OnionEnd) {cell : RelayCell}, cell.Sendable →
      ∀ msg ∈ [(OnionEnd.encode client.circuitId s cell).2], ForwardTraffic msg := by
    intro s cell hcell msg hmsg
    rw [List.mem_singleton.mp hmsg]
    exact ⟨.inr hcell.command, by simpa using hcell.fits⟩
  refine ⟨_,
    (OnionEnd.encode client.circuitId ⟨behind.map (fun node => node.pair.forward) ++
      [state.cipher.forward], digestAfter history⟩ known).2,
    (OnionEnd.encode client.circuitId ⟨[state.cipher.forward], digestAfter history⟩ forged).2,
    (client.sendMessage_eq _ _ hknown.fits).1, ?_, ?_, ?_⟩
  · rw [(relayTransducer_seenAs hdelivers).chain hfront (htraffic _ hknown), hends,
      chain_peel _ _ _ _ hknown.ne_padding]
  · rw [tamper_encode client.circuitId rfl hlen,
      (relayTransducer_seenAs hdelivers).chain hbehind (htraffic _ hforged),
      chain_peel _ _ _ _ hforged.ne_padding]
  · refine ExitCircuitHandler.recovered_of_decode hstate ?_ hforged
    have hend : state.forwardEnd = ⟨[state.cipher.forward], digestAfter history⟩ := by
      rw [ExitCryptoState.forwardEnd, hexit]
    rw [hend, OnionEnd.decode_encode]

/-- The public tag forges cells to the client. -/
theorem forgesBackward_runningTag [AddrText] : ForgesBackward runningTag := by
  intro client front behind state circuitId history known forged _ haligned hclient hexit
    hknown hforged hfits hlen
  have hends : client.onionKeys.backwardEnd =
      ⟨front.map (fun node => node.pair.backward) ++
        (behind.map (fun node => node.pair.backward) ++ [state.cipher.backward]),
        digestAfter history⟩ := by
    simp [OnionKeys.backwardEnd, haligned.ciphers, hclient, Function.comp_def]
  have hfront : ∀ node ∈ front.reverse, node.handler.Established := fun node hnode =>
    haligned.established node (by simp [List.mem_reverse.mp hnode])
  have hbehind : ∀ node ∈ behind.reverse, node.handler.Established := fun node hnode =>
    haligned.established node (by simp [List.mem_reverse.mp hnode])
  have htraffic : ∀ (s : OnionEnd) {cell : RelayCell},
      cell.command ≠ .padding ∧ cell.command ≠ .destroy → cell.data.length ≤ maxPayloadSize →
      ∀ msg ∈ [(OnionEnd.encode circuitId s cell).2], BackwardTraffic msg := by
    intro s cell hcell hshort msg hmsg
    rw [List.mem_singleton.mp hmsg]
    exact ⟨hcell.1, hcell.2, by simpa using hshort⟩
  obtain ⟨state', hseal, -⟩ := state.sealCell_eq circuitId known
  have hback : state.backwardEnd = ⟨[state.cipher.backward], digestAfter history⟩ := by
    rw [ExitCryptoState.backwardEnd, hexit]
  rw [hback] at hseal
  refine ⟨(OnionEnd.encode circuitId ⟨behind.map (fun node => node.pair.backward) ++
      [state.cipher.backward], digestAfter history⟩ known).2,
    (OnionEnd.encode circuitId client.onionKeys.backwardEnd forged).2, ?_, ?_, ?_⟩
  · rw [hseal, relayBackTransducer_seenAs.chain hbehind (htraffic _ hknown hfits),
      List.map_reverse, chain_wrap _ _ _ _ hknown.1]
  · rw [tamper_encode circuitId rfl hlen,
      relayBackTransducer_seenAs.chain hfront (htraffic _ hforged (hlen ▸ hfits)),
      List.map_reverse, chain_wrap _ _ _ _ hforged.1, hends]
  · rw [(client.readMessage_eq hforged.2).1, OnionEnd.decode_encode]

/-- The tag is bound to no secret: in both directions there is a function of what
was sent whose tags forge cells. -/
theorem tag_forgeable [AddrText] : (∃ f, ForgesForward f) ∧ ∃ f, ForgesBackward f :=
  ⟨⟨runningTag, forgesForward_runningTag⟩, runningTag, forgesBackward_runningTag⟩

end

/-! ## A payment redirected -/

section

open Reference

/-- What the client writes to a stream. -/
def samplePayment : RelayCell := ⟨1, .data, asBytes "pay 10 to alice"⟩

/-- What the middle relay makes of it. -/
def forgedPayment : RelayCell := ⟨1, .data, asBytes "pay 90 to mitch"⟩

/-- The client's and the relays' ciphers of the sample circuit agree. -/
theorem sampleNetwork_aligned :
    Aligned sampleNetwork.client (sampleNetwork.hops ++ []) sampleNetwork.exitState where
  long := by decide
  established := by simpa using sampleNetwork_ready.established
  ciphers := rfl

/-- On the sample circuit the client sends one payment and the exit recovers another
one, and so the tag is not bound to the circuit's secret. -/
theorem forged_samplePayment :
    (∃ msg carried,
      (sampleNetwork.client.sendMessage 1 .data samplePayment.data (.ok ())).2 = .ok msg ∧
      ((relayTransducer sampleIo).chain sampleNetwork.hops [msg]).2 = [carried] ∧
      RelayEffect.recovered 1 .data forgedPayment.data ∈
        (sampleNetwork.exit.handleMessage sampleIo (some exitPrevHop)
          (tamper runningTag [] samplePayment forgedPayment carried)).effects) ∧
      ¬ TagBound := by
  have hsample : samplePayment.Sendable := ⟨.inr (.inl rfl), by decide, by simp [samplePayment]⟩
  have hforged : forgedPayment.Sendable := ⟨.inr (.inl rfl), by decide, by simp [forgedPayment]⟩
  obtain ⟨msg, carried, arriving, hsent, hcarried, harriving, hrecovered⟩ :=
    forgesForward_runningTag sampleNetwork.client sampleNetwork.hops [] sampleNetwork.exit
      sampleNetwork.exitState sampleIo exitPrevHop [] samplePayment forgedPayment
      (by simp [sampleNetwork]) sampleNetwork_aligned rfl sampleIo_delivers rfl rfl hsample
      hforged (by decide)
  rw [Transducer.chain_nil, List.singleton_inj] at harriving
  exact ⟨⟨msg, carried, hsent, hcarried, harriving ▸ hrecovered⟩,
    fun hbound => hbound.1 ⟨runningTag, forgesForward_runningTag⟩⟩

end

end NoPanic
