/-
# Entry and middle relays: shared parts

Entry and middle relays keep the same state and forward cells in the same way.
What they do alike is written here once, over the texts in which the two differ;
`EntryCircuitHandler` and `MiddleCircuitHandler` are these definitions at their
own texts.

EXTEND names the next hop in its payload: the address, a zero byte, the client's
ephemeral key, a zero byte, and the fingerprint. `parseExtend` reads back what a
client writes, as long as the address holds no zero byte.
-/

import NoPanic.Relay.Handler

namespace NoPanic

open NoPanic.Math

/-- The handler of an entry or a middle relay. -/
structure HopHandler where
  context : CircuitContext
  keypair : KeyPair
  nextHop : Option NextHop
  deriving DecidableEq, Repr

/-- The texts in which the two kinds of relay differ. -/
structure HopTexts where
  noCipherExtend : String
  noCipherRelay : String
  noCipherBackward : String
  extendShortKey : String
  extendInvalidKey : String
  /-- How the next hop is shown: as it was written, or as it was parsed. -/
  shown : String → SocketAddr → String
  nextHopClosed : String
  expectedCreated : String

/-- What an EXTEND names. -/
structure ExtendPayload where
  addrStr : String
  clientPublic : FixedBytes 32
  fingerprint : String
  deriving DecidableEq, Repr

namespace ExtendPayload

/-- The bytes a client writes. -/
def encode (payload : ExtendPayload) : Bytes :=
  asBytes payload.addrStr ++ (0 :: (payload.clientPublic.1 ++ (0 :: asBytes payload.fingerprint)))

end ExtendPayload

/-- Read the payload of an EXTEND. -/
def parseExtend (texts : HopTexts) (decrypted : Bytes) : Except RelayError ExtendPayload :=
  if decrypted.length < 33 then .error (.text "EXTEND payload too short")
  else
    match decrypted.findIdx? (· == 0) with
    | none => .error (.text "EXTEND payload missing address separator")
    | some addrEnd =>
        match fromUtf8 (decrypted.take addrEnd) with
        | none => .error (.utf8 "")
        | some addrStr =>
            let keyStart := addrEnd + 1
            let keyEnd := keyStart + 32
            if keyEnd > decrypted.length then .error (.text texts.extendShortKey)
            else
              match sliceArray? decrypted keyStart 32 with
              | none => .error (.text texts.extendInvalidKey)
              | some clientPublic =>
                  match decrypted[keyEnd]? with
                  | none => .error (.text "EXTEND payload missing fingerprint separator")
                  | some fpStart =>
                      if fpStart ≠ 0 then
                        .error (.text "EXTEND payload missing fingerprint separator")
                      else
                        match fromUtf8 (decrypted.drop (keyEnd + 1)) with
                        | none => .error (.utf8 "")
                        | some fingerprint => .ok ⟨addrStr, clientPublic, fingerprint⟩

/-- What a client writes is read back. -/
theorem parseExtend_encode (texts : HopTexts) (payload : ExtendPayload)
    (hzero : 0 ∉ asBytes payload.addrStr) :
    parseExtend texts payload.encode = .ok payload := by
  obtain ⟨addrStr, clientPublic, fingerprint⟩ := payload
  simp only at hzero
  have hkey : clientPublic.1.length = 32 := clientPublic.2
  have hlen : (ExtendPayload.encode ⟨addrStr, clientPublic, fingerprint⟩).length =
      (asBytes addrStr).length + 34 + (asBytes fingerprint).length := by
    simp only [ExtendPayload.encode, List.length_append, List.length_cons, hkey]
    omega
  -- the first zero byte ends the address
  have hfind : (ExtendPayload.encode ⟨addrStr, clientPublic, fingerprint⟩).findIdx? (· == 0) =
      some (asBytes addrStr).length := by
    have hnone : (asBytes addrStr).findIdx? (· == 0) = none := by
      rw [List.findIdx?_eq_none_iff]
      intro b hb
      simpa using fun heq : b = 0 => hzero (heq ▸ hb)
    simp [ExtendPayload.encode, List.findIdx?_append, hnone, List.findIdx?_cons]
  have htake : (ExtendPayload.encode ⟨addrStr, clientPublic, fingerprint⟩).take
      (asBytes addrStr).length = asBytes addrStr := List.take_left
  have hslice : sliceArray? (ExtendPayload.encode ⟨addrStr, clientPublic, fingerprint⟩)
      ((asBytes addrStr).length + 1) 32 = some clientPublic := by
    have hread :=
      sliceArray?_append (asBytes addrStr ++ [0]) clientPublic (0 :: asBytes fingerprint)
    rwa [List.append_assoc, List.length_append] at hread
  -- what follows the key
  have hback : (ExtendPayload.encode ⟨addrStr, clientPublic, fingerprint⟩).drop
      ((asBytes addrStr).length + 1 + 32) = 0 :: asBytes fingerprint := by
    have hsplit : ExtendPayload.encode ⟨addrStr, clientPublic, fingerprint⟩ =
        (asBytes addrStr ++ 0 :: clientPublic.1) ++ 0 :: asBytes fingerprint := by
      simp [ExtendPayload.encode]
    rw [hsplit]
    exact List.drop_left' (by simp [hkey])
  have hsep : (ExtendPayload.encode ⟨addrStr, clientPublic, fingerprint⟩)[
      (asBytes addrStr).length + 1 + 32]? = some 0 := by
    rw [← List.head?_drop, hback]
    rfl
  have hdrop : (ExtendPayload.encode ⟨addrStr, clientPublic, fingerprint⟩).drop
      ((asBytes addrStr).length + 1 + 32 + 1) = asBytes fingerprint := by
    rw [← List.drop_drop, hback]
    rfl
  rw [parseExtend, if_neg (by omega)]
  simp only [hfind, htake, fromUtf8_asBytes]
  rw [if_neg (by omega)]
  simp [hslice, hsep, hdrop]

namespace HopHandler

/-- The handler of a new circuit. -/
def new (circuitId : CircuitId) (keypair : KeyPair) : HopHandler :=
  ⟨CircuitContext.new circuitId, keypair, none⟩

/-- Close the circuit. -/
def close (h : HopHandler) : HopHandler := { h with context := h.context.close, nextHop := none }

/-- The handler with another cipher pair. -/
def setCipher (h : HopHandler) (cipherPair : CipherPair) : HopHandler :=
  { h with context := { h.context with cipherPair := some cipherPair } }

@[simp]
theorem setCipher_cipherPair (h : HopHandler) (pair : CipherPair) :
    (h.setCipher pair).context.cipherPair = some pair := rfl

@[simp]
theorem setCipher_circuitId (h : HopHandler) (pair : CipherPair) :
    (h.setCipher pair).context.circuitId = h.context.circuitId := rfl

@[simp]
theorem setCipher_sessionKey (h : HopHandler) (pair : CipherPair) :
    (h.setCipher pair).context.sessionKey = h.context.sessionKey := rfl

@[simp]
theorem setCipher_keypair (h : HopHandler) (pair : CipherPair) :
    (h.setCipher pair).keypair = h.keypair := rfl

@[simp]
theorem setCipher_nextHop (h : HopHandler) (pair : CipherPair) :
    (h.setCipher pair).nextHop = h.nextHop := rfl

/-- Take the read half of the next hop for a background reader. -/
def takeReader (h : HopHandler) : HopHandler × Option ConnId :=
  match h.nextHop with
  | none => (h, none)
  | some hop => ({ h with nextHop := some hop.takeRead.1 }, hop.takeRead.2)

section

variable [Primitives]

/-- Answer a CREATE: run the handshake and activate the circuit. -/
def handleCreate (h : HopHandler) (io : RelayIo) (msg : Message) :
    Handled HopHandler (Option Message) :=
  match sliceArray? msg.data 0 32 with
  | none => ⟨h, [], .error (.text "CREATE message too short")⟩
  | some clientPublic =>
      let (serverEphPub, auth, sessionKey) :=
        h.keypair.ntorServerHandshake io.ySecret clientPublic
      let h := { h with context := h.context.activate sessionKey }
      let response := Message.created h.context.circuitId (serverEphPub.1 ++ auth.1)
      ⟨h, [], .ok (some response)⟩

/-- Act on an EXTEND up to the answer of the next hop: peel the layer, read the
payload, connect, send CREATE and wait for CREATED. -/
def openExtend [AddrText] (texts : HopTexts) (h : HopHandler) (io : RelayIo) (msg : Message) :
    Handled HopHandler (ConnId × Message) :=
  match h.context.cipherPair with
  | none => ⟨h, [], .error (.text texts.noCipherExtend)⟩
  | some cipherPair =>
      let (cipherPair, decrypted) := cipherPair.applyForward msg.data
      let h := h.setCipher cipherPair
      match parseExtend texts decrypted with
      | .error e => ⟨h, [], .error e⟩
      | .ok payload =>
          match AddrText.parse payload.addrStr with
          | none => ⟨h, [], .error .addrParse⟩
          | some addr =>
              match io.connect addr payload.fingerprint with
              | .error e => ⟨h, [], .error (.io e)⟩
              | .ok conn =>
                  let dialled := RelayEffect.dial addr payload.fingerprint conn
                  let createMsg := Message.create h.context.circuitId payload.clientPublic.1
                  match createMsg.writeToStream (io.write conn createMsg) with
                  | .error e => ⟨h, [dialled], .error (.tor e)⟩
                  | .ok () =>
                      let effects := [dialled, .send conn createMsg]
                      let shown := texts.shown payload.addrStr addr
                      match io.readCreated conn createMsg with
                      | .timeout =>
                          ⟨h, effects,
                            .error (.text s!"Timed out waiting for CREATED from {shown}")⟩
                      | .readError e =>
                          ⟨h, effects,
                            .error (.text s!"Error reading CREATED from {shown}: {e}")⟩
                      | .closed =>
                          ⟨h, effects, .error (.text (texts.nextHopClosed ++ shown))⟩
                      | .cell createdMsg =>
                          if createdMsg.command ≠ .created then
                            ⟨h, effects, .error (.text
                              (texts.expectedCreated ++ createdMsg.command.debugName))⟩
                          else ⟨h, effects, .ok (conn, createdMsg)⟩

/-- Finish an EXTEND: keep the next hop and return its answer under one layer. -/
def finishExtend (h : HopHandler) (conn : ConnId) (createdMsg : Message) :
    HopHandler × Except RelayError (Option Message) :=
  let h := { h with nextHop := some (NextHop.new conn) }
  match h.context.cipherPair with
  | none => (h, .error (.text "No cipher pair established"))
  | some cipherPair =>
      let (cipherPair, encryptedData) := cipherPair.applyBackward createdMsg.data
      let h := h.setCipher cipherPair
      (h, .ok (some (Message.extended h.context.circuitId encryptedData)))

/-- Peel one layer and pass the cell on. Without a next hop the cell is dropped
after the layer is peeled. -/
def handleRelay (texts : HopTexts) (h : HopHandler) (io : RelayIo) (msg : Message) :
    Handled HopHandler (Option Message) :=
  match h.context.cipherPair with
  | none => ⟨h, [], .error (.text texts.noCipherRelay)⟩
  | some cipherPair =>
      let (cipherPair, decrypted) := cipherPair.applyForward msg.data
      let h := h.setCipher cipherPair
      match h.nextHop with
      | none => ⟨h, [], .ok none⟩
      | some hop =>
          let forwardMsg :=
            { Message.new msg.circuitId msg.streamId msg.command decrypted with
              digest := msg.digest }
          match forwardMsg.writeToStream (io.write hop.write forwardMsg) with
          | .error e => ⟨h, [], .error (.tor e)⟩
          | .ok () => ⟨h, [.send hop.write forwardMsg], .ok none⟩

/-- Add one layer to a backward cell. -/
def handleBackwardRelay (texts : HopTexts) (h : HopHandler) (msg : Message) :
    HopHandler × Except RelayError (Option Message) :=
  match h.context.cipherPair with
  | none => (h, .error (.text texts.noCipherBackward))
  | some cipherPair =>
      let (cipherPair, encrypted) := cipherPair.applyBackward msg.data
      let response :=
        { Message.new msg.circuitId msg.streamId msg.command encrypted with digest := msg.digest }
      (h.setCipher cipherPair, .ok (some response))

/-! ## What a call does when nothing fails -/

/-- An established hop with a next hop passes a cell on with one layer less. -/
theorem handleRelay_eq (texts : HopTexts) (h : HopHandler) {io : RelayIo} {msg : Message}
    {pair : CipherPair} {hop : NextHop} (hcipher : h.context.cipherPair = some pair)
    (hhop : h.nextHop = some hop) (hfits : msg.data.length ≤ maxPayloadSize)
    (hwrite : ∀ m, io.write hop.write m = .ok ()) :
    handleRelay texts h io msg =
      ⟨h.setCipher (pair.applyForward msg.data).1,
        [.send hop.write { msg with data := (pair.applyForward msg.data).2 }], .ok none⟩ := by
  have hwritten : ∀ m : Message, m.data.length ≤ maxPayloadSize →
      m.writeToStream (io.write hop.write m) = .ok () := by
    intro m hm
    rw [hwrite]
    exact Message.writeToStream_ok hm
  simp only [handleRelay, hcipher, setCipher_nextHop, hhop]
  rw [hwritten _ (by simpa [Message.new] using hfits)]
  rfl

/-- An established hop adds its layer to every backward cell. -/
theorem handleBackwardRelay_eq (texts : HopTexts) (h : HopHandler) (msg : Message)
    {pair : CipherPair} (hcipher : h.context.cipherPair = some pair) :
    handleBackwardRelay texts h msg =
      (h.setCipher (pair.applyBackward msg.data).1,
        .ok (some { msg with data := (pair.applyBackward msg.data).2 })) := by
  simp only [handleBackwardRelay, hcipher]
  rfl

/-- An EXTEND whose next hop answers with CREATED, up to that answer. -/
theorem openExtend_eq [AddrText] (texts : HopTexts) (h : HopHandler) {io : RelayIo}
    {msg : Message} {pair : CipherPair} {payload : ExtendPayload} {addr : SocketAddr}
    {conn : ConnId} {createdMsg : Message} (hcipher : h.context.cipherPair = some pair)
    (hpayload : (pair.applyForward msg.data).2 = payload.encode)
    (hzero : 0 ∉ asBytes payload.addrStr) (haddr : AddrText.parse payload.addrStr = some addr)
    (hconnect : io.connect addr payload.fingerprint = .ok conn)
    (hwrite : ∀ m, io.write conn m = .ok ())
    (hcreated : io.readCreated conn (Message.create h.context.circuitId payload.clientPublic.1) =
      .cell createdMsg) (hcommand : createdMsg.command = .created) :
    openExtend texts h io msg =
      ⟨h.setCipher (pair.applyForward msg.data).1,
        [.dial addr payload.fingerprint conn,
          .send conn (Message.create h.context.circuitId payload.clientPublic.1)],
        .ok (conn, createdMsg)⟩ := by
  have hwritten : (Message.create h.context.circuitId payload.clientPublic.1).writeToStream
      (io.write conn (Message.create h.context.circuitId payload.clientPublic.1)) = .ok () := by
    rw [hwrite]
    apply Message.writeToStream_ok
    have hlen : (Message.create h.context.circuitId payload.clientPublic.1).data.length = 32 :=
      payload.clientPublic.2
    rw [hlen]
    decide
  rw [openExtend, hcipher]
  simp only [hpayload, parseExtend_encode texts payload hzero, haddr, hconnect,
    setCipher_circuitId, hwritten, hcreated]
  simp [hcommand]

/-- The end of an EXTEND: the next hop is kept, and its answer goes back under one
layer. -/
theorem finishExtend_eq {h : HopHandler} {conn : ConnId} {createdMsg : Message}
    {pair : CipherPair} (hcipher : h.context.cipherPair = some pair) :
    finishExtend h conn createdMsg =
      ({ h.setCipher (pair.applyBackward createdMsg.data).1 with
          nextHop := some (NextHop.new conn) },
        .ok (some (Message.extended h.context.circuitId
          (pair.applyBackward createdMsg.data).2))) := by
  simp only [finishExtend, hcipher]
  rfl

/-- A CREATE with a whole key is answered with the relay's part of the
handshake, and the circuit holds its key. -/
theorem handleCreate_eq (h : HopHandler) (io : RelayIo) (circuitId : CircuitId)
    (clientPublic : FixedBytes 32) :
    handleCreate h io (Message.create circuitId clientPublic.1) =
      let reply := h.keypair.ntorServerHandshake io.ySecret clientPublic
      ⟨{ h with context := h.context.activate reply.2.2 }, [],
        .ok (some (Message.created h.context.circuitId (reply.1.1 ++ reply.2.1.1)))⟩ := by
  have hslice : sliceArray? clientPublic.1 0 32 = some clientPublic := by
    simpa using sliceArray?_append [] clientPublic []
  simp only [handleCreate, Message.create, Message.circuit, Message.new, hslice]
  rfl

end

end HopHandler

end NoPanic
