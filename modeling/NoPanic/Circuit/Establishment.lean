/-
# Building along an honest path

While a circuit is built, the client's ciphers and those of the relays that are
built so far stand at the same places, hop by hop. An EXTEND is peeled by every
relay that has a next hop already, reaches the last one in the clear, and is acted
on there; its answer comes back under the layers of all of them. So building
succeeds along every path of honest relays, and leaves the client and the relays
with equal keys and ciphers.
-/

import NoPanic.Circuit.Telescope
import NoPanic.Common.Reference

namespace NoPanic

open NoPanic.Math

/-- A relay without its circuits: what stays the same while circuits come and go. -/
def PathRelay.identity (relay : PathRelay) : PathRelay := { relay with circuits := ∅ }

/-- What a relay holds of a circuit. -/
def PathRelay.Holds (relay : PathRelay) (circuitId : CircuitId) (key : SessionKey)
    (pair : CipherPair) (next : Option NextHop) : Prop :=
  ∃ handler, relay.circuits.lookup circuitId = some handler ∧
    handler.Holds relay.nodeType circuitId key pair next

/-- The relays of a circuit as far as it is built: all but the last have a next hop. -/
inductive Built (circuitId : CircuitId) : List PathRelay → List SessionKey → List CipherPair → Prop
  | last {relay : PathRelay} {key : SessionKey} {pair : CipherPair}
      (h : relay.Holds circuitId key pair none) : Built circuitId [relay] [key] [pair]
  | cons {relay : PathRelay} {key : SessionKey} {pair : CipherPair} {hop : NextHop}
      {relays : List PathRelay} {keys : List SessionKey} {pairs : List CipherPair}
      (h : relay.Holds circuitId key pair (some hop)) (rest : Built circuitId relays keys pairs) :
      Built circuitId (relay :: relays) (key :: keys) (pair :: pairs)

/-- The relays of a circuit hold its session keys. -/
theorem Built.sessionKeys {circuitId : CircuitId} {relays : List PathRelay}
    {keys : List SessionKey} {pairs : List CipherPair} (h : Built circuitId relays keys pairs) :
    relays.map (fun relay => relay.sessionKey circuitId) = keys.map some := by
  induction h with
  | last h =>
      obtain ⟨handler, hlookup, hholds⟩ := h
      simp [PathRelay.sessionKey, hlookup, hholds.key]
  | cons h _ ih =>
      obtain ⟨handler, hlookup, hholds⟩ := h
      simp only [List.map_cons, ih]
      simp [PathRelay.sessionKey, hlookup, hholds.key]

/-- The relays of a circuit hold its ciphers. -/
theorem Built.cipherPairs {circuitId : CircuitId} {relays : List PathRelay}
    {keys : List SessionKey} {pairs : List CipherPair} (h : Built circuitId relays keys pairs) :
    relays.map (fun relay => relay.cipherPair circuitId) = pairs.map some := by
  induction h with
  | last h =>
      obtain ⟨handler, hlookup, hholds⟩ := h
      simp [PathRelay.cipherPair, hlookup, hholds.pair]
  | cons h _ ih =>
      obtain ⟨handler, hlookup, hholds⟩ := h
      simp only [List.map_cons, ih]
      simp [PathRelay.cipherPair, hlookup, hholds.pair]

/-- A circuit put into the registry is found there. -/
theorem PathRelay.holds_addCircuit (relay : PathRelay) {circuitId : CircuitId}
    {handler : CircuitHandler} {key : SessionKey} {pair : CipherPair} {next : Option NextHop}
    (h : handler.Holds relay.nodeType circuitId key pair next) :
    (relay.addCircuit circuitId handler).Holds circuitId key pair next :=
  ⟨handler, AList.lookup_insert _, h⟩

/-- The kinds of relays are part of what stays the same. -/
theorem PathRelay.kind_of_identity {relays relays' : List PathRelay}
    (hsame : relays'.map PathRelay.identity = relays.map PathRelay.identity)
    (hkind : ∀ relay ∈ relays.dropLast, relay.nodeType ≠ .exit) :
    ∀ relay ∈ relays'.dropLast, relay.nodeType ≠ .exit := by
  intro relay hrelay
  have hmem : relay.identity ∈ relays.dropLast.map PathRelay.identity := by
    rw [List.map_dropLast, ← hsame, ← List.map_dropLast]
    exact List.mem_map_of_mem hrelay
  obtain ⟨other, hother, hidentity⟩ := List.mem_map.mp hmem
  rw [show relay.nodeType = other.nodeType from
    (congrArg PathRelay.nodeType hidentity).symm]
  exact hkind other hother

/-- Lists of cipher pairs with equal ciphers in both directions are equal. -/
theorem CipherPair.ext_lists {pairs pairs' : List CipherPair}
    (hforward : pairs.map CipherPair.forward = pairs'.map CipherPair.forward)
    (hbackward : pairs.map CipherPair.backward = pairs'.map CipherPair.backward) :
    pairs = pairs' := by
  induction pairs generalizing pairs' with
  | nil =>
      rw [List.map_nil, eq_comm, List.map_eq_nil_iff] at hforward
      exact hforward.symm
  | cons pair pairs ih =>
      cases pairs' with
      | nil => simp at hforward
      | cons pair' pairs' =>
          simp only [List.map_cons, List.cons.injEq] at hforward hbackward
          obtain ⟨f, b⟩ := pair
          obtain ⟨f', b'⟩ := pair'
          obtain ⟨⟨rfl, htail⟩, rfl, htail'⟩ := And.intro hforward hbackward
          rw [ih htail htail']

/-- The payload of an EXTEND fits a cell. -/
theorem ExtendPayload.length_encode_le {payload : ExtendPayload}
    (haddr : (asBytes payload.addrStr).length ≤ 64)
    (hfingerprint : payload.fingerprint.length ≤ 64) :
    payload.encode.length ≤ maxPayloadSize := by
  have hbytes := length_asBytes_le payload.fingerprint
  have hkey : payload.clientPublic.1.length = 32 := payload.clientPublic.2
  have hmax : maxPayloadSize = 497 := rfl
  simp only [ExtendPayload.encode, List.length_append, List.length_cons, hkey]
  omega

section

variable [Primitives]

/-- A cipher pair after data has passed in both directions. -/
def CipherPair.advance (pair : CipherPair) (sent received : Bytes) : CipherPair :=
  ⟨(pair.forward.applyKeystream sent).1, (pair.backward.applyKeystream received).1⟩

/-- How far a pair advances depends on the lengths of the data only. -/
theorem CipherPair.advance_congr (pair : CipherPair) (sent : Bytes) {received received' : Bytes}
    (hlen : received.length = received'.length) :
    pair.advance sent received = pair.advance sent received' := by
  rw [CipherPair.advance, CipherPair.advance, pair.backward.applyKeystream_fst_congr hlen]

/-- The client's ciphers after a request has been masked and its answer unmasked. -/
theorem applyAll_fst (pairs : List CipherPair) (sent received : Bytes) :
    (applyBackwardAll (applyForwardAll pairs sent).1 received).1 =
      pairs.map fun pair => pair.advance sent received := by
  apply CipherPair.ext_lists
  · simp [applyBackwardAll_forward, applyForwardAll_forward, advanceAll, CipherPair.advance,
      Function.comp_def]
  · simp [applyBackwardAll_backward, applyForwardAll_backward, advanceAll, CipherPair.advance,
      Function.comp_def]

/-- The client unmasks an answer that all relays have masked. -/
theorem applyAll_maskAll (pairs : List CipherPair) (sent data : Bytes) :
    applyBackwardAll (applyForwardAll pairs sent).1
        (maskAll (pairs.map CipherPair.backward) data) =
      (pairs.map fun pair => pair.advance sent data, data) := by
  refine Prod.ext ?_ ?_
  · rw [applyAll_fst]
    exact List.map_congr_left fun pair _ => pair.advance_congr sent (length_maskAll _ _)
  · simp only [applyBackwardAll_snd, applyForwardAll_backward, maskAll_maskAll]

variable [AddrText]

/-- A relay answers a CREATE, whatever circuits it has. -/
theorem PathRelay.handleCreate_eq (relay : PathRelay) (io : RelayIo) (circuitId : CircuitId)
    (clientPublic : FixedBytes 32) :
    let reply := relay.keypair.ntorServerHandshake io.ySecret clientPublic
    ∃ relay' : PathRelay, relay.handleCreate io (Message.create circuitId clientPublic.1) =
        (relay', some (Message.created circuitId (reply.1.1 ++ reply.2.1.1))) ∧
      relay'.Holds circuitId reply.2.2 (CipherPair.new reply.2.2) none ∧
      relay'.identity = relay.identity := by
  intro reply
  obtain ⟨hresult, hholds⟩ := CircuitHandler.holds_create relay.nodeType circuitId relay.keypair
    io (some pathPrevHop) clientPublic
  have hid : (Message.create circuitId clientPublic.1).circuitId = circuitId := rfl
  refine ⟨_, ?_, relay.holds_addCircuit hholds, rfl⟩
  simp only [PathRelay.handleCreate, hid, hresult]
  rfl

/-- The first relay of a path answers a CREATE. -/
theorem deliver_create (relay : PathRelay) (behind : List PathRelay) (circuitId : CircuitId)
    (clientPublic : FixedBytes 32) :
    let reply := relay.keypair.ntorServerHandshake relay.ySecret clientPublic
    ∃ relay' : PathRelay, deliver (relay :: behind) (Message.create circuitId clientPublic.1) =
        ⟨relay' :: behind, [.created],
          some (Message.created circuitId (reply.1.1 ++ reply.2.1.1))⟩ ∧
      relay'.Holds circuitId reply.2.2 (CipherPair.new reply.2.2) none ∧
      relay'.identity = relay.identity := by
  intro reply
  obtain ⟨relay', hcreate, hholds, hidentity⟩ := relay.handleCreate_eq
    (relay.io behind.head? fun m => (deliver behind m).reply) circuitId clientPublic
  refine ⟨relay', ?_, hholds, hidentity⟩
  have hcommand : (Message.create circuitId clientPublic.1).command = .create := rfl
  simp only [deliver, hcommand, if_true, hcreate]
  rfl

/-- A relay passes back what comes from its next hop. -/
theorem PathRelay.Holds.passBack_eq {relay : PathRelay} {key : SessionKey} {pair : CipherPair}
    {next : Option NextHop} {back : Message} (h : relay.Holds back.circuitId key pair next)
    (hkind : relay.nodeType ≠ .exit) (hcommand : back.command ≠ .destroy) :
    ∃ relay' : PathRelay, relay.passBack back.circuitId back =
        (relay', some { back with data := (pair.backward.applyKeystream back.data).2 }) ∧
      relay'.Holds back.circuitId key (pair.applyBackward back.data).1 next ∧
      relay'.identity = relay.identity := by
  obtain ⟨handler, hlookup, hholds⟩ := h
  obtain ⟨hreply, hafter⟩ := hholds.handleBackwardRelay back hkind
  generalize hout : handler.handleBackwardRelay back = out at hreply hafter
  obtain ⟨handler', result⟩ := out
  simp only at hreply hafter
  subst hreply
  refine ⟨_, ?_, relay.holds_addCircuit hafter, rfl⟩
  simp only [PathRelay.passBack, hcommand, and_false, if_false, hlookup, hout]
  rfl

/-- An EXTEND as the first of the relays that are built receives it. -/
structure ExtendRequest (circuitId : CircuitId) (pairs : List CipherPair)
    (payload : ExtendPayload) (next : PathRelay) (msg : Message) : Prop where
  circuit : msg.circuitId = circuitId
  command : msg.command = .extend
  masked : msg.data = maskAll (pairs.map CipherPair.forward) payload.encode
  fits : payload.encode.length ≤ maxPayloadSize
  address : AddrText.parse payload.addrStr = some next.address
  noZero : 0 ∉ asBytes payload.addrStr
  fingerprint : payload.fingerprint = next.fingerprint

/-- The last relay that is built acts on an EXTEND: the relay behind it answers. -/
theorem deliver_extend_last {relay next : PathRelay} (rest : List PathRelay)
    {circuitId : CircuitId} {key : SessionKey} {pair : CipherPair} {payload : ExtendPayload}
    {msg : Message} (h : relay.Holds circuitId key pair none) (hkind : relay.nodeType ≠ .exit)
    (hmsg : ExtendRequest circuitId [pair] payload next msg) :
    let reply := next.keypair.ntorServerHandshake next.ySecret payload.clientPublic
    let data := reply.1.1 ++ reply.2.1.1
    ∃ (relay' next' : PathRelay) (hop : NextHop),
      deliver (relay :: next :: rest) msg =
        ⟨relay' :: next' :: rest, [.extended, .created],
          some (Message.extended circuitId (pair.backward.applyKeystream data).2)⟩ ∧
      relay'.Holds circuitId key (pair.advance payload.encode data) (some hop) ∧
      next'.Holds circuitId reply.2.2 (CipherPair.new reply.2.2) none ∧
      relay'.identity = relay.identity ∧ next'.identity = next.identity := by
  intro reply data
  obtain rfl := hmsg.circuit
  obtain ⟨handler, hlookup, hholds⟩ := h
  obtain ⟨next', hcreate, hnext, hidentity⟩ := deliver_create next rest msg.circuitId
    payload.clientPublic
  have hpeeled : (pair.applyForward msg.data).2 = payload.encode := by
    simp [hmsg.masked, maskAll]
  have hsent : (pair.applyForward msg.data).1.forward =
      (pair.forward.applyKeystream payload.encode).1 := by
    simp only [CipherPair.applyForward_forward]
    exact pair.forward.applyKeystream_fst_congr (by rw [hmsg.masked, length_maskAll])
  have hlen : data.length = 64 := by
    rw [List.length_append, reply.1.2, reply.2.1.2]
  obtain ⟨heffects, hresult, hafter⟩ := hholds.handleMessage_extend
    (relay.io (some next) fun m => (deliver (next :: rest) m).reply) (some pathPrevHop)
    pathNextHop (Message.created msg.circuitId data) hkind hmsg.command hpeeled hmsg.noZero
    hmsg.address (by simp [PathRelay.io, hmsg.fingerprint]) (fun _ _ => rfl)
    (by simp only [PathRelay.io, hcreate]; rfl) rfl (by simp [Message.created, Message.circuit,
      Message.new, hlen])
  have hadvanced : ((pair.applyForward msg.data).1.applyBackward
      (Message.created msg.circuitId data).data).1 = pair.advance payload.encode data := by
    rw [CipherPair.advance, ← hsent]
    rfl
  rw [hadvanced] at hafter
  have hcommand : msg.command ≠ .create := by simp [hmsg.command]
  refine ⟨relay.addCircuit msg.circuitId _, next', _, ?_,
    relay.holds_addCircuit hafter.takeReader, hnext, rfl, hidentity⟩
  rw [deliver]
  simp only [List.head?_cons, if_neg hcommand, hlookup, heffects, hresult]
  simp only [hmsg.command, true_or, if_true, List.filterMap_cons, RelayEffect.sent?, hcreate]
  rfl

/-- An EXTEND runs down the relays that are built: each passes it on with one layer
less, the last one acts on it, and the answer comes back under all their layers. -/
theorem deliver_extend {relays : List PathRelay} {next : PathRelay} (rest : List PathRelay)
    {circuitId : CircuitId} {keys : List SessionKey} {pairs : List CipherPair}
    {payload : ExtendPayload} {msg : Message} (h : Built circuitId relays keys pairs)
    (hkind : ∀ relay ∈ relays, relay.nodeType ≠ .exit)
    (hmsg : ExtendRequest circuitId pairs payload next msg) :
    let reply := next.keypair.ntorServerHandshake next.ySecret payload.clientPublic
    let data := reply.1.1 ++ reply.2.1.1
    ∃ (relays' : List PathRelay) (next' : PathRelay) (back : Message),
      deliver (relays ++ next :: rest) msg =
        ⟨relays' ++ next' :: rest,
          List.replicate (relays.length - 1) .relayed ++ [.extended, .created], some back⟩ ∧
      (back.circuitId = circuitId ∧ back.command = .extended ∧
        back.data = maskAll (pairs.map CipherPair.backward) data) ∧
      Built circuitId (relays' ++ [next']) (keys ++ [reply.2.2])
        ((pairs.map fun pair => pair.advance payload.encode data) ++ [CipherPair.new reply.2.2]) ∧
      (relays' ++ [next']).map PathRelay.identity = (relays ++ [next]).map PathRelay.identity := by
  intro reply data
  obtain rfl := hmsg.circuit
  obtain ⟨circuitId, hcircuit⟩ : ∃ circuitId, circuitId = msg.circuitId := ⟨_, rfl⟩
  rw [← hcircuit] at h hmsg ⊢
  induction h generalizing msg with
  | @last relay key pair h =>
      obtain ⟨relay', next', hop, hdeliver, hholds, hnext, hidentity, hidentity'⟩ :=
        deliver_extend_last rest h (hkind relay (by simp)) hmsg
      refine ⟨[relay'], next', _, hdeliver, ⟨rfl, rfl, ?_⟩, .cons hholds (.last hnext), ?_⟩
      · simp [Message.extended, Message.circuit, Message.new, maskAll]
        rfl
      · simp [hidentity, hidentity']
  | @cons relay key pair hop relays keys pairs h hbuilt ih =>
      obtain ⟨handler, hlookup, hholds⟩ := h
      have hfits : msg.data.length ≤ maxPayloadSize := by
        rw [hmsg.masked, length_maskAll]
        exact hmsg.fits
      have hpeeled : (pair.applyForward msg.data).2 =
          maskAll (pairs.map CipherPair.forward) payload.encode := by
        simp [hmsg.masked, maskAll]
      obtain ⟨heffects, hresult, hafter⟩ := hholds.handleMessage_relay
        (relay.io (relays ++ next :: rest).head?
          fun m => (deliver (relays ++ next :: rest) m).reply)
        (some pathPrevHop) hmsg.command hfits (fun _ _ => rfl)
      have hmsg' : ExtendRequest circuitId pairs payload next
          { msg with data := (pair.applyForward msg.data).2 } := { hmsg with masked := hpeeled }
      obtain ⟨relays', next', back, hdeliver, ⟨hid, hcommand, hback⟩, hbuilt', hidentity⟩ :=
        ih (fun other hother => hkind other (by simp [hother])) hmsg' hcircuit
      subst hcircuit
      have hsent : (pair.applyForward msg.data).1.forward =
          (pair.forward.applyKeystream payload.encode).1 := by
        simp only [CipherPair.applyForward_forward]
        exact pair.forward.applyKeystream_fst_congr (by rw [hmsg.masked, length_maskAll])
      have hreceived : ((pair.applyForward msg.data).1.applyBackward back.data).1 =
          pair.advance payload.encode data := by
        rw [CipherPair.advance, ← hsent, ← pair.backward.applyKeystream_fst_congr
          (by rw [hback, length_maskAll] : back.data.length = data.length)]
        rfl
      have hcreate : msg.command ≠ .create := by simp [hmsg.command]
      have hdestroy : back.command ≠ .destroy := by simp [hcommand]
      have hheld := relay.holds_addCircuit hafter.takeReader
      rw [← hid] at hheld
      obtain ⟨relay', hpass, hwrapped, hsame⟩ := hheld.passBack_eq (hkind relay (by simp)) hdestroy
      rw [hreceived, hid] at hwrapped
      refine ⟨relay' :: relays', next',
        { back with data := (pair.backward.applyKeystream back.data).2 }, ?_,
        ⟨hid, hcommand, ?_⟩, .cons hwrapped hbuilt', ?_⟩
      · have hlen : (relay :: relays).length - 1 = relays.length - 1 + 1 := by
          have hpos : 0 < relays.length := by cases hbuilt <;> simp
          simp only [List.length_cons]
          omega
        rw [List.cons_append, deliver]
        simp only [if_neg hcreate, hlookup, heffects, hresult]
        simp only [hmsg.command, true_or, if_true, List.filterMap_cons, RelayEffect.sent?,
          List.filterMap_nil]
        rw [← hmsg.command, hdeliver]
        simp only [← hid, hpass]
        rw [hlen, List.replicate_succ]
        rfl
      · simp only [hback, List.map_cons, maskAll, applyKeystream_maskAll]
      · rw [List.cons_append, List.cons_append, List.map_cons, List.map_cons, hidentity, hsame]
        rfl

/-! ## The builder -/

/-- What the standard library promises of the text of an address: it reads back, has
no zero byte and is short. -/
structure AddrText.Faithful (addr : SocketAddr) : Prop where
  parse : AddrText.parse (AddrText.display addr) = some addr
  noZero : 0 ∉ asBytes (AddrText.display addr)
  short : (asBytes (AddrText.display addr)).length ≤ 64

/-- A hop of a path: the relay, its descriptor, and the secret the client draws for
its handshake. -/
structure PathHop where
  relay : PathRelay
  node : NodeDescriptor
  secret : FixedBytes 32

/-- The descriptor tells the truth, its fingerprint is short, and the secrets of the
handshake commute. -/
structure PathHop.Honest (hop : PathHop) : Prop where
  address : hop.node.address = hop.relay.address
  fingerprint : hop.node.tlsCertFingerprint = hop.relay.fingerprint
  publicKey : hop.node.publicKey = hop.relay.keypair.pub
  keypair : hop.relay.keypair = KeyPair.fromSecretBytes hop.relay.keypair.secretBytes
  short : hop.node.tlsCertFingerprint.length ≤ 64
  text : AddrText.Faithful hop.node.address
  agreeEphemeral : Agree hop.relay.ySecret hop.secret
  agreeStatic : Agree hop.relay.keypair.secretBytes hop.secret

/-- A path of honest relays: one entry, then middles, and one exit. -/
structure HonestPath (hops : List PathHop) : Prop where
  long : 3 ≤ hops.length
  honest : ∀ hop ∈ hops, hop.Honest
  roles : hops.map (fun hop => hop.relay.nodeType) =
    .entry :: (List.replicate (hops.length - 2) .middle ++ [.exit])

/-- Only the last relay of a path is an exit. -/
theorem HonestPath.not_exit {hops : List PathHop} (h : HonestPath hops) :
    ∀ relay ∈ (hops.map PathHop.relay).dropLast, relay.nodeType ≠ .exit := by
  intro relay hrelay
  have hmem : relay.nodeType ∈ (hops.map fun hop => hop.relay.nodeType).dropLast := by
    rw [show (hops.map fun hop => hop.relay.nodeType) =
      (hops.map PathHop.relay).map PathRelay.nodeType by simp, ← List.map_dropLast]
    exact List.mem_map_of_mem hrelay
  rw [h.roles] at hmem
  simp only [← List.cons_append, List.dropLast_concat, List.mem_cons, List.mem_replicate] at hmem
  rcases hmem with hentry | ⟨-, hmiddle⟩
  · simp [hentry]
  · simp [hmiddle]

/-- The world of a builder at the start of a path. -/
def PathWorld.start (hops : List PathHop) : PathWorld :=
  ⟨hops.map PathHop.relay, hops.map PathHop.secret, [], []⟩

/-- What the relays do with the EXTEND to the relay at a position: all but the last
of those in front pass it on. -/
def extendActs (position : Nat) : List HopAct :=
  List.replicate (position - 1) .relayed ++ [.extended, .created]

/-- What the relays do with the messages of a build along a path of some length: the
entry relay acts on the CREATE, and every EXTEND reaches the last relay so far. -/
def buildActs (length : Nat) : List (List HopAct) :=
  [.created] :: (List.range (length - 1)).map fun position => extendActs (position + 1)

namespace CircuitBuilder

/-- An honest relay's reply finishes the handshake. -/
theorem finish_honest {hop : PathHop} (hhop : hop.Honest) (texts : HandshakeTexts) :
    let reply := hop.relay.keypair.ntorServerHandshake hop.relay.ySecret
      (Primitives.x25519Public hop.secret)
    finish texts hop.secret (Primitives.x25519Public hop.secret) hop.node
        (reply.1.1 ++ reply.2.1.1) = .ok reply.2.2 := by
  have hpublic : hop.node.publicKey.bytes =
      Primitives.x25519Public hop.relay.keypair.secretBytes := by
    rw [hhop.publicKey, hhop.keypair]
    rfl
  have hfinish := finish_eq texts hpublic hhop.agreeEphemeral hhop.agreeStatic
  rwa [← hhop.keypair] at hfinish

/-- A request that is answered with the expected command gives the answer. -/
theorem exchange_pathTransport (texts : HandshakeTexts) {relays relays' : List PathRelay}
    {acts : List HopAct} {request answer : Message} (secrets : List (FixedBytes 32))
    (log : List (List HopAct)) (hfits : request.data.length ≤ maxPayloadSize)
    (hdeliver : deliver relays request = ⟨relays', acts, some answer⟩)
    (hexpected : answer.command = texts.expected) :
    exchange pathTransport texts ⟨relays, secrets, [], log⟩ request =
      (⟨relays', secrets, [], log ++ [acts]⟩, .ok answer) := by
  simp [exchange, pathTransport, Message.writeToStream_ok hfits, hdeliver, hexpected]

/-- The handshake with an honest entry relay succeeds. -/
theorem handshakeCreate_honest {hop : PathHop} (hhop : hop.Honest) (circuitId : CircuitId)
    (behind : List PathRelay) (secrets : List (FixedBytes 32)) :
    ∃ (relay : PathRelay) (key : SessionKey),
      handshakeCreate pathTransport ⟨hop.relay :: behind, hop.secret :: secrets, [], []⟩ circuitId
          hop.node =
        (⟨relay :: behind, secrets, [], [[.created]]⟩, .ok key) ∧
      relay.Holds circuitId key (CipherPair.new key) none ∧
      relay.identity = hop.relay.identity := by
  obtain ⟨relay, hdeliver, hholds, hidentity⟩ := deliver_create hop.relay behind circuitId
    (Primitives.x25519Public hop.secret)
  have hfits : (Message.create circuitId (Primitives.x25519Public hop.secret).1).data.length ≤
      maxPayloadSize := by
    have hkey := (Primitives.x25519Public hop.secret).2
    simp only [Message.create, Message.circuit, Message.new, hkey]
    decide
  have hexchange := exchange_pathTransport createTexts secrets [] hfits hdeliver rfl
  have hfinish := finish_honest hhop createTexts
  refine ⟨relay, _, ?_, hholds, hidentity⟩
  rw [← hfinish]
  simp only [handshakeCreate, pathTransport] at hexchange ⊢
  rw [hexchange]
  rfl

/-- The handshake with the next honest relay succeeds. -/
theorem handshakeExtend_honest {hop : PathHop} (hhop : hop.Honest) {circuitId : CircuitId}
    {relays : List PathRelay} {keys : List SessionKey} {pairs : List CipherPair}
    (h : Built circuitId relays keys pairs) (hkind : ∀ relay ∈ relays, relay.nodeType ≠ .exit)
    (rest : List PathRelay) (secrets : List (FixedBytes 32)) (log : List (List HopAct)) :
    ∃ (relays' : List PathRelay) (pairs' : List CipherPair) (key : SessionKey),
      handshakeExtend pathTransport
          ⟨relays ++ hop.relay :: rest, hop.secret :: secrets, [], log⟩ circuitId hop.node pairs =
        (⟨relays' ++ rest, secrets, [], log ++ [extendActs relays.length]⟩, pairs', .ok key) ∧
      Built circuitId relays' (keys ++ [key]) (pairs' ++ [CipherPair.new key]) ∧
      relays'.map PathRelay.identity = (relays ++ [hop.relay]).map PathRelay.identity := by
  let payload : ExtendPayload := ⟨AddrText.display hop.node.address,
    Primitives.x25519Public hop.secret, hop.node.tlsCertFingerprint⟩
  have hencode : payload.encode.length ≤ maxPayloadSize :=
    ExtendPayload.length_encode_le hhop.text.short hhop.short
  have hmsg : ExtendRequest circuitId pairs payload hop.relay
      (Message.extend circuitId (applyForwardAll pairs payload.encode).2) :=
    { circuit := rfl
      command := rfl
      masked := applyForwardAll_snd pairs payload.encode
      fits := hencode
      address := by rw [← hhop.address]; exact hhop.text.parse
      noZero := hhop.text.noZero
      fingerprint := hhop.fingerprint }
  have hfits : (Message.extend circuitId (applyForwardAll pairs payload.encode).2).data.length ≤
      maxPayloadSize := by
    rw [hmsg.masked, length_maskAll]
    exact hencode
  obtain ⟨relays', next', back, hdeliver, ⟨hid, hcommand, hback⟩, hbuilt, hidentity⟩ :=
    deliver_extend rest h hkind hmsg
  have hexchange := exchange_pathTransport
    (extendTexts (AddrText.display hop.node.address)) secrets log hfits hdeliver hcommand
  have hfinish := finish_honest hhop (extendTexts (AddrText.display hop.node.address))
  refine ⟨relays' ++ [next'], _, _, ?_, hbuilt, hidentity⟩
  rw [← hfinish]
  simp only [handshakeExtend, pathTransport] at hexchange ⊢
  rw [hexchange]
  simp only [hback, applyAll_maskAll, List.append_assoc, List.singleton_append]
  rfl

/-- The EXTEND loop succeeds along the rest of an honest path. -/
theorem extendAll_honest {hops : List PathHop} (hhops : ∀ hop ∈ hops, hop.Honest)
    {circuitId : CircuitId} {relays : List PathRelay} {keys : List SessionKey}
    {pairs : List CipherPair} (h : Built circuitId relays keys pairs)
    (hkind : ∀ relay ∈ (relays ++ hops.map PathHop.relay).dropLast, relay.nodeType ≠ .exit)
    (log : List (List HopAct)) :
    ∃ (relays' : List PathRelay) (keys' : List SessionKey) (pairs' : List CipherPair),
      extendAll pathTransport circuitId
          ⟨relays ++ hops.map PathHop.relay, hops.map PathHop.secret, [], log⟩ keys pairs
          (hops.map PathHop.node) =
        (⟨relays', [], [],
          log ++ (List.range hops.length).map fun k => extendActs (relays.length + k)⟩,
          .ok (keys', pairs')) ∧
      Built circuitId relays' keys' pairs' ∧
      relays'.map PathRelay.identity =
        (relays ++ hops.map PathHop.relay).map PathRelay.identity := by
  induction hops generalizing relays keys pairs log with
  | nil =>
      refine ⟨relays, keys, pairs, ?_, h, by simp⟩
      simp [extendAll]
  | cons hop hops ih =>
      have hbuilt : ∀ relay ∈ relays, relay.nodeType ≠ .exit := fun relay hrelay =>
        hkind relay (by simp [hrelay])
      obtain ⟨relays', pairs', key, hextend, h', hidentity⟩ := handshakeExtend_honest
        (hhops hop (by simp)) h hbuilt (hops.map PathHop.relay) (hops.map PathHop.secret) log
      have hlen : relays'.length = relays.length + 1 := by
        have := congrArg List.length hidentity
        simpa using this
      have hsame : (relays' ++ hops.map PathHop.relay).map PathRelay.identity =
          (relays ++ (hop :: hops).map PathHop.relay).map PathRelay.identity := by
        rw [List.map_append, hidentity]
        simp
      obtain ⟨relays'', keys'', pairs'', hextendAll, h'', hidentity'⟩ := ih
        (fun other hother => hhops other (by simp [hother])) h'
        (PathRelay.kind_of_identity hsame hkind) (log ++ [extendActs relays.length])
      refine ⟨relays'', keys'', pairs'', ?_, h'', hidentity'.trans hsame⟩
      simp only [List.map_cons, extendAll, hextend, hextendAll]
      simp [List.range_succ_eq_map, hlen, Function.comp_def, Nat.add_comm, Nat.add_left_comm]

/-- Building along an honest path succeeds, and leaves the client and the relays with
the same session keys and with ciphers at the same places. Every EXTEND is passed on
by all relays built so far but the last one, which acts on it. -/
theorem build_honest {hops : List PathHop} (hpath : HonestPath hops) (circuitId : CircuitId) :
    ∃ (world : PathWorld) (circuit : Circuit),
      build pathTransport (PathWorld.start hops) circuitId (hops.map PathHop.node) =
        (world, .ok circuit) ∧
      circuit.circuitId = circuitId ∧
      world.relays.map PathRelay.identity =
        hops.map (fun hop => hop.relay.identity) ∧
      world.relays.map (fun relay => relay.sessionKey circuitId) =
        circuit.onionKeys.sessionKeys.map some ∧
      world.relays.map (fun relay => relay.cipherPair circuitId) =
        circuit.onionKeys.ciphers.map some ∧
      world.log = buildActs hops.length := by
  cases hops with
  | nil => exact absurd hpath.long (by simp)
  | cons entry hops =>
      have hentry := hpath.honest entry (by simp)
      obtain ⟨relay, key, hcreate, hholds, hidentity⟩ := handshakeCreate_honest hentry circuitId
        (hops.map PathHop.relay) (hops.map PathHop.secret)
      have hsame : ([relay] ++ hops.map PathHop.relay).map PathRelay.identity =
          ((entry :: hops).map PathHop.relay).map PathRelay.identity := by
        simp [hidentity]
      obtain ⟨relays, keys, pairs, hextend, hbuilt, hidentities⟩ := extendAll_honest
        (fun hop hmem => hpath.honest hop (by simp [hmem])) (.last hholds)
        (PathRelay.kind_of_identity hsame hpath.not_exit) [[.created]]
      refine ⟨⟨relays, [], [], buildActs (entry :: hops).length⟩,
        ⟨circuitId, .ready, OnionKeys.new keys pairs, ∅, 1⟩, ?_, rfl,
        hidentities.trans (hsame.trans List.map_map), hbuilt.sessionKeys, hbuilt.cipherPairs, rfl⟩
      · have hconnect : pathTransport.connect (PathWorld.start (entry :: hops))
            entry.node.address entry.node.tlsCertFingerprint =
              (PathWorld.start (entry :: hops), .ok ()) := by
          simp [pathTransport, PathWorld.start, hentry.address, hentry.fingerprint]
        have hlong : ¬ ((entry :: hops).map PathHop.node).length < 3 := by
          rw [List.length_map]
          exact Nat.not_lt.mpr hpath.long
        rw [build.eq_def, if_neg hlong]
        simp only [List.map_cons, hconnect]
        simp only [PathWorld.start, List.map_cons, hcreate]
        rw [← List.singleton_append, hextend]
        simp [buildActs, Nat.add_comm]

end CircuitBuilder

end

/-! ## A path of three relays -/

open Reference

/-- The address of the sample relay at a place. -/
def sampleAddress (place : UInt8) : SocketAddr := .v4 ⟨[10, 0, 0, place], rfl⟩ 9001

/-- The sample relay at a place. It has a key, and takes a secret for its handshake, of its own, and
so does the client. -/
def samplePathHop (nodeType : NodeType) (place : UInt8) : PathHop where
  relay :=
    { nodeType := nodeType
      address := sampleAddress place
      fingerprint := "ab12"
      keypair := KeyPair.fromSecretBytes (FixedBytes.ofNat 32 (10 + place.toNat))
      ySecret := FixedBytes.ofNat 32 (20 + place.toNat)
      circuits := ∅ }
  node :=
    { nodeId := "relay"
      nodeType := nodeType
      address := sampleAddress place
      publicKey := (KeyPair.fromSecretBytes (FixedBytes.ofNat 32 (10 + place.toNat))).pub
      bandwidth := 0
      exitPolicy := none
      operatorId := none
      tlsCertFingerprint := "ab12" }
  secret := FixedBytes.ofNat 32 (30 + place.toNat)

/-- The sample relays are honest. -/
theorem samplePathHop_honest (nodeType : NodeType) {place : UInt8}
    (htext : AddrText.Faithful (sampleAddress place))
    (hephemeral : Agree (samplePathHop nodeType place).relay.ySecret
      (samplePathHop nodeType place).secret)
    (hstatic : Agree (FixedBytes.ofNat 32 (10 + place.toNat))
      (samplePathHop nodeType place).secret) : (samplePathHop nodeType place).Honest where
  address := rfl
  fingerprint := rfl
  publicKey := rfl
  keypair := rfl
  short := show "ab12".length ≤ 64 by decide
  text := htext
  agreeEphemeral := hephemeral
  agreeStatic := hstatic

/-- The sample path: an entry, a middle and an exit relay. -/
def samplePath : List PathHop :=
  [samplePathHop .entry 1, samplePathHop .middle 2, samplePathHop .exit 3]

/-- The text of the first sample address. -/
theorem sampleAddress_one : AddrText.Faithful (sampleAddress 1) :=
  ⟨by decide +kernel, by decide +kernel, by decide +kernel⟩

/-- The text of the second sample address. -/
theorem sampleAddress_two : AddrText.Faithful (sampleAddress 2) :=
  ⟨by decide +kernel, by decide +kernel, by decide +kernel⟩

/-- The text of the third sample address. -/
theorem sampleAddress_three : AddrText.Faithful (sampleAddress 3) :=
  ⟨by decide +kernel, by decide +kernel, by decide +kernel⟩

/-- The sample path is honest. -/
theorem samplePath_honest : HonestPath samplePath where
  long := Nat.le_refl 3
  honest := by
    intro hop hhop
    simp only [samplePath, List.mem_cons, List.not_mem_nil, or_false] at hhop
    rcases hhop with rfl | rfl | rfl
    · exact samplePathHop_honest .entry sampleAddress_one (by decide +kernel) (by decide +kernel)
    · exact samplePathHop_honest .middle sampleAddress_two (by decide +kernel) (by decide +kernel)
    · exact samplePathHop_honest .exit sampleAddress_three (by decide +kernel) (by decide +kernel)
  roles := rfl

/-- A circuit is built along the sample path, whose relays have different keys. -/
theorem build_honest_samplePath :
    (samplePath.map fun hop => hop.node.publicKey.1).Nodup ∧
    ∃ (world : PathWorld) (circuit : Circuit),
      CircuitBuilder.build pathTransport (PathWorld.start samplePath) 1
          (samplePath.map PathHop.node) = (world, .ok circuit) ∧
      world.relays.map (fun relay => relay.cipherPair 1) =
        circuit.onionKeys.ciphers.map some ∧
      world.log =
        [[.created], [.extended, .created], [.relayed, .extended, .created]] := by
  obtain ⟨world, circuit, hbuild, -, -, -, hciphers, hlog⟩ :=
    CircuitBuilder.build_honest samplePath_honest 1
  exact ⟨by decide +kernel, world, circuit, hbuild, hciphers, hlog⟩

end NoPanic
