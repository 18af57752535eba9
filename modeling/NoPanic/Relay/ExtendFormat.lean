/-
# What an EXTEND may hold

An entry and a middle relay read the payload of EXTEND by the same rules, each with
texts of its own. The address ends at the first zero byte. The key may hold zero bytes,
so what follows it is found by counting, and the fingerprint takes the rest.

A payload is accepted exactly when it has this form and the address can be parsed. The
parser takes no range that is not there, and a relay that refuses a payload has asked the
outside nothing.
-/

import NoPanic.Common.Reference
import NoPanic.Relay.CircuitHandler

namespace NoPanic

open NoPanic.Math

/-! ## The parser -/

/-- A payload is an address without zero bytes, a zero byte, a key, a zero byte, and a
fingerprint, all text being UTF-8. -/
def ExtendPayload.Written (payload : ExtendPayload) (bytes : Bytes) : Prop :=
  0 ∉ asBytes payload.addrStr ∧ bytes = payload.encode

/-- The parts of a payload that has a first zero byte, a key after it, and a zero byte after
the key. -/
theorem split_payload {bytes : Bytes} {addrEnd : Nat} {key : FixedBytes 32}
    (hfind : bytes.findIdx? (· == 0) = some addrEnd)
    (hkey : sliceArray? bytes (addrEnd + 1) 32 = some key)
    (hsep : bytes[addrEnd + 1 + 32]? = some 0) :
    0 ∉ bytes.take addrEnd ∧
      bytes = bytes.take addrEnd ++ (0 :: (key.1 ++ (0 :: bytes.drop (addrEnd + 1 + 32 + 1)))) := by
  obtain ⟨hlt, hzero, hbefore⟩ := List.findIdx?_eq_some_iff_getElem.mp hfind
  have hfirst : bytes[addrEnd] = 0 := by simpa using hzero
  obtain ⟨hlast, hsepAt⟩ := List.getElem?_eq_some_iff.mp hsep
  have hslice : key.1 = (bytes.drop (addrEnd + 1)).take 32 := by
    rw [sliceArray?] at hkey
    split at hkey
    · rw [← Option.some.inj hkey]
    · cases hkey
  constructor
  · intro hmem
    obtain ⟨j, hj, hat⟩ := List.mem_iff_getElem.mp hmem
    rw [List.length_take] at hj
    rw [List.getElem_take] at hat
    exact hbefore j (by omega) (by simp [hat])
  · have htail : bytes.drop (addrEnd + 1 + 32) = 0 :: bytes.drop (addrEnd + 1 + 32 + 1) := by
      rw [List.drop_eq_getElem_cons hlast, hsepAt]
    have hrest : (bytes.drop (addrEnd + 1)).take 32 ++ bytes.drop (addrEnd + 1 + 32) =
        bytes.drop (addrEnd + 1) := by
      have hdrop : bytes.drop (addrEnd + 1 + 32) = (bytes.drop (addrEnd + 1)).drop 32 := by
        rw [List.drop_drop]
      rw [hdrop, List.take_append_drop]
    have hfront : (0 : UInt8) :: bytes.drop (addrEnd + 1) = bytes.drop addrEnd := by
      rw [List.drop_eq_getElem_cons hlt, hfirst]
    rw [hslice, ← htail, hrest, hfront, List.take_append_drop]

/-- What is accepted is what a client writes. -/
theorem written_of_parseExtend {texts : HopTexts} {bytes : Bytes} {payload : ExtendPayload}
    (h : parseExtend texts bytes = .ok payload) : payload.Written bytes := by
  rw [parseExtend] at h
  split at h
  · cases h
  split at h
  · cases h
  next addrEnd hfind =>
    split at h
    · cases h
    next addrStr haddr =>
      simp only at h
      split at h
      · cases h
      split at h
      · cases h
      next key hkey =>
        split at h
        · cases h
        next fpStart hsep =>
          split at h
          · cases h
          next hzero =>
            split at h
            · cases h
            next fingerprint hfp =>
              cases h
              rw [not_not.mp hzero] at hsep
              obtain ⟨hnot, hsplit⟩ := split_payload hfind hkey hsep
              rw [← asBytes_of_fromUtf8 haddr, ← asBytes_of_fromUtf8 hfp] at hsplit
              rw [← asBytes_of_fromUtf8 haddr] at hnot
              exact ⟨hnot, hsplit⟩

/-- The parser accepts exactly what a client writes. -/
theorem parseExtend_eq_ok_iff (texts : HopTexts) (bytes : Bytes) (payload : ExtendPayload) :
    parseExtend texts bytes = .ok payload ↔ payload.Written bytes := by
  constructor
  · exact written_of_parseExtend
  · intro hwritten
    rw [hwritten.2]
    exact parseExtend_encode texts payload hwritten.1

/-! ## Ranges -/

/-- The parser with plain indexing in place of checked access: none when a range is not
there. -/
def parseExtendIndexing (texts : HopTexts) (decrypted : Bytes) :
    Option (Except RelayError ExtendPayload) :=
  if decrypted.length < 33 then some (.error (.text "EXTEND payload too short"))
  else
    match decrypted.findIdx? (· == 0) with
    | none => some (.error (.text "EXTEND payload missing address separator"))
    | some addrEnd => do
        let addrBytes ← slice? decrypted 0 addrEnd
        match fromUtf8 addrBytes with
        | none => some (.error (.utf8 ""))
        | some addrStr =>
            let keyStart := addrEnd + 1
            let keyEnd := keyStart + 32
            if keyEnd > decrypted.length then some (.error (.text texts.extendShortKey))
            else
              let clientPublic ← sliceArray? decrypted keyStart 32
              match decrypted[keyEnd]? with
              | none => some (.error (.text "EXTEND payload missing fingerprint separator"))
              | some fpStart =>
                  if fpStart ≠ 0 then
                    some (.error (.text "EXTEND payload missing fingerprint separator"))
                  else
                    let fpBytes ← slice? decrypted (keyEnd + 1) decrypted.length
                    match fromUtf8 fpBytes with
                    | none => some (.error (.utf8 ""))
                    | some fingerprint => some (.ok ⟨addrStr, clientPublic, fingerprint⟩)

/-- Every range is there. -/
theorem parseExtendIndexing_eq (texts : HopTexts) (decrypted : Bytes) :
    parseExtendIndexing texts decrypted = some (parseExtend texts decrypted) := by
  rw [parseExtendIndexing, parseExtend]
  by_cases hshort : decrypted.length < 33
  · rw [if_pos hshort, if_pos hshort]
  rw [if_neg hshort, if_neg hshort]
  cases hfind : decrypted.findIdx? (· == 0) with
  | none => rfl
  | some addrEnd =>
      obtain ⟨hlt, -⟩ := List.findIdx?_eq_some_iff_getElem.mp hfind
      have haddr : slice? decrypted 0 addrEnd = some (decrypted.take addrEnd) := by
        simp [slice?, Nat.le_of_lt hlt]
      simp only [haddr, Option.bind_eq_bind, Option.bind_some]
      cases fromUtf8 (decrypted.take addrEnd) with
      | none => rfl
      | some addrStr =>
          by_cases hroom : addrEnd + 1 + 32 > decrypted.length
          · simp only [hroom, if_true]
          have hkey : sliceArray? decrypted (addrEnd + 1) 32 =
              some ⟨(decrypted.drop (addrEnd + 1)).take 32, by simp; omega⟩ := by
            rw [sliceArray?, dif_pos (by omega)]
          simp only [hroom, if_false, hkey, Option.bind_some]
          cases hsep : decrypted[addrEnd + 1 + 32]? with
          | none => rfl
          | some fpStart =>
              obtain ⟨hlast, -⟩ := List.getElem?_eq_some_iff.mp hsep
              have hfp : slice? decrypted (addrEnd + 1 + 32 + 1) decrypted.length =
                  some (decrypted.drop (addrEnd + 1 + 32 + 1)) := by
                rw [slice?, if_pos ⟨hlast, Nat.le_refl _⟩]
                congr 1
                exact List.take_of_length_le (by simp)
              by_cases hzero : fpStart ≠ 0
              · simp only [hzero, if_true, not_false_eq_true, ne_eq]
              · simp only [hzero, if_false, hfp, Option.bind_some]
                cases fromUtf8 (decrypted.drop (addrEnd + 1 + 32 + 1)) with
                | none => rfl
                | some fingerprint => rfl

/-! ## The address -/

section

variable [AddrText]

/-- What a relay reads of a payload before it connects: the address, the key and the
fingerprint. -/
def readExtend (texts : HopTexts) (decrypted : Bytes) :
    Except RelayError (SocketAddr × FixedBytes 32 × String) :=
  match parseExtend texts decrypted with
  | .error e => .error e
  | .ok payload =>
      match AddrText.parse payload.addrStr with
      | none => .error .addrParse
      | some addr => .ok (addr, payload.clientPublic, payload.fingerprint)

/-- A payload of the right form names an address, a key and a fingerprint. -/
def ExtendNames (bytes : Bytes) (addr : SocketAddr) (key : FixedBytes 32)
    (fingerprint : String) : Prop :=
  ∃ addrStr, AddrText.parse addrStr = some addr ∧
    (ExtendPayload.mk addrStr key fingerprint).Written bytes

/-- A relay reads exactly what a payload of the right form names. -/
theorem readExtend_eq_ok_iff (texts : HopTexts) (bytes : Bytes) (addr : SocketAddr)
    (key : FixedBytes 32) (fingerprint : String) :
    readExtend texts bytes = .ok (addr, key, fingerprint) ↔
      ExtendNames bytes addr key fingerprint := by
  rw [readExtend]
  constructor
  · intro hread
    cases hparse : parseExtend texts bytes with
    | error e =>
        rw [hparse] at hread
        cases hread
    | ok payload =>
        simp only [hparse] at hread
        cases haddr : AddrText.parse payload.addrStr with
        | none =>
            rw [haddr] at hread
            cases hread
        | some addr' =>
            simp only [haddr] at hread
            cases hread
            exact ⟨payload.addrStr, haddr, (parseExtend_eq_ok_iff texts bytes payload).mp hparse⟩
  · intro hnames
    obtain ⟨addrStr, haddr, hwritten⟩ := hnames
    simp only [(parseExtend_eq_ok_iff texts bytes _).mpr hwritten, haddr]

/-- The payload that a client builds names the address, the key and the fingerprint it was
built from. -/
theorem extendNames_encode {addr : SocketAddr} (key : FixedBytes 32) (fingerprint : String)
    (hparse : AddrText.parse (AddrText.display addr) = some addr)
    (hzero : 0 ∉ asBytes (AddrText.display addr)) :
    ExtendNames (ExtendPayload.mk (AddrText.display addr) key fingerprint).encode addr key
      fingerprint :=
  ⟨AddrText.display addr, hparse, hzero, rfl⟩

end

/-! ## What a relay does with it -/

/-- A relay has connected to the address it read, and has sent nothing but CREATE with the
key it read. A failed connection is the error of the call. -/
structure Handled.Extends {H R : Type} (out : Handled H R) (io : RelayIo) (circuitId : CircuitId)
    (addr : SocketAddr) (key : FixedBytes 32) (fingerprint : String) : Prop where
  refused : ∀ e, io.connect addr fingerprint = .error e →
    out.effects = [] ∧ out.result = .error (.io e)
  connected : ∀ conn, io.connect addr fingerprint = .ok conn →
    out.effects = [.dial addr fingerprint conn] ∨
      out.effects = [.dial addr fingerprint conn, .send conn (Message.create circuitId key.1)]
  sent : ∀ conn, io.connect addr fingerprint = .ok conn →
    (∀ m, io.write conn m = .ok ()) →
      .send conn (Message.create circuitId key.1) ∈ out.effects

/-- What follows the answer of the next hop adds no effect and keeps an earlier error. -/
theorem Handled.Extends.of_open {H R H' R' : Type} {out : Handled H R} {out' : Handled H' R'}
    {io : RelayIo} {circuitId : CircuitId} {addr : SocketAddr} {key : FixedBytes 32}
    {fingerprint : String} (h : out.Extends io circuitId addr key fingerprint)
    (heffects : out'.effects = out.effects)
    (herror : ∀ e, out.result = .error e → out'.result = .error e) :
    out'.Extends io circuitId addr key fingerprint := by
  constructor
  · intro e hconnect
    obtain ⟨hnone, hresult⟩ := h.refused e hconnect
    exact ⟨heffects.trans hnone, herror _ hresult⟩
  · intro conn hconnect
    rw [heffects]
    exact h.connected conn hconnect
  · intro conn hconnect hwrite
    rw [heffects]
    exact h.sent conn hconnect hwrite

section

variable [Primitives] [AddrText]

/-- An entry relay asks of the outside what `openExtend` asks. -/
theorem EntryCircuitHandler.handleExtend_effects (h : EntryCircuitHandler) (io : RelayIo)
    (msg : Message) :
    (handleExtend h io msg).effects = (HopHandler.openExtend texts h io msg).effects := by
  rw [handleExtend]
  cases HopHandler.openExtend texts h io msg with
  | mk h' effects result => cases result <;> rfl

/-- It ends where `openExtend` fails. -/
theorem EntryCircuitHandler.handleExtend_failed {h h' : EntryCircuitHandler} {io : RelayIo}
    {msg : Message} {effects : List RelayEffect} {e : RelayError}
    (hopen : HopHandler.openExtend texts h io msg = ⟨h', effects, .error e⟩) :
    handleExtend h io msg = ⟨h', effects, .error e⟩ := by
  rw [handleExtend, hopen]

/-- A middle relay asks of the outside what `openExtend` asks. -/
theorem MiddleCircuitHandler.handleExtend_effects (h : MiddleCircuitHandler) (io : RelayIo)
    (msg : Message) :
    (handleExtend h io msg).effects = (HopHandler.openExtend texts h io msg).effects := by
  rw [handleExtend]
  cases HopHandler.openExtend texts h io msg with
  | mk h' effects result =>
      cases result with
      | error e => rfl
      | ok answer =>
          by_cases hshort : answer.2.data.length < 32
          · simp only [hshort, if_true]
          · simp only [hshort, if_false]

/-- It ends where `openExtend` fails. -/
theorem MiddleCircuitHandler.handleExtend_failed {h h' : MiddleCircuitHandler} {io : RelayIo}
    {msg : Message} {effects : List RelayEffect} {e : RelayError}
    (hopen : HopHandler.openExtend texts h io msg = ⟨h', effects, .error e⟩) :
    handleExtend h io msg = ⟨h', effects, .error e⟩ := by
  rw [handleExtend, hopen]

namespace HopHandler

/-- A payload that is refused is answered by its error, and nothing is asked of the
outside. -/
theorem openExtend_refused {texts : HopTexts} {h : HopHandler} {msg : Message}
    {pair : CipherPair} {e : RelayError} (hcipher : h.context.cipherPair = some pair)
    (hread : readExtend texts (pair.applyForward msg.data).2 = .error e) (io : RelayIo) :
    openExtend texts h io msg = ⟨h.setCipher (pair.applyForward msg.data).1, [], .error e⟩ := by
  rw [readExtend] at hread
  simp only [openExtend, hcipher]
  cases hparse : parseExtend texts (pair.applyForward msg.data).2 with
  | error e' =>
      rw [hparse] at hread
      cases hread
      rfl
  | ok payload =>
      simp only [hparse] at hread ⊢
      cases haddr : AddrText.parse payload.addrStr with
      | none =>
          rw [haddr] at hread
          cases hread
          rfl
      | some addr =>
          rw [haddr] at hread
          cases hread

/-- A payload that is read sends the relay to the address it names, with the key it
names. -/
theorem openExtend_extends {texts : HopTexts} {h : HopHandler} {msg : Message}
    {pair : CipherPair} {addr : SocketAddr} {key : FixedBytes 32} {fingerprint : String}
    (hcipher : h.context.cipherPair = some pair)
    (hread : readExtend texts (pair.applyForward msg.data).2 = .ok (addr, key, fingerprint))
    (io : RelayIo) :
    (openExtend texts h io msg).Extends io h.context.circuitId addr key fingerprint := by
  obtain ⟨addrStr, haddr, hwritten⟩ := (readExtend_eq_ok_iff _ _ _ _ _).mp hread
  have hparse := (parseExtend_eq_ok_iff texts _ _).mpr hwritten
  have hfits : (Message.create h.context.circuitId key.1).data.length ≤ maxPayloadSize := by
    have hlen : (Message.create h.context.circuitId key.1).data.length = 32 := key.2
    rw [hlen]
    decide
  -- once CREATE is written, what the next hop answers adds no effect
  have hasked (conn : ConnId) (hconnect : io.connect addr fingerprint = .ok conn)
      (hwritten : (Message.create h.context.circuitId key.1).writeToStream
        (io.write conn (Message.create h.context.circuitId key.1)) = .ok ()) :
      (openExtend texts h io msg).effects =
        [.dial addr fingerprint conn, .send conn (Message.create h.context.circuitId key.1)] := by
    simp only [openExtend, hcipher, hparse, haddr, hconnect, setCipher_circuitId, hwritten]
    cases io.readCreated conn (Message.create h.context.circuitId key.1) with
    | timeout => rfl
    | readError e => rfl
    | closed => rfl
    | cell createdMsg =>
        by_cases hcommand : createdMsg.command = .created
        · simp [hcommand]
        · simp [hcommand]
  constructor
  · intro e hconnect
    simp only [openExtend, hcipher, hparse, haddr, hconnect, and_self]
  · intro conn hconnect
    cases hwritten : (Message.create h.context.circuitId key.1).writeToStream
        (io.write conn (Message.create h.context.circuitId key.1)) with
    | error e =>
        apply Or.inl
        simp only [openExtend, hcipher, hparse, haddr, hconnect, setCipher_circuitId, hwritten]
    | ok _ => exact Or.inr (hasked conn hconnect hwritten)
  · intro conn hconnect hwrite
    have hwritten : (Message.create h.context.circuitId key.1).writeToStream
        (io.write conn (Message.create h.context.circuitId key.1)) = .ok () := by
      rw [hwrite]
      exact Message.writeToStream_ok hfits
    rw [hasked conn hconnect hwritten]
    exact List.mem_cons_of_mem _ (List.mem_singleton_self _)

end HopHandler

namespace CircuitHandler

/-- The texts of a relay that extends circuits. -/
def extendTexts : CircuitHandler → HopTexts
  | .entry _ => EntryCircuitHandler.texts
  | .middle _ => MiddleCircuitHandler.texts
  | .exit _ => EntryCircuitHandler.texts

variable {handler : CircuitHandler} {pair : CipherPair} {msg : Message}

/-- A relay handles an EXTEND as a hop does: it asks of the outside what `openExtend` asks,
and ends where that fails. -/
structure OpensAs (handler : CircuitHandler) (prevHop : Option ConnId) (msg : Message)
    (hop : HopHandler) (wrap : HopHandler → CircuitHandler) : Prop where
  cipherPair : hop.context.cipherPair = handler.cipherPair
  circuitId : hop.context.circuitId = handler.circuitId
  nextHop : hop.nextHop = none
  wrap_nextHop : ∀ hop', (wrap hop').nextHop = hop'.nextHop
  effects : ∀ io, (handler.handleMessage io prevHop msg).effects =
    (HopHandler.openExtend handler.extendTexts hop io msg).effects
  failed : ∀ io hop' effects e,
    HopHandler.openExtend handler.extendTexts hop io msg = ⟨hop', effects, .error e⟩ →
      handler.handleMessage io prevHop msg = ⟨wrap hop', effects, .error e⟩

/-- Every relay but an exit does so while it has no next hop. -/
theorem exists_opensAs (hkind : handler.nodeType ≠ .exit) (hnext : handler.nextHop = none)
    (hcommand : msg.command = .extend) (prevHop : Option ConnId) :
    ∃ hop wrap, OpensAs handler prevHop msg hop wrap := by
  cases handler with
  | exit h => exact absurd rfl hkind
  | entry h =>
      have hnone : h.nextHop = none := hnext
      have hcall (io : RelayIo) : (CircuitHandler.entry h).handleMessage io prevHop msg =
          lift .entry (EntryCircuitHandler.handleExtend h io msg) := by
        simp only [handleMessage, EntryCircuitHandler.handleMessage, hcommand, hnone,
          Option.isSome_none, Bool.false_eq_true, if_false]
      refine ⟨h, .entry, rfl, rfl, hnone, fun _ => rfl, ?_, ?_⟩
      · intro io
        rw [hcall]
        exact EntryCircuitHandler.handleExtend_effects h io msg
      · intro io hop' effects e hopen
        rw [hcall, EntryCircuitHandler.handleExtend_failed hopen]
        rfl
  | middle h =>
      have hnone : h.nextHop = none := hnext
      have hcall (io : RelayIo) : (CircuitHandler.middle h).handleMessage io prevHop msg =
          lift .middle (MiddleCircuitHandler.handleExtend h io msg) := by
        simp only [handleMessage, MiddleCircuitHandler.handleMessage, hcommand, hnone,
          Option.isSome_none, Bool.false_eq_true, if_false]
      refine ⟨h, .middle, rfl, rfl, hnone, fun _ => rfl, ?_, ?_⟩
      · intro io
        rw [hcall]
        exact MiddleCircuitHandler.handleExtend_effects h io msg
      · intro io hop' effects e hopen
        rw [hcall, MiddleCircuitHandler.handleExtend_failed hopen]
        rfl

/-- A relay without a next hop answers a payload that it refuses with an error, whatever
the outside is like, and has no next hop afterwards. -/
theorem handleMessage_extend_refused (hkind : handler.nodeType ≠ .exit)
    (hcipher : handler.cipherPair = some pair) (hnext : handler.nextHop = none)
    (hcommand : msg.command = .extend) (prevHop : Option ConnId) {e : RelayError}
    (hread : readExtend handler.extendTexts (pair.applyForward msg.data).2 = .error e) :
    ∃ handler' : CircuitHandler, handler'.nextHop = none ∧
      ∀ io, handler.handleMessage io prevHop msg = ⟨handler', [], .error e⟩ := by
  obtain ⟨hop, wrap, hopens⟩ := exists_opensAs hkind hnext hcommand prevHop
  have hopen := HopHandler.openExtend_refused (hopens.cipherPair.trans hcipher) hread
  refine ⟨wrap (hop.setCipher (pair.applyForward msg.data).1), ?_, ?_⟩
  · rw [hopens.wrap_nextHop]
    exact hopens.nextHop
  · intro io
    exact hopens.failed io _ _ e (hopen io)

/-- A relay without a next hop connects to the address in a payload that it accepts, with
the key in it. -/
theorem handleMessage_extend_extends (hkind : handler.nodeType ≠ .exit)
    (hcipher : handler.cipherPair = some pair) (hnext : handler.nextHop = none)
    (hcommand : msg.command = .extend) (prevHop : Option ConnId) {addr : SocketAddr}
    {key : FixedBytes 32} {fingerprint : String}
    (hread : readExtend handler.extendTexts (pair.applyForward msg.data).2 =
      .ok (addr, key, fingerprint)) (io : RelayIo) :
    (handler.handleMessage io prevHop msg).Extends io handler.circuitId addr key
      fingerprint := by
  obtain ⟨hop, wrap, hopens⟩ := exists_opensAs hkind hnext hcommand prevHop
  have hextends := HopHandler.openExtend_extends (hopens.cipherPair.trans hcipher) hread io
  rw [hopens.circuitId] at hextends
  apply hextends.of_open (hopens.effects io)
  intro e he
  rw [hopens.failed io _ _ e (congrArg (Handled.mk _ _) he)]

/-- The payload a client builds sends an entry or a middle relay to the address it was
built from. A relay accepts exactly the payloads of that form; it refuses any other before
it has asked the outside anything, and no range it takes is missing. -/
theorem extend_read (hkind : handler.nodeType ≠ .exit)
    (hcipher : handler.cipherPair = some pair) (hnext : handler.nextHop = none)
    (hcommand : msg.command = .extend) (prevHop : Option ConnId) :
    let bytes := (pair.applyForward msg.data).2
    (∀ addr key fingerprint, AddrText.parse (AddrText.display addr) = some addr →
      0 ∉ asBytes (AddrText.display addr) →
      bytes = (ExtendPayload.mk (AddrText.display addr) key fingerprint).encode →
      readExtend handler.extendTexts bytes = .ok (addr, key, fingerprint)) ∧
    (∀ addr key fingerprint,
      readExtend handler.extendTexts bytes = .ok (addr, key, fingerprint) ↔
        ExtendNames bytes addr key fingerprint) ∧
    (∀ addr key fingerprint, ExtendNames bytes addr key fingerprint →
      ∀ io, (handler.handleMessage io prevHop msg).Extends io handler.circuitId addr key
        fingerprint) ∧
    ((∀ addr key fingerprint, ¬ ExtendNames bytes addr key fingerprint) →
      ∃ (handler' : CircuitHandler) (e : RelayError), handler'.nextHop = none ∧
        ∀ io, handler.handleMessage io prevHop msg = ⟨handler', [], .error e⟩) ∧
    parseExtendIndexing handler.extendTexts bytes =
      some (parseExtend handler.extendTexts bytes) := by
  intro bytes
  have hread := readExtend_eq_ok_iff handler.extendTexts bytes
  refine ⟨?_, hread, ?_, ?_, parseExtendIndexing_eq _ _⟩
  · intro addr key fingerprint hparse hzero hbuilt
    rw [hread, hbuilt]
    exact extendNames_encode key fingerprint hparse hzero
  · intro addr key fingerprint hnames
    exact handleMessage_extend_extends hkind hcipher hnext hcommand prevHop
      ((hread addr key fingerprint).mpr hnames)
  · intro hnot
    cases hresult : readExtend handler.extendTexts bytes with
    | error e =>
        obtain ⟨handler', hnone, hcall⟩ :=
          handleMessage_extend_refused hkind hcipher hnext hcommand prevHop hresult
        exact ⟨handler', e, hnone, hcall⟩
    | ok named =>
        exact absurd ((hread named.1 named.2.1 named.2.2).mp hresult) (hnot _ _ _)

end CircuitHandler

end

/-! ## A payload with zero bytes in its key -/

namespace CircuitHandler

open Reference

/-- The key of a sample circuit. -/
def sampleSession : SessionKey := ⟨FixedBytes.ofNat 16 1, FixedBytes.ofNat 16 2⟩

/-- A middle relay that is asked to extend a circuit. -/
def sampleMiddle : CircuitHandler :=
  .middle ⟨(CircuitContext.new 7).activate sampleSession,
    KeyPair.fromSecretBytes (FixedBytes.ofNat 32 5), none⟩

/-- The address of its next hop. -/
def sampleNext : SocketAddr := .v4 ⟨[10, 0, 0, 3], rfl⟩ 9001

/-- A middle relay reads a key of zero bytes. -/
theorem extend_read_sampleMiddle :
    readExtend sampleMiddle.extendTexts
        (ExtendPayload.mk (AddrText.display sampleNext) (FixedBytes.zero 32) "ab12").encode =
      .ok (sampleNext, FixedBytes.zero 32, "ab12") := by
  let payload := ExtendPayload.mk (AddrText.display sampleNext) (FixedBytes.zero 32) "ab12"
  let pair := CipherPair.new sampleSession
  let msg := Message.extend 7 (pair.applyForward payload.encode).2
  have hbytes : (pair.applyForward msg.data).2 = payload.encode := by
    simp [msg, Message.extend, Message.circuit, Message.new]
  have hcipher : sampleMiddle.cipherPair = some pair := rfl
  have hcommand : msg.command = .extend := rfl
  have hread := extend_read (show sampleMiddle.nodeType ≠ .exit by decide) hcipher rfl hcommand
    none
  rw [← hbytes]
  exact hread.1 sampleNext (FixedBytes.zero 32) "ab12" (by decide +kernel) (by decide +kernel)
    hbytes

end CircuitHandler

end NoPanic
