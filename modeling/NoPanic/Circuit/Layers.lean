/-
# Layers

One direction of a circuit, without the parties: the ciphers of the layers
between its two ends, the running digest of the plaintext, and what a hop does
to a cell that passes it. A cell is digested in the clear and then masked by
every layer.

An end of a direction is the list of ciphers still around the cells that pass it.
The client stands where all layers are, the exit where only its own is; a hop
moves a cell by one layer. So a direction is a `Channel` at either end, and the
line of hops between the ends carries the encoding of one end to the encoding of
the other.
-/

import NoPanic.Common.Crypto
import NoPanic.Math.Channel
import NoPanic.Math.Pipeline

namespace NoPanic

open NoPanic.Math

/-- What a cell says, in the clear. -/
structure RelayCell where
  streamId : StreamId
  command : MessageCommand
  data : Bytes
  deriving DecidableEq, Repr

/-- The bytes that a sequence of cells feeds into a running digest. -/
def records (cells : List RelayCell) : Bytes :=
  cells.flatMap fun cell => RunningDigest.record cell.streamId cell.command.toU8 cell.data

/-- Where an end of a direction stands: the ciphers around the cells that pass
it, outermost first, and the running digest of the plaintext. -/
structure OnionEnd where
  ciphers : List Aes128Ctr
  digest : RunningDigest
  deriving DecidableEq, Repr

variable [Primitives]

/-! ## Masking with every layer -/

/-- Mask with every cipher, the first one last. -/
def maskAll : List Aes128Ctr → Bytes → Bytes
  | [], data => data
  | cipher :: ciphers, data => (cipher.applyKeystream (maskAll ciphers data)).2

/-- Every cipher advanced by some data. -/
def advanceAll (ciphers : List Aes128Ctr) (data : Bytes) : List Aes128Ctr :=
  ciphers.map fun cipher => (cipher.applyKeystream data).1

@[simp]
theorem length_maskAll (ciphers : List Aes128Ctr) (data : Bytes) :
    (maskAll ciphers data).length = data.length := by
  induction ciphers with
  | nil => rfl
  | cons cipher ciphers ih => simp [maskAll, ih]

/-- One layer commutes with all the others. -/
theorem applyKeystream_maskAll (cipher : Aes128Ctr) (ciphers : List Aes128Ctr) (data : Bytes) :
    (cipher.applyKeystream (maskAll ciphers data)).2 =
      maskAll ciphers (cipher.applyKeystream data).2 := by
  induction ciphers with
  | nil => rfl
  | cons cipher' ciphers ih =>
      simp only [maskAll]
      rw [Aes128Ctr.applyKeystream_comm, ih]

/-- All layers applied twice disappear. -/
@[simp]
theorem maskAll_maskAll (ciphers : List Aes128Ctr) (data : Bytes) :
    maskAll ciphers (maskAll ciphers data) = data := by
  induction ciphers with
  | nil => rfl
  | cons cipher ciphers ih =>
      simp only [maskAll]
      rw [← applyKeystream_maskAll, Aes128Ctr.applyKeystream_applyKeystream, ih]

/-- How far ciphers advance depends on the length of the data only. -/
theorem advanceAll_congr (ciphers : List Aes128Ctr) {data data' : Bytes}
    (hlen : data.length = data'.length) :
    advanceAll ciphers data = advanceAll ciphers data' :=
  List.map_congr_left fun cipher _ => cipher.applyKeystream_fst_congr hlen

/-! ## The two ends as channels -/

namespace OnionEnd

/-- Digest a cell, then mask it with every layer. -/
def encode (circuitId : CircuitId) (s : OnionEnd) (cell : RelayCell) : OnionEnd × Message :=
  let (digest, tag) := s.digest.update cell.streamId cell.command.toU8 cell.data
  (⟨advanceAll s.ciphers cell.data, digest⟩,
    { Message.new circuitId cell.streamId cell.command (maskAll s.ciphers cell.data) with
      digest := tag })

/-- Unmask a cell, then check its digest. -/
def decode (s : OnionEnd) (msg : Message) : OnionEnd × Option RelayCell :=
  let data := maskAll s.ciphers msg.data
  let (digest, valid) := s.digest.verify msg.streamId msg.command.toU8 data msg.digest
  (⟨advanceAll s.ciphers msg.data, digest⟩,
    if valid then some ⟨msg.streamId, msg.command, data⟩ else none)

/-- What one end encodes, an end at the same place decodes. -/
theorem decode_encode (circuitId : CircuitId) (s : OnionEnd) (cell : RelayCell) :
    s.decode (encode circuitId s cell).2 = ((encode circuitId s cell).1, some cell) := by
  have hvalid := (s.digest.verify_snd cell.streamId cell.command.toU8 cell.data
    (s.digest.update cell.streamId cell.command.toU8 cell.data).2).mpr rfl
  simp only [decode, encode, Message.new, maskAll_maskAll, RunningDigest.verify_fst, hvalid,
    if_true]
  rw [advanceAll_congr s.ciphers (length_maskAll s.ciphers cell.data)]

/-- A cell under another digest is refused. -/
theorem decode_otherDigest (circuitId : CircuitId) (s : OnionEnd) (cell : RelayCell)
    {digest : FixedBytes 4} (hdigest : digest ≠ (encode circuitId s cell).2.digest) :
    (s.decode { (encode circuitId s cell).2 with digest }).2 = none := by
  have hinvalid : (s.digest.verify cell.streamId cell.command.toU8 cell.data digest).2 = false := by
    rw [Bool.eq_false_iff]
    intro hvalid
    exact hdigest ((s.digest.verify_snd _ _ _ _).mp hvalid)
  simp [decode, encode, Message.new, hinvalid]

/-- One direction of a circuit, at one of its ends. -/
def channel (circuitId : CircuitId) : Channel OnionEnd RelayCell Message where
  encode := encode circuitId
  decode := decode
  decode_encode := decode_encode circuitId

@[simp]
theorem channel_encode (circuitId : CircuitId) (s : OnionEnd) (cell : RelayCell) :
    (channel circuitId).encode s cell = encode circuitId s cell := rfl

@[simp]
theorem encode_ciphers (circuitId : CircuitId) (s : OnionEnd) (cell : RelayCell) :
    (encode circuitId s cell).1.ciphers = advanceAll s.ciphers cell.data := rfl

@[simp]
theorem encode_digest (circuitId : CircuitId) (s : OnionEnd) (cell : RelayCell) :
    (encode circuitId s cell).1.digest =
      (s.digest.update cell.streamId cell.command.toU8 cell.data).1 := rfl

@[simp]
theorem encode_command (circuitId : CircuitId) (s : OnionEnd) (cell : RelayCell) :
    (encode circuitId s cell).2.command = cell.command := rfl

@[simp]
theorem length_encode_data (circuitId : CircuitId) (s : OnionEnd) (cell : RelayCell) :
    (encode circuitId s cell).2.data.length = cell.data.length := by
  simp [encode, Message.new]

end OnionEnd

/-! ## A hop on the way -/

/-- A hop in one direction: it masks what passes, and drops padding. -/
def hopTransducer : Transducer Aes128Ctr Message where
  step cipher msg :=
    if msg.command = .padding then (cipher, [])
    else
      let (cipher, data) := cipher.applyKeystream msg.data
      (cipher, [{ msg with data }])

/-- Padding goes no further than the first hop. -/
theorem hopTransducer_step_padding {cipher : Aes128Ctr} {msg : Message}
    (hpadding : msg.command = .padding) : hopTransducer.step cipher msg = (cipher, []) := by
  simp [hopTransducer, hpadding]

/-- On the way to the exit a hop takes its own layer off. -/
theorem hopTransducer_step_peel (circuitId : CircuitId) (cipher : Aes128Ctr)
    (ciphers : List Aes128Ctr) (digest : RunningDigest) {cell : RelayCell}
    (hcell : cell.command ≠ .padding) :
    hopTransducer.step cipher (OnionEnd.encode circuitId ⟨cipher :: ciphers, digest⟩ cell).2 =
      ((cipher.applyKeystream cell.data).1,
        [(OnionEnd.encode circuitId ⟨ciphers, digest⟩ cell).2]) := by
  have hcipher := cipher.applyKeystream_fst_congr
    (length_maskAll (cipher :: ciphers) cell.data)
  simp only [hopTransducer, OnionEnd.encode, Message.new, hcell, if_false]
  simp only [maskAll, Aes128Ctr.applyKeystream_applyKeystream] at hcipher ⊢
  rw [hcipher]

/-- On the way to the client a hop adds its own layer. -/
theorem hopTransducer_step_wrap (circuitId : CircuitId) (cipher : Aes128Ctr)
    (ciphers : List Aes128Ctr) (digest : RunningDigest) {cell : RelayCell}
    (hcell : cell.command ≠ .padding) :
    hopTransducer.step cipher (OnionEnd.encode circuitId ⟨ciphers, digest⟩ cell).2 =
      ((cipher.applyKeystream cell.data).1,
        [(OnionEnd.encode circuitId ⟨cipher :: ciphers, digest⟩ cell).2]) := by
  have hcipher := cipher.applyKeystream_fst_congr (length_maskAll ciphers cell.data)
  simp only [hopTransducer, OnionEnd.encode, Message.new, hcell, if_false, maskAll]
  rw [hcipher]

/-- The line of hops to the exit takes all its layers off. -/
theorem chain_peel (circuitId : CircuitId) (hops inner : List Aes128Ctr)
    (digest : RunningDigest) {cell : RelayCell} (hcell : cell.command ≠ .padding) :
    hopTransducer.chain hops [(OnionEnd.encode circuitId ⟨hops ++ inner, digest⟩ cell).2] =
      (advanceAll hops cell.data, [(OnionEnd.encode circuitId ⟨inner, digest⟩ cell).2]) := by
  induction hops with
  | nil => rfl
  | cons cipher hops ih =>
      simp only [List.cons_append, Transducer.chain_cons, Transducer.run_singleton]
      rw [hopTransducer_step_peel circuitId cipher (hops ++ inner) digest hcell]
      simp [ih, advanceAll]

/-- The line of hops to the client, which a cell passes from the exit on, adds
all its layers. -/
theorem chain_wrap (circuitId : CircuitId) (hops inner : List Aes128Ctr)
    (digest : RunningDigest) {cell : RelayCell} (hcell : cell.command ≠ .padding) :
    hopTransducer.chain hops.reverse [(OnionEnd.encode circuitId ⟨inner, digest⟩ cell).2] =
      (advanceAll hops.reverse cell.data,
        [(OnionEnd.encode circuitId ⟨hops ++ inner, digest⟩ cell).2]) := by
  induction hops with
  | nil => rfl
  | cons cipher hops ih =>
      simp only [List.reverse_cons, Transducer.chain_stages_append, ih, Transducer.chain_cons,
        Transducer.run_singleton, Transducer.chain_nil, List.cons_append]
      rw [hopTransducer_step_wrap circuitId cipher (hops ++ inner) digest hcell]
      simp [advanceAll]

/-- The line of hops leaves the digest of a message alone. -/
theorem chain_withDigest (hops : List Aes128Ctr) (msg : Message) (digest : FixedBytes 4) :
    (hopTransducer.chain hops [{ msg with digest }]).2 =
      (hopTransducer.chain hops [msg]).2.map fun m => { m with digest } := by
  induction hops generalizing msg with
  | nil => rfl
  | cons cipher hops ih =>
      by_cases hpadding : msg.command = .padding
      · simp [hopTransducer_step_padding, hpadding, Transducer.chain_no_input]
      · have hstep : ∀ m : Message, m.command ≠ .padding → hopTransducer.step cipher m =
            ((cipher.applyKeystream m.data).1,
              [{ m with data := (cipher.applyKeystream m.data).2 }]) := by
          intro m hm
          simp [hopTransducer, hm]
        simp only [Transducer.chain_cons, Transducer.run_singleton, hstep msg hpadding,
          hstep { msg with digest } hpadding]
        exact ih { msg with data := (cipher.applyKeystream msg.data).2 }

/-- Padding leaves the line of hops as it is. -/
theorem chain_padding (hops : List Aes128Ctr) {msg : Message}
    (hpadding : msg.command = .padding) (hhops : hops ≠ []) :
    hopTransducer.chain hops [msg] = (hops, []) := by
  cases hops with
  | nil => exact absurd rfl hhops
  | cons cipher hops => simp [hopTransducer_step_padding hpadding]

/-- The line of hops carries a whole sequence from the exit's end to the
client's end. -/
theorem chain_wrap_encodeAll (circuitId : CircuitId) (hops inner : List Aes128Ctr)
    (digest : RunningDigest) (cells : List RelayCell)
    (hcells : ∀ cell ∈ cells, cell.command ≠ .padding) :
    (hopTransducer.chain hops.reverse
        ((OnionEnd.channel circuitId).encodeAll ⟨inner, digest⟩ cells).2).2 =
      ((OnionEnd.channel circuitId).encodeAll ⟨hops ++ inner, digest⟩ cells).2 := by
  induction cells generalizing hops inner digest with
  | nil => simp
  | cons cell cells ih =>
      have hcell := hcells cell (by simp)
      have hrest : ∀ c ∈ cells, c.command ≠ .padding := fun c hc => hcells c (by simp [hc])
      simp only [Channel.encodeAll, OnionEnd.channel_encode]
      rw [← List.singleton_append, Transducer.chain_append, chain_wrap _ _ _ _ hcell]
      have hadvance : advanceAll hops.reverse cell.data = (advanceAll hops cell.data).reverse := by
        simp [advanceAll]
      have htail := ih (advanceAll hops cell.data) (advanceAll inner cell.data)
        (digest.update cell.streamId cell.command.toU8 cell.data).1 hrest
      simp only [hadvance, List.singleton_append, List.cons.injEq, true_and]
      simpa [OnionEnd.encode, advanceAll] using htail

end NoPanic
