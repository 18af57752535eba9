/-
# Cells on the wire

The byte layout of a cell. `toBytes` fills a buffer of zero bytes field by field
and leaves the rest of the payload region to the random generator; `fromBytes`
reads the fields back and refuses what no writer produces. Both are compared with
one `layout`, which names the fields of a cell in their order, so that the two
directions meet in a single statement about it.
-/

import NoPanic.Common.Protocol

namespace NoPanic

open NoPanic.Math

/-- A byte as two hexadecimal digits. -/
def hexByte (b : UInt8) : String :=
  String.ofList [Nat.digitChar (b.toNat / 16), Nat.digitChar (b.toNat % 16)]

/-- The command of a byte. -/
def MessageCommand.fromU8 (value : UInt8) : Except String MessageCommand :=
  if value = 0x00 then .ok .padding
  else if value = 0x01 then .ok .create
  else if value = 0x02 then .ok .created
  else if value = 0x03 then .ok .extend
  else if value = 0x04 then .ok .extended
  else if value = 0x05 then .ok .destroy
  else if value = 0x10 then .ok .begin
  else if value = 0x11 then .ok .connected
  else if value = 0x12 then .ok .data
  else if value = 0x13 then .ok .end
  else .error ("Unknown message command: 0x" ++ hexByte value)

/-- A command is accepted from its own byte and from no other. -/
theorem MessageCommand.fromU8_eq_ok {value : UInt8} {command : MessageCommand} :
    MessageCommand.fromU8 value = .ok command ↔ value = command.toU8 := by
  have hbranch {byte : UInt8} {own : MessageCommand} {others : Except String MessageCommand}
      (h : (if value = byte then .ok own else others) = .ok command) (hown : byte = own.toU8) :
      value = command.toU8 ∨ others = .ok command := by
    by_cases hvalue : value = byte
    · rw [if_pos hvalue] at h
      cases h
      exact Or.inl (hvalue.trans hown)
    · rw [if_neg hvalue] at h
      exact Or.inr h
  constructor
  · intro h
    rw [MessageCommand.fromU8] at h
    iterate 10
      rcases hbranch h rfl with hvalue | h
      · exact hvalue
    cases h
  · rintro rfl
    cases command <;> rfl

/-- Where the payload of a cell starts. -/
def dataStart : Nat := headerSize + payloadLenSize + digestSize

namespace Message

/-- Serialize a message to a cell. Data over the limit is cut off; what the data
leaves of the payload region is random. -/
def toBytes (msg : Message) (random : Nat → UInt8) : Bytes :=
  let cell := List.replicate cellSize 0
  let length := UInt32.ofNat (cellSize - 4)
  let cell := writeSlice cell 0 (beBytes32 length).1
  let cell := writeSlice cell 4 (beBytes32 msg.circuitId).1
  let cell := writeSlice cell 8 (beBytes16 msg.streamId).1
  let cell := writeSlice cell 10 [msg.command.toU8]
  let dataLen := min msg.data.length maxPayloadSize
  let cell := writeSlice cell 11 (beBytes16 (UInt16.ofNat dataLen)).1
  let cell := writeSlice cell 13 msg.digest.1
  let cell := writeSlice cell dataStart (msg.data.take dataLen)
  if dataLen < maxPayloadSize then
    writeSlice cell (dataStart + dataLen) ((List.range (maxPayloadSize - dataLen)).map random)
  else cell

/-- Deserialize a message from a cell. -/
def fromBytes (bytes : Bytes) : Except String Message :=
  if bytes.length < cellSize then
    .error s!"Cell too short: {bytes.length} bytes (expected {cellSize})"
  else
    match sliceArray? bytes 0 4 with
    | none => .error "Incomplete cell: missing length"
    | some lengthBytes =>
        let length := (ofBe32 lengthBytes).toNat
        if length ≠ cellSize - 4 then
          .error s!"Invalid cell length field: {length} (expected {cellSize - 4})"
        else
          match sliceArray? bytes 4 4 with
          | none => .error "Incomplete cell: missing circuit ID"
          | some circuitBytes =>
              match sliceArray? bytes 8 2 with
              | none => .error "Incomplete cell: missing stream ID"
              | some streamBytes =>
                  match bytes[10]? with
                  | none => .error "Incomplete cell: missing command"
                  | some commandByte =>
                      match MessageCommand.fromU8 commandByte with
                      | .error e => .error e
                      | .ok command =>
                          match sliceArray? bytes 11 2 with
                          | none => .error "Incomplete cell: missing payload length"
                          | some payloadLenBytes =>
                              let payloadLen := (ofBe16 payloadLenBytes).toNat
                              if payloadLen > maxPayloadSize then
                                .error (s!"Payload length {payloadLen} exceeds maximum " ++
                                  s!"{maxPayloadSize}")
                              else
                                match sliceArray? bytes 13 4 with
                                | none => .error "Incomplete cell: missing digest"
                                | some digest =>
                                    match slice? bytes dataStart (dataStart + payloadLen) with
                                    | none => .error "Incomplete cell: data region too short"
                                    | some data =>
                                        .ok ⟨ofBe32 circuitBytes, ofBe16 streamBytes, command,
                                          data, digest⟩

end Message

/-! ## The layout of a cell -/

/-- The fields of a cell in their order. -/
structure CellLayout where
  length : FixedBytes 4
  circuitId : FixedBytes 4
  streamId : FixedBytes 2
  command : UInt8
  payloadLen : FixedBytes 2
  digest : FixedBytes 4
  payload : FixedBytes maxPayloadSize
  deriving DecidableEq

namespace CellLayout

/-- The bytes of a cell. -/
def bytes (layout : CellLayout) : Bytes :=
  layout.length.1 ++ (layout.circuitId.1 ++ (layout.streamId.1 ++ ([layout.command] ++
    (layout.payloadLen.1 ++ (layout.digest.1 ++ layout.payload.1)))))

/-- A cell has its fixed size. -/
@[simp]
theorem length_bytes (layout : CellLayout) : layout.bytes.length = cellSize := by
  simp [bytes, layout.length.2, layout.circuitId.2, layout.streamId.2, layout.payloadLen.2,
    layout.digest.2, layout.payload.2, maxPayloadSize, cellSize, headerSize, payloadLenSize,
    digestSize]

/-- Every string of the size of a cell has a layout. -/
theorem exists_of_length {b : Bytes} (hlen : b.length = cellSize) :
    ∃ layout : CellLayout, layout.bytes = b := by
  have hsize : b.length = 514 := hlen
  have htake : ∀ start n : Nat, start + n ≤ 514 → ((b.drop start).take n).length = n := by
    intro start n h
    rw [List.length_take, List.length_drop]
    omega
  have hcut : ∀ start n : Nat,
      (b.drop start).take n ++ b.drop (start + n) = b.drop start := by
    intro start n
    rw [← List.drop_drop, List.take_append_drop]
  have hlt : 10 < b.length := by omega
  have hbyte : [b[10]] ++ b.drop 11 = b.drop 10 := by
    rw [List.drop_eq_getElem_cons hlt]
    rfl
  refine ⟨⟨⟨(b.drop 0).take 4, htake 0 4 (by omega)⟩, ⟨(b.drop 4).take 4, htake 4 4 (by omega)⟩,
    ⟨(b.drop 8).take 2, htake 8 2 (by omega)⟩, b[10],
    ⟨(b.drop 11).take 2, htake 11 2 (by omega)⟩, ⟨(b.drop 13).take 4, htake 13 4 (by omega)⟩,
    ⟨b.drop 17, by rw [List.length_drop, hsize]; rfl⟩⟩, ?_⟩
  simp only [bytes]
  rw [hcut 13 4, hcut 11 2, hbyte, hcut 8 2, hcut 4 4, hcut 0 4]
  rfl

end CellLayout

namespace Message

/-- The layout a message is written in. -/
def layout (msg : Message) (random : Nat → UInt8) : CellLayout where
  length := beBytes32 (UInt32.ofNat (cellSize - 4))
  circuitId := beBytes32 msg.circuitId
  streamId := beBytes16 msg.streamId
  command := msg.command.toU8
  payloadLen := beBytes16 (UInt16.ofNat (min msg.data.length maxPayloadSize))
  digest := msg.digest
  payload :=
    ⟨msg.data.take (min msg.data.length maxPayloadSize) ++
        (List.range (maxPayloadSize - min msg.data.length maxPayloadSize)).map random, by
      rw [List.length_append, List.length_take, List.length_map, List.length_range]
      omega⟩

/-- The buffer that `toBytes` fills is the layout of the message. -/
theorem toBytes_eq (msg : Message) (random : Nat → UInt8) :
    msg.toBytes random = (msg.layout random).bytes := by
  simp only [toBytes, layout, CellLayout.bytes]
  have hfill : ∀ n, ((List.range n).map random).length = n := by simp
  generalize beBytes32 (UInt32.ofNat (cellSize - 4)) = length
  generalize beBytes32 msg.circuitId = circuitId
  generalize beBytes16 msg.streamId = streamId
  generalize hlen : min msg.data.length maxPayloadSize = dataLen
  generalize beBytes16 (UInt16.ofNat dataLen) = payloadLen
  have hmax : dataLen ≤ 497 := hlen ▸ Nat.min_le_right _ _
  have hdata : (msg.data.take dataLen).length = dataLen := by
    rw [List.length_take]
    omega
  generalize msg.data.take dataLen = data at hdata
  have hfields := And.intro length.2 (And.intro circuitId.2 (And.intro streamId.2
    (And.intro payloadLen.2 msg.digest.2)))
  -- the fields go one behind the other into a buffer of zeros
  have hzeros : List.replicate cellSize (0 : UInt8) = [] ++ List.replicate 514 0 := rfl
  rw [hzeros, writeSlice_zeros 514 0 510 (by simp) (by simp [hfields]),
    writeSlice_zeros 510 4 506 (by simp [hfields]) (by simp [hfields]),
    writeSlice_zeros 506 8 504 (by simp [hfields]) (by simp [hfields]),
    writeSlice_zeros 504 10 503 (by simp [hfields]) (by simp),
    writeSlice_zeros 503 11 501 (by simp [hfields]) (by simp [hfields]),
    writeSlice_zeros 501 13 497 (by simp [hfields]) (by simp [hfields]),
    writeSlice_zeros 497 dataStart (497 - dataLen) (by simp [hfields]; rfl) (by omega)]
  by_cases hroom : dataLen < maxPayloadSize
  · rw [if_pos hroom, writeSlice_zeros (497 - dataLen) (dataStart + dataLen) 0
      (by simp [hfields, hdata, dataStart, headerSize, payloadLenSize, digestSize]; omega)
      (by rw [hfill]; rfl)]
    simp
  · have hmax' : dataLen = maxPayloadSize := Nat.le_antisymm hmax (Nat.not_lt.mp hroom)
    have hnone : 497 - maxPayloadSize = 0 := rfl
    rw [if_neg hroom, hmax', hnone]
    simp

end Message

namespace CellLayout

/-- What a cell holds: the fields of a message, and its data at the front of the
payload region. -/
structure Denotes (layout : CellLayout) (msg : Message) : Prop where
  length : layout.length = beBytes32 (UInt32.ofNat (cellSize - 4))
  circuitId : layout.circuitId = beBytes32 msg.circuitId
  streamId : layout.streamId = beBytes16 msg.streamId
  command : layout.command = msg.command.toU8
  payloadLen : layout.payloadLen = beBytes16 (UInt16.ofNat msg.data.length)
  digest : layout.digest = msg.digest
  payload : msg.data <+: layout.payload.1

/-- A message fits the cell that holds it. -/
theorem Denotes.fits {layout : CellLayout} {msg : Message} (h : layout.Denotes msg) :
    msg.data.length ≤ maxPayloadSize := by
  have hinitial := h.payload.length_le
  rwa [layout.payload.2] at hinitial

/-- A message that fits is held by the cell it is written in. -/
theorem denotes_layout {msg : Message} (hfits : msg.data.length ≤ maxPayloadSize)
    (random : Nat → UInt8) : (msg.layout random).Denotes msg := by
  have hmin : min msg.data.length maxPayloadSize = msg.data.length := Nat.min_eq_left hfits
  refine ⟨rfl, rfl, rfl, rfl, ?_, rfl, ?_⟩
  · simp only [Message.layout, hmin]
  · simp only [Message.layout, hmin, List.take_length]
    exact List.prefix_append _ _

/-- A cell that holds a message is the one it is written in, for some padding. -/
theorem Denotes.exists_layout {layout : CellLayout} {msg : Message} (h : layout.Denotes msg) :
    ∃ random, msg.layout random = layout := by
  obtain ⟨length, circuitId, streamId, command, payloadLen, digest, payload⟩ := layout
  obtain ⟨hlength, hcircuit, hstream, hcommand, hpayloadLen, hdigest, back, hback⟩ := h
  simp only at hlength hcircuit hstream hcommand hpayloadLen hdigest hback
  have htotal : msg.data.length + back.length = maxPayloadSize := by
    rw [← List.length_append, hback, payload.2]
  have hmin : min msg.data.length maxPayloadSize = msg.data.length :=
    Nat.min_eq_left (by omega)
  have hrest : maxPayloadSize - msg.data.length = back.length := by omega
  have hpad : (List.range back.length).map (fun i => back.getD i 0) = back := by
    apply List.ext_getElem
    · simp
    · intro i hi hi'
      simp [hi']
  refine ⟨fun i => back.getD i 0, ?_⟩
  simp only [Message.layout, hmin, hrest, List.take_length, hpad, hlength, hcircuit, hstream,
    hcommand, hpayloadLen, hdigest, CellLayout.mk.injEq, true_and]
  exact Subtype.ext hback

/-- The fields of a cell are read at their offsets. -/
theorem reads (layout : CellLayout) :
    sliceArray? layout.bytes 0 4 = some layout.length ∧
      sliceArray? layout.bytes 4 4 = some layout.circuitId ∧
      sliceArray? layout.bytes 8 2 = some layout.streamId ∧
      layout.bytes[10]? = some layout.command ∧
      sliceArray? layout.bytes 11 2 = some layout.payloadLen ∧
      sliceArray? layout.bytes 13 4 = some layout.digest ∧
      layout.bytes.drop dataStart = layout.payload.1 := by
  have hsize : layout.bytes.length = 514 := layout.length_bytes
  -- what is left of the cell behind each field
  have h4 : layout.bytes.drop 4 = layout.circuitId.1 ++ (layout.streamId.1 ++
      ([layout.command] ++ (layout.payloadLen.1 ++ (layout.digest.1 ++ layout.payload.1)))) :=
    List.drop_left' layout.length.2
  have h8 : layout.bytes.drop (4 + 4) = layout.streamId.1 ++ ([layout.command] ++
      (layout.payloadLen.1 ++ (layout.digest.1 ++ layout.payload.1))) := by
    rw [← List.drop_drop, h4]
    exact List.drop_left' layout.circuitId.2
  have h10 : layout.bytes.drop (8 + 2) = [layout.command] ++ (layout.payloadLen.1 ++
      (layout.digest.1 ++ layout.payload.1)) := by
    rw [← List.drop_drop, h8]
    exact List.drop_left' layout.streamId.2
  have h11 : layout.bytes.drop (10 + 1) = layout.payloadLen.1 ++ (layout.digest.1 ++
      layout.payload.1) := by
    rw [← List.drop_drop, h10]
    rfl
  have h13 : layout.bytes.drop (11 + 2) = layout.digest.1 ++ layout.payload.1 := by
    rw [← List.drop_drop, h11]
    exact List.drop_left' layout.payloadLen.2
  have h17 : layout.bytes.drop (13 + 4) = layout.payload.1 := by
    rw [← List.drop_drop, h13]
    exact List.drop_left' layout.digest.2
  refine ⟨sliceArray?_of_drop (by omega) rfl, sliceArray?_of_drop (by omega) h4,
    sliceArray?_of_drop (by omega) h8, ?_, sliceArray?_of_drop (by omega) h11,
    sliceArray?_of_drop (by omega) h13, h17⟩
  rw [← List.head?_drop, h10]
  rfl

/-- A cell is accepted as the message it holds, and as nothing else. -/
theorem fromBytes_bytes (layout : CellLayout) (msg : Message) :
    Message.fromBytes layout.bytes = .ok msg ↔ layout.Denotes msg := by
  obtain ⟨hlength, hcircuit, hstream, hcommand, hpayloadLen, hdigest, hpayload⟩ := layout.reads
  have hsize : ¬ layout.bytes.length < cellSize := by
    rw [layout.length_bytes]
    exact Nat.lt_irrefl _
  -- the length field of a cell is a constant
  have hconst : (ofBe32 layout.length).toNat = cellSize - 4 ↔
      layout.length = beBytes32 (UInt32.ofNat (cellSize - 4)) := by
    have hvalue : cellSize - 4 = (UInt32.ofNat (cellSize - 4)).toNat := rfl
    constructor
    · intro h
      rw [← h, UInt32.ofNat_toNat, beBytes32_ofBe32]
    · intro h
      rw [h, ofBe32_beBytes32, ← hvalue]
  -- data within the limit is in range
  have hslice : ∀ n ≤ maxPayloadSize, slice? layout.bytes dataStart (dataStart + n) =
      some (layout.payload.1.take n) := by
    intro n hn
    have hrange : dataStart + n ≤ layout.bytes.length := by
      rw [layout.length_bytes]
      exact Nat.add_le_add_left hn dataStart
    rw [slice?, if_pos ⟨Nat.le_add_right _ _, hrange⟩, hpayload, Nat.add_sub_cancel_left]
  simp only [Message.fromBytes, if_neg hsize, hlength, hcircuit, hstream, hcommand, hpayloadLen,
    hdigest]
  constructor
  · intro h
    by_cases hlen : (ofBe32 layout.length).toNat = cellSize - 4
    · rw [if_neg (not_not.mpr hlen)] at h
      cases hfrom : MessageCommand.fromU8 layout.command with
      | error e =>
          rw [hfrom] at h
          cases h
      | ok command =>
          simp only [hfrom] at h
          by_cases hlong : (ofBe16 layout.payloadLen).toNat ≤ maxPayloadSize
          · rw [if_neg (Nat.not_lt.mpr hlong), hslice _ hlong] at h
            cases h
            have hcount : (layout.payload.1.take (ofBe16 layout.payloadLen).toNat).length =
                (ofBe16 layout.payloadLen).toNat := by
              rw [List.length_take, layout.payload.2]
              exact Nat.min_eq_left hlong
            refine ⟨hconst.mp hlen, (beBytes32_ofBe32 _).symm, (beBytes16_ofBe16 _).symm,
              MessageCommand.fromU8_eq_ok.mp hfrom, ?_, rfl, List.take_prefix _ _⟩
            rw [hcount, UInt16.ofNat_toNat, beBytes16_ofBe16]
          · rw [if_pos (Nat.lt_of_not_le hlong)] at h
            cases h
    · rw [if_pos hlen] at h
      cases h
  · intro h
    have hfits : ¬ msg.data.length > maxPayloadSize := Nat.not_lt.mpr h.fits
    have hvalue : (UInt16.ofNat msg.data.length).toNat = msg.data.length :=
      UInt16.toNat_ofNat_of_lt' (Nat.lt_of_le_of_lt h.fits (by decide))
    have htake : layout.payload.1.take msg.data.length = msg.data :=
      (List.prefix_iff_eq_take.mp h.payload).symm
    have hfrom : MessageCommand.fromU8 layout.command = .ok msg.command :=
      MessageCommand.fromU8_eq_ok.mpr h.command
    rw [if_neg (not_not.mpr (hconst.mpr h.length))]
    simp only [hfrom, h.payloadLen, ofBe16_beBytes16, hvalue, if_neg hfits, hslice _ h.fits,
      htake, h.circuitId, h.streamId, ofBe32_beBytes32, h.digest]

end CellLayout

/-! ## Cells on a stream -/

/-- Why reading a cell fails. -/
inductive ReadError
  | invalidData (text : String)
  | io (text : String)
  deriving DecidableEq, Repr

/-- The read half of a stream: the bytes that are still to come, and the error
that follows them, if it is not the end. -/
structure ByteStream where
  bytes : Bytes
  failure : Option String
  deriving DecidableEq, Repr

namespace Message

/-- Read one cell from a stream. A stream that ends gives no message, also when it
ends within a cell. -/
def fromStream (stream : ByteStream) : ByteStream × Except ReadError (Option Message) :=
  if cellSize ≤ stream.bytes.length then
    ({ stream with bytes := stream.bytes.drop cellSize },
      match fromBytes (stream.bytes.take cellSize) with
      | .ok msg => .ok (some msg)
      | .error e => .error (.invalidData e))
  else
    ({ stream with bytes := [] },
      match stream.failure with
      | none => .ok none
      | some e => .error (.io e))

/-- Read a number of cells, one after the other. -/
def readCells : Nat → ByteStream → ByteStream × List (Except ReadError (Option Message))
  | 0, stream => (stream, [])
  | n + 1, stream =>
      let (stream, first) := fromStream stream
      let (stream, others) := readCells n stream
      (stream, first :: others)

/-- A message that fits is read back from its cell, whatever the padding. -/
theorem fromBytes_toBytes {msg : Message} (hfits : msg.data.length ≤ maxPayloadSize)
    (random : Nat → UInt8) : fromBytes (msg.toBytes random) = .ok msg := by
  rw [toBytes_eq, CellLayout.fromBytes_bytes]
  exact CellLayout.denotes_layout hfits random

/-- A cell at the front of a stream is read, and the rest is left. -/
theorem fromStream_toBytes {msg : Message} (hfits : msg.data.length ≤ maxPayloadSize)
    (random : Nat → UInt8) (rest : Bytes) (failure : Option String) :
    fromStream ⟨msg.toBytes random ++ rest, failure⟩ = (⟨rest, failure⟩, .ok (some msg)) := by
  have hlen : (msg.toBytes random).length = cellSize := by
    rw [toBytes_eq]
    exact CellLayout.length_bytes _
  have henough : cellSize ≤ (msg.toBytes random ++ rest).length := by
    rw [List.length_append, hlen]
    exact Nat.le_add_right _ _
  simp only [fromStream, if_pos henough, List.take_left' hlen, List.drop_left' hlen,
    fromBytes_toBytes hfits random]

/-- Cells that are written back to back are read one by one. -/
theorem readCells_flatMap {cells : List (Message × (Nat → UInt8))} (rest : Bytes)
    (failure : Option String)
    (hfits : ∀ cell ∈ cells, cell.1.data.length ≤ maxPayloadSize) :
    readCells cells.length ⟨cells.flatMap (fun cell => cell.1.toBytes cell.2) ++ rest, failure⟩ =
      (⟨rest, failure⟩, cells.map fun cell => .ok (some cell.1)) := by
  induction cells with
  | nil => rfl
  | cons cell cells ih =>
      have hfirst := hfits cell List.mem_cons_self
      have hothers := ih fun other hmem => hfits other (List.mem_cons_of_mem _ hmem)
      simp only [List.flatMap_cons, List.append_assoc, List.length_cons, List.map_cons, readCells,
        fromStream_toBytes hfirst, hothers]

/-- The cell codec is a bijection up to padding. Cells are of fixed size, a message
that fits is read back from each of its cells, a sequence of cells is read back as
that sequence, and a string of the size of a cell is accepted as a message exactly
when it is one of the cells of that message. -/
theorem codec_bijective_up_to_padding :
    (∀ (msg : Message) (random : Nat → UInt8), msg.data.length ≤ maxPayloadSize →
      (msg.toBytes random).length = cellSize ∧ fromBytes (msg.toBytes random) = .ok msg) ∧
    (∀ (cells : List (Message × (Nat → UInt8))) (rest : Bytes) (failure : Option String),
      (∀ cell ∈ cells, cell.1.data.length ≤ maxPayloadSize) →
      readCells cells.length
          ⟨cells.flatMap (fun cell => cell.1.toBytes cell.2) ++ rest, failure⟩ =
        (⟨rest, failure⟩, cells.map fun cell => .ok (some cell.1))) ∧
    (∀ (b : Bytes) (msg : Message), b.length = cellSize →
      (fromBytes b = .ok msg ↔
        msg.data.length ≤ maxPayloadSize ∧ ∃ random, msg.toBytes random = b)) := by
  refine ⟨?_, ?_, ?_⟩
  · intro msg random hfits
    refine ⟨?_, fromBytes_toBytes hfits random⟩
    rw [toBytes_eq]
    exact CellLayout.length_bytes _
  · intro cells rest failure hfits
    exact readCells_flatMap rest failure hfits
  · intro b msg hlen
    constructor
    · intro haccepted
      obtain ⟨layout, rfl⟩ := CellLayout.exists_of_length hlen
      have hdenotes := (CellLayout.fromBytes_bytes layout msg).mp haccepted
      obtain ⟨random, hlayout⟩ := hdenotes.exists_layout
      exact ⟨hdenotes.fits, random, by rw [toBytes_eq, hlayout]⟩
    · rintro ⟨hfits, random, rfl⟩
      exact fromBytes_toBytes hfits random

/-- Two cells with different padding, written back to back and read again. -/
theorem codec_bijective_up_to_padding_sampleCells :
    let cells : List (Message × (Nat → UInt8)) :=
      [(dataMsg 7 3 [1, 2, 3], fun _ => 0), (destroy 7, fun i => UInt8.ofNat i)]
    (readCells 2 ⟨cells.flatMap (fun cell => cell.1.toBytes cell.2) ++ [], none⟩).2 =
      [.ok (some (dataMsg 7 3 [1, 2, 3])), .ok (some (destroy 7))] := by
  intro cells
  have hfits : ∀ cell ∈ cells, cell.1.data.length ≤ maxPayloadSize := by
    intro cell hmem
    simp only [cells, List.mem_cons, List.not_mem_nil, or_false] at hmem
    rcases hmem with rfl | rfl <;> decide
  exact congrArg Prod.snd (codec_bijective_up_to_padding.2.1 cells [] none hfits)

end Message

end NoPanic
