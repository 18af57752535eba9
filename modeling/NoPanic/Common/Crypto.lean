/-
# Ciphers and digests

Session keys, the stateful AES-CTR cipher pair of one hop and the running SHA-256
digest. The primitives themselves come from other crates, and the model takes
them as parameters: AES-CTR as the keystream it masks with, a hash as a function
of the bytes it was fed.
-/

import NoPanic.Common.Protocol
import NoPanic.Math.Keystream

namespace NoPanic

open NoPanic.Math

/-- The cryptographic primitives of the crates the code builds on. -/
class Primitives where
  /-- Byte `i` of the AES-128-CTR keystream of a key, with the zero IV. -/
  aes128Ctr : FixedBytes 16 → Nat → UInt8
  /-- SHA-256. -/
  sha256 : Bytes → FixedBytes 32
  /-- HMAC-SHA256 of some data under a key. -/
  hmacSha256 : Bytes → Bytes → FixedBytes 32
  /-- The X25519 public key of a secret. -/
  x25519Public : FixedBytes 32 → FixedBytes 32
  /-- X25519 of a secret and a public key. -/
  x25519 : FixedBytes 32 → FixedBytes 32 → FixedBytes 32

/-- The keys of one hop, one for each direction. -/
structure SessionKey where
  forward : FixedBytes 16
  backward : FixedBytes 16
  deriving DecidableEq, Repr

/-- AES-128 in counter mode: a key and how far its keystream has been used. -/
structure Aes128Ctr where
  key : FixedBytes 16
  position : Nat
  deriving DecidableEq, Repr

/-- The cipher pair of one hop. -/
structure CipherPair where
  forward : Aes128Ctr
  backward : Aes128Ctr
  deriving DecidableEq, Repr

/-- The cipher pair of a fresh session. -/
def CipherPair.new (key : SessionKey) : CipherPair :=
  ⟨⟨key.forward, 0⟩, ⟨key.backward, 0⟩⟩

/-- A running digest, by the bytes the hash has been fed. -/
structure RunningDigest where
  state : Bytes
  deriving DecidableEq, Repr

/-- The digest that has been fed nothing. -/
def RunningDigest.new : RunningDigest := ⟨[]⟩

/-- The bytes one cell feeds into a running digest. -/
def RunningDigest.record (streamId : StreamId) (command : UInt8) (data : Bytes) : Bytes :=
  (beBytes16 streamId).1 ++ [command] ++ data

variable [Primitives]

namespace Aes128Ctr

/-- Mask data with the next bytes of the keystream. -/
def applyKeystream (cipher : Aes128Ctr) (data : Bytes) : Aes128Ctr × Bytes :=
  (⟨cipher.key, cipher.position + data.length⟩,
    xorKeystream (Primitives.aes128Ctr cipher.key) cipher.position data)

@[simp]
theorem length_applyKeystream (cipher : Aes128Ctr) (data : Bytes) :
    (cipher.applyKeystream data).2.length = data.length := by
  simp [applyKeystream]

/-- Two ciphers that stand at the same place undo each other. -/
@[simp]
theorem applyKeystream_applyKeystream (cipher : Aes128Ctr) (data : Bytes) :
    (cipher.applyKeystream (cipher.applyKeystream data).2).2 = data := by
  simp [applyKeystream]

/-- How far a cipher advances depends on the length of the data only. -/
theorem applyKeystream_fst_congr (cipher : Aes128Ctr) {data data' : Bytes}
    (hlen : data.length = data'.length) :
    (cipher.applyKeystream data).1 = (cipher.applyKeystream data').1 := by
  simp [applyKeystream, hlen]

/-- Layers commute. -/
theorem applyKeystream_comm (cipher cipher' : Aes128Ctr) (data : Bytes) :
    (cipher.applyKeystream (cipher'.applyKeystream data).2).2 =
      (cipher'.applyKeystream (cipher.applyKeystream data).2).2 := by
  simp [applyKeystream, xorKeystream_comm (Primitives.aes128Ctr cipher.key)]

/-- A change masked into a layered string reaches the data under the layer. -/
theorem applyKeystream_xorData (cipher : Aes128Ctr) {data delta : Bytes}
    (hlen : data.length = delta.length) :
    (cipher.applyKeystream (xorData data delta)).2 =
      xorData (cipher.applyKeystream data).2 delta := by
  simp [applyKeystream, xorKeystream_xorData _ _ _ _ hlen]

end Aes128Ctr

namespace CipherPair

/-- Apply the forward keystream. -/
def applyForward (pair : CipherPair) (data : Bytes) : CipherPair × Bytes :=
  let (forward, masked) := pair.forward.applyKeystream data
  (⟨forward, pair.backward⟩, masked)

/-- Apply the backward keystream. -/
def applyBackward (pair : CipherPair) (data : Bytes) : CipherPair × Bytes :=
  let (backward, masked) := pair.backward.applyKeystream data
  (⟨pair.forward, backward⟩, masked)

@[simp]
theorem applyForward_forward (pair : CipherPair) (data : Bytes) :
    (pair.applyForward data).1.forward = (pair.forward.applyKeystream data).1 := rfl

@[simp]
theorem applyForward_backward (pair : CipherPair) (data : Bytes) :
    (pair.applyForward data).1.backward = pair.backward := rfl

@[simp]
theorem applyForward_snd (pair : CipherPair) (data : Bytes) :
    (pair.applyForward data).2 = (pair.forward.applyKeystream data).2 := rfl

@[simp]
theorem applyBackward_forward (pair : CipherPair) (data : Bytes) :
    (pair.applyBackward data).1.forward = pair.forward := rfl

@[simp]
theorem applyBackward_backward (pair : CipherPair) (data : Bytes) :
    (pair.applyBackward data).1.backward = (pair.backward.applyKeystream data).1 := rfl

@[simp]
theorem applyBackward_snd (pair : CipherPair) (data : Bytes) :
    (pair.applyBackward data).2 = (pair.backward.applyKeystream data).2 := rfl

end CipherPair

/-- The first four bytes of a hash. -/
def digestTag (fed : Bytes) : FixedBytes 4 :=
  (Primitives.sha256 fed).take 4 (by decide)

namespace RunningDigest

/-- Feed a cell's fields and return the four-byte snapshot. -/
def update (digest : RunningDigest) (streamId : StreamId) (command : UInt8) (data : Bytes) :
    RunningDigest × FixedBytes 4 :=
  let state := digest.state ++ record streamId command data
  (⟨state⟩, digestTag state)

/-- Feed a cell's fields and compare the snapshot with the expected one. -/
def verify (digest : RunningDigest) (streamId : StreamId) (command : UInt8) (data : Bytes)
    (expected : FixedBytes 4) : RunningDigest × Bool :=
  let (digest, computed) := digest.update streamId command data
  (digest, computed == expected)

@[simp]
theorem update_fst (digest : RunningDigest) (streamId : StreamId) (command : UInt8)
    (data : Bytes) :
    (digest.update streamId command data).1.state =
      digest.state ++ record streamId command data := rfl

/-- Both ends of a digest move alike, whatever tag they compare. -/
@[simp]
theorem verify_fst (digest : RunningDigest) (streamId : StreamId) (command : UInt8)
    (data : Bytes) (expected : FixedBytes 4) :
    (digest.verify streamId command data expected).1 =
      (digest.update streamId command data).1 := rfl

/-- The tag of an update is the one a digest in the same state accepts. -/
theorem verify_snd (digest : RunningDigest) (streamId : StreamId) (command : UInt8)
    (data : Bytes) (expected : FixedBytes 4) :
    (digest.verify streamId command data expected).2 = true ↔
      expected = (digest.update streamId command data).2 := by
  simp only [verify, beq_iff_eq]
  exact eq_comm

end RunningDigest

end NoPanic
