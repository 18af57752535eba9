/-
# Reference primitives

The primitives of `Primitives` as their standards define them: SHA-256 and HMAC
over byte lists, AES-128 in counter mode with the zero IV, and X25519 by the
Montgomery ladder over numbers modulo `2 ^ 255 - 19`; and the text of IPv4 socket
addresses. No result about the protocol depends on them. They let the model be
run on concrete inputs with the values the real crates compute.
-/

import NoPanic.Common.Crypto
import NoPanic.Common.Types

namespace NoPanic.Reference

open NoPanic.Math

/-! ## SHA-256 -/

/-- Rotate a word to the right. -/
def rotr (x n : UInt32) : UInt32 := (x >>> n) ||| (x <<< (32 - n))

/-- The round constants. -/
def roundConstants : List UInt32 :=
  [0x428a2f98, 0x71374491, 0xb5c0fbcf, 0xe9b5dba5, 0x3956c25b, 0x59f111f1, 0x923f82a4, 0xab1c5ed5,
   0xd807aa98, 0x12835b01, 0x243185be, 0x550c7dc3, 0x72be5d74, 0x80deb1fe, 0x9bdc06a7, 0xc19bf174,
   0xe49b69c1, 0xefbe4786, 0x0fc19dc6, 0x240ca1cc, 0x2de92c6f, 0x4a7484aa, 0x5cb0a9dc, 0x76f988da,
   0x983e5152, 0xa831c66d, 0xb00327c8, 0xbf597fc7, 0xc6e00bf3, 0xd5a79147, 0x06ca6351, 0x14292967,
   0x27b70a85, 0x2e1b2138, 0x4d2c6dfc, 0x53380d13, 0x650a7354, 0x766a0abb, 0x81c2c92e, 0x92722c85,
   0xa2bfe8a1, 0xa81a664b, 0xc24b8b70, 0xc76c51a3, 0xd192e819, 0xd6990624, 0xf40e3585, 0x106aa070,
   0x19a4c116, 0x1e376c08, 0x2748774c, 0x34b0bcb5, 0x391c0cb3, 0x4ed8aa4a, 0x5b9cca4f, 0x682e6ff3,
   0x748f82ee, 0x78a5636f, 0x84c87814, 0x8cc70208, 0x90befffa, 0xa4506ceb, 0xbef9a3f7, 0xc67178f2]

/-- The eight words of a hash state. -/
structure HashState where
  a : UInt32
  b : UInt32
  c : UInt32
  d : UInt32
  e : UInt32
  f : UInt32
  g : UInt32
  h : UInt32

/-- The initial hash state. -/
def HashState.initial : HashState :=
  ⟨0x6a09e667, 0xbb67ae85, 0x3c6ef372, 0xa54ff53a, 0x510e527f, 0x9b05688c, 0x1f83d9ab, 0x5be0cd19⟩

/-- One round, for a message word and a round constant. -/
def HashState.round (s : HashState) (w k : UInt32) : HashState :=
  let s1 := rotr s.e 6 ^^^ rotr s.e 11 ^^^ rotr s.e 25
  let ch := (s.e &&& s.f) ^^^ (~~~s.e &&& s.g)
  let t1 := s.h + s1 + ch + k + w
  let s0 := rotr s.a 2 ^^^ rotr s.a 13 ^^^ rotr s.a 22
  let maj := (s.a &&& s.b) ^^^ (s.a &&& s.c) ^^^ (s.b &&& s.c)
  ⟨t1 + (s0 + maj), s.a, s.b, s.c, s.d + t1, s.e, s.f, s.g⟩

/-- Word-wise sum of two states. -/
def HashState.add (s t : HashState) : HashState :=
  ⟨s.a + t.a, s.b + t.b, s.c + t.c, s.d + t.d, s.e + t.e, s.f + t.f, s.g + t.g, s.h + t.h⟩

/-- The rounds from a window of sixteen message words on: each round takes the
first word and appends the word sixteen places later. -/
def rounds : List UInt32 → List UInt32 → HashState → HashState
  | [], _, s => s
  | k :: ks, window, s =>
      let word i := window.getD i 0
      let small0 := rotr (word 1) 7 ^^^ rotr (word 1) 18 ^^^ (word 1 >>> 3)
      let small1 := rotr (word 14) 17 ^^^ rotr (word 14) 19 ^^^ (word 14 >>> 10)
      rounds ks (window.tail ++ [word 0 + small0 + word 9 + small1]) (s.round (word 0) k)

/-- The big-endian words of a block. -/
def words : Bytes → List UInt32
  | a :: b :: c :: d :: rest =>
      ((a.toUInt32 <<< 24) ||| (b.toUInt32 <<< 16) ||| (c.toUInt32 <<< 8) ||| d.toUInt32) ::
        words rest
  | _ => []

/-- Fold `n` blocks of 64 bytes into a state. -/
def compress : Nat → Bytes → HashState → HashState
  | 0, _, s => s
  | n + 1, data, s =>
      compress n (data.drop 64) (s.add (rounds roundConstants (words (data.take 64)) s))

/-- The bytes of a word, most significant first. -/
def wordBytes (x : UInt32) : Bytes :=
  [(x >>> 24).toUInt8, (x >>> 16).toUInt8, (x >>> 8).toUInt8, x.toUInt8]

/-- The message with a one bit, zeros and its length in bits, to whole blocks. -/
def pad (data : Bytes) : Bytes :=
  data ++ 0x80 :: List.replicate ((119 - data.length % 64) % 64) 0 ++
    (FixedBytes.ofNat 8 (8 * data.length)).1

/-- SHA-256. -/
def sha256 (data : Bytes) : FixedBytes 32 :=
  let padded := pad data
  let s := compress (padded.length / 64) padded .initial
  ⟨wordBytes s.a ++ wordBytes s.b ++ wordBytes s.c ++ wordBytes s.d ++ wordBytes s.e ++
    wordBytes s.f ++ wordBytes s.g ++ wordBytes s.h, rfl⟩

/-- HMAC-SHA256: keys over a block are hashed, shorter ones are filled with
zeros. -/
def hmacSha256 (key data : Bytes) : FixedBytes 32 :=
  let key := if key.length ≤ 64 then key else (sha256 key).1
  let key := key ++ List.replicate (64 - key.length) 0
  sha256 (key.map (· ^^^ 0x5c) ++ (sha256 (key.map (· ^^^ 0x36) ++ data)).1)

example : sha256 [0x61, 0x62, 0x63] = FixedBytes.ofNat 32
    0xba7816bf8f01cfea414140de5dae2223b00361a396177a9cb410ff61f20015ad := by
  decide +kernel

/-! ## X25519 -/

/-- The prime of the field. -/
def p : Nat := 2 ^ 255 - 19

/-- A power modulo the prime, over the bits of the exponent, lowest first. -/
def power (x : Nat) : List Bool → Nat
  | [] => 1
  | bit :: bits =>
      let r := power (x * x % p) bits
      if bit then x * r % p else r

/-- The lowest `n` bits of a number, lowest first. -/
def bitsOf : Nat → Nat → List Bool
  | 0, _ => []
  | n + 1, x => (x % 2 == 1) :: bitsOf n (x / 2)

/-- The inverse modulo the prime. -/
def inverse (x : Nat) : Nat := power x (bitsOf 255 (p - 2))

/-- One step of the ladder: double one projective point and add the two, whose
difference is the point with coordinate `u`. -/
def ladderStep (u : Nat) (pts : (Nat × Nat) × (Nat × Nat)) : (Nat × Nat) × (Nat × Nat) :=
  let ((x2, z2), (x3, z3)) := pts
  let a := (x2 + z2) % p
  let b := (x2 + (p - z2)) % p
  let aa := a * a % p
  let bb := b * b % p
  let e := (aa + (p - bb)) % p
  let da := (x3 + (p - z3)) * a % p
  let cb := (x3 + z3) * b % p
  let x5 := (da + cb) * (da + cb) % p
  let z5 := u * ((da + (p - cb)) * (da + (p - cb)) % p) % p
  ((aa * bb % p, e * (aa + 121665 * e) % p), (x5, z5))

/-- The ladder over the bits of a scalar, highest first. -/
def ladder (u : Nat) : List Bool → (Nat × Nat) × (Nat × Nat) → (Nat × Nat) × (Nat × Nat)
  | [], pts => pts
  | true :: bits, pts => ladder u bits (ladderStep u pts.swap).swap
  | false :: bits, pts => ladder u bits (ladderStep u pts)

/-- The number of a little-endian byte string. -/
def leNat : Bytes → Nat
  | [] => 0
  | b :: bytes => b.toNat + 256 * leNat bytes

/-- The little-endian bytes of a number. -/
def leBytes (n x : Nat) : FixedBytes n :=
  ⟨(List.range n).map fun i => UInt8.ofNat (x / 256 ^ i), by simp⟩

/-- A secret as a scalar: bit 254 set, bit 255 and the three lowest bits clear. -/
def scalar (secret : FixedBytes 32) : Nat :=
  2 ^ 254 + leNat secret.1 % 2 ^ 254 / 8 * 8

/-- X25519 of a secret and the coordinate of a point. -/
def scalarMult (secret : FixedBytes 32) (u : Nat) : FixedBytes 32 :=
  let ((x, z), _) := ladder u (bitsOf 255 (scalar secret)).reverse ((1, 0), (u, 1))
  leBytes 32 (x * inverse z % p)

/-- X25519. -/
def x25519 (secret point : FixedBytes 32) : FixedBytes 32 :=
  scalarMult secret (leNat point.1 % 2 ^ 255 % p)

/-- The public key of a secret. -/
def x25519Public (secret : FixedBytes 32) : FixedBytes 32 := scalarMult secret 9

example : x25519
    (FixedBytes.ofNat 32 0xa546e36bf0527c9d3b16154b82465edd62144c0ac1fc5a18506a2244ba449ac4)
    (FixedBytes.ofNat 32 0xe6db6867583030db3594c1a424b15f7c726624ec26b3353b10a903a6d0ab1c4c) =
      FixedBytes.ofNat 32
        0xc3da55379de9c6908e94ea4df28d084f32eccf03491c71f754b4075577a28552 := by
  decide +kernel

/-! ## AES-128 in counter mode -/

/-- Multiplication by `x` in the field of AES. -/
def xtime (b : UInt8) : UInt8 := if b &&& 0x80 = 0 then b <<< 1 else (b <<< 1) ^^^ 0x1b

/-- The S-box. -/
def sBox : List UInt8 :=
  [0x63, 0x7c, 0x77, 0x7b, 0xf2, 0x6b, 0x6f, 0xc5, 0x30, 0x01, 0x67, 0x2b, 0xfe, 0xd7, 0xab, 0x76,
   0xca, 0x82, 0xc9, 0x7d, 0xfa, 0x59, 0x47, 0xf0, 0xad, 0xd4, 0xa2, 0xaf, 0x9c, 0xa4, 0x72, 0xc0,
   0xb7, 0xfd, 0x93, 0x26, 0x36, 0x3f, 0xf7, 0xcc, 0x34, 0xa5, 0xe5, 0xf1, 0x71, 0xd8, 0x31, 0x15,
   0x04, 0xc7, 0x23, 0xc3, 0x18, 0x96, 0x05, 0x9a, 0x07, 0x12, 0x80, 0xe2, 0xeb, 0x27, 0xb2, 0x75,
   0x09, 0x83, 0x2c, 0x1a, 0x1b, 0x6e, 0x5a, 0xa0, 0x52, 0x3b, 0xd6, 0xb3, 0x29, 0xe3, 0x2f, 0x84,
   0x53, 0xd1, 0x00, 0xed, 0x20, 0xfc, 0xb1, 0x5b, 0x6a, 0xcb, 0xbe, 0x39, 0x4a, 0x4c, 0x58, 0xcf,
   0xd0, 0xef, 0xaa, 0xfb, 0x43, 0x4d, 0x33, 0x85, 0x45, 0xf9, 0x02, 0x7f, 0x50, 0x3c, 0x9f, 0xa8,
   0x51, 0xa3, 0x40, 0x8f, 0x92, 0x9d, 0x38, 0xf5, 0xbc, 0xb6, 0xda, 0x21, 0x10, 0xff, 0xf3, 0xd2,
   0xcd, 0x0c, 0x13, 0xec, 0x5f, 0x97, 0x44, 0x17, 0xc4, 0xa7, 0x7e, 0x3d, 0x64, 0x5d, 0x19, 0x73,
   0x60, 0x81, 0x4f, 0xdc, 0x22, 0x2a, 0x90, 0x88, 0x46, 0xee, 0xb8, 0x14, 0xde, 0x5e, 0x0b, 0xdb,
   0xe0, 0x32, 0x3a, 0x0a, 0x49, 0x06, 0x24, 0x5c, 0xc2, 0xd3, 0xac, 0x62, 0x91, 0x95, 0xe4, 0x79,
   0xe7, 0xc8, 0x37, 0x6d, 0x8d, 0xd5, 0x4e, 0xa9, 0x6c, 0x56, 0xf4, 0xea, 0x65, 0x7a, 0xae, 0x08,
   0xba, 0x78, 0x25, 0x2e, 0x1c, 0xa6, 0xb4, 0xc6, 0xe8, 0xdd, 0x74, 0x1f, 0x4b, 0xbd, 0x8b, 0x8a,
   0x70, 0x3e, 0xb5, 0x66, 0x48, 0x03, 0xf6, 0x0e, 0x61, 0x35, 0x57, 0xb9, 0x86, 0xc1, 0x1d, 0x9e,
   0xe1, 0xf8, 0x98, 0x11, 0x69, 0xd9, 0x8e, 0x94, 0x9b, 0x1e, 0x87, 0xe9, 0xce, 0x55, 0x28, 0xdf,
   0x8c, 0xa1, 0x89, 0x0d, 0xbf, 0xe6, 0x42, 0x68, 0x41, 0x99, 0x2d, 0x0f, 0xb0, 0x54, 0xbb, 0x16]

/-- Substitute a byte. -/
def subByte (b : UInt8) : UInt8 := sBox.getD b.toNat 0

/-- The round key that follows another one. -/
def nextKey (rcon : UInt8) (key : Bytes) : Bytes :=
  let byte i := key.getD i 0
  let temp := [subByte (byte 13) ^^^ rcon, subByte (byte 14), subByte (byte 15), subByte (byte 12)]
  let w0 := List.zipWith (· ^^^ ·) (key.take 4) temp
  let w1 := List.zipWith (· ^^^ ·) ((key.drop 4).take 4) w0
  let w2 := List.zipWith (· ^^^ ·) ((key.drop 8).take 4) w1
  let w3 := List.zipWith (· ^^^ ·) (key.drop 12) w2
  w0 ++ w1 ++ w2 ++ w3

/-- Shift row `r` of the state, kept by columns, by `r` places. -/
def shiftRows (state : Bytes) : Bytes :=
  (List.range 16).map fun i => state.getD ((i + 4 * (i % 4)) % 16) 0

/-- Mix the four bytes of each column. -/
def mixColumns : Bytes → Bytes
  | a :: b :: c :: d :: rest =>
      (xtime a ^^^ xtime b ^^^ b ^^^ c ^^^ d) :: (a ^^^ xtime b ^^^ xtime c ^^^ c ^^^ d) ::
        (a ^^^ b ^^^ xtime c ^^^ xtime d ^^^ d) :: (xtime a ^^^ a ^^^ b ^^^ c ^^^ xtime d) ::
          mixColumns rest
  | _ => []

/-- The rounds after the first key, with their round constants. The last one
mixes no columns. -/
def aesRounds : List UInt8 → Bytes → Bytes → Bytes
  | [], _, state => state
  | rcon :: rcons, key, state =>
      let key := nextKey rcon key
      let shifted := shiftRows (state.map subByte)
      let mixed := if rcons.isEmpty then shifted else mixColumns shifted
      aesRounds rcons key (List.zipWith (· ^^^ ·) mixed key)

/-- AES-128 of one block. -/
def aes128 (key : FixedBytes 16) (block : Bytes) : Bytes :=
  aesRounds [0x01, 0x02, 0x04, 0x08, 0x10, 0x20, 0x40, 0x80, 0x1b, 0x36] key.1
    (List.zipWith (· ^^^ ·) block key.1)

example : aes128 (FixedBytes.ofNat 16 0x000102030405060708090a0b0c0d0e0f)
    (FixedBytes.ofNat 16 0x00112233445566778899aabbccddeeff).1 =
      (FixedBytes.ofNat 16 0x69c4e0d86a7b0430d8cdb78070b4c55a).1 := by
  decide +kernel

/-- Byte `i` of the keystream: the counter block that holds it is its index. -/
def aes128Ctr (key : FixedBytes 16) (i : Nat) : UInt8 :=
  (aes128 key (FixedBytes.ofNat 16 (i / 16)).1).getD (i % 16) 0

/-! ## Addresses -/

/-- Read a number below a bound, digits only. -/
def readNumber (bound : Nat) (digits : List Char) : Option Nat :=
  if digits.isEmpty || !digits.all Char.isDigit then none
  else
    let n := digits.foldl (fun acc c => 10 * acc + (c.toNat - 48)) 0
    if n < bound then some n else none

/-- Read an octet of an IPv4 address. A zero in front is refused, as if the octet were octal. -/
def readOctet (digits : List Char) : Option Nat :=
  if digits.head? = some '0' ∧ 1 < digits.length then none else readNumber 256 digits

/-- Show an IPv4 address with its port. Other addresses have no text here. -/
def showAddr : SocketAddr → String
  | .v4 octets port =>
      String.ofList (List.intercalate ['.'] (octets.1.map fun b => Nat.toDigits 10 b.toNat)) ++
        ":" ++ String.ofList (Nat.toDigits 10 port.toNat)
  | .v6 .. => ""

/-- Read an IPv4 address with its port. -/
def readAddr (s : String) : Option SocketAddr :=
  match s.toList.splitOn ':' with
  | [ip, port] =>
      match (ip.splitOn '.').mapM readOctet, readNumber 65536 port with
      | some [a, b, c, d], some p =>
          some (.v4 ⟨[UInt8.ofNat a, UInt8.ofNat b, UInt8.ofNat c, UInt8.ofNat d], rfl⟩
            (UInt16.ofNat p))
      | _, _ => none
  | _ => none

/-- A number below the bound is read from its digits. -/
theorem readNumber_toDigits {bound n : Nat} (hn : n < bound) :
    readNumber bound (Nat.toDigits 10 n) = some n := by
  have hempty : (Nat.toDigits 10 n).isEmpty = false :=
    List.isEmpty_eq_false_iff.mpr Nat.toDigits_ne_nil
  have hdigits : (Nat.toDigits 10 n).all Char.isDigit = true :=
    List.all_eq_true.mpr fun c hc => Nat.isDigit_of_mem_toDigits (by decide) (by decide) hc
  have hvalue : (Nat.toDigits 10 n).foldl (fun acc c => 10 * acc + (c.toNat - 48)) 0 = n :=
    Nat.ofDigitChars_toDigits (by decide) (by decide)
  simp only [readNumber, hempty, hdigits, hvalue, Bool.not_true, Bool.or_self, Bool.false_eq_true,
    if_false, hn, if_true]

/-- An octet is read from its digits. -/
theorem readOctet_toDigits (b : UInt8) : readOctet (Nat.toDigits 10 b.toNat) = some b.toNat := by
  have hall : ∀ n : Fin 256, readOctet (Nat.toDigits 10 n.val) = some n.val := by decide +kernel
  exact hall ⟨b.toNat, b.toNat_lt⟩

/-- No digit of a number is a separator. -/
theorem notMem_toDigits {c : Char} (hc : c.isDigit = false) (n : Nat) :
    c ∉ Nat.toDigits 10 n := by
  intro hmem
  rw [Nat.isDigit_of_mem_toDigits (by decide) (by decide) hmem] at hc
  cases hc

/-- Digits around separators are split at them. -/
theorem splitOn_digits {c : Char} (hc : c.isDigit = false) {numbers : List Nat}
    (hne : numbers ≠ []) :
    (List.intercalate [c] (numbers.map (Nat.toDigits 10))).splitOn c =
      numbers.map (Nat.toDigits 10) := by
  apply List.splitOn_intercalate
  · intro l hl
    obtain ⟨n, -, rfl⟩ := List.mem_map.mp hl
    exact notMem_toDigits hc n
  · simpa using hne

/-- The text of an IPv4 address is read back. -/
theorem readAddr_showAddr (octets : FixedBytes 4) (port : UInt16) :
    readAddr (showAddr (.v4 octets port)) = some (.v4 octets port) := by
  obtain ⟨bytes, hbytes⟩ := octets
  obtain ⟨a, b, c, d, rfl⟩ := List.length_eq_four.mp hbytes
  let numbers := [a.toNat, b.toNat, c.toNat, d.toNat]
  let ip := List.intercalate ['.'] (numbers.map (Nat.toDigits 10))
  have hcolon : ':' ∉ ip := by
    have hnone := fun n => notMem_toDigits (c := ':') (by decide) n
    simp [ip, numbers, List.intercalate, hnone]
  have htext : (showAddr (.v4 ⟨[a, b, c, d], hbytes⟩ port)).toList.splitOn ':' =
      [ip, Nat.toDigits 10 port.toNat] := by
    have hlist : (showAddr (.v4 ⟨[a, b, c, d], hbytes⟩ port)).toList =
        List.intercalate [':'] [ip, Nat.toDigits 10 port.toNat] := by
      simp [showAddr, ip, numbers, List.intercalate]
    rw [hlist]
    apply List.splitOn_intercalate
    · simp only [List.mem_cons, List.not_mem_nil, or_false, forall_eq_or_imp, forall_eq]
      exact ⟨hcolon, notMem_toDigits (by decide) _⟩
    · exact List.cons_ne_nil _ _
  have hip : (ip.splitOn '.').mapM readOctet = some numbers := by
    rw [splitOn_digits (by decide) (List.cons_ne_nil _ _)]
    simp [numbers, readOctet_toDigits]
  have hport : readNumber 65536 (Nat.toDigits 10 port.toNat) = some port.toNat :=
    readNumber_toDigits port.toNat_lt
  simp only [readAddr, htext, hip, hport, numbers, UInt8.ofNat_toNat, UInt16.ofNat_toNat]

/-- An address that has been read is read again from its own text. -/
theorem readAddr_showAddr_of_readAddr {s : String} {addr : SocketAddr}
    (h : readAddr s = some addr) : readAddr (showAddr addr) = some addr := by
  have hv4 : ∃ octets port, addr = .v4 octets port := by
    simp only [readAddr] at h
    split at h
    · split at h
      · exact ⟨_, _, (Option.some.inj h).symm⟩
      · cases h
    · cases h
  obtain ⟨octets, port, rfl⟩ := hv4
  exact readAddr_showAddr octets port

/-- The texts of IPv4 addresses. -/
scoped instance addrText : AddrText where
  display := showAddr
  parse := readAddr

/-- The primitives of the standards. -/
scoped instance primitives : Primitives where
  aes128Ctr := aes128Ctr
  sha256 := sha256
  hmacSha256 := hmacSha256
  x25519Public := x25519Public
  x25519 := x25519

end NoPanic.Reference
