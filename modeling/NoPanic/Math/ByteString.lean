/-
# Byte strings

Byte strings are lists of bytes; arrays of a fixed length carry their length.
The module fixes the few operations that byte-level code is written in: checked
slices, big-endian integers and the UTF-8 bytes of a string.
-/

import Mathlib.Algebra.Ring.Nat
import Mathlib.Data.List.Basic

namespace NoPanic.Math

/-- A byte string of any length. -/
abbrev Bytes : Type := List UInt8

/-- A byte array of a fixed length. -/
abbrev FixedBytes (n : Nat) : Type := { bytes : Bytes // bytes.length = n }

namespace FixedBytes

/-- The array of zero bytes. -/
def zero (n : Nat) : FixedBytes n := ⟨List.replicate n 0, List.length_replicate⟩

/-- The first `n` bytes of a longer array. -/
def take {m : Nat} (n : Nat) (a : FixedBytes m) (h : n ≤ m) : FixedBytes n :=
  ⟨a.1.take n, by rw [List.length_take, a.2, Nat.min_eq_left h]⟩

/-- The last `n` bytes of an array of `k + n`. -/
def drop {m : Nat} (k n : Nat) (a : FixedBytes m) (h : m = k + n) : FixedBytes n :=
  ⟨a.1.drop k, by rw [List.length_drop, a.2, h, Nat.add_sub_cancel_left]⟩

/-- The big-endian bytes of a number. -/
def ofNat (n x : Nat) : FixedBytes n :=
  ⟨(List.range n).map fun i => UInt8.ofNat (x / 256 ^ (n - 1 - i)), by simp⟩

/-- An array at the front of a byte string is determined by it, and so is what
follows. -/
theorem append_inj {n : Nat} {a b : FixedBytes n} {back back' : Bytes}
    (h : a.1 ++ back = b.1 ++ back') : a = b ∧ back = back' := by
  obtain ⟨hfront, hback⟩ := List.append_inj h (a.2.trans b.2.symm)
  exact ⟨Subtype.ext hfront, hback⟩

end FixedBytes

/-- The bytes of `data` from `start` to before `stop`, when they are in range. -/
def slice? (data : Bytes) (start stop : Nat) : Option Bytes :=
  if start ≤ stop ∧ stop ≤ data.length then some ((data.drop start).take (stop - start))
  else none

/-- A slice in range as an array of its length. -/
def sliceArray? (data : Bytes) (start n : Nat) : Option (FixedBytes n) :=
  if h : start + n ≤ data.length then
    some ⟨(data.drop start).take n, by rw [List.length_take, List.length_drop]; omega⟩
  else none

/-- An array that stands between two parts of a byte string is read back. -/
theorem sliceArray?_append {n : Nat} (front : Bytes) (a : FixedBytes n) (back : Bytes) :
    sliceArray? (front ++ (a.1 ++ back)) front.length n = some a := by
  have h : front.length + n ≤ (front ++ (a.1 ++ back)).length := by
    simp [a.2]
  rw [sliceArray?, dif_pos h]
  congr 1
  apply Subtype.ext
  have htake : (a.1 ++ back).take n = a.1 := List.take_left' a.2
  simpa using htake

/-! ## Big-endian integers -/

/-- The two bytes of a 16-bit integer, most significant first. -/
def beBytes16 (x : UInt16) : FixedBytes 2 := ⟨[(x >>> 8).toUInt8, x.toUInt8], rfl⟩

/-- The 16-bit integer with the given bytes. -/
def ofBe16 (a : FixedBytes 2) : UInt16 :=
  match a.1 with
  | [b1, b0] => UInt16.ofNat (b1.toNat * 256 + b0.toNat)
  | _ => 0

/-- The four bytes of a 32-bit integer, most significant first. -/
def beBytes32 (x : UInt32) : FixedBytes 4 :=
  ⟨[(x >>> 24).toUInt8, (x >>> 16).toUInt8, (x >>> 8).toUInt8, x.toUInt8], rfl⟩

/-- The 32-bit integer with the given bytes. -/
def ofBe32 (a : FixedBytes 4) : UInt32 :=
  match a.1 with
  | [b3, b2, b1, b0] =>
      UInt32.ofNat (((b3.toNat * 256 + b2.toNat) * 256 + b1.toNat) * 256 + b0.toNat)
  | _ => 0

/-- An integer is read back from its bytes. -/
@[simp]
theorem ofBe16_beBytes16 (x : UInt16) : ofBe16 (beBytes16 x) = x := by
  have hx := x.toNat_lt
  have h8 : (8 : UInt16).toNat % 16 = 8 := by decide
  apply UInt16.toNat_inj.mp
  simp only [ofBe16, beBytes16, UInt16.toNat_toUInt8, UInt16.toNat_shiftRight, h8,
    Nat.shiftRight_eq_div_pow, UInt16.toNat_ofNat']
  omega

/-- Two bytes are the bytes of the integer they denote. -/
@[simp]
theorem beBytes16_ofBe16 (a : FixedBytes 2) : beBytes16 (ofBe16 a) = a := by
  obtain ⟨bytes, hlen⟩ := a
  obtain ⟨b1, b0, rfl⟩ := List.length_eq_two.mp hlen
  have h1 := b1.toNat_lt
  have h0 := b0.toNat_lt
  have h8 : (8 : UInt16).toNat % 16 = 8 := by decide
  apply Subtype.ext
  simp only [beBytes16, ofBe16, List.cons.injEq, and_true, ← UInt8.toNat_inj,
    UInt16.toNat_toUInt8, UInt16.toNat_shiftRight, h8, Nat.shiftRight_eq_div_pow,
    UInt16.toNat_ofNat']
  omega

/-- An integer is read back from its bytes. -/
@[simp]
theorem ofBe32_beBytes32 (x : UInt32) : ofBe32 (beBytes32 x) = x := by
  have hx := x.toNat_lt
  have h8 : (8 : UInt32).toNat % 32 = 8 := by decide
  have h16 : (16 : UInt32).toNat % 32 = 16 := by decide
  have h24 : (24 : UInt32).toNat % 32 = 24 := by decide
  apply UInt32.toNat_inj.mp
  simp only [ofBe32, beBytes32, UInt32.toNat_toUInt8, UInt32.toNat_shiftRight, h8, h16, h24,
    Nat.shiftRight_eq_div_pow, UInt32.toNat_ofNat']
  omega

/-- Four bytes are the bytes of the integer they denote. -/
@[simp]
theorem beBytes32_ofBe32 (a : FixedBytes 4) : beBytes32 (ofBe32 a) = a := by
  obtain ⟨bytes, hlen⟩ := a
  match bytes, hlen with
  | [b3, b2, b1, b0], _ =>
      have h3 := b3.toNat_lt
      have h2 := b2.toNat_lt
      have h1 := b1.toNat_lt
      have h0 := b0.toNat_lt
      have h8 : (8 : UInt32).toNat % 32 = 8 := by decide
      have h16 : (16 : UInt32).toNat % 32 = 16 := by decide
      have h24 : (24 : UInt32).toNat % 32 = 24 := by decide
      apply Subtype.ext
      simp only [beBytes32, ofBe32, List.cons.injEq, and_true, ← UInt8.toNat_inj,
        UInt32.toNat_toUInt8, UInt32.toNat_shiftRight, h8, h16, h24, Nat.shiftRight_eq_div_pow,
        UInt32.toNat_ofNat']
      omega

/-! ## Buffers -/

/-- Overwrite the bytes of a buffer from `start` on, when they are in range. -/
def writeSlice (buffer : Bytes) (start : Nat) (source : Bytes) : Bytes :=
  if start + source.length ≤ buffer.length then
    buffer.take start ++ (source ++ buffer.drop (start + source.length))
  else buffer

/-- Writing keeps the size of a buffer. -/
@[simp]
theorem length_writeSlice (buffer : Bytes) (start : Nat) (source : Bytes) :
    (writeSlice buffer start source).length = buffer.length := by
  rw [writeSlice]
  split
  · simp only [List.length_append, List.length_take, List.length_drop]
    omega
  · rfl

/-- Writing over the middle of a buffer. -/
theorem writeSlice_append {front old source : Bytes} (back : Bytes)
    (hlen : old.length = source.length) :
    writeSlice (front ++ (old ++ back)) front.length source = front ++ (source ++ back) := by
  rw [writeSlice, if_pos (by simp [hlen])]
  congr 1
  · exact List.take_left
  · congr 1
    rw [← List.drop_drop, List.drop_left]
    exact List.drop_left' hlen

/-- Writing behind what a buffer of zeros already holds. -/
theorem writeSlice_zeros {front source : Bytes} (n start left : Nat)
    (hstart : front.length = start) (hleft : source.length + left = n) :
    writeSlice (front ++ List.replicate n 0) start source =
      (front ++ source) ++ List.replicate left 0 := by
  have hsplit : List.replicate n (0 : UInt8) =
      List.replicate source.length 0 ++ List.replicate left 0 := by
    rw [List.replicate_append_replicate, hleft]
  rw [hsplit, ← hstart, writeSlice_append _ List.length_replicate, List.append_assoc]

/-- An array that stands at an offset is read there. -/
theorem sliceArray?_of_drop {n : Nat} {data : Bytes} {start : Nat} {a : FixedBytes n}
    {back : Bytes} (hstart : start ≤ data.length) (h : data.drop start = a.1 ++ back) :
    sliceArray? data start n = some a := by
  have hread := sliceArray?_append (data.take start) a back
  rwa [← h, List.take_append_drop, List.length_take, Nat.min_eq_left hstart] at hread

/-! ## UTF-8 -/

/-- The UTF-8 bytes of a string. -/
def asBytes (s : String) : Bytes := s.toUTF8.data.toList

/-- The string with the given UTF-8 bytes, if they are valid. -/
def fromUtf8 (bytes : Bytes) : Option String := String.fromUTF8? ⟨bytes.toArray⟩

/-- The bytes of a string are valid and read back as that string. -/
@[simp]
theorem fromUtf8_asBytes (s : String) : fromUtf8 (asBytes s) = some s := by
  simp [fromUtf8, asBytes, String.fromUTF8?, String.fromUTF8, s.isValidUTF8]

/-- Bytes that are valid UTF-8 are the bytes of the string they denote. -/
theorem asBytes_of_fromUtf8 {bytes : Bytes} {s : String} (h : fromUtf8 bytes = some s) :
    asBytes s = bytes := by
  rw [fromUtf8, String.fromUTF8?] at h
  split at h
  · cases h
    rfl
  · cases h

/-- The bytes of a text are those of its characters. -/
theorem utf8ByteSize_ofList (cs : List Char) :
    (String.ofList cs).utf8ByteSize = (cs.map Char.utf8Size).sum := by
  induction cs with
  | nil => rfl
  | cons c cs ih =>
      have hsplit : String.ofList (c :: cs) = String.singleton c ++ String.ofList cs := by
        apply String.toList_inj.mp
        simp
      rw [hsplit, String.utf8ByteSize_append, String.utf8ByteSize_singleton, ih, List.map_cons,
        List.sum_cons]

/-- A character takes four bytes at most. -/
theorem length_asBytes_le (s : String) : (asBytes s).length ≤ 4 * s.length := by
  have hchars : ∀ cs : List Char, (cs.map Char.utf8Size).sum ≤ 4 * cs.length := by
    intro cs
    induction cs with
    | nil => exact le_refl 0
    | cons c cs ih =>
        have hbyte := c.utf8Size_le_four
        rw [List.map_cons, List.sum_cons, List.length_cons]
        omega
  have hsize : (asBytes s).length = (s.toList.map Char.utf8Size).sum := by
    rw [← utf8ByteSize_ofList, String.ofList_toList]
    rfl
  rw [hsize, ← String.length_toList]
  exact hchars s.toList

/-- What is left of a text when its first `n` bytes are dropped, if a character begins
there. -/
def dropBytes? : List Char → Nat → Option (List Char)
  | cs, 0 => some cs
  | [], _ + 1 => none
  | c :: cs, n + 1 => if c.utf8Size ≤ n + 1 then dropBytes? cs (n + 1 - c.utf8Size) else none

/-- The first `n` bytes of a text, if a character ends there. -/
def takeBytes? : List Char → Nat → Option (List Char)
  | _, 0 => some []
  | [], _ + 1 => none
  | c :: cs, n + 1 =>
      if c.utf8Size ≤ n + 1 then (takeBytes? cs (n + 1 - c.utf8Size)).map (c :: ·) else none

/-- The substring between two byte offsets, if both stand between characters. -/
def substring? (s : String) (start stop : Nat) : Option String :=
  (dropBytes? s.toList start).bind fun cs =>
    (takeBytes? cs (stop - start)).map String.ofList

@[simp]
theorem dropBytes?_zero (cs : List Char) : dropBytes? cs 0 = some cs := by
  cases cs <;> rfl

@[simp]
theorem takeBytes?_zero (cs : List Char) : takeBytes? cs 0 = some [] := by
  cases cs <;> rfl

/-- Dropping bytes in two steps. -/
theorem dropBytes?_add {cs rest : List Char} {m : Nat} (n : Nat)
    (hdrop : dropBytes? cs m = some rest) : dropBytes? cs (m + n) = dropBytes? rest n := by
  induction cs generalizing m with
  | nil =>
      cases m with
      | zero =>
          cases hdrop
          rw [Nat.zero_add]
      | succ m => cases hdrop
  | cons c cs ih =>
      cases m with
      | zero =>
          cases hdrop
          rw [Nat.zero_add]
      | succ m =>
          rw [dropBytes?] at hdrop
          split at hdrop
          · next hfits =>
            rw [Nat.succ_add, dropBytes?, if_pos (by omega), ← ih hdrop]
            congr 1
            omega
          · cases hdrop

end NoPanic.Math
