/-
# Masking with a keystream

A stream cipher in counter mode adds, symbol by symbol, a keystream read from a
position. Symbols form a group of exponent two: masking twice with one symbol
does nothing, and masks commute. From these two laws follow the two facts that
layered encryption rests on: a layer is removed by applying it again at the same
position, and layers may be removed in any order.
-/

import Mathlib.Data.List.Basic

namespace NoPanic.Math

universe u

/-- Symbols with an exclusive or: associative, commutative, and every symbol
cancels itself. -/
class XorMask (α : Type u) extends XorOp α where
  /-- The order of two symbols does not matter. -/
  xor_comm : ∀ a b : α, a ^^^ b = b ^^^ a
  /-- The grouping of three symbols does not matter. -/
  xor_assoc : ∀ a b c : α, (a ^^^ b) ^^^ c = a ^^^ (b ^^^ c)
  /-- A symbol cancels itself. -/
  xor_cancel : ∀ a b : α, (a ^^^ b) ^^^ b = a

instance : XorMask UInt8 where
  xor_comm := UInt8.xor_comm
  xor_assoc := UInt8.xor_assoc
  xor_cancel a b := by rw [UInt8.xor_assoc, UInt8.xor_self, UInt8.xor_zero]

variable {α : Type u} [XorMask α]

/-- Two masks commute. -/
theorem xor_right_comm (a b c : α) : (a ^^^ b) ^^^ c = (a ^^^ c) ^^^ b := by
  rw [XorMask.xor_assoc, XorMask.xor_comm b c, ← XorMask.xor_assoc]

/-- `data` masked with the keystream from position `pos` on. -/
def xorKeystream (ks : Nat → α) : Nat → List α → List α
  | _, [] => []
  | pos, a :: data => (a ^^^ ks pos) :: xorKeystream ks (pos + 1) data

/-- Masking keeps the length. -/
@[simp]
theorem length_xorKeystream (ks : Nat → α) (pos : Nat) (data : List α) :
    (xorKeystream ks pos data).length = data.length := by
  induction data generalizing pos with
  | nil => rfl
  | cons a data ih => simp [xorKeystream, ih]

/-- A layer applied twice at one position disappears. -/
@[simp]
theorem xorKeystream_xorKeystream (ks : Nat → α) (pos : Nat) (data : List α) :
    xorKeystream ks pos (xorKeystream ks pos data) = data := by
  induction data generalizing pos with
  | nil => rfl
  | cons a data ih => simp [xorKeystream, ih, XorMask.xor_cancel]

/-- Two layers may be applied in either order. -/
theorem xorKeystream_comm (ks ks' : Nat → α) (pos pos' : Nat) (data : List α) :
    xorKeystream ks pos (xorKeystream ks' pos' data) =
      xorKeystream ks' pos' (xorKeystream ks pos data) := by
  induction data generalizing pos pos' with
  | nil => rfl
  | cons a data ih => simp [xorKeystream, ih, xor_right_comm a]

/-! ## Changing the data under a layer -/

/-- Two strings masked with each other, symbol by symbol. -/
def xorData : List α → List α → List α :=
  List.zipWith (· ^^^ ·)

/-- Masking two strings of one length with each other keeps that length. -/
theorem length_xorData {first second : List α} (hlen : first.length = second.length) :
    (xorData first second).length = first.length := by
  simp [xorData, hlen]

/-- A change masked into a layered string reaches the data under the layer. -/
theorem xorKeystream_xorData (ks : Nat → α) (pos : Nat) (data delta : List α)
    (hlen : data.length = delta.length) :
    xorKeystream ks pos (xorData data delta) = xorData (xorKeystream ks pos data) delta := by
  induction data generalizing pos delta with
  | nil => rfl
  | cons a data ih =>
      cases delta with
      | nil => simp at hlen
      | cons b delta =>
          have htail := ih (pos + 1) delta (by simpa using hlen)
          simp only [xorData] at htail
          simp [xorKeystream, xorData, xor_right_comm a, htail]

/-- Masking a known string with the difference to another one gives the other. -/
theorem xorData_xorData (first second : List α) (hlen : first.length = second.length) :
    xorData first (xorData first second) = second := by
  induction first generalizing second with
  | nil => simpa [xorData, eq_comm] using hlen
  | cons a first ih =>
      cases second with
      | nil => simp at hlen
      | cons b second =>
          have htail := ih second (by simpa using hlen)
          simp only [xorData] at htail
          simp [xorData, htail, XorMask.xor_comm a, XorMask.xor_cancel]

end NoPanic.Math
