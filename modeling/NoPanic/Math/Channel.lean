/-
# Stateful channels

Two ends of a link keep equal states and change them with every message: one end
encodes, the other decodes, and what was encoded in some state decodes in that
state. From this one law it follows that a whole sequence is recovered, and that
the reader of an unfinished delivery has recovered a part from the start of the
sequence and will recover the next element from the next message.
-/

import Mathlib.Data.List.Basic

namespace NoPanic.Math

universe u v w

/-- Two ends that encode and decode over equal states. -/
structure Channel (σ : Type u) (α : Type v) (β : Type w) where
  /-- Encode a value, and advance. -/
  encode : σ → α → σ × β
  /-- Decode a message, and advance. A message may be refused. -/
  decode : σ → β → σ × Option α
  /-- What is encoded in a state decodes in that state, and both ends advance
  alike. -/
  decode_encode : ∀ s a, decode s (encode s a).2 = ((encode s a).1, some a)

namespace Channel

variable {σ : Type u} {α : Type v} {β : Type w} (C : Channel σ α β)

/-- Encode a sequence. -/
def encodeAll : σ → List α → σ × List β
  | s, [] => (s, [])
  | s, a :: as =>
      let first := C.encode s a
      let rest := encodeAll first.1 as
      (rest.1, first.2 :: rest.2)

/-- Decode a sequence, refusals included. -/
def decodeAll : σ → List β → σ × List (Option α)
  | s, [] => (s, [])
  | s, b :: bs =>
      let first := C.decode s b
      let rest := decodeAll first.1 bs
      (rest.1, first.2 :: rest.2)

@[simp]
theorem encodeAll_nil (s : σ) : C.encodeAll s [] = (s, []) := rfl

@[simp]
theorem encodeAll_singleton (s : σ) (a : α) :
    C.encodeAll s [a] = ((C.encode s a).1, [(C.encode s a).2]) := rfl

/-- Encoding continues where it stopped. -/
theorem encodeAll_append (s : σ) (first second : List α) :
    C.encodeAll s (first ++ second) =
      ((C.encodeAll (C.encodeAll s first).1 second).1,
        (C.encodeAll s first).2 ++ (C.encodeAll (C.encodeAll s first).1 second).2) := by
  induction first generalizing s with
  | nil => rfl
  | cons a first ih => simp [encodeAll, ih]

@[simp]
theorem length_encodeAll (s : σ) (as : List α) : (C.encodeAll s as).2.length = as.length := by
  induction as generalizing s with
  | nil => rfl
  | cons a as ih => simp [encodeAll, ih]

/-- Every message of an encoded sequence encodes one of its elements in some state. -/
theorem exists_of_mem_encodeAll {s : σ} {as : List α} {b : β} (h : b ∈ (C.encodeAll s as).2) :
    ∃ s', ∃ a ∈ as, b = (C.encode s' a).2 := by
  induction as generalizing s with
  | nil => cases h
  | cons a as ih =>
      rcases List.mem_cons.mp h with hfirst | hrest
      · exact ⟨s, a, List.mem_cons_self, hfirst⟩
      · obtain ⟨s', a', hmem, hb⟩ := ih hrest
        exact ⟨s', a', List.mem_cons_of_mem a hmem, hb⟩

/-- A whole sequence is recovered, and the ends stay at one place. -/
theorem decodeAll_encodeAll (s : σ) (as : List α) :
    C.decodeAll s (C.encodeAll s as).2 = ((C.encodeAll s as).1, as.map some) := by
  induction as generalizing s with
  | nil => rfl
  | cons a as ih => simp [encodeAll, decodeAll, C.decode_encode, ih]

/-- After what has been delivered of a sequence comes the encoding of the next
element. -/
theorem next_of_delivered {s : σ} {done all : List α} {b : β} {rest : List β}
    (hdone : done <+: all)
    (hdelivered : (C.encodeAll s done).2 ++ b :: rest <+: (C.encodeAll s all).2) :
    ∃ a, done ++ [a] <+: all ∧ b = (C.encode (C.encodeAll s done).1 a).2 := by
  obtain ⟨more, rfl⟩ := hdone
  rw [encodeAll_append, List.prefix_append_right_inj] at hdelivered
  cases more with
  | nil => simp at hdelivered
  | cons a more =>
      obtain ⟨rfl, -⟩ := List.cons_prefix_cons.mp hdelivered
      exact ⟨a, ⟨more, by simp⟩, rfl⟩

/-- When everything has been delivered, everything has been decoded. -/
theorem done_of_delivered {s : σ} {done all : List α} (hdone : done <+: all)
    (hdelivered : (C.encodeAll s done).2 = (C.encodeAll s all).2) : done = all := by
  apply hdone.eq_of_length
  rw [← C.length_encodeAll s done, hdelivered, C.length_encodeAll]

end Channel

end NoPanic.Math
