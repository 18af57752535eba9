/-
# Frames of one size in a stream

A stream carries frames that all have one size, with nothing between them, and hands them over in
pieces that need not respect where a frame ends. A string of the stream consists of whole frames
and of a part of one more. That decides what its reader can do: the first `size` symbols are the
first frame, and a string that is shorter has no frame in it.
-/

import Mathlib.Data.List.Basic

namespace NoPanic.Math

universe u

variable {α : Type u}

/-- A string consists of whole frames, and of a part of one more. -/
structure Framed (size : Nat) (frames : List (List α)) (part string : List α) : Prop where
  string : string = frames.flatten ++ part
  frames : ∀ frame ∈ frames, frame.length = size
  part : part.length < size

namespace Framed

variable {size : Nat} {frames : List (List α)} {part string : List α}

/-- Nothing is no frames and no part of one. -/
theorem nil (hsize : 0 < size) : Framed size [] ([] : List α) [] :=
  ⟨rfl, by simp, hsize⟩

/-- More symbols that do not complete a frame. -/
theorem extend (h : Framed size frames part string) {more : List α}
    (hpart : (part ++ more).length < size) : Framed size frames (part ++ more) (string ++ more) :=
  ⟨by rw [h.string, List.append_assoc], h.frames, hpart⟩

/-- The symbols that complete a frame. -/
theorem complete (h : Framed size frames part string) {more : List α}
    (hpart : (part ++ more).length = size) :
    Framed size (frames ++ [part ++ more]) [] (string ++ more) := by
  refine ⟨?_, ?_, ?_⟩
  · rw [h.string, List.flatten_append, List.flatten_singleton, List.append_nil, List.append_assoc]
  · intro frame hframe
    rcases List.mem_append.mp hframe with hbefore | hlast
    · exact h.frames frame hbefore
    · rw [List.mem_singleton.mp hlast]
      exact hpart
  · exact Nat.lt_of_le_of_lt (Nat.zero_le _) h.part

/-- As many symbols as a frame has, at the front, are the first frame. -/
theorem front {first rest : List α} (h : Framed size frames part (first ++ rest))
    (hfirst : first.length = size) :
    ∃ others, frames = first :: others ∧ Framed size others part rest := by
  cases frames with
  | nil =>
      have hlength : (first ++ rest).length = part.length := congrArg List.length h.string
      have hshort := h.part
      rw [List.length_append] at hlength
      omega
  | cons frame others =>
      have hframe : frame.length = size := h.frames frame List.mem_cons_self
      have hsplit : first ++ rest = frame ++ (others.flatten ++ part) := by
        rw [h.string, List.flatten_cons, List.append_assoc]
      obtain ⟨rfl, hrest⟩ := List.append_inj hsplit (hfirst.trans hframe.symm)
      exact ⟨others, rfl, hrest, fun f hf => h.frames f (List.mem_cons_of_mem _ hf), h.part⟩

/-- A string that is shorter than a frame is a part of one. -/
theorem eq_part (h : Framed size frames part string) (hshort : string.length < size) :
    frames = [] ∧ string = part := by
  cases frames with
  | nil => exact ⟨rfl, h.string⟩
  | cons frame others =>
      have hframe : frame.length = size := h.frames frame List.mem_cons_self
      have hlength := congrArg List.length h.string
      simp only [List.flatten_cons, List.length_append] at hlength
      omega

end Framed

end NoPanic.Math
