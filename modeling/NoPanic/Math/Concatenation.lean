/-
# Concatenated encodings

The encodings of a list of values, one after another, with nothing between them. The string
does not say where an encoding ends. It determines the values together with the lengths of
their encodings, and any lengths that fit can be had when every string that is long enough
encodes a value.
-/

import Mathlib.Algebra.Ring.Nat
import Mathlib.Data.List.Basic

namespace NoPanic.Math

universe u v

variable {α : Type u} {β : Type v} {encode : α → List β}

/-- Values at the same place in two lists have encodings of the same length. -/
def SameCut (encode : α → List β) (l l' : List α) : Prop :=
  ∀ (i : Nat) (a b : α), l[i]? = some a → l'[i]? = some b →
    (encode a).length = (encode b).length

theorem SameCut.head {a b : α} {l l' : List α} (h : SameCut encode (a :: l) (b :: l')) :
    (encode a).length = (encode b).length := h 0 a b rfl rfl

theorem SameCut.tail {a b : α} {l l' : List α} (h : SameCut encode (a :: l) (b :: l')) :
    SameCut encode l l' := fun i x y hx hy => h (i + 1) x y hx hy

/-- A string and the lengths of the encodings determine the values. -/
theorem SameCut.eq_of_flatMap (hinj : Function.Injective encode) (hne : ∀ a, encode a ≠ [])
    {l l' : List α} (hcut : SameCut encode l l') (h : l.flatMap encode = l'.flatMap encode) :
    l = l' := by
  induction l generalizing l' with
  | nil =>
      cases l' with
      | nil => rfl
      | cons b rest' =>
          rw [List.flatMap_nil, List.flatMap_cons] at h
          exact absurd (List.append_eq_nil_iff.mp h.symm).1 (hne b)
  | cons a rest ih =>
      cases l' with
      | nil =>
          rw [List.flatMap_nil, List.flatMap_cons] at h
          exact absurd (List.append_eq_nil_iff.mp h).1 (hne a)
      | cons b rest' =>
          rw [List.flatMap_cons, List.flatMap_cons] at h
          obtain ⟨hfirst, hrest⟩ := List.append_inj h hcut.head
          rw [hinj hfirst, ih hcut.tail hrest]

/-- Lists whose strings agree after every value are cut alike. -/
theorem sameCut_of_take {l l' : List α}
    (h : ∀ k, (l.take k).flatMap encode = (l'.take k).flatMap encode) : SameCut encode l l' := by
  intro i a b ha hb
  have hbefore := congrArg List.length (h i)
  have hafter := congrArg List.length (h (i + 1))
  rw [List.take_add_one, List.take_add_one, ha, hb] at hafter
  simp only [Option.toList_some, List.flatMap_append, List.flatMap_singleton,
    List.length_append] at hafter
  omega

/-- Lists whose strings agree after every value are equal. -/
theorem eq_of_flatMap_take (hinj : Function.Injective encode) (hne : ∀ a, encode a ≠ [])
    {l l' : List α} (h : ∀ k, (l.take k).flatMap encode = (l'.take k).flatMap encode) :
    l = l' := by
  refine (sameCut_of_take h).eq_of_flatMap hinj hne ?_
  have hall := h (max l.length l'.length)
  rwa [List.take_of_length_le (Nat.le_max_left _ _),
    List.take_of_length_le (Nat.le_max_right _ _)] at hall

/-- A string can be cut wherever the pieces are long enough to be encodings. -/
theorem exists_of_cut {least : Nat} (hencodes : ∀ s : List β, least ≤ s.length →
    ∃ a, encode a = s) (lengths : List Nat) (hlengths : ∀ n ∈ lengths, least ≤ n) (s : List β)
    (hsum : lengths.sum = s.length) :
    ∃ l : List α, l.flatMap encode = s ∧ l.map (fun a => (encode a).length) = lengths := by
  induction lengths generalizing s with
  | nil =>
      rw [List.sum_nil] at hsum
      exact ⟨[], (List.length_eq_zero_iff.mp hsum.symm).symm, rfl⟩
  | cons n rest ih =>
      rw [List.sum_cons] at hsum
      have hpiece : (s.take n).length = n := by
        rw [List.length_take]
        omega
      obtain ⟨a, ha⟩ := hencodes (s.take n) (by rw [hpiece]; exact hlengths n (by simp))
      obtain ⟨l, hl, hcut⟩ := ih (fun m hm => hlengths m (List.mem_cons_of_mem _ hm)) (s.drop n)
        (by rw [List.length_drop]; omega)
      refine ⟨a :: l, ?_, ?_⟩
      · rw [List.flatMap_cons, ha, hl, List.take_append_drop]
      · rw [List.map_cons, ha, hpiece, hcut]

end NoPanic.Math
