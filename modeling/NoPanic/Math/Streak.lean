/-
# Streaks

The elements of a list that meet a condition may stand next to each other. The streak of
a list is the longest such row at its end, and a list has a row of a length when one
stands anywhere in it. A counter that a bad outcome raises and a good one resets counts
the streak. A flag that goes up once the counter has reached a threshold, and never comes
down, tells whether there has been a row of that length.
-/

import Mathlib.Data.List.DropRight

namespace NoPanic.Math

universe u

variable {α : Type u}

/-- The length of the row at the end of a list. -/
def streak (bad : α → Bool) (l : List α) : Nat := (l.rtakeWhile bad).length

/-- Somewhere in the list so many elements in a row meet the condition. -/
def HasRow (bad : α → Bool) (n : Nat) (l : List α) : Prop :=
  ∃ row : List α, row.length = n ∧ row <:+: l ∧ ∀ x ∈ row, bad x = true

@[simp]
theorem streak_nil (bad : α → Bool) : streak bad [] = 0 := by simp [streak]

/-- After one more element: it prolongs the streak or ends it. -/
@[simp]
theorem streak_snoc (bad : α → Bool) (l : List α) (x : α) :
    streak bad (l ++ [x]) = if bad x then streak bad l + 1 else 0 := by
  rw [streak, List.rtakeWhile_concat]
  split
  · rw [List.length_append, List.length_singleton, streak]
  · rfl

/-- A row at the end of a list is no longer than its streak. -/
theorem length_le_streak {bad : α → Bool} {row l : List α} (hsuffix : row <:+ l)
    (hrow : ∀ x ∈ row, bad x = true) : row.length ≤ streak bad l := by
  induction l using List.reverseRecOn generalizing row with
  | nil => simp [List.suffix_nil.mp hsuffix]
  | append_singleton l x ih =>
      rcases List.suffix_concat_iff.mp hsuffix with rfl | ⟨front, rfl, hfront⟩
      · exact Nat.zero_le _
      · have hx : bad x = true := hrow x (by simp)
        have hle : front.length ≤ streak bad l := by
          apply ih hfront
          intro y hy
          exact hrow y (List.mem_append_left _ hy)
        rw [streak_snoc, if_pos hx, List.length_append, List.length_singleton]
        exact Nat.succ_le_succ hle

/-- The end of a streak is a row. -/
theorem hasRow_of_le_streak {bad : α → Bool} {n : Nat} {l : List α} (hle : n ≤ streak bad l) :
    HasRow bad n l := by
  let trailing := l.rtakeWhile bad
  have hsuffix : trailing.drop (trailing.length - n) <:+ l :=
    (List.drop_suffix _ trailing).trans (List.rtakeWhile_suffix bad l)
  refine ⟨trailing.drop (trailing.length - n), ?_, hsuffix.isInfix, ?_⟩
  · rw [List.length_drop]
    exact Nat.sub_sub_self hle
  · intro x hx
    exact List.mem_rtakeWhile_imp (List.mem_of_mem_drop hx)

/-- The empty list has no row but the empty one. -/
@[simp]
theorem hasRow_nil {bad : α → Bool} {n : Nat} : HasRow bad n [] ↔ n = 0 := by
  constructor
  · rintro ⟨row, rfl, hinfix, -⟩
    rw [List.infix_nil.mp hinfix, List.length_nil]
  · rintro rfl
    exact hasRow_of_le_streak (Nat.zero_le _)

/-- After one more element: there was a row before, or the streak is now long enough. -/
theorem hasRow_snoc {bad : α → Bool} {n : Nat} {l : List α} {x : α} :
    HasRow bad n (l ++ [x]) ↔ HasRow bad n l ∨ n ≤ streak bad (l ++ [x]) := by
  constructor
  · rintro ⟨row, rfl, hinfix, hrow⟩
    rcases List.infix_concat_iff.mp hinfix with hsuffix | hbefore
    · exact Or.inr (length_le_streak hsuffix hrow)
    · exact Or.inl ⟨row, rfl, hbefore, hrow⟩
  · rintro (⟨row, hlength, hinfix, hrow⟩ | hle)
    · exact ⟨row, hlength, hinfix.trans (List.prefix_append l [x]).isInfix, hrow⟩
    · exact hasRow_of_le_streak hle

end NoPanic.Math
