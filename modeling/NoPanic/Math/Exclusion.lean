/-
# Picking with exclusion sets

Elements are picked one after the other, and some carry a label that no two
picks may share. A set of excluded labels grows with every pick, and a pick is
free when its label is not excluded yet. Elements without a label are exempt.

The order of the picks is not the order a caller lists them in, so the result is
stated for any permutation of them. Where a set excludes nothing but the labels of
the picks, an element is free exactly when it shares no label with a pick.
-/

import Mathlib.Data.Finset.Insert

namespace NoPanic.Math

universe u v

variable {α : Type u} {κ : Type v} (label : α → Option κ)

/-- No two elements of a list carry one label. -/
def Apart (picks : List α) : Prop :=
  picks.Pairwise fun a b => ∀ k, label a = some k → label b ≠ some k

/-- Being apart does not depend on the order of the picks. -/
theorem Apart.perm {picks picks' : List α} (h : Apart label picks) (hperm : picks.Perm picks') :
    Apart label picks' :=
  (hperm.pairwise_iff fun hab k hb ha => hab k ha hb).mp h

variable [DecidableEq κ]

/-- Exclude the label of an element, if it carries one. -/
def exclude (excluded : Finset κ) (a : α) : Finset κ :=
  match label a with
  | some k => insert k excluded
  | none => excluded

/-- The label of an element, if it carries one, is not excluded. -/
def Free (excluded : Finset κ) (a : α) : Prop := ∀ k, label a = some k → k ∉ excluded

/-- The picks so far are apart, and their labels are excluded. -/
structure Separates (excluded : Finset κ) (picks : List α) : Prop where
  /-- No two picks carry one label. -/
  apart : Apart label picks
  /-- Every label of a pick is excluded. -/
  covered : ∀ a ∈ picks, ∀ k, label a = some k → k ∈ excluded

omit [DecidableEq κ] in
/-- Nothing is picked yet. -/
theorem separates_nil (excluded : Finset κ) : Separates label excluded ([] : List α) :=
  ⟨List.Pairwise.nil, by simp⟩

/-- What is excluded stays excluded. -/
theorem mem_exclude_of_mem {excluded : Finset κ} {a : α} {k : κ} (h : k ∈ excluded) :
    k ∈ exclude label excluded a := by
  unfold exclude
  split
  · exact Finset.mem_insert_of_mem h
  · exact h

/-- The label of an element is excluded with it. -/
theorem mem_exclude_self {excluded : Finset κ} {a : α} {k : κ} (h : label a = some k) :
    k ∈ exclude label excluded a := by
  simp [exclude, h]

/-- A free element may be picked. -/
theorem Separates.pick {excluded : Finset κ} {picks : List α} {a : α}
    (h : Separates label excluded picks) (hfree : Free label excluded a) :
    Separates label (exclude label excluded a) (a :: picks) where
  apart := by
    refine List.Pairwise.cons (fun b hb k ha hlabel => ?_) h.apart
    exact hfree k ha (h.covered b hb k hlabel)
  covered b hb k hlabel := by
    rcases List.mem_cons.mp hb with rfl | hb
    · exact mem_exclude_self label hlabel
    · exact mem_exclude_of_mem label (h.covered b hb k hlabel)

omit [DecidableEq κ] in
/-- Exactly the labels of the picks are excluded. -/
def Records (excluded : Finset κ) (picks : List α) : Prop :=
  ∀ k, k ∈ excluded ↔ ∃ a ∈ picks, label a = some k

omit [DecidableEq κ] in
/-- Nothing is picked and nothing is excluded. -/
theorem records_nil : Records label ∅ ([] : List α) := by
  simp [Records]

/-- The set keeps the record when a pick is excluded. -/
theorem Records.pick {excluded : Finset κ} {picks : List α} (h : Records label excluded picks)
    (a : α) : Records label (exclude label excluded a) (a :: picks) := by
  intro k
  rw [List.exists_mem_cons_iff, ← h k]
  constructor
  · intro hk
    unfold exclude at hk
    split at hk
    · next k' hlabel =>
        rcases Finset.mem_insert.mp hk with rfl | hk
        · exact Or.inl hlabel
        · exact Or.inr hk
    · exact Or.inr hk
  · rintro (hlabel | hk)
    · exact mem_exclude_self label hlabel
    · exact mem_exclude_of_mem label hk

omit [DecidableEq κ] in
/-- An element is free exactly when it shares no label with a pick. -/
theorem Records.free_iff {excluded : Finset κ} {picks : List α} {a : α}
    (h : Records label excluded picks) :
    Free label excluded a ↔ ∀ b ∈ picks, ∀ k, label b = some k → label a ≠ some k := by
  constructor
  · intro hfree b hb k hlabel ha
    exact hfree k ha ((h k).mpr ⟨b, hb, hlabel⟩)
  · intro hapart k ha hk
    obtain ⟨b, hb, hlabel⟩ := (h k).mp hk
    exact hapart b hb k hlabel ha

end NoPanic.Math
