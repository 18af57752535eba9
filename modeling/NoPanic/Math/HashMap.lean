/-
# Hash maps

A hash map is a finite list of entries with distinct keys. The list order is the
order an iteration meets the entries in. Nothing promises that order, so
statements about iterating code range over `Reorder` as well: a map may be
replaced at any time by one with the same entries in another order, and lookups
do not notice.

Lookup, insertion and removal are those of `AList`; this module adds what an
imperative map has besides: retaining the entries that pass a test, and listing
its pairs.
-/

import Mathlib.Data.List.AList

namespace NoPanic.Math

universe u v

/-- A hash map from keys to values. -/
abbrev HashMap (κ : Type u) (ν : Type v) : Type (max u v) := AList fun _ : κ => ν

namespace HashMap

variable {κ : Type u} {ν : Type v}

/-- The pairs of a map, in the order an iteration meets them. -/
def pairs (m : HashMap κ ν) : List (κ × ν) := m.entries.map fun e => (e.1, e.2)

/-- The values of a map, in the order an iteration meets them. -/
def values (m : HashMap κ ν) : List ν := m.entries.map fun e => e.2

/-- Keep exactly the entries that pass a test. -/
def retain (keep : κ → ν → Bool) (m : HashMap κ ν) : HashMap κ ν :=
  ⟨m.entries.filter fun e => keep e.1 e.2, m.nodupKeys.sublist List.filter_sublist⟩

/-- The same entries in another iteration order. -/
def Reorder (m m' : HashMap κ ν) : Prop := m.entries.Perm m'.entries

/-- The keys of a map are distinct. -/
theorem nodup_pairs_fst (m : HashMap κ ν) : (m.pairs.map Prod.fst).Nodup := by
  have h := m.nodupKeys
  simpa [pairs, List.NodupKeys, List.keys, Function.comp_def] using h

variable [DecidableEq κ]

/-- A pair is listed exactly when its key looks up its value. -/
theorem mem_pairs {m : HashMap κ ν} {k : κ} {x : ν} :
    (k, x) ∈ m.pairs ↔ m.lookup k = some x := by
  rw [← Option.mem_def, AList.mem_lookup_iff]
  simp only [pairs, List.mem_map, Prod.mk.injEq]
  constructor
  · rintro ⟨⟨k', x'⟩, hmem, rfl, rfl⟩
    exact hmem
  · exact fun hmem => ⟨⟨k, x⟩, hmem, rfl, rfl⟩

/-- A value is listed exactly when some key looks it up. -/
theorem mem_values {m : HashMap κ ν} {x : ν} :
    x ∈ m.values ↔ ∃ k, m.lookup k = some x := by
  simp only [← mem_pairs, pairs, values, List.mem_map, Prod.mk.injEq]
  constructor
  · rintro ⟨e, hmem, rfl⟩
    exact ⟨e.1, e, hmem, rfl, rfl⟩
  · rintro ⟨k, e, hmem, -, rfl⟩
    exact ⟨e, hmem, rfl⟩

/-- Retaining keeps an entry exactly when it passes the test. -/
theorem lookup_retain (keep : κ → ν → Bool) (m : HashMap κ ν) (k : κ) :
    (m.retain keep).lookup k = (m.lookup k).filter (keep k) := by
  apply Option.ext
  intro x
  rw [← Option.mem_def, AList.mem_lookup_iff]
  simp only [retain, List.mem_filter, Option.filter_eq_some_iff, ← AList.mem_lookup_iff,
    Option.mem_def]

/-- Lookups do not see the iteration order. -/
theorem Reorder.lookup_eq {m m' : HashMap κ ν} (h : Reorder m m') (k : κ) :
    m'.lookup k = m.lookup k :=
  (AList.perm_lookup h).symm

/-- What an insertion leaves under each key. -/
theorem lookup_insert_eq (m : HashMap κ ν) (k k' : κ) (x : ν) :
    (m.insert k x).lookup k' = if k' = k then some x else m.lookup k' := by
  by_cases h : k' = k
  · subst h
    simp [AList.lookup_insert]
  · simp [h, AList.lookup_insert_ne h]

/-- What is left under each key after the value of a present one has been changed. -/
theorem lookup_insert_present {m : HashMap κ ν} {k : κ} {x : ν} (h : m.lookup k = some x)
    (f : ν → ν) (k' : κ) :
    (m.insert k (f x)).lookup k' = if k' = k then (m.lookup k').map f else m.lookup k' := by
  rw [lookup_insert_eq]
  by_cases hk : k' = k
  · rw [if_pos hk, if_pos hk, hk, h]
    rfl
  · rw [if_neg hk, if_neg hk]

/-- The values of a map after an insertion under a new key. -/
theorem values_insert_of_lookup_none {m : HashMap κ ν} {k : κ} (x : ν)
    (h : m.lookup k = none) : values (m.insert k x) = x :: values m := by
  have hk : k ∉ m := AList.lookup_eq_none.mp h
  rw [values, AList.insert_of_notMem hk]
  rfl

/-- What a removal leaves under each key. -/
theorem lookup_erase_eq (m : HashMap κ ν) (k k' : κ) :
    (m.erase k).lookup k' = if k' = k then none else m.lookup k' := by
  by_cases h : k' = k
  · subst h
    simp [AList.lookup_erase]
  · simp [h, AList.lookup_erase_ne h]

end HashMap

end NoPanic.Math
