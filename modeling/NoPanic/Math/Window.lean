/-
# Bounded windows

A window keeps the newest elements of a list, up to a capacity. Pushing onto a full window
drops the oldest element, and so the window stays the end of all that was pushed.

A reader that sees a growing list only through its end can still follow it. It remembers the
key of the newest element it has seen and takes what is newer. When the keys increase along
the list, it takes exactly the end of what has come since, and nothing twice.
-/

import Mathlib.Data.List.DropRight
import Mathlib.Data.List.Dedup
import Mathlib.Order.Lattice

namespace NoPanic.Math

universe u v

variable {α : Type u}

/-- Push an element onto a window, dropping the oldest one if the window is full. -/
def pushBounded (capacity : Nat) (window : List α) (x : α) : List α :=
  (if capacity ≤ window.length then window.tail else window) ++ [x]

/-! ## The end of a list -/

@[simp]
theorem length_rtake (l : List α) (n : Nat) : (l.rtake n).length = min n l.length := by
  rw [List.rtake, List.length_drop]
  omega

/-- The end of a list is a suffix of it. -/
theorem rtake_suffix (l : List α) (n : Nat) : l.rtake n <:+ l := List.drop_suffix _ l

theorem rtake_map {β : Type v} (f : α → β) (l : List α) (n : Nat) :
    (l.map f).rtake n = (l.rtake n).map f := by
  rw [List.rtake, List.rtake, List.length_map, List.map_drop]

/-- A list that is short enough is its own end. -/
theorem rtake_of_length_le {l : List α} {n : Nat} (h : l.length ≤ n) : l.rtake n = l := by
  rw [List.rtake, Nat.sub_eq_zero_of_le h, List.drop_zero]

/-- The end of two lists joined: the end of the second, filled up from the first. -/
theorem rtake_append (l m : List α) (n : Nat) :
    (l ++ m).rtake n = l.rtake (n - m.length) ++ m.rtake n := by
  simp only [List.rtake_eq_reverse_take_reverse, List.reverse_append, List.take_append,
    List.length_reverse]

/-- The end of an end. -/
theorem rtake_rtake (l : List α) (m n : Nat) : (l.rtake m).rtake n = l.rtake (min n m) := by
  simp only [List.rtake_eq_reverse_take_reverse, List.reverse_reverse, List.take_take]

/-- A shorter end is an end of a longer one. -/
theorem rtake_suffix_rtake (l : List α) {m n : Nat} (h : m ≤ n) : l.rtake m <:+ l.rtake n := by
  rw [← Nat.min_eq_left h, ← rtake_rtake]
  exact rtake_suffix _ _

/-- The newest elements, newest first, are the end of the list backwards. -/
theorem take_reverse (l : List α) (n : Nat) : l.reverse.take n = (l.rtake n).reverse := by
  rw [List.rtake_eq_reverse_take_reverse, List.reverse_reverse]

/-- No more than all elements can be at the end. -/
theorem rtake_min_length (l : List α) (n : Nat) : l.rtake (min l.length n) = l.rtake n := by
  rw [List.rtake, List.rtake]
  congr 1
  omega

/-- Which end of a list without repetition is kept matters once the list is too long. -/
theorem take_eq_rtake_iff {l : List α} {n : Nat} (hnodup : l.Nodup) (hn : 1 ≤ n) :
    l.take n = l.rtake n ↔ l.length ≤ n := by
  constructor
  · intro heq
    by_contra hlong
    have hfirst := congrArg (fun m => m[0]?) heq
    simp only [List.rtake, List.getElem?_take_of_lt hn, List.getElem?_drop] at hfirst
    -- the first elements of both ends are two places of the list
    have hplace := (List.getElem?_inj (by omega) hnodup).mp hfirst
    omega
  · intro hshort
    rw [List.take_of_length_le hshort, rtake_of_length_le hshort]

/-- A bounded beginning loses nothing that a later bound would have kept. -/
theorem take_append_take (l m : List α) (n : Nat) : (l.take n ++ m).take n = (l ++ m).take n := by
  rw [List.take_append, List.take_append, List.take_take, Nat.min_self, List.length_take]
  congr 2
  omega

/-- What relates the elements along a list, and along the end of the list with one more
element, does so along all of it. -/
theorem pairwise_snoc_of_rtake {R : α → α → Prop} (htrans : ∀ x y z, R x y → R y z → R x z)
    {l : List α} {x : α} {n : Nat} (hn : 2 ≤ n) (hl : l.Pairwise R)
    (hend : ((l ++ [x]).rtake n).Pairwise R) : (l ++ [x]).Pairwise R := by
  cases l using List.reverseRecOn with
  | nil => exact List.pairwise_singleton R x
  | append_singleton before last =>
      obtain ⟨room, rfl⟩ := Nat.exists_eq_add_of_le' hn
      rw [List.rtake_concat_succ, List.rtake_concat_succ] at hend
      have hlast : R last x := (List.pairwise_append.mp hend).2.2 last (by simp) x (by simp)
      refine List.pairwise_append.mpr ⟨hl, List.pairwise_singleton R x, ?_⟩
      intro y hy z hz
      rw [List.mem_singleton.mp hz]
      rcases List.mem_append.mp hy with hbefore | hy
      · exact htrans y last x ((List.pairwise_append.mp hl).2.2 y hbefore last (by simp)) hlast
      · rw [List.mem_singleton.mp hy]
        exact hlast

/-! ## Pushing -/

/-- A push onto the end of a list, at a capacity, is the end of the longer list. -/
theorem pushBounded_rtake {capacity : Nat} (hcapacity : 1 ≤ capacity) (l : List α) (x : α) :
    pushBounded capacity (l.rtake capacity) x = (l ++ [x]).rtake capacity := by
  obtain ⟨room, rfl⟩ := Nat.exists_eq_add_of_le' hcapacity
  rw [List.rtake_concat_succ, pushBounded, length_rtake]
  congr 1
  split
  · next hfull =>
    -- the window is full, so its first element is the oldest of the list
    rw [List.rtake, List.rtake, List.tail_drop]
    congr 1
    omega
  · next hroom =>
    have hlength : l.length ≤ room := by omega
    rw [rtake_of_length_le hlength, rtake_of_length_le (Nat.le_succ_of_le hlength)]

/-! ## Following a list through its end -/

variable {κ : Type v} {key : α → κ} {start : κ}

/-- The key of the last element, if there is one. -/
def lastKey (key : α → κ) (default : κ) (l : List α) : κ := (l.getLast?.map key).getD default

@[simp]
theorem lastKey_nil (default : κ) : lastKey key default [] = default := rfl

@[simp]
theorem lastKey_snoc (default : κ) (l : List α) (x : α) :
    lastKey key default (l ++ [x]) = key x := by
  rw [lastKey, List.getLast?_concat, Option.map_some, Option.getD_some]

/-- A reader has been shown the elements `received` of a list that was `seen` when it last
looked at the end of it, and remembers the key of the newest. -/
structure Follows (key : α → κ) (start : κ) (width : Nat) (seen received : List α)
    (threshold : κ) : Prop where
  sublist : received.Sublist seen
  suffix : seen.rtake width <:+ received
  threshold_eq : threshold = lastKey key start seen

namespace Follows

variable {width : Nat} {seen received new : List α} {threshold : κ}

/-- A reader that has not looked yet. -/
theorem nil : Follows key start width [] [] start where
  sublist := List.Sublist.refl _
  suffix := by simp
  threshold_eq := rfl

/-- Nothing that a look shows is missing from what has been received. -/
theorem mem_next_iff (h : Follows key start width seen received threshold) {x : α} :
    x ∈ received ++ new.rtake width ↔ x ∈ received ∨ x ∈ (seen ++ new).rtake width := by
  rw [rtake_append, List.mem_append, List.mem_append]
  constructor
  · rintro (hreceived | hnew)
    · exact Or.inl hreceived
    · exact Or.inr (Or.inr hnew)
  · rintro (hreceived | hseen | hnew)
    · exact Or.inl hreceived
    · have hwindow := rtake_suffix_rtake seen (Nat.sub_le width new.length)
      exact Or.inl (h.suffix.subset (hwindow.subset hseen))
    · exact Or.inr hnew

end Follows

/-! ## Keys that increase -/

variable [LinearOrder κ]

/-- Along the list the keys increase, from `start` on. -/
structure Increasing (key : α → κ) (start : κ) (l : List α) : Prop where
  start_le : ∀ x ∈ l, start ≤ key x
  lt : l.Pairwise fun x y => key x < key y

variable {l m : List α}

theorem Increasing.nodup (h : Increasing key start l) : l.Nodup :=
  h.lt.imp fun hlt heq => absurd (congrArg key heq) hlt.ne

theorem Increasing.sublist (h : Increasing key start m) (hsub : l.Sublist m) :
    Increasing key start l :=
  ⟨fun x hx => h.start_le x (hsub.subset hx), h.lt.sublist hsub⟩

/-- What comes later has the greater key. -/
theorem Increasing.key_lt (h : Increasing key start (l ++ m)) {x y : α} (hx : x ∈ l)
    (hy : y ∈ m) : key x < key y := (List.pairwise_append.mp h.lt).2.2 x hx y hy

/-- A key occurs once. -/
theorem Increasing.eq_of_key (h : Increasing key start l) {x y : α} (hx : x ∈ l) (hy : y ∈ l)
    (hkey : key x = key y) : x = y := by
  have hnodup : (l.map key).Nodup := List.pairwise_map.mpr (h.lt.imp fun hlt => hlt.ne)
  exact List.inj_on_of_nodup_map hnodup hx hy hkey

/-- Sorting by the key restores the list, in whatever order its elements come. -/
theorem Increasing.mergeSort_eq_of_perm (h : Increasing key start m) (hperm : l.Perm m) :
    l.mergeSort (fun x y => decide (key x ≤ key y)) = m := by
  have hsorted : (l.mergeSort fun x y => decide (key x ≤ key y)).Pairwise
      fun x y => key x ≤ key y := by
    have hpairwise : (l.mergeSort fun x y => decide (key x ≤ key y)).Pairwise
        fun x y => decide (key x ≤ key y) = true := by
      apply List.pairwise_mergeSort
      · intro x y z hxy hyz
        exact decide_eq_true ((of_decide_eq_true hxy).trans (of_decide_eq_true hyz))
      · intro x y
        simpa using le_total (key x) (key y)
    exact hpairwise.imp fun hle => of_decide_eq_true hle
  have hsame := (List.mergeSort_perm l fun x y => decide (key x ≤ key y)).trans hperm
  refine hsame.eq_of_pairwise ?_ hsorted (h.lt.imp fun hlt => hlt.le)
  intro x y hx hy hxy hyx
  exact h.eq_of_key (hsame.subset hx) hy (le_antisymm hxy hyx)

/-- The first elements above the start are the last elements exactly where the list is short
enough and all of it is above the start, given that its first part is. -/
theorem Increasing.take_filter_eq_rtake_iff {n : Nat} (h : Increasing key start (l ++ m))
    (hl : ∀ x ∈ l, start < key x) (hm : m.length ≤ n) (hn : 1 ≤ n) :
    ((l ++ m).filter fun x => decide (start < key x)).take n = (l ++ m).rtake n ↔
      (l ++ m).length ≤ n ∧ ∀ x ∈ l ++ m, start < key x := by
  have hwhole (habove : ∀ x ∈ l ++ m, start < key x) :
      (l ++ m).filter (fun x => decide (start < key x)) = l ++ m := by
    rw [List.filter_eq_self]
    intro x hx
    exact decide_eq_true (habove x hx)
  constructor
  · intro heq
    have habove : ∀ x ∈ l ++ m, start < key x := by
      intro x hx
      rcases List.mem_append.mp hx with hxl | hxm
      · exact hl x hxl
      cases l with
      | nil =>
          -- nothing came before, so the last elements are all of them
          rw [List.nil_append, rtake_of_length_le hm] at heq
          rw [← heq] at hxm
          exact of_decide_eq_true (List.mem_filter.mp (List.mem_of_mem_take hxm)).2
      | cons y rest =>
          exact (hl y (by simp)).trans (h.key_lt (by simp) hxm)
    rw [hwhole habove] at heq
    exact ⟨(take_eq_rtake_iff h.nodup hn).mp heq, habove⟩
  · rintro ⟨hlength, habove⟩
    rw [hwhole habove]
    exact (take_eq_rtake_iff h.nodup hn).mpr hlength

/-- No key exceeds the last one. -/
theorem Increasing.key_le_lastKey (h : Increasing key start l) {x : α} (hx : x ∈ l) :
    key x ≤ lastKey key start l := by
  cases l using List.reverseRecOn with
  | nil => cases hx
  | append_singleton before last =>
      rw [lastKey_snoc]
      rcases List.mem_append.mp hx with hbefore | hlast
      · exact (h.key_lt hbefore (by simp)).le
      · rw [List.mem_singleton.mp hlast]

namespace Follows

variable {width : Nat} {seen received new : List α} {threshold : κ}

/-- What has come since is newer than the threshold, unless it is no newer than the start. -/
theorem threshold_lt_iff (h : Follows key start width seen received threshold)
    (hinc : Increasing key start (seen ++ new)) {x : α} (hx : x ∈ new) :
    threshold < key x ↔ start < key x := by
  rw [h.threshold_eq]
  cases seen using List.reverseRecOn with
  | nil => rw [lastKey_nil]
  | append_singleton before last =>
      rw [lastKey_snoc]
      have hlast : last ∈ before ++ [last] := by simp
      have hlt := hinc.key_lt hlast hx
      have hstart := hinc.start_le last (List.mem_append_left _ hlast)
      exact iff_of_true hlt (hstart.trans_lt hlt)

/-- What the reader takes from the end of the longer list has all come since. -/
theorem filter_rtake (h : Follows key start width seen received threshold)
    (hinc : Increasing key start (seen ++ new)) :
    ((seen ++ new).rtake width).filter (fun x => decide (threshold < key x)) =
      (new.rtake width).filter fun x => decide (start < key x) := by
  have hold : (seen.rtake (width - new.length)).filter (fun x => decide (threshold < key x)) =
      [] := by
    rw [List.filter_eq_nil_iff]
    intro x hx hlt
    have hle := (hinc.sublist (List.sublist_append_left seen new)).key_le_lastKey
      ((rtake_suffix _ _).subset hx)
    rw [← h.threshold_eq] at hle
    exact absurd (of_decide_eq_true hlt) hle.not_gt
  rw [rtake_append, List.filter_append, hold, List.nil_append]
  apply List.filter_congr
  intro x hx
  rw [decide_eq_decide]
  exact h.threshold_lt_iff hinc ((rtake_suffix _ _).subset hx)

/-- What the reader remembers after it. -/
theorem lastKey_filter (h : Follows key start width seen received threshold)
    (hinc : Increasing key start (seen ++ new)) (hwidth : 1 ≤ width) :
    lastKey key threshold ((new.rtake width).filter fun x => decide (start < key x)) =
      lastKey key start (seen ++ new) := by
  cases new using List.reverseRecOn with
  | nil => rw [List.rtake_nil, List.filter_nil, lastKey_nil, List.append_nil, h.threshold_eq]
  | append_singleton before last =>
      obtain ⟨room, rfl⟩ := Nat.exists_eq_add_of_le' hwidth
      have hlast : last ∈ before ++ [last] := by simp
      rw [List.rtake_concat_succ, List.filter_append, ← List.append_assoc, lastKey_snoc]
      by_cases hkey : start < key last
      · have hpick : [last].filter (fun x => decide (start < key x)) = [last] := by simp [hkey]
        rw [hpick, lastKey_snoc]
      · -- the last element has the first key, so nothing came before it
        have hfirst : key last = start :=
          le_antisymm (not_lt.mp hkey) (hinc.start_le last (by simp))
        have hnone : ∀ x ∈ seen ++ before, False := by
          intro x hx
          rw [← List.append_assoc] at hinc
          have hlt := hinc.key_lt hx (List.mem_singleton_self last)
          have hle := hinc.start_le x (List.mem_append_left _ hx)
          exact absurd (hfirst ▸ hlt) hle.not_gt
        have hnil : seen ++ before = [] := List.eq_nil_iff_forall_not_mem.mpr hnone
        obtain ⟨hseen, hbefore⟩ := List.append_eq_nil_iff.mp hnil
        have hpick : [last].filter (fun x => decide (start < key x)) = [] := by simp [hkey]
        rw [hbefore, List.rtake_nil, List.filter_nil, List.nil_append, hpick, lastKey_nil, hfirst,
          h.threshold_eq, hseen, lastKey_nil]

/-- After a look at the longer list. -/
theorem next (h : Follows key start width seen received threshold)
    (hinc : Increasing key start (seen ++ new)) (hwidth : 1 ≤ width) :
    Follows key start width (seen ++ new) (received ++ new.rtake width)
      (lastKey key threshold ((new.rtake width).filter fun x => decide (start < key x))) where
  sublist := h.sublist.append (rtake_suffix new width).sublist
  suffix := by
    rw [rtake_append]
    have hshorter := rtake_suffix_rtake seen (Nat.sub_le width new.length)
    obtain ⟨front, hfront⟩ := hshorter.trans h.suffix
    exact ⟨front, by rw [← List.append_assoc, hfront]⟩
  threshold_eq := h.lastKey_filter hinc hwidth

end Follows

end NoPanic.Math
