/-
# Histories

A history is the list of events of a run, oldest first. `Since` is the past
operator of temporal logic over histories: something started, and nothing has
stopped it from then on. Both conditions may look at the history before their
event, so that an event may mean different things at different times.

What a state machine keeps of its past is usually stated with `Since`, and proved
with its equation at the end of a history.
-/

import Mathlib.Data.List.Induction

namespace NoPanic.Math

universe u

variable {ε : Type u}

/-- Where an event stands in a history with one more event at its end: it is that
last event, or it stood in the history already. -/
theorem snoc_eq_append_cons_iff {es before after : List ε} {e last : ε} :
    es ++ [last] = before ++ e :: after ↔
      (es = before ∧ last = e ∧ after = []) ∨
        ∃ between, after = between ++ [last] ∧ es = before ++ e :: between := by
  constructor
  · intro h
    rcases List.eq_nil_or_concat after with rfl | ⟨between, x, rfl⟩
    · obtain ⟨hes, hlast⟩ := List.append_inj' h rfl
      exact Or.inl ⟨hes, List.singleton_inj.mp hlast, rfl⟩
    · have hsplit : es ++ [last] = (before ++ e :: between) ++ [x] := by simp [h]
      obtain ⟨hes, hlast⟩ := List.append_inj' hsplit rfl
      exact Or.inr ⟨between, by rw [List.singleton_inj.mp hlast, List.concat_eq_append], hes⟩
  · rintro (⟨rfl, rfl, rfl⟩ | ⟨between, rfl, rfl⟩)
    · rfl
    · simp

/-- Some event of the history was a start, and no event after it was a stop. -/
def Since (start stop : List ε → ε → Prop) (es : List ε) : Prop :=
  ∃ before e after, es = before ++ e :: after ∧ start before e ∧
    ∀ between e' rest, after = between ++ e' :: rest → ¬ stop (before ++ e :: between) e'

/-- Nothing has started before the first event. -/
theorem not_since_nil (start stop : List ε → ε → Prop) : ¬ Since start stop [] := by
  rintro ⟨before, e, after, h, -⟩
  simp at h

/-- After one more event: it is a start, or there was one before and this is no stop. -/
theorem since_snoc (start stop : List ε → ε → Prop) (es : List ε) (last : ε) :
    Since start stop (es ++ [last]) ↔
      start es last ∨ Since start stop es ∧ ¬ stop es last := by
  constructor
  · rintro ⟨before, e, after, h, hstart, hstop⟩
    rcases snoc_eq_append_cons_iff.mp h with ⟨rfl, rfl, rfl⟩ | ⟨between, rfl, rfl⟩
    · exact Or.inl hstart
    · refine Or.inr ⟨⟨before, e, between, rfl, hstart, ?_⟩, hstop between last [] rfl⟩
      intro first e' rest hsplit
      exact hstop first e' (rest ++ [last]) (by rw [hsplit]; simp)
  · rintro (hstart | ⟨⟨before, e, after, rfl, hstart, hkept⟩, hlast⟩)
    · exact ⟨es, last, [], rfl, hstart, by simp⟩
    · refine ⟨before, e, after ++ [last], by simp, hstart, ?_⟩
      intro between e' rest hsplit
      rcases snoc_eq_append_cons_iff.mp hsplit with ⟨rfl, rfl, -⟩ | ⟨first, -, hfirst⟩
      · exact hlast
      · exact hkept between e' first hfirst

/-! ## The latest value -/

/-- The last value that an event of the history sets. -/
def latest {α : Type*} (f : List ε → ε → Option α) (es : List ε) : Option α :=
  (es.foldl (fun acc e => (acc.1 ++ [e], (f acc.1 e).or acc.2)) ([], none)).2

@[simp]
theorem latest_nil {α : Type*} (f : List ε → ε → Option α) : latest f [] = none := rfl

/-- After one more event: the value it sets, or else the one from before. -/
@[simp]
theorem latest_snoc {α : Type*} (f : List ε → ε → Option α) (es : List ε) (last : ε) :
    latest f (es ++ [last]) = (f es last).or (latest f es) := by
  have hfst : ∀ es : List ε,
      (es.foldl (fun acc e => (acc.1 ++ [e], (f acc.1 e).or acc.2)) ([], none)).1 = es := by
    intro es
    induction es using List.reverseRecOn with
    | nil => rfl
    | append_singleton es e ih => rw [List.foldl_append, List.foldl_cons, List.foldl_nil, ih]
  rw [latest, List.foldl_append, List.foldl_cons, List.foldl_nil, hfst]
  rfl

end NoPanic.Math
