/-
# Pipelines of deterministic transducers

A transducer reads one symbol at a time and answers with a new state and some
output symbols. A line of transducers may be run in two ways: one stage after
the other over a whole input (`chain`), or asynchronously, every stage with an
inbox of its own and taking its next symbol whenever it is scheduled (`Step`).

The central fact is that the schedule does not matter. What has arrived behind
the last stage is always a prefix of what the sequential chain produces, and
once every inbox is empty it is all of it. The invariant that carries this,
`Feeds`, says of each stage which part of its input it has processed.
-/

import Mathlib.Data.List.Basic
import Mathlib.Tactic.Ring

namespace NoPanic.Math

universe u v

/-- A deterministic transducer. -/
structure Transducer (σ : Type u) (α : Type v) where
  /-- The new state and the output for one input symbol. -/
  step : σ → α → σ × List α

namespace Transducer

variable {σ : Type u} {α : Type v} (T : Transducer σ α)

/-- Run a transducer over a whole input. -/
def run : σ → List α → σ × List α
  | s, [] => (s, [])
  | s, a :: input =>
      let first := T.step s a
      let rest := run first.1 input
      (rest.1, first.2 ++ rest.2)

@[simp]
theorem run_nil (s : σ) : T.run s [] = (s, []) := rfl

@[simp]
theorem run_singleton (s : σ) (a : α) : T.run s [a] = T.step s a := by
  simp [run]

/-- A run over two inputs in a row continues from where the first one stopped. -/
theorem run_append (s : σ) (first second : List α) :
    T.run s (first ++ second) =
      ((T.run (T.run s first).1 second).1,
        (T.run s first).2 ++ (T.run (T.run s first).1 second).2) := by
  induction first generalizing s with
  | nil => rfl
  | cons a first ih => simp [run, ih]

/-- Run the stages one after the other, each over the whole output of the one
before it. -/
def chain : List σ → List α → List σ × List α
  | [], input => ([], input)
  | s :: stages, input =>
      let first := T.run s input
      let rest := chain stages first.2
      (first.1 :: rest.1, rest.2)

@[simp]
theorem chain_nil (input : List α) : T.chain [] input = ([], input) := rfl

@[simp]
theorem chain_cons (s : σ) (stages : List σ) (input : List α) :
    T.chain (s :: stages) input =
      ((T.run s input).1 :: (T.chain stages (T.run s input).2).1,
        (T.chain stages (T.run s input).2).2) := rfl

/-- Stages that read nothing stay as they are. -/
@[simp]
theorem chain_no_input (stages : List σ) : T.chain stages [] = (stages, []) := by
  induction stages with
  | nil => rfl
  | cons s stages ih => simp [ih]

/-- A chain over two inputs in a row continues from where the first one
stopped, in every stage at once. -/
theorem chain_append (stages : List σ) (first second : List α) :
    T.chain stages (first ++ second) =
      ((T.chain (T.chain stages first).1 second).1,
        (T.chain stages first).2 ++ (T.chain (T.chain stages first).1 second).2) := by
  induction stages generalizing first second with
  | nil => rfl
  | cons s stages ih => simp [run_append, ih]

@[simp]
theorem length_chain (stages : List σ) (input : List α) :
    (T.chain stages input).1.length = stages.length := by
  induction stages generalizing input with
  | nil => rfl
  | cons s stages ih => simp [ih]

/-- Two lines of stages in a row. -/
theorem chain_stages_append (front back : List σ) (input : List α) :
    T.chain (front ++ back) input =
      ((T.chain front input).1 ++ (T.chain back (T.chain front input).2).1,
        (T.chain back (T.chain front input).2).2) := by
  induction front generalizing input with
  | nil => rfl
  | cons s front ih => simp [ih]

/-- More input gives more output. -/
theorem chain_mono (stages : List σ) {first second : List α} (h : first <+: second) :
    (T.chain stages first).2 <+: (T.chain stages second).2 := by
  obtain ⟨rest, rfl⟩ := h
  rw [chain_append]
  exact List.prefix_append _ _

/-! ### Simulation -/

/-- What a transducer needs to be seen as another one through `view`: its states
meet `P`, its symbols `Q`, and both are kept. -/
def SeenAs {τ : Type*} (U : Transducer τ α) (view : σ → τ) (P : σ → Prop) (Q : α → Prop) : Prop :=
  ∀ s a, P s → Q a →
    U.step (view s) a = (view (T.step s a).1, (T.step s a).2) ∧ P (T.step s a).1 ∧
      ∀ b ∈ (T.step s a).2, Q b

variable {T}

/-- A simulation carries over to whole inputs. -/
theorem SeenAs.run {τ : Type*} {U : Transducer τ α} {view : σ → τ} {P : σ → Prop} {Q : α → Prop}
    (h : SeenAs T U view P Q) {s : σ} (hs : P s) {input : List α} (hinput : ∀ a ∈ input, Q a) :
    U.run (view s) input = (view (T.run s input).1, (T.run s input).2) ∧ P (T.run s input).1 ∧
      ∀ b ∈ (T.run s input).2, Q b := by
  induction input generalizing s with
  | nil => exact ⟨rfl, hs, by simp⟩
  | cons a input ih =>
      obtain ⟨hstep, hnext, hout⟩ := h s a hs (hinput a (by simp))
      obtain ⟨hrun, hlast, hrest⟩ := ih hnext fun b hb => hinput b (by simp [hb])
      refine ⟨by simp [Transducer.run, hstep, hrun], hlast, fun b hb => ?_⟩
      rcases List.mem_append.mp hb with hb | hb
      · exact hout b hb
      · exact hrest b hb

/-- A simulation carries over to lines of stages. -/
theorem SeenAs.chain {τ : Type*} {U : Transducer τ α} {view : σ → τ} {P : σ → Prop}
    {Q : α → Prop} (h : SeenAs T U view P Q) {stages : List σ} (hstages : ∀ s ∈ stages, P s)
    {input : List α} (hinput : ∀ a ∈ input, Q a) :
    (T.chain stages input).2 = (U.chain (stages.map view) input).2 := by
  induction stages generalizing input with
  | nil => rfl
  | cons s stages ih =>
      obtain ⟨hrun, -, hout⟩ := h.run (hstages s (by simp)) hinput
      simp only [List.map_cons, chain_cons, hrun]
      exact ih (fun t ht => hstages t (by simp [ht])) hout

end Transducer

/-! ## Asynchronous stages -/

/-- A stage with the symbols that wait in front of it. -/
structure Stage (σ : Type u) (α : Type v) where
  /-- Where the transducer stands. -/
  state : σ
  /-- What it has not read yet, oldest first. -/
  inbox : List α

namespace Pipeline

variable {σ : Type u} {α : Type v} (T : Transducer σ α)

/-- Hand symbols to the first stage of a line, or to the sink behind an empty
line. The sink remembers everything that has arrived. -/
def feed : List (Stage σ α) → List α → List α → List (Stage σ α) × List α
  | [], arrived, output => ([], arrived ++ output)
  | stage :: stages, arrived, output =>
      ({ stage with inbox := stage.inbox ++ output } :: stages, arrived)

/-- One stage, anywhere in the line, reads the oldest symbol of its inbox. -/
inductive Step : List (Stage σ α) × List α → List (Stage σ α) × List α → Prop
  | read (front : List (Stage σ α)) (s : σ) (a : α) (inbox : List α)
      (back : List (Stage σ α)) (arrived : List α) :
      Step (front ++ ⟨s, a :: inbox⟩ :: back, arrived)
        (front ++ ⟨(T.step s a).1, inbox⟩ :: (feed back arrived (T.step s a).2).1,
          (feed back arrived (T.step s a).2).2)

/-- Every stage has processed a prefix of its input: `input` is all that was
ever handed to the line, `starts` are the states the stages started in, and
`arrived` is all that has left the line. -/
def Feeds : List σ → List (Stage σ α) → List α → List α → Prop
  | [], [], input, arrived => arrived = input
  | s :: starts, stage :: stages, input, arrived =>
      ∃ done, input = done ++ stage.inbox ∧ stage.state = (T.run s done).1 ∧
        Feeds starts stages (T.run s done).2 arrived
  | _, _, _, _ => False

/-- What has arrived before does not matter to where symbols go. -/
theorem feed_append (stages : List (Stage σ α)) (before arrived output : List α) :
    feed stages (before ++ arrived) output =
      ((feed stages arrived output).1, before ++ (feed stages arrived output).2) := by
  cases stages <;> simp [feed]

/-- Handing in nothing changes nothing. -/
@[simp]
theorem feed_nil (stages : List (Stage σ α)) (arrived : List α) :
    feed stages arrived [] = (stages, arrived) := by
  cases stages <;> simp [feed]

variable {T}

/-- What has arrived before does not matter to a read. -/
theorem Step.append_arrived {stages : List (Stage σ α)} {arrived : List α}
    {after : List (Stage σ α) × List α} (hstep : Step T (stages, arrived) after)
    (before : List α) :
    Step T (stages, before ++ arrived) (after.1, before ++ after.2) := by
  obtain ⟨front, s, a, inbox, back, arrived⟩ := hstep
  have hread := Step.read (T := T) front s a inbox back (before ++ arrived)
  rwa [feed_append] at hread

/-- Every symbol on its way or arrived meets a condition. -/
def Holds (P : α → Prop) (line : List (Stage σ α) × List α) : Prop :=
  (∀ stage ∈ line.1, ∀ a ∈ stage.inbox, P a) ∧ ∀ a ∈ line.2, P a

/-- Symbols that meet a condition may be handed in. -/
theorem Holds.feed {P : α → Prop} {stages : List (Stage σ α)} {arrived output : List α}
    (h : Holds P (stages, arrived)) (houtput : ∀ a ∈ output, P a) :
    Holds P (feed stages arrived output) := by
  cases stages with
  | nil =>
      refine ⟨h.1, fun a ha => ?_⟩
      rcases List.mem_append.mp ha with ha | ha
      · exact h.2 a ha
      · exact houtput a ha
  | cons stage stages =>
      refine ⟨fun stage' hstage a ha => ?_, h.2⟩
      rcases List.mem_cons.mp hstage with rfl | hstage
      · rcases List.mem_append.mp ha with ha | ha
        · exact h.1 stage (by simp) a ha
        · exact houtput a ha
      · exact h.1 stage' (by simp [hstage]) a ha

/-- The sink may take its oldest symbol away. -/
theorem Holds.read {P : α → Prop} {stages : List (Stage σ α)} {arrived rest : List α} {a : α}
    (h : Holds P (stages, arrived)) (harrived : arrived = a :: rest) : Holds P (stages, rest) :=
  ⟨h.1, fun b hb => h.2 b (harrived ▸ List.mem_cons_of_mem a hb)⟩

/-- A condition that the transducer keeps holds of everything on its way. -/
theorem Holds.step {P : α → Prop} (hkeep : ∀ s a, P a → ∀ b ∈ (T.step s a).2, P b)
    {before after : List (Stage σ α) × List α} (h : Holds P before)
    (hstep : Step T before after) : Holds P after := by
  obtain ⟨front, s, a, inbox, back, arrived⟩ := hstep
  have hread : P a := h.1 ⟨s, a :: inbox⟩ (by simp) a (by simp)
  have hback : Holds P (back, arrived) :=
    ⟨fun stage hstage => h.1 stage (by simp [hstage]), h.2⟩
  have hfed := hback.feed (hkeep s a hread)
  refine ⟨fun stage hstage b hb => ?_, hfed.2⟩
  rcases List.mem_append.mp hstage with hfront | hrest
  · exact h.1 stage (by simp [hfront]) b hb
  · rcases List.mem_cons.mp hrest with rfl | hlater
    · exact h.1 ⟨s, a :: inbox⟩ (by simp) b (by simp [hb])
    · exact hfed.1 stage hlater b hb

/-- Before anything is handed in, nothing has been processed. -/
theorem feeds_start (starts : List σ) :
    Feeds T starts (starts.map fun s => ⟨s, []⟩) [] [] := by
  induction starts with
  | nil => rfl
  | cons s starts ih => exact ⟨[], rfl, rfl, ih⟩

/-- Handing in more symbols keeps the bookkeeping. -/
theorem Feeds.feed {starts : List σ} {stages : List (Stage σ α)} {input arrived : List α}
    (h : Feeds T starts stages input arrived) (output : List α) :
    Feeds T starts (Pipeline.feed stages arrived output).1 (input ++ output)
      (Pipeline.feed stages arrived output).2 := by
  match starts, stages with
  | [], [] =>
      simp only [Feeds] at h
      simp [Pipeline.feed, Feeds, h]
  | s :: starts, stage :: stages =>
      obtain ⟨done, hinput, hstate, hrest⟩ := h
      exact ⟨done, by simp [hinput], hstate, hrest⟩
  | [], _ :: _ => exact h.elim
  | _ :: _, [] => exact h.elim

/-- One read anywhere in the line keeps the bookkeeping. -/
theorem Feeds.step {starts : List σ} {before after : List (Stage σ α) × List α}
    {input : List α} (h : Feeds T starts before.1 input before.2)
    (hstep : Step T before after) : Feeds T starts after.1 input after.2 := by
  obtain ⟨front, s, a, inbox, back, arrived⟩ := hstep
  -- the stages in front of the one that reads keep what they have done
  induction front generalizing starts input with
  | nil =>
      cases starts with
      | nil => exact h.elim
      | cons s₀ starts =>
          obtain ⟨done, hinput, hstate, hrest⟩ := h
          refine ⟨done ++ [a], by simp [hinput], ?_, ?_⟩
          · simp [Transducer.run_append, ← hstate]
          · have hfed := hrest.feed (T.step s a).2
            simpa [Transducer.run_append, ← hstate] using hfed
  | cons stage front ih =>
      cases starts with
      | nil => exact h.elim
      | cons s₀ starts =>
          obtain ⟨done, hinput, hstate, hrest⟩ := h
          exact ⟨done, hinput, hstate, ih hrest⟩

/-- What has arrived is a prefix of what the sequential chain produces. -/
theorem Feeds.arrived_isInitial {starts : List σ} {stages : List (Stage σ α)}
    {input arrived : List α} (h : Feeds T starts stages input arrived) :
    arrived <+: (T.chain starts input).2 := by
  induction starts generalizing stages input with
  | nil =>
      cases stages with
      | nil =>
          simp only [Feeds] at h
          simp [h]
      | cons stage stages => exact h.elim
  | cons s starts ih =>
      cases stages with
      | nil => exact h.elim
      | cons stage stages =>
          obtain ⟨done, hinput, -, hrest⟩ := h
          have hdone : (T.run s done).2 <+: (T.run s input).2 := by
            rw [hinput, Transducer.run_append]
            exact List.prefix_append _ _
          exact (ih hrest).trans (T.chain_mono starts hdone)

/-- Once every inbox is empty the line has done exactly what the sequential
chain does. -/
theorem Feeds.drained {starts : List σ} {stages : List (Stage σ α)}
    {input arrived : List α} (h : Feeds T starts stages input arrived)
    (hempty : ∀ stage ∈ stages, stage.inbox = []) :
    arrived = (T.chain starts input).2 := by
  induction starts generalizing stages input with
  | nil =>
      cases stages with
      | nil =>
          simp only [Feeds] at h
          simp [h]
      | cons stage stages => exact h.elim
  | cons s starts ih =>
      cases stages with
      | nil => exact h.elim
      | cons stage stages =>
          obtain ⟨done, hinput, -, hrest⟩ := h
          have hbox : stage.inbox = [] := hempty stage (by simp)
          have hdone : input = done := by simpa [hbox] using hinput
          subst hdone
          exact ih hrest fun later hlater => hempty later (by simp [hlater])

/-! ### What is still on its way -/

/-- What leaves the line once every stage has read all that waits in front of it, and then
what the stages before it have handed on. -/
def flush (T : Transducer σ α) : List (Stage σ α) → List α → List α
  | [], handed => handed
  | stage :: stages, handed => flush T stages (T.run stage.state (stage.inbox ++ handed)).2

/-- What has arrived and what is still to leave the line are together what the sequential chain
produces. -/
theorem Feeds.flushed {starts : List σ} {stages : List (Stage σ α)} {input arrived : List α}
    (h : Feeds T starts stages input arrived) (handed : List α) :
    arrived ++ flush T stages handed = (T.chain starts (input ++ handed)).2 := by
  induction starts generalizing stages input handed with
  | nil =>
      cases stages with
      | nil =>
          simp only [Feeds] at h
          simp [flush, h]
      | cons stage stages => exact h.elim
  | cons s starts ih =>
      cases stages with
      | nil => exact h.elim
      | cons stage stages =>
          obtain ⟨done, hinput, hstate, hrest⟩ := h
          have hrun : (T.run s (input ++ handed)).2 =
              (T.run s done).2 ++ (T.run stage.state (stage.inbox ++ handed)).2 := by
            rw [hinput, List.append_assoc, Transducer.run_append, hstate]
          rw [flush, ih hrest, Transducer.chain_cons, hrun]

/-- The reads that are left: a symbol is read by the stage it waits in front of, by all behind
it, and at the sink. -/
def pending : List (Stage σ α) → List α → Nat
  | [], arrived => arrived.length
  | stage :: stages, arrived => stage.inbox.length * (stages.length + 2) + pending stages arrived

@[simp]
theorem length_feed (stages : List (Stage σ α)) (arrived output : List α) :
    (feed stages arrived output).1.length = stages.length := by
  cases stages <;> rfl

/-- Every symbol handed in is read once by each stage and once at the sink. -/
theorem pending_feed (stages : List (Stage σ α)) (arrived output : List α) :
    pending (feed stages arrived output).1 (feed stages arrived output).2 =
      pending stages arrived + output.length * (stages.length + 1) := by
  cases stages with
  | nil => simp [feed, pending]
  | cons stage stages =>
      simp only [feed, pending, List.length_append, List.length_cons]
      ring

/-- Nothing is left to read where all inboxes and the sink are empty. -/
theorem pending_eq_zero {stages : List (Stage σ α)} {arrived : List α} :
    pending stages arrived = 0 ↔ arrived = [] ∧ ∀ stage ∈ stages, stage.inbox = [] := by
  induction stages with
  | nil => simp [pending]
  | cons stage stages ih => simp [pending, ih, and_left_comm]

/-- A stage that hands on one symbol at most for each it reads leaves less to read. -/
theorem Step.pending_lt (honce : ∀ s a, (T.step s a).2.length ≤ 1)
    {before after : List (Stage σ α) × List α} (hstep : Step T before after) :
    pending after.1 after.2 < pending before.1 before.2 := by
  obtain ⟨front, s, a, inbox, back, arrived⟩ := hstep
  induction front with
  | nil =>
      have hout := Nat.mul_le_mul_right (back.length + 1) (honce s a)
      simp only [List.nil_append, pending, pending_feed, length_feed, List.length_cons,
        Nat.add_mul, Nat.one_mul] at hout ⊢
      omega
  | cons stage front ih =>
      simp only [List.cons_append, pending, List.length_append, List.length_cons,
        length_feed] at ih ⊢
      exact Nat.add_lt_add_left ih _

end Pipeline

end NoPanic.Math
