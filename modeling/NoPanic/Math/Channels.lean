/-
# Locks, and channels with bounded room

Tasks take locks and write to channels, and each channel is read by one task, or by somebody
outside. A channel has room for some messages; a write to a full channel waits until its reader
reads on, which a task does only where it begins a section.

Where the room has no bound no write ever waits. Then the locks alone decide: seen without its
writes a run is a run of the locks, so that with locks in an order nobody waits in a circle and all
tasks can come to the end of their sections. Where the room has a bound, tasks may wait in a circle
through locks and channels together, and such a circle never opens again.
-/

import NoPanic.Math.LockOrder
import Mathlib.Data.ENat.Basic

namespace NoPanic.Math

universe u v w x

/-- What a task does in a section. -/
inductive ChannelOp (L : Type u) (C : Type x)
  | lock (op : LockOp L)
  | put (c : C)

namespace ChannelOp

variable {L : Type u} {C : Type x}

/-- What is left of a section without its writes. -/
def locks : List (ChannelOp L C) → List (LockOp L)
  | [] => []
  | .lock op :: ops => op :: locks ops
  | .put _ :: ops => locks ops

/-- Take a lock, do something, and give it back. -/
def within (l : L) (ops : List (ChannelOp L C)) : List (ChannelOp L C) :=
  .lock (.take l) :: (ops ++ [.lock (.give l)])

/-- How often a section writes to a channel. -/
def puts [DecidableEq C] (c : C) : List (ChannelOp L C) → Nat
  | [] => 0
  | .lock _ :: ops => puts c ops
  | .put d :: ops => (if d = c then 1 else 0) + puts c ops

@[simp] theorem locks_nil : locks ([] : List (ChannelOp L C)) = [] := rfl

@[simp] theorem locks_lock (op : LockOp L) (ops : List (ChannelOp L C)) :
    locks (.lock op :: ops) = op :: locks ops := rfl

@[simp] theorem locks_put (c : C) (ops : List (ChannelOp L C)) :
    locks (.put c :: ops) = locks ops := rfl

@[simp] theorem locks_append (ops ops' : List (ChannelOp L C)) :
    locks (ops ++ ops') = locks ops ++ locks ops' := by
  induction ops with
  | nil => rfl
  | cons op ops ih =>
      cases op with
      | lock op => exact congrArg (op :: ·) ih
      | put c => exact ih

@[simp] theorem locks_within (l : L) (ops : List (ChannelOp L C)) :
    locks (within l ops) = LockOp.within l (locks ops) := by
  rw [within, locks_lock, locks_append, LockOp.within]
  rfl

theorem puts_append [DecidableEq C] (c : C) (ops ops' : List (ChannelOp L C)) :
    puts c (ops ++ ops') = puts c ops + puts c ops' := by
  induction ops with
  | nil => exact (Nat.zero_add _).symm
  | cons op ops ih =>
      cases op with
      | lock op => exact ih
      | put d => exact (congrArg (_ + ·) ih).trans (Nat.add_assoc ..).symm

end ChannelOp

/-- Where every task stands, the locks it holds, and how many messages every channel has. -/
structure ChannelState (τ : Type w) (L : Type u) (C : Type x) where
  todo : τ → List (ChannelOp L C)
  held : τ → List L
  load : C → Nat

/-- Tasks with their sections, which may begin with a message read from a channel; who reads the
channels, each of which one task reads at most; and which of them somebody outside writes to. -/
structure Channels (τ : Type w) (L : Type u) (C : Type x) where
  sections : τ → Option C → List (ChannelOp L C) → Prop
  reads : C → τ → Prop
  outside : C → Prop
  room : ℕ∞
  reads_of_section : ∀ {t c ops}, sections t (some c) ops → reads c t
  alone : ∀ {c t u}, reads c t → reads c u → t = u

/-- A task begins a section, or it goes on with its own; somebody outside writes or reads. -/
inductive ChannelEvent (τ : Type w) (L : Type u) (C : Type x)
  | begins (t : τ) (source : Option C) (ops : List (ChannelOp L C))
  | goesOn (t : τ)
  | arrives (c : C)
  | leaves (c : C)

/-- The steps within sections. -/
def ChannelEvent.GoesOn {τ : Type w} {L : Type u} {C : Type x} : ChannelEvent τ L C → Prop
  | .goesOn _ => True
  | _ => False

namespace ChannelState

variable {τ : Type w} {L : Type u} {C : Type x}

/-- No task has begun anything, and nothing has been written. -/
def start : ChannelState τ L C := ⟨fun _ => [], fun _ => [], fun _ => 0⟩

/-- The locks, without the channels. -/
def locks (s : ChannelState τ L C) : LockState τ L :=
  ⟨fun t => ChannelOp.locks (s.todo t), s.held⟩

variable [DecidableEq τ] [DecidableEq L] [DecidableEq C]

/-- A message is read, where a section begins with one. -/
def readFrom (load : C → Nat) : Option C → C → Nat
  | none => load
  | some c => Function.update load c (load c - 1)

/-- A task begins a section. -/
def enter (s : ChannelState τ L C) (t : τ) (source : Option C) (ops : List (ChannelOp L C)) :
    ChannelState τ L C :=
  { s with todo := Function.update s.todo t ops, load := readFrom s.load source }

/-- A task has done the first operations of what it has left. -/
def advance (s : ChannelState τ L C) (t : τ) (ops rest : List (ChannelOp L C)) :
    ChannelState τ L C :=
  ⟨Function.update s.todo t rest,
    Function.update s.held t (LockOp.after (s.held t) (ChannelOp.locks ops)),
    fun c => s.load c + ChannelOp.puts c ops⟩

@[simp] theorem todo_advance (s : ChannelState τ L C) (t : τ) (ops rest : List (ChannelOp L C)) :
    (s.advance t ops rest).todo t = rest := Function.update_self ..

@[simp] theorem held_advance (s : ChannelState τ L C) (t : τ) (ops rest : List (ChannelOp L C)) :
    (s.advance t ops rest).held t = LockOp.after (s.held t) (ChannelOp.locks ops) :=
  Function.update_self ..

/-- Operations one after the other. -/
theorem advance_advance (s : ChannelState τ L C) (t : τ) (ops ops' : List (ChannelOp L C))
    (more rest : List (ChannelOp L C)) :
    (s.advance t ops more).advance t ops' rest = s.advance t (ops ++ ops') rest := by
  have hload : ∀ c, s.load c + ChannelOp.puts c ops + ChannelOp.puts c ops' =
      s.load c + ChannelOp.puts c (ops ++ ops') := by
    intro c
    rw [ChannelOp.puts_append, Nat.add_assoc]
  have hheld : LockOp.after (LockOp.after (s.held t) (ChannelOp.locks ops))
      (ChannelOp.locks ops') = LockOp.after (s.held t) (ChannelOp.locks (ops ++ ops')) := by
    rw [ChannelOp.locks_append, LockOp.after, LockOp.after, LockOp.after, List.foldl_append]
  rw [advance, held_advance, hheld]
  show ChannelState.mk (Function.update (Function.update s.todo t more) t rest)
    (Function.update (Function.update s.held t _) t _)
    (fun c => s.load c + ChannelOp.puts c ops + ChannelOp.puts c ops') = _
  rw [Function.update_idem, Function.update_idem, funext hload]
  rfl

/-- The other tasks stay where they are. -/
theorem todo_advance_of_ne {s : ChannelState τ L C} {t u : τ} {ops rest : List (ChannelOp L C)}
    (hne : u ≠ t) : (s.advance t ops rest).todo u = s.todo u := Function.update_of_ne hne ..

/-- They keep the locks they hold. -/
theorem held_advance_of_ne {s : ChannelState τ L C} {t u : τ} {ops rest : List (ChannelOp L C)}
    (hne : u ≠ t) : (s.advance t ops rest).held u = s.held u := Function.update_of_ne hne ..

end ChannelState

namespace Channels

open ChannelState

variable {τ : Type w} {L : Type u} {C : Type x} [DecidableEq τ] [DecidableEq L] [DecidableEq C]
  (M : Channels τ L C)

/-- One step. A lock is taken only when nobody holds it, and a message is written only where there
is room. -/
inductive Step : ChannelState τ L C → ChannelEvent τ L C → ChannelState τ L C → Prop
  | begins {s : ChannelState τ L C} {t : τ} {source : Option C} {ops : List (ChannelOp L C)}
      (hidle : s.todo t = []) (hsection : M.sections t source ops)
      (hsource : ∀ c, source = some c → 0 < s.load c) :
      Step s (.begins t source ops) (s.enter t source ops)
  | takes {s : ChannelState τ L C} {t : τ} {l : L} {rest : List (ChannelOp L C)}
      (htodo : s.todo t = .lock (.take l) :: rest) (hfree : ∀ u, l ∉ s.held u) :
      Step s (.goesOn t) (s.advance t [.lock (.take l)] rest)
  | gives {s : ChannelState τ L C} {t : τ} {l : L} {rest : List (ChannelOp L C)}
      (htodo : s.todo t = .lock (.give l) :: rest) :
      Step s (.goesOn t) (s.advance t [.lock (.give l)] rest)
  | writes {s : ChannelState τ L C} {t : τ} {c : C} {rest : List (ChannelOp L C)}
      (htodo : s.todo t = .put c :: rest) (hroom : (s.load c : ℕ∞) < M.room) :
      Step s (.goesOn t) (s.advance t [.put c] rest)
  | arrives {s : ChannelState τ L C} {c : C} (houtside : M.outside c)
      (hroom : (s.load c : ℕ∞) < M.room) :
      Step s (.arrives c) { s with load := Function.update s.load c (s.load c + 1) }
  | leaves {s : ChannelState τ L C} {c : C} (hunread : ∀ t, ¬ M.reads c t) :
      Step s (.leaves c) { s with load := Function.update s.load c (s.load c - 1) }

/-- The runs of the tasks. -/
def system : TransitionSystem (ChannelState τ L C) (ChannelEvent τ L C) where
  init s := s = start
  step := M.Step

omit [DecidableEq τ] [DecidableEq L] [DecidableEq C] in
/-- A task waits for another one, which holds the lock it wants, or is to read the full channel it
writes to. -/
def WaitsFor (s : ChannelState τ L C) (t u : τ) : Prop :=
  (∃ l rest, s.todo t = .lock (.take l) :: rest ∧ l ∈ s.held u) ∨
    ∃ c rest, s.todo t = .put c :: rest ∧ M.room ≤ s.load c ∧ M.reads c u

/-! ## Without the channels -/

/-- The sections of a task without their writes. -/
def lockSections (t : τ) (ops : List (LockOp L)) : Prop :=
  ∃ source ops', M.sections t source ops' ∧ ChannelOp.locks ops' = ops

variable {M} {s s' : ChannelState τ L C}

omit [DecidableEq L] [DecidableEq C] in
/-- What a task has left, without its writes. -/
theorem todo_update (todo : τ → List (ChannelOp L C)) (t : τ) (ops : List (ChannelOp L C)) :
    (fun u => ChannelOp.locks (Function.update todo t ops u)) =
      Function.update (fun u => ChannelOp.locks (todo u)) t (ChannelOp.locks ops) :=
  Function.comp_update ..

/-- Seen without the channels, every step is a step of the locks or none. -/
theorem Step.locks {e : ChannelEvent τ L C} (hstep : M.Step s e s') :
    s'.locks = s.locks ∨ ∃ e', LockState.Step M.lockSections s.locks e' s'.locks := by
  cases hstep with
  | @begins t source ops hidle hsection hsource =>
      have hbegins : LockState.Step M.lockSections s.locks _ _ :=
        .begins (congrArg ChannelOp.locks hidle) ⟨source, ops, hsection, rfl⟩
      refine Or.inr ⟨.begins t (ChannelOp.locks ops), ?_⟩
      show LockState.Step _ _ _ ⟨fun u => ChannelOp.locks (Function.update s.todo t ops u), s.held⟩
      rw [todo_update]
      exact hbegins
  | @takes t l rest htodo hfree =>
      have htakes : LockState.Step M.lockSections s.locks _ _ :=
        .takes (congrArg ChannelOp.locks htodo) hfree
      refine Or.inr ⟨.goesOn t, ?_⟩
      show LockState.Step _ _ _
        ⟨fun u => ChannelOp.locks (Function.update s.todo t rest u), Function.update s.held t _⟩
      rw [todo_update]
      exact htakes
  | @gives t l rest htodo =>
      have hgives : LockState.Step M.lockSections s.locks _ _ :=
        .gives (congrArg ChannelOp.locks htodo)
      refine Or.inr ⟨.goesOn t, ?_⟩
      show LockState.Step _ _ _
        ⟨fun u => ChannelOp.locks (Function.update s.todo t rest u), Function.update s.held t _⟩
      rw [todo_update]
      exact hgives
  | @writes t c rest htodo hroom =>
      left
      show (⟨fun u => ChannelOp.locks (Function.update s.todo t rest u),
        Function.update s.held t (s.held t)⟩ : LockState τ L) = s.locks
      have hsame : ChannelOp.locks rest = ChannelOp.locks (s.todo t) := by rw [htodo]; rfl
      rw [todo_update, hsame, Function.update_eq_self (f := s.held)]
      exact congrArg (LockState.mk · s.held) (Function.update_eq_self ..)
  | arrives | leaves => exact Or.inl rfl

/-- So it simulates the locks. -/
theorem simulation (M : Channels τ L C) :
    TransitionSystem.Simulation M.system (LockState.system M.lockSections) ChannelState.locks
      fun _ => True :=
  ⟨fun _ hstart => by rw [show _ = _ from hstart]; rfl, fun _ _ _ _ hstep => hstep.locks⟩

/-- Finitely many tasks are in a section. -/
def Finitary (s : ChannelState τ L C) : Prop := ∃ tasks : Finset τ, ∀ t, s.todo t ≠ [] → t ∈ tasks

omit [DecidableEq L] [DecidableEq C] in
/-- One more task at most. -/
theorem finitary_update (h : Finitary s) {t : τ} {rest : List (ChannelOp L C)}
    (htodo : s'.todo = Function.update s.todo t rest) : Finitary s' := by
  obtain ⟨tasks, htasks⟩ := h
  refine ⟨insert t tasks, ?_⟩
  intro u hactive
  rw [Finset.mem_insert]
  by_cases hsame : u = t
  · exact Or.inl hsame
  · rw [htodo, Function.update_of_ne hsame] at hactive
    exact Or.inr (htasks u hactive)

/-- Every step keeps that. -/
theorem Step.finitary {e : ChannelEvent τ L C} (h : Finitary s) (hstep : M.Step s e s') :
    Finitary s' := by
  cases hstep with
  | begins | takes | gives | writes => exact finitary_update h rfl
  | arrives | leaves => exact h

/-- So it holds of every reachable state. -/
theorem finitary_of_reachable (hreach : M.system.Reachable s) : Finitary s := by
  refine hreach.invariant Finitary ?_ fun _ _ _ h hstep => Step.finitary h hstep
  rintro s rfl
  exact ⟨∅, fun t hactive => absurd rfl hactive⟩

section

variable {R : Type v} [LinearOrder R] {rank : L → R}

/-- Every step keeps the locks in order, where every section is. -/
theorem Step.orderly
    (hsections : ∀ t source ops, M.sections t source ops →
      LockOp.Balanced rank [] (ChannelOp.locks ops))
    {e : ChannelEvent τ L C} (h : s.locks.Orderly rank) (hstep : M.Step s e s') :
    s'.locks.Orderly rank := by
  rcases hstep.locks with hsame | ⟨e', hlocks⟩
  · rwa [hsame]
  · refine h.step ?_ hlocks
    rintro t ops ⟨source, ops', hsection, rfl⟩
    exact hsections t source ops' hsection

/-- So they are in every reachable state. -/
theorem orderly_of_reachable
    (hsections : ∀ t source ops, M.sections t source ops →
      LockOp.Balanced rank [] (ChannelOp.locks ops))
    (hreach : M.system.Reachable s) : s.locks.Orderly rank := by
  have hlocks : (LockState.system M.lockSections).Reachable s.locks :=
    M.simulation.reachable (fun _ _ => trivial) (fun _ _ _ _ _ => trivial) hreach
  refine LockState.orderly_of_reachable ?_ hlocks
  rintro t ops ⟨source, ops', hsection, rfl⟩
  exact hsections t source ops' hsection

/-! ## Room without bound -/

omit [DecidableEq τ] [DecidableEq L] [DecidableEq C] in
/-- Where every channel has room, only locks are waited for. -/
theorem WaitsFor.locks {t u : τ} (hroom : M.room = ⊤) (hwaits : M.WaitsFor s t u) :
    s.locks.WaitsFor t u := by
  rcases hwaits with ⟨l, rest, htodo, hheld⟩ | ⟨c, rest, -, hfull, -⟩
  · exact ⟨l, ChannelOp.locks rest, congrArg ChannelOp.locks htodo, hheld⟩
  · rw [hroom, top_le_iff] at hfull
    exact absurd hfull (ENat.natCast_ne_top _)

omit [DecidableEq τ] [DecidableEq C] in
/-- So no task waits for itself, not even through others. -/
theorem no_circle (hroom : M.room = ⊤) (h : s.locks.Orderly rank) (t : τ) :
    ¬ Relation.TransGen (M.WaitsFor s) t t :=
  fun hcircle => h.no_circle t
    (Relation.TransGen.mono (fun _ _ hwaits => WaitsFor.locks hroom hwaits) t t hcircle)

/-- While somebody is in a section, somebody can go on. -/
theorem exists_goesOn (hroom : M.room = ⊤) (h : s.locks.Orderly rank) {t : τ}
    (hactive : s.todo t ≠ []) :
    ∃ u op rest, s.todo u = op :: rest ∧ M.Step s (.goesOn u) (s.advance u [op] rest) := by
  by_cases hwrites : ∃ u c rest, s.todo u = .put c :: rest
  · obtain ⟨u, c, rest, htodo⟩ := hwrites
    exact ⟨u, _, rest, htodo, .writes htodo (hroom ▸ ENat.natCast_lt_top _)⟩
  · -- nobody is to write, so a task that is to do something is to do something to a lock
    have hlock : ∀ u op rest, s.todo u = op :: rest →
        ∃ op', op = .lock op' ∧ s.locks.todo u = op' :: ChannelOp.locks rest := by
      intro u op rest htodo
      cases op with
      | lock op' => exact ⟨op', rfl, congrArg ChannelOp.locks htodo⟩
      | put c => exact absurd ⟨u, c, rest, htodo⟩ hwrites
    obtain ⟨op, rest, htodo⟩ := List.exists_cons_of_ne_nil hactive
    obtain ⟨op', -, hlocks⟩ := hlock t op rest htodo
    obtain ⟨u, lockOp, ops, hu, hstep⟩ :=
      h.exists_step M.lockSections (t := t) (by rw [hlocks]; simp)
    cases htodo' : s.todo u with
    | nil =>
        have hnone : s.locks.todo u = [] := congrArg ChannelOp.locks htodo'
        rw [hnone] at hu
        cases hu
    | cons op rest =>
        obtain ⟨op', rfl, hlocks'⟩ := hlock u op rest htodo'
        obtain ⟨rfl, -⟩ := List.cons.inj (hlocks'.symm.trans hu)
        refine ⟨u, _, rest, htodo', ?_⟩
        cases op' with
        | give l => exact .gives htodo'
        | take l =>
            refine .takes htodo' ?_
            generalize s.locks.advance u (.take l) ops = next at hstep
            cases hstep with
            | takes htakes hfree =>
                obtain ⟨hsame, -⟩ := List.cons.inj (htakes.symm.trans hu)
                cases hsame
                exact hfree
            | gives hgives => cases (List.cons.inj (hgives.symm.trans hu)).1

/-- Whatever has happened so far, all tasks can come to the end of their sections, and then nobody
holds a lock. -/
theorem finishes (hroom : M.room = ⊤)
    (hsections : ∀ t source ops, M.sections t source ops →
      LockOp.Balanced rank [] (ChannelOp.locks ops))
    (hreach : M.system.Reachable s) :
    ∃ es t, (M.system.restrict fun _ e => e.GoesOn).Run s es t ∧
      ∀ u, t.todo u = [] ∧ t.held u = [] := by
  obtain ⟨tasks, htasks⟩ := finitary_of_reachable hreach
  -- every step takes one off what is left to do
  let left (now : ChannelState τ L C) : Nat := ∑ t ∈ tasks, (now.todo t).length
  obtain ⟨es, t, hrun, hevents, ⟨horderly, hactive⟩, hzero⟩ :=
    TransitionSystem.exists_run_to_zero (T := M.system)
      (fun now => now.locks.Orderly rank ∧ ∀ t, now.todo t ≠ [] → t ∈ tasks)
      ChannelEvent.GoesOn left (fun now hnow hleft => by
        obtain ⟨horderly, hactive⟩ := hnow
        obtain ⟨t, -, hbusy⟩ := Finset.exists_ne_zero_of_sum_ne_zero hleft
        obtain ⟨u, op, rest, htodo, hstep⟩ :=
          exists_goesOn hroom horderly (t := t) fun hidle => hbusy (by rw [hidle]; rfl)
        refine ⟨.goesOn u, _, trivial, hstep, ⟨hstep.orderly hsections horderly, ?_⟩, ?_⟩
        · intro v hv
          by_cases hsame : v = u
          · exact hactive v (by rw [hsame, htodo]; simp)
          · exact hactive v (by rwa [todo_advance_of_ne hsame] at hv)
        · apply Finset.sum_lt_sum
          · intro v _
            by_cases hsame : v = u
            · rw [hsame, todo_advance, htodo, List.length_cons]
              exact Nat.le_succ _
            · rw [todo_advance_of_ne hsame]
          · refine ⟨u, hactive u (by rw [htodo]; simp), ?_⟩
            rw [todo_advance, htodo, List.length_cons]
            exact Nat.lt_succ_self _)
      ⟨orderly_of_reachable hsections hreach, htasks⟩
  refine ⟨es, t, hrun.restrict fun e he _ => hevents e he, fun u => ?_⟩
  have hidle : t.todo u = [] := by
    by_contra hbusy
    have hlength := Finset.sum_eq_zero_iff.mp hzero u (hactive u hbusy)
    exact hbusy (List.length_eq_zero_iff.mp hlength)
  have hends : LockOp.after (t.held u) (ChannelOp.locks (t.todo u)) = [] := horderly.ends u
  rw [hidle] at hends
  exact ⟨hidle, hends⟩

end

/-! ## A section that nobody is in the way of -/

section

variable {R : Type v} [LinearOrder R] {rank : L → R}

/-- A task does the first operations of what it has left, where nobody else holds a lock it takes
and there is room for what it writes. -/
theorem exists_run_advance {t : τ} {ops rest : List (ChannelOp L C)}
    (htodo : s.todo t = ops ++ rest)
    (hinOrder : LockOp.InOrder rank (s.held t) (ChannelOp.locks ops))
    (hfree : ∀ l, .take l ∈ ChannelOp.locks ops → ∀ u, u ≠ t → l ∉ s.held u)
    (hroom : ∀ c, ChannelOp.puts c ops ≠ 0 →
      ((s.load c + ChannelOp.puts c ops : ℕ) : ℕ∞) ≤ M.room) :
    ∃ es, M.system.Run s es (s.advance t ops rest) := by
  induction ops generalizing s with
  | nil =>
      have hsame : s.advance t [] rest = s := by
        rw [ChannelState.advance, ← show s.todo t = rest from htodo, Function.update_eq_self]
        exact congrArg (ChannelState.mk s.todo · s.load) (Function.update_eq_self ..)
      rw [hsame]
      exact ⟨[], .nil s⟩
  | cons op ops ih =>
      have hlater : ∀ {u}, u ≠ t → (s.advance t [op] (ops ++ rest)).held u = s.held u :=
        fun hne => held_advance_of_ne hne
      have hload : ∀ c, (s.advance t [op] (ops ++ rest)).load c + ChannelOp.puts c ops =
          s.load c + ChannelOp.puts c (op :: ops) := by
        intro c
        exact (Nat.add_assoc ..).trans (congrArg _ (ChannelOp.puts_append c [op] ops).symm)
      have hnext : LockOp.InOrder rank (LockOp.after (s.held t) (ChannelOp.locks [op]))
            (ChannelOp.locks ops) ∧
          (∀ l, .take l ∈ ChannelOp.locks ops → .take l ∈ ChannelOp.locks (op :: ops)) ∧
          M.Step s (.goesOn t) (s.advance t [op] (ops ++ rest)) := by
        cases op with
        | put c =>
            refine ⟨hinOrder, fun l hmem => hmem, .writes htodo ?_⟩
            have hfits := hroom c (by rw [ChannelOp.puts, if_pos rfl]; omega)
            rw [ChannelOp.puts, if_pos rfl] at hfits
            exact (Nat.cast_lt.mpr (by omega)).trans_le hfits
        | lock op =>
            have hmem : ∀ l, .take l ∈ ChannelOp.locks ops →
                .take l ∈ op :: ChannelOp.locks ops := fun l => List.mem_cons_of_mem _
            cases op with
            | give l => exact ⟨hinOrder.2, hmem, .gives htodo⟩
            | take l =>
                refine ⟨hinOrder.2, hmem, .takes htodo fun u hheld => ?_⟩
                by_cases hsame : u = t
                · subst hsame
                  exact lt_irrefl _ (hinOrder.1 l hheld)
                · exact hfree l (List.mem_cons_self ..) u hsame hheld
      obtain ⟨hinOrder', htakes, hstep⟩ := hnext
      obtain ⟨es, hrun⟩ := ih (s := s.advance t [op] (ops ++ rest)) (todo_advance ..)
        (by rwa [held_advance])
        (fun l hmem u hne => by
          rw [hlater hne]
          exact hfree l (htakes l hmem) u hne)
        (fun c hputs => by
          rw [hload]
          refine hroom c ?_
          rw [show ChannelOp.puts c (op :: ops) = _ from ChannelOp.puts_append c [op] ops]
          omega)
      rw [advance_advance] at hrun
      exact ⟨_, hrun.cons hstep⟩

/-- A task begins a section and does its first operations, where nobody holds a lock it takes and
there is room for what it writes. -/
theorem exists_run_enter {t : τ} {source : Option C} {ops rest : List (ChannelOp L C)}
    (hidle : s.todo t = []) (hheld : s.held t = []) (hsection : M.sections t source (ops ++ rest))
    (hsource : ∀ c, source = some c → 0 < s.load c)
    (hinOrder : LockOp.InOrder rank [] (ChannelOp.locks ops))
    (hfree : ∀ l, .take l ∈ ChannelOp.locks ops → ∀ u, l ∉ s.held u)
    (hroom : ∀ c, ChannelOp.puts c ops ≠ 0 →
      ((readFrom s.load source c + ChannelOp.puts c ops : ℕ) : ℕ∞) ≤ M.room) :
    ∃ es, M.system.Run s es ⟨Function.update s.todo t rest,
      Function.update s.held t (LockOp.after [] (ChannelOp.locks ops)),
      fun c => readFrom s.load source c + ChannelOp.puts c ops⟩ := by
  have hstep : M.Step s (.begins t source (ops ++ rest)) _ := .begins hidle hsection hsource
  have hinOrder' : LockOp.InOrder rank ((s.enter t source (ops ++ rest)).held t)
      (ChannelOp.locks ops) := by
    rwa [show (s.enter t source (ops ++ rest)).held t = [] from hheld]
  obtain ⟨es, hrun⟩ := exists_run_advance (M := M) (Function.update_self ..) hinOrder'
    (fun l hmem u _ => hfree l hmem u) hroom
  have hafter : (s.enter t source (ops ++ rest)).advance t ops rest =
      ⟨Function.update s.todo t rest,
        Function.update s.held t (LockOp.after [] (ChannelOp.locks ops)),
        fun c => readFrom s.load source c + ChannelOp.puts c ops⟩ := by
    rw [ChannelState.advance, show (s.enter t _ _).held t = [] from hheld]
    show ChannelState.mk (Function.update (Function.update s.todo t _) t rest) _ _ = _
    rw [Function.update_idem]
    rfl
  rw [hafter] at hrun
  exact ⟨_, hrun.cons hstep⟩

/-- A task does a whole section that writes one message. -/
theorem exists_run_write {t : τ} {source : Option C} {ops : List (ChannelOp L C)} {c : C}
    (hidle : s.todo t = []) (hheld : s.held t = []) (hsection : M.sections t source ops)
    (hsource : ∀ d, source = some d → 0 < s.load d)
    (hbalanced : LockOp.Balanced rank [] (ChannelOp.locks ops))
    (hfree : ∀ l, .take l ∈ ChannelOp.locks ops → ∀ u, l ∉ s.held u)
    (hputs : ∀ d, ChannelOp.puts d ops = if c = d then 1 else 0)
    (hroom : ((readFrom s.load source c + 1 : ℕ) : ℕ∞) ≤ M.room) :
    ∃ es, M.system.Run s es { s with
      load := Function.update (readFrom s.load source) c (readFrom s.load source c + 1) } := by
  have hwhole : M.sections t source (ops ++ []) := by rwa [List.append_nil]
  obtain ⟨es, hrun⟩ := exists_run_enter (M := M) hidle hheld hwhole hsource hbalanced.inOrder hfree
    (by
      intro d hmore
      have hsame : c = d := by
        by_contra hne
        exact hmore (by rw [hputs, if_neg hne])
      subst hsame
      rwa [hputs, if_pos rfl])
  have hload : (fun d => readFrom s.load source d + ChannelOp.puts d ops) =
      Function.update (readFrom s.load source) c (readFrom s.load source c + 1) := by
    funext d
    rw [hputs]
    by_cases hsame : c = d
    · subst hsame
      rw [if_pos rfl, Function.update_self]
    · rw [if_neg hsame, Function.update_of_ne (Ne.symm hsame)]
      rfl
  rw [hbalanced.after_eq, hload, ← hidle, Function.update_eq_self, ← hheld,
    Function.update_eq_self] at hrun
  exact ⟨es, hrun⟩

end

/-! ## Tasks that wait for each other -/

omit [DecidableEq τ] [DecidableEq L] [DecidableEq C] in
/-- Tasks that wait for one another still do where they have done nothing and none of the channels
they read has been read. -/
theorem waits_kept {tasks : Set τ} (h : ∀ t ∈ tasks, ∃ u ∈ tasks, M.WaitsFor s t u)
    (hsame : ∀ t ∈ tasks, s'.todo t = s.todo t ∧ s'.held t = s.held t)
    (hload : ∀ c, ∀ u ∈ tasks, M.reads c u → s.load c ≤ s'.load c) :
    (∀ t ∈ tasks, s'.todo t = s.todo t) ∧ ∀ t ∈ tasks, ∃ u ∈ tasks, M.WaitsFor s' t u := by
  refine ⟨fun t ht => (hsame t ht).1, fun t ht => ?_⟩
  obtain ⟨u, hu, ⟨l, rest, htodo, hheld⟩ | ⟨c, rest, htodo, hfull, hreads⟩⟩ := h t ht
  · refine ⟨u, hu, Or.inl ⟨l, rest, (hsame t ht).1.trans htodo, ?_⟩⟩
    rw [(hsame u hu).2]
    exact hheld
  · refine ⟨u, hu, Or.inr ⟨c, rest, (hsame t ht).1.trans htodo, hfull.trans ?_, hreads⟩⟩
    exact Nat.cast_le.mpr (hload c u hu hreads)

/-- Where each of some tasks waits for one of them, none of them ever does anything. -/
theorem Step.stuck {tasks : Set τ} (h : ∀ t ∈ tasks, ∃ u ∈ tasks, M.WaitsFor s t u)
    {e : ChannelEvent τ L C} (hstep : M.Step s e s') :
    (∀ t ∈ tasks, s'.todo t = s.todo t) ∧ ∀ t ∈ tasks, ∃ u ∈ tasks, M.WaitsFor s' t u := by
  have hbusy : ∀ t ∈ tasks, s.todo t ≠ [] := by
    intro t ht hidle
    obtain ⟨u, -, ⟨l, rest, htodo, -⟩ | ⟨c, rest, htodo, -⟩⟩ := h t ht
    · rw [hidle] at htodo
      cases htodo
    · rw [hidle] at htodo
      cases htodo
  have hgoesOn : ∀ {t ops rest}, t ∉ tasks → s' = s.advance t ops rest →
      (∀ t ∈ tasks, s'.todo t = s.todo t) ∧ ∀ t ∈ tasks, ∃ u ∈ tasks, M.WaitsFor s' t u := by
    rintro t ops rest hnot rfl
    refine waits_kept h (fun u hu => ?_) fun c _ _ _ => Nat.le_add_right _ _
    have hne : u ≠ t := fun heq => hnot (heq ▸ hu)
    exact ⟨todo_advance_of_ne hne, held_advance_of_ne hne⟩
  cases hstep with
  | @begins t source ops hidle hsection hsource =>
      have hnot : t ∉ tasks := fun ht => hbusy t ht hidle
      have hne : ∀ u ∈ tasks, u ≠ t := by
        rintro u hu rfl
        exact hnot hu
      refine waits_kept h (fun u hu => ⟨Function.update_of_ne (hne u hu) .., rfl⟩) ?_
      intro c u hu hreads
      cases source with
      | none => exact le_rfl
      | some d =>
          have hne : c ≠ d := by
            rintro rfl
            exact hnot (M.alone hreads (M.reads_of_section hsection) ▸ hu)
          exact (Function.update_of_ne hne ..).ge
  | @takes t l rest htodo hfree =>
      refine hgoesOn (fun ht => ?_) rfl
      obtain ⟨u, -, ⟨l', rest', htodo', hheld⟩ | ⟨c, rest', htodo', -⟩⟩ := h t ht
      · cases htodo.symm.trans htodo'
        exact hfree u hheld
      · cases htodo.symm.trans htodo'
  | @gives t l rest htodo =>
      refine hgoesOn (fun ht => ?_) rfl
      obtain ⟨u, -, ⟨l', rest', htodo', -⟩ | ⟨c, rest', htodo', -⟩⟩ := h t ht
      · cases htodo.symm.trans htodo'
      · cases htodo.symm.trans htodo'
  | @writes t c rest htodo hroom =>
      refine hgoesOn (fun ht => ?_) rfl
      obtain ⟨u, -, ⟨l', rest', htodo', -⟩ | ⟨c', rest', htodo', hfull, -⟩⟩ := h t ht
      · cases htodo.symm.trans htodo'
      · cases htodo.symm.trans htodo'
        exact absurd hroom hfull.not_gt
  | @arrives c houtside hroom =>
      refine waits_kept h (fun u hu => ⟨rfl, rfl⟩) fun d u hu hreads => ?_
      by_cases hsame : d = c
      · subst hsame
        show s.load d ≤ Function.update s.load d _ d
        rw [Function.update_self]
        exact Nat.le_succ _
      · exact (Function.update_of_ne hsame ..).ge
  | @leaves c hunread =>
      refine waits_kept h (fun u hu => ⟨rfl, rfl⟩) fun d u hu hreads => ?_
      have hne : d ≠ c := by
        rintro rfl
        exact hunread u hreads
      exact (Function.update_of_ne hne ..).ge

/-- A task that waits for itself through others never does anything again. -/
theorem stuck_of_circle {t : τ} (hcircle : Relation.TransGen (M.WaitsFor s) t t)
    {es : List (ChannelEvent τ L C)} (hrun : M.system.Run s es s') : s'.todo t = s.todo t := by
  let circle : Set τ :=
    {u | Relation.TransGen (M.WaitsFor s) t u ∧ Relation.TransGen (M.WaitsFor s) u t}
  have hwaits : ∀ u ∈ circle, ∃ v ∈ circle, M.WaitsFor s u v := by
    rintro u ⟨hto, hback⟩
    obtain ⟨v, hfirst, hrest⟩ := Relation.TransGen.head'_iff.mp hback
    refine ⟨v, ⟨hto.tail hfirst, ?_⟩, hfirst⟩
    rcases Relation.reflTransGen_iff_eq_or_transGen.mp hrest with rfl | hlonger
    · exact hcircle
    · exact hlonger
  have hkept := hrun.invariant (fun now => (∀ u ∈ circle, now.todo u = s.todo u) ∧
    ∀ u ∈ circle, ∃ v ∈ circle, M.WaitsFor now u v) ⟨fun _ _ => rfl, hwaits⟩ ?_
  · exact hkept.1 t ⟨hcircle, hcircle⟩
  · rintro now e next ⟨hsame, hwait⟩ hstep
    obtain ⟨htodo, hwait'⟩ := Step.stuck hwait hstep
    exact ⟨fun u hu => (htodo u hu).trans (hsame u hu), hwait'⟩

end Channels

end NoPanic.Math
