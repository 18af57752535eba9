/-
# Locks that are taken in an order

Tasks take locks and give them back, and a task that wants a lock waits while another task holds
it. What a task does from one time it holds no lock to the next is a section. Where the locks
have ranks, and a task in a section only ever takes a lock of a higher rank than all it holds, no
tasks wait for each other in a circle: of all the locks that are wanted, whoever holds one of the
highest rank waits for nobody. So whatever has happened so far, all tasks can come to the end of
their sections.

A section is put together from scopes: a lock is taken, something is done, and the lock is given
back. `Balanced` is kept by each way to put sections together.
-/

import NoPanic.Math.TransitionSystem
import Mathlib.Algebra.Order.BigOperators.Group.Finset
import Mathlib.Algebra.Ring.Nat
import Mathlib.Data.Finset.Max

namespace NoPanic.Math

universe u v w

/-- What a task does to a lock. -/
inductive LockOp (L : Type u)
  | take (l : L)
  | give (l : L)

namespace LockOp

variable {L : Type u} [DecidableEq L] {R : Type v} [LinearOrder R]

/-- The locks that a task holds after an operation. -/
def apply (held : List L) : LockOp L → List L
  | .take l => l :: held
  | .give l => held.erase l

/-- The locks that a task holds after several. -/
def after (held : List L) (ops : List (LockOp L)) : List L := ops.foldl apply held

/-- Take a lock, do something, and give it back. -/
def within (l : L) (ops : List (LockOp L)) : List (LockOp L) := .take l :: (ops ++ [.give l])

/-- A task that holds some locks takes more only in their order, and gives back what it holds. -/
def InOrder (rank : L → R) : List L → List (LockOp L) → Prop
  | _, [] => True
  | held, .take l :: ops => (∀ k ∈ held, rank k < rank l) ∧ InOrder rank (l :: held) ops
  | held, .give l :: ops => l ∈ held ∧ InOrder rank (held.erase l) ops

/-- Operations in order that leave the task with the locks it had. -/
structure Balanced (rank : L → R) (held : List L) (ops : List (LockOp L)) : Prop where
  inOrder : InOrder rank held ops
  after_eq : after held ops = held

omit [LinearOrder R] in
@[simp] theorem after_nil (held : List L) : after held [] = held := rfl

variable {rank : L → R} {held : List L} {ops ops' : List (LockOp L)} {l : L}

/-- One part after the other. -/
theorem inOrder_append : InOrder rank held (ops ++ ops') ↔
    InOrder rank held ops ∧ InOrder rank (after held ops) ops' := by
  induction ops generalizing held with
  | nil => exact (and_iff_right trivial).symm
  | cons op ops ih =>
      cases op with
      | take l => exact (and_congr_right fun _ => ih).trans and_assoc.symm
      | give l => exact (and_congr_right fun _ => ih).trans and_assoc.symm

/-- Nothing is done. -/
theorem Balanced.nil : Balanced rank held [] := ⟨trivial, rfl⟩

/-- One balanced part after the other. -/
theorem Balanced.append (h : Balanced rank held ops) (h' : Balanced rank held ops') :
    Balanced rank held (ops ++ ops') := by
  refine ⟨inOrder_append.mpr ⟨h.inOrder, ?_⟩, ?_⟩
  · rw [h.after_eq]
    exact h'.inOrder
  · rw [after, List.foldl_append]
    exact (congrArg (after · ops') h.after_eq).trans h'.after_eq

/-- A balanced part for each of some items. -/
theorem Balanced.flatMap {α : Type*} {items : List α} {f : α → List (LockOp L)}
    (h : ∀ a, Balanced rank held (f a)) : Balanced rank held (items.flatMap f) := by
  induction items with
  | nil => exact .nil
  | cons a items ih =>
      rw [List.flatMap_cons]
      exact (h a).append ih

/-- A scope, where the lock comes after all that are held. -/
theorem Balanced.within (hafter : ∀ k ∈ held, rank k < rank l)
    (h : Balanced rank (l :: held) ops) : Balanced rank held (within l ops) := by
  have hback : (l :: held).erase l = held := List.erase_cons_head ..
  refine ⟨⟨hafter, inOrder_append.mpr ⟨h.inOrder, ?_⟩⟩, ?_⟩
  · rw [h.after_eq]
    exact ⟨List.mem_cons_self, trivial⟩
  · rw [after, LockOp.within, List.foldl_cons, List.foldl_append]
    exact (congrArg (after · [.give l]) h.after_eq).trans hback

end LockOp

/-! ## Tasks -/

/-- What every task has left of its section, and the locks it holds. -/
structure LockState (τ : Type w) (L : Type u) where
  todo : τ → List (LockOp L)
  held : τ → List L

/-- A task begins a section, or it goes on with its own. -/
inductive LockEvent (τ : Type w) (L : Type u)
  | begins (t : τ) (ops : List (LockOp L))
  | goesOn (t : τ)

/-- The steps within sections. -/
def LockEvent.GoesOn {τ : Type w} {L : Type u} : LockEvent τ L → Prop
  | .begins _ _ => False
  | .goesOn _ => True

namespace LockState

section

variable {τ : Type w} {L : Type u} [DecidableEq τ] [DecidableEq L]

/-- No task has begun anything. -/
def start : LockState τ L := ⟨fun _ => [], fun _ => []⟩

/-- A task has done the first of what it has left. -/
def advance (s : LockState τ L) (t : τ) (op : LockOp L) (ops : List (LockOp L)) : LockState τ L :=
  ⟨Function.update s.todo t ops, Function.update s.held t (op.apply (s.held t))⟩

@[simp] theorem todo_advance (s : LockState τ L) (t : τ) (op : LockOp L) (ops : List (LockOp L)) :
    (s.advance t op ops).todo t = ops := Function.update_self ..

@[simp] theorem held_advance (s : LockState τ L) (t : τ) (op : LockOp L) (ops : List (LockOp L)) :
    (s.advance t op ops).held t = op.apply (s.held t) := Function.update_self ..

/-- The other tasks stay where they are. -/
theorem todo_advance_of_ne {s : LockState τ L} {t u : τ} {op : LockOp L} {ops : List (LockOp L)}
    (hne : u ≠ t) : (s.advance t op ops).todo u = s.todo u := Function.update_of_ne hne ..

/-- They keep the locks they hold. -/
theorem held_advance_of_ne {s : LockState τ L} {t u : τ} {op : LockOp L} {ops : List (LockOp L)}
    (hne : u ≠ t) : (s.advance t op ops).held u = s.held u := Function.update_of_ne hne ..

/-- One step of a task. A lock is taken only when nobody holds it. -/
inductive Step (sections : τ → List (LockOp L) → Prop) :
    LockState τ L → LockEvent τ L → LockState τ L → Prop
  | begins {s : LockState τ L} {t : τ} {ops : List (LockOp L)} (hidle : s.todo t = [])
      (hsection : sections t ops) :
      Step sections s (.begins t ops) { s with todo := Function.update s.todo t ops }
  | takes {s : LockState τ L} {t : τ} {l : L} {ops : List (LockOp L)}
      (htodo : s.todo t = .take l :: ops) (hfree : ∀ u, l ∉ s.held u) :
      Step sections s (.goesOn t) (s.advance t (.take l) ops)
  | gives {s : LockState τ L} {t : τ} {l : L} {ops : List (LockOp L)}
      (htodo : s.todo t = .give l :: ops) :
      Step sections s (.goesOn t) (s.advance t (.give l) ops)

/-- The runs of tasks with the sections they may begin. -/
def system (sections : τ → List (LockOp L) → Prop) :
    TransitionSystem (LockState τ L) (LockEvent τ L) where
  init s := s = start
  step := Step sections

/-- A task waits for another one, which holds the lock it wants. -/
def WaitsFor (s : LockState τ L) (t u : τ) : Prop :=
  ∃ l ops, s.todo t = .take l :: ops ∧ l ∈ s.held u

end

variable {τ : Type w} {L : Type u} [DecidableEq L] {R : Type v} [LinearOrder R] {rank : L → R}
  {s s' : LockState τ L}

/-- Every task is in order, finitely many are in a section, and nobody holds a lock that another
task holds. -/
structure Orderly (rank : L → R) (s : LockState τ L) : Prop where
  inOrder : ∀ t, (LockOp.InOrder rank (s.held t) (s.todo t))
  ends : ∀ t, LockOp.after (s.held t) (s.todo t) = []
  active : ∃ tasks : Finset τ, ∀ t, s.todo t ≠ [] → t ∈ tasks
  alone : ∀ t u l, l ∈ s.held t → l ∈ s.held u → t = u

/-- Whoever holds a lock is in a section. -/
theorem Orderly.todo_ne_nil (h : s.Orderly rank) {t : τ} {l : L} (hheld : l ∈ s.held t) :
    s.todo t ≠ [] := by
  intro hidle
  have hends := h.ends t
  rw [hidle, LockOp.after_nil] at hends
  rw [hends] at hheld
  cases hheld

/-- What a task wants to take comes after all it holds. -/
theorem Orderly.rank_lt (h : s.Orderly rank) {t : τ} {k l : L} {ops : List (LockOp L)}
    (htodo : s.todo t = .take l :: ops) (hheld : k ∈ s.held t) : rank k < rank l := by
  have hinOrder := h.inOrder t
  rw [htodo] at hinOrder
  exact hinOrder.1 k hheld

/-! ## No circle -/

/-- Along a chain of tasks that wait for each other the wanted locks go up. -/
theorem Orderly.rank_lt_of_chain (h : s.Orderly rank) {t u : τ}
    (hchain : Relation.TransGen s.WaitsFor t u) {k l : L} {ops ops' : List (LockOp L)}
    (ht : s.todo t = .take k :: ops) (hu : s.todo u = .take l :: ops') : rank k < rank l := by
  induction hchain generalizing l ops' with
  | single hwaits =>
      obtain ⟨k', rest, hk', hheld⟩ := hwaits
      rw [ht] at hk'
      cases hk'
      exact h.rank_lt hu hheld
  | tail hchain hwaits ih =>
      obtain ⟨m, rest, hm, hheld⟩ := hwaits
      exact (ih hm).trans (h.rank_lt hu hheld)

/-- No task waits for itself, not even through others. -/
theorem Orderly.no_circle (h : s.Orderly rank) (t : τ) :
    ¬ Relation.TransGen s.WaitsFor t t := by
  intro hcircle
  have hwants : ∃ l ops, s.todo t = .take l :: ops := by
    obtain ⟨u, hwaits, -⟩ := Relation.TransGen.head'_iff.mp hcircle
    obtain ⟨l, ops, htodo, -⟩ := hwaits
    exact ⟨l, ops, htodo⟩
  obtain ⟨l, ops, htodo⟩ := hwants
  exact lt_irrefl _ (h.rank_lt_of_chain hcircle htodo htodo)

/-- The rank of the lock that a task wants. -/
def wantedRank (rank : L → R) (s : LockState τ L) (t : τ) : WithBot R :=
  match s.todo t with
  | .take l :: _ => (rank l : WithBot R)
  | _ => ⊥

/-! ## Every step keeps the order -/

variable [DecidableEq τ] {sections : τ → List (LockOp L) → Prop}

/-- A task that goes on keeps the order. -/
theorem Orderly.advance (h : s.Orderly rank) {t : τ} {op : LockOp L} {ops : List (LockOp L)}
    (htodo : s.todo t = op :: ops) (halone : ∀ l ∈ op.apply (s.held t), ∀ u, l ∈ s.held u → t = u) :
    (s.advance t op ops).Orderly rank := by
  refine ⟨?_, ?_, ?_, ?_⟩
  · intro u
    by_cases hsame : u = t
    · rw [hsame, todo_advance, held_advance]
      have hinOrder := h.inOrder t
      rw [htodo] at hinOrder
      cases op with
      | take l => exact hinOrder.2
      | give l => exact hinOrder.2
    · rw [todo_advance_of_ne hsame, held_advance_of_ne hsame]
      exact h.inOrder u
  · intro u
    by_cases hsame : u = t
    · rw [hsame, todo_advance, held_advance]
      have hends := h.ends t
      rw [htodo] at hends
      exact hends
    · rw [todo_advance_of_ne hsame, held_advance_of_ne hsame]
      exact h.ends u
  · obtain ⟨tasks, htasks⟩ := h.active
    refine ⟨tasks, ?_⟩
    intro u hactive
    by_cases hsame : u = t
    · exact htasks u (by rw [hsame, htodo]; simp)
    · exact htasks u (by rwa [todo_advance_of_ne hsame] at hactive)
  · intro u v l hu hv
    by_cases hut : u = t
    · by_cases hvt : v = t
      · rw [hut, hvt]
      · rw [hut, held_advance] at hu
        rw [held_advance_of_ne hvt] at hv
        exact hut.trans (halone l hu v hv)
    · rw [held_advance_of_ne hut] at hu
      by_cases hvt : v = t
      · rw [hvt, held_advance] at hv
        exact ((halone l hv u hu).symm.trans hvt.symm)
      · rw [held_advance_of_ne hvt] at hv
        exact h.alone u v l hu hv

/-- Every step keeps the order, where every section is in order. -/
theorem Orderly.step (hsections : ∀ t ops, sections t ops → LockOp.Balanced rank [] ops)
    (h : s.Orderly rank) {e : LockEvent τ L} (hstep : Step sections s e s') : s'.Orderly rank := by
  cases hstep with
  | @begins t ops hidle hsection =>
      have hbalanced := hsections t ops hsection
      have hheld : s.held t = [] := by
        have hends := h.ends t
        rwa [hidle, LockOp.after_nil] at hends
      have hcases : ∀ u, (Function.update s.todo t ops u = s.todo u) ∨
          u = t ∧ Function.update s.todo t ops u = ops := by
        intro u
        by_cases hsame : u = t
        · exact Or.inr ⟨hsame, by rw [hsame, Function.update_self]⟩
        · exact Or.inl (Function.update_of_ne hsame ..)
      refine ⟨?_, ?_, ?_, h.alone⟩
      · intro u
        show LockOp.InOrder rank (s.held u) (Function.update s.todo t ops u)
        rcases hcases u with hkept | ⟨rfl, hnew⟩
        · rw [hkept]
          exact h.inOrder u
        · rw [hnew, hheld]
          exact hbalanced.inOrder
      · intro u
        show LockOp.after (s.held u) (Function.update s.todo t ops u) = []
        rcases hcases u with hkept | ⟨rfl, hnew⟩
        · rw [hkept]
          exact h.ends u
        · rw [hnew, hheld]
          exact hbalanced.after_eq
      · obtain ⟨tasks, htasks⟩ := h.active
        refine ⟨insert t tasks, ?_⟩
        intro u hactive
        rw [Finset.mem_insert]
        rcases hcases u with hkept | ⟨rfl, -⟩
        · exact Or.inr (htasks u (by rwa [← hkept]))
        · exact Or.inl rfl
  | @takes t l ops htodo hfree =>
      refine h.advance htodo ?_
      intro k hk u hu
      rcases List.mem_cons.mp hk with rfl | hheld
      · exact absurd hu (hfree u)
      · exact h.alone t u k hheld hu
  | @gives t l ops htodo =>
      exact h.advance htodo fun k hk u hu => h.alone t u k (List.mem_of_mem_erase hk) hu

/-- So it holds in every reachable state. -/
theorem orderly_of_reachable (hsections : ∀ t ops, sections t ops → LockOp.Balanced rank [] ops)
    (hreach : (system sections).Reachable s) : s.Orderly rank := by
  apply hreach.invariant (Orderly rank)
  · rintro s rfl
    exact ⟨fun _ => trivial, fun _ => rfl, ⟨∅, fun t hactive => absurd rfl hactive⟩,
      fun t u l hheld => by cases hheld⟩
  · intro s e t h hstep
    exact h.step hsections hstep

/-! ## Everybody comes to an end -/

/-- While somebody is in a section, somebody can go on. -/
theorem Orderly.exists_step (sections : τ → List (LockOp L) → Prop) (h : s.Orderly rank) {t : τ}
    (hactive : s.todo t ≠ []) :
    ∃ u op ops, s.todo u = op :: ops ∧ Step sections s (.goesOn u) (s.advance u op ops) := by
  classical
  obtain ⟨tasks, htasks⟩ := h.active
  let busy := tasks.filter fun u => s.todo u ≠ []
  have hbusy : ∀ {u}, s.todo u ≠ [] → u ∈ busy := fun hu => Finset.mem_filter.mpr ⟨htasks _ hu, hu⟩
  -- the one that wants a lock of the highest rank, or else whoever holds that lock
  obtain ⟨u, hu, hmax⟩ := busy.exists_max_image (s.wantedRank rank) ⟨t, hbusy hactive⟩
  have hgives : ∀ {v l ops}, s.todo v = .give l :: ops →
      ∃ u op ops, s.todo u = op :: ops ∧ Step sections s (.goesOn u) (s.advance u op ops) :=
    fun htodo => ⟨_, _, _, htodo, .gives htodo⟩
  cases htodo : s.todo u with
  | nil => exact absurd htodo (Finset.mem_filter.mp hu).2
  | cons op ops =>
      cases op with
      | give l => exact hgives htodo
      | take l =>
          by_cases hfree : ∀ v, l ∉ s.held v
          · exact ⟨u, _, _, htodo, .takes htodo hfree⟩
          · obtain ⟨v, hheld⟩ := not_forall_not.mp hfree
            have hv := h.todo_ne_nil hheld
            cases htodo' : s.todo v with
            | nil => exact absurd htodo' hv
            | cons op' ops' =>
                cases op' with
                | give k => exact hgives htodo'
                | take k =>
                    have hle := hmax v (hbusy hv)
                    rw [wantedRank, wantedRank, htodo, htodo', WithBot.coe_le_coe] at hle
                    exact absurd (h.rank_lt htodo' hheld) hle.not_gt

/-- Whatever has happened so far, all tasks can come to the end of their sections, and then nobody
holds a lock. -/
theorem Orderly.finishes (hsections : ∀ t ops, sections t ops → LockOp.Balanced rank [] ops)
    (h : s.Orderly rank) :
    ∃ es t, ((system sections).restrict fun _ e => e.GoesOn).Run s es t ∧
      ∀ u, t.todo u = [] ∧ t.held u = [] := by
  obtain ⟨tasks, htasks⟩ := h.active
  -- the induction is on all that is left to do
  induction hn : ∑ t ∈ tasks, (s.todo t).length using Nat.strong_induction_on
    generalizing s with
  | _ n ih =>
      by_cases hactive : ∃ t, s.todo t ≠ []
      · obtain ⟨t, ht⟩ := hactive
        obtain ⟨u, op, ops, htodo, hstep⟩ := h.exists_step sections ht
        have hless : ∑ t ∈ tasks, ((s.advance u op ops).todo t).length < n := by
          rw [← hn]
          apply Finset.sum_lt_sum
          · intro v _
            by_cases hsame : v = u
            · rw [hsame, todo_advance, htodo, List.length_cons]
              exact Nat.le_succ _
            · rw [todo_advance_of_ne hsame]
          · refine ⟨u, htasks u (by rw [htodo]; simp), ?_⟩
            rw [todo_advance, htodo, List.length_cons]
            exact Nat.lt_succ_self _
        have htasks' : ∀ v, (s.advance u op ops).todo v ≠ [] → v ∈ tasks := by
          intro v hv
          by_cases hsame : v = u
          · exact htasks v (by rw [hsame, htodo]; simp)
          · exact htasks v (by rwa [todo_advance_of_ne hsame] at hv)
        obtain ⟨es, final, hrun, hfinal⟩ :=
          ih _ hless (h.step hsections hstep) htasks' rfl
        exact ⟨.goesOn u :: es, final, hrun.cons ⟨trivial, hstep⟩, hfinal⟩
      · have hidle : ∀ u, s.todo u = [] := fun u => by_contra fun hu => hactive ⟨u, hu⟩
        refine ⟨[], s, .nil s, ?_⟩
        intro u
        have hends := h.ends u
        rw [hidle u, LockOp.after_nil] at hends
        exact ⟨hidle u, hends⟩

end LockState

end NoPanic.Math
