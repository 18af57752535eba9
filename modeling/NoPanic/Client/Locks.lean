/-
# The locks of the client

The pool has a lock, every circuit has one, and so has the write half of the connection to its
entry relay. The monitor and the selection look at the circuits while they hold the pool, and
whoever sends on a circuit writes while it holds the circuit. A handler that finds its circuit
closed gives the circuit back before it asks for the pool, and the keepalive task copies the list
of circuits and gives the pool back before it writes.

A circuit that is being built is known to nobody else, so building takes no further lock.
-/

import NoPanic.Math.LockOrder

namespace NoPanic

open NoPanic.Math

/-- The locks of a client. A circuit is given by its place on the heap. -/
inductive ClientLock
  | pool
  | circuit (k : Nat)
  /-- The `entry_writer` of a circuit. -/
  | writer (k : Nat)
  deriving DecidableEq, Repr

/-- The tasks of a client. -/
inductive ClientTask
  /-- `spawn_circuit_monitor`. -/
  | monitor
  /-- `spawn_circuit_keepalive`. -/
  | keepalive
  /-- `handle_connection`, for a SOCKS client. -/
  | handler (h : Nat)
  /-- `spawn_circuit_reader`. -/
  | reader (k : Nat)
  | tui
  deriving DecidableEq, Repr

namespace ClientLock

open LockOp

/-- The order in which a task takes its locks. -/
def rank : ClientLock → Nat
  | .pool => 0
  | .circuit _ => 1
  | .writer _ => 2

/-- Look at a circuit, or change it. -/
def visit (k : Nat) : List (LockOp ClientLock) := within (circuit k) []

/-- `send_message`, and the padding of the keepalive task. -/
def send (k : Nat) : List (LockOp ClientLock) := within (circuit k) (within (writer k) [])

/-- Look at some circuits of the pool, one after the other. -/
def scan (ks : List Nat) : List (LockOp ClientLock) := within pool (ks.flatMap visit)

/-- Look for circuits that are dirty, and at these a second time, to count their streams. -/
def findDirty (ks : List (Nat × Bool)) : List (LockOp ClientLock) :=
  within pool (ks.flatMap fun p => if p.2 then visit p.1 ++ visit p.1 else visit p.1)

/-- The sections of every task. -/
inductive TaskSection : ClientTask → List (LockOp ClientLock) → Prop
  | /-- `expire_aged_circuits`, which looks at those that are too old. -/
    expires (ks : List Nat) : TaskSection .monitor (scan ks)
  | findsDirty (ks : List (Nat × Bool)) : TaskSection .monitor (findDirty ks)
  | findsClosed (ks : List Nat) : TaskSection .monitor (scan ks)
  | /-- The maximal age, a build, a removal, the budget or the backoff of a slot, or
    `replace_circuit`. -/
    manages : TaskSection .monitor (within pool [])
  | lists : TaskSection .keepalive (within pool [])
  | /-- The circuit is not ready. -/
    skips (k : Nat) : TaskSection .keepalive (visit k)
  | pads (k : Nat) : TaskSection .keepalive (send k)
  | /-- `select_circuit`, which may end in a build. -/
    selects (h : Nat) (ks : List Nat) : TaskSection (.handler h) (scan ks)
  | /-- A stream is registered or unregistered, or the state is read after a failure. -/
    visits (h k : Nat) : TaskSection (.handler h) (visit k)
  | sends (h k : Nat) : TaskSection (.handler h) (send k)
  | replaces (h : Nat) : TaskSection (.handler h) (within pool [])
  | receives (k : Nat) : TaskSection (.reader k) (visit k)
  | shows (ks : List Nat) : TaskSection .tui (scan ks)

section

variable {held : List ClientLock}

/-- The circuits come after the pool. -/
theorem balanced_visit (hheld : ∀ l ∈ held, rank l < 1) (k : Nat) :
    Balanced rank held (visit k) :=
  .within hheld .nil

/-- The pool comes first. -/
theorem balanced_pool {ops : List (LockOp ClientLock)} (h : Balanced rank [pool] ops) :
    Balanced rank [] (LockOp.within pool ops) :=
  .within (fun l hl => by cases hl) h

theorem balanced_scan (ks : List Nat) : Balanced rank [] (scan ks) :=
  balanced_pool (.flatMap (balanced_visit (by simp [rank])))

theorem balanced_findDirty (ks : List (Nat × Bool)) : Balanced rank [] (findDirty ks) := by
  refine balanced_pool (.flatMap fun p => ?_)
  have hvisit : Balanced rank [pool] (visit p.1) := balanced_visit (by simp [rank]) p.1
  by_cases hdirty : p.2 = true
  · rw [if_pos hdirty]
    exact hvisit.append hvisit
  · rw [if_neg hdirty]
    exact hvisit

theorem balanced_send (k : Nat) : Balanced rank [] (send k) :=
  .within (fun l hl => by cases hl) (.within (by simp [rank]) .nil)

end

/-- Every section of every task is in order. -/
theorem TaskSection.balanced {t : ClientTask} {ops : List (LockOp ClientLock)}
    (h : TaskSection t ops) : Balanced rank [] ops := by
  have hvisit : ∀ k, Balanced rank [] (visit k) := balanced_visit fun l hl => by cases hl
  cases h with
  | expires ks | findsClosed ks | selects h ks | shows ks => exact balanced_scan ks
  | findsDirty ks => exact balanced_findDirty ks
  | manages | lists | replaces h => exact balanced_pool .nil
  | skips k | visits h k | receives k => exact hvisit k
  | pads k | sends h k => exact balanced_send k

/-- Whatever the monitor, the keepalive task, the handlers and the readers have done so far, no
tasks wait for each other in a circle, and all of them can come to the end of what they are at,
until neither the pool nor a circuit nor a connection is locked. -/
theorem client_finishes {s : LockState ClientTask ClientLock}
    (hreach : (LockState.system TaskSection).Reachable s) :
    (∀ t, ¬ Relation.TransGen s.WaitsFor t t) ∧
      ∃ es s', ((LockState.system TaskSection).restrict fun _ e => e.GoesOn).Run s es s' ∧
        ∀ t, s'.todo t = [] ∧ s'.held t = [] := by
  have hsections : ∀ t ops, TaskSection t ops → Balanced rank [] ops := fun _ _ h => h.balanced
  have horderly := LockState.orderly_of_reachable hsections hreach
  exact ⟨horderly.no_circle, horderly.finishes hsections⟩

/-- A selection holds the pool and wants the circuit on which a handler sends. -/
def contended : LockState ClientTask ClientLock :=
  let selecting := Function.update LockState.start.todo (.handler 0) (scan [0])
  let sending := Function.update selecting (.handler 1) (send 0)
  (LockState.advance ⟨sending, LockState.start.held⟩ (.handler 0) (.take pool)
    (scan [0]).tail).advance (.handler 1) (.take (circuit 0)) (send 0).tail

theorem reachable_contended : (LockState.system TaskSection).Reachable contended := by
  have hnil : (LockState.system TaskSection).Reachable
      (LockState.start : LockState ClientTask ClientLock) :=
    TransitionSystem.reachable_of_init rfl
  refine (((hnil.next (.begins rfl (.selects 0 [0]))).next (.begins rfl (.sends 1 0))).next
    (.takes rfl ?_)).next (.takes rfl ?_)
  · intro t hheld
    cases hheld
  · intro t hheld
    by_cases hfirst : t = .handler 0
    · subst hfirst
      cases List.mem_singleton.mp hheld
    · rw [LockState.held_advance_of_ne hfirst] at hheld
      cases hheld

/-- Both come to the end of it. -/
theorem client_finishes_contended :
    ∃ es s', ((LockState.system TaskSection).restrict fun _ e => e.GoesOn).Run contended es s' ∧
      ∀ t, s'.todo t = [] ∧ s'.held t = [] :=
  (client_finishes reachable_contended).2

end ClientLock

end NoPanic
