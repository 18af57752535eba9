/-
# The circuit pool

The pool keeps the circuits of a client by id, with the time each was built. The
monitor of the pool expires circuits that are too old, replaces them, removes them once
they are idle, and replaces circuits that have closed. The SOCKS handlers select a
circuit, open a stream on it, and replace the circuit when the stream has failed and
the circuit has closed. The reader of every circuit runs beside them.

The pool has one lock and every circuit has another. Whoever holds the pool's lock still
takes the circuits one after the other, so a step here is what happens under one scope
of a circuit's lock, and the lock of the pool says where its holder stands. Circuits
live on a heap: a handler keeps its circuit when the pool has dropped it.
-/

import NoPanic.Client.Reader
import Mathlib.Data.Finset.Card

namespace NoPanic

open NoPanic.Math

/-! ## The pool's data -/

/-- The pool. A circuit is given by its place on the heap, times are in nanoseconds. -/
structure CircuitPool where
  circuits : HashMap CircuitId Nat
  nextCircuitId : CircuitId
  poolSize : Nat
  maxRebuildAttempts : Nat
  rebuildFailureCounts : HashMap CircuitId Nat
  abandonedSlots : Finset CircuitId
  circuitAges : HashMap CircuitId Nat
  maxCircuitAge : Nat

namespace CircuitPool

/-- An empty pool, with a maximal age of ten minutes. -/
def new (poolSize maxRebuildAttempts : Nat) : CircuitPool :=
  ⟨∅, 1, poolSize, maxRebuildAttempts, ∅, ∅, ∅, 600 * 10 ^ 9⟩

/-- The ids of the circuits that are too old. -/
def agedIds (pool : CircuitPool) (now : Nat) : List CircuitId :=
  pool.circuitAges.pairs.filterMap fun (id, created) =>
    if pool.maxCircuitAge ≤ now - created then some id else none

/-- Take the next circuit id. The counter wraps. -/
def allocateCircuitId (pool : CircuitPool) : CircuitPool × CircuitId :=
  ({ pool with nextCircuitId := pool.nextCircuitId + 1 }, pool.nextCircuitId)

/-- Add a circuit that has just been built. -/
def insertCircuit (pool : CircuitPool) (id : CircuitId) (k : Nat) (now : Nat) : CircuitPool :=
  { pool with
    circuits := pool.circuits.insert id k
    circuitAges := pool.circuitAges.insert id now }

/-- Drop a circuit. Its age stays. -/
def removeCircuit (pool : CircuitPool) (id : CircuitId) : CircuitPool :=
  { pool with circuits := pool.circuits.erase id }

/-- Forget the age of a circuit that has expired. -/
def forgetAge (pool : CircuitPool) (id : CircuitId) : CircuitPool :=
  { pool with circuitAges := pool.circuitAges.erase id }

/-- How often rebuilding a circuit has failed in a row. -/
def failures (pool : CircuitPool) (id : CircuitId) : Nat :=
  (pool.rebuildFailureCounts.lookup id).getD 0

/-- Whether a slot has used up its budget. -/
def isAbandoned (pool : CircuitPool) (id : CircuitId) : Bool := id ∈ pool.abandonedSlots

/-- A replacement has been built. -/
def rebuilt (pool : CircuitPool) (failedId : CircuitId) : CircuitPool :=
  { pool with rebuildFailureCounts := pool.rebuildFailureCounts.erase failedId }

/-- No replacement could be built. -/
def rebuildFailed (pool : CircuitPool) (failedId : CircuitId) : CircuitPool :=
  let count := pool.failures failedId + 1
  { pool with
    rebuildFailureCounts := pool.rebuildFailureCounts.insert failedId count
    abandonedSlots :=
      if pool.maxRebuildAttempts ≤ count then insert failedId pool.abandonedSlots
      else pool.abandonedSlots }

/-- The seconds to wait before a retry. Shift and product wrap at 64 bits. -/
def backoff (pool : CircuitPool) (failedId : CircuitId) : Nat :=
  min (5 * 2 ^ (pool.failures failedId % 64) % 2 ^ 64) 60

end CircuitPool

/-- The circuit that a successful build gives. -/
def Circuit.built (circuitId : CircuitId) (onionKeys : OnionKeys) : Circuit :=
  ⟨circuitId, .ready, onionKeys, ∅, 1⟩

/-- The scope in which a stream takes its id and registers its channel. -/
def CircuitTask.openStream (t : CircuitTask) : CircuitTask :=
  ⟨t.circuit.openStream, t.reader, t.demux.register t.circuit.nextStreamId⟩

/-! ## Where the tasks stand -/

/-- What a circuit is built for: the monitor has this many circuits left to build for
aged ones, somebody (the monitor, or a handler) replaces a circuit, or a handler has found
none that is ready. -/
inductive BuildPurpose
  | aged (left : Nat)
  | replace (caller : Option Nat) (failedId : CircuitId)
  | select (h : Nat)
  deriving DecidableEq, Repr

/-- Where the holder of the pool's lock stands: what is left of its scan, and what it has
found so far. -/
inductive PoolHold
  | expiring (todo agedOut : List CircuitId)
  | building (purpose : BuildPurpose) (id : CircuitId)
  | findingDirty (todo : List (CircuitId × Nat)) (ids : List CircuitId)
  /-- The state of a circuit was dirty, and its streams are to be counted. -/
  | counting (id : CircuitId) (k : Nat) (todo : List (CircuitId × Nat)) (ids : List CircuitId)
  | findingClosed (todo : List (CircuitId × Nat)) (ids : List CircuitId)
  | selecting (h : Nat) (todo : List (CircuitId × Nat)) (best : Option (CircuitId × Nat))
  deriving DecidableEq, Repr

/-- The monitor holds the lock in the middle of its pass. -/
def PoolHold.ofMonitor : PoolHold → Bool
  | .expiring _ _ | .building (.aged _) _ | .findingDirty _ _ | .counting _ _ _ _
  | .findingClosed _ _ => true
  | _ => false

/-- Where the monitor stands when it does not hold the lock. -/
inductive MonitorPhase
  | sleeping
  | holding
  | rebuilding (left : Nat)
  | cleaning (dirtyIds : List CircuitId)
  | retrying (failedIds : List CircuitId)
  /-- The slot is not abandoned. -/
  | backingOff (failedId : CircuitId) (rest : List CircuitId)
  | waiting (failedId : CircuitId) (secs : Nat) (rest : List CircuitId)
  deriving DecidableEq, Repr

/-- Where a SOCKS handler stands. -/
inductive HandlerPhase
  | arriving
  | holding
  /-- `select_circuit` has returned. -/
  | picked (k : Nat)
  | streaming (k : Nat) (streamId : StreamId)
  /-- `handle_stream` has failed. -/
  | failed (k : Nat)
  /-- The circuit was closed. -/
  | replacing (failedId : CircuitId)
  | done
  deriving DecidableEq, Repr

/-- The pool with its circuits and tasks. -/
structure PoolState where
  pool : CircuitPool
  heap : List CircuitTask
  lock : Option PoolHold
  monitor : MonitorPhase
  handlers : Nat → HandlerPhase

/-- What the tasks do: a reader or a stream acts on its circuit, the monitor wakes up, a
replacement begins, a build ends, or the monitor (or a handler) does anything else. -/
inductive PoolEvent
  | reads (k : Nat) (e : CircuitEvent)
  | sends (h : Nat) (e : CircuitEvent)
  | wakes (now : Nat)
  | replaces (caller : Option Nat) (failedId : CircuitId)
  | builds (purpose : BuildPurpose) (onionKeys : OnionKeys) (now : Nat)
  | fails (purpose : BuildPurpose)
  | works (who : Option Nat)

/-- An event of the reader of a circuit. -/
def CircuitEvent.ofReader : CircuitEvent → Prop
  | .receives _ | .ends | .finishes => True
  | _ => False

namespace PoolState

/-- A pool without circuits. -/
def start (pool : CircuitPool) : PoolState := ⟨pool, [], none, .sleeping, fun _ => .arriving⟩

/-- Change the phase of a handler. -/
def setHandler (s : PoolState) (h : Nat) (phase : HandlerPhase) : PoolState :=
  { s with handlers := Function.update s.handlers h phase }

/-- Change a circuit. -/
def setTask (s : PoolState) (k : Nat) (t : CircuitTask) : PoolState :=
  { s with heap := s.heap.set k t }

/-- A circuit of the pool. -/
def task? (s : PoolState) (id : CircuitId) : Option CircuitTask :=
  (s.pool.circuits.lookup id).bind fun k => s.heap[k]?

/-- Expire a circuit that is still ready. -/
def expireNext (s : PoolState) (id : CircuitId) (todo agedOut : List CircuitId) : PoolState :=
  match s.pool.circuits.lookup id with
  | none => { s with lock := some (.expiring todo agedOut) }
  | some k =>
      match s.heap[k]? with
      | none => s
      | some t =>
          if t.circuit.state = .ready then
            { s.setTask k t.expire with
              pool := s.pool.forgetAge id
              lock := some (.expiring todo (agedOut ++ [id])) }
          else { s with lock := some (.expiring todo agedOut) }

/-- The better of two candidates of a selection. -/
def better (best : Option (CircuitId × Nat)) (id : CircuitId) (count : Nat) :
    Option (CircuitId × Nat) :=
  match best with
  | none => some (id, count)
  | some (_, bestCount) => if count < bestCount then some (id, count) else best

/-- Look at the next circuit of a selection. -/
def consider (best : Option (CircuitId × Nat)) (id : CircuitId) (t : CircuitTask) :
    Option (CircuitId × Nat) :=
  if t.circuit.state = .ready then better best id t.circuit.activeStreamCount else best

/-- The end of a selection that has found a circuit. -/
def pick (s : PoolState) (h : Nat) (id : CircuitId) : PoolState :=
  match s.pool.circuits.lookup id with
  | none => { s with lock := none }.setHandler h .done
  | some k => { s with lock := none }.setHandler h (.picked k)

/-- Begin to build a circuit. -/
def startBuild (s : PoolState) (purpose : BuildPurpose) : PoolState :=
  let (pool, id) := s.pool.allocateCircuitId
  { s with
    pool
    lock := some (.building purpose id) }

/-- Begin to replace a circuit: it leaves the pool first. -/
def startReplace (s : PoolState) (caller : Option Nat) (failedId : CircuitId) : PoolState :=
  { s with pool := s.pool.removeCircuit failedId }.startBuild (.replace caller failedId)

/-- The phase of a handler that is set twice. -/
theorem setHandler_setHandler (s : PoolState) (h : Nat) (first second : HandlerPhase) :
    (s.setHandler h first).setHandler h second = s.setHandler h second := by
  simp [setHandler]

/-- The pool looks at the next circuit that may be too old: it expires when it is ready, and
otherwise nothing happens but that the search goes on. -/
theorem expireNext_cases {s : PoolState} {id : CircuitId} {todo agedOut : List CircuitId}
    (hlock : s.lock = some (.expiring (id :: todo) agedOut)) :
    (∃ todo', s.expireNext id todo agedOut = { s with lock := some (.expiring todo' agedOut) }) ∨
      ∃ k t, s.pool.circuits.lookup id = some k ∧ s.heap[k]? = some t ∧
        t.circuit.state = .ready ∧ s.expireNext id todo agedOut =
          { s.setTask k t.expire with
            pool := s.pool.forgetAge id
            lock := some (.expiring todo (agedOut ++ [id])) } := by
  rw [expireNext]
  split
  · exact Or.inl ⟨todo, rfl⟩
  next k hlookup =>
    split
    · exact Or.inl ⟨id :: todo, by rw [← hlock]⟩
    next t htask =>
      by_cases hready : t.circuit.state = .ready
      · rw [if_pos hready]
        exact Or.inr ⟨k, t, hlookup, htask, hready, rfl⟩
      · rw [if_neg hready]
        exact Or.inl ⟨todo, rfl⟩

/-- A selection that has found a circuit gives the lock back and hands out the place of the
circuit, unless it is not in the pool. -/
theorem pick_cases (s : PoolState) (h : Nat) (id : CircuitId) :
    s.pick h id = { s with lock := none }.setHandler h .done ∨
      ∃ k, s.pool.circuits.lookup id = some k ∧
        s.pick h id = { s with lock := none }.setHandler h (.picked k) := by
  rw [pick]
  cases hlookup : s.pool.circuits.lookup id with
  | none => exact Or.inl rfl
  | some k => exact Or.inr ⟨k, rfl, rfl⟩

/-- Put a circuit into the pool. -/
def addCircuit (s : PoolState) (id : CircuitId) (onionKeys : OnionKeys) (now : Nat) : PoolState :=
  { s with
    pool := s.pool.insertCircuit id s.heap.length now
    heap := s.heap ++ [CircuitTask.spawn (Circuit.built id onionKeys)] }

/-- Whoever has called `replace_circuit` goes on. -/
def resume (s : PoolState) : Option Nat → PoolState
  | none => s
  | some h => s.setHandler h .done

/-- A circuit has been built. -/
def finishBuild (s : PoolState) (purpose : BuildPurpose) (id : CircuitId) (onionKeys : OnionKeys)
    (now : Nat) : PoolState :=
  let k := s.heap.length
  let s := { s.addCircuit id onionKeys now with lock := none }
  match purpose with
  | .aged left => { s with monitor := .rebuilding left }
  | .replace caller failedId => { s with pool := s.pool.rebuilt failedId }.resume caller
  | .select h => s.setHandler h (.picked k)

/-- A circuit could not be built. -/
def failBuild (s : PoolState) (purpose : BuildPurpose) : PoolState :=
  let s := { s with lock := none }
  match purpose with
  | .aged left => { s with monitor := .rebuilding left }
  | .replace caller failedId => { s with pool := s.pool.rebuildFailed failedId }.resume caller
  | .select h => s.setHandler h .done

/-- The lock is given back, and the circuits are those of another state. -/
structure Unlocks (s s' : PoolState) : Prop where
  lock : s'.lock = none
  heap : s'.heap = s.heap
  circuits : s'.pool.circuits = s.pool.circuits
  circuitAges : s'.pool.circuitAges = s.pool.circuitAges
  poolSize : s'.pool.poolSize = s.pool.poolSize

/-- A build that ends well has put its circuit into the pool. -/
theorem unlocks_finishBuild (s : PoolState) (purpose : BuildPurpose) (id : CircuitId)
    (onionKeys : OnionKeys) (now : Nat) :
    Unlocks (s.addCircuit id onionKeys now) (s.finishBuild purpose id onionKeys now) := by
  cases purpose with
  | aged | select => exact ⟨rfl, rfl, rfl, rfl, rfl⟩
  | replace caller failedId => cases caller <;> exact ⟨rfl, rfl, rfl, rfl, rfl⟩

/-- A build that fails leaves the circuits as they were. -/
theorem unlocks_failBuild (s : PoolState) (purpose : BuildPurpose) :
    Unlocks s (s.failBuild purpose) := by
  cases purpose with
  | aged | select => exact ⟨rfl, rfl, rfl, rfl, rfl⟩
  | replace caller failedId => cases caller <;> exact ⟨rfl, rfl, rfl, rfl, rfl⟩

/-- So does a selection that has ended. -/
theorem unlocks_pick (s : PoolState) (h : Nat) (id : CircuitId) : Unlocks s (s.pick h id) := by
  rcases s.pick_cases h id with heq | ⟨k, -, heq⟩
  · rw [heq]
    exact ⟨rfl, rfl, rfl, rfl, rfl⟩
  · rw [heq]
    exact ⟨rfl, rfl, rfl, rfl, rfl⟩

/-- `initialize`: the circuits are built one after the other, before anything else runs. -/
def initialized (pool : CircuitPool) (built : List (OnionKeys × Nat)) : PoolState :=
  built.foldl (fun s (onionKeys, now) =>
    let (pool, id) := s.pool.allocateCircuitId
    { s with pool }.addCircuit id onionKeys now) (start pool)

/-- A pool that a successful `initialize` has filled. -/
def Started (s : PoolState) : Prop :=
  ∃ pool built, pool.circuits = ∅ ∧ pool.circuitAges = ∅ ∧ pool.rebuildFailureCounts = ∅ ∧
    pool.abandonedSlots = ∅ ∧ built.length = pool.poolSize ∧ s = initialized pool built

/-- A pool of one circuit. -/
def onePool : PoolState := initialized (CircuitPool.new 1 3) [(OnionKeys.new [] [], 0)]

theorem onePool_started : onePool.Started :=
  ⟨CircuitPool.new 1 3, [(OnionKeys.new [] [], 0)], rfl, rfl, rfl, rfl, rfl, rfl⟩

/-- While the lock is held by the monitor, the monitor holds it. -/
def MonitorHolds (s : PoolState) : Prop :=
  ∀ hold, s.lock = some hold → hold.ofMonitor = true → s.monitor = .holding

section

variable {s : PoolState}

theorem MonitorHolds.of_free (hlock : s.lock = none) : s.MonitorHolds := by
  intro hold hheld
  rw [hlock] at hheld
  cases hheld

/-- Somebody else holds the lock. -/
theorem MonitorHolds.of_other {hold : PoolHold} (hlock : s.lock = some hold)
    (hother : hold.ofMonitor = false) : s.MonitorHolds := by
  intro held hheld hofMonitor
  rw [hlock] at hheld
  cases hheld
  rw [hother] at hofMonitor
  cases hofMonitor

theorem MonitorHolds.of_holding (hmonitor : s.monitor = .holding) : s.MonitorHolds :=
  fun _ _ _ => hmonitor

end

/-! ## Steps -/

section

variable [Primitives]

/-- One step of a task. An iteration over a map meets its entries in any order. -/
inductive Step : PoolState → PoolEvent → PoolState → Prop
  | reads {s : PoolState} {k : Nat} {e : CircuitEvent} {t t' : CircuitTask}
      (htask : s.heap[k]? = some t) (hreader : e.ofReader) (hstep : t.Step e t') :
      Step s (.reads k e) (s.setTask k t')
  | wakes {s : PoolState} (now : Nat) {todo : List CircuitId} (hmonitor : s.monitor = .sleeping)
      (hlock : s.lock = none) (htodo : todo.Perm (s.pool.agedIds now)) :
      Step s (.wakes now) { s with lock := some (.expiring todo []), monitor := .holding }
  | expires {s : PoolState} {id : CircuitId} {todo agedOut : List CircuitId}
      (hlock : s.lock = some (.expiring (id :: todo) agedOut)) :
      Step s (.works none) (s.expireNext id todo agedOut)
  | expired {s : PoolState} {agedOut : List CircuitId}
      (hlock : s.lock = some (.expiring [] agedOut)) :
      Step s (.works none) { s with lock := none, monitor := .rebuilding agedOut.length }
  | rebuilds {s : PoolState} {left : Nat} (hmonitor : s.monitor = .rebuilding (left + 1))
      (hlock : s.lock = none) :
      Step s (.works none) ({ s with monitor := .holding }.startBuild (.aged left))
  | findsDirty {s : PoolState} {todo : List (CircuitId × Nat)}
      (hmonitor : s.monitor = .rebuilding 0) (hlock : s.lock = none)
      (htodo : todo.Perm s.pool.circuits.pairs) :
      Step s (.works none) { s with lock := some (.findingDirty todo []), monitor := .holding }
  | looksDirty {s : PoolState} {id : CircuitId} {k : Nat} {todo : List (CircuitId × Nat)}
      {ids : List CircuitId} {t : CircuitTask}
      (hlock : s.lock = some (.findingDirty ((id, k) :: todo) ids))
      (htask : s.heap[k]? = some t) :
      Step s (.works none)
        { s with
          lock := some (if t.circuit.state = .dirty then .counting id k todo ids
            else .findingDirty todo ids) }
  | counts {s : PoolState} {id : CircuitId} {k : Nat} {todo : List (CircuitId × Nat)}
      {ids : List CircuitId} {t : CircuitTask} (hlock : s.lock = some (.counting id k todo ids))
      (htask : s.heap[k]? = some t) :
      Step s (.works none)
        { s with
          lock := some (.findingDirty todo
            (if t.circuit.activeStreamCount = 0 then ids ++ [id] else ids)) }
  | foundDirty {s : PoolState} {ids : List CircuitId}
      (hlock : s.lock = some (.findingDirty [] ids)) :
      Step s (.works none) { s with lock := none, monitor := .cleaning ids }
  | cleans {s : PoolState} {id : CircuitId} {ids : List CircuitId}
      (hmonitor : s.monitor = .cleaning (id :: ids)) (hlock : s.lock = none) :
      Step s (.works none) { s with pool := s.pool.removeCircuit id, monitor := .cleaning ids }
  | findsClosed {s : PoolState} {todo : List (CircuitId × Nat)}
      (hmonitor : s.monitor = .cleaning []) (hlock : s.lock = none)
      (htodo : todo.Perm s.pool.circuits.pairs) :
      Step s (.works none) { s with lock := some (.findingClosed todo []), monitor := .holding }
  | looksClosed {s : PoolState} {id : CircuitId} {k : Nat} {todo : List (CircuitId × Nat)}
      {ids : List CircuitId} {t : CircuitTask}
      (hlock : s.lock = some (.findingClosed ((id, k) :: todo) ids))
      (htask : s.heap[k]? = some t) :
      Step s (.works none)
        { s with
          lock := some (.findingClosed todo
            (if t.circuit.state = .closed then ids ++ [id] else ids)) }
  | foundClosed {s : PoolState} {ids : List CircuitId}
      (hlock : s.lock = some (.findingClosed [] ids)) :
      Step s (.works none) { s with lock := none, monitor := .retrying ids }
  | checks {s : PoolState} {id : CircuitId} {ids : List CircuitId}
      (hmonitor : s.monitor = .retrying (id :: ids)) (hlock : s.lock = none) :
      Step s (.works none)
        { s with
          monitor := if s.pool.isAbandoned id then .retrying ids else .backingOff id ids }
  | backsOff {s : PoolState} {id : CircuitId} {ids : List CircuitId}
      (hmonitor : s.monitor = .backingOff id ids) (hlock : s.lock = none) :
      Step s (.works none) { s with monitor := .waiting id (s.pool.backoff id) ids }
  | retries {s : PoolState} {id : CircuitId} {secs : Nat} {ids : List CircuitId}
      (hmonitor : s.monitor = .waiting id secs ids) (hlock : s.lock = none) :
      Step s (.replaces none id) ({ s with monitor := .retrying ids }.startReplace none id)
  | rests {s : PoolState} (hmonitor : s.monitor = .retrying []) (hlock : s.lock = none) :
      Step s (.works none) { s with monitor := .sleeping }
  | selects {s : PoolState} {h : Nat} {todo : List (CircuitId × Nat)}
      (hhandler : s.handlers h = .arriving) (hlock : s.lock = none)
      (htodo : todo.Perm s.pool.circuits.pairs) :
      Step s (.works (some h))
        { s.setHandler h .holding with
          lock := some (.selecting h todo none) }
  | looksReady {s : PoolState} {h : Nat} {id : CircuitId} {k : Nat}
      {todo : List (CircuitId × Nat)} {best : Option (CircuitId × Nat)} {t : CircuitTask}
      (hlock : s.lock = some (.selecting h ((id, k) :: todo) best))
      (htask : s.heap[k]? = some t) :
      Step s (.works (some h)) { s with lock := some (.selecting h todo (consider best id t)) }
  | picks {s : PoolState} {h : Nat} {id : CircuitId} {count : Nat}
      (hlock : s.lock = some (.selecting h [] (some (id, count)))) :
      Step s (.works (some h)) (s.pick h id)
  | /-- No circuit is ready. -/
    finds {s : PoolState} {h : Nat} (hlock : s.lock = some (.selecting h [] none)) :
      Step s (.works (some h)) (s.startBuild (.select h))
  | registers {s : PoolState} {h k : Nat} {t : CircuitTask} (hhandler : s.handlers h = .picked k)
      (htask : s.heap[k]? = some t) :
      Step s (.works (some h))
        ((s.setTask k t.openStream).setHandler h (.streaming k t.circuit.nextStreamId))
  | sends {s : PoolState} {h k : Nat} {streamId : StreamId} {command : MessageCommand}
      {data : Bytes} {entryWriter : Except String Unit} {t t' : CircuitTask}
      (hhandler : s.handlers h = .streaming k streamId) (htask : s.heap[k]? = some t)
      (hstep : t.Step (.sends streamId command data entryWriter) t') :
      Step s (.sends h (.sends streamId command data entryWriter)) (s.setTask k t')
  | /-- `cleanup_stream`, at the end of a stream or after a failure. -/
    cleansUp {s : PoolState} {h k : Nat} {streamId : StreamId} {t t' : CircuitTask} (ok : Bool)
      (hhandler : s.handlers h = .streaming k streamId) (htask : s.heap[k]? = some t)
      (hstep : t.Step (.unregisters streamId) t') :
      Step s (.works (some h))
        ((s.setTask k t').setHandler h (if ok then .done else .failed k))
  | /-- A failure without cleanup: BEGIN or the SOCKS reply cannot be written. -/
    breaks {s : PoolState} {h k : Nat} {streamId : StreamId}
      (hhandler : s.handlers h = .streaming k streamId) :
      Step s (.works (some h)) (s.setHandler h (.failed k))
  | inspects {s : PoolState} {h k : Nat} {t : CircuitTask} (hhandler : s.handlers h = .failed k)
      (htask : s.heap[k]? = some t) :
      Step s (.works (some h)) (s.setHandler h
        (if t.circuit.state = .closed then .replacing t.circuit.circuitId else .done))
  | replaces {s : PoolState} {h : Nat} {id : CircuitId} (hhandler : s.handlers h = .replacing id)
      (hlock : s.lock = none) :
      Step s (.replaces (some h) id) ((s.setHandler h .holding).startReplace (some h) id)
  | builds {s : PoolState} {purpose : BuildPurpose} {id : CircuitId} (onionKeys : OnionKeys)
      (now : Nat) (hlock : s.lock = some (.building purpose id)) :
      Step s (.builds purpose onionKeys now) (s.finishBuild purpose id onionKeys now)
  | fails {s : PoolState} {purpose : BuildPurpose} {id : CircuitId}
      (hlock : s.lock = some (.building purpose id)) :
      Step s (.fails purpose) (s.failBuild purpose)

/-- The runs of a pool after `initialize`. -/
def system : TransitionSystem PoolState PoolEvent where
  init := Started
  step := Step

/-- Whoever selects a circuit has found one that is ready. -/
def FindsReady (s : PoolState) : PoolEvent → Prop
  | .works (some h) => s.lock ≠ some (.selecting h [] none)
  | _ => True

/-- The monitor holds the lock in its own scopes, whatever happens. -/
theorem MonitorHolds.step {s s' : PoolState} {e : PoolEvent} (h : s.MonitorHolds)
    (hstep : Step s e s') : s'.MonitorHolds := by
  cases hstep with
  | reads | registers | sends | cleansUp | breaks | inspects => exact h
  | wakes | rebuilds | findsDirty | findsClosed => exact .of_holding rfl
  | expires hlock =>
      have hholding := h _ hlock rfl
      rcases expireNext_cases hlock with ⟨todo, heq⟩ | ⟨k, t, -, -, -, heq⟩
      · rw [heq]
        exact .of_holding hholding
      · rw [heq]
        exact .of_holding hholding
  | looksDirty hlock | counts hlock | looksClosed hlock => exact .of_holding (h _ hlock rfl)
  | expired | foundDirty | foundClosed => exact .of_free rfl
  | cleans _ hlock
  | checks _ hlock
  | backsOff _ hlock
  | rests _ hlock => exact .of_free hlock
  | retries | selects | looksReady | finds | replaces => exact .of_other rfl rfl
  | @picks handler id count hlock => exact .of_free (s.unlocks_pick handler id).lock
  | @builds purpose id onionKeys now hlock =>
      exact .of_free (s.unlocks_finishBuild purpose id onionKeys now).lock
  | @fails purpose id hlock => exact .of_free (s.unlocks_failBuild purpose).lock

/-! ## What a handler can do -/

variable {s : PoolState} {h k : Nat} {id : CircuitId} {t : CircuitTask}

/-- A handler that finds one circuit in the pool, and it is ready, picks it. -/
theorem run_picks (hhandler : s.handlers h = .arriving) (hlock : s.lock = none)
    (hpairs : s.pool.circuits.pairs = [(id, k)]) (htask : s.heap[k]? = some t)
    (hready : t.circuit.state = .ready) :
    (system.restrict FindsReady).Run s [.works (some h), .works (some h), .works (some h)]
      (s.setHandler h (.picked k)) := by
  have hlookup : s.pool.circuits.lookup id = some k := by
    rw [← HashMap.mem_pairs, hpairs]
    exact List.mem_singleton.mpr rfl
  let count := t.circuit.activeStreamCount
  let scan (todo : List (CircuitId × Nat)) (best : Option (CircuitId × Nat)) : PoolState :=
    { s.setHandler h .holding with lock := some (.selecting h todo best) }
  have hselects : (system.restrict FindsReady).step s (.works (some h)) (scan [(id, k)] none) :=
    ⟨by simp [FindsReady, hlock], .selects hhandler hlock (by rw [hpairs])⟩
  have hlooks : (system.restrict FindsReady).step (scan [(id, k)] none) (.works (some h))
      (scan [] (some (id, count))) := by
    have hbest : consider none id t = some (id, count) := if_pos hready
    rw [← hbest]
    exact ⟨by simp [FindsReady, scan], .looksReady rfl htask⟩
  have hpicks : (system.restrict FindsReady).step (scan [] (some (id, count))) (.works (some h))
      (s.setHandler h (.picked k)) := by
    have hpick : (scan [] (some (id, count))).pick h id = s.setHandler h (.picked k) := by
      have hsame : (scan [] (some (id, count))).pool.circuits.lookup id = some k := hlookup
      rw [pick, hsame, ← setHandler_setHandler s h .holding, setHandler, setHandler, setHandler]
      simp [scan, setHandler, hlock]
    rw [← hpick]
    exact ⟨by simp [FindsReady, scan], .picks rfl⟩
  have hnil : (system.restrict FindsReady).Run s [] s := .nil s
  exact ((hnil.snoc hselects).snoc hlooks).snoc hpicks

/-- It then opens its stream. -/
theorem run_opens (hhandler : s.handlers h = .arriving) (hlock : s.lock = none)
    (hpairs : s.pool.circuits.pairs = [(id, k)]) (htask : s.heap[k]? = some t)
    (hready : t.circuit.state = .ready) :
    (system.restrict FindsReady).Run s
      [.works (some h), .works (some h), .works (some h), .works (some h)]
      ((s.setTask k t.openStream).setHandler h (.streaming k t.circuit.nextStreamId)) := by
  have hrun := run_picks hhandler hlock hpairs htask hready
  have hpicked : (s.setHandler h (.picked k)).handlers h = .picked k := Function.update_self ..
  have hregisters : (system.restrict FindsReady).step (s.setHandler h (.picked k))
      (.works (some h))
      (((s.setHandler h (.picked k)).setTask k t.openStream).setHandler h
        (.streaming k t.circuit.nextStreamId)) :=
    ⟨by simp [FindsReady, setHandler, hlock], .registers hpicked htask⟩
  have hafter := hrun.snoc hregisters
  rw [show (s.setHandler h (.picked k)).setTask k t.openStream =
    (s.setTask k t.openStream).setHandler h (.picked k) from rfl, setHandler_setHandler] at hafter
  exact hafter

/-- A handler whose stream fails on a circuit that has closed is about to call for a
replacement. -/
theorem run_gives_up {streamId : StreamId} (hhandler : s.handlers h = .streaming k streamId)
    (hlock : s.lock = none) (htask : s.heap[k]? = some t) (hclosed : t.circuit.state = .closed) :
    (system.restrict FindsReady).Run s [.works (some h), .works (some h)]
      (s.setHandler h (.replacing t.circuit.circuitId)) := by
  have hbreaks : (system.restrict FindsReady).step s (.works (some h))
      (s.setHandler h (.failed k)) := ⟨by simp [FindsReady, hlock], .breaks hhandler⟩
  have hfailed : (s.setHandler h (.failed k)).handlers h = .failed k := Function.update_self ..
  have hinspects : (system.restrict FindsReady).step (s.setHandler h (.failed k))
      (.works (some h)) (s.setHandler h (.replacing t.circuit.circuitId)) := by
    rw [← setHandler_setHandler s h (.failed k) (.replacing t.circuit.circuitId)]
    refine ⟨by simp [FindsReady, setHandler, hlock], ?_⟩
    have hstep := Step.inspects hfailed htask
    rwa [if_pos hclosed] at hstep
  have hnil : (system.restrict FindsReady).Run s [] s := .nil s
  exact (hnil.snoc hbreaks).snoc hinspects

/-- A handler that is about to call for a replacement does so. -/
theorem step_calls (hlock : s.lock = none) (id : CircuitId) :
    Step (s.setHandler h (.replacing id)) (.replaces (some h) id)
      ((s.setHandler h .holding).startReplace (some h) id) := by
  rw [← setHandler_setHandler s h (.replacing id) .holding]
  exact .replaces (Function.update_self ..) hlock

/-- A handler whose stream fails on a circuit that has closed calls for a replacement. -/
theorem run_calls {streamId : StreamId} (hhandler : s.handlers h = .streaming k streamId)
    (hlock : s.lock = none) (htask : s.heap[k]? = some t) (hclosed : t.circuit.state = .closed) :
    (system.restrict FindsReady).Run s
      [.works (some h), .works (some h), .replaces (some h) t.circuit.circuitId]
      ((s.setHandler h .holding).startReplace (some h) t.circuit.circuitId) :=
  (run_gives_up hhandler hlock htask hclosed).snoc ⟨trivial, step_calls hlock _⟩

end

end PoolState

end NoPanic
