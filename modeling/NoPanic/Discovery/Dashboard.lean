/-
# The dashboard's view of the directory

The directory counts what it does and puts it into an event buffer. The dashboard's request
is answered with the registered nodes, statistics, the counters and the newest fifty events,
newest first. An answer changes nothing.

However many events there have been, the events of an answer are the end of them, since the
buffer keeps more than an answer shows.
-/

import Mathlib.Algebra.Order.Field.Basic
import Mathlib.Algebra.Order.Field.Rat
import NoPanic.Common.Metrics
import NoPanic.Discovery.Readiness

namespace NoPanic

open NoPanic.Math

namespace DiscoveryMetrics

/-- The capacity of the directory's event buffer. -/
def eventBufferCapacity : Nat := 200

/-- What the directory notes in its activity log. -/
inductive EventKind
  | nodeRegistered (nodeId nodeType address : String)
  | nodeRemoved (nodeId : String)
  | heartbeat (nodeId : String)
  | pathRequested
  | staleCleanup (removed : Nat)
  | statsQueried
  | healthCheck (ready : Bool)
  | error (message : String)

end DiscoveryMetrics

/-- The counters of the directory and its events. -/
structure DiscoveryMetrics where
  registrations : UInt64
  removals : UInt64
  heartbeats : UInt64
  pathRequests : UInt64
  staleCleaned : UInt64
  events : EventBuffer DiscoveryMetrics.EventKind
  startTime : Nat

namespace DiscoveryMetrics

/-- The metrics at the start: the buffer is made right before the time is taken. -/
def new (bufferNow now : Nat) : DiscoveryMetrics where
  registrations := 0
  removals := 0
  heartbeats := 0
  pathRequests := 0
  staleCleaned := 0
  events := EventBuffer.new eventBufferCapacity bufferNow
  startTime := now

/-- Note an event. -/
def pushEvent (m : DiscoveryMetrics) (kind : EventKind) (now : Nat) : DiscoveryMetrics :=
  { m with events := m.events.push kind now }

/-- The time since the start. -/
def uptime (m : DiscoveryMetrics) (now : Nat) : Nat := now - m.startTime

end DiscoveryMetrics

/-- Statistics of a registry. -/
structure RegistryStats where
  totalNodes : Nat
  entryCount : Nat
  middleCount : Nat
  exitCount : Nat
  oldestNodeAgeSecs : Option Nat
  newestNodeAgeSecs : Option Nat

namespace NodeRegistry

/-- All entries, in iteration order. -/
def getAllEntries (r : NodeRegistry) : List NodeEntry := r.nodes.values

/-- How many entries are of a type. -/
def countOfType (r : NodeRegistry) (nodeType : NodeType) : Nat :=
  r.nodes.values.countP fun entry => entry.descriptor.nodeType == nodeType

/-- The registration time that replaces every other one that it is `better` than. -/
def bestRegistration (r : NodeRegistry) (better : Nat → Nat → Bool) : Option Nat :=
  r.nodes.values.foldl (fun best entry =>
    match best with
    | none => some entry.registeredAt
    | some t => if better entry.registeredAt t then some entry.registeredAt else some t) none

/-- Count the entries, and take the ages of the oldest and the newest. -/
def getStats (r : NodeRegistry) (now : Nat) : RegistryStats where
  totalNodes := r.nodes.values.length
  entryCount := r.countOfType .entry
  middleCount := r.countOfType .middle
  exitCount := r.countOfType .exit
  oldestNodeAgeSecs := (r.bestRegistration fun t best => t < best).map fun t => asSecs (now - t)
  newestNodeAgeSecs := (r.bestRegistration fun t best => best < t).map fun t => asSecs (now - t)

end NodeRegistry

/-- The counters in an answer. -/
structure MetricsSummary where
  registrations : UInt64
  removals : UInt64
  heartbeats : UInt64
  pathRequests : UInt64
  staleCleaned : UInt64
  uptimeSecs : UInt64

/-- One entry of the activity log. -/
structure EventEntry where
  elapsedSecs : ℚ
  eventType : String
  label : String
  detail : String
  deriving DecidableEq

/-- A node with its metrics. -/
structure NodeWithMetrics where
  descriptor : NodeDescriptor
  metrics : Option NodeMetrics

/-- The answer to the dashboard's request. -/
structure DashboardResponse where
  nodes : List NodeWithMetrics
  stats : RegistryStats
  metrics : MetricsSummary
  ready : Bool
  events : List EventEntry

/-- The type, the label and the detail of an event. -/
def DiscoveryMetrics.EventKind.texts : DiscoveryMetrics.EventKind → String × String × String
  | .nodeRegistered nodeId nodeType address =>
      ("register", "+ REGISTER", nodeType ++ " " ++ nodeId ++ " @ " ++ address)
  | .nodeRemoved nodeId => ("remove", "- REMOVE", nodeId)
  | .heartbeat nodeId => ("heartbeat", "heart HEARTBEAT", nodeId)
  | .pathRequested => ("path", "-> PATH", "random 3-hop path requested")
  | .staleCleanup removed =>
      ("cleanup", "x CLEANUP", decimal removed ++ " stale node(s) removed")
  | .statsQueried => ("stats", "i STATS", "stats queried")
  | .healthCheck ready =>
      ("health", "i HEALTH", if ready then "check: ready" else "check: NOT ready")
  | .error message => ("error", "x ERROR", message)

/-- An event as an entry, with its time in seconds. -/
def eventToEntry (e : TuiEvent DiscoveryMetrics.EventKind) : EventEntry where
  elapsedSecs := e.elapsed / nanosPerSec
  eventType := e.kind.texts.1
  label := e.kind.texts.2.1
  detail := e.kind.texts.2.2

/-- How many events an answer shows. -/
def dashboardEvents : Nat := 50

/-- Answer the dashboard. The registry is read three times, each time under a lock of its
own, and may have changed in between. -/
def dashboardHandler (atEntries atStats atReady : NodeRegistry)
    (metrics : Option DiscoveryMetrics) (statsNow now : Nat) : DashboardResponse :=
  let nodes := atEntries.getAllEntries.map fun e => ⟨e.descriptor, e.metrics⟩
  let stats := atStats.getStats statsNow
  let ready := atReady.isReady
  match metrics with
  | some m =>
      let summary : MetricsSummary :=
        { registrations := m.registrations
          removals := m.removals
          heartbeats := m.heartbeats
          pathRequests := m.pathRequests
          staleCleaned := m.staleCleaned
          uptimeSecs := UInt64.ofNat (asSecs (m.uptime now)) }
      let events := (m.events.snapshot eventToEntry).reverse.take dashboardEvents
      { nodes, stats, metrics := summary, ready, events }
  | none => { nodes, stats, metrics := ⟨0, 0, 0, 0, 0, 0⟩, ready, events := [] }

/-! ## All that has happened -/

namespace DiscoveryMetrics

/-- The directory has noted exactly the events `history`; one without metrics notes none. -/
inductive Noted : Option DiscoveryMetrics → List (TuiEvent EventKind) → Prop
  | without : Noted none []
  | noted {m : DiscoveryMetrics} {startTime : Nat} {history : List (TuiEvent EventKind)}
      (holds : m.events = EventBuffer.holding eventBufferCapacity startTime history) :
      Noted (some m) history

theorem noted_new (bufferNow now : Nat) : Noted (some (new bufferNow now)) [] :=
  Noted.noted EventBuffer.new_eq_holding

/-- The events of an answer are the newest that there have been, newest first. -/
theorem Noted.events_dashboardHandler {metrics : Option DiscoveryMetrics}
    {history : List (TuiEvent EventKind)} (h : Noted metrics history)
    (atEntries atStats atReady : NodeRegistry) (statsNow now : Nat) :
    (dashboardHandler atEntries atStats atReady metrics statsNow now).events =
      ((history.map eventToEntry).rtake dashboardEvents).reverse := by
  cases h with
  | without => rfl
  | noted holds =>
      have hfits : min dashboardEvents eventBufferCapacity = dashboardEvents := by decide
      rw [dashboardHandler, holds, EventBuffer.snapshot_holding, take_reverse, rtake_map, rtake_map,
        rtake_rtake, hfits]

/-- One more event. -/
theorem Noted.pushEvent {m : DiscoveryMetrics} {history : List (TuiEvent EventKind)}
    (h : Noted (some m) history) (kind : EventKind) (now : Nat) :
    ∃ e, (m.pushEvent kind now).events.snapshot TuiEvent.elapsed =
        ((history ++ [e]).rtake eventBufferCapacity).map TuiEvent.elapsed ∧
      Noted (some (m.pushEvent kind now)) (history ++ [e]) := by
  cases h with
  | @noted _ startTime _ holds =>
      have hpush : (m.pushEvent kind now).events = EventBuffer.holding eventBufferCapacity
          startTime (history ++ [⟨now - startTime, kind⟩]) := by
        rw [DiscoveryMetrics.pushEvent, holds, EventBuffer.push_holding (by decide)]
      exact ⟨_, by rw [hpush, EventBuffer.snapshot_holding], Noted.noted hpush⟩

end DiscoveryMetrics

/-! ## Runs -/

/-- What happens around a directory. -/
inductive DashboardEvent
  | pushEvent (kind : DiscoveryMetrics.EventKind) (now : Nat)
  | count
  | poll (answer : Option DashboardResponse)

/-- The steps of a directory that is polled. Events come at increasing times; the counters
may change in any way, and so may the registry, which an answer reads as it is; an answer may
fail to arrive. -/
inductive DashboardStep :
    Option DiscoveryMetrics → DashboardEvent → Option DiscoveryMetrics → Prop
  | pushEvent {m : DiscoveryMetrics} {kind : DiscoveryMetrics.EventKind} {now : Nat}
      (increasing :
        ((m.pushEvent kind now).events.snapshot TuiEvent.elapsed).Pairwise (· < ·)) :
      DashboardStep (some m) (.pushEvent kind now) (some (m.pushEvent kind now))
  | count {m m' : DiscoveryMetrics} (same : m'.events = m.events) :
      DashboardStep (some m) .count (some m')
  | answered (metrics : Option DiscoveryMetrics) (atEntries atStats atReady : NodeRegistry)
      (statsNow now : Nat) :
      DashboardStep metrics
        (.poll (some (dashboardHandler atEntries atStats atReady metrics statsNow now))) metrics
  | lost (metrics : Option DiscoveryMetrics) : DashboardStep metrics (.poll none) metrics

/-- The runs of a directory with its metrics, or of one that is used without. -/
def dashboardSystem : TransitionSystem (Option DiscoveryMetrics) DashboardEvent where
  init metrics := metrics = none ∨ ∃ bufferNow now, metrics = some (.new bufferNow now)
  step := DashboardStep

/-- The answers of a run in their order, with a gap for one that did not arrive. -/
def answersOf (es : List DashboardEvent) : List (Option DashboardResponse) :=
  es.filterMap fun e =>
    match e with
    | .poll answer => some answer
    | _ => none

@[simp]
theorem answersOf_snoc (es : List DashboardEvent) (e : DashboardEvent) :
    answersOf (es ++ [e]) = answersOf es ++ answersOf [e] := List.filterMap_append

@[simp]
theorem answersOf_pushEvent (kind : DiscoveryMetrics.EventKind) (now : Nat) :
    answersOf [.pushEvent kind now] = [] := rfl

@[simp]
theorem answersOf_count : answersOf [.count] = [] := rfl

@[simp]
theorem answersOf_poll (answer : Option DashboardResponse) :
    answersOf [.poll answer] = [answer] := rfl

/-! ## Times along a history -/

/-- Entries have the order of their events. -/
theorem elapsedSecs_lt {e e' : TuiEvent DiscoveryMetrics.EventKind}
    (h : e.elapsed < e'.elapsed) :
    (eventToEntry e).elapsedSecs < (eventToEntry e').elapsedSecs := by
  have hpos : (0 : ℚ) < (nanosPerSec : ℚ) := by
    rw [Nat.cast_pos]
    decide
  exact div_lt_div_of_pos_right (Nat.cast_lt.mpr h) hpos

/-- No time is negative. -/
theorem elapsedSecs_nonneg (e : TuiEvent DiscoveryMetrics.EventKind) :
    0 ≤ (eventToEntry e).elapsedSecs := div_nonneg (Nat.cast_nonneg _) (Nat.cast_nonneg _)

/-- The entries of events at increasing times. -/
theorem increasing_entries {history : List (TuiEvent DiscoveryMetrics.EventKind)}
    (h : (history.map TuiEvent.elapsed).Pairwise (· < ·)) :
    Increasing EventEntry.elapsedSecs 0 (history.map eventToEntry) where
  start_le x hx := by
    obtain ⟨e, -, rfl⟩ := List.mem_map.mp hx
    exact elapsedSecs_nonneg e
  lt := by
    rw [List.pairwise_map] at h ⊢
    exact h.imp elapsedSecs_lt

/-- What one step adds to the history: nothing, or one event at a later time. -/
theorem DashboardStep.noted {metrics metrics' : Option DiscoveryMetrics} {e : DashboardEvent}
    {history : List (TuiEvent DiscoveryMetrics.EventKind)}
    (hstep : DashboardStep metrics e metrics') (h : DiscoveryMetrics.Noted metrics history)
    (hincreasing : (history.map TuiEvent.elapsed).Pairwise (· < ·)) :
    ∃ more, DiscoveryMetrics.Noted metrics' (history ++ more) ∧
      ((history ++ more).map TuiEvent.elapsed).Pairwise (· < ·) := by
  cases hstep with
  | @pushEvent m kind now increasing =>
      obtain ⟨e, hsnapshot, hnoted⟩ := h.pushEvent kind now
      have hcapacity : 2 ≤ DiscoveryMetrics.eventBufferCapacity := by decide
      refine ⟨[e], hnoted, ?_⟩
      rw [hsnapshot, ← rtake_map, List.map_append] at increasing
      rw [List.map_append]
      refine pairwise_snoc_of_rtake ?_ hcapacity hincreasing increasing
      intro x y z
      exact Nat.lt_trans
  | count same =>
      refine ⟨[], ?_, by rwa [List.append_nil]⟩
      cases h with
      | noted holds =>
          rw [List.append_nil]
          exact DiscoveryMetrics.Noted.noted (same.trans holds)
  | answered => exact ⟨[], by rwa [List.append_nil], by rwa [List.append_nil]⟩
  | lost => exact ⟨[], by rwa [List.append_nil], by rwa [List.append_nil]⟩

end NoPanic
