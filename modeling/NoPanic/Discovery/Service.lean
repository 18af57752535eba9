/-
# The directory as a service

The directory answers eight requests. A handler makes one call to the registry, under its
lock, and afterwards counts what it did and notes it in the activity log. Nothing keeps the
handlers from overtaking each other between the two, so a state of the service holds besides
the registry and the metrics what the handlers have still to do to the metrics.

Every answered request is counted and noted once, and no refused one is: what the counters
and the activity log show, and what the handlers still owe them, are together what the
requests call for.
-/

import Mathlib.Data.UInt
import NoPanic.Discovery.BandwidthSums
import NoPanic.Discovery.Dashboard
import NoPanic.Math.Balance
import NoPanic.Math.Outstanding
import NoPanic.Proto.Conversions

namespace NoPanic

open NoPanic.Math

namespace Reference

/-- prost's text for an unknown enumeration value. -/
scoped instance enumText : EnumText := ⟨fun value => s!"unknown enumeration value {value}"⟩

end Reference

/-! ## Requests and answers -/

/-- A node type as text. -/
def NodeType.display : NodeType → String
  | .entry => "entry"
  | .middle => "middle"
  | .exit => "exit"

/-- An error of the registry as text. -/
def RegistryError.display : RegistryError → String
  | .nodeNotFound nodeId => "Node not found: " ++ nodeId
  | .insufficientNodes reason => "Insufficient nodes: " ++ reason

/-- The error of a request. -/
inductive Status
  | invalidArgument (message : String)
  | notFound (message : String)
  | unavailable (message : String)
  | internal (message : String)
  deriving DecidableEq, Repr

/-- The status of a request that names a node. -/
def RegistryError.nodeStatus : RegistryError → Status
  | .nodeNotFound nodeId => .notFound (RegistryError.nodeNotFound nodeId).display
  | .insufficientNodes reason => .internal (RegistryError.insufficientNodes reason).display

/-- The status of a path request. -/
def RegistryError.pathStatus : RegistryError → Status
  | .insufficientNodes reason => .unavailable (RegistryError.insufficientNodes reason).display
  | .nodeNotFound nodeId => .internal (RegistryError.nodeNotFound nodeId).display

/-- A request to the directory. -/
inductive DiscoveryRequest
  | healthCheck
  | readinessCheck
  | registerNode (request : Proto.NodeDescriptor)
  | removeNode (nodeId : String)
  | updateHeartbeat (nodeId : String) (metrics : Option Proto.NodeMetrics)
  | getAllNodes
  | getRandomPath (count : UInt32)
  | getStats

/-- What a request that succeeds is answered with. -/
inductive DiscoveryReply
  | empty
  | health (response : NodeRegistry.HealthCheckResponse)
  | registered (message : String)
  | allNodes (nodes : List Proto.NodeDescriptor) (count : UInt64)
  | randomPath (nodes : List Proto.NodeDescriptor)
  | stats (stats : Proto.RegistryStats)

namespace DiscoveryMetrics

/-- The counters of the directory. -/
inductive Counter
  | registrations
  | removals
  | heartbeats
  | pathRequests
  | staleCleaned
  deriving DecidableEq, Repr

/-- What a counter shows. -/
def get (m : DiscoveryMetrics) : Counter → UInt64
  | .registrations => m.registrations
  | .removals => m.removals
  | .heartbeats => m.heartbeats
  | .pathRequests => m.pathRequests
  | .staleCleaned => m.staleCleaned

/-- Add to a counter. -/
def fetchAdd (m : DiscoveryMetrics) (n : UInt64) : Counter → DiscoveryMetrics
  | .registrations => { m with registrations := m.registrations + n }
  | .removals => { m with removals := m.removals + n }
  | .heartbeats => { m with heartbeats := m.heartbeats + n }
  | .pathRequests => { m with pathRequests := m.pathRequests + n }
  | .staleCleaned => { m with staleCleaned := m.staleCleaned + n }

/-- Adding to a counter leaves the others as they are. -/
theorem get_fetchAdd (m : DiscoveryMetrics) (n : UInt64) (c c' : Counter) :
    (m.fetchAdd n c).get c' = if c' = c then m.get c' + n else m.get c' := by
  cases c <;> cases c' <;> rfl

@[simp]
theorem events_fetchAdd (m : DiscoveryMetrics) (n : UInt64) (c : Counter) :
    (m.fetchAdd n c).events = m.events := by
  cases c <;> rfl

@[simp]
theorem get_pushEvent (m : DiscoveryMetrics) (kind : EventKind) (now : Nat) (c : Counter) :
    (m.pushEvent kind now).get c = m.get c := by
  cases c <;> rfl

/-- One thing that a handler does to the metrics. -/
inductive Update
  | fetchAdd (counter : Counter) (n : Nat)
  | pushEvent (kind : EventKind)

/-- Do it. -/
def apply (m : DiscoveryMetrics) (now : Nat) : Update → DiscoveryMetrics
  | .fetchAdd counter n => m.fetchAdd (UInt64.ofNat n) counter
  | .pushEvent kind => m.pushEvent kind now

/-- What an update adds to a counter. -/
def Update.amount (c : Counter) : Update → Nat
  | .fetchAdd counter n => if c = counter then n else 0
  | .pushEvent _ => 0

/-- What an update notes. -/
def Update.kind? : Update → Option EventKind
  | .fetchAdd _ _ => none
  | .pushEvent kind => some kind

/-- The metrics show the updates that have been made. -/
structure Shows (m : DiscoveryMetrics) (done : List Update) : Prop where
  counted : ∀ c, m.get c = UInt64.ofNat (done.map (Update.amount c)).sum
  noted : ∃ history, Noted (some m) history ∧
    history.map TuiEvent.kind = done.filterMap Update.kind?

/-- New metrics show nothing. -/
theorem shows_new (bufferNow now : Nat) : Shows (new bufferNow now) [] where
  counted c := by cases c <;> rfl
  noted := ⟨[], noted_new bufferNow now, rfl⟩

/-- One more update. -/
theorem Shows.apply {m : DiscoveryMetrics} {done : List Update} (h : Shows m done) (now : Nat)
    (u : Update) : Shows (m.apply now u) (done ++ [u]) := by
  obtain ⟨hcounted, history, hnoted, hkinds⟩ := h
  cases u with
  | fetchAdd counter n =>
      refine ⟨fun c => ?_, history, ?_, ?_⟩
      · rw [DiscoveryMetrics.apply, get_fetchAdd, hcounted, List.map_append, List.sum_append,
          List.map_singleton, List.sum_singleton, Update.amount]
        by_cases hc : c = counter
        · rw [if_pos hc, if_pos hc, UInt64.ofNat_add]
        · rw [if_neg hc, if_neg hc, Nat.add_zero]
      · cases hnoted with
        | noted holds =>
            exact Noted.noted ((events_fetchAdd m (UInt64.ofNat n) counter).trans holds)
      · rw [List.filterMap_append, hkinds]
        exact (List.append_nil _).symm
  | pushEvent kind =>
      refine ⟨fun c => ?_, ?_⟩
      · rw [DiscoveryMetrics.apply, get_pushEvent, hcounted, List.map_append, List.sum_append]
        rfl
      · cases hnoted with
        | @noted _ startTime _ holds =>
            have hpush : (m.pushEvent kind now).events =
                EventBuffer.holding eventBufferCapacity startTime
                  (history ++ [⟨now - startTime, kind⟩]) := by
              rw [DiscoveryMetrics.pushEvent, holds, EventBuffer.push_holding (by decide)]
            refine ⟨_, Noted.noted hpush, ?_⟩
            rw [List.map_append, List.filterMap_append, hkinds]
            rfl

end DiscoveryMetrics

/-! ## The handlers -/

/-- What serving a request does: the registry after it, what is left to do to the metrics, and
the answer. -/
structure Served where
  registry : NodeRegistry
  updates : List DiscoveryMetrics.Update
  reply : Except Status DiscoveryReply

namespace DiscoveryService

/-- Answer without a trace. -/
def answer (r : NodeRegistry) (reply : DiscoveryReply) : Served := ⟨r, [], .ok reply⟩

/-- Refuse a request. -/
def refuse (r : NodeRegistry) (status : Status) : Served := ⟨r, [], .error status⟩

/-- `health_check`. -/
def healthCheck (r : NodeRegistry) : Served :=
  let response := r.healthCheck
  ⟨r, [.pushEvent (.healthCheck response.ready)], .ok (.health response)⟩

/-- `readiness_check`. -/
def readinessCheck (r : NodeRegistry) : Served :=
  match r.readinessCheck with
  | .ok () => answer r .empty
  | .error (.unavailable message) => refuse r (.unavailable message)

/-- `remove_node`. -/
def removeNode (r : NodeRegistry) (nodeId : String) : Served :=
  match r.removeNode nodeId with
  | .error e => refuse r e.nodeStatus
  | .ok registry =>
      ⟨registry, [.fetchAdd .removals 1, .pushEvent (.nodeRemoved nodeId)], .ok .empty⟩

/-- `update_heartbeat`. -/
def updateHeartbeat (r : NodeRegistry) (nodeId : String) (metrics : Option Proto.NodeMetrics)
    (now : Nat) : Served :=
  match metrics with
  | none => refuse r (.invalidArgument "Metrics are required")
  | some metrics =>
      match r.updateHeartbeatWithMetrics nodeId metrics.toCommon now with
      | .error e => refuse r e.nodeStatus
      | .ok registry =>
          ⟨registry, [.fetchAdd .heartbeats 1, .pushEvent (.heartbeat nodeId)], .ok .empty⟩

/-- `get_stats`. -/
def getStats (r : NodeRegistry) (now : Nat) : Served :=
  let stats := r.getStats now
  let reply : Proto.RegistryStats :=
    { totalNodes := UInt64.ofNat stats.totalNodes
      entryCount := UInt64.ofNat stats.entryCount
      middleCount := UInt64.ofNat stats.middleCount
      exitCount := UInt64.ofNat stats.exitCount
      oldestNodeAgeSecs := stats.oldestNodeAgeSecs.map UInt64.ofNat
      newestNodeAgeSecs := stats.newestNodeAgeSecs.map UInt64.ofNat }
  ⟨r, [.pushEvent .statsQueried], .ok (.stats reply)⟩

section

variable [AddrText]

/-- `get_all_nodes`. -/
def getAllNodes (r : NodeRegistry) : Served :=
  let nodes := r.getAllEntries.map NodeEntry.descriptor
  answer r (.allNodes (nodes.map Proto.NodeDescriptor.fromCommon) (UInt64.ofNat nodes.length))

/-- `get_random_path`: at least three hops are asked for. -/
def getRandomPath {R : Type} [Rng R] (r : NodeRegistry) (count : UInt32) (rng : R) : Served :=
  match r.getRandomPath (max count.toNat 3) rng with
  | .error e => refuse r e.pathStatus
  | .ok path =>
      ⟨r, [.fetchAdd .pathRequests 1, .pushEvent .pathRequested],
        .ok (.randomPath (path.map Proto.NodeDescriptor.fromCommon))⟩

variable [EnumText]

/-- `register_node`. -/
def register (r : NodeRegistry) (request : Proto.NodeDescriptor) (now : Nat) : Served :=
  match request.toCommon with
  | .error (.invalidArgument message) => refuse r (.invalidArgument message)
  | .ok descriptor =>
      if descriptor.nodeId.isEmpty then refuse r (.invalidArgument "Node ID cannot be empty")
      else if descriptor.bandwidth = 0 then
        refuse r (.invalidArgument "Bandwidth must be greater than 0")
      else
        ⟨r.registerNode descriptor now,
          [.fetchAdd .registrations 1,
            .pushEvent (.nodeRegistered descriptor.nodeId descriptor.nodeType.display
              (AddrText.display descriptor.address))],
          .ok (.registered "Node registered successfully")⟩

/-- Serve a request. -/
def serve {R : Type} [Rng R] (r : NodeRegistry) (request : DiscoveryRequest) (now : Nat)
    (rng : R) : Served :=
  match request with
  | .healthCheck => healthCheck r
  | .readinessCheck => readinessCheck r
  | .registerNode descriptor => register r descriptor now
  | .removeNode nodeId => removeNode r nodeId
  | .updateHeartbeat nodeId metrics => updateHeartbeat r nodeId metrics now
  | .getAllNodes => getAllNodes r
  | .getRandomPath count => getRandomPath r count rng
  | .getStats => getStats r now

end

end DiscoveryService

/-! ## Runs -/

/-- The directory's process: the registry, the metrics if there are any, and what the handlers
that are past the registry have still to do to the metrics, a list for each handler. -/
structure DiscoveryService where
  registry : NodeRegistry
  metrics : Option DiscoveryMetrics
  pending : List (List DiscoveryMetrics.Update)

/-- What happens in the directory's process. -/
inductive ServiceEvent
  | serve (request : DiscoveryRequest) (reply : Except Status DiscoveryReply)
  | cleanup (removed : Nat)
  | update
  | reorder

namespace ServiceEvent

/-- What an event adds to a counter: one for an answered request of the counter's kind, and the
removed nodes for a cleanup. -/
def amount (c : DiscoveryMetrics.Counter) : ServiceEvent → Nat
  | .serve (.registerNode _) (.ok _) => if c = .registrations then 1 else 0
  | .serve (.removeNode _) (.ok _) => if c = .removals then 1 else 0
  | .serve (.updateHeartbeat _ _) (.ok _) => if c = .heartbeats then 1 else 0
  | .serve (.getRandomPath _) (.ok _) => if c = .pathRequests then 1 else 0
  | .cleanup removed => if c = .staleCleaned then removed else 0
  | _ => 0

/-- What the activity log is to say of an event. -/
def kinds [AddrText] [EnumText] : ServiceEvent → List DiscoveryMetrics.EventKind
  | .serve (.registerNode request) (.ok _) =>
      match request.toCommon with
      | .ok d => [.nodeRegistered d.nodeId d.nodeType.display (AddrText.display d.address)]
      | .error _ => []
  | .serve (.removeNode nodeId) (.ok _) => [.nodeRemoved nodeId]
  | .serve (.updateHeartbeat nodeId _) (.ok _) => [.heartbeat nodeId]
  | .serve (.getRandomPath _) (.ok _) => [.pathRequested]
  | .serve .getStats (.ok _) => [.statsQueried]
  | .serve .healthCheck (.ok (.health response)) => [.healthCheck response.ready]
  | .cleanup removed => if 0 < removed then [.staleCleanup removed] else []
  | _ => []

end ServiceEvent

namespace DiscoveryService

/-- A process that has served nothing. -/
def start (allowSameIp : Bool) (metrics : Option DiscoveryMetrics) : DiscoveryService :=
  ⟨NodeRegistry.new allowSameIp, metrics, []⟩

/-- A handler is past the registry. Without metrics there is nothing left for it to do. -/
def leave (s : DiscoveryService) (registry : NodeRegistry)
    (updates : List DiscoveryMetrics.Update) : DiscoveryService :=
  { s with
    registry
    pending := if s.metrics.isSome then s.pending ++ [updates] else s.pending }

/-- What the cleanup task does to the metrics after it removed some nodes. -/
def cleanupUpdates (removed : Nat) : List DiscoveryMetrics.Update :=
  if 0 < removed then [.fetchAdd .staleCleaned removed, .pushEvent (.staleCleanup removed)] else []

section

variable [AddrText] [EnumText]

/-- The steps of the directory's process: a handler calls the registry, the cleanup task does,
one of them goes on with the metrics, or the iteration order of the registry's map changes. -/
inductive Step : DiscoveryService → ServiceEvent → DiscoveryService → Prop
  | serve {R : Type} [Rng R] (s : DiscoveryService) (request : DiscoveryRequest) (now : Nat)
      (rng : R) :
      Step s (.serve request (DiscoveryService.serve s.registry request now rng).reply)
        (s.leave (DiscoveryService.serve s.registry request now rng).registry
          (DiscoveryService.serve s.registry request now rng).updates)
  | cleanup (s : DiscoveryService) (timeout now : Nat) :
      Step s (.cleanup (s.registry.cleanupStaleNodes timeout now).2)
        (s.leave (s.registry.cleanupStaleNodes timeout now).1
          (cleanupUpdates (s.registry.cleanupStaleNodes timeout now).2))
  | update {s : DiscoveryService} {m : DiscoveryMetrics} {u : DiscoveryMetrics.Update}
      {pending : List (List DiscoveryMetrics.Update)} (now : Nat)
      (some_metrics : s.metrics = some m) (takes : Takes s.pending u pending) :
      Step s .update { s with metrics := some (m.apply now u), pending }
  | reorder {s : DiscoveryService} {nodes : HashMap String NodeEntry}
      (same : s.registry.nodes.Reorder nodes) :
      Step s .reorder { s with registry := { s.registry with nodes } }

/-- The runs of the directory's process. -/
def system (allowSameIp : Bool) (metrics : Option DiscoveryMetrics) :
    TransitionSystem DiscoveryService ServiceEvent where
  init s := s = start allowSameIp metrics
  step := Step

/-! ## What is counted and noted -/

/-- The updates of a served request are one for the counter of its kind, and one for each entry
of the activity log. -/
theorem serve_updates {R : Type} [Rng R] (r : NodeRegistry) (request : DiscoveryRequest)
    (now : Nat) (rng : R) :
    (∀ c, ((serve r request now rng).updates.map (DiscoveryMetrics.Update.amount c)).sum =
        ServiceEvent.amount c (.serve request (serve r request now rng).reply)) ∧
      (serve r request now rng).updates.filterMap DiscoveryMetrics.Update.kind? =
        ServiceEvent.kinds (.serve request (serve r request now rng).reply) := by
  cases request with
  | healthCheck => exact ⟨fun c => rfl, rfl⟩
  | readinessCheck =>
      simp only [serve, readinessCheck]
      split
      · exact ⟨fun c => rfl, rfl⟩
      · exact ⟨fun c => rfl, rfl⟩
  | registerNode descriptor =>
      simp only [serve, register]
      cases hdecoded : descriptor.toCommon with
      | error e => exact ⟨fun c => rfl, rfl⟩
      | ok d =>
          simp only
          split
          · exact ⟨fun c => rfl, rfl⟩
          · split
            · exact ⟨fun c => rfl, rfl⟩
            · refine ⟨fun c => rfl, ?_⟩
              simp only [ServiceEvent.kinds, hdecoded]
              rfl
  | removeNode nodeId =>
      simp only [serve, removeNode]
      split
      · exact ⟨fun c => rfl, rfl⟩
      · exact ⟨fun c => rfl, rfl⟩
  | updateHeartbeat nodeId metrics =>
      simp only [serve, updateHeartbeat]
      split
      · exact ⟨fun c => rfl, rfl⟩
      · split
        · exact ⟨fun c => rfl, rfl⟩
        · exact ⟨fun c => rfl, rfl⟩
  | getAllNodes => exact ⟨fun c => rfl, rfl⟩
  | getRandomPath count =>
      simp only [serve, getRandomPath]
      split
      · exact ⟨fun c => rfl, rfl⟩
      · exact ⟨fun c => rfl, rfl⟩
  | getStats => exact ⟨fun c => rfl, rfl⟩

/-- The updates of a cleanup. -/
theorem cleanup_updates (removed : Nat) :
    (∀ c, ((cleanupUpdates removed).map (DiscoveryMetrics.Update.amount c)).sum =
        ServiceEvent.amount c (.cleanup removed)) ∧
      (cleanupUpdates removed).filterMap DiscoveryMetrics.Update.kind? =
        ServiceEvent.kinds (.cleanup removed) := by
  rw [cleanupUpdates, ServiceEvent.kinds]
  by_cases hremoved : 0 < removed
  · rw [if_pos hremoved, if_pos hremoved]
    exact ⟨fun c => rfl, rfl⟩
  · rw [if_neg hremoved, if_neg hremoved]
    refine ⟨fun c => ?_, rfl⟩
    have hzero : removed = 0 := by omega
    subst hzero
    rw [ServiceEvent.amount, ite_self]
    rfl

/-- The metrics and what is pending account for all updates that the handlers were left with,
and these are the ones that the events call for. -/
def Settles (s : DiscoveryService) (es : List ServiceEvent) : Prop :=
  ∃ m given done,
    s.metrics = some m ∧ DiscoveryMetrics.Shows m done ∧ Balanced given done s.pending ∧
    (∀ c, (given.map (DiscoveryMetrics.Update.amount c)).sum =
      (es.map (ServiceEvent.amount c)).sum) ∧
    given.filterMap DiscoveryMetrics.Update.kind? = es.flatMap ServiceEvent.kinds

/-- A handler that is past the registry is left with the updates that its event calls for. -/
theorem Settles.leave {s : DiscoveryService} {es : List ServiceEvent} (h : s.Settles es)
    {registry : NodeRegistry} {updates : List DiscoveryMetrics.Update} {e : ServiceEvent}
    (hupdates : (∀ c, (updates.map (DiscoveryMetrics.Update.amount c)).sum =
        ServiceEvent.amount c e) ∧
      updates.filterMap DiscoveryMetrics.Update.kind? = ServiceEvent.kinds e) :
    (s.leave registry updates).Settles (es ++ [e]) := by
  obtain ⟨m, given, done, hmetrics, hshows, hbalanced, hamounts, hkinds⟩ := h
  refine ⟨m, given ++ updates, done, hmetrics, hshows, ?_, fun c => ?_, ?_⟩
  · have hsome : s.metrics.isSome = true := by rw [hmetrics]; rfl
    simp only [DiscoveryService.leave, hsome, if_true]
    exact hbalanced.give updates
  · rw [List.map_append, List.sum_append, hamounts, hupdates.1, List.map_append, List.sum_append,
      List.map_singleton, List.sum_singleton]
  · rw [List.filterMap_append, hkinds, hupdates.2, List.flatMap_append, List.flatMap_singleton]

/-- An event that calls for nothing. -/
theorem Settles.quiet {s t : DiscoveryService} {es : List ServiceEvent} {e : ServiceEvent}
    (h : s.Settles es) (hmetrics : t.metrics = s.metrics) (hpending : t.pending = s.pending)
    (hamount : ∀ c, ServiceEvent.amount c e = 0) (hkinds : ServiceEvent.kinds e = []) :
    t.Settles (es ++ [e]) := by
  obtain ⟨m, given, done, hm, hshows, hbalanced, hamounts, hkindsBefore⟩ := h
  refine ⟨m, given, done, hmetrics.trans hm, hshows, ?_, fun c => ?_, ?_⟩
  · rw [hpending]
    exact hbalanced
  · rw [hamounts, List.map_append, List.sum_append, List.map_singleton, List.sum_singleton,
      hamount, Nat.add_zero]
  · rw [hkindsBefore, List.flatMap_append, List.flatMap_singleton, hkinds, List.append_nil]

/-- Every step keeps the account. -/
theorem Step.settles {s t : DiscoveryService} {e : ServiceEvent} {es : List ServiceEvent}
    (hstep : Step s e t) (h : s.Settles es) : t.Settles (es ++ [e]) := by
  cases hstep with
  | serve _ request now rng => exact h.leave (serve_updates s.registry request now rng)
  | cleanup => exact h.leave (cleanup_updates _)
  | update now hm htakes =>
      rename_i m u pending
      obtain ⟨m', given, done, hmetrics, hshows, hbalanced, hamounts, hkinds⟩ := h
      have hsame : m' = m := Option.some.inj (hmetrics.symm.trans hm)
      subst hsame
      refine ⟨_, given, done ++ [u], rfl, hshows.apply now u, hbalanced.take htakes,
        fun c => ?_, ?_⟩
      · rw [hamounts, List.map_append, List.sum_append]
        rfl
      · rw [hkinds, List.flatMap_append]
        exact (List.append_nil _).symm
  | reorder same => exact h.quiet rfl rfl (fun c => rfl) rfl

/-- What a handler has still to add to a counter. -/
def owed (s : DiscoveryService) (c : DiscoveryMetrics.Counter) : Nat :=
  (s.pending.flatten.map (DiscoveryMetrics.Update.amount c)).sum

/-- What the handlers have still to note. -/
def unnoted (s : DiscoveryService) : List DiscoveryMetrics.EventKind :=
  s.pending.flatten.filterMap DiscoveryMetrics.Update.kind?

/-- However the handlers interleave, every counter is, up to wrapping around, what the answered
requests and the cleanups add up to but for what the handlers have still to add. The activity log
has had one entry for each of them, in some order, but for what they have still to note, and none
besides. A dashboard shows the newest fifty. -/
theorem counted_and_noted {allowSameIp : Bool} {bufferNow now : Nat} {es : List ServiceEvent}
    {s : DiscoveryService}
    (hrun : (system allowSameIp (some (.new bufferNow now))).Run
      (start allowSameIp (some (.new bufferNow now))) es s) :
    ∃ (m : DiscoveryMetrics) (history : List (TuiEvent DiscoveryMetrics.EventKind)),
      s.metrics = some m ∧
      (∀ c, m.get c + UInt64.ofNat (s.owed c) =
        UInt64.ofNat (es.map (ServiceEvent.amount c)).sum) ∧
      (history.map TuiEvent.kind ++ s.unnoted).Perm (es.flatMap ServiceEvent.kinds) ∧
      ∀ (atEntries atStats atReady : NodeRegistry) (statsNow answeredNow : Nat),
        (dashboardHandler atEntries atStats atReady s.metrics statsNow answeredNow).events =
          ((history.map eventToEntry).rtake dashboardEvents).reverse := by
  have hsettles : s.Settles es := by
    refine hrun.invariant_history Settles ?_ (fun s es e t _ h hstep => Step.settles hstep h)
    exact ⟨_, [], [], rfl, DiscoveryMetrics.shows_new bufferNow now, balanced_nil,
      fun c => rfl, rfl⟩
  obtain ⟨m, given, done, hmetrics, ⟨hcounted, history, hnoted, hkinds⟩, hbalanced, hamounts,
    hgiven⟩ := hsettles
  refine ⟨m, history, hmetrics, fun c => ?_, ?_, ?_⟩
  · rw [hcounted, ← UInt64.ofNat_add, owed, hbalanced.sum_map, hamounts]
  · rw [hkinds, ← hgiven]
    exact hbalanced.filterMap DiscoveryMetrics.Update.kind?
  · intro atEntries atStats atReady statsNow answeredNow
    rw [hmetrics]
    exact hnoted.events_dashboardHandler atEntries atStats atReady statsNow answeredNow

end

/-! ## A directory that has registered a relay -/

section

open Reference

/-- The registration of an exit relay. -/
def sampleRequest : DiscoveryRequest :=
  .registerNode (Proto.NodeDescriptor.fromCommon Proto.sampleExit)

/-- What the handler of the registration has to do to the metrics. -/
def sampleUpdates : List DiscoveryMetrics.Update :=
  [.fetchAdd .registrations 1, .pushEvent (.nodeRegistered "exit-1" "exit" "10.0.0.1:9001")]

/-- The registration is served. -/
theorem serve_sampleRequest (r : NodeRegistry) (now : Nat) :
    serve r sampleRequest now (⟨[]⟩ : NodeRegistry.Draws) =
      ⟨r.registerNode Proto.sampleExit now, sampleUpdates,
        .ok (.registered "Node registered successfully")⟩ := by
  have hdecodes : (Proto.NodeDescriptor.fromCommon Proto.sampleExit).toCommon =
      .ok Proto.sampleExit := by decide +kernel
  have haddress : AddrText.display Proto.sampleExit.address = "10.0.0.1:9001" := by decide +kernel
  simp only [sampleRequest, serve, register, hdecodes, haddress]
  rfl

/-- A directory whose handler has registered the relay. -/
def sampleRegistered : DiscoveryService where
  registry := (NodeRegistry.new false).registerNode Proto.sampleExit 5
  metrics := some (.new 0 0)
  pending := [sampleUpdates]

/-- The same after the handler has counted the registration. -/
def sampleCounted : DiscoveryService :=
  { sampleRegistered with
    metrics := some ((DiscoveryMetrics.new 0 0).apply 6 (.fetchAdd .registrations 1))
    pending := [sampleUpdates.tail] }

/-- The run to it. -/
theorem sampleCounted_run :
    (system false (some (.new 0 0))).Run (start false (some (.new 0 0)))
      [.serve sampleRequest (.ok (.registered "Node registered successfully")), .update]
        sampleCounted := by
  have hserve := Step.serve (start false (some (.new 0 0))) sampleRequest 5
    (⟨[]⟩ : NodeRegistry.Draws)
  rw [serve_sampleRequest] at hserve
  have htakes : Takes sampleRegistered.pending (.fetchAdd .registrations 1)
      [sampleUpdates.tail] := Takes.take (i := 0) rfl
  have hupdate : Step sampleRegistered .update sampleCounted := Step.update 6 rfl htakes
  exact ((TransitionSystem.Run.nil _).snoc hserve).snoc hupdate

/-- The registration is counted, and is still to be noted. -/
theorem counted_and_noted_sampleCounted :
    ∃ (m : DiscoveryMetrics) (history : List (TuiEvent DiscoveryMetrics.EventKind)),
      sampleCounted.metrics = some m ∧ m.registrations = 1 ∧
        (history.map TuiEvent.kind ++ sampleCounted.unnoted).Perm
          (ServiceEvent.kinds (.serve sampleRequest
            (.ok (.registered "Node registered successfully")))) := by
  obtain ⟨m, history, hmetrics, hcounted, hnoted, -⟩ := counted_and_noted sampleCounted_run
  exact ⟨m, history, hmetrics, (UInt64.add_zero _).symm.trans (hcounted .registrations), hnoted⟩

end

end DiscoveryService

end NoPanic
