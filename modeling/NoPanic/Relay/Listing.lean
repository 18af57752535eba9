/-
# A relay and its listing

A relay's process registers once, then sends heartbeats, and removes its node when it stops. The
heartbeat loop only warns when a heartbeat is refused. This module puts one relay in front of a
directory that serves anyone else in between, on one clock.

As long as the heartbeats reach the directory in time, and nobody else speaks for the relay or
takes its address, the directory lists it with its own descriptor and its latest report. Once it
is not listed it never is again, whatever it sends.
-/

import NoPanic.Discovery.Replies

namespace NoPanic

open NoPanic.Math

/-! ## What a request does to one entry -/

namespace NodeRegistry

/-- Only an absent node cannot be removed. -/
theorem lookup_of_removeNode_error {r : NodeRegistry} {nodeId : String} {e : RegistryError}
    (h : r.removeNode nodeId = .error e) : r.nodes.lookup nodeId = none := by
  rw [removeNode] at h
  split at h
  · next hlookup => exact hlookup
  · cases h

/-- Only an absent node cannot be renewed. -/
theorem lookup_of_updateHeartbeatWithMetrics_error {r : NodeRegistry} {nodeId : String}
    {metrics : NodeMetrics} {now : Nat} {e : RegistryError}
    (h : r.updateHeartbeatWithMetrics nodeId metrics now = .error e) :
    r.nodes.lookup nodeId = none := by
  rw [updateHeartbeatWithMetrics] at h
  split at h
  · next hlookup => exact hlookup
  · cases h

end NodeRegistry

namespace DiscoveryService

section

variable [AddrText] [EnumText]

/-- The descriptor that a registration files, if it is accepted. -/
def admitted? (request : Proto.NodeDescriptor) : Option NodeDescriptor :=
  match request.toCommon with
  | .error _ => none
  | .ok d => if d.nodeId.isEmpty then none else if d.bandwidth = 0 then none else some d

/-- The entry of a node after a request, from its entry before. -/
def entryAfter (n : String) (now : Nat) (entry : Option NodeEntry) :
    DiscoveryRequest → Option NodeEntry
  | .registerNode request =>
      match admitted? request with
      | none => entry
      | some d =>
          if n = d.nodeId then
            some (match entry with
              | none => NodeEntry.new d now now
              | some entry => { entry with descriptor := d, lastHeartbeat := now })
          else entry.filter fun entry => entry.descriptor.address != d.address
  | .removeNode nodeId => if n = nodeId then none else entry
  | .updateHeartbeat nodeId (some metrics) =>
      if n = nodeId then
        entry.map fun entry => { entry with lastHeartbeat := now, metrics := some metrics.toCommon }
      else entry
  | _ => entry

/-- What a request does to the entry of a node depends on that entry only. -/
theorem lookup_serve {R : Type} [Rng R] (r : NodeRegistry) (request : DiscoveryRequest)
    (now : Nat) (rng : R) (n : String) :
    (serve r request now rng).registry.nodes.lookup n =
      entryAfter n now (r.nodes.lookup n) request := by
  cases request with
  | healthCheck => rfl
  | readinessCheck =>
      simp only [serve, readinessCheck]
      split
      · rfl
      · rfl
  | registerNode descriptor =>
      simp only [serve, register, entryAfter, admitted?]
      cases hdecoded : descriptor.toCommon with
      | error e => rfl
      | ok d =>
          by_cases hid : d.nodeId.isEmpty
          · simp only [hid, if_true]
            rfl
          · by_cases hbandwidth : d.bandwidth = 0
            · simp only [hid, hbandwidth, if_true]
              rfl
            · simp only [hid, hbandwidth]
              exact NodeRegistry.lookup_registerNode r d now n
  | removeNode nodeId =>
      simp only [serve, removeNode, entryAfter]
      split
      · next e herror =>
          have habsent := NodeRegistry.lookup_of_removeNode_error herror
          by_cases hn : n = nodeId
          · rw [if_pos hn, hn]
            exact habsent
          · rw [if_neg hn]
            rfl
      · next registry hok => exact NodeRegistry.lookup_removeNode hok n
  | updateHeartbeat nodeId metrics =>
      cases metrics with
      | none => rfl
      | some metrics =>
          simp only [serve, updateHeartbeat, entryAfter]
          split
          · next e herror =>
              have habsent := NodeRegistry.lookup_of_updateHeartbeatWithMetrics_error herror
              by_cases hn : n = nodeId
              · rw [if_pos hn, hn, habsent]
                exact habsent
              · rw [if_neg hn]
                rfl
          · next registry hok => exact (NodeRegistry.lookup_updateHeartbeatWithMetrics hok n).2
  | getAllNodes => rfl
  | getRandomPath count =>
      simp only [serve, getRandomPath]
      split
      · rfl
      · rfl
  | getStats => rfl

end

end DiscoveryService

/-- What a relay's process has told the directory. -/
inductive RelayPhase
  | starting
  /-- Registered at a time, and about to spawn its tasks. -/
  | registered (since : Nat)
  /-- The interval of `heartbeat_loop` started at a time, and so many of its ticks are used up. -/
  | beating (started beats : Nat)
  /-- The node is removed; the loop goes on until the process has ended. -/
  | unregistered (started beats : Nat)
  | stopped
  deriving DecidableEq, Repr

/-- The relay is done with the directory. -/
def RelayPhase.Done : RelayPhase → Prop
  | .unregistered _ _ => True
  | .stopped => True
  | _ => False

/-- The relay and the directory, on one clock. -/
structure Listing where
  directory : DiscoveryService
  clock : Nat
  phase : RelayPhase

/-- What happens to a relay and a directory. -/
inductive ListingEvent
  | serve (request : DiscoveryRequest)
  | cleanup
  | update
  | wait (now : Nat)
  | register (reply : Except Status DiscoveryReply)
  | bindFailed
  | startHeartbeats
  | heartbeat (metrics : NodeMetrics) (reply : Except Status DiscoveryReply)
  | heartbeatLost
  | unregister (reply : Except Status DiscoveryReply)

/-- The relay's descriptor and heartbeat interval, and the directory's stale timeout. -/
structure ListingConfig where
  descriptor : NodeDescriptor
  heartbeatInterval : Nat
  staleTimeout : Nat

namespace Listing

section

variable [AddrText] [EnumText]

/-- Serve a request at the directory. -/
def served {R : Type} [Rng R] (s : Listing) (request : DiscoveryRequest) (rng : R) : Served :=
  DiscoveryService.serve s.directory.registry request s.clock rng

/-- The directory after it has served a request. -/
def after {R : Type} [Rng R] (s : Listing) (request : DiscoveryRequest) (rng : R) :
    DiscoveryService :=
  s.directory.leave (s.served request rng).registry (s.served request rng).updates

/-- `cleanup_stale_nodes` at the directory. -/
def cleaned (s : Listing) (timeout : Nat) : DiscoveryService :=
  s.directory.leave (s.directory.registry.cleanupStaleNodes timeout s.clock).1
    (DiscoveryService.cleanupUpdates (s.directory.registry.cleanupStaleNodes timeout s.clock).2)

/-- The request of `register_with_directory`. -/
def registerRequest (config : ListingConfig) : DiscoveryRequest :=
  .registerNode (Proto.NodeDescriptor.fromCommon config.descriptor)

/-- The request of a heartbeat. -/
def heartbeatRequest (config : ListingConfig) (metrics : NodeMetrics) : DiscoveryRequest :=
  .updateHeartbeat config.descriptor.nodeId (some (Proto.NodeMetrics.fromCommon metrics))

/-- The steps of a relay and a directory. A tick of the interval is never early, and a late one
does not put off the next. -/
inductive Step (config : ListingConfig) : Listing → ListingEvent → Listing → Prop
  | serve {R : Type} [Rng R] (s : Listing) (request : DiscoveryRequest) (rng : R) :
      Step config s (.serve request) { s with directory := s.after request rng }
  | cleanup (s : Listing) :
      Step config s .cleanup { s with directory := s.cleaned config.staleTimeout }
  | update {s : Listing} {t : DiscoveryService} {e : ServiceEvent}
      (inner : e = .update ∨ e = .reorder) (step : DiscoveryService.Step s.directory e t) :
      Step config s .update { s with directory := t }
  | wait {s : Listing} {now : Nat} (later : s.clock ≤ now) :
      Step config s (.wait now) { s with clock := now }
  | register {R : Type} [Rng R] {s : Listing} (rng : R) (starting : s.phase = .starting) :
      Step config s (.register (s.served (registerRequest config) rng).reply)
        { s with
          directory := s.after (registerRequest config) rng
          phase :=
            match (s.served (registerRequest config) rng).reply with
            | .ok _ => .registered s.clock
            | .error _ => .stopped }
  | bindFailed {s : Listing} {since : Nat} (registered : s.phase = .registered since) :
      Step config s .bindFailed { s with phase := .stopped }
  | startHeartbeats {s : Listing} {since : Nat} (registered : s.phase = .registered since) :
      Step config s .startHeartbeats { s with phase := .beating s.clock 0 }
  | heartbeat {R : Type} [Rng R] {s : Listing} {started beats : Nat} (rng : R)
      (beating : s.phase = .beating started beats)
      (ticked : started + beats * config.heartbeatInterval ≤ s.clock) (metrics : NodeMetrics) :
      Step config s (.heartbeat metrics (s.served (heartbeatRequest config metrics) rng).reply)
        { s with
          directory := s.after (heartbeatRequest config metrics) rng
          phase := .beating started (beats + 1) }
  | lateHeartbeat {R : Type} [Rng R] {s : Listing} {started beats : Nat} (rng : R)
      (unregistered : s.phase = .unregistered started beats)
      (ticked : started + beats * config.heartbeatInterval ≤ s.clock) (metrics : NodeMetrics) :
      Step config s (.heartbeat metrics (s.served (heartbeatRequest config metrics) rng).reply)
        { s with
          directory := s.after (heartbeatRequest config metrics) rng
          phase := .unregistered started (beats + 1) }
  | heartbeatLost {s : Listing} {started beats : Nat} (beating : s.phase = .beating started beats)
      (ticked : started + beats * config.heartbeatInterval ≤ s.clock) :
      Step config s .heartbeatLost { s with phase := .beating started (beats + 1) }
  | unregister {R : Type} [Rng R] {s : Listing} {started beats : Nat} (rng : R)
      (beating : s.phase = .beating started beats) :
      Step config s
        (.unregister (s.served (.removeNode config.descriptor.nodeId) rng).reply)
        { s with
          directory := s.after (.removeNode config.descriptor.nodeId) rng
          phase := .unregistered started beats }
  | stop {s : Listing} {started beats : Nat}
      (unregistered : s.phase = .unregistered started beats) :
      Step config s .update { s with phase := .stopped }

/-- The runs of a relay and a directory, from a directory that has served nothing. -/
def system (config : ListingConfig) (allowSameIp : Bool) (metrics : Option DiscoveryMetrics) :
    TransitionSystem Listing ListingEvent where
  init s := s.directory = DiscoveryService.start allowSameIp metrics ∧ s.phase = .starting
  step := Step config

/-- What the directory holds of the relay. -/
def listed? (s : Listing) (config : ListingConfig) : Option NodeEntry :=
  s.directory.registry.nodes.lookup config.descriptor.nodeId

/-- A heartbeat is answered if the node is there. -/
theorem reply_heartbeat {R : Type} [Rng R] (s : Listing) (config : ListingConfig)
    (metrics : NodeMetrics) (rng : R) :
    (s.served (heartbeatRequest config metrics) rng).reply =
      match s.listed? config with
      | none => .error (.notFound ("Node not found: " ++ config.descriptor.nodeId))
      | some _ => .ok .empty := by
  simp only [served, heartbeatRequest, DiscoveryService.serve, DiscoveryService.updateHeartbeat,
    NodeRegistry.updateHeartbeatWithMetrics, listed?]
  cases s.directory.registry.nodes.lookup config.descriptor.nodeId with
  | none => rfl
  | some entry => rfl

/-- What a request does to the entry of the relay. -/
theorem listed?_after {R : Type} [Rng R] (s : Listing) (config : ListingConfig)
    (request : DiscoveryRequest) (rng : R) (phase : RelayPhase) :
    listed? { s with directory := s.after request rng, phase } config =
      DiscoveryService.entryAfter config.descriptor.nodeId s.clock (s.listed? config) request :=
  DiscoveryService.lookup_serve s.directory.registry request s.clock rng _

omit [AddrText] [EnumText] in
/-- What a cleanup does to it. -/
theorem listed?_cleaned (s : Listing) (config : ListingConfig) (timeout : Nat) :
    listed? { s with directory := s.cleaned timeout } config =
      (s.listed? config).filter fun entry => !decide (s.clock - entry.lastHeartbeat > timeout) :=
  NodeRegistry.lookup_cleanupStaleNodes s.directory.registry timeout s.clock _

/-- What the directory does by itself, cleanups apart, leaves it as it is. -/
theorem listed?_update {s : Listing} {config : ListingConfig} {t : DiscoveryService}
    {e : ServiceEvent} (inner : e = .update ∨ e = .reorder)
    (step : DiscoveryService.Step s.directory e t) :
    listed? { s with directory := t } config = s.listed? config := by
  cases step with
  | update => rfl
  | reorder same => exact same.lookup_eq _
  | serve => simp at inner
  | cleanup => simp at inner

/-! ## Dropped for good -/

/-- Nobody else registers the relay's id. -/
def KeepsId (config : ListingConfig) (_ : Listing) : ListingEvent → Prop
  | .serve (.registerNode request) =>
      ∀ d, DiscoveryService.admitted? request = some d → d.nodeId ≠ config.descriptor.nodeId
  | _ => True

/-- A request that does not register an absent node leaves it absent. -/
theorem entryAfter_none {n : String} {now : Nat} {request : DiscoveryRequest}
    (hother : ∀ p d, request = .registerNode p → DiscoveryService.admitted? p = some d →
      d.nodeId ≠ n) :
    DiscoveryService.entryAfter n now none request = none := by
  cases request with
  | registerNode p =>
      simp only [DiscoveryService.entryAfter]
      cases hadmitted : DiscoveryService.admitted? p with
      | none => rfl
      | some d =>
          simp only
          rw [if_neg fun heq => hother p d rfl hadmitted heq.symm]
          rfl
  | removeNode nodeId => exact ite_self none
  | updateHeartbeat nodeId metrics =>
      cases metrics with
      | none => rfl
      | some metrics => exact ite_self none
  | healthCheck => rfl
  | readinessCheck => rfl
  | getAllNodes => rfl
  | getRandomPath count => rfl
  | getStats => rfl

/-- A relay that is not listed, after it has registered, is not listed after the next step, and
its heartbeats are refused. -/
theorem Step.absent {config : ListingConfig} {s t : Listing} {e : ListingEvent}
    (hstep : Step config s e t) (hkeeps : KeepsId config s e) (hphase : s.phase ≠ .starting)
    (habsent : s.listed? config = none) :
    t.phase ≠ .starting ∧ t.listed? config = none ∧
      ∀ metrics reply, e = .heartbeat metrics reply →
        reply = .error (.notFound ("Node not found: " ++ config.descriptor.nodeId)) := by
  have hown : ∀ {R : Type} [Rng R] (request : DiscoveryRequest) (rng : R) (phase : RelayPhase),
      (∀ p d, request = .registerNode p → DiscoveryService.admitted? p = some d →
        d.nodeId ≠ config.descriptor.nodeId) →
      listed? { s with directory := s.after request rng, phase } config = none := by
    intro R _ request rng phase hother
    rw [listed?_after, habsent]
    exact entryAfter_none hother
  cases hstep with
  | serve _ request rng =>
      refine ⟨hphase, hown request rng s.phase ?_, by simp⟩
      rintro p d rfl hadmitted
      exact hkeeps d hadmitted
  | cleanup =>
      refine ⟨hphase, ?_, by simp⟩
      rw [listed?_cleaned, habsent]
      rfl
  | update inner step => exact ⟨hphase, (listed?_update inner step).trans habsent, by simp⟩
  | wait => exact ⟨hphase, habsent, by simp⟩
  | register _ starting => exact absurd starting hphase
  | bindFailed => exact ⟨by simp, habsent, by simp⟩
  | startHeartbeats => exact ⟨by simp, habsent, by simp⟩
  | heartbeat rng beating ticked metrics =>
      refine ⟨by simp, hown _ rng _ (by simp [heartbeatRequest]), ?_⟩
      rintro m reply heq
      cases heq
      rw [reply_heartbeat, habsent]
  | lateHeartbeat rng unregistered ticked metrics =>
      refine ⟨by simp, hown _ rng _ (by simp [heartbeatRequest]), ?_⟩
      rintro m reply heq
      cases heq
      rw [reply_heartbeat, habsent]
  | heartbeatLost => exact ⟨by simp, habsent, by simp⟩
  | unregister rng => exact ⟨by simp, hown _ rng _ (by simp), by simp⟩
  | stop => exact ⟨by simp, habsent, by simp⟩

/-- A relay that has registered, and is not listed any more, is never listed again, and every
heartbeat it sends from then on is refused: it never registers a second time. -/
theorem dropped_for_good {config : ListingConfig} {allowSameIp : Bool}
    {metrics : Option DiscoveryMetrics} {s t : Listing} {es : List ListingEvent}
    (hrun : ((system config allowSameIp metrics).restrict (KeepsId config)).Run s es t)
    (hphase : s.phase ≠ .starting) (habsent : s.listed? config = none) :
    t.listed? config = none ∧ ∀ m reply, .heartbeat m reply ∈ es →
      reply = .error (.notFound ("Node not found: " ++ config.descriptor.nodeId)) := by
  have hinv := hrun.invariant_history (fun t es => t.phase ≠ .starting ∧ t.listed? config = none ∧
    ∀ m reply, .heartbeat m reply ∈ es →
      reply = .error (.notFound ("Node not found: " ++ config.descriptor.nodeId)))
    ⟨hphase, habsent, by simp⟩ ?_
  · exact hinv.2
  · rintro u es e v - ⟨hphase, habsent, hrefused⟩ ⟨hkeeps, hstep⟩
    obtain ⟨hphase', habsent', hrefused'⟩ := Step.absent hstep hkeeps hphase habsent
    refine ⟨hphase', habsent', ?_⟩
    intro m reply hmem
    rcases List.mem_append.mp hmem with hbefore | hlast
    · exact hrefused m reply hbefore
    · exact hrefused' m reply (List.mem_singleton.mp hlast).symm

end

/-! ## Listed while the heartbeats come -/

/-- By when the next thing that the relay does has happened: its heartbeat loop starts within
`startDelay`, and a heartbeat reaches the directory within `delay` of its tick. -/
def deadline? (config : ListingConfig) (startDelay delay : Nat) : RelayPhase → Option Nat
  | .registered since => some (since + startDelay)
  | .beating started beats => some (started + beats * config.heartbeatInterval + delay)
  | _ => none

/-- What a heartbeat reports, if it is accepted. -/
def reported? (_ : List ListingEvent) : ListingEvent → Option NodeMetrics
  | .heartbeat metrics (.ok _) => some metrics
  | _ => none

/-- The directory's entry is the relay's own, and is up to date. -/
structure Current (config : ListingConfig) (s : Listing) (es : List ListingEvent)
    (entry : NodeEntry) : Prop where
  held : s.listed? config = some entry
  descriptor : entry.descriptor = config.descriptor
  metrics : entry.metrics = latest reported? es
  answered : ∀ m reply, .heartbeat m reply ∈ es → reply = .ok .empty

/-- Where a relay stands whose heartbeats come in time. -/
inductive OnTime (config : ListingConfig) (startDelay delay : Nat) (s : Listing)
    (es : List ListingEvent) : Prop
  | starting (phase : s.phase = .starting) (absent : s.listed? config = none)
      (silent : ∀ m reply, .heartbeat m reply ∉ es) (unreported : latest reported? es = none)
  | registered {since : Nat} {entry : NodeEntry} (phase : s.phase = .registered since)
      (current : Current config s es entry) (seen : entry.lastHeartbeat = since)
      (due : s.clock ≤ since + startDelay)
  | beating {started beats : Nat} {entry : NodeEntry} (phase : s.phase = .beating started beats)
      (current : Current config s es entry)
      (seen : started + beats * config.heartbeatInterval ≤
        entry.lastHeartbeat + max startDelay config.heartbeatInterval)
      (due : s.clock ≤ started + beats * config.heartbeatInterval + delay)
  | done (phase : s.phase.Done)

section

variable {config : ListingConfig} {startDelay delay : Nat} {s t : Listing}
  {es : List ListingEvent} {e : ListingEvent} {entry : NodeEntry}

/-- What is not a heartbeat reports nothing. -/
theorem latest_reported?_snoc (hother : ∀ m reply, e ≠ .heartbeat m reply) :
    latest reported? (es ++ [e]) = latest reported? es := by
  have hnone : reported? es e = none := by
    cases e with
    | heartbeat m reply => exact absurd rfl (hother m reply)
    | _ => rfl
  rw [latest_snoc, hnone, Option.none_or]

/-- It adds no heartbeat. -/
theorem mem_of_mem_snoc (hother : ∀ m reply, e ≠ .heartbeat m reply) {m : NodeMetrics}
    {reply : Except Status DiscoveryReply} (hmem : .heartbeat m reply ∈ es ++ [e]) :
    .heartbeat m reply ∈ es := by
  rcases List.mem_append.mp hmem with hbefore | hlast
  · exact hbefore
  · exact absurd (List.mem_singleton.mp hlast).symm (hother m reply)

/-- If it leaves the entry, the entry stays up to date. -/
theorem Current.keep (h : Current config s es entry) (hentry : t.listed? config = s.listed? config)
    (hother : ∀ m reply, e ≠ .heartbeat m reply) : Current config t (es ++ [e]) entry :=
  ⟨hentry.trans h.held, h.descriptor, h.metrics.trans (latest_reported?_snoc hother).symm,
    fun m reply hmem => h.answered m reply (mem_of_mem_snoc hother hmem)⟩

/-- If it leaves the phase and the clock too, the relay stands where it stood. -/
theorem OnTime.keep (h : OnTime config startDelay delay s es) (hphase : t.phase = s.phase)
    (hclock : t.clock = s.clock) (hentry : t.listed? config = s.listed? config)
    (hother : ∀ m reply, e ≠ .heartbeat m reply) :
    OnTime config startDelay delay t (es ++ [e]) := by
  cases h with
  | starting phase absent silent unreported =>
      exact .starting (hphase.trans phase) (hentry.trans absent)
        (fun m reply hmem => silent m reply (mem_of_mem_snoc hother hmem))
        ((latest_reported?_snoc hother).trans unreported)
  | registered phase current seen due =>
      exact .registered (hphase.trans phase) (current.keep hentry hother) seen (hclock ▸ due)
  | beating phase current seen due =>
      exact .beating (hphase.trans phase) (current.keep hentry hother) seen (hclock ▸ due)
  | done phase => exact .done (hphase ▸ phase)

/-- Until the relay is done with the directory, it has no entry but its own. -/
theorem OnTime.descriptor (h : OnTime config startDelay delay s es) (hactive : ¬ s.phase.Done)
    (hentry : s.listed? config = some entry) : entry.descriptor = config.descriptor := by
  cases h with
  | starting _ absent =>
      rw [absent] at hentry
      cases hentry
  | registered _ current =>
      rw [current.held] at hentry
      cases hentry
      exact current.descriptor
  | beating _ current =>
      rw [current.held] at hentry
      cases hentry
      exact current.descriptor
  | done phase => exact absurd phase hactive

/-- Until then the directory does not find it stale. -/
theorem OnTime.fresh (h : OnTime config startDelay delay s es) (hactive : ¬ s.phase.Done)
    (hstart : startDelay + delay ≤ config.staleTimeout)
    (hbeat : config.heartbeatInterval + delay ≤ config.staleTimeout)
    (hentry : s.listed? config = some entry) :
    s.clock - entry.lastHeartbeat ≤ config.staleTimeout := by
  cases h with
  | starting _ absent =>
      rw [absent] at hentry
      cases hentry
  | registered _ current seen due =>
      rw [current.held] at hentry
      cases hentry
      omega
  | beating _ current seen due =>
      rw [current.held] at hentry
      cases hentry
      omega
  | done phase => exact absurd phase hactive

/-- The clock goes on, to the relay's next deadline at most. -/
theorem OnTime.wait {now : Nat} (h : OnTime config startDelay delay s es)
    (hdue : ∀ deadline, deadline? config startDelay delay s.phase = some deadline →
      now ≤ deadline) :
    OnTime config startDelay delay { s with clock := now } (es ++ [.wait now]) := by
  have hother : ∀ m reply, ListingEvent.wait now ≠ .heartbeat m reply := by simp
  cases h with
  | starting phase absent silent unreported =>
      exact .starting phase absent
        (fun m reply hmem => silent m reply (mem_of_mem_snoc hother hmem))
        ((latest_reported?_snoc hother).trans unreported)
  | registered phase current seen =>
      exact .registered phase (current.keep rfl hother) seen (hdue _ (by rw [phase]; rfl))
  | beating phase current seen =>
      exact .beating phase (current.keep rfl hother) seen (hdue _ (by rw [phase]; rfl))
  | done phase => exact .done phase

end

section

variable [AddrText] [EnumText]

/-- A request that does not speak for the relay, and does not take its address. -/
def LeavesAlone (config : ListingConfig) : DiscoveryRequest → Prop
  | .registerNode request =>
      ∀ d, DiscoveryService.admitted? request = some d →
        d.nodeId ≠ config.descriptor.nodeId ∧ d.address ≠ config.descriptor.address
  | .removeNode nodeId => nodeId ≠ config.descriptor.nodeId
  | .updateHeartbeat nodeId _ => nodeId ≠ config.descriptor.nodeId
  | _ => True

/-- Nobody disturbs the relay, and its heartbeats come in time. -/
def Undisturbed (config : ListingConfig) (startDelay delay : Nat) (s : Listing) :
    ListingEvent → Prop
  | .serve request => LeavesAlone config request
  | .wait now => ∀ deadline, deadline? config startDelay delay s.phase = some deadline →
      now ≤ deadline
  | .heartbeatLost => False
  | _ => True

/-- Such a request leaves the relay's own entry as it is. -/
theorem entryAfter_of_leavesAlone {config : ListingConfig} {request : DiscoveryRequest}
    (h : LeavesAlone config request) {entry : Option NodeEntry} {now : Nat}
    (hown : ∀ e, entry = some e → e.descriptor = config.descriptor) :
    DiscoveryService.entryAfter config.descriptor.nodeId now entry request = entry := by
  cases request with
  | registerNode p =>
      simp only [DiscoveryService.entryAfter]
      cases hadmitted : DiscoveryService.admitted? p with
      | none => rfl
      | some d =>
          obtain ⟨hid, haddress⟩ := h d hadmitted
          simp only
          rw [if_neg fun heq => hid heq.symm]
          cases entry with
          | none => rfl
          | some e =>
              have hkept : (e.descriptor.address != d.address) = true := by
                rw [hown e rfl]
                simpa using fun heq => haddress heq.symm
              exact Option.filter_some_pos hkept
  | removeNode nodeId => exact if_neg fun heq => h heq.symm
  | updateHeartbeat nodeId metrics =>
      cases metrics with
      | none => rfl
      | some metrics => exact if_neg fun heq => h heq.symm
  | healthCheck => rfl
  | readinessCheck => rfl
  | getAllNodes => rfl
  | getRandomPath count => rfl
  | getStats => rfl

/-- The directory accepts the relay's descriptor. -/
structure Registrable (d : NodeDescriptor) : Prop where
  nodeId : d.nodeId.isEmpty = false
  bandwidth : d.bandwidth ≠ 0
  address : AddrText.parse (AddrText.display d.address) = some d.address

theorem Registrable.admitted {d : NodeDescriptor} (h : Registrable d) :
    DiscoveryService.admitted? (Proto.NodeDescriptor.fromCommon d) = some d := by
  simp only [DiscoveryService.admitted?, Proto.NodeDescriptor.toCommon_fromCommon h.address,
    h.nodeId, Bool.false_eq_true, if_false, if_neg h.bandwidth]

theorem Registrable.reply {config : ListingConfig} (h : Registrable config.descriptor) {R : Type}
    [Rng R] (s : Listing) (rng : R) :
    (s.served (registerRequest config) rng).reply =
      .ok (.registered "Node registered successfully") := by
  simp only [served, registerRequest, DiscoveryService.serve, DiscoveryService.register,
    Proto.NodeDescriptor.toCommon_fromCommon h.address, h.nodeId, Bool.false_eq_true, if_false,
    if_neg h.bandwidth]

section

variable {config : ListingConfig} {startDelay delay : Nat} {s t : Listing}
  {es : List ListingEvent} {e : ListingEvent}

/-- The registration files the relay's descriptor. -/
theorem OnTime.register {R : Type} [Rng R] (h : OnTime config startDelay delay s es)
    (hregistrable : Registrable config.descriptor) (starting : s.phase = .starting) (rng : R) :
    OnTime config startDelay delay
      { s with directory := s.after (registerRequest config) rng, phase := .registered s.clock }
      (es ++ [.register (s.served (registerRequest config) rng).reply]) := by
  cases h with
  | starting _ absent silent unreported =>
      have hheld : listed? { s with
          directory := s.after (registerRequest config) rng
          phase := .registered s.clock } config =
            some (NodeEntry.new config.descriptor s.clock s.clock) := by
        rw [listed?_after, absent]
        simp only [registerRequest, DiscoveryService.entryAfter, hregistrable.admitted, if_true]
      refine .registered rfl ⟨hheld, rfl, ?_, ?_⟩ rfl (Nat.le_add_right _ _)
      · rw [latest_reported?_snoc (by simp), unreported]
        rfl
      · intro m reply hmem
        exact absurd (mem_of_mem_snoc (by simp) hmem) (silent m reply)
  | registered phase => simp [starting] at phase
  | beating phase => simp [starting] at phase
  | done phase => simp [starting, RelayPhase.Done] at phase

/-- A heartbeat renews the relay's entry. -/
theorem OnTime.heartbeat {R : Type} [Rng R] {started beats : Nat}
    (h : OnTime config startDelay delay s es) (beating : s.phase = .beating started beats)
    (ticked : started + beats * config.heartbeatInterval ≤ s.clock) (metrics : NodeMetrics)
    (rng : R) :
    OnTime config startDelay delay
      { s with
        directory := s.after (heartbeatRequest config metrics) rng
        phase := .beating started (beats + 1) }
      (es ++ [.heartbeat metrics (s.served (heartbeatRequest config metrics) rng).reply]) := by
  cases h with
  | @beating _ _ entry phase current seen due =>
      rw [beating] at phase
      cases phase
      have hreply : (s.served (heartbeatRequest config metrics) rng).reply = .ok .empty := by
        rw [reply_heartbeat, current.held]
      have hheld : listed? { s with
          directory := s.after (heartbeatRequest config metrics) rng
          phase := .beating started (beats + 1) } config =
            some { entry with lastHeartbeat := s.clock, metrics := some metrics } := by
        rw [listed?_after, current.held]
        simp only [heartbeatRequest, DiscoveryService.entryAfter, if_true, Option.map_some,
          Proto.NodeMetrics.toCommon_fromCommon]
      have hnext : (beats + 1) * config.heartbeatInterval =
          beats * config.heartbeatInterval + config.heartbeatInterval := Nat.succ_mul _ _
      refine .beating rfl ⟨hheld, current.descriptor, ?_, ?_⟩ ?_ ?_
      · rw [hreply, latest_snoc]
        rfl
      · intro m reply hmem
        rcases List.mem_append.mp hmem with hbefore | hlast
        · exact current.answered m reply hbefore
        · cases List.mem_singleton.mp hlast
          exact hreply
      · simp only
        omega
      · simp only
        omega
  | starting phase => simp [beating] at phase
  | registered phase => simp [beating] at phase
  | done phase => simp [beating, RelayPhase.Done] at phase

/-- An undisturbed step leaves a relay on time. -/
theorem OnTime.step (h : OnTime config startDelay delay s es)
    (hregistrable : Registrable config.descriptor)
    (hstart : startDelay + delay ≤ config.staleTimeout)
    (hbeat : config.heartbeatInterval + delay ≤ config.staleTimeout)
    (hundisturbed : Undisturbed config startDelay delay s e) (hstep : Step config s e t) :
    OnTime config startDelay delay t (es ++ [e]) := by
  cases hstep with
  | serve _ request rng =>
      by_cases hdone : s.phase.Done
      · exact .done hdone
      · have hentry : listed? { s with directory := s.after request rng } config =
            s.listed? config := by
          rw [listed?_after s config request rng s.phase]
          exact entryAfter_of_leavesAlone hundisturbed fun _ => h.descriptor hdone
        exact h.keep rfl rfl hentry (by simp)
  | cleanup =>
      by_cases hdone : s.phase.Done
      · exact .done hdone
      · have hentry : listed? { s with directory := s.cleaned config.staleTimeout } config =
            s.listed? config := by
          rw [listed?_cleaned]
          cases hheld : s.listed? config with
          | none => rfl
          | some entry =>
              have hfresh := h.fresh hdone hstart hbeat hheld
              exact Option.filter_some_pos (by simpa using hfresh)
        exact h.keep rfl rfl hentry (by simp)
  | update inner step => exact h.keep rfl rfl (listed?_update inner step) (by simp)
  | wait => exact h.wait hundisturbed
  | register rng starting =>
      have hregistered := h.register hregistrable starting rng
      simp only [hregistrable.reply s rng] at hregistered ⊢
      exact hregistered
  | bindFailed => exact .done trivial
  | startHeartbeats registered =>
      cases h with
      | registered phase current seen due =>
          rw [registered] at phase
          cases phase
          have hcurrent := current.keep (t := { s with phase := .beating s.clock 0 })
            (e := .startHeartbeats) rfl (by simp)
          have hfirst : 0 * config.heartbeatInterval = 0 := Nat.zero_mul _
          refine .beating rfl hcurrent (by omega) ?_
          show s.clock ≤ s.clock + 0 * config.heartbeatInterval + delay
          omega
      | starting phase => simp [registered] at phase
      | beating phase => simp [registered] at phase
      | done phase => simp [registered, RelayPhase.Done] at phase
  | heartbeat rng beating ticked metrics => exact h.heartbeat beating ticked metrics rng
  | lateHeartbeat => exact .done trivial
  | heartbeatLost => exact absurd hundisturbed id
  | unregister => exact .done trivial
  | stop => exact .done trivial

end

/-- A relay whose heartbeats come in time, and whom nobody disturbs, is listed from its
registration until it removes itself: with its own descriptor, the metrics of its latest
heartbeat, and all its heartbeats accepted. It is enough that the interval and the delay of a
heartbeat together stay within the stale timeout, and so do the delays of the first one. -/
theorem listed_while_beating {config : ListingConfig} {startDelay delay : Nat}
    (hregistrable : Registrable config.descriptor)
    (hstart : startDelay + delay ≤ config.staleTimeout)
    (hbeat : config.heartbeatInterval + delay ≤ config.staleTimeout) {allowSameIp : Bool}
    {metrics : Option DiscoveryMetrics} {s₀ s : Listing} {es : List ListingEvent}
    (hinit : (system config allowSameIp metrics).init s₀)
    (hrun : ((system config allowSameIp metrics).restrict
      (Undisturbed config startDelay delay)).Run s₀ es s)
    (hstarted : s.phase ≠ .starting) (hactive : ¬ s.phase.Done) :
    ∃ entry, s.listed? config = some entry ∧ entry.descriptor = config.descriptor ∧
      entry.metrics = latest reported? es ∧
      s.clock - entry.lastHeartbeat ≤ config.staleTimeout ∧
      ∀ m reply, .heartbeat m reply ∈ es → reply = .ok .empty := by
  have hontime : OnTime config startDelay delay s es := by
    refine hrun.invariant_history (OnTime config startDelay delay) ?_ ?_
    · obtain ⟨hdirectory, hphase⟩ := hinit
      refine .starting hphase ?_ (by simp) rfl
      rw [listed?, hdirectory]
      rfl
    · rintro s es e t - h ⟨hundisturbed, hstep⟩
      exact h.step hregistrable hstart hbeat hundisturbed hstep
  have hfresh : ∀ entry, s.listed? config = some entry →
      s.clock - entry.lastHeartbeat ≤ config.staleTimeout :=
    fun _ => hontime.fresh hactive hstart hbeat
  cases hontime with
  | starting phase => exact absurd phase hstarted
  | registered _ current =>
      exact ⟨_, current.held, current.descriptor, current.metrics, hfresh _ current.held,
        current.answered⟩
  | beating _ current =>
      exact ⟨_, current.held, current.descriptor, current.metrics, hfresh _ current.held,
        current.answered⟩
  | done phase => exact absurd phase hactive

end

/-! ## The listing of an exit relay -/

section

open Reference

/-- An exit relay that beats every minute, at a directory that waits for two. -/
def sampleConfig : ListingConfig := ⟨Proto.sampleExit, 60, 120⟩

/-- It is about to register. -/
def sampleStart : Listing := ⟨DiscoveryService.start false none, 0, .starting⟩

/-- It has registered, and its heartbeat loop has started. -/
def sampleBeating : Listing where
  directory := sampleStart.after (registerRequest sampleConfig) (⟨[]⟩ : NodeRegistry.Draws)
  clock := 0
  phase := .beating 0 0

/-- Its first heartbeat did not come for more than two minutes. -/
def sampleDropped : Listing where
  directory := cleaned { sampleBeating with clock := 121 } 120
  clock := 121
  phase := .beating 0 0

/-- What it would report. -/
def sampleMetrics : NodeMetrics := ⟨1, 0, 0, 0, 0, 0, 0, 0, []⟩

/-- After a heartbeat. -/
def sampleBeat (s : Listing) (metrics : NodeMetrics) (beats : Nat) : Listing where
  directory := s.after (heartbeatRequest sampleConfig metrics) (⟨[]⟩ : NodeRegistry.Draws)
  clock := s.clock
  phase := .beating 0 beats

/-- It has sent a heartbeat at once. -/
def sampleBeatOnce : Listing := sampleBeat sampleBeating ⟨0, 0, 0, 0, 0, 0, 0, 0, []⟩ 1

/-- A minute later it has sent another. -/
def sampleBeatTwice : Listing := sampleBeat { sampleBeatOnce with clock := 60 } sampleMetrics 2

/-- The directory cleans up when the third one is almost late. -/
def sampleCleaned : Listing :=
  { sampleBeatTwice with
    directory := cleaned { sampleBeatTwice with clock := 125 } 120
    clock := 125 }

theorem sampleRegistrable : Registrable Proto.sampleExit :=
  ⟨by decide, by decide, by decide +kernel⟩

/-- The run to the heartbeat loop. -/
theorem sampleBeating_run :
    ((system sampleConfig false none).restrict (Undisturbed sampleConfig 5 5)).Run sampleStart
      [.register (.ok (.registered "Node registered successfully")), .startHeartbeats]
      sampleBeating := by
  have hregistrable : Registrable sampleConfig.descriptor := sampleRegistrable
  have hregister : Step sampleConfig sampleStart _ _ :=
    Step.register (⟨[]⟩ : NodeRegistry.Draws) rfl
  simp only [hregistrable.reply sampleStart (⟨[]⟩ : NodeRegistry.Draws)] at hregister
  have hloop : Step sampleConfig { sampleBeating with phase := .registered 0 } .startHeartbeats
      sampleBeating := Step.startHeartbeats rfl
  have hfirst := (TransitionSystem.Run.nil (T := (system sampleConfig false none).restrict
    (Undisturbed sampleConfig 5 5)) sampleStart).snoc ⟨by trivial, hregister⟩
  exact hfirst.snoc ⟨trivial, hloop⟩

/-- A tick of its interval is followed by a heartbeat, which is accepted. -/
theorem sampleBeat_step {s : Listing} {beats : Nat} (beating : s.phase = .beating 0 beats)
    (ticked : beats * 60 ≤ s.clock) (hheld : s.listed? sampleConfig ≠ none)
    (metrics : NodeMetrics) :
    Step sampleConfig s (.heartbeat metrics (.ok .empty)) (sampleBeat s metrics (beats + 1)) := by
  have hticked : 0 + beats * sampleConfig.heartbeatInterval ≤ s.clock := by
    rw [Nat.zero_add]
    exact ticked
  have hstep := Step.heartbeat (⟨[]⟩ : NodeRegistry.Draws) beating hticked metrics
  have hreply : (s.served (heartbeatRequest sampleConfig metrics)
      (⟨[]⟩ : NodeRegistry.Draws)).reply = .ok .empty := by
    rw [reply_heartbeat]
    cases hlisted : s.listed? sampleConfig with
    | none => exact absurd hlisted hheld
    | some entry => rfl
  rw [hreply] at hstep
  exact hstep

/-- The run goes on for two minutes. -/
theorem sampleCleaned_run :
    ((system sampleConfig false none).restrict (Undisturbed sampleConfig 5 5)).Run sampleStart
      [.register (.ok (.registered "Node registered successfully")), .startHeartbeats,
        .heartbeat ⟨0, 0, 0, 0, 0, 0, 0, 0, []⟩ (.ok .empty), .wait 60,
        .heartbeat sampleMetrics (.ok .empty), .wait 125, .cleanup]
      sampleCleaned := by
  have honce : Step sampleConfig sampleBeating
      (.heartbeat ⟨0, 0, 0, 0, 0, 0, 0, 0, []⟩ (.ok .empty)) sampleBeatOnce :=
    sampleBeat_step rfl (Nat.le_refl 0) (by decide +kernel) _
  have hminute : Step sampleConfig sampleBeatOnce (.wait 60) { sampleBeatOnce with clock := 60 } :=
    Step.wait (Nat.zero_le 60)
  have hintime : Undisturbed sampleConfig 5 5 sampleBeatOnce (.wait 60) := by
    intro deadline hdeadline
    cases hdeadline
    decide
  have htwice : Step sampleConfig { sampleBeatOnce with clock := 60 }
      (.heartbeat sampleMetrics (.ok .empty)) sampleBeatTwice :=
    sampleBeat_step rfl (Nat.le_refl 60) (by decide +kernel) _
  have hlate : Step sampleConfig sampleBeatTwice (.wait 125)
      { sampleBeatTwice with clock := 125 } := Step.wait (show 60 ≤ 125 by decide)
  have halmost : Undisturbed sampleConfig 5 5 sampleBeatTwice (.wait 125) := by
    intro deadline hdeadline
    cases hdeadline
    decide
  have hcleanup : Step sampleConfig { sampleBeatTwice with clock := 125 } .cleanup sampleCleaned :=
    Step.cleanup _
  have hfirst := sampleBeating_run.snoc ⟨by trivial, honce⟩
  have hsecond := (hfirst.snoc ⟨hintime, hminute⟩).snoc ⟨by trivial, htwice⟩
  exact (hsecond.snoc ⟨halmost, hlate⟩).snoc ⟨trivial, hcleanup⟩

/-- The relay is listed with its second report, and the cleanup leaves it. -/
theorem listed_while_beating_sampleCleaned :
    ∃ entry, sampleCleaned.listed? sampleConfig = some entry ∧
      entry.descriptor = Proto.sampleExit ∧ entry.metrics = some sampleMetrics ∧
      125 - entry.lastHeartbeat ≤ 120 := by
  have hinit : (system sampleConfig false none).init sampleStart := ⟨rfl, rfl⟩
  obtain ⟨entry, hheld, hdescriptor, hmetrics, hrecent, -⟩ := listed_while_beating
    sampleRegistrable (by decide) (by decide) hinit sampleCleaned_run (by decide) id
  exact ⟨entry, hheld, hdescriptor, hmetrics, hrecent⟩

/-- The late heartbeat is refused, and does not list the relay again. -/
theorem dropped_for_good_sampleDropped :
    ∃ t : Listing, t.listed? sampleConfig = none ∧
      (sampleDropped.served (heartbeatRequest sampleConfig sampleMetrics)
        (⟨[]⟩ : NodeRegistry.Draws)).reply = .error (.notFound "Node not found: exit-1") := by
  have hheartbeat : Step sampleConfig sampleDropped _ _ :=
    Step.heartbeat (⟨[]⟩ : NodeRegistry.Draws) rfl (by decide) sampleMetrics
  have hrun := (TransitionSystem.Run.nil (T := (system sampleConfig false none).restrict
    (KeepsId sampleConfig)) sampleDropped).snoc ⟨by trivial, hheartbeat⟩
  have habsent : sampleDropped.listed? sampleConfig = none := by decide +kernel
  obtain ⟨hgone, hrefused⟩ := dropped_for_good hrun (by decide) habsent
  exact ⟨_, hgone, hrefused sampleMetrics _ (by simp)⟩

end

end Listing

end NoPanic
