/-
# How many nodes a directory holds

A registration adds a node, and takes the place of the one with its id and of those at its
address. Removals and cleanups take nodes away. So the nodes of a directory, and those that
were removed, cleaned up or superseded, are together the registrations it has accepted: the
directory's counters bound its population from above.
-/

import NoPanic.Discovery.Service

namespace NoPanic

open NoPanic.Math

namespace NodeRegistry

/-- How many nodes are registered. -/
def size (r : NodeRegistry) : Nat := r.nodes.keys.length

/-- How many nodes a registration takes the place of: the one with its id, and those at its
address. -/
def superseded (r : NodeRegistry) (descriptor : NodeDescriptor) : Nat :=
  r.nodes.entries.countP fun e =>
    e.1 == descriptor.nodeId || e.2.descriptor.address == descriptor.address

/-- A node that is filed takes the place of the one with its id. -/
theorem length_keys_insert (nodes : HashMap String NodeEntry) (id : String) (entry : NodeEntry) :
    (nodes.insert id entry).keys.length = (nodes.entries.countP fun e => e.1 != id) + 1 := by
  have hkeys : (nodes.insert id entry).keys = id :: nodes.keys.erase id :=
    AList.keys_insert nodes
  have herase : nodes.keys.erase id = nodes.keys.filter (· != id) :=
    List.Nodup.erase_eq_filter nodes.nodupKeys id
  rw [hkeys, List.length_cons, herase, AList.keys, List.keys, List.filter_map, List.length_map,
    ← List.countP_eq_length_filter]
  rfl

/-- A registration adds a node and takes the place of others. -/
theorem size_registerNode (r : NodeRegistry) (descriptor : NodeDescriptor) (now : Nat) :
    (r.registerNode descriptor now).size + r.superseded descriptor = r.size + 1 := by
  have hinserted : ∃ entry, (r.registerNode descriptor now).nodes =
      (r.nodes.retain fun id e => id == descriptor.nodeId ||
        e.descriptor.address != descriptor.address).insert descriptor.nodeId entry := by
    rw [registerNode]
    split
    · exact ⟨_, rfl⟩
    · exact ⟨_, rfl⟩
  obtain ⟨entry, hnodes⟩ := hinserted
  have hkept : (r.nodes.entries.filter fun e => e.1 == descriptor.nodeId ||
      e.2.descriptor.address != descriptor.address).countP (fun e => e.1 != descriptor.nodeId) =
        r.nodes.entries.countP fun e => !(e.1 == descriptor.nodeId ||
          e.2.descriptor.address == descriptor.address) := by
    rw [List.countP_filter]
    apply List.countP_congr
    intro e he
    simp only [bne, Bool.and_eq_true, Bool.not_eq_true', Bool.or_eq_true, Bool.or_eq_false_iff]
    constructor
    · rintro ⟨hid, hsame | haddress⟩
      · rw [hid] at hsame
        cases hsame
      · exact ⟨hid, haddress⟩
    · rintro ⟨hid, haddress⟩
      exact ⟨hid, Or.inr haddress⟩
  have hsize : r.size = r.nodes.entries.length := List.length_map _
  have hsplit := List.length_eq_countP_add_countP (fun e : Sigma fun _ : String => NodeEntry =>
    e.1 == descriptor.nodeId || e.2.descriptor.address == descriptor.address)
    (l := r.nodes.entries)
  rw [size, hnodes, length_keys_insert, HashMap.retain, hkept, hsize, superseded]
  have hnot : ∀ b : Bool, decide (¬ b = true) = !b := by decide
  simp only [hnot] at hsplit
  omega

/-- A heartbeat changes no number. -/
theorem size_updateHeartbeatWithMetrics {r r' : NodeRegistry} {nodeId : String}
    {metrics : NodeMetrics} {now : Nat}
    (ok : r.updateHeartbeatWithMetrics nodeId metrics now = .ok r') : r'.size = r.size := by
  rw [updateHeartbeatWithMetrics] at ok
  split at ok
  · cases ok
  · next entry hentry =>
      cases ok
      have hmem : nodeId ∈ r.nodes.keys :=
        AList.mem_keys.mp (AList.lookup_isSome.mp (by rw [hentry]; rfl))
      have hpos : 0 < r.nodes.keys.length := List.length_pos_of_mem hmem
      rw [size, AList.keys_insert, List.length_cons, List.length_erase_of_mem hmem, size]
      omega

/-- A removal takes one node away. -/
theorem size_removeNode {r r' : NodeRegistry} {nodeId : String}
    (ok : r.removeNode nodeId = .ok r') : r'.size + 1 = r.size := by
  rw [removeNode] at ok
  split at ok
  · cases ok
  · next entry hentry =>
      cases ok
      have hmem : nodeId ∈ r.nodes.keys :=
        AList.mem_keys.mp (AList.lookup_isSome.mp (by rw [hentry]; rfl))
      have hpos : 0 < r.nodes.keys.length := List.length_pos_of_mem hmem
      rw [size, AList.keys_erase, List.length_erase_of_mem hmem, size]
      omega

/-- A cleanup takes away as many nodes as it says. -/
theorem size_cleanupStaleNodes (r : NodeRegistry) (timeout now : Nat) :
    (r.cleanupStaleNodes timeout now).1.size + (r.cleanupStaleNodes timeout now).2 = r.size := by
  have hle : (r.cleanupStaleNodes timeout now).1.size ≤ r.size := by
    have hsub := List.filter_sublist (l := r.nodes.entries)
      (p := fun e => !decide (now - e.2.lastHeartbeat > timeout))
    exact (hsub.map Sigma.fst).length_le
  exact Nat.add_sub_cancel' hle

end NodeRegistry

namespace DiscoveryService

section

variable [AddrText] [EnumText]

/-- How many nodes the registration of an event takes the place of. -/
def superseded (s : DiscoveryService) : ServiceEvent → Nat
  | .serve (.registerNode request) (.ok _) =>
      match request.toCommon with
      | .ok descriptor => s.registry.superseded descriptor
      | .error _ => 0
  | _ => 0

/-- What an event takes away. -/
def takenAway (e : ServiceEvent) : Nat :=
  ServiceEvent.amount .staleCleaned e + ServiceEvent.amount .removals e

/-- What serving a request does to the number of nodes. -/
theorem size_serve {R : Type} [Rng R] (s : DiscoveryService) (request : DiscoveryRequest)
    (now : Nat) (rng : R) :
    (serve s.registry request now rng).registry.size +
        takenAway (.serve request (serve s.registry request now rng).reply) +
          s.superseded (.serve request (serve s.registry request now rng).reply) =
      s.registry.size + ServiceEvent.amount .registrations
        (.serve request (serve s.registry request now rng).reply) := by
  cases request with
  | healthCheck => rfl
  | readinessCheck =>
      simp only [serve, readinessCheck]
      split
      · rfl
      · rfl
  | registerNode descriptor =>
      simp only [serve, register]
      cases hdecoded : descriptor.toCommon with
      | error e => rfl
      | ok d =>
          simp only
          split
          · rfl
          · split
            · rfl
            · have hsize := NodeRegistry.size_registerNode s.registry d now
              simp only [superseded, hdecoded]
              exact hsize
  | removeNode nodeId =>
      simp only [serve, removeNode]
      split
      · rfl
      · next registry hok => exact NodeRegistry.size_removeNode hok
  | updateHeartbeat nodeId metrics =>
      simp only [serve, updateHeartbeat]
      split
      · rfl
      · split
        · rfl
        · next registry hok => exact NodeRegistry.size_updateHeartbeatWithMetrics hok
  | getAllNodes => rfl
  | getRandomPath count =>
      simp only [serve, getRandomPath]
      split
      · rfl
      · rfl
  | getStats => rfl

/-- What a step does to the number of nodes. -/
theorem Step.size {s t : DiscoveryService} {e : ServiceEvent} (hstep : Step s e t) :
    t.registry.size + takenAway e + s.superseded e =
      s.registry.size + ServiceEvent.amount .registrations e := by
  cases hstep with
  | serve _ request now rng => exact size_serve s request now rng
  | cleanup _ timeout now => exact NodeRegistry.size_cleanupStaleNodes s.registry timeout now
  | update => rfl
  | reorder same => exact (same.map Sigma.fst).length_eq.symm

/-- At any time the nodes of the directory, those that were removed or cleaned up, and those
that registrations took the place of, are together the registrations that were accepted. -/
theorem population {allowSameIp : Bool} {metrics : Option DiscoveryMetrics}
    {es : List ServiceEvent} {s : DiscoveryService}
    (hrun : (system allowSameIp metrics).Run (start allowSameIp metrics) es s) :
    ∃ n, (system allowSameIp metrics).CostRun superseded (start allowSameIp metrics) es n s ∧
      s.registry.size + (es.map (ServiceEvent.amount .removals)).sum +
          (es.map (ServiceEvent.amount .staleCleaned)).sum + n =
        (es.map (ServiceEvent.amount .registrations)).sum := by
  obtain ⟨n, hcost⟩ := hrun.exists_costRun superseded
  refine ⟨n, hcost, ?_⟩
  have hbalance := hcost.balance (fun s => s.registry.size) (ServiceEvent.amount .registrations)
    takenAway (fun s e t hstep => Step.size hstep)
  have hsplit : (es.map takenAway).sum = (es.map (ServiceEvent.amount .staleCleaned)).sum +
      (es.map (ServiceEvent.amount .removals)).sum := List.sum_map_add
  have hempty : (start allowSameIp metrics).registry.size = 0 := rfl
  omega

end

/-! ## Nodes that come and go -/

section

open Reference

/-- A node that decodes and may register does so. -/
theorem serve_registers (r : NodeRegistry) {d : NodeDescriptor} (now : Nat)
    (hdecodes : (Proto.NodeDescriptor.fromCommon d).toCommon = .ok d)
    (hid : d.nodeId.isEmpty = false) (hbandwidth : d.bandwidth ≠ 0) :
    ∃ updates, serve r (.registerNode (Proto.NodeDescriptor.fromCommon d)) now
      (⟨[]⟩ : NodeRegistry.Draws) =
        ⟨r.registerNode d now, updates, .ok (.registered "Node registered successfully")⟩ := by
  simp only [serve, register, hdecodes, hid, hbandwidth]
  exact ⟨_, rfl⟩

/-- In a directory without metrics the node is registered, and nothing is left to do. -/
theorem step_registers (r : NodeRegistry) {d : NodeDescriptor} (now : Nat)
    (hdecodes : (Proto.NodeDescriptor.fromCommon d).toCommon = .ok d)
    (hid : d.nodeId.isEmpty = false) (hbandwidth : d.bandwidth ≠ 0) :
    Step ⟨r, none, []⟩ (.serve (.registerNode (Proto.NodeDescriptor.fromCommon d))
      (.ok (.registered "Node registered successfully"))) ⟨r.registerNode d now, none, []⟩ := by
  obtain ⟨updates, hserve⟩ := serve_registers r now hdecodes hid hbandwidth
  have hstep := Step.serve ⟨r, none, []⟩
    (.registerNode (Proto.NodeDescriptor.fromCommon d)) now (⟨[]⟩ : NodeRegistry.Draws)
  rw [hserve] at hstep
  exact hstep

/-- Four nodes register, the second on the address of the first; the third is removed, and the
second is cleaned up when it is stale. One node is left, and one was superseded. -/
theorem population_comeAndGo :
    ∃ es s, (system false none).CostRun superseded (start false none) es 1 s ∧
      (es.map (ServiceEvent.amount .registrations)).sum = 4 ∧
      (es.map (ServiceEvent.amount .removals)).sum = 1 ∧
      (es.map (ServiceEvent.amount .staleCleaned)).sum = 1 ∧ s.registry.size = 1 := by
  let first := NodeRegistry.publicNode "a" .entry 1
  let second := NodeRegistry.publicNode "d" .entry 1
  let third := NodeRegistry.publicNode "c" .exit 3
  let fourth := NodeRegistry.publicNode "b" .middle 2
  let taken := ((NodeRegistry.new false).registerNode first 0).registerNode second 10
  let removed : NodeRegistry :=
    { taken.registerNode third 20 with nodes := (taken.registerNode third 20).nodes.erase "c" }
  let full := removed.registerNode fourth 30
  have hfirst := step_registers (NodeRegistry.new false) (d := first) 0 (by decide +kernel)
    (by decide) (by decide)
  have hsecond := step_registers ((NodeRegistry.new false).registerNode first 0) (d := second) 10
    (by decide +kernel) (by decide) (by decide)
  have hthird := step_registers taken (d := third) 20 (by decide +kernel) (by decide) (by decide)
  have hfourth := step_registers removed (d := fourth) 30 (by decide +kernel) (by decide)
    (by decide)
  have hremoves : Step ⟨taken.registerNode third 20, none, []⟩
      (.serve (.removeNode "c") (.ok .empty)) ⟨removed, none, []⟩ :=
    Step.serve ⟨taken.registerNode third 20, none, []⟩ (.removeNode "c") 25
      (⟨[]⟩ : NodeRegistry.Draws)
  have hcleans := Step.cleanup ⟨full, none, []⟩ 15 30
  have hone : (full.cleanupStaleNodes 15 30).2 = 1 := by decide +kernel
  have hleft : (full.cleanupStaleNodes 15 30).1.size = 1 := by decide +kernel
  rw [hone] at hcleans
  have hrun := (((((TransitionSystem.Run.nil (T := system false none) (start false none)).snoc
    hfirst).snoc hsecond).snoc hthird).snoc hremoves).snoc hfourth |>.snoc hcleans
  obtain ⟨n, hcost, hbalance⟩ := population hrun
  have hn : n = 1 := by
    have hsize : (full.cleanupStaleNodes 15 30).1.size + 1 + 1 + n = 4 := hbalance
    omega
  subst hn
  exact ⟨_, _, hcost, rfl, rfl, rfl, hleft⟩

end

end DiscoveryService

end NoPanic
