/-
# What the directory's answers list

The directory registers a descriptor only after it has decoded it and looked at its id and its
bandwidth. So every node that an answer lists can be decoded by whoever receives it, and gives
back the registered descriptor: a client never refuses an answer for what it contains.

The one promise this takes from the standard library is that the text of an address that was
read from a text is read again.
-/

import NoPanic.Discovery.History
import NoPanic.Discovery.Service

namespace NoPanic

open NoPanic.Math

/-- An address that has been read from a text is read again from its own text. -/
def AddrText.ReadsBack [AddrText] : Prop :=
  ∀ text addr, AddrText.parse text = some addr → AddrText.parse (AddrText.display addr) = some addr

/-! ## Lists of descriptors -/

namespace Proto

section

variable [AddrText] [EnumText]

/-- Decode descriptors up to the first that cannot be decoded. -/
def decodeAll : List NodeDescriptor → Except Status (List NoPanic.NodeDescriptor)
  | [] => .ok []
  | p :: rest =>
      match p.toCommon with
      | .error e => .error e
      | .ok d =>
          match decodeAll rest with
          | .error e => .error e
          | .ok ds => .ok (d :: ds)

/-- A descriptor whose address is read back is decoded from its encoding. -/
theorem NodeDescriptor.toCommon_fromCommon {d : NoPanic.NodeDescriptor}
    (haddr : AddrText.parse (AddrText.display d.address) = some d.address) :
    (NodeDescriptor.fromCommon d).toCommon = .ok d := by
  rw [NodeDescriptor.toCommon_eq_ok_iff]
  refine ⟨⟨?_, haddr, ?_, ?_⟩, rfl, rfl, rfl, rfl⟩
  · simp [NodeDescriptor.fromCommon]
  · exact PublicKey.toCommon_fromCommon d.publicKey
  · exact NodeDescriptor.decodePolicy_map_fromCommon d.exitPolicy

/-- The same of lists of descriptors. -/
theorem decodeAll_map_fromCommon {ds : List NoPanic.NodeDescriptor}
    (haddr : ∀ d ∈ ds, AddrText.parse (AddrText.display d.address) = some d.address) :
    decodeAll (ds.map NodeDescriptor.fromCommon) = .ok ds := by
  induction ds with
  | nil => rfl
  | cons d rest ih =>
      have hdecodes := NodeDescriptor.toCommon_fromCommon (haddr d List.mem_cons_self)
      have hrest := ih fun d hd => haddr d (List.mem_cons_of_mem _ hd)
      simp only [List.map_cons, decodeAll, hdecodes, hrest]

end

end Proto

/-- The nodes that an answer lists. -/
def DiscoveryReply.nodes : DiscoveryReply → List Proto.NodeDescriptor
  | .allNodes nodes _ => nodes
  | .randomPath nodes => nodes
  | _ => []

namespace NodeRegistry

/-- The descriptors of all nodes, in iteration order. -/
def descriptors (r : NodeRegistry) : List NodeDescriptor :=
  r.getAllEntries.map NodeEntry.descriptor

/-- What is listed is registered. -/
theorem mem_descriptors {r : NodeRegistry} (hkeyed : r.Keyed) {d : NodeDescriptor} :
    d ∈ r.descriptors ↔ r.Registered d := by
  simp only [descriptors, getAllEntries, List.mem_map, HashMap.mem_values]
  constructor
  · rintro ⟨entry, ⟨id, hlookup⟩, rfl⟩
    exact ⟨entry, by rwa [hkeyed id entry hlookup], rfl⟩
  · rintro ⟨entry, hlookup, rfl⟩
    exact ⟨entry, ⟨_, hlookup⟩, rfl⟩

/-- No id is listed twice. -/
theorem nodup_descriptors {r : NodeRegistry} (hkeyed : r.Keyed) :
    (r.descriptors.map NodeDescriptor.nodeId).Nodup := by
  have hids : r.descriptors.map NodeDescriptor.nodeId = r.nodes.pairs.map Prod.fst := by
    simp only [descriptors, getAllEntries, HashMap.values, HashMap.pairs, List.map_map]
    apply List.map_congr_left
    intro e he
    exact hkeyed e.1 e.2 (HashMap.mem_pairs.mp (List.mem_map.mpr ⟨e, he, rfl⟩))
  rw [hids]
  exact r.nodes.nodup_pairs_fst

/-- Registered nodes with one address are one. -/
theorem AddressesDistinct.eq_of_address {r : NodeRegistry} (h : r.AddressesDistinct)
    {d d' : NodeDescriptor} (hd : r.Registered d) (hd' : r.Registered d')
    (haddress : d.address = d'.address) : d = d' := by
  obtain ⟨entry, hentry, rfl⟩ := hd
  obtain ⟨entry', hentry', rfl⟩ := hd'
  have hid := h _ _ entry entry' hentry hentry' haddress
  rw [hid, hentry'] at hentry
  rw [Option.some.inj hentry]

/-- No address is listed twice. -/
theorem nodup_addresses {r : NodeRegistry} (hkeyed : r.Keyed) (hdistinct : r.AddressesDistinct) :
    (r.descriptors.map NodeDescriptor.address).Nodup := by
  have hnodup : r.descriptors.Nodup := List.Nodup.of_map _ (nodup_descriptors hkeyed)
  apply List.Nodup.map_on _ hnodup
  intro d hd d' hd' haddress
  exact hdistinct.eq_of_address ((mem_descriptors hkeyed).mp hd) ((mem_descriptors hkeyed).mp hd')
    haddress

/-- The nodes of a path are registered. -/
theorem registered_of_getRandomPath {R : Type} [Rng R] {r : NodeRegistry} (hkeyed : r.Keyed)
    {count : Nat} {rng : R} {path : List NodeDescriptor}
    (h : r.getRandomPath count rng = .ok path) : ∀ d ∈ path, r.Registered d := by
  obtain ⟨entryNode, middles, exitNode, rfl, hentry, hexit, -, hsub, -, -⟩ :=
    pickPath_cases (getRandomPath_cases h).2
  intro d hd
  simp only [List.cons_append, List.mem_cons, List.mem_append, List.not_mem_nil, or_false] at hd
  rcases hd with rfl | hd | rfl
  · exact (mem_getNodesByType hkeyed hentry).1
  · exact (mem_getNodesByType hkeyed (hsub.subset hd)).1
  · exact (mem_getNodesByType hkeyed hexit).1

/-- A path has the hops that were asked for. -/
theorem length_of_getRandomPath {R : Type} [Rng R] {r : NodeRegistry} {count : Nat} {rng : R}
    {path : List NodeDescriptor} (h : r.getRandomPath count rng = .ok path) :
    path.length = count := by
  obtain ⟨hcount, hpath⟩ := getRandomPath_cases h
  obtain ⟨entryNode, middles, exitNode, rfl, -, -, hlength, -, -, -⟩ := pickPath_cases hpath
  simp only [List.cons_append, List.length_cons, List.length_append, List.length_nil, hlength]
  omega

end NodeRegistry

namespace DiscoveryService

section

variable [AddrText] [EnumText]

/-! ## From the service to the registry -/

/-- What the service registers: it has an id and a bandwidth, and was decoded. -/
structure Admitted (d : NodeDescriptor) : Prop where
  nodeId : d.nodeId ≠ ""
  bandwidth : d.bandwidth ≠ 0
  decoded : ∃ request : Proto.NodeDescriptor, request.toCommon = .ok d

/-- A served request leaves the registry as it is, or is a step of the registry, which registers
only what is admitted. -/
theorem serve_registry {R : Type} [Rng R] (r : NodeRegistry) (request : DiscoveryRequest)
    (now : Nat) (rng : R) :
    (serve r request now rng).registry = r ∨
      ∃ event, NodeRegistry.Step r event (serve r request now rng).registry ∧
        ∀ d now, event = .registerNode d now → Admitted d := by
  cases request with
  | healthCheck => exact Or.inl rfl
  | readinessCheck =>
      left
      simp only [serve, readinessCheck]
      split
      · rfl
      · rfl
  | registerNode descriptor =>
      simp only [serve, register]
      cases hdecoded : descriptor.toCommon with
      | error e => exact Or.inl rfl
      | ok d =>
          simp only
          split
          · exact Or.inl rfl
          · next hid =>
            split
            · exact Or.inl rfl
            · next hbandwidth =>
              refine Or.inr ⟨_, NodeRegistry.Step.registerNode r d now, ?_⟩
              rintro d' now' heq
              cases heq
              exact ⟨fun hempty => hid (by rw [hempty]; rfl), hbandwidth, descriptor, hdecoded⟩
  | removeNode nodeId =>
      simp only [serve, removeNode]
      split
      · exact Or.inl rfl
      · next registry hok =>
        refine Or.inr ⟨_, NodeRegistry.Step.removeNode hok, ?_⟩
        rintro d' now' heq
        cases heq
  | updateHeartbeat nodeId metrics =>
      simp only [serve, updateHeartbeat]
      split
      · exact Or.inl rfl
      · split
        · exact Or.inl rfl
        · next registry hok =>
          refine Or.inr ⟨_, NodeRegistry.Step.updateHeartbeatWithMetrics hok, ?_⟩
          rintro d' now' heq
          cases heq
  | getAllNodes => exact Or.inl rfl
  | getRandomPath count =>
      left
      simp only [serve, getRandomPath]
      split
      · rfl
      · rfl
  | getStats => exact Or.inl rfl

/-- The same of every step of the service. -/
theorem Step.registry {s t : DiscoveryService} {e : ServiceEvent} (hstep : Step s e t) :
    t.registry = s.registry ∨ ∃ event, NodeRegistry.Step s.registry event t.registry ∧
      ∀ d now, event = .registerNode d now → Admitted d := by
  cases hstep with
  | serve _ request now rng => exact serve_registry s.registry request now rng
  | cleanup _ timeout now =>
      refine Or.inr ⟨_, NodeRegistry.Step.cleanupStaleNodes s.registry timeout now, ?_⟩
      rintro d' now' heq
      cases heq
  | update => exact Or.inl rfl
  | reorder same =>
      refine Or.inr ⟨_, NodeRegistry.Step.reorder same, ?_⟩
      rintro d' now' heq
      cases heq

/-- The registry of the service is one that has been filled through the service. -/
theorem registry_reachable {allowSameIp : Bool} {metrics : Option DiscoveryMetrics}
    {s : DiscoveryService} (hreach : (system allowSameIp metrics).Reachable s) :
    (NodeRegistry.serviceSystem allowSameIp).Reachable s.registry := by
  refine hreach.invariant
    (fun s => (NodeRegistry.serviceSystem allowSameIp).Reachable s.registry) ?_ ?_
  · rintro s rfl
    exact TransitionSystem.reachable_of_init rfl
  · intro s e t h hstep
    rcases hstep.registry with hsame | ⟨event, hevent, hadmits⟩
    · rw [hsame]
      exact h
    · refine h.next ⟨?_, hevent⟩
      cases event with
      | registerNode d now => exact ⟨(hadmits d now rfl).nodeId, (hadmits d now rfl).bandwidth⟩
      | _ => trivial

/-- What holds of the registry of every reachable service. -/
structure Sound (r : NodeRegistry) : Prop where
  keyed : r.Keyed
  distinct : r.AddressesDistinct
  admitted : r.Files fun _ d => Admitted d

theorem sound_of_reachable {allowSameIp : Bool} {metrics : Option DiscoveryMetrics}
    {s : DiscoveryService} (hreach : (system allowSameIp metrics).Reachable s) :
    Sound s.registry := by
  refine hreach.invariant (fun s => Sound s.registry) ?_ ?_
  · rintro s rfl
    refine ⟨?_, ?_, ?_⟩
    · intro id entry hlookup
      simp [start, NodeRegistry.new] at hlookup
    · intro id id' entry entry' hlookup
      simp [start, NodeRegistry.new] at hlookup
    · intro id entry hlookup
      simp [start, NodeRegistry.new] at hlookup
  · intro s e t h hstep
    rcases hstep.registry with hsame | ⟨event, hevent, hadmits⟩
    · rw [hsame]
      exact h
    · exact ⟨hevent.keyed h.keyed, hevent.addressesDistinct h.distinct,
        hevent.files h.admitted hadmits⟩

/-- A registered node was admitted. -/
theorem Sound.of_registered {r : NodeRegistry} (h : Sound r) {d : NodeDescriptor}
    (hd : r.Registered d) : Admitted d := by
  obtain ⟨entry, hlookup, rfl⟩ := hd
  exact h.admitted _ entry hlookup

/-- The address of an admitted node is read back. -/
theorem Admitted.parse_display (hread : AddrText.ReadsBack) {d : NodeDescriptor}
    (h : Admitted d) : AddrText.parse (AddrText.display d.address) = some d.address := by
  obtain ⟨request, hrequest⟩ := h.decoded
  exact hread request.address d.address (Proto.NodeDescriptor.toCommon_eq_ok_iff.mp hrequest).1.2.1

/-- Registered nodes are decoded from what an answer says of them. -/
theorem Sound.decodeAll_map {r : NodeRegistry} (h : Sound r) (hread : AddrText.ReadsBack)
    {ds : List NodeDescriptor} (hds : ∀ d ∈ ds, r.Registered d) :
    Proto.decodeAll (ds.map Proto.NodeDescriptor.fromCommon) = .ok ds :=
  Proto.decodeAll_map_fromCommon fun d hd => (h.of_registered (hds d hd)).parse_display hread

/-- Registered nodes have an id and a bandwidth. -/
theorem Sound.registered_good {r : NodeRegistry} (h : Sound r) {ds : List NodeDescriptor}
    (hds : ∀ d ∈ ds, r.Registered d) :
    ∀ d ∈ ds, r.Registered d ∧ d.nodeId ≠ "" ∧ d.bandwidth ≠ 0 := by
  intro d hd
  have hadmitted := h.of_registered (hds d hd)
  exact ⟨hds d hd, hadmitted.nodeId, hadmitted.bandwidth⟩

/-- In every reachable state of the service, the nodes of every answer decode, and give
registered descriptors with an id and a bandwidth. The answer to `get_all_nodes` gives each of
them exactly once, and no two have an id or an address in common. -/
theorem answers_decode (hread : AddrText.ReadsBack) {allowSameIp : Bool}
    {metrics : Option DiscoveryMetrics} {s : DiscoveryService}
    (hreach : (system allowSameIp metrics).Reachable s) {R : Type} [Rng R]
    (request : DiscoveryRequest) (now : Nat) (rng : R) {reply : DiscoveryReply}
    (hreply : (serve s.registry request now rng).reply = .ok reply) :
    ∃ ds, Proto.decodeAll reply.nodes = .ok ds ∧
      (∀ d ∈ ds, s.registry.Registered d ∧ d.nodeId ≠ "" ∧ d.bandwidth ≠ 0) ∧
      ∀ nodes count, reply = .allNodes nodes count →
        count = UInt64.ofNat ds.length ∧ (∀ d, s.registry.Registered d → d ∈ ds) ∧
          (ds.map NodeDescriptor.nodeId).Nodup ∧ (ds.map NodeDescriptor.address).Nodup := by
  have hsound := sound_of_reachable hreach
  have hnone : reply.nodes = [] → (∀ nodes count, reply ≠ .allNodes nodes count) →
      ∃ ds, Proto.decodeAll reply.nodes = .ok ds ∧
        (∀ d ∈ ds, s.registry.Registered d ∧ d.nodeId ≠ "" ∧ d.bandwidth ≠ 0) ∧
        ∀ nodes count, reply = .allNodes nodes count →
          count = UInt64.ofNat ds.length ∧ (∀ d, s.registry.Registered d → d ∈ ds) ∧
            (ds.map NodeDescriptor.nodeId).Nodup ∧ (ds.map NodeDescriptor.address).Nodup := by
    intro hnodes hother
    refine ⟨[], by rw [hnodes]; rfl, by simp, ?_⟩
    intro nodes count heq
    exact absurd heq (hother nodes count)
  cases request with
  | getAllNodes =>
      cases hreply
      have hall : ∀ d ∈ s.registry.descriptors, s.registry.Registered d :=
        fun d hd => (NodeRegistry.mem_descriptors hsound.keyed).mp hd
      refine ⟨s.registry.descriptors, hsound.decodeAll_map hread hall,
        hsound.registered_good hall, ?_⟩
      rintro nodes count heq
      cases heq
      exact ⟨rfl, fun d hd => (NodeRegistry.mem_descriptors hsound.keyed).mpr hd,
        NodeRegistry.nodup_descriptors hsound.keyed,
        NodeRegistry.nodup_addresses hsound.keyed hsound.distinct⟩
  | getRandomPath count =>
      simp only [serve, getRandomPath] at hreply
      split at hreply
      · cases hreply
      · next path hpath =>
          cases hreply
          have hregistered := NodeRegistry.registered_of_getRandomPath hsound.keyed hpath
          refine ⟨path, hsound.decodeAll_map hread hregistered,
            hsound.registered_good hregistered, ?_⟩
          rintro nodes count heq
          cases heq
  | healthCheck => cases hreply; exact hnone rfl (by simp)
  | getStats => cases hreply; exact hnone rfl (by simp)
  | readinessCheck =>
      simp only [serve, readinessCheck] at hreply
      split at hreply
      · cases hreply; exact hnone rfl (by simp)
      · cases hreply
  | registerNode descriptor =>
      simp only [serve, register] at hreply
      split at hreply
      · cases hreply
      · split at hreply
        · cases hreply
        · split at hreply
          · cases hreply
          · cases hreply; exact hnone rfl (by simp)
  | removeNode nodeId =>
      simp only [serve, removeNode] at hreply
      split at hreply
      · cases hreply
      · cases hreply; exact hnone rfl (by simp)
  | updateHeartbeat nodeId metrics =>
      simp only [serve, updateHeartbeat] at hreply
      split at hreply
      · cases hreply
      · split at hreply
        · cases hreply
        · cases hreply; exact hnone rfl (by simp)

end

section

open Reference

/-- Socket addresses of IPv4 are read back. -/
theorem readsBack_ipv4 : AddrText.ReadsBack := fun _ _ h =>
  readAddr_showAddr_of_readAddr h

/-- The answer of a directory that has registered one relay. -/
theorem answers_decode_sampleCounted :
    ∃ ds, Proto.decodeAll
        (sampleCounted.registry.descriptors.map Proto.NodeDescriptor.fromCommon) = .ok ds ∧
      UInt64.ofNat 1 = UInt64.ofNat ds.length ∧ Proto.sampleExit ∈ ds := by
  obtain ⟨ds, hdecoded, -, hall⟩ := answers_decode readsBack_ipv4
    ⟨_, _, rfl, sampleCounted_run⟩ .getAllNodes 7 (⟨[]⟩ : NodeRegistry.Draws) rfl
  obtain ⟨hcount, hmem, -, -⟩ := hall _ _ rfl
  have hregistered : sampleCounted.registry.Registered Proto.sampleExit := ⟨_, rfl, rfl⟩
  exact ⟨ds, hdecoded, hcount, hmem _ hregistered⟩

end

end DiscoveryService

end NoPanic
