/-
# The node registry

The directory's map from node ids to entries, with the operations that change
it. Registering a node drops every other node with its address; a heartbeat
renews an entry; stale entries are removed. Times are the clock readings the
operations take.

A registry in use is a state of `registrySystem`. The one fact its runs keep is
that every entry is filed under the id of its own descriptor.
-/

import NoPanic.Common.Types
import NoPanic.Math.HashMap
import NoPanic.Math.TransitionSystem

namespace NoPanic

open NoPanic.Math

/-- The errors of the registry. -/
inductive RegistryError
  | nodeNotFound (text : String)
  | insufficientNodes (text : String)
  deriving DecidableEq, Repr

/-- An entry of the registry. -/
structure NodeEntry where
  descriptor : NodeDescriptor
  registeredAt : Nat
  lastHeartbeat : Nat
  metrics : Option NodeMetrics

/-- An entry that has reported no metrics. -/
def NodeEntry.new (d : NodeDescriptor) (reg last : Nat) : NodeEntry := ⟨d, reg, last, none⟩

/-- The registered relays, by node id. -/
structure NodeRegistry where
  nodes : HashMap String NodeEntry
  allowSameIp : Bool

namespace NodeRegistry

/-- The empty registry. -/
def new (allowSameIp : Bool) : NodeRegistry := ⟨∅, allowSameIp⟩

/-- Register a node, or update the one with its id. Every other node with its
address is dropped first. -/
def registerNode (r : NodeRegistry) (descriptor : NodeDescriptor) (now : Nat) : NodeRegistry :=
  let nodeId := descriptor.nodeId
  let addr := descriptor.address
  let nodes := r.nodes.retain fun id entry => id == nodeId || entry.descriptor.address != addr
  match nodes.lookup nodeId with
  | none => { r with nodes := nodes.insert nodeId (NodeEntry.new descriptor now now) }
  | some entry =>
      { r with nodes := nodes.insert nodeId { entry with descriptor, lastHeartbeat := now } }

/-- All descriptors of one type, in iteration order. -/
def getNodesByType (r : NodeRegistry) (nodeType : NodeType) : List NodeDescriptor :=
  (r.nodes.values.filter fun entry => entry.descriptor.nodeType == nodeType).map
    NodeEntry.descriptor

/-- Renew a node. -/
def updateHeartbeat (r : NodeRegistry) (nodeId : String) (now : Nat) :
    Except RegistryError NodeRegistry :=
  match r.nodes.lookup nodeId with
  | none => .error (.nodeNotFound nodeId)
  | some entry => .ok { r with nodes := r.nodes.insert nodeId { entry with lastHeartbeat := now } }

/-- Renew a node and record what it reports. -/
def updateHeartbeatWithMetrics (r : NodeRegistry) (nodeId : String) (metrics : NodeMetrics)
    (now : Nat) : Except RegistryError NodeRegistry :=
  match r.nodes.lookup nodeId with
  | none => .error (.nodeNotFound nodeId)
  | some entry =>
      .ok { r with nodes := r.nodes.insert nodeId
                    { entry with lastHeartbeat := now, metrics := some metrics } }

/-- Remove a node. -/
def removeNode (r : NodeRegistry) (nodeId : String) : Except RegistryError NodeRegistry :=
  match r.nodes.lookup nodeId with
  | none => .error (.nodeNotFound nodeId)
  | some _ => .ok { r with nodes := r.nodes.erase nodeId }

/-- Remove every node whose last heartbeat is longer ago than the timeout, and
count the removed ones. -/
def cleanupStaleNodes (r : NodeRegistry) (timeout now : Nat) : NodeRegistry × Nat :=
  let nodes := r.nodes.retain fun _ entry => !decide (now - entry.lastHeartbeat > timeout)
  ({ r with nodes }, r.nodes.keys.length - nodes.keys.length)

/-! ## Runs -/

/-- What happens to a registry. -/
inductive Event
  | registerNode (descriptor : NodeDescriptor) (now : Nat)
  | updateHeartbeat (nodeId : String) (now : Nat)
  | updateHeartbeatWithMetrics (nodeId : String) (metrics : NodeMetrics) (now : Nat)
  | removeNode (nodeId : String)
  | cleanupStaleNodes (timeout now : Nat)
  | reorder

/-- The steps of a registry. A refused operation changes nothing, and the
iteration order of the map may change at any time. -/
inductive Step : NodeRegistry → Event → NodeRegistry → Prop
  | registerNode (r : NodeRegistry) (descriptor : NodeDescriptor) (now : Nat) :
      Step r (.registerNode descriptor now) (r.registerNode descriptor now)
  | updateHeartbeat {r r' : NodeRegistry} {nodeId : String} {now : Nat}
      (ok : r.updateHeartbeat nodeId now = .ok r') : Step r (.updateHeartbeat nodeId now) r'
  | updateHeartbeatWithMetrics {r r' : NodeRegistry} {nodeId : String} {metrics : NodeMetrics}
      {now : Nat} (ok : r.updateHeartbeatWithMetrics nodeId metrics now = .ok r') :
      Step r (.updateHeartbeatWithMetrics nodeId metrics now) r'
  | removeNode {r r' : NodeRegistry} {nodeId : String} (ok : r.removeNode nodeId = .ok r') :
      Step r (.removeNode nodeId) r'
  | cleanupStaleNodes (r : NodeRegistry) (timeout now : Nat) :
      Step r (.cleanupStaleNodes timeout now) (r.cleanupStaleNodes timeout now).1
  | reorder {r : NodeRegistry} {nodes : HashMap String NodeEntry}
      (same : r.nodes.Reorder nodes) : Step r .reorder { r with nodes }

/-- The runs of a registry, from the empty one. -/
def registrySystem (allowSameIp : Bool) : TransitionSystem NodeRegistry Event where
  init r := r = new allowSameIp
  step := Step

/-- Every id has a property together with the descriptor that is filed under it. -/
def Files (property : String → NodeDescriptor → Prop) (r : NodeRegistry) : Prop :=
  ∀ id entry, r.nodes.lookup id = some entry → property id entry.descriptor

/-- Every entry is filed under the id of its own descriptor. -/
def Keyed (r : NodeRegistry) : Prop :=
  ∀ id entry, r.nodes.lookup id = some entry → entry.descriptor.nodeId = id

section

variable {property : String → NodeDescriptor → Prop} {r r' : NodeRegistry}

/-- Filing an entry that has the property. -/
theorem Files.insert (h : r.Files property) {entry : NodeEntry} {id : String}
    (hentry : property id entry.descriptor) :
    Files property { r with nodes := r.nodes.insert id entry } := by
  intro id' entry' hlookup
  simp only [HashMap.lookup_insert_eq] at hlookup
  split at hlookup
  · next heq =>
      rwa [← Option.some.inj hlookup, heq]
  · exact h id' entry' hlookup

/-- Dropping entries leaves the others as they are. -/
theorem Files.retain (h : r.Files property) (keep : String → NodeEntry → Bool) :
    Files property { r with nodes := r.nodes.retain keep } := by
  intro id entry hlookup
  simp only [HashMap.lookup_retain, Option.filter_eq_some_iff] at hlookup
  exact h id entry hlookup.1

/-- Every step keeps a property that what is registered has. -/
theorem Step.files {e : Event} (h : r.Files property)
    (hregister : ∀ descriptor now, e = .registerNode descriptor now →
      property descriptor.nodeId descriptor) (hstep : Step r e r') : r'.Files property := by
  cases hstep with
  | registerNode descriptor now =>
      have hnew := hregister descriptor now rfl
      have hretained := h.retain fun id entry =>
        id == descriptor.nodeId || entry.descriptor.address != descriptor.address
      simp only [NodeRegistry.registerNode]
      split
      · exact hretained.insert hnew
      · exact hretained.insert hnew
  | updateHeartbeat ok =>
      simp only [NodeRegistry.updateHeartbeat] at ok
      split at ok
      · cases ok
      · next entry hentry =>
          cases ok
          exact h.insert (h _ entry hentry)
  | updateHeartbeatWithMetrics ok =>
      simp only [NodeRegistry.updateHeartbeatWithMetrics] at ok
      split at ok
      · cases ok
      · next entry hentry =>
          cases ok
          exact h.insert (h _ entry hentry)
  | removeNode ok =>
      simp only [NodeRegistry.removeNode] at ok
      split at ok
      · cases ok
      · cases ok
        intro id entry hlookup
        simp only [HashMap.lookup_erase_eq] at hlookup
        split at hlookup
        · cases hlookup
        · exact h id entry hlookup
  | cleanupStaleNodes timeout now => exact h.retain _
  | reorder same =>
      intro id entry hlookup
      exact h id entry (by rw [← same.lookup_eq]; exact hlookup)

/-- Every step keeps the entries keyed. -/
theorem Step.keyed {e : Event} (h : r.Keyed) (hstep : Step r e r') : r'.Keyed := by
  have hfiles : r.Files fun id descriptor => descriptor.nodeId = id := h
  exact Step.files hfiles (fun descriptor now heq => rfl) hstep

end

/-- In a reachable registry every entry is filed under its own id. -/
theorem keyed_of_reachable {allowSameIp : Bool} {r : NodeRegistry}
    (hreach : (registrySystem allowSameIp).Reachable r) : r.Keyed := by
  refine TransitionSystem.Reachable.invariant Keyed ?_
    (fun _ _ _ h hstep => Step.keyed h hstep) hreach
  rintro r rfl id entry hlookup
  simp [new] at hlookup

/-! ## What the registry lists -/

/-- A node is registered: its id looks up an entry with this descriptor. -/
def Registered (r : NodeRegistry) (d : NodeDescriptor) : Prop :=
  ∃ entry, r.nodes.lookup d.nodeId = some entry ∧ entry.descriptor = d

/-- Registered nodes are determined by their ids. -/
theorem Registered.eq_of_nodeId {r : NodeRegistry} {d d' : NodeDescriptor} (h : r.Registered d)
    (h' : r.Registered d') (hid : d.nodeId = d'.nodeId) : d = d' := by
  obtain ⟨entry, hentry, rfl⟩ := h
  obtain ⟨entry', hentry', rfl⟩ := h'
  rw [hid, hentry'] at hentry
  rw [Option.some.inj hentry]

/-- What is listed under a type is registered and has that type. -/
theorem mem_getNodesByType {r : NodeRegistry} (hkeyed : r.Keyed) {t : NodeType}
    {d : NodeDescriptor} (h : d ∈ r.getNodesByType t) : r.Registered d ∧ d.nodeType = t := by
  simp only [getNodesByType, List.mem_map, List.mem_filter, beq_iff_eq] at h
  obtain ⟨entry, ⟨hmem, htype⟩, rfl⟩ := h
  obtain ⟨id, hlookup⟩ := HashMap.mem_values.mp hmem
  refine ⟨⟨entry, ?_, rfl⟩, htype⟩
  rw [hkeyed id entry hlookup]
  exact hlookup

/-- No id is listed twice. -/
theorem nodup_getNodesByType {r : NodeRegistry} (hkeyed : r.Keyed) (t : NodeType) :
    ((r.getNodesByType t).map NodeDescriptor.nodeId).Nodup := by
  have hall : r.nodes.values.map (fun entry => entry.descriptor.nodeId) =
      r.nodes.pairs.map Prod.fst := by
    simp only [HashMap.values, HashMap.pairs, List.map_map]
    apply List.map_congr_left
    intro e he
    exact hkeyed e.1 e.2 (HashMap.mem_pairs.mp (List.mem_map.mpr ⟨e, he, rfl⟩))
  have hnodup := r.nodes.nodup_pairs_fst
  rw [← hall] at hnodup
  simp only [getNodesByType, List.map_map]
  exact hnodup.sublist (List.filter_sublist.map _)

end NodeRegistry

end NoPanic
