/-
# The client's directory

`DirectoryClient` asks the directory for a path of so many hops, decodes the descriptors of the
answer and counts them. Put before a directory that is in use, it gives its caller the path the
registry drew, or the registry's own refusal, and never refuses an answer for what is in it. A
number of hops below three, or one that does not fit the request, never gives a path.

Where the directory's random numbers are uniform, the client gets a path with the product of the
shares of bandwidth of its nodes.

A circuit is built along what the directory gives: if the registered descriptors tell the truth
about the relays at their addresses, the builder succeeds along every path that is drawn.
-/

import NoPanic.Circuit.Establishment
import NoPanic.Discovery.PathLaw
import NoPanic.Discovery.Replies

namespace NoPanic

open NoPanic.Math

/-- Why the client gets no nodes from the directory. -/
inductive DirectoryError
  | rpc (context : String) (status : Status)
  | decode (context : String) (status : Proto.Status)
  | text (message : String)
  deriving DecidableEq, Repr

namespace DirectoryClient

section

variable [AddrText] [EnumText]

/-- Decode the nodes of an answer. -/
def parseNodes (response : DiscoveryReply) : Except DirectoryError (List NodeDescriptor) :=
  match Proto.decodeAll response.nodes with
  | .error status => .error (.decode "Failed to parse node descriptors" status)
  | .ok nodes => .ok nodes

/-- `get_random_path`, over what the call answers. The number of hops is cut to 32 bits in the
request. -/
def getRandomPath (call : UInt32 → Except Status DiscoveryReply) (hopCount : Nat) :
    Except DirectoryError (List NodeDescriptor) :=
  match call (UInt32.ofNat hopCount) with
  | .error status => .error (.rpc "Failed to get random path from discovery service" status)
  | .ok response =>
      match parseNodes response with
      | .error e => .error e
      | .ok nodes =>
          if nodes.length ≠ hopCount then
            .error (.text (s!"Expected {hopCount} nodes from directory, got " ++
              s!"{nodes.length}"))
          else .ok nodes

end

end DirectoryClient

namespace DiscoveryService

/-- How many hops a directory draws for a request. -/
def drawnHops (hopCount : Nat) : Nat := max (hopCount % 2 ^ 32) 3

theorem drawnHops_eq_self_iff {hopCount : Nat} :
    drawnHops hopCount = hopCount ↔ 3 ≤ hopCount ∧ hopCount < 2 ^ 32 := by
  rw [drawnHops]
  omega

section

variable [AddrText] [EnumText]

/-- The call of `GetRandomPath` to a directory. -/
def pathCall {R : Type} [Rng R] (s : DiscoveryService) (now : Nat) (rng : R) (count : UInt32) :
    Except Status DiscoveryReply :=
  (serve s.registry (.getRandomPath count) now rng).reply

/-- What a client is answered by a directory in use. -/
theorem getRandomPath_pathCall (hread : AddrText.ReadsBack) {s : DiscoveryService}
    (hsound : Sound s.registry) {R : Type} [Rng R] (hopCount now : Nat) (rng : R) :
    DirectoryClient.getRandomPath (s.pathCall now rng) hopCount =
      match s.registry.getRandomPath (drawnHops hopCount) rng with
      | .error e => .error (.rpc "Failed to get random path from discovery service" e.pathStatus)
      | .ok path =>
          if drawnHops hopCount ≠ hopCount then
            .error (.text (s!"Expected {hopCount} nodes from directory, got " ++
              s!"{drawnHops hopCount}"))
          else .ok path := by
  have hcount : (UInt32.ofNat hopCount).toNat = hopCount % 2 ^ 32 := UInt32.toNat_ofNat'
  simp only [DirectoryClient.getRandomPath, pathCall, serve, getRandomPath, hcount]
  rw [show max (hopCount % 2 ^ 32) 3 = drawnHops hopCount from rfl]
  cases hpath : s.registry.getRandomPath (drawnHops hopCount) rng with
  | error e => rfl
  | ok path =>
      have hdecoded := hsound.decodeAll_map hread
        (NodeRegistry.registered_of_getRandomPath hsound.keyed hpath)
      have hlength := NodeRegistry.length_of_getRandomPath hpath
      simp only [DirectoryClient.parseNodes, DiscoveryReply.nodes, hdecoded, hlength]

/-- The paths that a client gets are those the registry draws. -/
theorem getRandomPath_pathCall_eq_ok_iff (hread : AddrText.ReadsBack) {s : DiscoveryService}
    (hsound : Sound s.registry) {R : Type} [Rng R] (hopCount now : Nat) (rng : R)
    (path : List NodeDescriptor) :
    DirectoryClient.getRandomPath (s.pathCall now rng) hopCount = .ok path ↔
      3 ≤ hopCount ∧ hopCount < 2 ^ 32 ∧ s.registry.getRandomPath hopCount rng = .ok path := by
  rw [getRandomPath_pathCall hread hsound, ← and_assoc, ← drawnHops_eq_self_iff]
  by_cases hself : drawnHops hopCount = hopCount
  · rw [hself]
    cases hdrawn : s.registry.getRandomPath hopCount rng with
    | error e => simp
    | ok drawn => simp
  · constructor
    · intro h
      split at h
      · cases h
      · rw [if_pos hself] at h
        cases h
    · rintro ⟨heq, -⟩
      exact absurd heq hself

/-- The errors that a client gets are the registry's refusals, and that of a number of hops that
is out of range. -/
theorem getRandomPath_pathCall_eq_error (hread : AddrText.ReadsBack) {s : DiscoveryService}
    (hsound : Sound s.registry) {R : Type} [Rng R] {hopCount now : Nat} {rng : R}
    {error : DirectoryError}
    (h : DirectoryClient.getRandomPath (s.pathCall now rng) hopCount = .error error) :
    (∃ e, s.registry.getRandomPath (drawnHops hopCount) rng = .error e ∧
        error = .rpc "Failed to get random path from discovery service" e.pathStatus) ∨
      ¬ (3 ≤ hopCount ∧ hopCount < 2 ^ 32) ∧
        error = .text (s!"Expected {hopCount} nodes from directory, got " ++
          s!"{drawnHops hopCount}") := by
  rw [getRandomPath_pathCall hread hsound] at h
  cases hdrawn : s.registry.getRandomPath (drawnHops hopCount) rng with
  | error e =>
      rw [hdrawn] at h
      cases h
      exact Or.inl ⟨e, rfl, rfl⟩
  | ok drawn =>
      rw [hdrawn] at h
      simp only at h
      split at h
      · next hne =>
          cases h
          exact Or.inr ⟨fun hrange => hne (drawnHops_eq_self_iff.mpr hrange), rfl⟩
      · cases h

/-- A client in front of a directory in use gets exactly the paths that the registry draws for
its number of hops, which has to be three at least and to fit 32 bits. Otherwise it gets the
registry's refusal, or is told of a wrong number of nodes; it never fails to decode the answer. -/
theorem path_iff_drawn (hread : AddrText.ReadsBack) {allowSameIp : Bool}
    {metrics : Option DiscoveryMetrics} {s : DiscoveryService}
    (hreach : (system allowSameIp metrics).Reachable s) {R : Type} [Rng R] (hopCount now : Nat)
    (rng : R) :
    (∀ path, DirectoryClient.getRandomPath (s.pathCall now rng) hopCount = .ok path ↔
        3 ≤ hopCount ∧ hopCount < 2 ^ 32 ∧ s.registry.getRandomPath hopCount rng = .ok path) ∧
      ∀ error, DirectoryClient.getRandomPath (s.pathCall now rng) hopCount = .error error →
        (∃ e, s.registry.getRandomPath (drawnHops hopCount) rng = .error e ∧
            error = .rpc "Failed to get random path from discovery service" e.pathStatus) ∨
          ¬ (3 ≤ hopCount ∧ hopCount < 2 ^ 32) ∧
            error = .text (s!"Expected {hopCount} nodes from directory, got " ++
              s!"{drawnHops hopCount}") :=
  ⟨getRandomPath_pathCall_eq_ok_iff hread (sound_of_reachable hreach) hopCount now rng,
    fun _ herror => getRandomPath_pathCall_eq_error hread (sound_of_reachable hreach) herror⟩

/-- Where the numbers that a directory in use draws are uniform and independent, a client gets a
path with the product of the shares of its nodes: that of the exit among the exits, that of the
entry among the entries, and those of the middles, each among the middles that fit the nodes
picked before it. -/
theorem path_law (hread : AddrText.ReadsBack) {allowSameIp : Bool}
    {metrics : Option DiscoveryMetrics} {s : DiscoveryService}
    (hreach : (system allowSameIp metrics).Reachable s) (hfits : s.registry.BandwidthsFit)
    {hopCount : Nat} (hlong : 3 ≤ hopCount) (hshort : hopCount < 2 ^ 32) {R : Type} [Rng R]
    {μ : PMF R} (hμ : UniformSource Rng.randomRange (2 ^ 64) hopCount μ) (now : Nat)
    (entryNode : NodeDescriptor) (middles : List NodeDescriptor) (exitNode : NodeDescriptor) :
    μ.toOuterMeasure {rng | DirectoryClient.getRandomPath (s.pathCall now rng) hopCount =
        .ok (entryNode :: middles ++ [exitNode])} =
      s.registry.pathLaw hopCount entryNode middles exitNode := by
  have hsound := sound_of_reachable hreach
  simp only [getRandomPath_pathCall_eq_ok_iff hread hsound, hlong, hshort, true_and]
  exact NodeRegistry.prob_getRandomPath hsound.keyed hfits
    (fun n hn => (hsound.of_registered hn).bandwidth) hlong hμ entryNode middles exitNode

end

end DiscoveryService

/-! ## Building along what the directory gives -/

/-- The hop of a path at a descriptor: the relay at its address, and the secret that is drawn for
the handshake with it. -/
def PathHop.at (relayAt : SocketAddr → PathRelay) (secretFor : NodeDescriptor → FixedBytes 32)
    (d : NodeDescriptor) : PathHop :=
  ⟨relayAt d.address, d, secretFor d⟩

namespace NodeRegistry

/-- A drawn path is an entry, middles and an exit, all with different ids. -/
theorem roles_of_getRandomPath {r : NodeRegistry} (hkeyed : r.Keyed) {R : Type} [Rng R]
    {hopCount : Nat} {rng : R} {path : List NodeDescriptor}
    (hpath : r.getRandomPath hopCount rng = .ok path) :
    path.map NodeDescriptor.nodeType =
        .entry :: (List.replicate (path.length - 2) .middle ++ [.exit]) ∧
      (path.map NodeDescriptor.nodeId).Nodup := by
  obtain ⟨entryNode, middles, exitNode, rfl, hentry, hexit, -, hsub, -, -⟩ :=
    pickPath_cases (getRandomPath_cases hpath).2
  obtain ⟨hentryRegistered, hentryType⟩ := mem_getNodesByType hkeyed hentry
  obtain ⟨hexitRegistered, hexitType⟩ := mem_getNodesByType hkeyed hexit
  have hmiddle : ∀ n ∈ middles, r.Registered n ∧ n.nodeType = .middle := fun n hn =>
    mem_getNodesByType hkeyed (hsub.subset hn)
  have hmiddleTypes : middles.map NodeDescriptor.nodeType =
      List.replicate middles.length .middle := by
    rw [List.eq_replicate_iff, List.length_map]
    refine ⟨rfl, fun t ht => ?_⟩
    obtain ⟨n, hn, rfl⟩ := List.mem_map.mp ht
    exact (hmiddle n hn).2
  have hnodup : (middles.map NodeDescriptor.nodeId).Nodup := by
    obtain ⟨picked, hperm, hpicked⟩ := hsub
    exact (hperm.map _).nodup_iff.mp
      ((nodup_getNodesByType hkeyed .middle).sublist (hpicked.map _))
  constructor
  · simp [hentryType, hexitType, hmiddleTypes]
  · exact nodup_path hentryRegistered hexitRegistered
      (fun n hn => (hmiddle n hn).1) hentryType hexitType (fun n hn => (hmiddle n hn).2) hnodup

end NodeRegistry

namespace DiscoveryService

section

variable [Primitives] [AddrText] [EnumText]

/-- A drawn path through relays of which the directory tells the truth is an honest path, along
which no relay comes twice. -/
theorem honestPath_of_drawn {r : NodeRegistry} (hsound : Sound r)
    {relayAt : SocketAddr → PathRelay} {secretFor : NodeDescriptor → FixedBytes 32}
    (htruth : ∀ d, r.Registered d → (PathHop.at relayAt secretFor d).Honest ∧
      (relayAt d.address).nodeType = d.nodeType)
    {R : Type} [Rng R] {hopCount : Nat} {rng : R} {path : List NodeDescriptor}
    (hpath : r.getRandomPath hopCount rng = .ok path) :
    HonestPath (path.map (PathHop.at relayAt secretFor)) ∧
      (path.map NodeDescriptor.address).Nodup := by
  have hregistered := NodeRegistry.registered_of_getRandomPath hsound.keyed hpath
  have hlength := NodeRegistry.length_of_getRandomPath hpath
  obtain ⟨hroles, hnodup⟩ := NodeRegistry.roles_of_getRandomPath hsound.keyed hpath
  refine ⟨⟨?_, ?_, ?_⟩, ?_⟩
  · rw [List.length_map, hlength]
    exact (NodeRegistry.getRandomPath_cases hpath).1
  · intro hop hhop
    obtain ⟨d, hd, rfl⟩ := List.mem_map.mp hhop
    exact (htruth d (hregistered d hd)).1
  · rw [List.map_map, List.length_map, ← hroles]
    apply List.map_congr_left
    intro d hd
    exact (htruth d (hregistered d hd)).2
  · apply List.Nodup.map_on _ (List.Nodup.of_map _ hnodup)
    intro d hd d' hd' haddress
    exact hsound.distinct.eq_of_address (hregistered d hd) (hregistered d' hd') haddress

end

end DiscoveryService

namespace CircuitBuilder

section

variable [Primitives] [AddrText]

/-- What an honest path leaves behind: every relay holds its part of the circuit, with the keys
and the ciphers of the client, and all but the last have a next hop. -/
theorem built_of_honestPath {hops : List PathHop} (hpath : HonestPath hops)
    (circuitId : CircuitId) :
    ∃ (world : PathWorld) (circuit : Circuit),
      build pathTransport (PathWorld.start hops) circuitId (hops.map PathHop.node) =
        (world, .ok circuit) ∧
      circuit.circuitId = circuitId ∧ circuit.state = .ready ∧
      world.relays.map PathRelay.identity = hops.map (fun hop => hop.relay.identity) ∧
      Built circuitId world.relays circuit.onionKeys.sessionKeys circuit.onionKeys.ciphers := by
  obtain ⟨entry, hops, rfl⟩ := List.exists_cons_of_length_pos
    (Nat.lt_of_lt_of_le (by decide : 0 < 3) hpath.long)
  have hentry := hpath.honest entry List.mem_cons_self
  obtain ⟨relay, key, hcreate, hholds, hidentity⟩ := handshakeCreate_honest hentry circuitId
    (hops.map PathHop.relay) (hops.map PathHop.secret)
  have hsame : ([relay] ++ hops.map PathHop.relay).map PathRelay.identity =
      ((entry :: hops).map PathHop.relay).map PathRelay.identity := by
    simp [hidentity]
  obtain ⟨relays, keys, pairs, hextend, hbuilt, hidentities⟩ := extendAll_honest
    (fun hop hmem => hpath.honest hop (List.mem_cons_of_mem _ hmem)) (.last hholds)
    (PathRelay.kind_of_identity hsame hpath.not_exit) [[.created]]
  let log := [[HopAct.created]] ++
    (List.range hops.length).map fun k => extendActs ([relay].length + k)
  have hconnect : pathTransport.connect (PathWorld.start (entry :: hops)) entry.node.address
      entry.node.tlsCertFingerprint = (PathWorld.start (entry :: hops), .ok ()) := by
    simp [pathTransport, PathWorld.start, hentry.address, hentry.fingerprint]
  have hlong : ¬ ((entry :: hops).map PathHop.node).length < 3 := by
    rw [List.length_map]
    exact Nat.not_lt.mpr hpath.long
  refine ⟨⟨relays, [], [], log⟩, ⟨circuitId, .ready, OnionKeys.new keys pairs, ∅, 1⟩, ?_, rfl, rfl,
    hidentities.trans (hsame.trans List.map_map), hbuilt⟩
  rw [build.eq_def, if_neg hlong]
  simp only [List.map_cons, hconnect]
  simp only [PathWorld.start, List.map_cons, hcreate]
  rw [← List.singleton_append, hextend]

end

end CircuitBuilder

namespace DiscoveryService

section

variable [Primitives] [AddrText] [EnumText]

/-- Whatever the users of the directory did before: if its registered descriptors tell the truth
about the relays at their addresses, the client builds a circuit along every path it is given.
No relay comes twice on it, and every relay holds its part of the circuit with the client's key
and cipher. -/
theorem circuit_of_path (hread : AddrText.ReadsBack) {allowSameIp : Bool}
    {metrics : Option DiscoveryMetrics} {s : DiscoveryService}
    (hreach : (system allowSameIp metrics).Reachable s)
    {relayAt : SocketAddr → PathRelay} {secretFor : NodeDescriptor → FixedBytes 32}
    (htruth : ∀ d, s.registry.Registered d → (PathHop.at relayAt secretFor d).Honest ∧
      (relayAt d.address).nodeType = d.nodeType)
    {R : Type} [Rng R] {hopCount now : Nat} {rng : R} {path : List NodeDescriptor}
    (hpath : DirectoryClient.getRandomPath (s.pathCall now rng) hopCount = .ok path)
    (circuitId : CircuitId) :
    ∃ (world : PathWorld) (circuit : Circuit),
      CircuitBuilder.build pathTransport
          (PathWorld.start (path.map (PathHop.at relayAt secretFor))) circuitId path =
        (world, .ok circuit) ∧
      circuit.circuitId = circuitId ∧ circuit.state = .ready ∧ world.relays.length = hopCount ∧
      (world.relays.map PathRelay.address).Nodup ∧
      Built circuitId world.relays circuit.onionKeys.sessionKeys circuit.onionKeys.ciphers := by
  have hsound := sound_of_reachable hreach
  obtain ⟨-, -, hdrawn⟩ :=
    (getRandomPath_pathCall_eq_ok_iff hread hsound hopCount now rng path).mp hpath
  obtain ⟨hhonest, hnodup⟩ := honestPath_of_drawn hsound htruth hdrawn
  obtain ⟨world, circuit, hbuild, hid, hready, hidentities, hbuilt⟩ :=
    CircuitBuilder.built_of_honestPath hhonest circuitId
  have hnodes : (path.map (PathHop.at relayAt secretFor)).map PathHop.node = path := by
    rw [List.map_map]
    exact List.map_id path
  have haddresses : world.relays.map PathRelay.address = path.map NodeDescriptor.address := by
    have hsame := congrArg (List.map PathRelay.address) hidentities
    rw [List.map_map, List.map_map, List.map_map] at hsame
    refine hsame.trans (List.map_congr_left fun d hd => ?_)
    have hregistered := NodeRegistry.registered_of_getRandomPath hsound.keyed hdrawn d hd
    exact (htruth d hregistered).1.address.symm
  rw [hnodes] at hbuild
  refine ⟨world, circuit, hbuild, hid, hready, ?_, haddresses ▸ hnodup, hbuilt⟩
  rw [← NodeRegistry.length_of_getRandomPath hdrawn, ← List.length_map (f := PathRelay.address),
    haddresses, List.length_map]

end

/-! ## A directory of three honest relays -/

section

open Reference

/-- The relay that runs at an address. -/
def sampleRelayAt (address : SocketAddr) : PathRelay :=
  if address = sampleAddress 1 then (samplePathHop .entry 1).relay
  else if address = sampleAddress 2 then (samplePathHop .middle 2).relay
  else (samplePathHop .exit 3).relay

/-- What it registers. -/
def sampleDescriptor (nodeId : String) (nodeType : NodeType) (place : UInt8) : NodeDescriptor :=
  { (samplePathHop nodeType place).node with nodeId, bandwidth := 1 }

/-- The path through the three. -/
def sampleDrawn : List NodeDescriptor :=
  [sampleDescriptor "a" .entry 1, sampleDescriptor "b" .middle 2, sampleDescriptor "c" .exit 3]

/-- A directory that has registered the three. -/
def sampleDirectory : DiscoveryService where
  registry :=
    (((NodeRegistry.new false).registerNode (sampleDescriptor "a" .entry 1) 0).registerNode
      (sampleDescriptor "b" .middle 2) 1).registerNode (sampleDescriptor "c" .exit 3) 2
  metrics := none
  pending := []

/-- The path that it draws. -/
theorem getRandomPath_sampleDirectory :
    sampleDirectory.registry.getRandomPath 3 (⟨[5, 7, 11]⟩ : NodeRegistry.Draws) =
      .ok sampleDrawn := by
  decide +kernel

/-- A relay may register with a directory that keeps no metrics. -/
theorem reachable_register {allowSameIp : Bool} {s : DiscoveryService}
    (hreach : (system allowSameIp none).Reachable s) (hmetrics : s.metrics = none)
    {d : NodeDescriptor} (now : Nat) (hid : d.nodeId.isEmpty = false) (hbandwidth : d.bandwidth ≠ 0)
    (haddr : AddrText.parse (AddrText.display d.address) = some d.address) :
    (system allowSameIp none).Reachable { s with registry := s.registry.registerNode d now } := by
  have hserved : (serve s.registry (.registerNode (Proto.NodeDescriptor.fromCommon d)) now
      (⟨[]⟩ : NodeRegistry.Draws)).registry = s.registry.registerNode d now := by
    simp only [serve, register, Proto.NodeDescriptor.toCommon_fromCommon haddr, hid,
      Bool.false_eq_true, if_false, if_neg hbandwidth]
  have hstep := Step.serve s (.registerNode (Proto.NodeDescriptor.fromCommon d)) now
    (⟨[]⟩ : NodeRegistry.Draws)
  simp only [leave, hserved, hmetrics, Option.isSome_none, Bool.false_eq_true, if_false] at hstep
  rw [← hmetrics] at hstep
  exact hreach.next hstep

/-- The directory is reached. -/
theorem sampleDirectory_reachable : (system false none).Reachable sampleDirectory := by
  have hstart : (system false none).Reachable (start false none) :=
    TransitionSystem.reachable_of_init rfl
  have hfirst := reachable_register hstart rfl (d := sampleDescriptor "a" .entry 1) 0
    (by decide) (by decide) sampleAddress_one.parse
  have hsecond := reachable_register hfirst rfl (d := sampleDescriptor "b" .middle 2) 1
    (by decide) (by decide) sampleAddress_two.parse
  exact reachable_register hsecond rfl (d := sampleDescriptor "c" .exit 3) 2
    (by decide) (by decide) sampleAddress_three.parse

/-- A client that asks for three hops is given the path through the three, and no client gets a
path of two. -/
theorem path_iff_drawn_sampleDirectory :
    DirectoryClient.getRandomPath
        (sampleDirectory.pathCall 3 (⟨[5, 7, 11]⟩ : NodeRegistry.Draws)) 3 = .ok sampleDrawn ∧
      ∀ path, DirectoryClient.getRandomPath
        (sampleDirectory.pathCall 3 (⟨[5, 7, 11]⟩ : NodeRegistry.Draws)) 2 ≠ .ok path := by
  have hthree := (path_iff_drawn readsBack_ipv4 sampleDirectory_reachable 3 3
    (⟨[5, 7, 11]⟩ : NodeRegistry.Draws)).1
  have htwo := (path_iff_drawn readsBack_ipv4 sampleDirectory_reachable 2 3
    (⟨[5, 7, 11]⟩ : NodeRegistry.Draws)).1
  refine ⟨(hthree sampleDrawn).mpr ⟨by decide, by decide, getRandomPath_sampleDirectory⟩, ?_⟩
  intro path hpath
  exact absurd ((htwo path).mp hpath).1 (by decide)

/-- A second exit, with three times the bandwidth of the first. -/
def sampleWideExit : NodeDescriptor := { sampleDescriptor "d" .exit 4 with bandwidth := 3 }

/-- The directory of the three after the second exit has registered. -/
def sampleTwoExits : DiscoveryService :=
  { sampleDirectory with registry := sampleDirectory.registry.registerNode sampleWideExit 3 }

/-- A client comes out at the first exit with a quarter of all draws. -/
theorem path_law_sampleTwoExits : ∃ μ : PMF NodeRegistry.Draws,
    μ.toOuterMeasure {rng | DirectoryClient.getRandomPath (sampleTwoExits.pathCall 4 rng) 3 =
      .ok sampleDrawn} = 1 / 4 := by
  have hreach : (system false none).Reachable sampleTwoExits :=
    reachable_register sampleDirectory_reachable rfl 3 (by decide) (by decide) (by decide +kernel)
  have hfits : sampleTwoExits.registry.BandwidthsFit := by
    intro t
    cases t <;> decide
  have hdraw : ∀ n ns bound (hpos : 0 < bound),
      Rng.randomRange (⟨n :: ns⟩ : NodeRegistry.Draws) bound hpos =
        (⟨n % bound, Nat.mod_lt n hpos⟩, ⟨ns⟩) := fun _ _ _ _ => rfl
  obtain ⟨μ, hμ⟩ := exists_uniformSource hdraw (2 ^ 64) 3
  have hexit : share NodeRegistry.tickets (sampleTwoExits.registry.ofType .exit)
      (sampleDescriptor "c" .exit 3) = ((1 : Nat) : ENNReal) / (4 : Nat) := by
    rw [share, if_pos (by decide +kernel)]
    rfl
  have hentry : share NodeRegistry.tickets (sampleTwoExits.registry.ofType .entry)
      (sampleDescriptor "a" .entry 1) = ((1 : Nat) : ENNReal) / (1 : Nat) := by
    rw [share, if_pos (by decide +kernel)]
    rfl
  have hmiddle : share NodeRegistry.tickets (sampleTwoExits.registry.fitting
      [sampleDescriptor "a" .entry 1, sampleDescriptor "c" .exit 3])
        (sampleDescriptor "b" .middle 2) = ((1 : Nat) : ENNReal) / (1 : Nat) := by
    rw [share, if_pos (by decide +kernel)]
    rfl
  refine ⟨μ, ?_⟩
  have hlaw := path_law readsBack_ipv4 hreach hfits (by decide) (by decide) hμ 4
    (sampleDescriptor "a" .entry 1) [sampleDescriptor "b" .middle 2] (sampleDescriptor "c" .exit 3)
  refine hlaw.trans ?_
  rw [NodeRegistry.pathLaw, if_pos (by decide), hexit, hentry, shares, shares, hmiddle]
  simp only [Nat.cast_one, Nat.cast_ofNat, div_one, mul_one]

/-- What one of the relays registers is true. -/
theorem sampleDescriptor_truth (nodeId : String) {nodeType : NodeType} {place : UInt8}
    (hat : sampleRelayAt (sampleAddress place) = (samplePathHop nodeType place).relay)
    (htext : AddrText.Faithful (sampleAddress place))
    (hephemeral : Agree (FixedBytes.ofNat 32 (20 + place.toNat)) (FixedBytes.ofNat 32 9))
    (hstatic : Agree (FixedBytes.ofNat 32 (10 + place.toNat)) (FixedBytes.ofNat 32 9)) :
    (PathHop.at sampleRelayAt (fun _ => FixedBytes.ofNat 32 9)
        (sampleDescriptor nodeId nodeType place)).Honest ∧
      (sampleRelayAt (sampleDescriptor nodeId nodeType place).address).nodeType =
        (sampleDescriptor nodeId nodeType place).nodeType := by
  have hrelay : (PathHop.at sampleRelayAt (fun _ => FixedBytes.ofNat 32 9)
      (sampleDescriptor nodeId nodeType place)).relay = (samplePathHop nodeType place).relay := hat
  refine ⟨⟨?_, ?_, ?_, ?_, show "ab12".length ≤ 64 by decide, htext, ?_, ?_⟩, ?_⟩
  · rw [hrelay]
    rfl
  · rw [hrelay]
    rfl
  · rw [hrelay]
    rfl
  · rw [hrelay]
    rfl
  · rw [hrelay]
    exact hephemeral
  · rw [hrelay]
    exact hstatic
  · exact congrArg PathRelay.nodeType hat

/-- What is registered there is true. -/
theorem sampleDirectory_truth (d : NodeDescriptor) (hd : sampleDirectory.registry.Registered d) :
    (PathHop.at sampleRelayAt (fun _ => FixedBytes.ofNat 32 9) d).Honest ∧
      (sampleRelayAt d.address).nodeType = d.nodeType := by
  have hmem := (NodeRegistry.mem_descriptors
    (sound_of_reachable sampleDirectory_reachable).keyed).mpr hd
  have hlisted : sampleDirectory.registry.descriptors = sampleDrawn.reverse := rfl
  rw [hlisted, List.mem_reverse, sampleDrawn, List.mem_cons, List.mem_cons,
    List.mem_singleton] at hmem
  rcases hmem with rfl | rfl | rfl
  · exact sampleDescriptor_truth "a" (if_pos rfl) sampleAddress_one (by decide +kernel)
      (by decide +kernel)
  · exact sampleDescriptor_truth "b" rfl sampleAddress_two (by decide +kernel) (by decide +kernel)
  · exact sampleDescriptor_truth "c" rfl sampleAddress_three (by decide +kernel)
      (by decide +kernel)

/-- The circuit through the three is built. -/
theorem circuit_of_path_sampleDirectory :
    ∃ (world : PathWorld) (circuit : Circuit),
      CircuitBuilder.build pathTransport (PathWorld.start
          (sampleDrawn.map (PathHop.at sampleRelayAt fun _ => FixedBytes.ofNat 32 9))) 1
            sampleDrawn = (world, .ok circuit) ∧
        Built 1 world.relays circuit.onionKeys.sessionKeys circuit.onionKeys.ciphers := by
  have hpath : DirectoryClient.getRandomPath
      (sampleDirectory.pathCall 3 (⟨[5, 7, 11]⟩ : NodeRegistry.Draws)) 3 = .ok sampleDrawn :=
    (getRandomPath_pathCall_eq_ok_iff readsBack_ipv4
      (sound_of_reachable sampleDirectory_reachable) 3 3 _ _).mpr
        ⟨by decide, by decide, getRandomPath_sampleDirectory⟩
  obtain ⟨world, circuit, hbuild, -, -, -, -, hbuilt⟩ :=
    circuit_of_path readsBack_ipv4 sampleDirectory_reachable sampleDirectory_truth hpath 1
  exact ⟨world, circuit, hbuild, hbuilt⟩

end

end DiscoveryService

end NoPanic
