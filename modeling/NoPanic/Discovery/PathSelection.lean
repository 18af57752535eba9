/-
# Random paths

The directory picks the exit first, then the entry, then the middles one by one,
each by a draw weighted with bandwidth. Two exclusion sets grow with the picks:
the addresses and the operators that are already on the path. Loopback addresses
are exempt, nodes without an operator are exempt, and a flag switches the address
rule off.

Both rules are one rule over different labels, so the loop invariant is stated
once, as `Separates`, and used at the address label and at the operator label.
-/

import Mathlib.Data.UInt
import NoPanic.Discovery.Registry
import NoPanic.Math.Exclusion

namespace NoPanic

open NoPanic.Math

universe u

/-- A random number generator: a draw below a bound, and the next state. -/
class Rng (R : Type u) where
  /-- `random_range(0..bound)`. -/
  randomRange : R → (bound : Nat) → 0 < bound → Fin bound × R

namespace NodeRegistry

/-- The first node whose bandwidth covers what the nodes before it left of the
weight. -/
def weightedIndex : (nodes : List NodeDescriptor) → UInt64 → Option (Fin nodes.length)
  | [], _ => none
  | node :: nodes, randomWeight =>
      if randomWeight < node.bandwidth then some ⟨0, Nat.succ_pos _⟩
      else (weightedIndex nodes (randomWeight - node.bandwidth)).map Fin.succ

/-- The sum of the bandwidths. -/
def totalBandwidth (nodes : List NodeDescriptor) : UInt64 :=
  (nodes.map NodeDescriptor.bandwidth).sum

section

variable {R : Type u} [Rng R]

/-- The index of a bandwidth-weighted random node. -/
def selectWeightedIndex (nodes : List NodeDescriptor) (rng : R) :
    Except RegistryError (Fin nodes.length × R) :=
  if hnodes : nodes.length = 0 then .error (.insufficientNodes "Empty node list")
  else
    have hpos : 0 < nodes.length := Nat.pos_of_ne_zero hnodes
    if htotal : (totalBandwidth nodes).toNat = 0 then .ok (Rng.randomRange rng nodes.length hpos)
    else
      let (randomWeight, rng) :=
        Rng.randomRange rng (totalBandwidth nodes).toNat (Nat.pos_of_ne_zero htotal)
      match weightedIndex nodes (UInt64.ofNat randomWeight) with
      | some idx => .ok (idx, rng)
      | none => .ok (⟨nodes.length - 1, Nat.sub_lt hpos Nat.one_pos⟩, rng)

/-- A bandwidth-weighted random node. -/
def selectWeightedNode (nodes : List NodeDescriptor) (rng : R) :
    Except RegistryError (NodeDescriptor × R) :=
  match selectWeightedIndex nodes rng with
  | .error e => .error e
  | .ok (idx, rng) => .ok (nodes.get idx, rng)

/-- Exclude the address of a picked node. -/
def excludeIp (allowSameIp : Bool) (excludedIps : Finset IpAddr) (node : NodeDescriptor) :
    Finset IpAddr :=
  if !allowSameIp && !node.address.ip.isLoopback then insert node.address.ip excludedIps
  else excludedIps

/-- Exclude the operator of a picked node. -/
def excludeOp (excludedOps : Finset String) (node : NodeDescriptor) : Finset String :=
  match node.operatorId with
  | some op => insert op excludedOps
  | none => excludedOps

/-- Whether a middle may still be picked. -/
def mayPick (allowSameIp : Bool) (excludedIps : Finset IpAddr) (excludedOps : Finset String)
    (n : NodeDescriptor) : Bool :=
  let ipOk := allowSameIp || n.address.ip.isLoopback || !decide (n.address.ip ∈ excludedIps)
  let opOk := n.operatorId.all fun op => !decide (op ∈ excludedOps)
  ipOk && opOk

/-- Pick the middles for the remaining slots. The candidates are filtered again
before every pick. -/
def pickMiddles (allowSameIp : Bool) : (remainingSlots : Nat) → List NodeDescriptor →
    Finset IpAddr → Finset String → R → Except RegistryError (List NodeDescriptor)
  | 0, _, _, _, _ => .ok []
  | remaining + 1, availableMiddles, excludedIps, excludedOps, rng =>
      let available := availableMiddles.filter (mayPick allowSameIp excludedIps excludedOps)
      let remainingSlots := remaining + 1
      let remain := available.length
      if available.length < remainingSlots then
        .error (.insufficientNodes
          s!"Not enough unique-IP/operator middle nodes: need {remainingSlots} more, {remain} remain")
      else
        match selectWeightedIndex available rng with
        | .error e => .error e
        | .ok (idx, rng) =>
            let node := available.get idx
            match pickMiddles allowSameIp remaining (available.eraseIdx idx)
                (excludeIp allowSameIp excludedIps node) (excludeOp excludedOps node) rng with
            | .error e => .error e
            | .ok middles => .ok (node :: middles)

/-- Pick exit, entry and middles from the candidates of each type. -/
def pickPath (allowSameIp : Bool) (middleCount : Nat)
    (entryNodes middleNodes exitNodes : List NodeDescriptor) (rng : R) :
    Except RegistryError (List NodeDescriptor) :=
  match selectWeightedNode exitNodes rng with
  | .error e => .error e
  | .ok (exitNode, rng) =>
      let excludedIps := excludeIp allowSameIp ∅ exitNode
      let excludedOps := excludeOp ∅ exitNode
      match selectWeightedNode entryNodes rng with
      | .error e => .error e
      | .ok (entryNode, rng) =>
          if !allowSameIp && !entryNode.address.ip.isLoopback &&
              decide (entryNode.address.ip ∈ excludedIps) then
            .error (.insufficientNodes "entry and exit share the same IP address")
          else if entryNode.operatorId.any fun op => decide (op ∈ excludedOps) then
            .error (.insufficientNodes "entry and exit share the same operator_id")
          else
            match pickMiddles allowSameIp middleCount middleNodes
                (excludeIp allowSameIp excludedIps entryNode) (excludeOp excludedOps entryNode)
                rng with
            | .error e => .error e
            | .ok middles => .ok (entryNode :: middles ++ [exitNode])

/-- A random path of `count` hops: one entry, middles and one exit. -/
def getRandomPath (r : NodeRegistry) (count : Nat) (rng : R) :
    Except RegistryError (List NodeDescriptor) :=
  if count < 3 then .error (.insufficientNodes s!"hop count must be >= 3, got {count}")
  else
    let entryNodes := r.getNodesByType .entry
    let middleNodes := r.getNodesByType .middle
    let exitNodes := r.getNodesByType .exit
    let middleCount := count - 2
    let registered := middleNodes.length
    if entryNodes.isEmpty then .error (.insufficientNodes "No entry nodes available")
    else if middleNodes.isEmpty then .error (.insufficientNodes "No middle nodes available")
    else if middleNodes.length < middleCount then
      .error (.insufficientNodes (s!"Need {middleCount} unique middle nodes for a " ++
        s!"{count}-hop circuit, only {registered} registered"))
    else if exitNodes.isEmpty then .error (.insufficientNodes "No exit nodes available")
    else pickPath r.allowSameIp middleCount entryNodes middleNodes exitNodes rng

end

/-! ## The two labels -/

/-- The address that a node keeps others from sharing, if any. -/
def ipLabel (allowSameIp : Bool) (n : NodeDescriptor) : Option IpAddr :=
  if !allowSameIp && !n.address.ip.isLoopback then some n.address.ip else none

theorem excludeIp_eq (allowSameIp : Bool) (excludedIps : Finset IpAddr) (node : NodeDescriptor) :
    excludeIp allowSameIp excludedIps node = exclude (ipLabel allowSameIp) excludedIps node := by
  unfold excludeIp exclude ipLabel
  split <;> rfl

theorem excludeOp_eq (excludedOps : Finset String) (node : NodeDescriptor) :
    excludeOp excludedOps node = exclude NodeDescriptor.operatorId excludedOps node := by
  unfold excludeOp exclude
  cases node.operatorId <;> rfl

/-- A middle that may be picked is free under both labels. -/
theorem free_of_mayPick {allowSameIp : Bool} {excludedIps : Finset IpAddr}
    {excludedOps : Finset String} {n : NodeDescriptor}
    (h : mayPick allowSameIp excludedIps excludedOps n = true) :
    Free (ipLabel allowSameIp) excludedIps n ∧
      Free NodeDescriptor.operatorId excludedOps n := by
  simp only [mayPick, Bool.and_eq_true, Bool.or_eq_true, Option.all_eq_true,
    Bool.not_eq_true', decide_eq_false_iff_not] at h
  refine ⟨fun ip hip => ?_, h.2⟩
  unfold ipLabel at hip
  split at hip
  · next hrule =>
      obtain rfl := Option.some.inj hip
      simp only [Bool.and_eq_true, Bool.not_eq_true'] at hrule
      simpa [hrule.1, hrule.2] using h.1
  · cases hip

/-! ## The picks -/

section

variable {R : Type u} [Rng R]

/-- A middle is picked when candidates enough are left after the filter: one of them is drawn,
and the others are picked from the rest. -/
theorem pickMiddles_succ_eq_ok {allowSameIp : Bool} {remaining : Nat}
    {availableMiddles middles : List NodeDescriptor} {excludedIps : Finset IpAddr}
    {excludedOps : Finset String} {rng : R} :
    pickMiddles allowSameIp (remaining + 1) availableMiddles excludedIps excludedOps rng =
        .ok middles ↔
      let available := availableMiddles.filter (mayPick allowSameIp excludedIps excludedOps)
      remaining + 1 ≤ available.length ∧
        ∃ idx rng' rest, selectWeightedIndex available rng = .ok (idx, rng') ∧
          pickMiddles allowSameIp remaining (available.eraseIdx idx)
            (excludeIp allowSameIp excludedIps (available.get idx))
            (excludeOp excludedOps (available.get idx)) rng' = .ok rest ∧
          middles = available.get idx :: rest := by
  simp only [pickMiddles]
  constructor
  · intro h
    split at h
    · cases h
    next hlen =>
      split at h
      · cases h
      next idx rng' hidx =>
        split at h
        · cases h
        next rest hrest =>
          exact ⟨Nat.le_of_not_lt hlen, idx, rng', rest, hidx, hrest, (Except.ok.inj h).symm⟩
  · rintro ⟨hlen, idx, rng', rest, hidx, hrest, rfl⟩
    rw [if_neg (Nat.not_lt.mpr hlen), hidx]
    simp only
    rw [hrest]

/-- The picked middles are taken from the candidates, without repetition. -/
theorem pickMiddles_subperm {allowSameIp : Bool} {slots : Nat} {available : List NodeDescriptor}
    {excludedIps : Finset IpAddr} {excludedOps : Finset String} {rng : R}
    {middles : List NodeDescriptor}
    (h : pickMiddles allowSameIp slots available excludedIps excludedOps rng = .ok middles) :
    middles.length = slots ∧ middles.Subperm available := by
  induction slots generalizing available excludedIps excludedOps rng middles with
  | zero =>
      cases h
      exact ⟨rfl, List.nil_subperm⟩
  | succ remaining ih =>
      obtain ⟨-, idx, rng', rest, -, hrest, rfl⟩ := pickMiddles_succ_eq_ok.mp h
      obtain ⟨hlen, hsub⟩ := ih hrest
      refine ⟨by simp [hlen], ?_⟩
      -- the pick and what is left of the candidates are the filtered candidates
      exact (((List.subperm_cons _).mpr hsub).trans
        (List.getElem_cons_eraseIdx_perm idx.isLt).subperm).trans List.filter_sublist.subperm

/-- The picked middles are apart from each other and from the picks before. -/
theorem pickMiddles_apart {allowSameIp : Bool} {slots : Nat} {available picks : List NodeDescriptor}
    {excludedIps : Finset IpAddr} {excludedOps : Finset String} {rng : R}
    {middles : List NodeDescriptor}
    (hips : Separates (ipLabel allowSameIp) excludedIps picks)
    (hops : Separates NodeDescriptor.operatorId excludedOps picks)
    (h : pickMiddles allowSameIp slots available excludedIps excludedOps rng = .ok middles) :
    Apart (ipLabel allowSameIp) (middles ++ picks) ∧
      Apart NodeDescriptor.operatorId (middles ++ picks) := by
  induction slots generalizing available excludedIps excludedOps rng middles picks with
  | zero =>
      cases h
      exact ⟨hips.apart, hops.apart⟩
  | succ remaining ih =>
      obtain ⟨-, idx, rng', rest, -, hrest, rfl⟩ := pickMiddles_succ_eq_ok.mp h
      have hpicked := List.mem_filter.mp (List.get_mem _ idx)
      obtain ⟨hfreeIp, hfreeOp⟩ := free_of_mayPick hpicked.2
      rw [excludeIp_eq, excludeOp_eq] at hrest
      obtain ⟨hapartIp, hapartOp⟩ := ih (hips.pick _ hfreeIp) (hops.pick _ hfreeOp) hrest
      exact ⟨hapartIp.perm _ List.perm_middle, hapartOp.perm _ List.perm_middle⟩

/-- A selected node is one of the candidates. -/
theorem selectWeightedNode_mem {nodes : List NodeDescriptor} {rng rng' : R} {n : NodeDescriptor}
    (h : selectWeightedNode nodes rng = .ok (n, rng')) : n ∈ nodes := by
  simp only [selectWeightedNode] at h
  split at h
  · cases h
  · cases h
    exact List.get_mem _ _

/-- A path is picked when the drawn exit and entry pass the two checks and the middles are
picked after them. -/
theorem pickPath_eq_ok {allowSameIp : Bool} {middleCount : Nat}
    {entryNodes middleNodes exitNodes path : List NodeDescriptor} {rng : R} :
    pickPath allowSameIp middleCount entryNodes middleNodes exitNodes rng = .ok path ↔
      ∃ exitNode rng₁ entryNode rng₂ middles,
        selectWeightedNode exitNodes rng = .ok (exitNode, rng₁) ∧
          selectWeightedNode entryNodes rng₁ = .ok (entryNode, rng₂) ∧
          ((!allowSameIp && !entryNode.address.ip.isLoopback &&
                decide (entryNode.address.ip ∈ excludeIp allowSameIp ∅ exitNode)) = false ∧
              (entryNode.operatorId.any fun op => decide (op ∈ excludeOp ∅ exitNode)) = false) ∧
          pickMiddles allowSameIp middleCount middleNodes
            (excludeIp allowSameIp (excludeIp allowSameIp ∅ exitNode) entryNode)
            (excludeOp (excludeOp ∅ exitNode) entryNode) rng₂ = .ok middles ∧
          path = entryNode :: middles ++ [exitNode] := by
  simp only [pickPath]
  constructor
  · intro h
    split at h
    · cases h
    next exitNode rng₁ hexit =>
      split at h
      · cases h
      next entryNode rng₂ hentry =>
        split at h
        · cases h
        next hip =>
          split at h
          · cases h
          next hop =>
            split at h
            · cases h
            next middles hmiddles =>
              have hchecks := And.intro (Bool.eq_false_iff.mpr hip) (Bool.eq_false_iff.mpr hop)
              exact ⟨exitNode, rng₁, entryNode, rng₂, middles, hexit, hentry, hchecks, hmiddles,
                (Except.ok.inj h).symm⟩
  · rintro ⟨exitNode, rng₁, entryNode, rng₂, middles, hexit, hentry, ⟨hip, hop⟩, hmiddles, rfl⟩
    simp only [hexit, hentry, hip, hop, hmiddles, Bool.false_eq_true, if_false]

/-- What a picked path is made of. -/
theorem pickPath_cases {allowSameIp : Bool} {middleCount : Nat}
    {entryNodes middleNodes exitNodes : List NodeDescriptor} {rng : R}
    {path : List NodeDescriptor}
    (h : pickPath allowSameIp middleCount entryNodes middleNodes exitNodes rng = .ok path) :
    ∃ entryNode middles exitNode,
      path = entryNode :: middles ++ [exitNode] ∧ entryNode ∈ entryNodes ∧
        exitNode ∈ exitNodes ∧ middles.length = middleCount ∧ middles.Subperm middleNodes ∧
          Apart (ipLabel allowSameIp) path ∧ Apart NodeDescriptor.operatorId path := by
  obtain ⟨exitNode, rng₁, entryNode, rng₂, middles, hexit, hentry, ⟨hip, hop⟩, hmiddles, rfl⟩ :=
    pickPath_eq_ok.mp h
  rw [excludeIp_eq, excludeIp_eq, excludeOp_eq, excludeOp_eq] at hmiddles
  rw [excludeIp_eq] at hip
  rw [excludeOp_eq] at hop
  -- exit, then entry, under both labels
  have hexitIp := (separates_nil (ipLabel allowSameIp) ∅).pick (a := exitNode) _ (by simp [Free])
  have hexitOp := (separates_nil NodeDescriptor.operatorId ∅).pick (a := exitNode) _
    (by simp [Free])
  have hfreeIp : Free (ipLabel allowSameIp) (exclude (ipLabel allowSameIp) ∅ exitNode)
      entryNode := by
    intro ip hlabel
    unfold ipLabel at hlabel
    split at hlabel
    · next hrule =>
        obtain rfl := Option.some.inj hlabel
        simp only [Bool.and_eq_true, Bool.not_eq_true'] at hrule
        simpa [hrule] using hip
    · cases hlabel
  have hfreeOp : Free NodeDescriptor.operatorId
      (exclude NodeDescriptor.operatorId ∅ exitNode) entryNode := by
    intro op hlabel hmem
    simp [hlabel, hmem] at hop
  obtain ⟨hapartIp, hapartOp⟩ :=
    pickMiddles_apart (hexitIp.pick _ hfreeIp) (hexitOp.pick _ hfreeOp) hmiddles
  obtain ⟨hlen, hsub⟩ := pickMiddles_subperm hmiddles
  have hperm : (middles ++ [entryNode, exitNode]).Perm (entryNode :: middles ++ [exitNode]) :=
    List.perm_middle
  exact ⟨entryNode, middles, exitNode, rfl, selectWeightedNode_mem hentry,
    selectWeightedNode_mem hexit, hlen, hsub, hapartIp.perm _ hperm, hapartOp.perm _ hperm⟩

/-- A successful query asked for three hops at least and picked a path from the
listed nodes. -/
theorem getRandomPath_cases {r : NodeRegistry} {count : Nat} {rng : R}
    {path : List NodeDescriptor} (h : r.getRandomPath count rng = .ok path) :
    3 ≤ count ∧ pickPath r.allowSameIp (count - 2) (r.getNodesByType .entry)
      (r.getNodesByType .middle) (r.getNodesByType .exit) rng = .ok path := by
  simp only [getRandomPath] at h
  split at h
  · cases h
  next hcount =>
    split at h
    · cases h
    split at h
    · cases h
    split at h
    · cases h
    split at h
    · cases h
    exact ⟨by omega, h⟩

end

/-! ## The guarantee -/

/-- What a path of `count` hops through a registry promises. -/
structure DiversePath (r : NodeRegistry) (count : Nat) (path : List NodeDescriptor) : Prop where
  /-- There are at least three hops. -/
  three_le : 3 ≤ count
  /-- The path has as many nodes as hops were asked for. -/
  length_eq : path.length = count
  /-- Every node is registered now. -/
  registered : ∀ n ∈ path, r.Registered n
  /-- Node ids are pairwise distinct. -/
  nodup : (path.map NodeDescriptor.nodeId).Nodup
  /-- First an entry, last an exit, middles between. -/
  roles : ∃ entryNode middles exitNode,
    path = entryNode :: middles ++ [exitNode] ∧ entryNode.nodeType = .entry ∧
      (∀ n ∈ middles, n.nodeType = .middle) ∧ exitNode.nodeType = .exit
  /-- No two nodes have one operator. -/
  operators : path.Pairwise fun a b => ∀ op, a.operatorId = some op → b.operatorId ≠ some op
  /-- No two nodes share an address, loopback apart, unless that is allowed. -/
  addresses : r.allowSameIp = false →
    path.Pairwise fun a b => a.address.ip.isLoopback = false → a.address.ip ≠ b.address.ip

/-- Nodes that are apart under the address label share no address. -/
theorem pairwise_ip_of_apart {path : List NodeDescriptor} (h : Apart (ipLabel false) path) :
    path.Pairwise fun a b => a.address.ip.isLoopback = false → a.address.ip ≠ b.address.ip := by
  refine h.imp fun {a b} hab hloop heq => hab a.address.ip ?_ ?_
  · simp [ipLabel, hloop]
  · simp [ipLabel, ← heq, hloop]

/-- Ids are distinct along a path whose parts are distinct and differ in type. -/
theorem nodup_path {r : NodeRegistry} {entryNode exitNode : NodeDescriptor}
    {middles : List NodeDescriptor} (hentry : r.Registered entryNode)
    (hexit : r.Registered exitNode) (hmiddle : ∀ n ∈ middles, r.Registered n)
    (hentryType : entryNode.nodeType = .entry) (hexitType : exitNode.nodeType = .exit)
    (hmiddleType : ∀ n ∈ middles, n.nodeType = .middle)
    (hnodup : (middles.map NodeDescriptor.nodeId).Nodup) :
    ((entryNode :: middles ++ [exitNode]).map NodeDescriptor.nodeId).Nodup := by
  have hentryExit : entryNode.nodeId ≠ exitNode.nodeId := by
    intro hid
    have := hentry.eq_of_nodeId hexit hid
    simp [this, hexitType] at hentryType
  have hentryMiddle : ∀ n ∈ middles, n.nodeId ≠ entryNode.nodeId := by
    intro n hn hid
    have := (hmiddle n hn).eq_of_nodeId hentry hid
    have htype := hmiddleType n hn
    simp [this, hentryType] at htype
  have hexitMiddle : ∀ n ∈ middles, n.nodeId ≠ exitNode.nodeId := by
    intro n hn hid
    have := (hmiddle n hn).eq_of_nodeId hexit hid
    have htype := hmiddleType n hn
    simp [this, hexitType] at htype
  simp only [List.cons_append, List.map_cons, List.map_append, List.map_nil, List.nodup_cons,
    List.mem_append, List.mem_map, List.mem_singleton, List.nodup_append]
  refine ⟨?_, hnodup, by simp, ?_⟩
  · rintro (⟨n, hn, hid⟩ | hid)
    · exact hentryMiddle n hn hid
    · exact hentryExit hid
  · rintro id ⟨n, hn, rfl⟩ id' rfl
    exact hexitMiddle n hn

/-- In a reachable registry every path that a query returns keeps the promise. -/
theorem getRandomPath_diverse {R : Type u} [Rng R] {allowSameIp : Bool} {r : NodeRegistry}
    (hreach : (registrySystem allowSameIp).Reachable r) {count : Nat} {rng : R}
    {path : List NodeDescriptor} (h : r.getRandomPath count rng = .ok path) :
    r.DiversePath count path := by
  have hkeyed := keyed_of_reachable hreach
  obtain ⟨hcount, hpath⟩ := getRandomPath_cases h
  obtain ⟨entryNode, middles, exitNode, rfl, hentry, hexit, hlen, hsub, hips, hops⟩ :=
    pickPath_cases hpath
  obtain ⟨hentryReg, hentryType⟩ := mem_getNodesByType hkeyed hentry
  obtain ⟨hexitReg, hexitType⟩ := mem_getNodesByType hkeyed hexit
  have hmiddle : ∀ n ∈ middles, r.Registered n ∧ n.nodeType = .middle := fun n hn =>
    mem_getNodesByType hkeyed (hsub.subset hn)
  have hnodup : (middles.map NodeDescriptor.nodeId).Nodup := by
    obtain ⟨picked, hperm, hpicked⟩ := hsub
    exact (hperm.map _).nodup_iff.mp
      ((nodup_getNodesByType hkeyed .middle).sublist (hpicked.map _))
  exact
    { three_le := hcount
      length_eq := by simp [hlen]; omega
      registered := by
        intro n hn
        simp only [List.cons_append, List.mem_cons, List.mem_append, List.not_mem_nil,
          or_false] at hn
        rcases hn with rfl | hn | rfl
        · exact hentryReg
        · exact (hmiddle n hn).1
        · exact hexitReg
      nodup := nodup_path hentryReg hexitReg (fun n hn => (hmiddle n hn).1) hentryType
        hexitType (fun n hn => (hmiddle n hn).2) hnodup
      roles := ⟨entryNode, middles, exitNode, rfl, hentryType, fun n hn => (hmiddle n hn).2,
        hexitType⟩
      operators := hops
      addresses := fun hallow => pairwise_ip_of_apart (by rwa [hallow] at hips) }

/-- A generator whose draws are listed, each reduced to the bound it is asked
for. -/
structure Draws where
  values : List Nat

instance : Rng Draws where
  randomRange draws bound h :=
    (⟨draws.values.headD 0 % bound, Nat.mod_lt _ h⟩, ⟨draws.values.tail⟩)

/-- A relay on a public address, without an operator. -/
def publicNode (nodeId : String) (nodeType : NodeType) (lastOctet : UInt8) : NodeDescriptor :=
  { nodeId, nodeType, address := .v4 ⟨[203, 0, 113, lastOctet], rfl⟩ 9001,
    publicKey := ⟨FixedBytes.zero 32⟩, bandwidth := 1048576, exitPolicy := none,
    operatorId := none, tlsCertFingerprint := "" }

/-- A registry with one relay of each type. -/
def threeNodes : NodeRegistry :=
  (((new false).registerNode (publicNode "a" .entry 1) 0).registerNode
    (publicNode "b" .middle 2) 1).registerNode (publicNode "c" .exit 3) 2

/-- A query for three hops returns the three relays, and they keep the promise. -/
theorem getRandomPath_diverse_threeNodes :
    threeNodes.DiversePath 3
      [publicNode "a" .entry 1, publicNode "b" .middle 2, publicNode "c" .exit 3] := by
  have hreach : (registrySystem false).Reachable threeNodes :=
    ((TransitionSystem.reachable_of_init rfl).next (Step.registerNode _ _ _)).next
      (Step.registerNode _ _ _) |>.next (Step.registerNode _ _ _)
  have hpath : threeNodes.getRandomPath 3 (⟨[5, 7, 11]⟩ : Draws) = .ok
      [publicNode "a" .entry 1, publicNode "b" .middle 2, publicNode "c" .exit 3] := by
    decide +kernel
  exact getRandomPath_diverse hreach hpath

end NodeRegistry

end NoPanic
