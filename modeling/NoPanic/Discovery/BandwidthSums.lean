/-
# The bandwidths that a path request adds up

Every draw of a path request adds up the bandwidths of its candidates in 64 bits: first of all
exits, then of all entries, then of the middles that are left, once for every middle. The
directory accepts a relay with any bandwidth but zero. So nothing keeps the sums in range: two
exits of 2^63 each add up to zero in a release build, and stop a debug build.

The sums fit exactly when those of all exits, of all entries, and of the middles beside any exit
and entry that may be on one path do.
-/

import NoPanic.Discovery.Availability

namespace NoPanic

open NoPanic.Math

universe u

namespace NodeRegistry

/-! ## The sums of a request -/

section

variable {R : Type u} [Rng R]

/-- The candidates whose bandwidths are added up while the middles are picked. -/
def summedMiddles (allowSameIp : Bool) : (remainingSlots : Nat) → List NodeDescriptor →
    Finset IpAddr → Finset String → R → List (List NodeDescriptor)
  | 0, _, _, _, _ => []
  | remaining + 1, availableMiddles, excludedIps, excludedOps, rng =>
      let available := availableMiddles.filter (mayPick allowSameIp excludedIps excludedOps)
      if available.length < remaining + 1 then []
      else
        available ::
          match selectWeightedIndex available rng with
          | .error _ => []
          | .ok (idx, rng) =>
              summedMiddles allowSameIp remaining (available.eraseIdx idx)
                (excludeIp allowSameIp excludedIps (available.get idx))
                (excludeOp excludedOps (available.get idx)) rng

/-- The candidates whose bandwidths are added up while a path is picked. -/
def summedPath (allowSameIp : Bool) (middleCount : Nat)
    (entryNodes middleNodes exitNodes : List NodeDescriptor) (rng : R) :
    List (List NodeDescriptor) :=
  exitNodes ::
    match selectWeightedNode exitNodes rng with
    | .error _ => []
    | .ok (exitNode, rng) =>
        let excludedIps := excludeIp allowSameIp ∅ exitNode
        let excludedOps := excludeOp ∅ exitNode
        entryNodes ::
          match selectWeightedNode entryNodes rng with
          | .error _ => []
          | .ok (entryNode, rng) =>
              if !allowSameIp && !entryNode.address.ip.isLoopback &&
                  decide (entryNode.address.ip ∈ excludedIps) then []
              else if entryNode.operatorId.any fun op => decide (op ∈ excludedOps) then []
              else
                summedMiddles allowSameIp middleCount middleNodes
                  (excludeIp allowSameIp excludedIps entryNode)
                  (excludeOp excludedOps entryNode) rng

/-- The candidates whose bandwidths `get_random_path` adds up, one list for each draw. -/
def summedBandwidths (r : NodeRegistry) (count : Nat) (rng : R) : List (List NodeDescriptor) :=
  let entryNodes := r.getNodesByType .entry
  let middleNodes := r.getNodesByType .middle
  let exitNodes := r.getNodesByType .exit
  let middleCount := count - 2
  if count < 3 || entryNodes.isEmpty || middleNodes.isEmpty ||
      decide (middleNodes.length < middleCount) || exitNodes.isEmpty then []
  else summedPath r.allowSameIp middleCount entryNodes middleNodes exitNodes rng

end

/-- Every sum that a path request takes fits in 64 bits, and none is zero, whatever the hop
count and the draws. -/
def SumsTakenFit (r : NodeRegistry) : Prop :=
  ∀ (R : Type) (_ : Rng R) (rng : R) (count : Nat), ∀ nodes ∈ r.summedBandwidths count rng,
    SumFits nodes ∧ (nodes ≠ [] → totalBandwidth nodes ≠ 0)

/-- The bandwidths of the exits, of the entries, and of the middles that fit any exit and entry
of one path, add up within 64 bits. -/
structure TotalsFit (r : NodeRegistry) : Prop where
  exits : SumFits (r.getNodesByType .exit)
  entries : SumFits (r.getNodesByType .entry)
  middles : ∀ exitNode ∈ r.getNodesByType .exit, ∀ entryNode ∈ r.getNodesByType .entry,
    Compatible r.allowSameIp exitNode entryNode →
      SumFits (PartialPath.candidates r.allowSameIp
        ⟨[entryNode, exitNode], r.getNodesByType .middle⟩)

/-- What the service registers has an id and a bandwidth. -/
def Admits (_ : NodeRegistry) : Event → Prop
  | .registerNode descriptor _ => descriptor.nodeId ≠ "" ∧ descriptor.bandwidth ≠ 0
  | _ => True

/-- The runs of a registry that is filled through the service. -/
def serviceSystem (allowSameIp : Bool) : TransitionSystem NodeRegistry Event :=
  (registrySystem allowSameIp).restrict Admits

section

variable {r : NodeRegistry} {allowSameIp : Bool}

/-- A registry after one more relay that the service admits. -/
theorem reachable_registerNode {descriptor : NodeDescriptor} (hid : descriptor.nodeId ≠ "")
    (hbandwidth : descriptor.bandwidth ≠ 0) (now : Nat)
    (hreach : (serviceSystem allowSameIp).Reachable r) :
    (serviceSystem allowSameIp).Reachable (r.registerNode descriptor now) :=
  hreach.next (e := .registerNode descriptor now) ⟨⟨hid, hbandwidth⟩, Step.registerNode _ _ _⟩

/-- Every node that a registry lists has a bandwidth. -/
theorem bandwidth_ne_zero_of_reachable (hreach : (serviceSystem allowSameIp).Reachable r)
    {t : NodeType} {n : NodeDescriptor} (hn : n ∈ r.getNodesByType t) : n.bandwidth ≠ 0 := by
  have hfiles : r.Files fun _ descriptor => descriptor.bandwidth ≠ 0 := by
    apply hreach.invariant (Files fun _ descriptor => descriptor.bandwidth ≠ 0)
    · rintro r rfl id entry hlookup
      simp [new] at hlookup
    · rintro r e r' h ⟨hadmits, hstep⟩
      apply Step.files h _ hstep
      rintro descriptor now rfl
      exact hadmits.2
  simp only [getNodesByType, List.mem_map, List.mem_filter] at hn
  obtain ⟨entry, ⟨hmem, -⟩, rfl⟩ := hn
  obtain ⟨id, hlookup⟩ := HashMap.mem_values.mp hmem
  exact hfiles id entry hlookup

/-- Nodes with a bandwidth do not add up to zero, as long as the sum fits. -/
theorem totalBandwidth_ne_zero {nodes : List NodeDescriptor} (hfits : SumFits nodes)
    (hne : nodes ≠ []) (hpos : ∀ n ∈ nodes, n.bandwidth ≠ 0) : totalBandwidth nodes ≠ 0 := by
  intro hzero
  obtain ⟨n, hn⟩ := List.exists_mem_of_ne_nil nodes hne
  exact hpos n hn (bandwidth_eq_zero_of_total hfits (by rw [hzero]; rfl) n hn)

/-! ## The middles -/

variable {R : Type u} [Rng R]

/-- The middles whose bandwidths are added up are among those that may be picked first. -/
theorem subperm_of_mem_summedMiddles {slots : Nat} {available nodes : List NodeDescriptor}
    {excludedIps : Finset IpAddr} {excludedOps : Finset String} {rng : R}
    (h : nodes ∈ summedMiddles allowSameIp slots available excludedIps excludedOps rng) :
    nodes.Subperm (available.filter (mayPick allowSameIp excludedIps excludedOps)) := by
  induction slots generalizing available excludedIps excludedOps rng with
  | zero => cases h
  | succ remaining ih =>
      rw [summedMiddles] at h
      split at h
      · cases h
      · rcases List.mem_cons.mp h with rfl | hrest
        · exact List.Subperm.refl _
        · split at hrest
          · cases hrest
          · next idx rng' hidx =>
            have hlater := (ih hrest).trans List.filter_sublist.subperm
            exact hlater.trans (List.eraseIdx_sublist _ _).subperm

/-- What is added up is listed by the registry. -/
theorem mem_summedPath_cases {middleCount : Nat}
    {entryNodes middleNodes exitNodes nodes : List NodeDescriptor} {rng : R}
    (h : nodes ∈ summedPath allowSameIp middleCount entryNodes middleNodes exitNodes rng) :
    nodes = exitNodes ∨ nodes = entryNodes ∨
      ∃ exitNode ∈ exitNodes, ∃ entryNode ∈ entryNodes,
        Compatible allowSameIp exitNode entryNode ∧
          nodes.Subperm (PartialPath.candidates allowSameIp
            ⟨[entryNode, exitNode], middleNodes⟩) := by
  rw [summedPath] at h
  rcases List.mem_cons.mp h with rfl | h
  · exact Or.inl rfl
  right
  split at h
  · cases h
  next exitNode rng₁ hexit =>
    rcases List.mem_cons.mp h with rfl | h
    · exact Or.inl rfl
    right
    split at h
    · cases h
    next entryNode rng₂ hentry =>
      split at h
      · cases h
      next hip =>
        split at h
        · cases h
        next hop =>
          have hexcludes := (excludes_nil allowSameIp).pick exitNode
          have hcompatible := hexcludes.entry_checks_iff.mp
            ⟨Bool.eq_false_iff.mpr hip, Bool.eq_false_iff.mpr hop⟩
          have hmiddles := subperm_of_mem_summedMiddles h
          rw [(hexcludes.pick entryNode).mayPick_eq] at hmiddles
          exact ⟨exitNode, selectWeightedNode_mem hexit, entryNode, selectWeightedNode_mem hentry,
            fits_singleton.mp hcompatible, hmiddles⟩

/-- The middles of a path are drawn from these candidates, one from each list. -/
theorem forall₂_summedMiddles {slots : Nat} {available middles : List NodeDescriptor}
    {excludedIps : Finset IpAddr} {excludedOps : Finset String} {rng : R}
    (h : pickMiddles allowSameIp slots available excludedIps excludedOps rng = .ok middles) :
    List.Forall₂ (· ∈ ·) middles
      (summedMiddles allowSameIp slots available excludedIps excludedOps rng) := by
  induction slots generalizing available excludedIps excludedOps rng middles with
  | zero =>
      cases h
      exact .nil
  | succ remaining ih =>
      obtain ⟨hlen, idx, rng', rest, hidx, hrest, rfl⟩ := pickMiddles_succ_eq_ok.mp h
      rw [summedMiddles, if_neg (by omega), hidx]
      exact .cons (List.get_mem _ _) (ih hrest)

/-- So are the nodes of a path: first the exit, then the entry, then the middles. -/
theorem forall₂_summedBandwidths {count : Nat} {rng : R} {path : List NodeDescriptor}
    (h : r.getRandomPath count rng = .ok path) :
    ∃ entryNode middles exitNode, path = entryNode :: middles ++ [exitNode] ∧
      List.Forall₂ (· ∈ ·) (exitNode :: entryNode :: middles) (r.summedBandwidths count rng) := by
  obtain ⟨hcount, hpath⟩ := getRandomPath_cases h
  obtain ⟨exitNode, rng₁, entryNode, rng₂, middles, hexit, hentry, hchecks, hpicked, rfl⟩ :=
    pickPath_eq_ok.mp hpath
  obtain ⟨hlen, hsub⟩ := pickMiddles_subperm hpicked
  refine ⟨entryNode, middles, exitNode, rfl, ?_⟩
  have hne : r.getNodesByType .exit ≠ [] := List.ne_nil_of_mem (selectWeightedNode_mem hexit)
  have hne' : r.getNodesByType .entry ≠ [] := List.ne_nil_of_mem (selectWeightedNode_mem hentry)
  have hle := hsub.length_le
  have hne'' : r.getNodesByType .middle ≠ [] := by
    apply List.ne_nil_of_length_pos
    omega
  rw [summedBandwidths, if_neg, summedPath, hexit]
  · refine .cons (selectWeightedNode_mem hexit) ?_
    dsimp only
    rw [hentry]
    refine .cons (selectWeightedNode_mem hentry) ?_
    dsimp only
    rw [if_neg (by simp [hchecks.1]), if_neg (by simp [hchecks.2])]
    exact forall₂_summedMiddles hpicked
  · simp [hne, hne', hne'']
    omega

/-! ## Where every sum fits -/

/-- Where the totals fit, so does every sum of a path request. -/
theorem TotalsFit.summedPath (h : r.TotalsFit) {middleCount : Nat} {rng : R}
    {nodes : List NodeDescriptor}
    (hmem : nodes ∈ summedPath r.allowSameIp middleCount (r.getNodesByType .entry)
      (r.getNodesByType .middle) (r.getNodesByType .exit) rng) :
    SumFits nodes ∧ ∀ n ∈ nodes, ∃ t, n ∈ r.getNodesByType t := by
  rcases mem_summedPath_cases hmem with rfl | rfl | ⟨exitNode, hexit, entryNode, hentry,
    hcompatible, hsub⟩
  · exact ⟨h.exits, fun n hn => ⟨.exit, hn⟩⟩
  · exact ⟨h.entries, fun n hn => ⟨.entry, hn⟩⟩
  · refine ⟨(h.middles exitNode hexit entryNode hentry hcompatible).subperm hsub, ?_⟩
    intro n hn
    exact ⟨.middle, List.mem_of_mem_filter (hsub.subset hn)⟩

/-- Where every sum of a request for three hops fits, so do the totals. -/
theorem totalsFit_of_summedPath (hpos : ∀ t, ∀ n ∈ r.getNodesByType t, n.bandwidth ≠ 0)
    (hne : ∀ t, r.getNodesByType t ≠ [])
    (h : ∀ values, ∀ nodes ∈ NodeRegistry.summedPath r.allowSameIp 1 (r.getNodesByType .entry)
      (r.getNodesByType .middle) (r.getNodesByType .exit) (⟨values⟩ : Draws), SumFits nodes) :
    r.TotalsFit := by
  have hexits : SumFits (r.getNodesByType .exit) := h [] _ (List.mem_cons_self ..)
  have hdrawable : ∀ t, ∀ n ∈ r.getNodesByType t, Drawable (r.getNodesByType t) n := by
    intro t n hn
    exact ⟨hn, Or.inl (UInt64.pos_iff_ne_zero.mpr (hpos t n hn))⟩
  have hentries : SumFits (r.getNodesByType .entry) := by
    obtain ⟨exitNode, rng', hexit, -⟩ := selectWeightedNode_ok hexits (hne .exit) (⟨[]⟩ : Draws)
    apply h []
    rw [NodeRegistry.summedPath, hexit]
    exact List.mem_cons_of_mem _ (List.mem_cons_self ..)
  refine ⟨hexits, hentries, ?_⟩
  intro exitNode hexit entryNode hentry hcompatible
  obtain ⟨first, hfirst⟩ := exists_draw_node hexits (hdrawable .exit exitNode hexit)
  obtain ⟨second, hsecond⟩ := exists_draw_node hentries (hdrawable .entry entryNode hentry)
  by_cases hnone : PartialPath.candidates r.allowSameIp
      ⟨[entryNode, exitNode], r.getNodesByType .middle⟩ = []
  · rw [hnone]
    decide
  · have hexcludes := (excludes_nil r.allowSameIp).pick exitNode
    have hchecks := hexcludes.entry_checks_iff.mpr (fits_singleton.mpr hcompatible)
    have hcandidates : (r.getNodesByType .middle).filter
        (mayPick r.allowSameIp (excludeIp r.allowSameIp (excludeIp r.allowSameIp ∅ exitNode)
          entryNode) (excludeOp (excludeOp ∅ exitNode) entryNode)) =
        PartialPath.candidates r.allowSameIp
          ⟨[entryNode, exitNode], r.getNodesByType .middle⟩ := by
      rw [(hexcludes.pick entryNode).mayPick_eq]
      rfl
    have hlen := List.length_pos_iff.mpr hnone
    apply h [first, second]
    rw [NodeRegistry.summedPath, hfirst]
    dsimp only
    rw [hsecond]
    dsimp only
    rw [if_neg (by simp [hchecks.1]), if_neg (by simp [hchecks.2]), summedMiddles, hcandidates,
      if_neg (by omega)]
    simp only [List.mem_cons, true_or, or_true]

/-- In a registry that is filled through the service every sum of every path request fits, and
none is zero, exactly when a node type is missing or the totals fit. -/
theorem sumsTakenFit_iff_totalsFit (hreach : (serviceSystem allowSameIp).Reachable r) :
    r.SumsTakenFit ↔ ((∀ t, r.getNodesByType t ≠ []) → r.TotalsFit) := by
  have hpos : ∀ t, ∀ n ∈ r.getNodesByType t, n.bandwidth ≠ 0 :=
    fun t n hn => bandwidth_ne_zero_of_reachable hreach hn
  constructor
  · intro h hne
    apply totalsFit_of_summedPath hpos hne
    intro values nodes hmem
    have hlen := List.length_pos_iff.mpr (hne .middle)
    have hthree : r.summedBandwidths 3 (⟨values⟩ : Draws) =
        NodeRegistry.summedPath r.allowSameIp 1 (r.getNodesByType .entry)
          (r.getNodesByType .middle) (r.getNodesByType .exit) (⟨values⟩ : Draws) := by
      rw [summedBandwidths]
      apply if_neg
      simp [hne]
    rw [← hthree] at hmem
    exact (h Draws inferInstance ⟨values⟩ 3 nodes hmem).1
  · intro h R _ rng count nodes hmem
    rw [summedBandwidths] at hmem
    split at hmem
    · cases hmem
    next hall =>
      simp only [Bool.or_eq_true, decide_eq_true_eq, not_or, List.isEmpty_iff] at hall
      obtain ⟨⟨⟨⟨-, hentry⟩, hmiddle⟩, -⟩, hexit⟩ := hall
      have hne : ∀ t, r.getNodesByType t ≠ [] := by
        intro t
        cases t with
        | entry => exact hentry
        | middle => exact hmiddle
        | exit => exact hexit
      obtain ⟨hfits, hlisted⟩ := (h hne).summedPath hmem
      refine ⟨hfits, fun hnodes => totalBandwidth_ne_zero hfits hnodes ?_⟩
      intro n hn
      obtain ⟨t, ht⟩ := hlisted n hn
      exact hpos t n ht

end

/-- The service has admitted an entry and a middle. -/
theorem reachable_twoNodes : (serviceSystem false).Reachable
    (((new false).registerNode (publicNode "a" .entry 1) 0).registerNode
      (publicNode "b" .middle 2) 1) := by
  have hnew : (serviceSystem false).Reachable (new false) := TransitionSystem.reachable_of_init rfl
  have hentry : (serviceSystem false).Reachable
      ((new false).registerNode (publicNode "a" .entry 1) 0) :=
    reachable_registerNode (by decide) (by decide) 0 hnew
  exact reachable_registerNode (by decide) (by decide) 1 hentry

/-- Every sum of a request fits with one relay of each type, of a megabyte each. -/
theorem sumsTakenFit_iff_totalsFit_threeNodes : threeNodes.SumsTakenFit := by
  have hreach : (serviceSystem false).Reachable threeNodes :=
    reachable_registerNode (by decide) (by decide) 2 reachable_twoNodes
  rw [sumsTakenFit_iff_totalsFit hreach]
  intro hne
  have hmiddle : SumFits (threeNodes.getNodesByType .middle) := bandwidthsFit_threeNodes .middle
  refine ⟨bandwidthsFit_threeNodes .exit, bandwidthsFit_threeNodes .entry, ?_⟩
  intro exitNode _ entryNode _ _
  exact hmiddle.subperm List.filter_sublist.subperm

/-- An exit with half of the bandwidth that 64 bits can count. -/
def wideExit (nodeId : String) (lastOctet : UInt8) : NodeDescriptor :=
  { publicNode nodeId .exit lastOctet with bandwidth := 2 ^ 63 }

/-- One entry, one middle and two exits of that bandwidth. -/
def twoWideExits : NodeRegistry :=
  ((((new false).registerNode (publicNode "a" .entry 1) 0).registerNode
    (publicNode "b" .middle 2) 1).registerNode (wideExit "c" 3) 2).registerNode (wideExit "d" 4) 3

/-- The bandwidths of the two exits add up to 2^64. -/
theorem not_sumsTakenFit_twoWideExits :
    ¬ ∀ (allowSameIp : Bool) (r : NodeRegistry), (serviceSystem allowSameIp).Reachable r →
      r.SumsTakenFit := by
  intro hclaim
  have hwide : (serviceSystem false).Reachable (NodeRegistry.registerNode _ (wideExit "c" 3) 2) :=
    reachable_registerNode (by decide) (by decide +kernel) 2 reachable_twoNodes
  have hreach : (serviceSystem false).Reachable twoWideExits :=
    reachable_registerNode (by decide) (by decide +kernel) 3 hwide
  have hsums := hclaim false twoWideExits hreach Draws inferInstance ⟨[]⟩ 3
    (twoWideExits.getNodesByType .exit) (by decide +kernel)
  exact absurd hsums.1 (by decide +kernel)

end NodeRegistry

end NoPanic
