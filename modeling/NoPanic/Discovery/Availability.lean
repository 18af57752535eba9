/-
# When a path is found

A path is picked greedily: exit, entry, middles, each by a draw, and no pick is taken back.
So a query may fail although other draws would have found a path. Two things can go wrong:
the exit and the entry that are drawn exclude each other, or the middles that are drawn
leave no further one that fits. The paths under construction that draws can lead to are the
states of `pathSystem`, and a query succeeds for all draws exactly when neither can happen
there.

A draw returns a node that has bandwidth, or any node where none has.
-/

import Mathlib.Algebra.Order.BigOperators.Group.List
import Mathlib.Algebra.Order.Group.Nat
import NoPanic.Discovery.PathSelection
import NoPanic.Math.Tickets

namespace NoPanic

open NoPanic.Math

namespace NodeRegistry

/-! ## Draws -/

/-- A node holds as many tickets as it has bandwidth. -/
def tickets (n : NodeDescriptor) : Nat := n.bandwidth.toNat

/-- The bandwidths of the nodes add up within 64 bits. -/
def SumFits (nodes : List NodeDescriptor) : Prop := (nodes.map tickets).sum < 2 ^ 64

instance : DecidablePred SumFits := fun nodes =>
  inferInstanceAs (Decidable ((nodes.map tickets).sum < 2 ^ 64))

/-- A draw from the nodes can return this one. -/
def Drawable (nodes : List NodeDescriptor) (n : NodeDescriptor) : Prop :=
  n ∈ nodes ∧ (0 < n.bandwidth ∨ ∀ m ∈ nodes, m.bandwidth = 0)

theorem SumFits.subperm {nodes nodes' : List NodeDescriptor} (h : SumFits nodes)
    (hsub : nodes'.Subperm nodes) : SumFits nodes' := by
  obtain ⟨listed, hperm, hlisted⟩ := hsub
  have hsame : (nodes'.map tickets).sum = (listed.map tickets).sum := (hperm.map _).sum_nat.symm
  have hle := (hlisted.map tickets).sum_le_sum fun _ _ => Nat.zero_le _
  exact lt_of_le_of_lt (hsame.trans_le hle) h

theorem toNat_totalBandwidth {nodes : List NodeDescriptor} (h : SumFits nodes) :
    (totalBandwidth nodes).toNat = (nodes.map tickets).sum := by
  induction nodes with
  | nil => rfl
  | cons n nodes ih =>
      have hfits : tickets n + (nodes.map tickets).sum < 2 ^ 64 := h
      have hrest := ih (show SumFits nodes by unfold SumFits; omega)
      have htotal : totalBandwidth (n :: nodes) = n.bandwidth + totalBandwidth nodes :=
        List.sum_cons
      rw [htotal, UInt64.toNat_add, hrest, List.map_cons, List.sum_cons]
      exact Nat.mod_eq_of_lt hfits

/-- The bandwidths of a node are its tickets. -/
theorem weightedIndex_eq (nodes : List NodeDescriptor) (randomWeight : UInt64) :
    weightedIndex nodes randomWeight =
      selectTicket tickets nodes randomWeight.toNat := by
  induction nodes generalizing randomWeight with
  | nil => rfl
  | cons n nodes ih =>
      rw [weightedIndex, selectTicket]
      have hticket : randomWeight < n.bandwidth ↔ randomWeight.toNat < tickets n :=
        UInt64.lt_iff_toNat_lt
      by_cases h : randomWeight < n.bandwidth
      · rw [if_pos h, if_pos (hticket.mp h)]
      · have hle : n.bandwidth ≤ randomWeight :=
          UInt64.le_iff_toNat_le.mpr (Nat.le_of_not_lt fun hlt => h (hticket.mpr hlt))
        rw [if_neg h, if_neg fun hlt => h (hticket.mpr hlt), ih,
          UInt64.toNat_sub_of_le _ _ hle]
        rfl

/-- Nothing weighs anything where the total is zero. -/
theorem bandwidth_eq_zero_of_total {nodes : List NodeDescriptor} (h : SumFits nodes)
    (htotal : (totalBandwidth nodes).toNat = 0) : ∀ n ∈ nodes, n.bandwidth = 0 := by
  intro n hn
  rw [toNat_totalBandwidth h, List.sum_eq_zero_iff_forall_eq_nat] at htotal
  have hzero := htotal _ (List.mem_map_of_mem hn)
  exact UInt64.toNat_inj.mp hzero

section

variable {R : Type*} [Rng R] {nodes : List NodeDescriptor}

/-- A draw from a list of nodes returns one of them. -/
theorem selectWeightedIndex_ok (hnodes : nodes ≠ []) (rng : R) :
    ∃ idx rng', selectWeightedIndex nodes rng = .ok (idx, rng') := by
  have hlen : nodes.length ≠ 0 := fun h => hnodes (List.length_eq_zero_iff.mp h)
  simp only [selectWeightedIndex, dif_neg hlen]
  split
  · exact ⟨_, _, rfl⟩
  · split
    · exact ⟨_, _, rfl⟩
    · exact ⟨_, _, rfl⟩

/-- What a draw returns can be drawn. -/
theorem drawable_of_selectWeightedIndex (hfits : SumFits nodes) {rng rng' : R}
    {idx : Fin nodes.length} (h : selectWeightedIndex nodes rng = .ok (idx, rng')) :
    Drawable nodes (nodes.get idx) := by
  refine ⟨List.get_mem _ _, ?_⟩
  simp only [selectWeightedIndex] at h
  split at h
  · cases h
  split at h
  · next htotal => exact Or.inr (bandwidth_eq_zero_of_total hfits htotal)
  next hlen htotal =>
    -- the weight that is drawn lies below the total, so some node covers it
    have hlt := (Rng.randomRange rng (totalBandwidth nodes).toNat (Nat.pos_of_ne_zero htotal)).1.2
    have hweight := UInt64.toNat_ofNat_of_lt' (lt_trans hlt (UInt64.toNat_lt _))
    split at h
    · next found hfound =>
        cases h
        rw [weightedIndex_eq] at hfound
        exact Or.inl (UInt64.lt_iff_toNat_lt.mpr (pos_of_selectTicket _ hfound))
    · next hnone =>
        rw [weightedIndex_eq, hweight] at hnone
        have hsome := selectTicket_isSome _ (hlt.trans_eq (toNat_totalBandwidth hfits))
        rw [hnone] at hsome
        cases hsome

theorem drawable_of_selectWeightedNode (hfits : SumFits nodes) {rng rng' : R}
    {n : NodeDescriptor} (h : selectWeightedNode nodes rng = .ok (n, rng')) :
    Drawable nodes n := by
  rw [selectWeightedNode] at h
  split at h
  · cases h
  · next hidx =>
      cases h
      exact drawable_of_selectWeightedIndex hfits hidx

/-- A draw returns a node that can be drawn. -/
theorem selectWeightedNode_ok (hfits : SumFits nodes) (hnodes : nodes ≠ []) (rng : R) :
    ∃ n rng', selectWeightedNode nodes rng = .ok (n, rng') ∧ Drawable nodes n := by
  obtain ⟨idx, rng', hidx⟩ := selectWeightedIndex_ok hnodes rng
  have hnode : selectWeightedNode nodes rng = .ok (nodes.get idx, rng') := by
    rw [selectWeightedNode, hidx]
  exact ⟨nodes.get idx, rng', hnode, drawable_of_selectWeightedNode hfits hnode⟩

end

/-- Some draw returns the node at a position, if it can be drawn at all. -/
theorem exists_draw {nodes : List NodeDescriptor} (hfits : SumFits nodes)
    {idx : Fin nodes.length} (h : Drawable nodes (nodes.get idx)) :
    ∃ value, ∀ values, selectWeightedIndex nodes (⟨value :: values⟩ : Draws) =
      .ok (idx, ⟨values⟩) := by
  have hlen : nodes.length ≠ 0 := (Nat.zero_lt_of_lt idx.isLt).ne'
  by_cases htotal : (totalBandwidth nodes).toNat = 0
  · refine ⟨idx, fun values => ?_⟩
    rw [selectWeightedIndex, dif_neg hlen]
    simp only [dif_pos htotal, Rng.randomRange, List.headD_cons, List.tail_cons,
      Nat.mod_eq_of_lt idx.isLt]
  · have hpos : 0 < tickets (nodes.get idx) := by
      rcases h.2 with hpos | hzero
      · exact UInt64.lt_iff_toNat_lt.mp hpos
      · have hsum : (nodes.map tickets).sum = 0 := by
          rw [List.sum_eq_zero_iff_forall_eq_nat]
          intro weight hweight
          obtain ⟨n, hn, rfl⟩ := List.mem_map.mp hweight
          rw [tickets, hzero n hn]
          rfl
        exact absurd ((toNat_totalBandwidth hfits).trans hsum) htotal
    obtain ⟨ticket, hlt, hticket⟩ := exists_ticket tickets hpos
    rw [← toNat_totalBandwidth hfits] at hlt
    have hnat := UInt64.toNat_ofNat_of_lt' (lt_trans hlt (UInt64.toNat_lt _))
    refine ⟨ticket, fun values => ?_⟩
    have hfound : weightedIndex nodes (UInt64.ofNat ticket) = some idx := by
      rw [weightedIndex_eq, hnat, hticket]
    rw [selectWeightedIndex, dif_neg hlen]
    simp only [dif_neg htotal, Rng.randomRange, List.headD_cons, List.tail_cons,
      Nat.mod_eq_of_lt hlt, hfound]

/-- Some draw returns a node that can be drawn. -/
theorem exists_draw_node {nodes : List NodeDescriptor} (hfits : SumFits nodes)
    {n : NodeDescriptor} (h : Drawable nodes n) :
    ∃ value, ∀ values, selectWeightedNode nodes (⟨value :: values⟩ : Draws) =
      .ok (n, ⟨values⟩) := by
  obtain ⟨idx, rfl⟩ := List.get_of_mem h.1
  obtain ⟨value, hvalue⟩ := exists_draw hfits h
  refine ⟨value, fun values => ?_⟩
  rw [selectWeightedNode, hvalue values]

/-! ## Exclusion -/

/-- Two nodes may be on one path: they share no operator, and no address outside loopback
unless that is allowed. -/
def Compatible (allowSameIp : Bool) (a b : NodeDescriptor) : Prop :=
  (a.operatorId.isSome = true → a.operatorId ≠ b.operatorId) ∧
    (allowSameIp = false → a.address.ip.isLoopback = false → a.address.ip ≠ b.address.ip)

instance (allowSameIp : Bool) (a b : NodeDescriptor) : Decidable (Compatible allowSameIp a b) :=
  inferInstanceAs (Decidable (_ ∧ _))

/-- A node fits the picks so far. -/
def Fits (allowSameIp : Bool) (picks : List NodeDescriptor) (n : NodeDescriptor) : Prop :=
  ∀ b ∈ picks, Compatible allowSameIp b n

instance (allowSameIp : Bool) (picks : List NodeDescriptor) :
    DecidablePred (Fits allowSameIp picks) := fun n =>
  inferInstanceAs (Decidable (∀ b ∈ picks, Compatible allowSameIp b n))

theorem fits_singleton {allowSameIp : Bool} {a b : NodeDescriptor} :
    Fits allowSameIp [a] b ↔ Compatible allowSameIp a b := by
  simp [Fits]

/-- Being compatible is sharing neither label. -/
theorem compatible_iff {allowSameIp : Bool} {a b : NodeDescriptor} :
    Compatible allowSameIp a b ↔
      (∀ ip, ipLabel allowSameIp a = some ip → ipLabel allowSameIp b ≠ some ip) ∧
        ∀ op, a.operatorId = some op → b.operatorId ≠ some op := by
  rw [Compatible, and_comm]
  refine and_congr ?_ ?_
  · simp only [ipLabel, ne_eq, Bool.and_eq_true, Bool.not_eq_true',
      Option.ite_none_right_eq_some]
    constructor
    · rintro h ip ⟨⟨hallow, hloop⟩, hip⟩ ⟨-, hip'⟩
      exact h hallow hloop ((Option.some.inj hip).trans (Option.some.inj hip').symm)
    · intro h hallow hloop heq
      exact h _ ⟨⟨hallow, hloop⟩, rfl⟩ ⟨⟨hallow, heq ▸ hloop⟩, congrArg some heq.symm⟩
  · cases ha : a.operatorId with
    | none => simp
    | some op => simp [eq_comm]

/-- The exclusion sets hold the addresses and the operators of the picks. -/
structure Excludes (allowSameIp : Bool) (excludedIps : Finset IpAddr)
    (excludedOps : Finset String) (picks : List NodeDescriptor) : Prop where
  ips : Records (ipLabel allowSameIp) excludedIps picks
  ops : Records NodeDescriptor.operatorId excludedOps picks

theorem excludes_nil (allowSameIp : Bool) : Excludes allowSameIp ∅ ∅ [] :=
  ⟨records_nil _, records_nil _⟩

section

variable {allowSameIp : Bool} {excludedIps : Finset IpAddr} {excludedOps : Finset String}
  {picks : List NodeDescriptor}

/-- The sets keep up with the picks. -/
theorem Excludes.pick (h : Excludes allowSameIp excludedIps excludedOps picks)
    (n : NodeDescriptor) :
    Excludes allowSameIp (excludeIp allowSameIp excludedIps n) (excludeOp excludedOps n)
      (n :: picks) := by
  rw [excludeIp_eq, excludeOp_eq]
  exact ⟨h.ips.pick _ n, h.ops.pick _ n⟩

/-- A node is free under both labels exactly when it fits. -/
theorem Excludes.fits_iff (h : Excludes allowSameIp excludedIps excludedOps picks)
    {n : NodeDescriptor} :
    Fits allowSameIp picks n ↔
      Free (ipLabel allowSameIp) excludedIps n ∧
        Free NodeDescriptor.operatorId excludedOps n := by
  rw [h.ips.free_iff, h.ops.free_iff]
  constructor
  · intro hfits
    exact ⟨fun b hb => (compatible_iff.mp (hfits b hb)).1,
      fun b hb => (compatible_iff.mp (hfits b hb)).2⟩
  · rintro ⟨hip, hop⟩ b hb
    exact compatible_iff.mpr ⟨hip b hb, hop b hb⟩

/-- A middle may be picked exactly when it fits. -/
theorem Excludes.mayPick_eq (h : Excludes allowSameIp excludedIps excludedOps picks) :
    mayPick allowSameIp excludedIps excludedOps = fun n => decide (Fits allowSameIp picks n) := by
  funext n
  rw [Bool.eq_iff_iff, decide_eq_true_iff, h.fits_iff]
  constructor
  · exact free_of_mayPick
  · rintro ⟨hip, hop⟩
    simp only [mayPick, Bool.and_eq_true, Bool.or_eq_true, Option.all_eq_true,
      Bool.not_eq_true', decide_eq_false_iff_not]
    refine ⟨?_, hop⟩
    cases hallow : allowSameIp with
    | true => exact Or.inl (Or.inl rfl)
    | false =>
        cases hloop : n.address.ip.isLoopback with
        | true => exact Or.inl (Or.inr rfl)
        | false => exact Or.inr (hip _ (by simp [ipLabel, hallow, hloop]))

/-- The two checks that are made of an entry say that it fits as well. -/
theorem Excludes.entry_checks_iff (h : Excludes allowSameIp excludedIps excludedOps picks)
    {n : NodeDescriptor} :
    ((!allowSameIp && !n.address.ip.isLoopback && decide (n.address.ip ∈ excludedIps)) = false ∧
        (n.operatorId.any fun op => decide (op ∈ excludedOps)) = false) ↔
      Fits allowSameIp picks n := by
  have hmay := congrFun h.mayPick_eq n
  rw [← decide_eq_true_iff (p := Fits allowSameIp picks n), ← hmay, mayPick]
  cases n.operatorId with
  | none => cases allowSameIp <;> cases n.address.ip.isLoopback <;> simp
  | some op => cases allowSameIp <;> cases n.address.ip.isLoopback <;> simp

end

/-! ## The picks one by one -/

/-- A path under construction: the nodes that are picked, and the middles that are left. -/
structure PartialPath where
  picks : List NodeDescriptor
  middles : List NodeDescriptor

/-- The middles that fit. -/
def PartialPath.candidates (allowSameIp : Bool) (p : PartialPath) : List NodeDescriptor :=
  p.middles.filter fun n => decide (Fits allowSameIp p.picks n)

section

variable {R : Type*} [Rng R] {allowSameIp : Bool} {excludedIps : Finset IpAddr}
  {excludedOps : Finset String}

/-- A further middle is picked where enough of them fit, a draw returns one, and the picks go
on from there. -/
theorem Excludes.pickMiddles_ok_iff {p : PartialPath} {remaining : Nat} {rng : R}
    (h : Excludes allowSameIp excludedIps excludedOps p.picks) :
    (∃ picked, pickMiddles allowSameIp (remaining + 1) p.middles excludedIps excludedOps rng =
        .ok picked) ↔
      remaining + 1 ≤ (p.candidates allowSameIp).length ∧
        ∃ idx rng', selectWeightedIndex (p.candidates allowSameIp) rng = .ok (idx, rng') ∧
          ∃ picked, pickMiddles allowSameIp remaining ((p.candidates allowSameIp).eraseIdx idx)
            (excludeIp allowSameIp excludedIps ((p.candidates allowSameIp).get idx))
            (excludeOp excludedOps ((p.candidates allowSameIp).get idx)) rng' = .ok picked := by
  have havailable : p.candidates allowSameIp =
      p.middles.filter (mayPick allowSameIp excludedIps excludedOps) := by
    rw [h.mayPick_eq]
    rfl
  rw [havailable]
  constructor
  · rintro ⟨picked, hpicked⟩
    obtain ⟨hlen, idx, rng', rest, hidx, hrest, -⟩ := pickMiddles_succ_eq_ok.mp hpicked
    exact ⟨hlen, idx, rng', hidx, rest, hrest⟩
  · rintro ⟨hlen, idx, rng', hidx, rest, hrest⟩
    exact ⟨_, pickMiddles_succ_eq_ok.mpr ⟨hlen, idx, rng', rest, hidx, hrest, rfl⟩⟩

/-- A path is picked where the drawn exit and entry are compatible and the middles are picked
after them. -/
theorem pickPath_ok_iff {middleCount : Nat} {entryNodes middleNodes exitNodes : List NodeDescriptor}
    {rng : R} :
    (∃ path, pickPath allowSameIp middleCount entryNodes middleNodes exitNodes rng = .ok path) ↔
      ∃ exitNode rng₁ entryNode rng₂, selectWeightedNode exitNodes rng = .ok (exitNode, rng₁) ∧
        selectWeightedNode entryNodes rng₁ = .ok (entryNode, rng₂) ∧
          Compatible allowSameIp exitNode entryNode ∧
            ∃ picked, pickMiddles allowSameIp middleCount middleNodes
              (excludeIp allowSameIp (excludeIp allowSameIp ∅ exitNode) entryNode)
              (excludeOp (excludeOp ∅ exitNode) entryNode) rng₂ = .ok picked := by
  -- the two checks on the entry say that it fits the exit
  have hcheck := fun exitNode entryNode : NodeDescriptor =>
    ((excludes_nil allowSameIp).pick exitNode).entry_checks_iff (n := entryNode)
  simp only [fits_singleton] at hcheck
  constructor
  · rintro ⟨path, h⟩
    obtain ⟨exitNode, rng₁, entryNode, rng₂, picked, hexit, hentry, hchecks, hpicked, -⟩ :=
      pickPath_eq_ok.mp h
    exact ⟨exitNode, rng₁, entryNode, rng₂, hexit, hentry,
      (hcheck exitNode entryNode).mp hchecks, picked, hpicked⟩
  · rintro ⟨exitNode, rng₁, entryNode, rng₂, hexit, hentry, hcompatible, picked, hpicked⟩
    have hchecks := (hcheck exitNode entryNode).mpr hcompatible
    exact ⟨_, pickPath_eq_ok.mpr ⟨exitNode, rng₁, entryNode, rng₂, picked, hexit, hentry, hchecks,
      hpicked, rfl⟩⟩

end

/-! ## Paths under construction -/

/-- The paths under construction that draws can lead to: an exit and an entry are drawn, and
then middles that fit, one by one. -/
def pathSystem (r : NodeRegistry) : TransitionSystem PartialPath NodeDescriptor where
  init p := ∃ exitNode entryNode, Drawable (r.getNodesByType .exit) exitNode ∧
    Drawable (r.getNodesByType .entry) entryNode ∧ p.picks = [entryNode, exitNode] ∧
      p.middles.Perm (r.getNodesByType .middle)
  step p n p' := Drawable (p.candidates r.allowSameIp) n ∧
    (p.candidates r.allowSameIp).Perm (n :: p'.middles) ∧ p'.picks = n :: p.picks

/-- No draws run into a conflict: every exit and entry that can be drawn are compatible, and
every path that draws can begin leaves a middle that fits, until it has all its nodes. -/
structure NeverStuck (r : NodeRegistry) (count : Nat) : Prop where
  compatible : ∀ exitNode entryNode, Drawable (r.getNodesByType .exit) exitNode →
    Drawable (r.getNodesByType .entry) entryNode →
      Compatible r.allowSameIp exitNode entryNode
  candidates_ne_nil : ∀ p, r.pathSystem.Reachable p → p.picks.length < count →
    p.candidates r.allowSameIp ≠ []

/-- The bandwidths of the nodes of each type add up within 64 bits. -/
def BandwidthsFit (r : NodeRegistry) : Prop := ∀ t, SumFits (r.getNodesByType t)

section

variable {r : NodeRegistry} {p : PartialPath}

/-- The middles that are left are registered ones. -/
theorem subperm_of_reachable (hreach : r.pathSystem.Reachable p) :
    p.middles.Subperm (r.getNodesByType .middle) := by
  refine TransitionSystem.Reachable.invariant
    (fun p => p.middles.Subperm (r.getNodesByType .middle)) ?_ ?_ hreach
  · rintro p ⟨exitNode, entryNode, -, -, -, hmiddles⟩
    exact hmiddles.subperm
  · rintro p n p' hsub ⟨-, hperm, -⟩
    have hleft : p'.middles.Subperm (p.candidates r.allowSameIp) :=
      (List.subperm_cons_self).trans hperm.symm.subperm
    exact (hleft.trans List.filter_sublist.subperm).trans hsub

theorem sumFits_candidates (hfits : r.BandwidthsFit) (hreach : r.pathSystem.Reachable p) :
    SumFits (p.candidates r.allowSameIp) :=
  (hfits .middle).subperm (List.filter_sublist.subperm.trans (subperm_of_reachable hreach))

/-- A draw from the middles that fit leads on. -/
theorem reachable_of_draw {R : Type*} [Rng R] {rng rng' : R} (hfits : r.BandwidthsFit)
    (hreach : r.pathSystem.Reachable p) {idx : Fin (p.candidates r.allowSameIp).length}
    (hidx : selectWeightedIndex (p.candidates r.allowSameIp) rng = .ok (idx, rng')) :
    r.pathSystem.Reachable ⟨(p.candidates r.allowSameIp).get idx :: p.picks,
      (p.candidates r.allowSameIp).eraseIdx idx⟩ :=
  hreach.next ⟨drawable_of_selectWeightedIndex (sumFits_candidates hfits hreach) hidx,
    (List.getElem_cons_eraseIdx_perm idx.isLt).symm, rfl⟩

/-- Where no draws get stuck, at least as many middles fit as are still to be picked. -/
theorem NeverStuck.slots_le {count : Nat} (h : r.NeverStuck count) (hfits : r.BandwidthsFit)
    {slots : Nat} (hreach : r.pathSystem.Reachable p) (hslots : p.picks.length + slots = count) :
    slots ≤ (p.candidates r.allowSameIp).length := by
  induction slots generalizing p with
  | zero => exact Nat.zero_le _
  | succ slots ih =>
      have hne := h.candidates_ne_nil p hreach (by omega)
      obtain ⟨idx, rng', hidx⟩ := selectWeightedIndex_ok hne (⟨[]⟩ : Draws)
      have hnext := ih (reachable_of_draw hfits hreach hidx)
        (by simp only [List.length_cons]; omega)
      have hle := hnext.trans (List.length_filter_le _ _)
      rw [List.length_eraseIdx_of_lt idx.isLt] at hle
      have hpos := List.length_pos_iff.mpr hne
      omega

/-- Where no draws get stuck, the middles are picked whatever is drawn. -/
theorem NeverStuck.pickMiddles_ok {R : Type*} [Rng R] {count : Nat} (h : r.NeverStuck count)
    (hfits : r.BandwidthsFit) {slots : Nat} (hreach : r.pathSystem.Reachable p)
    (hslots : p.picks.length + slots = count) {excludedIps : Finset IpAddr}
    {excludedOps : Finset String}
    (hexcludes : Excludes r.allowSameIp excludedIps excludedOps p.picks) (rng : R) :
    ∃ picked, pickMiddles r.allowSameIp slots p.middles excludedIps excludedOps rng =
      .ok picked := by
  induction slots generalizing p excludedIps excludedOps rng with
  | zero => exact ⟨[], rfl⟩
  | succ slots ih =>
      rw [hexcludes.pickMiddles_ok_iff]
      have hle := h.slots_le hfits hreach hslots
      have hne := h.candidates_ne_nil p hreach (by omega)
      obtain ⟨idx, rng', hidx⟩ := selectWeightedIndex_ok hne rng
      refine ⟨hle, idx, rng', hidx, ?_⟩
      exact ih (reachable_of_draw hfits hreach hidx) (by simp only [List.length_cons]; omega)
        (hexcludes.pick _) rng'

/-- The same picks with the middles in another order. -/
theorem candidates_perm {allowSameIp : Bool} {left : List NodeDescriptor}
    (hleft : left.Perm p.middles) :
    (PartialPath.candidates allowSameIp ⟨p.picks, left⟩).Perm (p.candidates allowSameIp) :=
  hleft.filter _

theorem Drawable.perm {nodes nodes' : List NodeDescriptor} {n : NodeDescriptor}
    (h : Drawable nodes n) (hperm : nodes.Perm nodes') : Drawable nodes' n :=
  ⟨hperm.mem_iff.mp h.1, h.2.imp_right fun hzero m hm => hzero m (hperm.mem_iff.mpr hm)⟩

/-- Where the middles are picked whatever is drawn, they are still picked after any pick that
a draw can make. -/
theorem pickMiddles_ok_next {n : NodeDescriptor} {p' : PartialPath} {left : List NodeDescriptor}
    {slots : Nat} {excludedIps : Finset IpAddr} {excludedOps : Finset String}
    (hfits : SumFits (p.candidates r.allowSameIp)) (hleft : left.Perm p.middles)
    (hexcludes : Excludes r.allowSameIp excludedIps excludedOps p.picks)
    (hok : ∀ values, ∃ picked, pickMiddles r.allowSameIp (slots + 1) left excludedIps
      excludedOps (⟨values⟩ : Draws) = .ok picked)
    (hstep : r.pathSystem.step p n p') :
    ∃ left', left'.Perm p'.middles ∧ ∀ values, ∃ picked,
      pickMiddles r.allowSameIp slots left' (excludeIp r.allowSameIp excludedIps n)
        (excludeOp excludedOps n) (⟨values⟩ : Draws) = .ok picked := by
  obtain ⟨hdrawable, hperm, -⟩ := hstep
  have hsame : (PartialPath.candidates r.allowSameIp ⟨p.picks, left⟩).Perm
      (p.candidates r.allowSameIp) := candidates_perm hleft
  have hdrawable' := hdrawable.perm hsame.symm
  obtain ⟨idx, rfl⟩ := List.get_of_mem hdrawable'.1
  obtain ⟨value, hvalue⟩ := exists_draw (hfits.subperm hsame.subperm) hdrawable'
  refine ⟨(PartialPath.candidates r.allowSameIp ⟨p.picks, left⟩).eraseIdx idx, ?_, ?_⟩
  · have hcons := (List.getElem_cons_eraseIdx_perm idx.isLt).trans (hsame.trans hperm)
    exact (List.perm_cons _).mp hcons
  · intro values
    have hexcludes' : Excludes r.allowSameIp excludedIps excludedOps
      (PartialPath.mk p.picks left).picks := hexcludes
    obtain ⟨-, idx', rng', hidx, hpicked⟩ :=
      hexcludes'.pickMiddles_ok_iff.mp (hok (value :: values))
    rw [hvalue values] at hidx
    cases hidx
    exact hpicked

end

/-! ## All draws -/

/-- Nodes that a path of `count` hops may be made of: one entry, different middles and one
exit, pairwise compatible. -/
def IsPath (r : NodeRegistry) (count : Nat) (path : List NodeDescriptor) : Prop :=
  ∃ entryNode middles exitNode, path = entryNode :: middles ++ [exitNode] ∧
    entryNode ∈ r.getNodesByType .entry ∧ exitNode ∈ r.getNodesByType .exit ∧
      middles.Subperm (r.getNodesByType .middle) ∧ middles.length = count - 2 ∧
        path.Pairwise (Compatible r.allowSameIp)

/-- A query succeeds whatever is drawn, in every iteration order. -/
def AlwaysFinds (r : NodeRegistry) (count : Nat) : Prop :=
  ∀ nodes, r.nodes.Reorder nodes → ∀ (R : Type) [Rng R] (rng : R),
    ∃ path, getRandomPath { r with nodes } count rng = .ok path

theorem Compatible.symm {allowSameIp : Bool} {a b : NodeDescriptor}
    (h : Compatible allowSameIp a b) : Compatible allowSameIp b a := by
  constructor
  · intro hsome heq
    exact h.1 (heq ▸ hsome) heq.symm
  · intro hallow hloop heq
    exact h.2 hallow (heq ▸ hloop) heq.symm

/-- The nodes of a type do not depend on the iteration order. -/
theorem getNodesByType_perm {r : NodeRegistry} {nodes : HashMap String NodeEntry}
    (h : r.nodes.Reorder nodes) (t : NodeType) :
    (getNodesByType { r with nodes } t).Perm (r.getNodesByType t) := by
  have hvalues : r.nodes.values.Perm nodes.values := List.Perm.map _ h
  exact ((hvalues.filter _).map _).symm

theorem IsPath.of_reorder {r : NodeRegistry} {nodes : HashMap String NodeEntry} {count : Nat}
    {path : List NodeDescriptor} (h : r.nodes.Reorder nodes)
    (hpath : IsPath { r with nodes } count path) : r.IsPath count path := by
  obtain ⟨entryNode, middles, exitNode, hnodes, hentry, hexit, hmiddles, hlen, hpair⟩ := hpath
  exact ⟨entryNode, middles, exitNode, hnodes, (getNodesByType_perm h _).mem_iff.mp hentry,
    (getNodesByType_perm h _).mem_iff.mp hexit,
    hmiddles.trans (getNodesByType_perm h _).subperm, hlen, hpair⟩

theorem IsPath.reorder {r : NodeRegistry} {nodes : HashMap String NodeEntry} {count : Nat}
    {path : List NodeDescriptor} (hpath : r.IsPath count path) (h : r.nodes.Reorder nodes) :
    IsPath { r with nodes } count path :=
  IsPath.of_reorder (r := { r with nodes }) h.symm hpath

section

variable {R : Type*} [Rng R] {r : NodeRegistry} {count : Nat}

/-- What a query returns is such a path. -/
theorem isPath_of_getRandomPath {rng : R} {path : List NodeDescriptor}
    (h : r.getRandomPath count rng = .ok path) : r.IsPath count path := by
  obtain ⟨-, hpath⟩ := getRandomPath_cases h
  obtain ⟨entryNode, middles, exitNode, hnodes, hentry, hexit, hlen, hsub, hips, hops⟩ :=
    pickPath_cases hpath
  refine ⟨entryNode, middles, exitNode, hnodes, hentry, hexit, hsub, hlen, ?_⟩
  exact (hips.and hops).imp fun h => compatible_iff.mpr h

theorem insufficient_of_selectWeightedIndex {nodes : List NodeDescriptor} {rng : R}
    {e : RegistryError} (h : selectWeightedIndex nodes rng = .error e) :
    ∃ text, e = .insufficientNodes text := by
  by_cases hnodes : nodes = []
  · subst hnodes
    cases h
    exact ⟨_, rfl⟩
  · obtain ⟨idx, rng', hidx⟩ := selectWeightedIndex_ok hnodes rng
    rw [hidx] at h
    cases h

theorem insufficient_of_selectWeightedNode {nodes : List NodeDescriptor} {rng : R}
    {e : RegistryError} (h : selectWeightedNode nodes rng = .error e) :
    ∃ text, e = .insufficientNodes text := by
  rw [selectWeightedNode] at h
  split at h
  · next hidx =>
      cases h
      exact insufficient_of_selectWeightedIndex hidx
  · cases h

theorem insufficient_of_pickMiddles {allowSameIp : Bool} {slots : Nat}
    {middles : List NodeDescriptor} {excludedIps : Finset IpAddr} {excludedOps : Finset String}
    {rng : R} {e : RegistryError}
    (h : pickMiddles allowSameIp slots middles excludedIps excludedOps rng = .error e) :
    ∃ text, e = .insufficientNodes text := by
  induction slots generalizing middles excludedIps excludedOps rng with
  | zero => cases h
  | succ remaining ih =>
      simp only [pickMiddles] at h
      split at h
      · cases h
        exact ⟨_, rfl⟩
      split at h
      · next hidx =>
          cases h
          exact insufficient_of_selectWeightedIndex hidx
      split at h
      · next hrest =>
          cases h
          exact ih hrest
      · cases h

/-- Every error of a query says that nodes are missing. -/
theorem insufficient_of_getRandomPath {rng : R} {e : RegistryError}
    (h : r.getRandomPath count rng = .error e) : ∃ text, e = .insufficientNodes text := by
  simp only [getRandomPath] at h
  split at h
  · cases h
    exact ⟨_, rfl⟩
  split at h
  · cases h
    exact ⟨_, rfl⟩
  split at h
  · cases h
    exact ⟨_, rfl⟩
  split at h
  · cases h
    exact ⟨_, rfl⟩
  split at h
  · cases h
    exact ⟨_, rfl⟩
  simp only [pickPath] at h
  split at h
  · next hexit =>
      cases h
      exact insufficient_of_selectWeightedNode hexit
  split at h
  · next hentry =>
      cases h
      exact insufficient_of_selectWeightedNode hentry
  split at h
  · cases h
    exact ⟨_, rfl⟩
  split at h
  · cases h
    exact ⟨_, rfl⟩
  split at h
  · next hmiddles =>
      cases h
      exact insufficient_of_pickMiddles hmiddles
  · cases h

/-- With nodes of each type, and middles enough, a query picks a path. -/
theorem IsPath.getRandomPath_eq {path : List NodeDescriptor} (hcount : 3 ≤ count)
    (hpath : r.IsPath count path) (rng : R) :
    r.getRandomPath count rng = pickPath r.allowSameIp (count - 2) (r.getNodesByType .entry)
      (r.getNodesByType .middle) (r.getNodesByType .exit) rng := by
  obtain ⟨entryNode, middles, exitNode, -, hentry, hexit, hmiddles, hlen, -⟩ := hpath
  have hmany := hmiddles.length_le
  have hentries := List.isEmpty_eq_false_iff.mpr (List.ne_nil_of_mem hentry)
  have hexits := List.isEmpty_eq_false_iff.mpr (List.ne_nil_of_mem hexit)
  have hmiddleNodes : (r.getNodesByType .middle).isEmpty = false := by
    rw [List.isEmpty_eq_false_iff, ← List.length_pos_iff]
    omega
  have henough : ¬ (r.getNodesByType .middle).length < count - 2 := by omega
  simp only [getRandomPath, if_neg (Nat.not_lt.mpr hcount), hentries, hexits, hmiddleNodes,
    henough, Bool.false_eq_true, if_false]

end

section

variable {r : NodeRegistry} {count : Nat}

/-- Where no draws get stuck, a path is picked whatever is drawn. -/
theorem NeverStuck.pickPath_ok {R : Type*} [Rng R] (h : r.NeverStuck count)
    (hfits : r.BandwidthsFit) (hcount : 3 ≤ count)
    {entryNodes middleNodes exitNodes : List NodeDescriptor}
    (hentries : entryNodes.Perm (r.getNodesByType .entry))
    (hmiddles : middleNodes.Perm (r.getNodesByType .middle))
    (hexits : exitNodes.Perm (r.getNodesByType .exit)) (hentry : entryNodes ≠ [])
    (hexit : exitNodes ≠ []) (rng : R) :
    ∃ path, pickPath r.allowSameIp (count - 2) entryNodes middleNodes exitNodes rng =
      .ok path := by
  obtain ⟨exitNode, rng₁, hexitNode, hexitDrawable⟩ :=
    selectWeightedNode_ok ((hfits .exit).subperm hexits.subperm) hexit rng
  obtain ⟨entryNode, rng₂, hentryNode, hentryDrawable⟩ :=
    selectWeightedNode_ok ((hfits .entry).subperm hentries.subperm) hentry rng₁
  have hexitDrawable' := hexitDrawable.perm hexits
  have hentryDrawable' := hentryDrawable.perm hentries
  have hreach : r.pathSystem.Reachable ⟨[entryNode, exitNode], middleNodes⟩ :=
    TransitionSystem.reachable_of_init
      ⟨exitNode, entryNode, hexitDrawable', hentryDrawable', rfl, hmiddles⟩
  rw [pickPath_ok_iff]
  refine ⟨exitNode, rng₁, entryNode, rng₂, hexitNode, hentryNode,
    h.compatible _ _ hexitDrawable' hentryDrawable', ?_⟩
  exact h.pickMiddles_ok hfits hreach (by simp only [List.length_cons, List.length_nil]; omega)
    (((excludes_nil _).pick exitNode).pick entryNode) rng₂

/-- Where a path is picked whatever is drawn, every exit and entry that can be drawn are
compatible, and the middles are picked after them whatever is drawn. -/
theorem start_of_pickPath_ok (hfits : r.BandwidthsFit)
    (hok : ∀ values, ∃ path, pickPath r.allowSameIp (count - 2) (r.getNodesByType .entry)
      (r.getNodesByType .middle) (r.getNodesByType .exit) (⟨values⟩ : Draws) = .ok path)
    {exitNode entryNode : NodeDescriptor} (hexit : Drawable (r.getNodesByType .exit) exitNode)
    (hentry : Drawable (r.getNodesByType .entry) entryNode) :
    Compatible r.allowSameIp exitNode entryNode ∧ ∀ values, ∃ picked,
      pickMiddles r.allowSameIp (count - 2) (r.getNodesByType .middle)
        (excludeIp r.allowSameIp (excludeIp r.allowSameIp ∅ exitNode) entryNode)
        (excludeOp (excludeOp ∅ exitNode) entryNode) (⟨values⟩ : Draws) = .ok picked := by
  obtain ⟨first, hfirst⟩ := exists_draw_node (hfits .exit) hexit
  obtain ⟨second, hsecond⟩ := exists_draw_node (hfits .entry) hentry
  have hstart : ∀ values, Compatible r.allowSameIp exitNode entryNode ∧ ∃ picked,
      pickMiddles r.allowSameIp (count - 2) (r.getNodesByType .middle)
        (excludeIp r.allowSameIp (excludeIp r.allowSameIp ∅ exitNode) entryNode)
        (excludeOp (excludeOp ∅ exitNode) entryNode) (⟨values⟩ : Draws) = .ok picked := by
    intro values
    obtain ⟨exitNode', rng₁, entryNode', rng₂, hexit', hentry', hcompatible, hpicked⟩ :=
      pickPath_ok_iff.mp (hok (first :: second :: values))
    rw [hfirst] at hexit'
    cases hexit'
    rw [hsecond] at hentry'
    cases hentry'
    exact ⟨hcompatible, hpicked⟩
  exact ⟨(hstart []).1, fun values => (hstart values).2⟩

/-- Where a path is picked whatever is drawn, the middles are picked from every path under
construction. -/
theorem pickMiddles_ok_of_reachable (hfits : r.BandwidthsFit)
    (hok : ∀ values, ∃ path, pickPath r.allowSameIp (count - 2) (r.getNodesByType .entry)
      (r.getNodesByType .middle) (r.getNodesByType .exit) (⟨values⟩ : Draws) = .ok path)
    {p : PartialPath} (hreach : r.pathSystem.Reachable p) (hlen : p.picks.length ≤ count) :
    ∃ left excludedIps excludedOps, left.Perm p.middles ∧
      Excludes r.allowSameIp excludedIps excludedOps p.picks ∧ ∀ values, ∃ picked,
        pickMiddles r.allowSameIp (count - p.picks.length) left excludedIps excludedOps
          (⟨values⟩ : Draws) = .ok picked := by
  obtain ⟨p₀, picked, hinit, hrun⟩ := hreach
  induction hrun with
  | nil =>
      obtain ⟨exitNode, entryNode, hexit, hentry, hpicks, hmiddles⟩ := hinit
      have hstart := start_of_pickPath_ok hfits hok hexit hentry
      rw [hpicks]
      exact ⟨_, _, _, hmiddles.symm, ((excludes_nil _).pick exitNode).pick entryNode, hstart.2⟩
  | @snoc p p' picked n run last ih =>
      have hpicks : p'.picks = n :: p.picks := last.2.2
      rw [hpicks, List.length_cons] at hlen
      obtain ⟨left, excludedIps, excludedOps, hleft, hexcludes, hpicked⟩ := ih (by omega)
      have hslots : count - p.picks.length = count - (p.picks.length + 1) + 1 := by omega
      rw [hslots] at hpicked
      have hcandidates := sumFits_candidates hfits ⟨_, _, hinit, run⟩
      obtain ⟨left', hleft', hnext⟩ :=
        pickMiddles_ok_next hcandidates hleft hexcludes hpicked last
      rw [hpicks]
      exact ⟨left', _, _, hleft', hexcludes.pick n, hnext⟩

/-- Where a path is picked whatever is drawn, no draws get stuck. -/
theorem neverStuck_of_pickPath_ok (hfits : r.BandwidthsFit)
    (hok : ∀ values, ∃ path, pickPath r.allowSameIp (count - 2) (r.getNodesByType .entry)
      (r.getNodesByType .middle) (r.getNodesByType .exit) (⟨values⟩ : Draws) = .ok path) :
    r.NeverStuck count where
  compatible _ _ hexit hentry := (start_of_pickPath_ok hfits hok hexit hentry).1
  candidates_ne_nil p hreach hlen hnil := by
    obtain ⟨left, excludedIps, excludedOps, hleft, hexcludes, hpicked⟩ :=
      pickMiddles_ok_of_reachable hfits hok hreach hlen.le
    have hslots : count - p.picks.length = count - (p.picks.length + 1) + 1 := by omega
    rw [hslots] at hpicked
    have hexcludes' : Excludes r.allowSameIp excludedIps excludedOps
      (PartialPath.mk p.picks left).picks := hexcludes
    have hmany := (hexcludes'.pickMiddles_ok_iff.mp (hpicked [])).1
    rw [(candidates_perm hleft).length_eq, hnil] at hmany
    exact absurd hmany (by simp)

end

/-! ## Some draws -/

section

variable {r : NodeRegistry} {count : Nat}

/-- Middles with bandwidth that fit are picked by some draws. -/
theorem exists_draws_pickMiddles {allowSameIp : Bool} {chosen : List NodeDescriptor}
    {p : PartialPath} {excludedIps : Finset IpAddr} {excludedOps : Finset String}
    (hfits : SumFits p.middles) (hsub : chosen.Subperm p.middles)
    (hchosen : ∀ n ∈ chosen, Fits allowSameIp p.picks n)
    (hpair : chosen.Pairwise (Compatible allowSameIp)) (hpos : ∀ n ∈ chosen, 0 < n.bandwidth)
    (hexcludes : Excludes allowSameIp excludedIps excludedOps p.picks) :
    ∃ values picked, pickMiddles allowSameIp chosen.length p.middles excludedIps excludedOps
      (⟨values⟩ : Draws) = .ok picked := by
  induction chosen generalizing p excludedIps excludedOps with
  | nil => exact ⟨[], [], rfl⟩
  | cons n chosen ih =>
      obtain ⟨hapart, hpair⟩ := List.pairwise_cons.mp hpair
      have hcandidates : (n :: chosen).Subperm (p.candidates allowSameIp) := by
        have hall : (n :: chosen).filter (fun m => decide (Fits allowSameIp p.picks m)) =
            n :: chosen := List.filter_eq_self.mpr fun m hm => decide_eq_true (hchosen m hm)
        rw [← hall]
        exact hsub.filter _
      have hsum : SumFits (p.candidates allowSameIp) :=
        hfits.subperm List.filter_sublist.subperm
      obtain ⟨idx, hget⟩ := List.get_of_mem (hcandidates.subset List.mem_cons_self)
      have hdrawable : Drawable (p.candidates allowSameIp) ((p.candidates allowSameIp).get idx) :=
        ⟨List.get_mem _ _, Or.inl (hget ▸ hpos n List.mem_cons_self)⟩
      obtain ⟨value, hvalue⟩ := exists_draw hsum hdrawable
      -- what is left after the pick still holds the other middles
      have hperm := List.getElem_cons_eraseIdx_perm idx.isLt
      rw [← List.get_eq_getElem, hget] at hperm
      have hrest : chosen.Subperm ((p.candidates allowSameIp).eraseIdx idx) :=
        (List.subperm_cons n).mp (hcandidates.trans hperm.symm.subperm)
      have hfitsNext : ∀ m ∈ chosen, Fits allowSameIp (n :: p.picks) m := by
        intro m hm
        exact List.forall_mem_cons.mpr ⟨hapart m hm, hchosen m (List.mem_cons_of_mem n hm)⟩
      obtain ⟨values, picked, hpicked⟩ :=
        ih (p := ⟨n :: p.picks, (p.candidates allowSameIp).eraseIdx idx⟩)
          (hsum.subperm (List.eraseIdx_sublist _ _).subperm) hrest hfitsNext hpair
          (fun m hm => hpos m (List.mem_cons_of_mem n hm)) (hexcludes.pick n)
      refine ⟨value :: values, hexcludes.pickMiddles_ok_iff.mpr ⟨hcandidates.length_le, ?_⟩⟩
      refine ⟨idx, ⟨values⟩, hvalue values, picked, ?_⟩
      rw [hget]
      exact hpicked

/-- A path of nodes with bandwidth makes some draws succeed. -/
theorem IsPath.exists_draws {path : List NodeDescriptor} (hfits : r.BandwidthsFit)
    (hcount : 3 ≤ count) (hpath : r.IsPath count path) (hpos : ∀ n ∈ path, 0 < n.bandwidth) :
    ∃ (draws : Draws) (found : List NodeDescriptor), r.getRandomPath count draws = .ok found := by
  obtain ⟨entryNode, chosen, exitNode, rfl, hentry, hexit, hsub, hlen, hpair⟩ := id hpath
  rw [List.cons_append, List.pairwise_cons, List.pairwise_append] at hpair
  obtain ⟨hentryApart, hchosen, -, hexitApart⟩ := hpair
  simp only [List.mem_append, List.mem_singleton] at hentryApart hexitApart
  obtain ⟨first, hfirst⟩ := exists_draw_node (hfits .exit)
    (n := exitNode) ⟨hexit, Or.inl (hpos _ (by simp))⟩
  obtain ⟨second, hsecond⟩ := exists_draw_node (hfits .entry)
    (n := entryNode) ⟨hentry, Or.inl (hpos _ (by simp))⟩
  have hfitsStart : ∀ n ∈ chosen, Fits r.allowSameIp [entryNode, exitNode] n := by
    intro n hn
    simp only [Fits, List.forall_mem_cons]
    exact ⟨hentryApart n (Or.inl hn), (hexitApart n hn exitNode rfl).symm, by simp⟩
  obtain ⟨values, picked, hpicked⟩ :=
    exists_draws_pickMiddles (p := ⟨[entryNode, exitNode], r.getNodesByType .middle⟩)
      (hfits .middle) hsub hfitsStart hchosen (fun n hn => hpos n (by simp [hn]))
      (((excludes_nil _).pick exitNode).pick entryNode)
  refine ⟨⟨first :: second :: values⟩, ?_⟩
  rw [hpath.getRandomPath_eq hcount, pickPath_ok_iff]
  rw [hlen] at hpicked
  exact ⟨exitNode, _, entryNode, _, hfirst _, hsecond _, (hentryApart exitNode (Or.inr rfl)).symm,
    picked, hpicked⟩

/-- What a query makes of a registry. Without a path it always fails, and with a path whose
nodes have bandwidth some draws succeed; all draws do exactly where none get stuck. -/
theorem getRandomPath_available (hcount : 3 ≤ count) (hfits : r.BandwidthsFit) :
    ((¬ ∃ path, r.IsPath count path) → ∀ nodes, r.nodes.Reorder nodes →
        ∀ (R : Type) [Rng R] (rng : R), ∃ text,
          getRandomPath { r with nodes } count rng = .error (.insufficientNodes text)) ∧
      ((∃ path, r.IsPath count path) → (r.AlwaysFinds count ↔ r.NeverStuck count)) ∧
        ((∃ path, r.IsPath count path ∧ ∀ n ∈ path, 0 < n.bandwidth) →
          ∃ (draws : Draws) (found : List NodeDescriptor),
            r.getRandomPath count draws = .ok found) := by
  refine ⟨?_, ?_, ?_⟩
  · intro hnone nodes hreorder R _ rng
    cases hquery : getRandomPath { r with nodes } count rng with
    | error e =>
        obtain ⟨text, rfl⟩ := insufficient_of_getRandomPath hquery
        exact ⟨text, rfl⟩
    | ok path => exact absurd ⟨path, (isPath_of_getRandomPath hquery).of_reorder hreorder⟩ hnone
  · rintro ⟨path, hpath⟩
    constructor
    · intro halways
      apply neverStuck_of_pickPath_ok hfits
      intro values
      rw [← hpath.getRandomPath_eq hcount]
      exact halways r.nodes (List.Perm.refl _) Draws ⟨values⟩
    · intro hnever nodes hreorder R _ rng
      rw [(hpath.reorder hreorder).getRandomPath_eq hcount]
      obtain ⟨entryNode, middles, exitNode, -, hentry, hexit, -⟩ := hpath.reorder hreorder
      exact hnever.pickPath_ok hfits hcount (getNodesByType_perm hreorder _)
        (getNodesByType_perm hreorder _) (getNodesByType_perm hreorder _)
        (List.ne_nil_of_mem hentry) (List.ne_nil_of_mem hexit) rng
  · rintro ⟨path, hpath, hpos⟩
    exact hpath.exists_draws hfits hcount hpos

end

/-! ## An entry at the address of the exit -/

/-- Whatever is registered for three hops adds up. -/
theorem bandwidthsFit_threeNodes : threeNodes.BandwidthsFit := by
  intro t
  cases t <;> decide +kernel

/-- The three relays are a path. -/
theorem isPath_threeNodes : threeNodes.IsPath 3
    [publicNode "a" .entry 1, publicNode "b" .middle 2, publicNode "c" .exit 3] := by
  refine ⟨publicNode "a" .entry 1, [publicNode "b" .middle 2], publicNode "c" .exit 3, rfl,
    ?_, ?_, ?_, rfl, ?_⟩
  · decide +kernel
  · decide +kernel
  · exact List.singleton_subperm_iff.mpr (by decide +kernel)
  · decide +kernel

/-- There is one relay of each type to draw, and they fit. -/
theorem neverStuck_threeNodes : threeNodes.NeverStuck 3 := by
  have hentries : threeNodes.getNodesByType .entry = [publicNode "a" .entry 1] := by decide +kernel
  have hmiddles : threeNodes.getNodesByType .middle = [publicNode "b" .middle 2] := by
    decide +kernel
  have hexits : threeNodes.getNodesByType .exit = [publicNode "c" .exit 3] := by decide +kernel
  constructor
  · intro exitNode entryNode hexit hentry
    rw [hexits] at hexit
    rw [hentries] at hentry
    rw [List.mem_singleton.mp hexit.1, List.mem_singleton.mp hentry.1]
    decide
  · rintro p ⟨p₀, picked, ⟨exitNode, entryNode, hexit, hentry, hpicks, hperm⟩, hrun⟩ hlen
    have hlong : ∀ {p picked}, threeNodes.pathSystem.Run p₀ picked p → 2 ≤ p.picks.length := by
      intro p picked hrun
      refine hrun.invariant (fun p => 2 ≤ p.picks.length) (by rw [hpicks]; exact le_rfl) ?_
      intro p n p' htwo hstep
      rw [hstep.2.2, List.length_cons]
      omega
    cases hrun with
    | snoc run last =>
        have htwo := hlong run
        rw [last.2.2, List.length_cons] at hlen
        omega
    | nil =>
        rw [hexits] at hexit
        rw [hentries] at hentry
        rw [hmiddles] at hperm
        rw [List.mem_singleton.mp hexit.1, List.mem_singleton.mp hentry.1] at hpicks
        rw [PartialPath.candidates, hpicks, List.perm_singleton.mp hperm]
        decide

/-- What a query makes of the three relays: it always finds their path. An empty registry always
refuses. -/
theorem getRandomPath_available_threeNodes :
    threeNodes.AlwaysFinds 3 ∧
      (∃ (draws : Draws) (found : List NodeDescriptor),
        threeNodes.getRandomPath 3 draws = .ok found) ∧
        ∀ nodes, (new false).nodes.Reorder nodes → ∀ (R : Type) [Rng R] (rng : R), ∃ text,
          getRandomPath { new false with nodes } 3 rng = .error (.insufficientNodes text) := by
  obtain ⟨-, halways, hsome⟩ := getRandomPath_available (le_refl 3) bandwidthsFit_threeNodes
  have hempty : (new false).BandwidthsFit := by
    intro t
    cases t <;> decide +kernel
  refine ⟨(halways ⟨_, isPath_threeNodes⟩).mpr neverStuck_threeNodes,
    hsome ⟨_, isPath_threeNodes, by decide⟩, (getRandomPath_available (le_refl 3) hempty).1 ?_⟩
  have hnone : (new false).getNodesByType .entry = [] := by decide +kernel
  rintro ⟨path, entryNode, middles, exitNode, -, hentry, -⟩
  rw [hnone] at hentry
  cases hentry

/-- An entry at the address of the exit, on another port. -/
def neighbourEntry : NodeDescriptor :=
  { publicNode "d" .entry 3 with address := .v4 ⟨[203, 0, 113, 3], rfl⟩ 9002 }

/-- The three relays, and an entry that shares the address of the exit. -/
def sharedAddress : NodeRegistry := threeNodes.registerNode neighbourEntry 3

/-- It is not so that a query with a path to find always finds one: the neighbour of the exit
may be drawn. -/
theorem not_alwaysFinds_sharedAddress :
    ¬ ∀ (r : NodeRegistry) (count : Nat), (registrySystem r.allowSameIp).Reachable r →
      3 ≤ count → r.BandwidthsFit → (∃ path, r.IsPath count path) → r.AlwaysFinds count := by
  intro hclaim
  have hreach : (registrySystem false).Reachable sharedAddress :=
    (((TransitionSystem.reachable_of_init rfl).next (Step.registerNode _ _ _)).next
      (Step.registerNode _ _ _) |>.next (Step.registerNode _ _ _)).next (Step.registerNode _ _ _)
  have hfits : sharedAddress.BandwidthsFit := by
    intro t
    cases t <;> decide +kernel
  have hpath : sharedAddress.IsPath 3
      [publicNode "a" .entry 1, publicNode "b" .middle 2, publicNode "c" .exit 3] := by
    refine ⟨publicNode "a" .entry 1, [publicNode "b" .middle 2], publicNode "c" .exit 3, rfl,
      ?_, ?_, ?_, rfl, ?_⟩
    · decide +kernel
    · decide +kernel
    · exact List.singleton_subperm_iff.mpr (by decide +kernel)
    · decide +kernel
  obtain ⟨path, hfound⟩ := hclaim sharedAddress 3 hreach (le_refl 3) hfits ⟨_, hpath⟩
    sharedAddress.nodes (List.Perm.refl _) Draws ⟨[0, 0]⟩
  have hrefused : sharedAddress.getRandomPath 3 (⟨[0, 0]⟩ : Draws) =
      .error (.insufficientNodes "entry and exit share the same IP address") := by
    decide +kernel
  rw [show ({ sharedAddress with nodes := sharedAddress.nodes } : NodeRegistry) = sharedAddress
    from rfl, hrefused] at hfound
  cases hfound

end NodeRegistry

end NoPanic
