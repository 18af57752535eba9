/-
# The law of a random path

Where every number below a bound is equally likely, a node is drawn with its share of the
bandwidth of those it is drawn from. So a path comes out with the product of the shares: that of
the exit among the exits, that of the entry among the entries, and that of each middle among the
middles that fit the nodes picked before it. The law speaks of sets of nodes, and therefore does
not depend on the order in which the registry's map iterates.
-/

import NoPanic.Discovery.WeightedDraw
import NoPanic.Math.WeightedSampling

namespace NoPanic

open NoPanic.Math

open scoped ENNReal

universe u

namespace NodeRegistry

/-! ## The candidates -/

/-- The registered nodes of a type. -/
def ofType (r : NodeRegistry) (t : NodeType) : Finset NodeDescriptor :=
  (r.getNodesByType t).toFinset

/-- The middles that may be picked after some nodes. -/
def fitting (r : NodeRegistry) (picks : List NodeDescriptor) : Finset NodeDescriptor :=
  (r.ofType .middle).filter fun n => n ∉ picks ∧ Fits r.allowSameIp picks n

theorem mem_fitting {r : NodeRegistry} {picks : List NodeDescriptor} {n : NodeDescriptor} :
    n ∈ r.fitting picks ↔
      n ∈ r.getNodesByType .middle ∧ n ∉ picks ∧ Fits r.allowSameIp picks n := by
  rw [fitting, Finset.mem_filter, ofType, List.mem_toFinset]

/-- A node fits some picks and one more when it fits them and that one. -/
theorem fits_cons {allowSameIp : Bool} {picks : List NodeDescriptor} {n m : NodeDescriptor} :
    Fits allowSameIp (m :: picks) n ↔ Compatible allowSameIp m n ∧ Fits allowSameIp picks n := by
  simp only [Fits, List.forall_mem_cons]

/-- A pick is not picked again, and takes those away that do not fit it. -/
theorem mem_fitting_cons {r : NodeRegistry} {picks : List NodeDescriptor} {n m : NodeDescriptor} :
    n ∈ r.fitting (m :: picks) ↔
      n ∈ r.fitting picks ∧ n ≠ m ∧ Compatible r.allowSameIp m n := by
  simp only [mem_fitting, fits_cons, List.mem_cons, not_or]
  tauto

theorem fitting_cons_subset (r : NodeRegistry) (picks : List NodeDescriptor)
    (m : NodeDescriptor) : r.fitting (m :: picks) ⊆ (r.fitting picks).erase m := by
  intro n hn
  obtain ⟨hfitting, hne, -⟩ := mem_fitting_cons.mp hn
  exact Finset.mem_erase.mpr ⟨hne, hfitting⟩

/-- The probability of a path of `count` hops. -/
noncomputable def pathLaw (r : NodeRegistry) (count : Nat) (entryNode : NodeDescriptor)
    (middles : List NodeDescriptor) (exitNode : NodeDescriptor) : ℝ≥0∞ :=
  if middles.length + 2 = count ∧ Compatible r.allowSameIp exitNode entryNode then
    share tickets (r.ofType .exit) exitNode * share tickets (r.ofType .entry) entryNode *
      shares tickets r.fitting [entryNode, exitNode] middles
  else 0

/-- It does not depend on the order in which the map iterates. -/
theorem pathLaw_reorder {r : NodeRegistry} {nodes : HashMap String NodeEntry}
    (h : r.nodes.Reorder nodes) : pathLaw { r with nodes } = pathLaw r := by
  have hof : ∀ t, ofType { r with nodes } t = ofType r t := fun t =>
    List.toFinset_eq_of_perm _ _ (getNodesByType_perm h t)
  have hfitting : fitting { r with nodes } = fitting r := by
    funext picks
    rw [fitting, fitting, hof]
  funext count entryNode middles exitNode
  rw [pathLaw, pathLaw, hof, hof, hfitting]

section

variable {R : Type u} [Rng R] {k : Nat} {μ : PMF R} {nodes : List NodeDescriptor}

/-! ## One draw -/

/-- A draw finds each node with what it has of the bandwidth. -/
theorem prob_selectWeightedIndex (hfits : SumFits nodes) (hpos : 0 < (nodes.map tickets).sum)
    (hμ : UniformSource Rng.randomRange (2 ^ 64) (k + 1) μ) :
    ∃ ν : PMF R, UniformSource Rng.randomRange (2 ^ 64) k ν ∧
      ∀ event : Fin nodes.length → R → Prop,
        μ.toOuterMeasure {rng | ∃ idx rng', selectWeightedIndex nodes rng = .ok (idx, rng') ∧
          event idx rng'} =
        ∑ idx, (tickets (nodes.get idx) : ℝ≥0∞) / (nodes.map tickets).sum *
          ν.toOuterMeasure {rng' | event idx rng'} := by
  have htotal := toNat_totalBandwidth hfits
  have hbound : 0 < (totalBandwidth nodes).toNat := hpos.trans_eq htotal.symm
  obtain ⟨ν, hν, hdraw⟩ := hμ.prob_draw hbound (UInt64.toNat_lt _).le
  let holder := fun ticket : Fin (nodes.map tickets).sum =>
    (selectTicket tickets nodes ticket.val).get (selectTicket_isSome tickets ticket.isLt)
  have hholder : ∀ ticket, selectTicket tickets nodes ticket.val = some (holder ticket) :=
    fun ticket => (Option.some_get _).symm
  have hselected : ∀ rng : R, selectWeightedIndex nodes rng =
      .ok (holder (Fin.cast htotal (Rng.randomRange rng _ hbound).1),
        (Rng.randomRange rng _ hbound).2) := fun rng =>
    selectWeightedIndex_of_covers hfits hbound ((selectTicket_eq_some_iff tickets).mp
      (hholder (Fin.cast htotal (Rng.randomRange rng _ hbound).1)))
  refine ⟨ν, hν, ?_⟩
  intro event
  calc μ.toOuterMeasure {rng | ∃ idx rng', selectWeightedIndex nodes rng = .ok (idx, rng') ∧
          event idx rng'}
      = μ.toOuterMeasure {rng | event (holder (Fin.cast htotal (Rng.randomRange rng _ hbound).1))
          (Rng.randomRange rng _ hbound).2} := by
        congr 1
        ext rng
        simp only [hselected, Set.mem_ofPred_eq, Except.ok.injEq, Prod.mk.injEq]
        constructor
        · rintro ⟨idx, rng', ⟨rfl, rfl⟩, hevent⟩
          exact hevent
        · intro hevent
          exact ⟨_, _, ⟨rfl, rfl⟩, hevent⟩
    _ = ∑ draw, ((totalBandwidth nodes).toNat : ℝ≥0∞)⁻¹ *
          ν.toOuterMeasure {rng' | event (holder (Fin.cast htotal draw)) rng'} :=
        hdraw fun draw => event (holder (Fin.cast htotal draw))
    _ = ∑ ticket, ((nodes.map tickets).sum : ℝ≥0∞)⁻¹ *
          ν.toOuterMeasure {rng' | event (holder ticket) rng'} := by
        have hcast : ((totalBandwidth nodes).toNat : ℝ≥0∞) = (nodes.map tickets).sum :=
          congrArg _ htotal
        rw [hcast]
        exact Fintype.sum_equiv (finCongr htotal) _ _ fun draw => rfl
    _ = ∑ idx, tickets (nodes.get idx) • (((nodes.map tickets).sum : ℝ≥0∞)⁻¹ *
          ν.toOuterMeasure {rng' | event idx rng'}) :=
        sum_holder tickets hholder fun idx => ((nodes.map tickets).sum : ℝ≥0∞)⁻¹ *
          ν.toOuterMeasure {rng' | event idx rng'}
    _ = _ := by
        apply Finset.sum_congr rfl
        intro idx _
        rw [nsmul_eq_mul, div_eq_mul_inv, mul_assoc]

/-- What happens on the draw of a certain node has the node's share in what comes after. -/
theorem prob_pick (hfits : SumFits nodes) (hnodup : nodes.Nodup)
    (hweighs : ∀ n ∈ nodes, n.bandwidth ≠ 0)
    (hμ : UniformSource Rng.randomRange (2 ^ 64) (k + 1) μ) :
    ∃ ν : PMF R, UniformSource Rng.randomRange (2 ^ 64) k ν ∧
      ∀ (n : NodeDescriptor) (event : Fin nodes.length → R → Prop) (chance : ℝ≥0∞),
        (∀ idx, nodes.get idx = n → ν.toOuterMeasure {rng' | event idx rng'} = chance) →
        μ.toOuterMeasure {rng | ∃ idx rng', selectWeightedIndex nodes rng = .ok (idx, rng') ∧
          nodes.get idx = n ∧ event idx rng'} =
        share tickets nodes.toFinset n * chance := by
  by_cases hnodes : nodes = []
  · subst hnodes
    obtain ⟨ν, hν, -⟩ := hμ.prob_draw Nat.one_pos Nat.one_le_two_pow
    refine ⟨ν, hν, ?_⟩
    intro n event chance _
    have hnever : {rng : R | ∃ idx rng', selectWeightedIndex [] rng = .ok (idx, rng') ∧
        ([] : List NodeDescriptor).get idx = n ∧ event idx rng'} = ∅ := by
      ext rng
      simp [selectWeightedIndex]
    rw [hnever, MeasureTheory.measure_empty, share, if_neg (by simp), zero_mul]
  · have hpos : 0 < (nodes.map tickets).sum := by
      obtain ⟨m, hm⟩ := List.exists_mem_of_ne_nil nodes hnodes
      refine Nat.pos_of_ne_zero ?_
      intro hzero
      have hnone := List.sum_eq_zero_iff_forall_eq_nat.mp hzero _ (List.mem_map_of_mem hm)
      exact hweighs m hm (UInt64.toNat_inj.mp hnone)
    obtain ⟨ν, hν, hlaw⟩ := prob_selectWeightedIndex hfits hpos hμ
    refine ⟨ν, hν, ?_⟩
    intro n event chance hchance
    rw [hlaw fun idx rng' => nodes.get idx = n ∧ event idx rng']
    have hother : ∀ idx, nodes.get idx ≠ n →
        (tickets (nodes.get idx) : ℝ≥0∞) / (nodes.map tickets).sum *
          ν.toOuterMeasure {rng' | nodes.get idx = n ∧ event idx rng'} = 0 := by
      intro idx hne
      simp only [hne, false_and, Set.ofPred_false, MeasureTheory.measure_empty, mul_zero]
    by_cases hn : n ∈ nodes
    · obtain ⟨idx, rfl⟩ := List.get_of_mem hn
      have hunique : ∀ other, other ≠ idx → nodes.get other ≠ nodes.get idx :=
        fun other hne heq => hne (List.nodup_iff_injective_get.mp hnodup heq)
      rw [Finset.sum_eq_single idx (fun other _ hne => hother other (hunique other hne))
        (fun hnot => absurd (Finset.mem_univ idx) hnot), share,
        if_pos (List.mem_toFinset.mpr hn), List.sum_toFinset tickets hnodup]
      simp only [true_and, hchance idx rfl]
    · rw [share, if_neg (fun hmem => hn (List.mem_toFinset.mp hmem)), zero_mul]
      refine Finset.sum_eq_zero ?_
      intro idx _
      exact hother idx fun heq => hn (heq ▸ List.get_mem nodes idx)

/-- A node is selected where its index is. -/
theorem selectWeightedNode_eq_ok {rng rng' : R} {n : NodeDescriptor} :
    selectWeightedNode nodes rng = .ok (n, rng') ↔
      ∃ idx, selectWeightedIndex nodes rng = .ok (idx, rng') ∧ nodes.get idx = n := by
  rw [selectWeightedNode]
  cases selectWeightedIndex nodes rng with
  | error e => simp
  | ok selected => simp [Prod.ext_iff]; tauto

/-- What happens after a certain node was selected. -/
theorem prob_selectWeightedNode (hfits : SumFits nodes) (hnodup : nodes.Nodup)
    (hweighs : ∀ n ∈ nodes, n.bandwidth ≠ 0)
    (hμ : UniformSource Rng.randomRange (2 ^ 64) (k + 1) μ) :
    ∃ ν : PMF R, UniformSource Rng.randomRange (2 ^ 64) k ν ∧
      ∀ (n : NodeDescriptor) (event : R → Prop) (chance : ℝ≥0∞),
        (n ∈ nodes → ν.toOuterMeasure {rng' | event rng'} = chance) →
        μ.toOuterMeasure {rng | ∃ rng', selectWeightedNode nodes rng = .ok (n, rng') ∧
          event rng'} =
        share tickets nodes.toFinset n * chance := by
  obtain ⟨ν, hν, hlaw⟩ := prob_pick hfits hnodup hweighs hμ
  refine ⟨ν, hν, ?_⟩
  intro n event chance hchance
  rw [← hlaw n (fun _ => event) chance fun idx heq => hchance (heq ▸ List.get_mem nodes idx)]
  congr 1
  ext rng
  simp only [selectWeightedNode_eq_ok, Set.mem_ofPred_eq]
  constructor
  · rintro ⟨rng', ⟨idx, hselected, hnode⟩, hevent⟩
    exact ⟨idx, rng', hselected, hnode, hevent⟩
  · rintro ⟨idx, rng', hselected, hnode, hevent⟩
    exact ⟨rng', ⟨idx, hselected, hnode⟩, hevent⟩

/-! ## The middles -/

/-- What is left of the middles for a path under construction: those that fit are the fitting
ones. -/
structure Leaves (r : NodeRegistry) (p : PartialPath) : Prop where
  nodup : p.middles.Nodup
  subperm : p.middles.Subperm (r.getNodesByType .middle)
  mem_candidates : ∀ n, n ∈ p.candidates r.allowSameIp ↔ n ∈ r.fitting p.picks

variable {r : NodeRegistry} {p : PartialPath}

theorem Leaves.toFinset_candidates (h : r.Leaves p) :
    (p.candidates r.allowSameIp).toFinset = r.fitting p.picks := by
  ext n
  rw [List.mem_toFinset]
  exact h.mem_candidates n

theorem Leaves.nodup_candidates (h : r.Leaves p) : (p.candidates r.allowSameIp).Nodup :=
  h.nodup.filter _

theorem Leaves.subperm_candidates (h : r.Leaves p) :
    (p.candidates r.allowSameIp).Subperm (r.getNodesByType .middle) :=
  List.filter_sublist.subperm.trans h.subperm

/-- Those that fit, without the one that is picked, are left after the pick. -/
theorem Leaves.pick (h : r.Leaves p) (idx : Fin (p.candidates r.allowSameIp).length) :
    r.Leaves ⟨(p.candidates r.allowSameIp).get idx :: p.picks,
      (p.candidates r.allowSameIp).eraseIdx idx⟩ := by
  have hleft := List.eraseIdx_sublist (p.candidates r.allowSameIp) idx
  have hperm : ((p.candidates r.allowSameIp).get idx ::
      (p.candidates r.allowSameIp).eraseIdx idx).Perm (p.candidates r.allowSameIp) :=
    List.getElem_cons_eraseIdx_perm idx.isLt
  have hfresh := (List.nodup_cons.mp (hperm.nodup_iff.mpr h.nodup_candidates)).1
  refine ⟨h.nodup_candidates.sublist hleft, hleft.subperm.trans h.subperm_candidates, ?_⟩
  intro n
  rw [mem_fitting_cons, ← h.mem_candidates, ← hperm.mem_iff, List.mem_cons,
    PartialPath.candidates, List.mem_filter, decide_eq_true_iff, fits_cons]
  constructor
  · rintro ⟨hmem, hcompatible, -⟩
    refine ⟨Or.inr hmem, ?_, hcompatible⟩
    rintro rfl
    exact hfresh hmem
  · rintro ⟨heq | hmem, hne, hcompatible⟩
    · exact absurd heq hne
    · have hfitting := (h.mem_candidates n).mp (hleft.subset hmem)
      exact ⟨hmem, hcompatible, (mem_fitting.mp hfitting).2.2⟩

/-- A certain middle is picked first where it is drawn from those that fit, and enough of them
do. -/
theorem pickMiddles_cons_eq_ok {allowSameIp : Bool} {excludedIps : Finset IpAddr}
    {excludedOps : Finset String} (hexcludes : Excludes allowSameIp excludedIps excludedOps p.picks)
    {remaining : Nat} {rng : R} {n : NodeDescriptor} {rest : List NodeDescriptor} :
    pickMiddles allowSameIp (remaining + 1) p.middles excludedIps excludedOps rng =
        .ok (n :: rest) ↔
      remaining + 1 ≤ (p.candidates allowSameIp).length ∧
        ∃ idx rng', selectWeightedIndex (p.candidates allowSameIp) rng = .ok (idx, rng') ∧
          (p.candidates allowSameIp).get idx = n ∧
            pickMiddles allowSameIp remaining ((p.candidates allowSameIp).eraseIdx idx)
              (excludeIp allowSameIp excludedIps n) (excludeOp excludedOps n) rng' = .ok rest := by
  rw [pickMiddles_succ_eq_ok, hexcludes.mayPick_eq]
  constructor
  · rintro ⟨henough, idx, rng', rest, hselected, hpicked, heq⟩
    obtain ⟨rfl, rfl⟩ := List.cons.inj heq
    exact ⟨henough, idx, rng', hselected, rfl, hpicked⟩
  · rintro ⟨henough, idx, rng', hselected, rfl, hpicked⟩
    exact ⟨henough, idx, rng', rest, hselected, hpicked, rfl⟩

/-- The middles come out with the product of their shares. -/
theorem prob_pickMiddles (hfits : SumFits (r.getNodesByType .middle))
    (hweighs : ∀ n ∈ r.getNodesByType .middle, n.bandwidth ≠ 0) {excludedIps : Finset IpAddr}
    {excludedOps : Finset String}
    (hexcludes : Excludes r.allowSameIp excludedIps excludedOps p.picks) (hleaves : r.Leaves p)
    {slots : Nat} (hμ : UniformSource Rng.randomRange (2 ^ 64) slots μ)
    (middles : List NodeDescriptor) :
    μ.toOuterMeasure {rng | pickMiddles r.allowSameIp slots p.middles excludedIps excludedOps rng =
        .ok middles} =
      if middles.length = slots then shares tickets r.fitting p.picks middles else 0 := by
  induction slots generalizing p excludedIps excludedOps μ middles with
  | zero =>
      cases middles with
      | nil =>
          simp only [pickMiddles, Set.ofPred_true, List.length_nil, if_true, shares]
          exact (PMF.toOuterMeasure_apply_eq_one_iff _ _).mpr (Set.subset_univ _)
      | cons n rest => simp [pickMiddles]
  | succ remaining ih =>
      cases middles with
      | nil => simp [pickMiddles_succ_eq_ok]
      | cons n rest =>
          simp only [pickMiddles_cons_eq_ok hexcludes, List.length_cons, Nat.add_right_cancel_iff]
          by_cases henough : remaining + 1 ≤ (p.candidates r.allowSameIp).length
          · simp only [henough, true_and]
            obtain ⟨ν, hν, hpick⟩ := prob_pick (hfits.subperm hleaves.subperm_candidates)
              hleaves.nodup_candidates
              (fun m hm => hweighs m (hleaves.subperm_candidates.subset hm)) hμ
            rw [hpick n _ (if rest.length = remaining then
              shares tickets r.fitting (n :: p.picks) rest else 0), hleaves.toFinset_candidates,
              mul_ite, mul_zero, shares]
            rintro idx rfl
            exact ih (hexcludes.pick _) (hleaves.pick idx) hν rest
          · simp only [henough, false_and, Set.ofPred_false, MeasureTheory.measure_empty]
            -- too few are left for what is still to be picked
            split
            · next hlength =>
                by_contra hne
                have hle := length_le_of_shares_ne_zero r.fitting_cons_subset
                  (fun hzero => hne hzero.symm)
                rw [← hleaves.toFinset_candidates,
                  List.toFinset_card_of_nodup hleaves.nodup_candidates, List.length_cons,
                  hlength] at hle
                exact henough hle
            · rfl

/-! ## The path -/

/-- A path is drawn where it is picked: the checks before the picks ask for less. -/
theorem getRandomPath_eq_ok {count : Nat} {rng : R} {path : List NodeDescriptor} :
    r.getRandomPath count rng = .ok path ↔
      3 ≤ count ∧ pickPath r.allowSameIp (count - 2) (r.getNodesByType .entry)
        (r.getNodesByType .middle) (r.getNodesByType .exit) rng = .ok path := by
  refine ⟨getRandomPath_cases, ?_⟩
  rintro ⟨hcount, hpicked⟩
  obtain ⟨entryNode, middles, exitNode, -, hentry, hexit, hlength, hsub, -, -⟩ :=
    pickPath_cases hpicked
  have hle := hsub.length_le
  have hentries : (r.getNodesByType .entry).isEmpty = false :=
    List.isEmpty_eq_false_iff.mpr (List.ne_nil_of_mem hentry)
  have hexits : (r.getNodesByType .exit).isEmpty = false :=
    List.isEmpty_eq_false_iff.mpr (List.ne_nil_of_mem hexit)
  have hmiddles : (r.getNodesByType .middle).isEmpty = false := by
    rw [List.isEmpty_eq_false_iff, ← List.length_pos_iff]
    omega
  simp only [getRandomPath, if_neg (show ¬ count < 3 by omega), hentries, hexits, hmiddles,
    Bool.false_eq_true, if_false, if_neg (show
      ¬ (r.getNodesByType .middle).length < count - 2 by omega), hpicked]

/-- A certain path is picked where its exit and its entry are drawn, and its middles after them. -/
theorem pickPath_cons_eq_ok {allowSameIp : Bool} {slots : Nat}
    {entryNodes middleNodes exitNodes middles : List NodeDescriptor}
    {entryNode exitNode : NodeDescriptor} {rng : R} :
    pickPath allowSameIp slots entryNodes middleNodes exitNodes rng =
        .ok (entryNode :: middles ++ [exitNode]) ↔
      ∃ rng₁, selectWeightedNode exitNodes rng = .ok (exitNode, rng₁) ∧
        ∃ rng₂, selectWeightedNode entryNodes rng₁ = .ok (entryNode, rng₂) ∧
          Compatible allowSameIp exitNode entryNode ∧
            pickMiddles allowSameIp slots middleNodes
              (excludeIp allowSameIp (excludeIp allowSameIp ∅ exitNode) entryNode)
              (excludeOp (excludeOp ∅ exitNode) entryNode) rng₂ = .ok middles := by
  have hcheck : ∀ a b : NodeDescriptor, _ ↔ Fits allowSameIp [a] b := fun a b =>
    ((excludes_nil allowSameIp).pick a).entry_checks_iff
  rw [pickPath_eq_ok]
  constructor
  · rintro ⟨a, rng₁, b, rng₂, picked, hexit, hentry, hchecks, hpicked, heq⟩
    obtain ⟨hfront, hlast⟩ := List.append_inj' heq rfl
    obtain ⟨rfl, rfl⟩ := List.cons.inj hfront
    obtain rfl := List.singleton_inj.mp hlast
    exact ⟨rng₁, hexit, rng₂, hentry, fits_singleton.mp ((hcheck _ _).mp hchecks), hpicked⟩
  · rintro ⟨rng₁, hexit, rng₂, hentry, hcompatible, hpicked⟩
    exact ⟨exitNode, rng₁, entryNode, rng₂, middles, hexit, hentry,
      (hcheck _ _).mpr (fits_singleton.mpr hcompatible), hpicked, rfl⟩

/-- Before the middles are picked, all of them are left. -/
theorem leaves_start (hkeyed : r.Keyed) {entryNode exitNode : NodeDescriptor}
    (hentry : entryNode ∈ r.getNodesByType .entry) (hexit : exitNode ∈ r.getNodesByType .exit) :
    r.Leaves ⟨[entryNode, exitNode], r.getNodesByType .middle⟩ := by
  refine ⟨(nodup_getNodesByType hkeyed .middle).of_map _, List.Subperm.refl _, ?_⟩
  intro n
  rw [PartialPath.candidates, List.mem_filter, decide_eq_true_iff, mem_fitting]
  refine and_congr_right ?_
  intro hn
  have htype := (mem_getNodesByType hkeyed hn).2
  refine (and_iff_right ?_).symm
  simp only [List.mem_cons, List.not_mem_nil, or_false, not_or]
  constructor
  · rintro rfl
    exact NodeType.noConfusion (htype.symm.trans (mem_getNodesByType hkeyed hentry).2)
  · rintro rfl
    exact NodeType.noConfusion (htype.symm.trans (mem_getNodesByType hkeyed hexit).2)

/-- A path comes out with the product of the shares of its nodes. -/
theorem prob_getRandomPath (hkeyed : r.Keyed) (hfits : r.BandwidthsFit)
    (hweighs : ∀ n, r.Registered n → n.bandwidth ≠ 0) {count : Nat} (hcount : 3 ≤ count)
    (hμ : UniformSource Rng.randomRange (2 ^ 64) count μ) (entryNode : NodeDescriptor)
    (middles : List NodeDescriptor) (exitNode : NodeDescriptor) :
    μ.toOuterMeasure {rng | r.getRandomPath count rng = .ok (entryNode :: middles ++ [exitNode])} =
      r.pathLaw count entryNode middles exitNode := by
  obtain ⟨slots, rfl⟩ : ∃ slots, count = slots + 2 := ⟨count - 2, by omega⟩
  have hnodup := fun t => (nodup_getNodesByType hkeyed t).of_map
  have hof : ∀ t, ∀ n ∈ r.getNodesByType t, n.bandwidth ≠ 0 := fun t n hn =>
    hweighs n (mem_getNodesByType hkeyed hn).1
  obtain ⟨ν₁, hν₁, hexit⟩ := prob_selectWeightedNode (hfits .exit) (hnodup .exit) (hof .exit) hμ
  obtain ⟨ν₂, hν₂, hentry⟩ :=
    prob_selectWeightedNode (hfits .entry) (hnodup .entry) (hof .entry) hν₁
  have hmiddles : entryNode ∈ r.getNodesByType .entry → exitNode ∈ r.getNodesByType .exit →
      ν₂.toOuterMeasure {rng | Compatible r.allowSameIp exitNode entryNode ∧
          pickMiddles r.allowSameIp slots (r.getNodesByType .middle)
            (excludeIp r.allowSameIp (excludeIp r.allowSameIp ∅ exitNode) entryNode)
            (excludeOp (excludeOp ∅ exitNode) entryNode) rng = .ok middles} =
        if middles.length = slots ∧ Compatible r.allowSameIp exitNode entryNode then
          shares tickets r.fitting [entryNode, exitNode] middles
        else 0 := by
    intro hentryMem hexitMem
    by_cases hcompatible : Compatible r.allowSameIp exitNode entryNode
    · simp only [hcompatible, true_and, and_true]
      exact prob_pickMiddles (hfits .middle) (hof .middle)
        (((excludes_nil r.allowSameIp).pick exitNode).pick entryNode)
        (leaves_start hkeyed hentryMem hexitMem) hν₂ middles
    · simp only [hcompatible, false_and, and_false, if_false, Set.ofPred_false,
        MeasureTheory.measure_empty]
  simp only [getRandomPath_eq_ok, hcount, true_and, Nat.add_sub_cancel, pickPath_cons_eq_ok]
  rw [hexit exitNode _ _ fun hexitMem => hentry entryNode _ _ fun hentryMem =>
    hmiddles hentryMem hexitMem, pathLaw, ← mul_assoc, mul_ite, mul_zero]
  simp only [Nat.add_right_cancel_iff, ofType]

end

end NodeRegistry

end NoPanic
