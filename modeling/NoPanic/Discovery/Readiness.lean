/-
# What the directory reports as ready

The directory calls itself ready when nodes of every type are registered. A path also obeys
the exclusion rules, which the report does not look at: relays of one operator, or on one
address, make a directory that is ready and finds no path.
-/

import NoPanic.Discovery.Availability

namespace NoPanic

open NoPanic.Math

namespace NodeRegistry

/-- Nodes of every type are registered. -/
def isReady (r : NodeRegistry) : Bool :=
  !(r.getNodesByType .entry).isEmpty && !(r.getNodesByType .middle).isEmpty &&
    !(r.getNodesByType .exit).isEmpty

/-- The answer to a health check. -/
structure HealthCheckResponse where
  status : String
  ready : Bool
  message : Option String

/-- The error of a readiness check. -/
inductive ReadinessStatus
  | unavailable (message : String)

/-- What both checks say of a directory that is not ready. -/
def notReadyText : String :=
  "Insufficient nodes to build circuits. Need at least 1 entry, 1 middle, and 1 exit node."

/-- Answer a health check. -/
def healthCheck (r : NodeRegistry) : HealthCheckResponse :=
  let ready := r.isReady
  { status := "ok", ready, message := if ready then none else some notReadyText }

/-- Answer a readiness check. -/
def readinessCheck (r : NodeRegistry) : Except ReadinessStatus Unit :=
  if r.isReady then .ok () else .error (.unavailable notReadyText)

/-- Some outcome of the draws makes a query succeed. -/
def CanFind (r : NodeRegistry) (count : Nat) : Prop :=
  ∃ (R : Type) (_ : Rng R) (rng : R) (path : List NodeDescriptor),
    r.getRandomPath count rng = .ok path

/-- The reports say ready exactly when a path of three hops can be found. -/
structure ReadinessAgrees (r : NodeRegistry) : Prop where
  isReady_iff : r.isReady = true ↔ r.CanFind 3
  healthCheck_iff : r.healthCheck.ready = true ↔ r.CanFind 3
  readinessCheck_iff : r.readinessCheck = .ok () ↔ r.CanFind 3

/-- An exit and an entry that can be drawn, and a middle, fit on one path. -/
def FitsTogether (r : NodeRegistry) : Prop :=
  ∃ exitNode entryNode middle, Drawable (r.getNodesByType .exit) exitNode ∧
    Drawable (r.getNodesByType .entry) entryNode ∧ middle ∈ r.getNodesByType .middle ∧
      Compatible r.allowSameIp exitNode entryNode ∧
        Compatible r.allowSameIp exitNode middle ∧ Compatible r.allowSameIp entryNode middle

section

variable {r : NodeRegistry}

/-- The three reports are one. -/
theorem readinessAgrees_iff_isReady :
    r.ReadinessAgrees ↔ (r.isReady = true ↔ r.CanFind 3) := by
  have hcheck : r.readinessCheck = .ok () ↔ r.isReady = true := by
    rw [readinessCheck]
    split
    · next hready => exact iff_of_true rfl hready
    · next hready => exact iff_of_false (by simp) hready
  constructor
  · exact fun h => h.isReady_iff
  · exact fun h => ⟨h, h, hcheck.trans h⟩

/-- A directory that finds a path is ready. -/
theorem isReady_of_canFind {count : Nat} (h : r.CanFind count) : r.isReady = true := by
  obtain ⟨R, _, rng, path, hpath⟩ := h
  simp only [getRandomPath] at hpath
  split at hpath
  · cases hpath
  split at hpath
  · cases hpath
  next hentry =>
    split at hpath
    · cases hpath
    next hmiddle =>
      split at hpath
      · cases hpath
      split at hpath
      · cases hpath
      next hexit =>
        rw [isReady, Bool.eq_false_iff.mpr hentry, Bool.eq_false_iff.mpr hmiddle,
          Bool.eq_false_iff.mpr hexit]
        rfl

/-- One middle is picked where one fits the entry and the exit. -/
theorem pickMiddles_one_ok_iff {R : Type*} [Rng R] {rng : R} {p : PartialPath}
    {excludedIps : Finset IpAddr} {excludedOps : Finset String}
    (h : Excludes r.allowSameIp excludedIps excludedOps p.picks) :
    (∃ picked, pickMiddles r.allowSameIp 1 p.middles excludedIps excludedOps rng =
      .ok picked) ↔ ∃ middle ∈ p.middles, Fits r.allowSameIp p.picks middle := by
  rw [h.pickMiddles_ok_iff]
  constructor
  · rintro ⟨hpos, -⟩
    obtain ⟨middle, hmiddle⟩ := List.exists_mem_of_length_pos hpos
    obtain ⟨hmem, hfits⟩ := List.mem_filter.mp hmiddle
    exact ⟨middle, hmem, of_decide_eq_true hfits⟩
  · rintro ⟨middle, hmem, hfits⟩
    have hcandidate : middle ∈ p.candidates r.allowSameIp :=
      List.mem_filter.mpr ⟨hmem, decide_eq_true hfits⟩
    obtain ⟨idx, rng', hidx⟩ := selectWeightedIndex_ok (List.ne_nil_of_mem hcandidate) rng
    exact ⟨List.length_pos_of_mem hcandidate, idx, rng', hidx, [], rfl⟩

/-- A path of three hops can be found exactly where three nodes fit together. -/
theorem canFind_iff_fitsTogether (hfits : r.BandwidthsFit) : r.CanFind 3 ↔ r.FitsTogether := by
  constructor
  · rintro ⟨R, _, rng, path, hpath⟩
    obtain ⟨exitNode, rng₁, entryNode, rng₂, hexit, hentry, hcompatible, hpicked⟩ :=
      pickPath_ok_iff.mp ⟨path, (getRandomPath_cases hpath).2⟩
    have hexcludes := ((excludes_nil r.allowSameIp).pick exitNode).pick entryNode
    obtain ⟨middle, hmem, hmiddle⟩ := (pickMiddles_one_ok_iff
      (p := ⟨[entryNode, exitNode], r.getNodesByType .middle⟩) hexcludes).mp hpicked
    simp only [Fits, List.forall_mem_cons] at hmiddle
    exact ⟨exitNode, entryNode, middle, drawable_of_selectWeightedNode (hfits .exit) hexit,
      drawable_of_selectWeightedNode (hfits .entry) hentry, hmem, hcompatible, hmiddle.2.1,
      hmiddle.1⟩
  · rintro ⟨exitNode, entryNode, middle, hexit, hentry, hmem, hcompatible, hexitMiddle,
      hentryMiddle⟩
    obtain ⟨first, hfirst⟩ := exists_draw_node (hfits .exit) hexit
    obtain ⟨second, hsecond⟩ := exists_draw_node (hfits .entry) hentry
    have hexcludes := ((excludes_nil r.allowSameIp).pick exitNode).pick entryNode
    have hmiddle : Fits r.allowSameIp [entryNode, exitNode] middle := by
      simp only [Fits, List.forall_mem_cons]
      exact ⟨hentryMiddle, hexitMiddle, by simp⟩
    have hpath : r.IsPath 3 [entryNode, middle, exitNode] := by
      refine ⟨entryNode, [middle], exitNode, rfl, hentry.1, hexit.1,
        List.singleton_subperm_iff.mpr hmem, rfl, ?_⟩
      simp only [List.pairwise_cons, List.mem_cons, List.not_mem_nil, or_false,
        forall_eq_or_imp, forall_eq]
      exact ⟨⟨hentryMiddle, hcompatible.symm⟩, hexitMiddle.symm, by simp⟩
    refine ⟨Draws, inferInstance, ⟨[first, second]⟩, ?_⟩
    rw [hpath.getRandomPath_eq (le_refl 3), pickPath_ok_iff]
    exact ⟨exitNode, _, entryNode, _, hfirst _, hsecond _, hcompatible,
      (pickMiddles_one_ok_iff (p := ⟨[entryNode, exitNode], r.getNodesByType .middle⟩)
        hexcludes).mpr ⟨middle, hmem, hmiddle⟩⟩

/-- The reports agree with the queries exactly where a type is missing, or an exit and an entry
that can be drawn fit together with a middle. -/
theorem readinessAgrees_iff (hfits : r.BandwidthsFit) :
    r.ReadinessAgrees ↔ (r.isReady = false ∨ r.FitsTogether) := by
  rw [readinessAgrees_iff_isReady, ← canFind_iff_fitsTogether hfits]
  constructor
  · intro hagrees
    cases hready : r.isReady with
    | false => exact Or.inl rfl
    | true => exact Or.inr (hagrees.mp hready)
  · rintro (hready | hfind)
    · rw [hready]
      exact iff_of_false Bool.false_ne_true fun hfind =>
        Bool.false_ne_true (hready.symm.trans (isReady_of_canFind hfind))
    · exact iff_of_true (isReady_of_canFind hfind) hfind

end

/-! ## Two relays on one address -/

/-- The directory of the three relays reports that it is ready, and it is. -/
theorem readinessAgrees_iff_threeNodes :
    threeNodes.isReady = true ∧ threeNodes.ReadinessAgrees := by
  have hfits : threeNodes.FitsTogether := by
    refine ⟨publicNode "c" .exit 3, publicNode "a" .entry 1, publicNode "b" .middle 2,
      ⟨?_, Or.inl (by decide)⟩, ⟨?_, Or.inl (by decide)⟩, ?_, ?_, ?_, ?_⟩ <;> decide +kernel
  exact ⟨by decide +kernel, (readinessAgrees_iff bandwidthsFit_threeNodes).mpr (Or.inr hfits)⟩

/-- A middle, an exit, and an entry on the address of the exit. -/
def oneAddress : NodeRegistry :=
  (((new false).registerNode (publicNode "b" .middle 2) 0).registerNode
    (publicNode "c" .exit 3) 1).registerNode neighbourEntry 2

/-- It is not so that the reports agree with the queries: the directory whose only entry is on
the address of its only exit reports ready. -/
theorem not_readinessAgrees_oneAddress :
    ¬ ∀ r : NodeRegistry, (registrySystem r.allowSameIp).Reachable r → r.BandwidthsFit →
      r.ReadinessAgrees := by
  intro hclaim
  have hreach : (registrySystem false).Reachable oneAddress :=
    ((TransitionSystem.reachable_of_init rfl).next (Step.registerNode _ _ _)).next
      (Step.registerNode _ _ _) |>.next (Step.registerNode _ _ _)
  have hfits : oneAddress.BandwidthsFit := by
    intro t
    cases t <;> decide +kernel
  have hready : oneAddress.isReady = true := by decide +kernel
  have hfind := (hclaim oneAddress hreach hfits).isReady_iff.mp hready
  obtain ⟨exitNode, entryNode, middle, hexit, hentry, -, hcompatible, -⟩ :=
    (canFind_iff_fitsTogether hfits).mp hfind
  have hconflict : ∀ exitNode ∈ oneAddress.getNodesByType .exit,
      ∀ entryNode ∈ oneAddress.getNodesByType .entry,
        ¬ Compatible oneAddress.allowSameIp exitNode entryNode := by
    decide +kernel
  exact hconflict exitNode hexit.1 entryNode hentry.1 hcompatible

end NodeRegistry

end NoPanic
