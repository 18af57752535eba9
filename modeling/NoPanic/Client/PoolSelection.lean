/-
# What a selection picks

`select_circuit` is to give the least loaded of the circuits that are ready. It looks at them one
after the other, each under its own lock, and keeps the lock of the pool meanwhile. So no circuit
joins or leaves the pool until it has picked one, but readers go on closing circuits and handlers
go on opening and ending streams: what it has seen of the first circuit may be over when it looks
at the last.

What is left is a promise about moments of the selection. The circuit it picks was ready at one of
them, and every circuit of the pool was at another not ready, or had as many streams at least.
When it builds a circuit instead, every circuit was not ready at some moment.
-/

import NoPanic.Client.Pool

namespace NoPanic

open NoPanic.Math

namespace PoolState

/-- A circuit is ready, and has this many streams. -/
def ReadyAt (k count : Nat) (s : PoolState) : Prop :=
  ∃ t, s.heap[k]? = some t ∧ t.circuit.state = .ready ∧ t.circuit.activeStreamCount = count

/-- A circuit is not ready, or it has as many streams at least as the best one. -/
def NoBetterAt (k : Nat) (best : Option (CircuitId × Nat)) (s : PoolState) : Prop :=
  ∃ t, s.heap[k]? = some t ∧ (t.circuit.state = .ready →
    ∃ id count, best = some (id, count) ∧ count ≤ t.circuit.activeStreamCount)

/-! ## Looking at one circuit -/

/-- The best after one more look is the one before, or the circuit looked at. -/
theorem consider_cases (best : Option (CircuitId × Nat)) (id : CircuitId) (t : CircuitTask) :
    consider best id t = best ∨
      t.circuit.state = .ready ∧ consider best id t = some (id, t.circuit.activeStreamCount) := by
  rw [consider]
  split
  next hready =>
    cases best with
    | none => exact Or.inr ⟨hready, rfl⟩
    | some before =>
        by_cases hless : t.circuit.activeStreamCount < before.2
        · exact Or.inr ⟨hready, if_pos hless⟩
        · exact Or.inl (if_neg hless)
  next => exact Or.inl rfl

/-- No look makes the best worse. -/
theorem consider_le {best : Option (CircuitId × Nat)} {bestId : CircuitId} {bestCount : Nat}
    (hbest : best = some (bestId, bestCount)) (id : CircuitId) (t : CircuitTask) :
    ∃ id' count, consider best id t = some (id', count) ∧ count ≤ bestCount := by
  subst hbest
  rw [consider]
  split
  · by_cases hless : t.circuit.activeStreamCount < bestCount
    · exact ⟨id, _, if_pos hless, hless.le⟩
    · exact ⟨bestId, bestCount, if_neg hless, le_rfl⟩
  · exact ⟨bestId, bestCount, rfl, le_rfl⟩

/-- After a look at a circuit that is ready, the best has no more streams than it. -/
theorem consider_ready {t : CircuitTask} (hready : t.circuit.state = .ready)
    (best : Option (CircuitId × Nat)) (id : CircuitId) :
    ∃ id' count, consider best id t = some (id', count) ∧
      count ≤ t.circuit.activeStreamCount := by
  rw [consider, if_pos hready]
  cases best with
  | none => exact ⟨id, _, rfl, le_rfl⟩
  | some before =>
      by_cases hless : t.circuit.activeStreamCount < before.2
      · exact ⟨id, _, if_pos hless, le_rfl⟩
      · exact ⟨before.1, before.2, if_neg hless, Nat.not_lt.mp hless⟩

/-- A circuit that was no better than the best is no better after one more look. -/
theorem NoBetterAt.consider {k : Nat} {best : Option (CircuitId × Nat)} {s : PoolState}
    (h : NoBetterAt k best s) (id : CircuitId) (t : CircuitTask) :
    NoBetterAt k (consider best id t) s := by
  obtain ⟨seen, hseen, hbetter⟩ := h
  refine ⟨seen, hseen, fun hready => ?_⟩
  obtain ⟨bestId, bestCount, hbest, hle⟩ := hbetter hready
  obtain ⟨id', count, hafter, hless⟩ := consider_le hbest id t
  exact ⟨id', count, hafter, hless.trans hle⟩

/-! ## A selection under way -/

section

variable [Primitives]

/-- While a handler selects. -/
def Selects (h : Nat) (s : PoolState) (_ : PoolEvent) : Prop :=
  ∃ todo best, s.lock = some (.selecting h todo best)

/-- The steps of everybody while a handler selects. -/
def selection (h : Nat) : TransitionSystem PoolState PoolEvent := system.restrict (Selects h)

variable {s₀ s₁ s s' : PoolState} {h : Nat} {e : PoolEvent} {es : List PoolEvent}
  {todo : List (CircuitId × Nat)} {best : Option (CircuitId × Nat)}

/-- What a step does to a selection: nothing, and then it is not the handler's own, or one more
circuit has been looked at, or the selection has ended. -/
theorem selects_step (hlock : s.lock = some (.selecting h todo best))
    (hholding : s.handlers h = .holding) (hstep : Step s e s') :
    (s'.pool.circuits = s.pool.circuits ∧ s'.handlers h = .holding ∧
      (s'.lock = s.lock ∧ e ≠ .works (some h) ∨
        ∃ id k rest t, todo = (id, k) :: rest ∧ s.heap[k]? = some t ∧ s'.heap = s.heap ∧
          s'.lock = some (.selecting h rest (consider best id t)))) ∨
    (∃ id count, todo = [] ∧ best = some (id, count) ∧ s' = s.pick h id) ∨
    (todo = [] ∧ best = none ∧ s' = s.startBuild (.select h)) := by
  have hdiffers : ∀ {other : Nat} {phase : HandlerPhase}, s.handlers other = phase →
      phase ≠ .holding → h ≠ other := by
    rintro other phase hphase hne rfl
    exact hne (hphase.symm.trans hholding)
  have hnotOwn : ∀ {other : Nat}, h ≠ other →
      PoolEvent.works (some other) ≠ .works (some h) := by
    intro other hne heq
    cases heq
    exact hne rfl
  cases hstep with
  | reads => exact Or.inl ⟨rfl, hholding, Or.inl ⟨rfl, by simp⟩⟩
  | wakes now hmonitor hfree => cases hlock.symm.trans hfree
  | expires hheld => cases hlock.symm.trans hheld
  | expired hheld => cases hlock.symm.trans hheld
  | rebuilds hmonitor hfree => cases hlock.symm.trans hfree
  | findsDirty hmonitor hfree => cases hlock.symm.trans hfree
  | looksDirty hheld => cases hlock.symm.trans hheld
  | counts hheld => cases hlock.symm.trans hheld
  | foundDirty hheld => cases hlock.symm.trans hheld
  | cleans hmonitor hfree => cases hlock.symm.trans hfree
  | findsClosed hmonitor hfree => cases hlock.symm.trans hfree
  | looksClosed hheld => cases hlock.symm.trans hheld
  | foundClosed hheld => cases hlock.symm.trans hheld
  | checks hmonitor hfree => cases hlock.symm.trans hfree
  | backsOff hmonitor hfree => cases hlock.symm.trans hfree
  | retries hmonitor hfree => cases hlock.symm.trans hfree
  | rests hmonitor hfree => cases hlock.symm.trans hfree
  | selects hhandler hfree => cases hlock.symm.trans hfree
  | looksReady hheld htask =>
      cases hlock.symm.trans hheld
      exact Or.inl ⟨rfl, hholding, Or.inr ⟨_, _, _, _, rfl, htask, rfl, rfl⟩⟩
  | picks hheld =>
      cases hlock.symm.trans hheld
      exact Or.inr (Or.inl ⟨_, _, rfl, rfl, rfl⟩)
  | finds hheld =>
      cases hlock.symm.trans hheld
      exact Or.inr (Or.inr ⟨rfl, rfl, rfl⟩)
  | registers hhandler =>
      have hne := hdiffers hhandler (by simp)
      exact Or.inl ⟨rfl, (Function.update_of_ne hne ..).trans hholding,
        Or.inl ⟨rfl, hnotOwn hne⟩⟩
  | sends => exact Or.inl ⟨rfl, hholding, Or.inl ⟨rfl, by simp⟩⟩
  | cleansUp ok hhandler =>
      have hne := hdiffers hhandler (by simp)
      exact Or.inl ⟨rfl, (Function.update_of_ne hne ..).trans hholding,
        Or.inl ⟨rfl, hnotOwn hne⟩⟩
  | breaks hhandler =>
      have hne := hdiffers hhandler (by simp)
      exact Or.inl ⟨rfl, (Function.update_of_ne hne ..).trans hholding,
        Or.inl ⟨rfl, hnotOwn hne⟩⟩
  | inspects hhandler =>
      have hne := hdiffers hhandler (by simp)
      exact Or.inl ⟨rfl, (Function.update_of_ne hne ..).trans hholding,
        Or.inl ⟨rfl, hnotOwn hne⟩⟩
  | replaces hhandler hfree => cases hlock.symm.trans hfree
  | builds onionKeys now hheld => cases hlock.symm.trans hheld
  | fails hheld => cases hlock.symm.trans hheld

/-- What a selection has seen so far, since it has begun at `s₁` on the circuits of `s₀`. -/
structure Seen (h : Nat) (s₀ s₁ s : PoolState) (es : List PoolEvent)
    (todo : List (CircuitId × Nat)) (best : Option (CircuitId × Nat)) : Prop where
  circuits : s.pool.circuits = s₀.pool.circuits
  holding : s.handlers h = .holding
  listed : ∀ id k, (id, k) ∈ todo → s₀.pool.circuits.lookup id = some k
  /-- The best was ready when it was looked at. -/
  found : ∀ id count, best = some (id, count) → ∃ k, s₀.pool.circuits.lookup id = some k ∧
    (selection h).Passes (ReadyAt k count) s₁ es s
  /-- A circuit is still to be looked at, or it was no better than the best when it was. -/
  passed : ∀ id k, s₀.pool.circuits.lookup id = some k →
    (id, k) ∈ todo ∨ (selection h).Passes (NoBetterAt k best) s₁ es s

/-- A selection that begins has looked at nothing. -/
theorem seen_of_selects (hfree : s₀.lock = none) (harriving : s₀.handlers h = .arriving)
    (hselects : Step s₀ (.works (some h)) s₁) (hlock : s₁.lock = some (.selecting h todo best)) :
    Seen h s₀ s₁ s₁ [] todo best := by
  cases hselects with
  | selects hhandler hfree' htodo =>
      cases hlock
      refine ⟨rfl, Function.update_self .., ?_, ?_, ?_⟩
      · intro id k hmem
        exact HashMap.mem_pairs.mp (htodo.mem_iff.mp hmem)
      · intro id count hnone
        cases hnone
      · intro id k hlookup
        exact Or.inl (htodo.mem_iff.mpr (HashMap.mem_pairs.mpr hlookup))
  | looksReady hheld => cases hfree.symm.trans hheld
  | picks hheld => cases hfree.symm.trans hheld
  | finds hheld => cases hfree.symm.trans hheld
  | registers hhandler => cases harriving.symm.trans hhandler
  | cleansUp ok hhandler => cases harriving.symm.trans hhandler
  | breaks hhandler => cases harriving.symm.trans hhandler
  | inspects hhandler => cases harriving.symm.trans hhandler

/-- One step of a selection. -/
theorem Seen.step (hseen : Seen h s₀ s₁ s es todo best) (hrun : (selection h).Run s₁ es s)
    (hlock : s.lock = some (.selecting h todo best)) (hstep : Step s e s')
    {todo' : List (CircuitId × Nat)} {best' : Option (CircuitId × Nat)}
    (hlock' : s'.lock = some (.selecting h todo' best')) :
    Seen h s₀ s₁ s' (es ++ [e]) todo' best' := by
  have hlast : (selection h).step s e s' := ⟨⟨todo, best, hlock⟩, hstep⟩
  rcases selects_step hlock hseen.holding hstep with
    ⟨hcircuits, hholding, ⟨hsame, -⟩ | ⟨id, k, rest, t, rfl, htask, hheap, hgoes⟩⟩ |
    ⟨id, count, -, -, rfl⟩ | ⟨-, -, rfl⟩
  · cases (hsame.symm.trans hlock').symm.trans hlock
    refine ⟨hcircuits.trans hseen.circuits, hholding, hseen.listed, ?_, ?_⟩
    · intro id count hbest
      obtain ⟨k, hlookup, hpasses⟩ := hseen.found id count hbest
      exact ⟨k, hlookup, hpasses.snoc hlast⟩
    · intro id k hlookup
      exact (hseen.passed id k hlookup).imp_right fun hpasses => hpasses.snoc hlast
  · cases hgoes.symm.trans hlock'
    have htask' : s'.heap[k]? = some t := hheap ▸ htask
    have hrun' := hrun.snoc hlast
    refine ⟨hcircuits.trans hseen.circuits, hholding,
      fun id' k' hmem => hseen.listed id' k' (List.mem_cons_of_mem _ hmem), ?_, ?_⟩
    · intro id' count hbest
      rcases consider_cases best id t with hkept | ⟨hready, hnew⟩
      · obtain ⟨k', hlookup, hpasses⟩ := hseen.found id' count (hkept.symm.trans hbest)
        exact ⟨k', hlookup, hpasses.snoc hlast⟩
      · cases hnew.symm.trans hbest
        exact ⟨k, hseen.listed id k List.mem_cons_self,
          hrun'.passes_last ⟨t, htask', hready, rfl⟩⟩
    · intro id' k' hlookup
      rcases hseen.passed id' k' hlookup with hmem | hpasses
      · rcases List.mem_cons.mp hmem with heq | hrest
        · cases heq
          refine Or.inr (hrun'.passes_last ⟨t, htask', fun hready => ?_⟩)
          exact consider_ready hready best id
        · exact Or.inl hrest
      · exact Or.inr ((hpasses.mono fun _ hno => hno.consider id t).snoc hlast)
  · rcases s.pick_cases h id with heq | ⟨k, -, heq⟩
    · rw [heq] at hlock'
      cases hlock'
    · rw [heq] at hlock'
      cases hlock'
  · cases hlock'

/-- A handler selects a circuit, and meanwhile circuits close and streams begin and end. If it
picks one, then that is in the pool, and was ready at some moment of the selection; and at some
moment every circuit of the pool was not ready, or had as many streams at least. If it builds one
instead, then every circuit of the pool was not ready at some moment. -/
theorem selects_least_loaded (hfree : s₀.lock = none) (harriving : s₀.handlers h = .arriving)
    (hselects : Step s₀ (.works (some h)) s₁) (hrun : (selection h).Run s₁ es s)
    (hlock : s.lock = some (.selecting h [] best)) (hends : Step s (.works (some h)) s') :
    (∃ id k count, s₀.pool.circuits.lookup id = some k ∧ s'.lock = none ∧
      s'.handlers h = .picked k ∧ (selection h).Passes (ReadyAt k count) s₁ es s ∧
      ∀ id' k', s₀.pool.circuits.lookup id' = some k' →
        (selection h).Passes (NoBetterAt k' (some (id, count))) s₁ es s) ∨
    (∃ id, s'.lock = some (.building (.select h) id)) ∧
      ∀ id' k', s₀.pool.circuits.lookup id' = some k' →
        (selection h).Passes (NoBetterAt k' none) s₁ es s := by
  have hseen : Seen h s₀ s₁ s es [] best := by
    refine hrun.invariant_history (fun u es => ∀ todo best,
      u.lock = some (.selecting h todo best) → Seen h s₀ s₁ u es todo best) ?_ ?_ [] best hlock
    · intro todo best hlock
      exact seen_of_selects hfree harriving hselects hlock
    · intro u es e v hrun hinv hstep todo' best' hlock'
      obtain ⟨⟨todo, best, hheld⟩, hstep⟩ := hstep
      exact (hinv todo best hheld).step hrun hheld hstep hlock'
  have hpassed : ∀ id k, s₀.pool.circuits.lookup id = some k →
      (selection h).Passes (NoBetterAt k best) s₁ es s := by
    intro id k hlookup
    rcases hseen.passed id k hlookup with hmem | hpasses
    · cases hmem
    · exact hpasses
  rcases selects_step hlock hseen.holding hends with
    ⟨-, -, ⟨-, hnot⟩ | ⟨id, k, rest, t, hnil, -⟩⟩ | ⟨id, count, -, rfl, rfl⟩ | ⟨-, rfl, rfl⟩
  · exact absurd rfl hnot
  · cases hnil
  · obtain ⟨k, hlookup, hready⟩ := hseen.found id count rfl
    have hpick : s.pick h id = { s with lock := none }.setHandler h (.picked k) := by
      rw [pick, hseen.circuits, hlookup]
    rw [hpick]
    exact Or.inl ⟨id, k, count, hlookup, rfl, Function.update_self .., hready, hpassed⟩
  · exact Or.inr ⟨⟨_, rfl⟩, hpassed⟩

end

section

open Reference

/-- A circuit of a pool of two, without streams. -/
def unused (id : CircuitId) : CircuitTask :=
  CircuitTask.spawn (Circuit.built id (OnionKeys.new [] []))

/-- A pool of two circuits. The first has a stream, and another handler has picked it. -/
def twoLoads : PoolState :=
  let s := initialized (CircuitPool.new 2 3) [(OnionKeys.new [] [], 0), (OnionKeys.new [] [], 0)]
  (s.setTask 0 (unused 1).openStream).setHandler 1 (.picked 0)

/-- A handler selects from it. -/
def selectingFrom (s : PoolState) (todo : List (CircuitId × Nat))
    (best : Option (CircuitId × Nat)) : PoolState :=
  { s.setHandler 0 .holding with lock := some (.selecting 0 todo best) }

/-- After it has looked at the first circuit, the other handler opens one more stream there. It
picks the second circuit, which was ready, and neither had fewer streams when it looked. -/
theorem selects_least_loaded_twoLoads :
    ∃ s s' : PoolState, s'.handlers 0 = .picked 1 ∧ s'.lock = none ∧ ∃ id count,
      twoLoads.pool.circuits.lookup id = some 1 ∧
      (selection 0).Passes (ReadyAt 1 count) (selectingFrom twoLoads [(1, 0), (2, 1)] none)
        [.works (some 0), .works (some 1), .works (some 0)] s ∧
      ∀ id' k', twoLoads.pool.circuits.lookup id' = some k' →
        (selection 0).Passes (NoBetterAt k' (some (id, count)))
          (selectingFrom twoLoads [(1, 0), (2, 1)] none)
          [.works (some 0), .works (some 1), .works (some 0)] s := by
  let busy := (unused 1).openStream
  let looked := selectingFrom twoLoads [(2, 1)] (some (1, 1))
  let opened := (looked.setTask 0 busy.openStream).setHandler 1 (.streaming 0 2)
  let chosen : PoolState := { opened with lock := some (.selecting 0 [] (some (2, 0))) }
  have hselects : Step twoLoads (.works (some 0))
      (selectingFrom twoLoads [(1, 0), (2, 1)] none) := .selects rfl rfl (.swap _ _ _)
  have hfirst : Step (selectingFrom twoLoads [(1, 0), (2, 1)] none) (.works (some 0)) looked :=
    Step.looksReady (s := selectingFrom twoLoads [(1, 0), (2, 1)] none) (t := busy) rfl rfl
  have hopens : Step looked (.works (some 1)) opened := Step.registers (t := busy) rfl rfl
  have hsecond : Step opened (.works (some 0)) chosen :=
    Step.looksReady (s := opened) (t := unused 2) rfl rfl
  have hpicks : Step chosen (.works (some 0)) (chosen.pick 0 2) := .picks rfl
  have hrun := (((TransitionSystem.Run.nil (T := selection 0)
    (selectingFrom twoLoads [(1, 0), (2, 1)] none)).snoc ⟨⟨_, _, rfl⟩, hfirst⟩).snoc
    ⟨⟨_, _, rfl⟩, hopens⟩).snoc ⟨⟨_, _, rfl⟩, hsecond⟩
  refine ⟨chosen, chosen.pick 0 2, rfl, rfl, ?_⟩
  rcases selects_least_loaded rfl rfl hselects hrun rfl hpicks with
    ⟨id, k, count, hlookup, -, hpicked, hready, hbest⟩ | ⟨⟨id, hbuilding⟩, -⟩
  · cases hpicked
    exact ⟨id, count, hlookup, hready, hbest⟩
  · cases hbuilding

end

end PoolState

end NoPanic
