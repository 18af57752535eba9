/-
# Expiring the circuits that are too old

A call of `expire_aged_circuits` first lists the ids whose age record is old enough, in the
order in which an iteration over the ages meets them. It then looks every listed circuit up
and, when the circuit is ready, makes it dirty and removes its age. The ages and the circuits
are two maps, and neither need have the keys of the other.

The circuits of a pool are its own: no two ids stand for one circuit. Under this condition,
which every reachable state meets, the call comes to the same whatever the order. It expires
exactly the circuits that are ready and too old, and a second call finds none.
-/

import NoPanic.Client.PoolMaps

namespace NoPanic

open NoPanic.Math

/-- The circuit no longer takes new streams. -/
def CircuitTask.soil (t : CircuitTask) : CircuitTask :=
  { t with circuit := { t.circuit with state := .dirty } }

/-- The ids that are too old are those of some of the age records. -/
theorem CircuitPool.agedIds_eq (pool : CircuitPool) (now : Nat) :
    pool.agedIds now = (pool.circuitAges.pairs.filter fun record =>
      decide (pool.maxCircuitAge ≤ now - record.2)).map Prod.fst := by
  rw [CircuitPool.agedIds]
  induction pool.circuitAges.pairs with
  | nil => rfl
  | cons record records ih =>
      rw [List.filterMap_cons, List.filter_cons, ih]
      by_cases hold : pool.maxCircuitAge ≤ now - record.2 <;> simp [hold]

/-- An id is listed when its age record is old enough. -/
theorem CircuitPool.mem_agedIds {pool : CircuitPool} {now : Nat} {id : CircuitId} :
    id ∈ pool.agedIds now ↔
      ∃ created, pool.circuitAges.lookup id = some created ∧
        pool.maxCircuitAge ≤ now - created := by
  simp [CircuitPool.agedIds_eq, ← HashMap.mem_pairs]

/-- No id is listed twice. -/
theorem CircuitPool.nodup_agedIds (pool : CircuitPool) (now : Nat) :
    (pool.agedIds now).Nodup := by
  rw [CircuitPool.agedIds_eq]
  exact (HashMap.nodup_pairs_fst pool.circuitAges).sublist (List.filter_sublist.map Prod.fst)

namespace PoolState

/-- One round of the second loop: expire the circuit if the pool holds it and it is ready. -/
def expireRound (found : PoolState × List CircuitId) (id : CircuitId) :
    PoolState × List CircuitId :=
  let (s, agedOut) := found
  match s.pool.circuits.lookup id with
  | none => (s, agedOut)
  | some k =>
      match s.heap[k]? with
      | none => (s, agedOut)
      | some t =>
          if t.circuit.state = .ready then
            ({ s.setTask k t.soil with pool := s.pool.forgetAge id }, agedOut ++ [id])
          else (s, agedOut)

/-- `expire_aged_circuits`, with the ids that are too old in the order in which the iteration
has met them. -/
def expireAgedCircuits (s : PoolState) (toExpire : List CircuitId) :
    PoolState × List CircuitId :=
  toExpire.foldl expireRound (s, [])

/-- The pool holds the circuit, and it is ready. -/
def isReady (s : PoolState) (id : CircuitId) : Bool :=
  (s.task? id).any fun t => t.circuit.state = .ready

/-- The circuit is ready and too old. -/
def TooOld (s : PoolState) (now : Nat) (id : CircuitId) : Prop :=
  s.isReady id = true ∧ ∃ created, s.pool.circuitAges.lookup id = some created ∧
    s.pool.maxCircuitAge ≤ now - created

/-- These circuits have become dirty and have lost their age, and nothing else has
changed. -/
structure Expired (s s' : PoolState) (ids : List CircuitId) : Prop where
  rest : s' = { s with
    pool := { s.pool with circuitAges := s'.pool.circuitAges }
    heap := s'.heap }
  ages : ∀ id, s'.pool.circuitAges.lookup id =
    if id ∈ ids then none else s.pool.circuitAges.lookup id
  heap : ∀ k : Nat, s'.heap[k]? =
    if ∃ id ∈ ids, s.pool.circuits.lookup id = some k then s.heap[k]?.map CircuitTask.soil
    else s.heap[k]?

section

variable {s s' : PoolState} {ids : List CircuitId} {id : CircuitId} {now : Nat}

/-- Nothing has expired yet. -/
theorem Expired.refl (s : PoolState) : s.Expired s [] := by
  refine ⟨rfl, ?_, ?_⟩
  · intro id
    rw [if_neg List.not_mem_nil]
  · intro k
    rw [if_neg]
    rintro ⟨id, hmem, -⟩
    cases hmem

/-- An expiry leaves the circuits of the pool where they are. -/
theorem Expired.circuits (h : s.Expired s' ids) : s'.pool.circuits = s.pool.circuits := by
  rw [h.rest]

/-- A circuit that has expired is dirty, and every other circuit is as it was. -/
theorem Expired.task (h : s.Expired s' ids) (hown : s.Owns) (id : CircuitId) :
    s'.task? id = if id ∈ ids then (s.task? id).map CircuitTask.soil else s.task? id := by
  rw [task?, h.circuits, task?]
  cases hlookup : s.pool.circuits.lookup id with
  | none => simp
  | some k =>
      rw [Option.bind_some, Option.bind_some, h.heap]
      have hsame : (∃ other ∈ ids, s.pool.circuits.lookup other = some k) ↔ id ∈ ids := by
        constructor
        · rintro ⟨other, hmem, hother⟩
          rwa [hown.own id other k hlookup hother]
        · exact fun hmem => ⟨id, hmem, hlookup⟩
      by_cases hmem : id ∈ ids
      · rw [if_pos hmem, if_pos (hsame.mpr hmem)]
      · rw [if_neg hmem, if_neg (hsame.not.mpr hmem)]

/-- What has expired is no longer ready. -/
theorem Expired.isReady_of_mem (h : s.Expired s' ids) (hown : s.Owns) (hmem : id ∈ ids) :
    s'.isReady id = false := by
  rw [isReady, h.task hown, if_pos hmem]
  cases s.task? id <;> rfl

/-- Whether anything else is ready has not changed. -/
theorem Expired.isReady_of_notMem (h : s.Expired s' ids) (hown : s.Owns) (hnot : id ∉ ids) :
    s'.isReady id = s.isReady id := by
  rw [isReady, h.task hown, if_neg hnot, isReady]

/-- One circuit has expired after others. -/
theorem Expired.snoc (h : s.Expired s' ids) {k : Nat} {t : CircuitTask} (hown : s.Owns)
    (hlookup : s.pool.circuits.lookup id = some k) (htask : s'.heap[k]? = some t)
    (hnot : id ∉ ids) :
    s.Expired { s'.setTask k t.soil with pool := s'.pool.forgetAge id } (ids ++ [id]) := by
  refine ⟨?_, ?_, ?_⟩
  · rw [h.rest]
    rfl
  · intro other
    dsimp only [CircuitPool.forgetAge]
    rw [HashMap.lookup_erase_eq, h.ages]
    by_cases heq : other = id
    · simp [heq]
    · simp [heq]
  · intro j
    have hat : s.heap[k]? = some t := by
      rw [h.heap, if_neg] at htask
      · exact htask
      · rintro ⟨other, hmem, hother⟩
        exact hnot (hown.own id other k hlookup hother ▸ hmem)
    dsimp only [PoolState.setTask]
    rw [List.getElem?_set]
    by_cases heq : k = j
    · subst heq
      have hlt := (List.getElem?_eq_some_iff.mp htask).1
      have hexpired : ∃ other ∈ ids ++ [id], s.pool.circuits.lookup other = some k :=
        ⟨id, by simp, hlookup⟩
      rw [if_pos rfl, if_pos hlt, if_pos hexpired, hat, Option.map_some]
    · have hsame : (∃ other ∈ ids ++ [id], s.pool.circuits.lookup other = some j) ↔
          ∃ other ∈ ids, s.pool.circuits.lookup other = some j := by
        simp [hlookup, heq]
      rw [if_neg heq, h.heap]
      simp only [hsame]

/-- A round for a circuit that is ready. -/
theorem expireRound_of_isReady (agedOut : List CircuitId) (hready : s.isReady id = true) :
    ∃ k t, s.pool.circuits.lookup id = some k ∧ s.heap[k]? = some t ∧
      expireRound (s, agedOut) id =
        ({ s.setTask k t.soil with pool := s.pool.forgetAge id }, agedOut ++ [id]) := by
  rw [isReady, task?, Option.any_bind] at hready
  cases hlookup : s.pool.circuits.lookup id with
  | none => simp [hlookup] at hready
  | some k =>
      cases htask : s.heap[k]? with
      | none => simp [hlookup, htask] at hready
      | some t =>
          have hstate : t.circuit.state = .ready := by simpa [hlookup, htask] using hready
          exact ⟨k, t, rfl, htask, by simp [expireRound, hlookup, htask, hstate]⟩

/-- A round for any other id. -/
theorem expireRound_of_not_isReady (agedOut : List CircuitId) (hnot : s.isReady id = false) :
    expireRound (s, agedOut) id = (s, agedOut) := by
  rw [isReady, task?] at hnot
  cases hlookup : s.pool.circuits.lookup id with
  | none => simp [expireRound, hlookup]
  | some k =>
      cases htask : s.heap[k]? with
      | none => simp [expireRound, hlookup, htask]
      | some t =>
          have hstate : t.circuit.state ≠ .ready := by simpa [hlookup, htask] using hnot
          simp [expireRound, hlookup, htask, hstate]

/-- The second loop, once the circuits in `ids` have expired: of the ids that are left,
those whose circuit is ready expire. -/
theorem Expired.foldl_expireRound (h : s.Expired s' ids) (hown : s.Owns)
    {toExpire : List CircuitId} (hnodup : (ids ++ toExpire).Nodup) :
    (toExpire.foldl expireRound (s', ids)).2 = ids ++ toExpire.filter s.isReady ∧
      s.Expired (toExpire.foldl expireRound (s', ids)).1 (ids ++ toExpire.filter s.isReady) := by
  induction toExpire generalizing s' ids with
  | nil => exact ⟨by simp, by simpa using h⟩
  | cons id toExpire ih =>
      have hrest : (ids ++ [id] ++ toExpire).Nodup := by simpa using hnodup
      have hnot : id ∉ ids := by
        intro hmem
        have hdisjoint := (List.nodup_append.mp hnodup).2.2
        exact hdisjoint id hmem id (List.mem_cons_self ..) rfl
      have hsame := h.isReady_of_notMem hown hnot
      rw [List.foldl_cons, List.filter_cons]
      cases hready : s.isReady id with
      | true =>
          rw [hready] at hsame
          obtain ⟨k, t, hlookup, htask, hround⟩ := expireRound_of_isReady ids hsame
          rw [h.circuits] at hlookup
          have hnext := ih (h.snoc hown hlookup htask hnot) hrest
          rw [hround, if_pos rfl, List.append_cons ids id (toExpire.filter s.isReady)]
          exact hnext
      | false =>
          rw [hready] at hsame
          have hfewer : (ids ++ toExpire).Nodup :=
            hnodup.sublist ((List.sublist_cons_self id toExpire).append_left ids)
          rw [expireRound_of_not_isReady ids hsame]
          exact ih h hfewer

/-- A round leaves every circuit in its place. -/
theorem Owns.expireRound (hown : s.Owns) (agedOut : List CircuitId) (id : CircuitId) :
    (expireRound (s, agedOut) id).1.Owns := by
  cases hready : s.isReady id with
  | true =>
      obtain ⟨k, t, -, -, hround⟩ := expireRound_of_isReady agedOut hready
      rw [hround]
      refine ⟨?_, hown.own⟩
      intro other j hlookup
      exact (hown.onHeap other j hlookup).trans_eq (s.length_setTask k t.soil).symm
  | false => rwa [expireRound_of_not_isReady agedOut hready]

/-- Rounds for circuits none of which is ready. -/
theorem foldl_expireRound_of_none {toExpire : List CircuitId}
    (hnone : ∀ id ∈ toExpire, s.isReady id = false) (agedOut : List CircuitId) :
    toExpire.foldl expireRound (s, agedOut) = (s, agedOut) := by
  induction toExpire with
  | nil => rfl
  | cons id toExpire ih =>
      rw [List.foldl_cons, expireRound_of_not_isReady agedOut (hnone id (List.mem_cons_self ..))]
      exact ih fun other hmem => hnone other (List.mem_cons_of_mem id hmem)

/-- Whatever the order of the iteration, a call returns without repetition the circuits that
are ready and too old. These have become dirty and lost their age, and nothing else has
changed. Another call at the same time returns nothing and changes nothing. -/
theorem expireAgedCircuits_exact (hown : s.Owns) {toExpire agedOut : List CircuitId}
    {after : PoolState} (horder : toExpire.Perm (s.pool.agedIds now))
    (hcall : s.expireAgedCircuits toExpire = (after, agedOut)) :
    agedOut.Nodup ∧ (∀ id, id ∈ agedOut ↔ s.TooOld now id) ∧ s.Expired after agedOut ∧
      (∀ id, after.task? id =
        if id ∈ agedOut then (s.task? id).map CircuitTask.soil else s.task? id) ∧
      ∀ again : List CircuitId, again.Perm (after.pool.agedIds now) →
        after.expireAgedCircuits again = (after, []) := by
  have hnodup : toExpire.Nodup := horder.nodup_iff.mpr (s.pool.nodup_agedIds now)
  obtain ⟨hlist, hexpired⟩ := (Expired.refl s).foldl_expireRound hown (by simpa using hnodup)
  rw [expireAgedCircuits] at hcall
  rw [hcall, List.nil_append] at hlist hexpired
  dsimp only at hlist hexpired
  rw [← hlist] at hexpired
  have hmem : ∀ id, id ∈ agedOut ↔ s.TooOld now id := by
    intro id
    rw [hlist, List.mem_filter, horder.mem_iff, CircuitPool.mem_agedIds, TooOld, and_comm]
  refine ⟨hlist ▸ hnodup.filter _, hmem, hexpired, fun id => hexpired.task hown id, ?_⟩
  intro again hagain
  apply foldl_expireRound_of_none
  intro id hid
  by_cases hin : id ∈ agedOut
  · exact hexpired.isReady_of_mem hown hin
  · -- its record is as old as it was, so it has not been ready
    obtain ⟨created, hlookup, hold⟩ := CircuitPool.mem_agedIds.mp (hagain.mem_iff.mp hid)
    rw [hexpired.ages, if_neg hin] at hlookup
    have hmax : after.pool.maxCircuitAge = s.pool.maxCircuitAge := by rw [hexpired.rest]
    rw [hmax] at hold
    rw [hexpired.isReady_of_notMem hown hin, ← Bool.not_eq_true]
    intro hready
    exact hin ((hmem id).mpr ⟨hready, created, hlookup, hold⟩)

/-- Ten minutes after it was built, the one circuit of a pool expires. -/
theorem expireAgedCircuits_exact_onePool :
    ∃ after, onePool.expireAgedCircuits [1] = (after, [1]) ∧ onePool.Expired after [1] ∧
      after.expireAgedCircuits [] = (after, []) := by
  have howns := (owns_agesHeld_of_started onePool_started).1
  have hcall : onePool.expireAgedCircuits [1] = ((onePool.expireAgedCircuits [1]).1, [1]) := rfl
  have haged : onePool.pool.agedIds (600 * 10 ^ 9) = [1] := by decide
  have hexact := expireAgedCircuits_exact howns (List.Perm.of_eq haged.symm) hcall
  have hnone : (onePool.expireAgedCircuits [1]).1.pool.agedIds (600 * 10 ^ 9) = [] := rfl
  exact ⟨_, hcall, hexact.2.2.1, hexact.2.2.2.2 [] (List.Perm.of_eq hnone.symm)⟩

end

/-! ## The monitor's call -/

section

variable {s : PoolState}

/-- A scope of the monitor, which holds the lock, is a round of the call. -/
theorem expireNext_eq_expireRound (hown : s.Owns) (id : CircuitId)
    (todo agedOut : List CircuitId) :
    { s with lock := some (.expiring (id :: todo) agedOut) }.expireNext id todo agedOut =
      { (expireRound (s, agedOut) id).1 with
        lock := some (.expiring todo (expireRound (s, agedOut) id).2) } := by
  cases hlookup : s.pool.circuits.lookup id with
  | none => simp [expireNext, expireRound, hlookup]
  | some k =>
      have hlt := hown.onHeap id k hlookup
      have htask : s.heap[k]? = some s.heap[k] := List.getElem?_eq_getElem hlt
      by_cases hready : s.heap[k].circuit.state = .ready
      · have hsoil : s.heap[k].expire = s.heap[k].soil := if_pos hready
        simp [expireNext, expireRound, hlookup, htask, hready, hsoil, setTask]
      · simp [expireNext, expireRound, hlookup, htask, hready]

/-- A monitor that nobody disturbs makes the call. -/
theorem run_expireAgedCircuits [Primitives] (hown : s.Owns) (todo agedOut : List CircuitId) :
    ∃ es, system.Run { s with lock := some (.expiring todo agedOut) } es
      { (todo.foldl expireRound (s, agedOut)).1 with
        lock := some (.expiring [] (todo.foldl expireRound (s, agedOut)).2) } := by
  induction todo generalizing s agedOut with
  | nil => exact ⟨[], .nil _⟩
  | cons id todo ih =>
      have hstep : Step { s with lock := some (.expiring (id :: todo) agedOut) } (.works none)
          { (expireRound (s, agedOut) id).1 with
            lock := some (.expiring todo (expireRound (s, agedOut) id).2) } := by
        rw [← expireNext_eq_expireRound hown]
        exact .expires rfl
      obtain ⟨es, hrun⟩ := ih (hown.expireRound agedOut id) (expireRound (s, agedOut) id).2
      exact ⟨.works none :: es, hrun.cons hstep⟩

end

end PoolState

end NoPanic
