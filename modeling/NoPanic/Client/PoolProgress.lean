/-
# The pool's lock is given back

The monitor and the SOCKS handlers share the pool under one lock, which its holder keeps while it
scans the circuits and while it builds one. A circuit's own lock is taken for a single step at a
time. So the tasks wait for nothing but the pool's lock, and whoever holds that can go on and
comes closer to its end with every step: there is no deadlock.

`lock_step` says what a step does to the lock and to those who hold it, and who takes the step:
only its holder changes a lock that is held, and with every step of its own (`lock_released`).
From it follows that whoever says it holds the lock does, so nobody waits for a lock that nobody
gives back: `ends_and_rests` takes every handler to its end and the monitor back to sleep.
-/

import NoPanic.Client.PoolExpiry
import NoPanic.Client.PoolMaps

namespace NoPanic

open NoPanic.Math

/-- Who acts on the pool: the reader of a circuit, the monitor, or a handler. -/
inductive PoolActor
  | reader (k : Nat)
  | monitor
  | handler (h : Nat)
  deriving DecidableEq, Repr

/-- Whoever calls into the pool is a handler or the monitor. -/
def PoolActor.ofCaller : Option Nat → PoolActor
  | none => .monitor
  | some h => .handler h

/-- Whoever waits for a build. -/
def BuildPurpose.caller : BuildPurpose → Option Nat
  | .aged _ => none
  | .replace caller _ => caller
  | .select h => some h

/-- Whoever takes a step. -/
def PoolEvent.actor : PoolEvent → PoolActor
  | .reads k _ => .reader k
  | .sends h _ => .handler h
  | .wakes _ => .monitor
  | .replaces caller _ => .ofCaller caller
  | .builds purpose _ _ => .ofCaller purpose.caller
  | .fails purpose => .ofCaller purpose.caller
  | .works who => .ofCaller who

namespace PoolHold

/-- How many steps the holder of the lock has left at most. -/
def remaining : PoolHold → Nat
  | .expiring todo _ => todo.length + 1
  | .building _ _ => 1
  | .findingDirty todo _ => 2 * todo.length + 1
  | .counting _ _ todo _ => 2 * todo.length + 2
  | .findingClosed todo _ => todo.length + 1
  | .selecting _ todo _ => todo.length + 2

/-- The step that gives the lock back is left. -/
theorem remaining_pos (hold : PoolHold) : 0 < hold.remaining := by
  cases hold with
  | building => exact Nat.one_pos
  | _ => exact Nat.succ_pos _

/-- The handler that holds the lock, if it is not the monitor. -/
def handler? : PoolHold → Option Nat
  | .building (.replace caller _) _ => caller
  | .building (.select h) _ => some h
  | .selecting h _ _ => some h
  | _ => none

/-- The one who holds the lock. -/
def holder (hold : PoolHold) : PoolActor := .ofCaller hold.handler?

/-- No reader holds the lock. -/
theorem holder_ne_reader (hold : PoolHold) (k : Nat) : hold.holder ≠ .reader k := by
  rw [holder]
  cases hold.handler? with
  | none => simp [PoolActor.ofCaller]
  | some h => simp [PoolActor.ofCaller]

/-- The handler that holds the lock. -/
theorem handler?_of_holder {hold : PoolHold} {h : Nat} (hholder : hold.holder = .handler h) :
    hold.handler? = some h := by
  rw [holder] at hholder
  cases hhandler : hold.handler? with
  | none =>
      rw [hhandler] at hholder
      cases hholder
  | some other =>
      rw [hhandler] at hholder
      cases hholder
      rfl

/-- The places on the heap that the holder is still to look at. -/
def places : PoolHold → List Nat
  | .findingDirty todo _ => todo.map Prod.snd
  | .counting _ k todo _ => k :: todo.map Prod.snd
  | .findingClosed todo _ => todo.map Prod.snd
  | .selecting _ todo _ => todo.map Prod.snd
  | _ => []

/-- Where the monitor stands when the lock has been given back. -/
def Leads (phase : MonitorPhase) : PoolHold → MonitorPhase → Prop
  | .expiring _ _, after => ∃ left, after = .rebuilding left
  | .building (.aged left) _, after => after = .rebuilding left
  | .findingDirty _ _, after => ∃ ids, after = .cleaning ids
  | .counting _ _ _ _, after => ∃ ids, after = .cleaning ids
  | .findingClosed _ _, after => ∃ ids, after = .retrying ids
  | _, after => after = phase

/-- Where the handler that holds the lock stands when it has been given back. -/
def LeadsHandler : PoolHold → HandlerPhase → Prop
  | .selecting _ _ _, after => after = .done ∨ ∃ k, after = .picked k
  | _, after => after = .done

end PoolHold

/-- The place on the heap that a handler will look at. -/
def HandlerPhase.place? : HandlerPhase → Option Nat
  | .picked k => some k
  | .streaming k _ => some k
  | .failed k => some k
  | _ => none

namespace PoolState

/-- How many steps are left until the lock is free. -/
def remaining (s : PoolState) : Nat := s.lock.elim 0 PoolHold.remaining

/-- While the lock is held by a handler, the handler holds it. -/
def HandlerHolds (s : PoolState) : Prop :=
  ∀ hold h, s.lock = some hold → hold.handler? = some h → s.handlers h = .holding

section

variable {s : PoolState} {h : Nat}

theorem HandlerHolds.of_free (hlock : s.lock = none) : s.HandlerHolds := by
  intro hold handler hheld
  cases hlock.symm.trans hheld

/-- The monitor holds the lock. -/
theorem HandlerHolds.of_monitor {hold : PoolHold} (hlock : s.lock = some hold)
    (hnobody : hold.handler? = none) : s.HandlerHolds := by
  intro held handler hheld howner
  cases hlock.symm.trans hheld
  cases hnobody.symm.trans howner

/-- A handler that holds the lock says so. -/
theorem HandlerHolds.of_holding {hold : PoolHold} (hlock : s.lock = some hold)
    (howner : hold.handler? = some h) (hholding : s.handlers h = .holding) : s.HandlerHolds := by
  intro held handler hheld howner'
  cases hlock.symm.trans hheld
  cases howner.symm.trans howner'
  exact hholding

/-- A handler that says otherwise does not hold the lock. -/
theorem HandlerHolds.other (hholds : s.HandlerHolds) (hphase : s.handlers h ≠ .holding) :
    ∀ hold, s.lock = some hold → hold.holder ≠ .handler h := fun hold hheld hholder =>
  hphase (hholds hold h hheld (PoolHold.handler?_of_holder hholder))

/-- Such a handler can go on. -/
theorem HandlerHolds.setHandler (hholds : s.HandlerHolds) (hphase : s.handlers h ≠ .holding)
    (phase : HandlerPhase) : (s.setHandler h phase).HandlerHolds := by
  intro hold handler hheld howner
  have hbefore := hholds hold handler hheld howner
  have hother : handler ≠ h := by
    rintro rfl
    exact hphase hbefore
  exact (Function.update_of_ne hother ..).trans hbefore

end

/-- What a step does to the lock: nothing, and it is not taken by the holder, or the lock is
taken, or its holder goes on or gives it back. -/
inductive LockStep (s : PoolState) (e : PoolEvent) (s' : PoolState) : Prop
  | stays (hlock : s'.lock = s.lock)
      (hother : ∀ hold, s.lock = some hold → hold.holder ≠ e.actor)
      (hmonitor : s'.monitor = s.monitor ∨ s'.monitor ≠ .holding)
      (hhandlers : ∀ h, s'.handlers h = s.handlers h ∨ s'.handlers h ≠ .holding)
  | takes (hold : PoolHold) (hfree : s.lock = none) (hlock : s'.lock = some hold)
      (hplaces : ∀ k ∈ hold.places, k < s.heap.length)
      (hmonitor : s'.monitor = .holding → hold.ofMonitor = true ∨ s.monitor = .holding)
      (hhandlers : ∀ h, s'.handlers h = .holding →
        hold.handler? = some h ∨ s.handlers h = .holding)
  | goesOn (hold hold' : PoolHold) (hactor : hold.holder = e.actor)
      (hheld : s.lock = some hold) (hlock : s'.lock = some hold')
      (hless : hold'.remaining < hold.remaining) (hplaces : ∀ k ∈ hold'.places, k ∈ hold.places)
      (hofMonitor : hold'.ofMonitor = hold.ofMonitor) (hhandler : hold'.handler? = hold.handler?)
      (hmonitor : s'.monitor = s.monitor) (hhandlers : s'.handlers = s.handlers)
  | givesBack (hold : PoolHold) (hactor : hold.holder = e.actor) (hheld : s.lock = some hold)
      (hlock : s'.lock = none)
      (hmonitor : s'.monitor = s.monitor ∧ hold.ofMonitor = false ∨ s'.monitor ≠ .holding)
      (hhandlers : ∀ h, s'.handlers h = s.handlers h ∧ hold.handler? ≠ some h ∨
        s'.handlers h ≠ .holding)

/-- `initialize` leaves the handlers where they are. -/
theorem handlers_initialized (pool : CircuitPool) (built : List (OnionKeys × Nat)) :
    (initialized pool built).handlers = fun _ => .arriving := by
  induction built using List.reverseRecOn with
  | nil => rfl
  | append_singleton built last ih =>
      rw [initialized, List.foldl_append]
      exact ih

/-- The other handlers stay where they are when one goes on. -/
theorem handlers_setHandler (s : PoolState) (h : Nat) {phase : HandlerPhase}
    (hphase : phase ≠ .holding) (other : Nat) :
    (s.setHandler h phase).handlers other = s.handlers other ∧ some h ≠ some other ∨
      (s.setHandler h phase).handlers other ≠ .holding := by
  by_cases hsame : other = h
  · refine Or.inr ?_
    rw [hsame]
    show Function.update s.handlers h phase h ≠ .holding
    rwa [Function.update_self]
  · exact Or.inl ⟨Function.update_of_ne hsame .., fun heq => hsame (Option.some.inj heq).symm⟩

/-- A handler takes the lock. -/
theorem handlers_setHandler_holding (s : PoolState) (h other : Nat)
    (hholding : (s.setHandler h .holding).handlers other = .holding) :
    some h = some other ∨ s.handlers other = .holding := by
  by_cases hsame : other = h
  · exact Or.inl (by rw [hsame])
  · refine Or.inr (Eq.trans ?_ hholding)
    exact (Function.update_of_ne hsame ..).symm

section

variable {s : PoolState}

/-- The circuit that the pool looks at while it expires some is on the heap. -/
theorem expireNext_goesOn (howns : s.Owns) {id : CircuitId} {todo agedOut : List CircuitId} :
    ∃ agedOut', (s.expireNext id todo agedOut).lock = some (.expiring todo agedOut') ∧
      (s.expireNext id todo agedOut).monitor = s.monitor ∧
      (s.expireNext id todo agedOut).handlers = s.handlers := by
  rw [expireNext]
  split
  · exact ⟨agedOut, rfl, rfl, rfl⟩
  · next k hlookup =>
      split
      · next hnone =>
          exact absurd (howns.onHeap id k hlookup) (List.getElem?_eq_none_iff.mp hnone).not_gt
      · split
        · exact ⟨_, rfl, rfl, rfl⟩
        · exact ⟨agedOut, rfl, rfl, rfl⟩

end

section

variable [Primitives] {s s' : PoolState} {e : PoolEvent}

/-- A handler holds the lock in its own scopes, whatever happens. -/
theorem HandlerHolds.step (hholds : s.HandlerHolds) (howns : s.Owns) (hstep : Step s e s') :
    s'.HandlerHolds := by
  cases hstep with
  | reads | sends => exact hholds
  | wakes | rebuilds | findsDirty | findsClosed | counts | looksClosed | retries =>
      exact .of_monitor rfl rfl
  | expires =>
      obtain ⟨agedOut', hlock', -⟩ := expireNext_goesOn howns
      exact .of_monitor hlock' rfl
  | @looksDirty id k todo ids t hlock htask =>
      by_cases hdirty : t.circuit.state = .dirty
      · rw [if_pos hdirty]
        exact .of_monitor rfl rfl
      · rw [if_neg hdirty]
        exact .of_monitor rfl rfl
  | expired | foundDirty | foundClosed => exact .of_free rfl
  | cleans _ hlock
  | checks _ hlock
  | backsOff _ hlock
  | rests _ hlock => exact .of_free hlock
  | selects => exact .of_holding rfl rfl (Function.update_self ..)
  | replaces => exact .of_holding rfl rfl (Function.update_self ..)
  | looksReady hlock => exact .of_holding rfl rfl (hholds _ _ hlock rfl)
  | finds hlock => exact .of_holding rfl rfl (hholds _ _ hlock rfl)
  | @picks handler id count hlock => exact .of_free (s.unlocks_pick handler id).lock
  | @registers handler k t hhandler htask =>
      have hphase : s.handlers handler ≠ .holding := by simp [hhandler]
      exact HandlerHolds.setHandler (s := s.setTask k t.openStream) hholds hphase _
  | @cleansUp handler k streamId t t' ok hhandler =>
      have hphase : s.handlers handler ≠ .holding := by simp [hhandler]
      exact HandlerHolds.setHandler (s := s.setTask k t') hholds hphase _
  | breaks hhandler => exact hholds.setHandler (by simp [hhandler]) _
  | inspects hhandler => exact hholds.setHandler (by simp [hhandler]) _
  | @builds purpose id onionKeys now hlock =>
      exact .of_free (s.unlocks_finishBuild purpose id onionKeys now).lock
  | @fails purpose id hlock => exact .of_free (s.unlocks_failBuild purpose).lock

/-- What any step does to the lock. -/
theorem lock_step (howns : s.Owns) (hholds : s.HandlerHolds) (hstep : Step s e s') :
    s.LockStep e s' := by
  have hpairs : ∀ {todo : List (CircuitId × Nat)}, todo.Perm s.pool.circuits.pairs →
      ∀ k ∈ todo.map Prod.snd, k < s.heap.length := by
    intro todo hperm k hk
    obtain ⟨p, hp, rfl⟩ := List.mem_map.mp hk
    exact howns.onHeap p.1 p.2 (HashMap.mem_pairs.mp (hperm.mem_iff.mp hp))
  have hsame : ∀ h, s.handlers h = s.handlers h ∨ s.handlers h ≠ .holding := fun h => Or.inl rfl
  have hgoes : ∀ {h : Nat} {phase : HandlerPhase}, phase ≠ .holding → ∀ (u : PoolState) other,
      (u.setHandler h phase).handlers other = u.handlers other ∨
        (u.setHandler h phase).handlers other ≠ .holding :=
    fun hphase u other => (handlers_setHandler u _ hphase other).imp_left And.left
  have hnobody : ∀ {hold : PoolHold}, hold.handler? = none → ∀ h,
      s.handlers h = s.handlers h ∧ hold.handler? ≠ some h ∨ s.handlers h ≠ .holding :=
    fun hnone h => Or.inl ⟨rfl, by rw [hnone]; simp⟩
  have hfree : ∀ {actor : PoolActor}, s.lock = none →
      ∀ hold, s.lock = some hold → hold.holder ≠ actor := by
    intro actor hlock hold hheld
    cases hlock.symm.trans hheld
  cases hstep with
  | @reads k => exact .stays rfl (fun hold _ => hold.holder_ne_reader k) (Or.inl rfl) hsame
  | wakes now hmonitor hlock htodo =>
      exact .takes _ hlock rfl (by simp [PoolHold.places]) (fun _ => Or.inl rfl) fun h => Or.inr
  | @expires id todo agedOut hlock =>
      obtain ⟨agedOut', hlock', hmonitor, hhandlers⟩ := expireNext_goesOn howns
      refine .goesOn _ _ rfl hlock hlock' ?_ (by simp [PoolHold.places]) rfl rfl hmonitor
        hhandlers
      simp [PoolHold.remaining]
  | expired hlock => exact .givesBack _ rfl hlock rfl (Or.inr (by simp)) (hnobody rfl)
  | rebuilds hmonitor hlock =>
      exact .takes _ hlock rfl (by simp [PoolHold.places]) (fun _ => Or.inl rfl) fun h => Or.inr
  | findsDirty hmonitor hlock htodo =>
      exact .takes _ hlock rfl (hpairs htodo) (fun _ => Or.inl rfl) fun h => Or.inr
  | @looksDirty id k todo ids t hlock htask =>
      by_cases hdirty : t.circuit.state = .dirty
      · rw [if_pos hdirty]
        exact .goesOn _ _ rfl hlock rfl (by simp [PoolHold.remaining]; omega)
          (by simp [PoolHold.places]) rfl rfl rfl rfl
      · rw [if_neg hdirty]
        exact .goesOn _ _ rfl hlock rfl (by simp [PoolHold.remaining])
          (by simp +contextual [PoolHold.places]) rfl rfl rfl rfl
  | counts hlock htask =>
      exact .goesOn _ _ rfl hlock rfl (by simp [PoolHold.remaining])
        (by simp +contextual [PoolHold.places]) rfl rfl rfl rfl
  | foundDirty hlock => exact .givesBack _ rfl hlock rfl (Or.inr (by simp)) (hnobody rfl)
  | cleans hmonitor hlock => exact .stays rfl (hfree hlock) (Or.inr (by simp)) hsame
  | findsClosed hmonitor hlock htodo =>
      exact .takes _ hlock rfl (hpairs htodo) (fun _ => Or.inl rfl) fun h => Or.inr
  | looksClosed hlock htask =>
      exact .goesOn _ _ rfl hlock rfl (by simp [PoolHold.remaining])
        (by simp +contextual [PoolHold.places]) rfl rfl rfl rfl
  | foundClosed hlock => exact .givesBack _ rfl hlock rfl (Or.inr (by simp)) (hnobody rfl)
  | checks hmonitor hlock =>
      refine .stays rfl (hfree hlock) (Or.inr ?_) hsame
      split
      · simp
      · simp
  | backsOff hmonitor hlock => exact .stays rfl (hfree hlock) (Or.inr (by simp)) hsame
  | retries hmonitor hlock =>
      refine .takes _ hlock rfl (by simp [PoolHold.places]) (fun hholding => ?_) fun h => Or.inr
      cases hholding
  | rests hmonitor hlock => exact .stays rfl (hfree hlock) (Or.inr (by simp)) hsame
  | @selects h todo hhandler hlock htodo =>
      exact .takes _ hlock rfl (hpairs htodo) Or.inr (s.handlers_setHandler_holding h)
  | looksReady hlock htask =>
      exact .goesOn _ _ rfl hlock rfl (by simp [PoolHold.remaining])
        (by simp +contextual [PoolHold.places]) rfl rfl rfl rfl
  | @picks h id count hlock =>
      rcases s.pick_cases h id with heq | ⟨k, -, heq⟩
      · rw [heq]
        exact .givesBack _ rfl hlock rfl (Or.inl ⟨rfl, rfl⟩) (handlers_setHandler _ h (by simp))
      · rw [heq]
        exact .givesBack _ rfl hlock rfl (Or.inl ⟨rfl, rfl⟩) (handlers_setHandler _ h (by simp))
  | finds hlock =>
      exact .goesOn _ _ rfl hlock rfl (by simp [PoolHold.remaining]) (by simp [PoolHold.places]) rfl
        rfl rfl rfl
  | registers hhandler htask =>
      exact .stays rfl (hholds.other (by simp [hhandler])) (Or.inl rfl) (hgoes (by simp) _)
  | sends hhandler htask hstep =>
      exact .stays rfl (hholds.other (by simp [hhandler])) (Or.inl rfl) hsame
  | cleansUp ok hhandler htask hstep =>
      refine .stays rfl (hholds.other (by simp [hhandler])) (Or.inl rfl) (hgoes ?_ _)
      split
      · simp
      · simp
  | breaks hhandler =>
      exact .stays rfl (hholds.other (by simp [hhandler])) (Or.inl rfl) (hgoes (by simp) _)
  | inspects hhandler htask =>
      refine .stays rfl (hholds.other (by simp [hhandler])) (Or.inl rfl) (hgoes ?_ _)
      split
      · simp
      · simp
  | @replaces h id hhandler hlock =>
      exact .takes _ hlock rfl (by simp [PoolHold.places]) Or.inr (s.handlers_setHandler_holding h)
  | @builds purpose id onionKeys now hlock =>
      cases purpose with
      | aged left => exact .givesBack _ rfl hlock rfl (Or.inr (by simp [finishBuild])) (hnobody rfl)
      | replace caller failedId =>
          cases caller with
          | none => exact .givesBack _ rfl hlock rfl (Or.inl ⟨rfl, rfl⟩) (hnobody rfl)
          | some h =>
              exact .givesBack _ rfl hlock rfl (Or.inl ⟨rfl, rfl⟩)
                (handlers_setHandler _ h (by simp))
      | select h =>
          exact .givesBack _ rfl hlock rfl (Or.inl ⟨rfl, rfl⟩) (handlers_setHandler _ h (by simp))
  | @fails purpose id hlock =>
      cases purpose with
      | aged left => exact .givesBack _ rfl hlock rfl (Or.inr (by simp [failBuild])) (hnobody rfl)
      | replace caller failedId =>
          cases caller with
          | none => exact .givesBack _ rfl hlock rfl (Or.inl ⟨rfl, rfl⟩) (hnobody rfl)
          | some h =>
              exact .givesBack _ rfl hlock rfl (Or.inl ⟨rfl, rfl⟩)
                (handlers_setHandler _ h (by simp))
      | select h =>
          exact .givesBack _ rfl hlock rfl (Or.inl ⟨rfl, rfl⟩) (handlers_setHandler _ h (by simp))

/-- The heap never shrinks. -/
theorem length_heap_le (hstep : Step s e s') : s.heap.length ≤ s'.heap.length := by
  cases maps_step hstep with
  | same _ _ _ hheap => exact hheap.ge
  | expires _ _ _ _ hheap => exact hheap.ge
  | removes _ _ _ _ hheap => exact hheap.ge
  | adds _ _ _ _ _ hheap => omega

/-- A place that a handler looks at after a step is one it looked at before, or it is on the
heap. -/
theorem place_step (howns : s.Owns) (hstep : Step s e s') {h k : Nat}
    (hplace : (s'.handlers h).place? = some k) :
    (s.handlers h).place? = some k ∨ k < s'.heap.length := by
  have hset : ∀ {u : PoolState} {other : Nat} {phase : HandlerPhase},
      ((u.setHandler other phase).handlers h).place? = some k →
        other = h ∧ phase.place? = some k ∨ (u.handlers h).place? = some k := by
    intro u other phase hplace
    by_cases hother : h = other
    · subst hother
      have hphase : (u.setHandler h phase).handlers h = phase := Function.update_self ..
      rw [hphase] at hplace
      exact Or.inl ⟨rfl, hplace⟩
    · have hphase : (u.setHandler other phase).handlers h = u.handlers h :=
        Function.update_of_ne hother ..
      rw [hphase] at hplace
      exact Or.inr hplace
  cases hstep with
  | expires hlock =>
      obtain ⟨-, -, -, hhandlers⟩ := expireNext_goesOn howns
      rw [hhandlers] at hplace
      exact Or.inl hplace
  | selects =>
      rcases hset (u := s) hplace with ⟨-, hphase⟩ | hbefore
      · cases hphase
      · exact Or.inl hbefore
  | replaces =>
      rcases hset (u := s) hplace with ⟨-, hphase⟩ | hbefore
      · cases hphase
      · exact Or.inl hbefore
  | @picks other id count hlock =>
      rcases s.pick_cases other id with heq | ⟨j, hlookup, heq⟩
      · rw [heq] at hplace
        rcases hset hplace with ⟨-, hphase⟩ | hbefore
        · cases hphase
        · exact Or.inl hbefore
      · rw [heq] at hplace ⊢
        rcases hset hplace with ⟨-, hphase⟩ | hbefore
        · cases hphase
          exact Or.inr (howns.onHeap id k hlookup)
        · exact Or.inl hbefore
  | @registers other j t hhandler htask =>
      rcases hset hplace with ⟨rfl, hphase⟩ | hbefore
      · cases hphase
        exact Or.inl (by rw [hhandler]; rfl)
      · exact Or.inl hbefore
  | @cleansUp other j streamId t t' ok hhandler htask hstep =>
      rcases hset hplace with ⟨rfl, hphase⟩ | hbefore
      · split at hphase
        · cases hphase
        · cases hphase
          exact Or.inl (by rw [hhandler]; rfl)
      · exact Or.inl hbefore
  | @breaks other j streamId hhandler =>
      rcases hset hplace with ⟨rfl, hphase⟩ | hbefore
      · cases hphase
        exact Or.inl (by rw [hhandler]; rfl)
      · exact Or.inl hbefore
  | inspects =>
      rcases hset hplace with ⟨-, hphase⟩ | hbefore
      · split at hphase
        · cases hphase
        · cases hphase
      · exact Or.inl hbefore
  | @builds purpose id onionKeys now hlock =>
      cases purpose with
      | aged left => exact Or.inl hplace
      | replace caller failedId =>
          cases caller with
          | none => exact Or.inl hplace
          | some other =>
              rcases hset hplace with ⟨-, hphase⟩ | hbefore
              · cases hphase
              · exact Or.inl hbefore
      | select other =>
          rcases hset hplace with ⟨-, hphase⟩ | hbefore
          · cases hphase
            refine Or.inr ?_
            show s.heap.length < (s.heap ++ [_]).length
            rw [List.length_append]
            exact Nat.lt_succ_self _
          · exact Or.inl hbefore
  | @fails purpose id hlock =>
      cases purpose with
      | aged left => exact Or.inl hplace
      | replace caller failedId =>
          cases caller with
          | none => exact Or.inl hplace
          | some other =>
              rcases hset hplace with ⟨-, hphase⟩ | hbefore
              · cases hphase
              · exact Or.inl hbefore
      | select other =>
          rcases hset hplace with ⟨-, hphase⟩ | hbefore
          · cases hphase
          · exact Or.inl hbefore
  | _ => exact Or.inl hplace

/-! ## Nobody waits for a lock that is free -/

/-- Whoever says it holds the lock does, and all places that the tasks will look at are on the
heap. -/
structure Attended (s : PoolState) : Prop where
  owns : s.Owns
  holds : s.HandlerHolds
  scan : ∀ hold, s.lock = some hold → ∀ k ∈ hold.places, k < s.heap.length
  monitor : s.monitor = .holding → ∃ hold, s.lock = some hold ∧ hold.ofMonitor = true
  handlers : ∀ h, s.handlers h = .holding → ∃ hold, s.lock = some hold ∧ hold.handler? = some h
  places : ∀ h k, (s.handlers h).place? = some k → k < s.heap.length

/-- Every step keeps it so. -/
theorem Attended.step (h : s.Attended) (hstep : Step s e s') : s'.Attended := by
  have hlength := length_heap_le hstep
  refine ⟨h.owns.step hstep, h.holds.step h.owns hstep, ?_, ?_, ?_, ?_⟩
  · intro hold hheld k hk
    apply Nat.lt_of_lt_of_le _ hlength
    cases lock_step h.owns h.holds hstep with
    | stays hlock hother => exact h.scan hold (hlock ▸ hheld) k hk
    | takes hold' hfree hlock hplaces =>
        cases hlock.symm.trans hheld
        exact hplaces k hk
    | goesOn held hold' hactor hbefore hlock hless hplaces =>
        cases hlock.symm.trans hheld
        exact h.scan held hbefore k (hplaces k hk)
    | givesBack held hactor hbefore hlock => cases hlock.symm.trans hheld
  · intro hholding
    cases lock_step h.owns h.holds hstep with
    | stays hlock hother hmonitor =>
        rcases hmonitor with hsame | hother
        · rw [hlock]
          exact h.monitor (hsame ▸ hholding)
        · exact absurd hholding hother
    | takes hold hfree hlock hplaces hmonitor =>
        rcases hmonitor hholding with htaken | hbefore
        · exact ⟨hold, hlock, htaken⟩
        · obtain ⟨held, hheld, -⟩ := h.monitor hbefore
          cases hfree.symm.trans hheld
    | goesOn held hold hactor hbefore hlock hless hplaces hofMonitor hhandler hmonitor =>
        obtain ⟨hold', hheld, hkind⟩ := h.monitor (hmonitor ▸ hholding)
        cases hbefore.symm.trans hheld
        exact ⟨hold, hlock, hofMonitor.trans hkind⟩
    | givesBack held hactor hbefore hlock hmonitor =>
        rcases hmonitor with ⟨hsame, hkind⟩ | hother
        · obtain ⟨hold', hheld, hkind'⟩ := h.monitor (hsame ▸ hholding)
          cases hbefore.symm.trans hheld
          cases hkind.symm.trans hkind'
        · exact absurd hholding hother
  · intro handler hholding
    cases lock_step h.owns h.holds hstep with
    | stays hlock hother hmonitor hhandlers =>
        rcases hhandlers handler with hsame | hother
        · rw [hlock]
          exact h.handlers handler (hsame ▸ hholding)
        · exact absurd hholding hother
    | takes hold hfree hlock hplaces hmonitor hhandlers =>
        rcases hhandlers handler hholding with htaken | hbefore
        · exact ⟨hold, hlock, htaken⟩
        · obtain ⟨held, hheld, -⟩ := h.handlers handler hbefore
          cases hfree.symm.trans hheld
    | goesOn held hold hactor hbefore hlock hless hplaces hofMonitor hhandler hmonitor
        hhandlers =>
        obtain ⟨hold', hheld, howner⟩ := h.handlers handler (hhandlers ▸ hholding)
        cases hbefore.symm.trans hheld
        exact ⟨hold, hlock, hhandler.trans howner⟩
    | givesBack held hactor hbefore hlock hmonitor hhandlers =>
        rcases hhandlers handler with ⟨hsame, hnot⟩ | hother
        · obtain ⟨hold', hheld, howner⟩ := h.handlers handler (hsame ▸ hholding)
          cases hbefore.symm.trans hheld
          exact absurd howner hnot
        · exact absurd hholding hother
  · intro handler k hplace
    rcases place_step h.owns hstep hplace with hbefore | hlt
    · exact Nat.lt_of_lt_of_le (h.places handler k hbefore) hlength
    · exact hlt

omit [Primitives] in
/-- After `initialize` nobody holds the lock. -/
theorem attended_of_started (hstart : s.Started) : s.Attended := by
  have howns := (owns_agesHeld_of_started hstart).1
  obtain ⟨pool, built, hcircuits, -, -, -, -, rfl⟩ := hstart
  obtain ⟨-, -, hlock, hmonitor⟩ := fits_initialized hcircuits built
  have harriving := handlers_initialized pool built
  refine ⟨howns, .of_free hlock, ?_, ?_, ?_, ?_⟩
  · intro hold hheld
    cases hlock.symm.trans hheld
  · intro hholding
    cases hmonitor.symm.trans hholding
  · intro h hholding
    rw [harriving] at hholding
    cases hholding
  · intro h k hplace
    rw [harriving] at hplace
    cases hplace

/-- It holds in every reachable state. -/
theorem attended_of_reachable (hreach : system.Reachable s) : s.Attended :=
  hreach.invariant Attended (fun _ => attended_of_started) fun _ _ _ h hstep => h.step hstep

/-! ## The lock is given back -/

/-- The holder of the lock can go on, or it gives the lock back. -/
theorem Attended.holder_step (h : s.Attended) {hold : PoolHold} (hheld : s.lock = some hold) :
    ∃ e t, Step s e t ∧
      ((t.lock = none ∧ hold.Leads s.monitor t.monitor ∧
        ∀ handler, hold.handler? = some handler → hold.LeadsHandler (t.handlers handler)) ∨
      ∃ hold', t.lock = some hold' ∧ hold'.remaining < hold.remaining ∧
        t.monitor = s.monitor ∧ hold'.handler? = hold.handler? ∧
        (∀ phase after, hold'.Leads phase after → hold.Leads phase after) ∧
        ∀ after, hold'.LeadsHandler after → hold.LeadsHandler after) := by
  have hset : ∀ (u : PoolState) (h : Nat) (phase : HandlerPhase) (P : HandlerPhase → Prop),
      P phase → ∀ handler, some h = some handler →
        P ((u.setHandler h phase).handlers handler) := by
    intro u h phase P hphase handler heq
    cases heq
    show P (Function.update u.handlers h phase h)
    rwa [Function.update_self]
  have hnobody : ∀ {hold : PoolHold}, hold.handler? = none → ∀ handler,
      hold.handler? = some handler → hold.LeadsHandler (s.handlers handler) := by
    intro hold hnone handler hsome
    cases hnone.symm.trans hsome
  have htask : ∀ k ∈ hold.places, ∃ t, s.heap[k]? = some t := fun k hk =>
    ⟨_, List.getElem?_eq_getElem (h.scan hold hheld k hk)⟩
  cases hold with
  | expiring todo agedOut =>
      cases todo with
      | nil => exact ⟨_, _, .expired hheld, Or.inl ⟨rfl, ⟨_, rfl⟩, hnobody rfl⟩⟩
      | cons aged todo =>
          obtain ⟨agedOut', hlock, hmonitor, -⟩ := expireNext_goesOn h.owns
          exact ⟨_, _, .expires hheld, Or.inr ⟨_, hlock, by simp [PoolHold.remaining], hmonitor,
            rfl, fun _ _ => id, fun _ => id⟩⟩
  | building purpose new =>
      refine ⟨_, _, .fails hheld, Or.inl ?_⟩
      cases purpose with
      | aged left => exact ⟨rfl, rfl, hnobody rfl⟩
      | replace caller failedId =>
          cases caller with
          | none => exact ⟨rfl, rfl, hnobody rfl⟩
          | some caller => exact ⟨rfl, rfl, hset _ caller .done (· = .done) rfl⟩
      | select caller => exact ⟨rfl, rfl, hset _ caller .done (· = .done) rfl⟩
  | findingDirty todo ids =>
      cases todo with
      | nil => exact ⟨_, _, .foundDirty hheld, Or.inl ⟨rfl, ⟨_, rfl⟩, hnobody rfl⟩⟩
      | cons p todo =>
          obtain ⟨t, ht⟩ := htask p.2 (by simp [PoolHold.places])
          refine ⟨_, _, .looksDirty hheld ht, Or.inr ?_⟩
          by_cases hdirty : t.circuit.state = .dirty
          · rw [if_pos hdirty]
            exact ⟨_, rfl, by simp [PoolHold.remaining]; omega, rfl, rfl, fun _ _ => id,
              fun _ => id⟩
          · rw [if_neg hdirty]
            exact ⟨_, rfl, by simp [PoolHold.remaining], rfl, rfl, fun _ _ => id, fun _ => id⟩
  | counting dirty k todo ids =>
      obtain ⟨t, ht⟩ := htask k (by simp [PoolHold.places])
      exact ⟨_, _, .counts hheld ht, Or.inr ⟨_, rfl, by simp [PoolHold.remaining], rfl, rfl,
        fun _ _ => id, fun _ => id⟩⟩
  | findingClosed todo ids =>
      cases todo with
      | nil =>
          exact ⟨_, _, .foundClosed hheld, Or.inl ⟨rfl, ⟨_, rfl⟩, hnobody rfl⟩⟩
      | cons p todo =>
          obtain ⟨t, ht⟩ := htask p.2 (by simp [PoolHold.places])
          exact ⟨_, _, .looksClosed hheld ht, Or.inr ⟨_, rfl, by simp [PoolHold.remaining], rfl,
            rfl, fun _ _ => id, fun _ => id⟩⟩
  | selecting caller todo best =>
      cases todo with
      | nil =>
          cases best with
          | none =>
              exact ⟨_, _, .finds hheld, Or.inr ⟨_, rfl, by simp [PoolHold.remaining], rfl, rfl,
                fun _ _ => id, fun _ => Or.inl⟩⟩
          | some found =>
              refine ⟨_, _, .picks hheld, Or.inl ?_⟩
              rcases s.pick_cases caller found.1 with heq | ⟨k, -, heq⟩
              · rw [heq]
                exact ⟨rfl, rfl, hset _ caller .done
                  (PoolHold.LeadsHandler (.selecting caller [] (some found))) (Or.inl rfl)⟩
              · rw [heq]
                exact ⟨rfl, rfl, hset _ caller (.picked k)
                  (PoolHold.LeadsHandler (.selecting caller [] (some found))) (Or.inr ⟨k, rfl⟩)⟩
      | cons p todo =>
          obtain ⟨t, ht⟩ := htask p.2 (by simp [PoolHold.places])
          exact ⟨_, _, .looksReady hheld ht, Or.inr ⟨_, rfl, by simp [PoolHold.remaining], rfl,
            rfl, fun _ _ => id, fun _ => id⟩⟩

/-- The lock can be given back, and then its holder has gone on. -/
theorem Attended.releases (h : s.Attended) {hold : PoolHold} (hheld : s.lock = some hold) :
    ∃ es t, system.Run s es t ∧ es.length ≤ hold.remaining ∧ t.Attended ∧ t.lock = none ∧
      hold.Leads s.monitor t.monitor ∧
      ∀ handler, hold.handler? = some handler → hold.LeadsHandler (t.handlers handler) := by
  -- the induction is on the steps that the holder has left
  induction hn : hold.remaining using Nat.strong_induction_on generalizing s hold with
  | _ n ih =>
      subst hn
      obtain ⟨e, t, hstep, hfree | ⟨hold', hlock, hless, hmonitor, hhandler, hleads, hleads'⟩⟩ :=
        h.holder_step hheld
      · refine ⟨[e], t, (TransitionSystem.Run.nil t).cons hstep, ?_, h.step hstep, hfree⟩
        cases hold with
        | building => exact le_rfl
        | _ => simp [PoolHold.remaining]
      · obtain ⟨es, u, hrun, hlength, hattended, hfree, hmonitor', hhandlers'⟩ :=
          ih hold'.remaining hless (h.step hstep) hlock rfl
        refine ⟨e :: es, u, hrun.cons hstep, ?_, hattended, hfree, ?_, ?_⟩
        · rw [List.length_cons]
          omega
        · rw [hmonitor] at hmonitor'
          exact hleads _ _ hmonitor'
        · intro handler howner
          exact hleads' _ (hhandlers' handler (hhandler.trans howner))

/-- In every reachable state the holder of the pool's lock can give it back within the steps it
has left. No step of anybody else changes the lock before, and every step of the holder leaves
fewer. -/
theorem lock_released (hreach : system.Reachable s) {hold : PoolHold}
    (hheld : s.lock = some hold) :
    (∃ es t, system.Run s es t ∧ es.length ≤ hold.remaining ∧ t.lock = none) ∧
      (∀ e t, Step s e t → e.actor ≠ hold.holder → t.lock = some hold) ∧
      ∀ e t, Step s e t → e.actor = hold.holder → t.remaining < hold.remaining := by
  have hattended := attended_of_reachable hreach
  refine ⟨?_, ?_, ?_⟩
  · obtain ⟨es, t, hrun, hlength, -, hfree, -⟩ := hattended.releases hheld
    exact ⟨es, t, hrun, hlength, hfree⟩
  · intro e t hstep hother
    cases lock_step hattended.owns hattended.holds hstep with
    | stays hlock => exact hlock.trans hheld
    | takes hold' hfree => cases hfree.symm.trans hheld
    | goesOn held hold' hactor hbefore =>
        cases hbefore.symm.trans hheld
        exact absurd hactor.symm hother
    | givesBack held hactor hbefore =>
        cases hbefore.symm.trans hheld
        exact absurd hactor.symm hother
  · intro e t hstep hholder
    cases lock_step hattended.owns hattended.holds hstep with
    | stays hlock hother => exact absurd hholder.symm (hother hold hheld)
    | takes hold' hfree => cases hfree.symm.trans hheld
    | goesOn held hold' hactor hbefore hlock hless =>
        cases hbefore.symm.trans hheld
        rwa [remaining, hlock]
    | givesBack held hactor hbefore hlock =>
        rw [remaining, hlock]
        exact hold.remaining_pos

end

section

open Reference

/-- A handler of a pool of one circuit has begun to select. -/
theorem reachable_selecting : system.Reachable
    { onePool.setHandler 0 .holding with lock := some (.selecting 0 [(1, 0)] none) } :=
  (TransitionSystem.reachable_of_init onePool_started).next (.selects rfl rfl (.refl _))

/-- It has three steps left at most. When the circuit's reader meets the end of its connection
the lock stays as it is, and when the handler looks at the circuit it comes closer to its end. -/
theorem lock_released_selecting :
    (∃ es t, system.Run
      { onePool.setHandler 0 .holding with lock := some (.selecting 0 [(1, 0)] none) } es t ∧
      es.length ≤ 3 ∧ t.lock = none) ∧
    (∃ t, Step { onePool.setHandler 0 .holding with lock := some (.selecting 0 [(1, 0)] none) }
      (.reads 0 .ends) t ∧ t.lock = some (.selecting 0 [(1, 0)] none)) ∧
    ∃ t, Step { onePool.setHandler 0 .holding with lock := some (.selecting 0 [(1, 0)] none) }
      (.works (some 0)) t ∧ t.remaining < 3 := by
  let selecting : PoolState :=
    { onePool.setHandler 0 .holding with lock := some (.selecting 0 [(1, 0)] none) }
  let built := CircuitTask.spawn (Circuit.built 1 (OnionKeys.new [] []))
  obtain ⟨hruns, hothers, hholder⟩ := lock_released reachable_selecting rfl
  have hends : Step selecting (.reads 0 .ends) (selecting.setTask 0 built.endStream) :=
    .reads (t := built) rfl trivial (.ends rfl)
  have hlooks : Step selecting (.works (some 0))
      { selecting with lock := some (.selecting 0 [] (consider none 1 built)) } :=
    .looksReady rfl rfl
  exact ⟨hruns, ⟨_, hends, hothers _ _ hends (PoolHold.holder_ne_reader _ 0).symm⟩,
    ⟨_, hlooks, hholder _ _ hlooks rfl⟩⟩

end

/-! ## Every task can come to its end -/

section

variable [Primitives] {s s' : PoolState} {e : PoolEvent}

/-- Some run takes a handler to its end. -/
def Ends (s : PoolState) (handler : Nat) : Prop :=
  ∃ es t, system.Run s es t ∧ t.handlers handler = .done

/-- Some run takes the monitor back to sleep. -/
def Rests (s : PoolState) : Prop :=
  ∃ es t, system.Run s es t ∧ t.lock = none ∧ t.monitor = .sleeping

/-- A step on the way to the end of a handler. -/
theorem Ends.after {handler : Nat} (h : s'.Ends handler) (hstep : Step s e s') :
    s.Ends handler := by
  obtain ⟨es, t, hrun, hdone⟩ := h
  exact ⟨e :: es, t, hrun.cons hstep, hdone⟩

/-- A step on the monitor's way. -/
theorem Rests.after (h : s'.Rests) (hstep : Step s e s') : s.Rests := by
  obtain ⟨es, t, hrun, hrests⟩ := h
  exact ⟨e :: es, t, hrun.cons hstep, hrests⟩

/-- A run on the monitor's way. -/
theorem Rests.of_run {es : List PoolEvent} (h : s'.Rests) (hrun : system.Run s es s') :
    s.Rests := by
  obtain ⟨fs, t, hafter, hrests⟩ := h
  exact ⟨es ++ fs, t, hrun.trans hafter, hrests⟩

omit [Primitives] in
/-- The circuit that a handler will look at. -/
theorem Attended.task (h : s.Attended) {handler k : Nat}
    (hplace : (s.handlers handler).place? = some k) : ∃ t, s.heap[k]? = some t :=
  ⟨_, List.getElem?_eq_getElem (h.places handler k hplace)⟩

/-- A handler that calls for a replacement waits for the lock and for the build. -/
theorem Attended.ends_of_replacing (h : s.Attended) (hfree : s.lock = none) {handler : Nat}
    {id : CircuitId} (hhandler : s.handlers handler = .replacing id) : s.Ends handler := by
  have hstep := Step.replaces hhandler hfree
  obtain ⟨es, t, hrun, -, -, -, -, hhandlers⟩ := (h.step hstep).releases rfl
  exact Ends.after ⟨es, t, hrun, hhandlers handler rfl⟩ hstep

/-- A handler whose stream has failed looks at the circuit. -/
theorem Attended.ends_of_failed (h : s.Attended) (hfree : s.lock = none) {handler k : Nat}
    (hhandler : s.handlers handler = .failed k) : s.Ends handler := by
  obtain ⟨t, htask⟩ := h.task (by rw [hhandler]; rfl)
  have hstep := Step.inspects hhandler htask
  by_cases hclosed : t.circuit.state = .closed
  · rw [if_pos hclosed] at hstep
    exact ((h.step hstep).ends_of_replacing hfree (Function.update_self ..)).after hstep
  · rw [if_neg hclosed] at hstep
    exact ⟨_, _, (TransitionSystem.Run.nil _).cons hstep, Function.update_self ..⟩

/-- A handler with a stream. -/
theorem Attended.ends_of_streaming (h : s.Attended) (hfree : s.lock = none) {handler k : Nat}
    {streamId : StreamId} (hhandler : s.handlers handler = .streaming k streamId) :
    s.Ends handler := by
  have hstep := Step.breaks hhandler
  exact ((h.step hstep).ends_of_failed hfree (Function.update_self ..)).after hstep

/-- A handler that has been given a circuit. -/
theorem Attended.ends_of_picked (h : s.Attended) (hfree : s.lock = none) {handler k : Nat}
    (hhandler : s.handlers handler = .picked k) : s.Ends handler := by
  obtain ⟨t, htask⟩ := h.task (by rw [hhandler]; rfl)
  have hstep := Step.registers hhandler htask
  exact ((h.step hstep).ends_of_streaming hfree (Function.update_self ..)).after hstep

/-- Any handler, once the lock is free. -/
theorem Attended.ends_of_free (h : s.Attended) (hfree : s.lock = none) (handler : Nat) :
    s.Ends handler := by
  cases hhandler : s.handlers handler with
  | arriving =>
      have hstep := Step.selects hhandler hfree (.refl s.pool.circuits.pairs)
      obtain ⟨es, t, hrun, -, hattended, hfree', -, hhandlers⟩ := (h.step hstep).releases rfl
      rcases hhandlers handler rfl with hdone | ⟨k, hpicked⟩
      · exact Ends.after ⟨es, t, hrun, hdone⟩ hstep
      · obtain ⟨fs, u, hrun', hdone⟩ := hattended.ends_of_picked hfree' hpicked
        exact Ends.after ⟨es ++ fs, u, hrun.trans hrun', hdone⟩ hstep
  | holding =>
      obtain ⟨hold, hheld, -⟩ := h.handlers handler hhandler
      cases hfree.symm.trans hheld
  | picked k => exact h.ends_of_picked hfree hhandler
  | streaming k streamId => exact h.ends_of_streaming hfree hhandler
  | failed k => exact h.ends_of_failed hfree hhandler
  | replacing id => exact h.ends_of_replacing hfree hhandler
  | done => exact ⟨[], s, .nil s, hhandler⟩

/-- The monitor has circuits left to retry. -/
theorem Attended.rests_of_retrying {ids : List CircuitId} (h : s.Attended) (hfree : s.lock = none)
    (hmonitor : s.monitor = .retrying ids) : s.Rests := by
  induction ids generalizing s with
  | nil =>
      exact ⟨_, _, (TransitionSystem.Run.nil _).cons (Step.rests hmonitor hfree), hfree, rfl⟩
  | cons id ids ih =>
      have hstep := Step.checks hmonitor hfree
      by_cases habandoned : s.pool.isAbandoned id = true
      · rw [if_pos habandoned] at hstep
        exact (ih (h.step hstep) hfree rfl).after hstep
      · rw [if_neg habandoned] at hstep
        have hbacksOff := Step.backsOff (s := { s with monitor := .backingOff id ids }) rfl hfree
        have hretries := Step.retries
          (s := { s with monitor := .waiting id (s.pool.backoff id) ids }) rfl hfree
        obtain ⟨es, t, hrun, -, hattended, hfree', hmonitor', -⟩ :=
          (((h.step hstep).step hbacksOff).step hretries).releases rfl
        exact ((((ih hattended hfree' hmonitor').of_run hrun).after hretries).after
          hbacksOff).after hstep

/-- The monitor has idle circuits left to remove. -/
theorem Attended.rests_of_cleaning {ids : List CircuitId} (h : s.Attended) (hfree : s.lock = none)
    (hmonitor : s.monitor = .cleaning ids) : s.Rests := by
  induction ids generalizing s with
  | nil =>
      have hstep := Step.findsClosed hmonitor hfree (.refl s.pool.circuits.pairs)
      obtain ⟨es, t, hrun, -, hattended, hfree', ⟨ids, hmonitor'⟩, -⟩ :=
        (h.step hstep).releases rfl
      exact ((hattended.rests_of_retrying hfree' hmonitor').of_run hrun).after hstep
  | cons id ids ih =>
      have hstep := Step.cleans hmonitor hfree
      exact (ih (h.step hstep) hfree rfl).after hstep

/-- The monitor has circuits left to build for those that have expired. -/
theorem Attended.rests_of_rebuilding {left : Nat} (h : s.Attended) (hfree : s.lock = none)
    (hmonitor : s.monitor = .rebuilding left) : s.Rests := by
  induction left generalizing s with
  | zero =>
      have hstep := Step.findsDirty hmonitor hfree (.refl s.pool.circuits.pairs)
      obtain ⟨es, t, hrun, -, hattended, hfree', ⟨ids, hmonitor'⟩, -⟩ :=
        (h.step hstep).releases rfl
      exact ((hattended.rests_of_cleaning hfree' hmonitor').of_run hrun).after hstep
  | succ left ih =>
      have hstep := Step.rebuilds hmonitor hfree
      obtain ⟨es, t, hrun, -, hattended, hfree', hmonitor', -⟩ := (h.step hstep).releases rfl
      exact ((ih hattended hfree' hmonitor').of_run hrun).after hstep

/-- The monitor, once the lock is free. -/
theorem Attended.rests_of_free (h : s.Attended) (hfree : s.lock = none) : s.Rests := by
  cases hmonitor : s.monitor with
  | sleeping => exact ⟨[], s, .nil s, hfree, hmonitor⟩
  | holding =>
      obtain ⟨hold, hheld, -⟩ := h.monitor hmonitor
      cases hfree.symm.trans hheld
  | rebuilding left => exact h.rests_of_rebuilding hfree hmonitor
  | cleaning ids => exact h.rests_of_cleaning hfree hmonitor
  | retrying ids => exact h.rests_of_retrying hfree hmonitor
  | backingOff id ids =>
      have hbacksOff := Step.backsOff hmonitor hfree
      have hretries := Step.retries
        (s := { s with monitor := .waiting id (s.pool.backoff id) ids }) rfl hfree
      obtain ⟨es, t, hrun, -, hattended, hfree', hmonitor', -⟩ :=
        ((h.step hbacksOff).step hretries).releases rfl
      exact (((hattended.rests_of_retrying hfree' hmonitor').of_run hrun).after
        hretries).after hbacksOff
  | waiting id secs ids =>
      have hretries := Step.retries hmonitor hfree
      obtain ⟨es, t, hrun, -, hattended, hfree', hmonitor', -⟩ := (h.step hretries).releases rfl
      exact ((hattended.rests_of_retrying hfree' hmonitor').of_run hrun).after hretries

/-- There is no deadlock: from every reachable state each handler can still come to its end, and
the monitor can go back to sleep. -/
theorem ends_and_rests (hreach : system.Reachable s) :
    (∀ handler, ∃ es t, system.Run s es t ∧ t.handlers handler = .done) ∧
      ∃ es t, system.Run s es t ∧ t.lock = none ∧ t.monitor = .sleeping := by
  have hattended := attended_of_reachable hreach
  have hfrees : ∃ es t, system.Run s es t ∧ t.Attended ∧ t.lock = none := by
    cases hlock : s.lock with
    | none => exact ⟨[], s, .nil s, hattended, hlock⟩
    | some hold =>
        obtain ⟨es, t, hrun, -, hattended', hfree, -⟩ := hattended.releases hlock
        exact ⟨es, t, hrun, hattended', hfree⟩
  obtain ⟨es, t, hrun, hattended', hfree⟩ := hfrees
  constructor
  · intro handler
    obtain ⟨fs, u, hrun', hdone⟩ := hattended'.ends_of_free hfree handler
    exact ⟨es ++ fs, u, hrun.trans hrun', hdone⟩
  · exact (hattended'.rests_of_free hfree).of_run hrun

end

section

open Reference

/-- The handler that selects can come to its end. -/
theorem ends_and_rests_selecting :
    ∃ es t, system.Run
      { onePool.setHandler 0 .holding with lock := some (.selecting 0 [(1, 0)] none) } es t ∧
      t.handlers 0 = .done :=
  (ends_and_rests reachable_selecting).1 0

end

end PoolState

end NoPanic
