/-
# What a registry remembers

The calls of a registry with their outcomes, and its state as a function of them.
Whether a node is registered, and every field of its entry, is read off the history
of calls: this module says how, and proves that the five operations keep it so.

Refused calls are part of the history too. They are the ones that name a node that
is not registered, and they change nothing.
-/

import NoPanic.Discovery.PathSelection
import NoPanic.Math.History

namespace NoPanic

open NoPanic.Math

namespace NodeRegistry

/-- A call and whether it succeeds. -/
structure Call where
  event : Event
  ok : Bool

/-- The call fails. Only calls that name a node can. -/
inductive Refused (r : NodeRegistry) : Event → Prop
  | updateHeartbeat {nodeId : String} {now : Nat} {e : RegistryError}
      (error : r.updateHeartbeat nodeId now = .error e) : Refused r (.updateHeartbeat nodeId now)
  | updateHeartbeatWithMetrics {nodeId : String} {metrics : NodeMetrics} {now : Nat}
      {e : RegistryError}
      (error : r.updateHeartbeatWithMetrics nodeId metrics now = .error e) :
      Refused r (.updateHeartbeatWithMetrics nodeId metrics now)
  | removeNode {nodeId : String} {e : RegistryError} (error : r.removeNode nodeId = .error e) :
      Refused r (.removeNode nodeId)

/-- The runs of a registry with all calls, also the refused ones. -/
def callSystem (allowSameIp : Bool) : TransitionSystem NodeRegistry Call where
  init r := r = new allowSameIp
  step r c r' := if c.ok then Step r c.event r' else Refused r c.event ∧ r' = r

/-! ## The history of a node -/

/-- The descriptor that a call registers for a node. -/
def descriptor? (n : String) (_ : List Call) (c : Call) : Option NodeDescriptor :=
  match c.event with
  | .registerNode d _ => if d.nodeId = n then some d else none
  | _ => none

/-- The time at which a call registers a node or renews it. -/
def seen? (n : String) (_ : List Call) (c : Call) : Option Nat :=
  match c.event, c.ok with
  | .registerNode d now, _ => if d.nodeId = n then some now else none
  | .updateHeartbeat nodeId now, true => if nodeId = n then some now else none
  | .updateHeartbeatWithMetrics nodeId _ now, true => if nodeId = n then some now else none
  | _, _ => none

/-- A call registers a node. -/
def Registers (n : String) (_ : List Call) (c : Call) : Prop :=
  ∃ d now, c.event = .registerNode d now ∧ d.nodeId = n

/-- A call removes a node: by its id, by registering another node at its address, or by
a cleanup that finds it stale. -/
def Removes (n : String) (before : List Call) (c : Call) : Prop :=
  match c.event with
  | .removeNode nodeId => nodeId = n
  | .registerNode d _ => d.nodeId ≠ n ∧
      ∃ last, latest (descriptor? n) before = some last ∧ last.address = d.address
  | .cleanupStaleNodes timeout now =>
      ∃ lastSeen, latest (seen? n) before = some lastSeen ∧ now - lastSeen > timeout
  | _ => False

/-- A node has been registered, and has not been removed since. -/
def Present (n : String) (calls : List Call) : Prop := Since (Registers n) (Removes n) calls

open Classical in
/-- The time at which a call inserts a node that is absent. -/
noncomputable def inserted? (n : String) (before : List Call) (c : Call) : Option Nat :=
  match c.event with
  | .registerNode d now => if d.nodeId = n ∧ ¬ Present n before then some now else none
  | _ => none

open Classical in
/-- The metrics that a call reports for a node. Inserting the node forgets them. -/
noncomputable def reported? (n : String) (before : List Call) (c : Call) :
    Option (Option NodeMetrics) :=
  match c.event, c.ok with
  | .registerNode d _, _ => if d.nodeId = n ∧ ¬ Present n before then some none else none
  | .updateHeartbeatWithMetrics nodeId metrics _, true =>
      if nodeId = n then some (some metrics) else none
  | _, _ => none

/-- An entry holds what the history says of its node. -/
structure Described (n : String) (calls : List Call) (entry : NodeEntry) : Prop where
  present : Present n calls
  descriptor : latest (descriptor? n) calls = some entry.descriptor
  lastHeartbeat : latest (seen? n) calls = some entry.lastHeartbeat
  registeredAt : latest (inserted? n) calls = some entry.registeredAt
  metrics : latest (reported? n) calls = some entry.metrics

/-- What the registry holds of a node is what the history says. -/
def Remembers (calls : List Call) (n : String) : Option NodeEntry → Prop
  | none => ¬ Present n calls
  | some entry => Described n calls entry

/-- No two entries have one address. -/
def AddressesDistinct (r : NodeRegistry) : Prop :=
  ∀ n n' entry entry', r.nodes.lookup n = some entry → r.nodes.lookup n' = some entry' →
    entry.descriptor.address = entry'.descriptor.address → n = n'

/-! ## The entries after an operation -/

/-- Registering a node files it, and drops the others at its address. -/
theorem lookup_registerNode (r : NodeRegistry) (d : NodeDescriptor) (now : Nat) (n : String) :
    (r.registerNode d now).nodes.lookup n =
      if n = d.nodeId then
        some (match r.nodes.lookup n with
          | none => NodeEntry.new d now now
          | some entry => { entry with descriptor := d, lastHeartbeat := now })
      else (r.nodes.lookup n).filter fun entry => entry.descriptor.address != d.address := by
  have hretained : ∀ m, (r.nodes.retain fun id entry =>
      id == d.nodeId || entry.descriptor.address != d.address).lookup m =
        (r.nodes.lookup m).filter fun entry =>
          m == d.nodeId || entry.descriptor.address != d.address :=
    HashMap.lookup_retain _ _
  have hown : (r.nodes.retain fun id entry =>
      id == d.nodeId || entry.descriptor.address != d.address).lookup d.nodeId =
        r.nodes.lookup d.nodeId := by
    rw [hretained]
    cases r.nodes.lookup d.nodeId <;> simp
  rw [registerNode, hown]
  by_cases hn : n = d.nodeId
  · subst hn
    rw [if_pos rfl]
    cases r.nodes.lookup d.nodeId with
    | none => simp only [HashMap.lookup_insert_eq, if_true]
    | some entry => simp only [HashMap.lookup_insert_eq, if_true]
  · rw [if_neg hn]
    have hbne : (n == d.nodeId) = false := by simpa using hn
    cases r.nodes.lookup d.nodeId with
    | none => simp only [HashMap.lookup_insert_eq, if_neg hn, hretained, hbne, Bool.false_or]
    | some entry => simp only [HashMap.lookup_insert_eq, if_neg hn, hretained, hbne, Bool.false_or]

/-- A heartbeat renews one entry. -/
theorem lookup_updateHeartbeat {r r' : NodeRegistry} {nodeId : String} {now : Nat}
    (ok : r.updateHeartbeat nodeId now = .ok r') (n : String) :
    (r.nodes.lookup nodeId).isSome ∧ r'.nodes.lookup n =
      if n = nodeId then (r.nodes.lookup n).map fun entry => { entry with lastHeartbeat := now }
      else r.nodes.lookup n := by
  rw [updateHeartbeat] at ok
  cases hentry : r.nodes.lookup nodeId with
  | none =>
      rw [hentry] at ok
      cases ok
  | some entry =>
      rw [hentry] at ok
      cases ok
      exact ⟨rfl, HashMap.lookup_insert_present hentry
        (fun entry => { entry with lastHeartbeat := now }) n⟩

/-- A heartbeat with metrics renews one entry and records the metrics in it. -/
theorem lookup_updateHeartbeatWithMetrics {r r' : NodeRegistry} {nodeId : String}
    {metrics : NodeMetrics} {now : Nat}
    (ok : r.updateHeartbeatWithMetrics nodeId metrics now = .ok r') (n : String) :
    (r.nodes.lookup nodeId).isSome ∧ r'.nodes.lookup n =
      if n = nodeId then
        (r.nodes.lookup n).map fun entry =>
          { entry with lastHeartbeat := now, metrics := some metrics }
      else r.nodes.lookup n := by
  rw [updateHeartbeatWithMetrics] at ok
  cases hentry : r.nodes.lookup nodeId with
  | none =>
      rw [hentry] at ok
      cases ok
  | some entry =>
      rw [hentry] at ok
      cases ok
      exact ⟨rfl, HashMap.lookup_insert_present hentry
        (fun entry => { entry with lastHeartbeat := now, metrics := some metrics }) n⟩

/-- Removing a node removes its entry. -/
theorem lookup_removeNode {r r' : NodeRegistry} {nodeId : String}
    (ok : r.removeNode nodeId = .ok r') (n : String) :
    r'.nodes.lookup n = if n = nodeId then none else r.nodes.lookup n := by
  rw [removeNode] at ok
  split at ok
  · cases ok
  · cases ok
    exact HashMap.lookup_erase_eq _ _ _

/-- A cleanup keeps the entries that are not stale. -/
theorem lookup_cleanupStaleNodes (r : NodeRegistry) (timeout now : Nat) (n : String) :
    (r.cleanupStaleNodes timeout now).1.nodes.lookup n =
      (r.nodes.lookup n).filter fun entry => !decide (now - entry.lastHeartbeat > timeout) :=
  HashMap.lookup_retain _ _ _

/-! ## What every call keeps -/

/-- A call that says nothing about a node. -/
structure Foreign (n : String) (calls : List Call) (c : Call) : Prop where
  descriptor : descriptor? n calls c = none
  seen : seen? n calls c = none
  inserted : inserted? n calls c = none
  reported : reported? n calls c = none
  registers : ¬ Registers n calls c
  removes : ¬ Removes n calls c

section

variable {n : String} {calls : List Call} {c : Call}

/-- A call that neither registers nor removes a node leaves it where it is. -/
theorem present_snoc_iff (hregisters : ¬ Registers n calls c) (hremoves : ¬ Removes n calls c) :
    Present n (calls ++ [c]) ↔ Present n calls := by
  rw [Present, since_snoc]
  constructor
  · rintro (hreg | ⟨hbefore, -⟩)
    · exact absurd hreg hregisters
    · exact hbefore
  · exact fun hbefore => Or.inr ⟨hbefore, hremoves⟩

/-- A foreign call leaves the memory of a node as it is. -/
theorem Foreign.remembers {o : Option NodeEntry} (hforeign : Foreign n calls c)
    (h : Remembers calls n o) : Remembers (calls ++ [c]) n o := by
  have hpresent := present_snoc_iff hforeign.registers hforeign.removes
  cases o with
  | none => exact fun hafter => h (hpresent.mp hafter)
  | some entry =>
      obtain ⟨hp, hd, hl, hr, hm⟩ := h
      refine ⟨hpresent.mpr hp, ?_, ?_, ?_, ?_⟩
      · simp [hforeign.descriptor, hd]
      · simp [hforeign.seen, hl]
      · simp [hforeign.inserted, hr]
      · simp [hforeign.reported, hm]

/-- A call that removes a node, and does not register it, leaves it absent. -/
theorem remembers_none_of_removes (hregisters : ¬ Registers n calls c)
    (hremoves : Removes n calls c) : Remembers (calls ++ [c]) n none := by
  intro hpresent
  rcases (since_snoc _ _ _ _).mp hpresent with hreg | ⟨-, hkept⟩
  · exact hregisters hreg
  · exact hkept hremoves

/-- A call that does not register a node, and removes it exactly when its entry fails a test,
leaves the entry if it passes. -/
theorem remembers_filter {o : Option NodeEntry} {test : NodeEntry → Bool}
    (hregisters : ¬ Registers n calls c) (hforeign : ¬ Removes n calls c → Foreign n calls c)
    (hremoves : ∀ entry, Described n calls entry → (Removes n calls c ↔ test entry = false))
    (h : Remembers calls n o) : Remembers (calls ++ [c]) n (o.filter test) := by
  cases o with
  | none =>
      intro hpresent
      rcases (since_snoc _ _ _ _).mp hpresent with hreg | ⟨hbefore, -⟩
      · exact hregisters hreg
      · exact h hbefore
  | some entry =>
      have hiff := hremoves entry h
      by_cases htest : test entry = false
      · rw [Option.filter_some_neg (by simp [htest])]
        exact remembers_none_of_removes hregisters (hiff.mpr htest)
      · rw [Option.filter_some_pos (by simpa using htest)]
        exact (hforeign fun hremoved => htest (hiff.mp hremoved)).remembers h

end

/-- Registering a node keeps the memory of every node. -/
theorem remembers_registerNode {calls : List Call} {r : NodeRegistry} (d : NodeDescriptor)
    (now : Nat) (ok : Bool) (n : String) (h : Remembers calls n (r.nodes.lookup n)) :
    Remembers (calls ++ [⟨.registerNode d now, ok⟩]) n
      ((r.registerNode d now).nodes.lookup n) := by
  rw [lookup_registerNode]
  by_cases hn : n = d.nodeId
  · -- the node itself: it is inserted, or its entry is updated
    rw [if_pos hn]
    have hpresent : Present n (calls ++ [⟨.registerNode d now, ok⟩]) :=
      (since_snoc _ _ _ _).mpr (Or.inl ⟨d, now, rfl, hn.symm⟩)
    cases hentry : r.nodes.lookup n with
    | none =>
        rw [hentry] at h
        have habsent : ¬ Present n calls := h
        refine ⟨hpresent, ?_, ?_, ?_, ?_⟩
        · simp [descriptor?, hn, NodeEntry.new]
        · simp [seen?, hn, NodeEntry.new]
        · simp [inserted?, ← hn, habsent, NodeEntry.new]
        · simp [reported?, ← hn, habsent, NodeEntry.new]
    | some entry =>
        rw [hentry] at h
        obtain ⟨hp, hd, hl, hr, hm⟩ := h
        refine ⟨hpresent, ?_, ?_, ?_, ?_⟩
        · simp [descriptor?, hn]
        · simp [seen?, hn]
        · simp [inserted?, hp, hr]
        · simp [reported?, hp, hm]
  · -- another node: it is dropped if it has the address
    rw [if_neg hn]
    have hregisters : ¬ Registers n calls ⟨.registerNode d now, ok⟩ := by
      rintro ⟨d', now', heq, hid⟩
      cases heq
      exact hn hid.symm
    refine remembers_filter hregisters ?_ ?_ h
    · intro hkept
      refine ⟨?_, ?_, ?_, ?_, hregisters, hkept⟩
      · simp [descriptor?, Ne.symm hn]
      · simp [seen?, Ne.symm hn]
      · simp [inserted?, Ne.symm hn]
      · simp [reported?, Ne.symm hn]
    · intro entry hentry
      simp [Removes, hentry.descriptor, Ne.symm hn]

/-- A renewal keeps the memory of every node. -/
theorem remembers_renewal {calls : List Call} {r r' : NodeRegistry} {nodeId : String} {now : Nat}
    {event : Event} (report : Option NodeMetrics)
    (hevent : event = match report with
      | none => .updateHeartbeat nodeId now
      | some metrics => .updateHeartbeatWithMetrics nodeId metrics now)
    (hlookup : ∀ n, r'.nodes.lookup n =
      if n = nodeId then
        (r.nodes.lookup n).map fun entry =>
          { entry with lastHeartbeat := now, metrics := report.or entry.metrics }
      else r.nodes.lookup n)
    (n : String) (h : Remembers calls n (r.nodes.lookup n)) :
    Remembers (calls ++ [⟨event, true⟩]) n (r'.nodes.lookup n) := by
  have hregisters : ¬ Registers n calls ⟨event, true⟩ := by
    rintro ⟨d, t, heq, -⟩
    cases report <;> rw [hevent] at heq <;> cases heq
  have hremoves : ¬ Removes n calls ⟨event, true⟩ := by
    cases report <;> rw [hevent] <;> exact id
  have hpresent := present_snoc_iff hregisters hremoves
  rw [hlookup]
  by_cases hn : n = nodeId
  · subst hn
    rw [if_pos rfl]
    cases hentry : r.nodes.lookup n with
    | none =>
        rw [hentry] at h
        exact fun hafter => h (hpresent.mp hafter)
    | some entry =>
        rw [hentry] at h
        obtain ⟨hp, hd, hl, hr, hm⟩ := h
        refine ⟨hpresent.mpr hp, ?_, ?_, ?_, ?_⟩
        · cases report <;> simp [hevent, descriptor?, hd]
        · cases report <;> simp [hevent, seen?]
        · cases report <;> simp [hevent, inserted?, hr]
        · cases report with
          | none => simp [hevent, reported?, hm]
          | some metrics => simp [hevent, reported?]
  · rw [if_neg hn]
    refine Foreign.remembers ⟨?_, ?_, ?_, ?_, hregisters, hremoves⟩ h
    · cases report <;> simp [hevent, descriptor?]
    · cases report <;> simp [hevent, seen?, Ne.symm hn]
    · cases report <;> simp [hevent, inserted?]
    · cases report <;> simp [hevent, reported?, Ne.symm hn]

/-- Every call keeps the memory of every node. -/
theorem remembers_step {allowSameIp : Bool} {calls : List Call} {r r' : NodeRegistry} {c : Call}
    (h : ∀ n, Remembers calls n (r.nodes.lookup n))
    (hstep : (callSystem allowSameIp).step r c r') (n : String) :
    Remembers (calls ++ [c]) n (r'.nodes.lookup n) := by
  obtain ⟨event, ok⟩ := c
  cases ok with
  | true =>
      have hstep' : Step r event r' := hstep
      cases hstep' with
      | registerNode d now => exact remembers_registerNode d now true n (h n)
      | updateHeartbeat ok =>
          refine remembers_renewal none rfl ?_ n (h n)
          intro m
          simpa using (lookup_updateHeartbeat ok m).2
      | @updateHeartbeatWithMetrics _ _ metrics _ ok =>
          refine remembers_renewal (some metrics) rfl ?_ n (h n)
          intro m
          simpa using (lookup_updateHeartbeatWithMetrics ok m).2
      | @removeNode _ nodeId ok =>
          rw [lookup_removeNode ok]
          by_cases hn : n = nodeId
          · rw [if_pos hn]
            refine remembers_none_of_removes ?_ hn.symm
            rintro ⟨d, now, heq, -⟩
            cases heq
          · rw [if_neg hn]
            refine Foreign.remembers ⟨rfl, rfl, rfl, rfl, ?_, Ne.symm hn⟩ (h n)
            rintro ⟨d, now, heq, -⟩
            cases heq
      | cleanupStaleNodes timeout now =>
          have hregisters : ¬ Registers n calls ⟨.cleanupStaleNodes timeout now, true⟩ := by
            rintro ⟨d, t, heq, -⟩
            cases heq
          rw [lookup_cleanupStaleNodes]
          refine remembers_filter hregisters
            (fun hkept => ⟨rfl, rfl, rfl, rfl, hregisters, hkept⟩) ?_ (h n)
          intro entry hentry
          simp [Removes, hentry.lastHeartbeat]
      | reorder same =>
          refine (congrArg (Remembers _ n) (same.lookup_eq n)).mpr ?_
          refine Foreign.remembers ⟨rfl, rfl, rfl, rfl, ?_, id⟩ (h n)
          rintro ⟨d, now, heq, -⟩
          cases heq
  | false =>
      obtain ⟨hrefused, rfl⟩ : Refused r event ∧ r' = r := by simpa [callSystem] using hstep
      have hn := h n
      cases hrefused with
      | updateHeartbeat error =>
          refine Foreign.remembers ⟨rfl, rfl, rfl, rfl, ?_, id⟩ hn
          rintro ⟨d, now, heq, -⟩
          cases heq
      | updateHeartbeatWithMetrics error =>
          refine Foreign.remembers ⟨rfl, rfl, rfl, rfl, ?_, id⟩ hn
          rintro ⟨d, now, heq, -⟩
          cases heq
      | @removeNode nodeId e error =>
          -- the node that is named is absent already
          have hnone : r'.nodes.lookup nodeId = none := by
            rw [NodeRegistry.removeNode] at error
            split at error
            · assumption
            · cases error
          by_cases hid : n = nodeId
          · rw [hid, hnone]
            refine remembers_none_of_removes ?_ rfl
            rintro ⟨d, now, heq, -⟩
            cases heq
          · refine Foreign.remembers ⟨rfl, rfl, rfl, rfl, ?_, Ne.symm hid⟩ hn
            rintro ⟨d, now, heq, -⟩
            cases heq

/-- Descriptors that were there before, under their ids, have distinct addresses still. -/
theorem AddressesDistinct.of_descriptors {r r' : NodeRegistry} (h : r.AddressesDistinct)
    (hsub : ∀ n entry', r'.nodes.lookup n = some entry' →
      ∃ entry, r.nodes.lookup n = some entry ∧ entry.descriptor = entry'.descriptor) :
    r'.AddressesDistinct := by
  intro n n' e e' hn hn' haddress
  obtain ⟨old, hold, hdescriptor⟩ := hsub n e hn
  obtain ⟨old', hold', hdescriptor'⟩ := hsub n' e' hn'
  rw [← hdescriptor, ← hdescriptor'] at haddress
  exact h n n' old old' hold hold' haddress

/-- Renewing an entry leaves its address. -/
theorem AddressesDistinct.of_renewal {r r' : NodeRegistry} {nodeId : String}
    {renew : NodeEntry → NodeEntry} (h : r.AddressesDistinct)
    (hlookup : ∀ n, r'.nodes.lookup n =
      if n = nodeId then (r.nodes.lookup n).map renew else r.nodes.lookup n)
    (hrenew : ∀ entry, (renew entry).descriptor = entry.descriptor) : r'.AddressesDistinct := by
  apply h.of_descriptors
  intro n entry' hentry'
  rw [hlookup] at hentry'
  split at hentry'
  · obtain ⟨entry, hentry, rfl⟩ := Option.map_eq_some_iff.mp hentry'
    exact ⟨entry, hentry, (hrenew entry).symm⟩
  · exact ⟨entry', hentry', rfl⟩

/-- Every step keeps the addresses distinct. -/
theorem Step.addressesDistinct {r r' : NodeRegistry} {e : Event} (h : r.AddressesDistinct)
    (hstep : Step r e r') : r'.AddressesDistinct := by
  cases hstep with
  | registerNode d now =>
      -- the registered node has its address alone, and the others are older entries
      have hown : ∀ n entry, (r.registerNode d now).nodes.lookup n = some entry →
          n = d.nodeId ∧ entry.descriptor.address = d.address ∨
            n ≠ d.nodeId ∧ entry.descriptor.address ≠ d.address ∧
              r.nodes.lookup n = some entry := by
        intro n entry hlookup
        rw [lookup_registerNode] at hlookup
        by_cases hn : n = d.nodeId
        · rw [if_pos hn] at hlookup
          refine Or.inl ⟨hn, ?_⟩
          rw [← Option.some.inj hlookup]
          cases r.nodes.lookup n <;> rfl
        · rw [if_neg hn, Option.filter_eq_some_iff] at hlookup
          exact Or.inr ⟨hn, by simpa using hlookup.2, hlookup.1⟩
      intro n n' entry entry' hn hn' haddress
      rcases hown n entry hn with ⟨rfl, hd⟩ | ⟨-, hd, hold⟩
      · rcases hown n' entry' hn' with ⟨rfl, -⟩ | ⟨-, hd', -⟩
        · rfl
        · exact absurd (haddress.symm.trans hd) hd'
      · rcases hown n' entry' hn' with ⟨-, hd'⟩ | ⟨-, -, hold'⟩
        · exact absurd (haddress.trans hd') hd
        · exact h n n' entry entry' hold hold' haddress
  | updateHeartbeat ok =>
      exact h.of_renewal (fun n => (lookup_updateHeartbeat ok n).2) fun _ => rfl
  | updateHeartbeatWithMetrics ok =>
      exact h.of_renewal (fun n => (lookup_updateHeartbeatWithMetrics ok n).2) fun _ => rfl
  | removeNode ok =>
      apply h.of_descriptors
      intro n entry' hlookup
      rw [lookup_removeNode ok] at hlookup
      split at hlookup
      · cases hlookup
      · exact ⟨entry', hlookup, rfl⟩
  | cleanupStaleNodes timeout now =>
      apply h.of_descriptors
      intro n entry' hlookup
      rw [lookup_cleanupStaleNodes, Option.filter_eq_some_iff] at hlookup
      exact ⟨entry', hlookup.1, rfl⟩
  | reorder same =>
      apply h.of_descriptors
      intro n entry' hlookup
      exact ⟨entry', by rw [← same.lookup_eq]; exact hlookup, rfl⟩

/-- A call is a step or changes nothing. -/
theorem step_of_call {allowSameIp : Bool} {r r' : NodeRegistry} {c : Call}
    (hstep : (callSystem allowSameIp).step r c r') : Step r c.event r' ∨ r' = r := by
  obtain ⟨event, ok⟩ := c
  cases ok with
  | true => exact Or.inl hstep
  | false => exact Or.inr (by simpa [callSystem] using hstep : Refused r event ∧ r' = r).2

/-- A registry is what its history says. In every run of its calls, a node is in it
exactly when it has been registered and not been removed since: by its id, by another
node at its address, or by a cleanup that found it stale. Every entry holds the last
registered descriptor, the last report since the node was inserted, and the times at
which it was inserted and last seen. Keys are the ids of their entries, no two entries
share an address, and a call that fails changes nothing. -/
theorem registry_history {allowSameIp : Bool} {calls : List Call} {r : NodeRegistry}
    (hrun : (callSystem allowSameIp).Run (new allowSameIp) calls r) :
    (∀ n, (r.nodes.lookup n).isSome ↔ Present n calls) ∧
    (∀ n entry, r.nodes.lookup n = some entry →
      latest (descriptor? n) calls = some entry.descriptor ∧
      latest (reported? n) calls = some entry.metrics ∧
      latest (inserted? n) calls = some entry.registeredAt ∧
      latest (seen? n) calls = some entry.lastHeartbeat) ∧
    r.Keyed ∧ r.AddressesDistinct ∧
    (∀ event r', (callSystem allowSameIp).step r ⟨event, false⟩ r' → r' = r) := by
  have hall : (∀ n, Remembers calls n (r.nodes.lookup n)) ∧ r.Keyed ∧ r.AddressesDistinct := by
    refine TransitionSystem.Run.invariant_history (fun r calls =>
      (∀ n, Remembers calls n (r.nodes.lookup n)) ∧ r.Keyed ∧ r.AddressesDistinct) ?_ ?_ hrun
    · refine ⟨?_, ?_, ?_⟩
      · intro n
        exact not_since_nil _ _
      · intro n entry hlookup
        simp [new] at hlookup
      · intro n n' entry entry' hlookup
        simp [new] at hlookup
    · rintro r calls c r' - ⟨hremembers, hkeyed, hdistinct⟩ hstep
      refine ⟨remembers_step hremembers hstep, ?_, ?_⟩
      · rcases step_of_call hstep with hok | rfl
        · exact hok.keyed hkeyed
        · exact hkeyed
      · rcases step_of_call hstep with hok | rfl
        · exact hok.addressesDistinct hdistinct
        · exact hdistinct
  obtain ⟨hremembers, hkeyed, hdistinct⟩ := hall
  refine ⟨?_, ?_, hkeyed, hdistinct, ?_⟩
  · intro n
    have hn := hremembers n
    cases hentry : r.nodes.lookup n with
    | none =>
        rw [hentry] at hn
        exact iff_of_false (by simp) hn
    | some entry =>
        rw [hentry] at hn
        exact iff_of_true rfl hn.present
  · intro n entry hentry
    have hn := hremembers n
    rw [hentry] at hn
    exact ⟨hn.descriptor, hn.metrics, hn.registeredAt, hn.lastHeartbeat⟩
  · intro event r' hstep
    exact (by simpa [callSystem] using hstep : Refused r event ∧ r' = r).2

/-- A relay is registered and renewed, and then another one takes its address: the first
is no longer there, and renewing it fails. -/
theorem registry_history_evictedNode :
    ∃ r, (callSystem false).Run (new false)
        [⟨.registerNode (publicNode "a" .entry 1) 0, true⟩, ⟨.updateHeartbeat "a" 5, true⟩,
          ⟨.registerNode (publicNode "b" .middle 1) 7, true⟩, ⟨.updateHeartbeat "a" 8, false⟩] r ∧
      (r.nodes.lookup "a").isSome = false ∧ r.Keyed ∧ r.AddressesDistinct := by
  let r₁ := (new false).registerNode (publicNode "a" .entry 1) 0
  let entry : NodeEntry := ⟨publicNode "a" .entry 1, 0, 5, none⟩
  let r₂ : NodeRegistry := { r₁ with nodes := r₁.nodes.insert "a" entry }
  let r₃ := r₂.registerNode (publicNode "b" .middle 1) 7
  have h₁ : (callSystem false).step (new false)
      ⟨.registerNode (publicNode "a" .entry 1) 0, true⟩ r₁ := Step.registerNode _ _ _
  have h₂ : (callSystem false).step r₁ ⟨.updateHeartbeat "a" 5, true⟩ r₂ :=
    Step.updateHeartbeat rfl
  have h₃ : (callSystem false).step r₂ ⟨.registerNode (publicNode "b" .middle 1) 7, true⟩ r₃ :=
    Step.registerNode _ _ _
  have h₄ : (callSystem false).step r₃ ⟨.updateHeartbeat "a" 8, false⟩ r₃ :=
    ⟨.updateHeartbeat (e := .nodeNotFound "a") rfl, rfl⟩
  have hrun := ((((TransitionSystem.Run.nil (new false)).snoc h₁).snoc h₂).snoc h₃).snoc h₄
  have hhistory := registry_history hrun
  exact ⟨r₃, hrun, by decide, hhistory.2.2.1, hhistory.2.2.2.1⟩

end NodeRegistry

end NoPanic
