/-
# The client's list of nodes

`DirectoryClient::get_all_nodes` gives the list it has while that is younger than the time to live,
and otherwise asks the directory. The time to live begins when the answer has arrived, so a list
may be older than that by the time the answer took.

One client is put in front of a directory that serves anyone else in between, on one clock. A list
that the client returns is the directory's own at a moment that lies no further back than the time
to live and the delay of an answer, and the client asks no more often than the time to live allows.
-/

import NoPanic.Client.Directory

namespace NoPanic

open NoPanic.Math

/-- The cache of the directory's client. Times are in nanoseconds. -/
structure DirectoryClient where
  cachedNodes : List NodeDescriptor
  cacheExpiry : Option Nat
  cacheTtl : Nat

namespace DirectoryClient

/-- A new client has no list, and keeps one for five minutes. -/
def new : DirectoryClient := ⟨[], none, 300 * 10 ^ 9⟩

/-- `is_cache_valid`. -/
def isCacheValid (client : DirectoryClient) (now : Nat) : Bool :=
  (client.cacheExpiry.map fun expiry => decide (now < expiry)).getD false

section

variable [AddrText] [EnumText]

/-- `get_all_nodes` after the directory has answered, or could not be asked. -/
def fetched (client : DirectoryClient) (answer : Except Status DiscoveryReply) (now : Nat) :
    DirectoryClient × Except DirectoryError (List NodeDescriptor) :=
  match answer with
  | .error status =>
      (client, .error (.rpc "Failed to get all nodes from discovery service" status))
  | .ok response =>
      match parseNodes response with
      | .error e => (client, .error e)
      | .ok nodes =>
          ({ client with cachedNodes := nodes, cacheExpiry := some (now + client.cacheTtl) },
            .ok nodes)

/-- A list that has been fetched is kept from then on; anything else leaves the cache as it is. -/
theorem fetched_cases (client : DirectoryClient) (answer : Except Status DiscoveryReply)
    (now : Nat) :
    (∃ response nodes, answer = .ok response ∧ parseNodes response = .ok nodes ∧
      client.fetched answer now =
        ({ client with cachedNodes := nodes, cacheExpiry := some (now + client.cacheTtl) },
          .ok nodes)) ∨
    ∃ e, client.fetched answer now = (client, .error e) := by
  cases answer with
  | error status => exact Or.inr ⟨_, rfl⟩
  | ok response =>
      cases hparsed : parseNodes response with
      | error e => exact Or.inr ⟨e, by simp only [fetched, hparsed]⟩
      | ok nodes =>
          exact Or.inl ⟨response, nodes, rfl, hparsed, by simp only [fetched, hparsed]⟩

end

end DirectoryClient

/-- Where a call of `get_all_nodes` stands: there is none, or the request is on its way, or the
answer of some time is. -/
inductive FetchPhase
  | idle
  | asking
  | answered (answer : Except Status DiscoveryReply) (since : Nat)

/-- A client and a directory, on one clock. -/
structure NodeCache where
  directory : DiscoveryService
  clock : Nat
  client : DirectoryClient
  phase : FetchPhase

/-- What happens to a client and a directory. -/
inductive CacheEvent
  | serves
  | waits (now : Nat)
  | hits (nodes : List NodeDescriptor)
  | asks
  | answers
  | loses (status : Status)
  | receives (now : Nat) (result : Except DirectoryError (List NodeDescriptor))

/-- The list that a call returns. -/
def CacheEvent.returned? : CacheEvent → Option (List NodeDescriptor)
  | .hits nodes => some nodes
  | .receives _ (.ok nodes) => some nodes
  | _ => none

namespace NodeCache

section

variable [AddrText] [EnumText]

/-- The steps. The directory does what it does, the client is called, and the directory's answer,
which is drawn up at one moment, arrives later or never. -/
inductive Step : NodeCache → CacheEvent → NodeCache → Prop
  | serves {s : NodeCache} {e : ServiceEvent} {t : DiscoveryService}
      (step : DiscoveryService.Step s.directory e t) : Step s .serves { s with directory := t }
  | waits {s : NodeCache} {now : Nat} (later : s.clock ≤ now) :
      Step s (.waits now) { s with clock := now }
  | hits {s : NodeCache} (idle : s.phase = .idle) (valid : s.client.isCacheValid s.clock = true) :
      Step s (.hits s.client.cachedNodes) s
  | asks {s : NodeCache} (idle : s.phase = .idle)
      (invalid : s.client.isCacheValid s.clock = false) : Step s .asks { s with phase := .asking }
  | answers {s : NodeCache} (asking : s.phase = .asking) :
      Step s .answers
        { s with
          directory := s.directory.leave s.directory.registry []
          phase := .answered (DiscoveryService.getAllNodes s.directory.registry).reply s.clock }
  | loses {s : NodeCache} (busy : s.phase ≠ .idle) (status : Status) :
      Step s (.loses status)
        { s with client := (s.client.fetched (.error status) s.clock).1, phase := .idle }
  | receives {s : NodeCache} {answer : Except Status DiscoveryReply} {since : Nat}
      (answered : s.phase = .answered answer since) :
      Step s (.receives s.clock (s.client.fetched answer s.clock).2)
        { s with client := (s.client.fetched answer s.clock).1, phase := .idle }

/-- The runs of a new client and a directory that has served nothing. -/
def system (allowSameIp : Bool) (metrics : Option DiscoveryMetrics) :
    TransitionSystem NodeCache CacheEvent where
  init s := s.directory = DiscoveryService.start allowSameIp metrics ∧
    s.client = DirectoryClient.new ∧ s.phase = .idle
  step := Step

/-- An answer arrives within a delay. -/
def Prompt (delay : Nat) (s : NodeCache) : CacheEvent → Prop
  | .receives _ _ => ∀ answer since, s.phase = .answered answer since → s.clock ≤ since + delay
  | _ => True

/-- The runs in which answers arrive within a delay. -/
def prompt (allowSameIp : Bool) (metrics : Option DiscoveryMetrics) (delay : Nat) :
    TransitionSystem NodeCache CacheEvent :=
  (system allowSameIp metrics).restrict (Prompt delay)

/-- The directory lists these nodes, and this moment is no further back from a time than `age`. -/
def Lists (nodes : List NodeDescriptor) (now age : Nat) (s : NodeCache) : Prop :=
  nodes = s.directory.registry.descriptors ∧ now ≤ s.clock + age

variable {allowSameIp : Bool} {metrics : Option DiscoveryMetrics} {delay : Nat}
  {s₀ s s' : NodeCache} {e : CacheEvent} {es : List CacheEvent}

/-- The state of the cache: no list has been received, or the latest is kept, and was the
directory's own shortly before. -/
inductive Kept (allowSameIp : Bool) (metrics : Option DiscoveryMetrics) (delay : Nat)
    (s₀ s : NodeCache) (es : List CacheEvent) : Prop
  | empty (none_expiry : s.client.cacheExpiry = none)
      (none_received : ∀ t nodes, .receives t (.ok nodes) ∉ es)
  | kept (latest : Nat) (some_expiry : s.client.cacheExpiry = some (latest + s.client.cacheTtl))
      (past : latest ≤ s.clock)
      (last_received : ∀ t nodes, .receives t (.ok nodes) ∈ es → t ≤ latest)
      (lists : (prompt allowSameIp metrics delay).Passes
        (Lists s.client.cachedNodes latest delay) s₀ es s)

/-- What holds of a client and a directory. -/
structure Recent (allowSameIp : Bool) (metrics : Option DiscoveryMetrics) (delay : Nat)
    (s₀ s : NodeCache) (es : List CacheEvent) : Prop where
  directory : (DiscoveryService.system allowSameIp metrics).Reachable s.directory
  ttl : s.client.cacheTtl = DirectoryClient.new.cacheTtl
  kept : Kept allowSameIp metrics delay s₀ s es
  /-- An answer on its way lists the nodes that the directory had when it was drawn up. -/
  answer : ∀ response since, s.phase = .answered (.ok response) since →
    ∀ nodes, DirectoryClient.parseNodes response = .ok nodes →
      (prompt allowSameIp metrics delay).Passes (Lists nodes since 0) s₀ es s

/-- A step that neither the client nor a list takes part in. -/
theorem Kept.snoc (h : Kept allowSameIp metrics delay s₀ s es)
    (hstep : (prompt allowSameIp metrics delay).step s e s') (hclient : s'.client = s.client)
    (hclock : s.clock ≤ s'.clock) (hquiet : ∀ t nodes, e ≠ .receives t (.ok nodes)) :
    Kept allowSameIp metrics delay s₀ s' (es ++ [e]) := by
  have hbefore : ∀ {t nodes}, .receives t (.ok nodes) ∈ es ++ [e] →
      .receives t (.ok nodes) ∈ es := by
    intro t nodes hmem
    rcases List.mem_append.mp hmem with hold | hnew
    · exact hold
    · exact absurd (List.mem_singleton.mp hnew).symm (hquiet t nodes)
  cases h with
  | empty none_expiry none_received =>
      refine .empty (by rw [hclient, none_expiry]) fun t nodes hmem => ?_
      exact none_received t nodes (hbefore hmem)
  | kept latest some_expiry past last_received lists =>
      refine .kept latest (by rw [hclient, some_expiry]) (past.trans hclock) ?_ ?_
      · exact fun t nodes hmem => last_received t nodes (hbefore hmem)
      · rw [hclient]
        exact lists.snoc hstep

/-- A list was received before now. -/
theorem Kept.received_le (h : Kept allowSameIp metrics delay s₀ s es) {t : Nat}
    {nodes : List NodeDescriptor} (hmem : .receives t (.ok nodes) ∈ es) : t ≤ s.clock := by
  cases h with
  | empty none_expiry none_received => exact absurd hmem (none_received t nodes)
  | kept latest some_expiry past last_received => exact (last_received t nodes hmem).trans past

/-- The answer of a directory in use decodes to what it lists. -/
theorem parseNodes_getAllNodes (hread : AddrText.ReadsBack) {d : DiscoveryService}
    (hreach : (DiscoveryService.system allowSameIp metrics).Reachable d)
    {response : DiscoveryReply}
    (hreply : (DiscoveryService.getAllNodes d.registry).reply = .ok response)
    {nodes : List NodeDescriptor} (hparsed : DirectoryClient.parseNodes response = .ok nodes) :
    nodes = d.registry.descriptors := by
  have hsound := DiscoveryService.sound_of_reachable hreach
  have hdecoded := hsound.decodeAll_map hread
    fun x hx => (NodeRegistry.mem_descriptors hsound.keyed).mp hx
  cases hreply
  have hall : DirectoryClient.parseNodes (.allNodes
      (d.registry.descriptors.map Proto.NodeDescriptor.fromCommon)
      (UInt64.ofNat d.registry.descriptors.length)) = .ok d.registry.descriptors := by
    simp only [DirectoryClient.parseNodes, DiscoveryReply.nodes, hdecoded]
  exact Except.ok.inj (hparsed.symm.trans hall)

/-- Every prompt step keeps it so. -/
theorem Recent.step (hread : AddrText.ReadsBack)
    (h : Recent allowSameIp metrics delay s₀ s es)
    (hrun : (prompt allowSameIp metrics delay).Run s₀ es s)
    (hstep : (prompt allowSameIp metrics delay).step s e s') :
    Recent allowSameIp metrics delay s₀ s' (es ++ [e]) := by
  have hlast := hstep
  obtain ⟨hprompt, hstep⟩ := hstep
  cases hstep with
  | serves step =>
      refine ⟨h.directory.next step, h.ttl, h.kept.snoc hlast rfl le_rfl (by simp), ?_⟩
      intro response since hphase nodes hparsed
      exact (h.answer response since hphase nodes hparsed).snoc hlast
  | waits later =>
      refine ⟨h.directory, h.ttl, h.kept.snoc hlast rfl later (by simp), ?_⟩
      intro response since hphase nodes hparsed
      exact (h.answer response since hphase nodes hparsed).snoc hlast
  | hits idle =>
      refine ⟨h.directory, h.ttl, h.kept.snoc hlast rfl le_rfl (by simp), ?_⟩
      intro response since hphase
      cases idle.symm.trans hphase
  | asks =>
      refine ⟨h.directory, h.ttl, h.kept.snoc hlast rfl le_rfl (by simp), ?_⟩
      intro response since hphase
      cases hphase
  | answers asking =>
      refine ⟨?_, h.ttl, h.kept.snoc hlast rfl le_rfl (by simp), ?_⟩
      · have hserves := DiscoveryService.Step.serve (R := NodeRegistry.Draws) s.directory
          .getAllNodes s.clock ⟨[]⟩
        exact h.directory.next hserves
      · intro response since hphase nodes hparsed
        obtain ⟨hreply, rfl⟩ := FetchPhase.answered.inj hphase
        have hnodes := parseNodes_getAllNodes hread h.directory hreply hparsed
        exact (hrun.snoc hlast).passes_last ⟨hnodes, le_rfl⟩
  | loses busy status =>
      refine ⟨h.directory, h.ttl, h.kept.snoc hlast rfl le_rfl (by simp), ?_⟩
      intro response since hphase
      cases hphase
  | @receives answer since answered =>
      refine ⟨h.directory, ?_, ?_, fun response since hphase => by cases hphase⟩
      · rcases s.client.fetched_cases answer s.clock with ⟨_, _, -, -, heq⟩ | ⟨e, heq⟩
        · rw [heq]
          exact h.ttl
        · rw [heq]
          exact h.ttl
      · rcases s.client.fetched_cases answer s.clock with
          ⟨response, nodes, rfl, hparsed, heq⟩ | ⟨e, heq⟩
        · -- the list was drawn up when the answer was, which is at most `delay` ago
          have hlists := h.answer response since answered nodes hparsed
          have hdelay := hprompt _ since answered
          rw [heq] at hlast ⊢
          refine .kept s.clock rfl le_rfl ?_ ?_
          · intro t nodes' hmem
            rcases List.mem_append.mp hmem with hold | hnew
            · exact h.kept.received_le hold
            · cases List.mem_singleton.mp hnew
              exact le_rfl
          · refine (hlists.mono fun u hu => ⟨hu.1, ?_⟩).snoc hlast
            have := hu.2
            omega
        · rw [heq] at hlast ⊢
          exact h.kept.snoc hlast rfl le_rfl (by simp)

/-- A list that `get_all_nodes` returns, from its cache or not, is what the directory listed at
some moment of the run, which lies back no further than the time to live and the delay of an
answer. The client asks the directory only when the time to live has passed since it last received
a list. -/
theorem returns_recent (hread : AddrText.ReadsBack) (hinit : (system allowSameIp metrics).init s₀)
    (hrun : (prompt allowSameIp metrics delay).Run s₀ es s)
    (hstep : (prompt allowSameIp metrics delay).step s e s') :
    (∀ nodes, e.returned? = some nodes → (prompt allowSameIp metrics delay).Passes
      (Lists nodes s.clock (DirectoryClient.new.cacheTtl + delay)) s₀ es s) ∧
    (e = .asks → ∀ t nodes, .receives t (.ok nodes) ∈ es →
      t + DirectoryClient.new.cacheTtl ≤ s.clock) := by
  have hrecent : Recent allowSameIp metrics delay s₀ s es := by
    refine hrun.invariant_history (Recent allowSameIp metrics delay s₀) ?_
      fun s es e t hrun h hstep => h.step hread hrun hstep
    obtain ⟨hdirectory, hclient, hphase⟩ := hinit
    refine ⟨?_, by rw [hclient], .empty (by rw [hclient]; rfl) (by simp), ?_⟩
    · exact TransitionSystem.reachable_of_init hdirectory
    · intro response since hanswered
      cases hphase.symm.trans hanswered
  obtain ⟨hprompt, hstep⟩ := hstep
  refine ⟨fun nodes hreturned => ?_, ?_⟩
  · cases hstep with
    | hits idle valid =>
        cases hreturned
        cases hrecent.kept with
        | empty none_expiry =>
            rw [DirectoryClient.isCacheValid, none_expiry] at valid
            cases valid
        | kept latest some_expiry past last_received lists =>
            have hbefore : s.clock < latest + s.client.cacheTtl := by
              rw [DirectoryClient.isCacheValid, some_expiry] at valid
              exact of_decide_eq_true valid
            rw [hrecent.ttl] at hbefore
            refine lists.mono fun u hu => ⟨hu.1, ?_⟩
            have := hu.2
            omega
    | @receives answer since answered =>
        rcases s.client.fetched_cases answer s.clock with
          ⟨response, nodes', rfl, hparsed, heq⟩ | ⟨e, heq⟩
        · rw [heq] at hreturned
          cases hreturned
          have hdelay := hprompt _ since answered
          refine (hrecent.answer response since answered _ hparsed).mono fun u hu => ⟨hu.1, ?_⟩
          have := hu.2
          omega
        · rw [heq] at hreturned
          cases hreturned
    | _ => cases hreturned
  · rintro rfl t nodes hmem
    cases hstep with
    | asks idle invalid =>
        cases hrecent.kept with
        | empty none_expiry none_received => exact absurd hmem (none_received t nodes)
        | kept latest some_expiry past last_received =>
            have hexpired : latest + s.client.cacheTtl ≤ s.clock := by
              rw [DirectoryClient.isCacheValid, some_expiry] at invalid
              exact Nat.le_of_not_lt (of_decide_eq_false invalid)
            rw [hrecent.ttl] at hexpired
            have := last_received t nodes hmem
            omega

/-- What a directory does by itself it does in front of the client. -/
theorem run_serves {d d' : DiscoveryService} {ds : List ServiceEvent}
    (hrun : (DiscoveryService.system allowSameIp metrics).Run d ds d') (s : NodeCache) :
    (prompt allowSameIp metrics delay).Run { s with directory := d }
      (ds.map fun _ => .serves) { s with directory := d' } := by
  induction hrun with
  | nil => exact .nil _
  | snoc run last ih =>
      rw [List.map_append]
      exact ih.snoc ⟨trivial, .serves last⟩

end

section

open Reference

/-- A new client in front of a new directory. -/
def sampleStart : NodeCache :=
  ⟨DiscoveryService.start false (some (.new 0 0)), 0, DirectoryClient.new, .idle⟩

/-- The answer of a directory that has registered one relay. -/
theorem fetched_sampleCounted :
    (DirectoryClient.new.fetched
      (DiscoveryService.getAllNodes DiscoveryService.sampleCounted.registry).reply 3).2 =
        .ok [Proto.sampleExit] := by
  have hdecoded : Proto.decodeAll
      (DiscoveryService.sampleCounted.registry.descriptors.map Proto.NodeDescriptor.fromCommon) =
        .ok [Proto.sampleExit] := by decide +kernel
  have hreply : (DiscoveryService.getAllNodes DiscoveryService.sampleCounted.registry).reply =
      .ok (.allNodes (DiscoveryService.sampleCounted.registry.descriptors.map
        Proto.NodeDescriptor.fromCommon) 1) := rfl
  simp only [hreply, DirectoryClient.fetched, DirectoryClient.parseNodes, DiscoveryReply.nodes,
    hdecoded]

/-- It is about to arrive. -/
def sampleAnswered : NodeCache :=
  ⟨DiscoveryService.sampleCounted.leave DiscoveryService.sampleCounted.registry [], 3,
    DirectoryClient.new,
    .answered (DiscoveryService.getAllNodes DiscoveryService.sampleCounted.registry).reply 0⟩

/-- When it has arrived, the client returns the relay, which the directory has listed. -/
theorem returns_recent_sampleAnswered : ∃ es,
    (prompt false (some (.new 0 0)) 3).Passes
      (Lists [Proto.sampleExit] 3 (DirectoryClient.new.cacheTtl + 3)) sampleStart es
        sampleAnswered := by
  have hserves : (prompt false (some (.new 0 0)) 3).Run _ _ _ :=
    run_serves DiscoveryService.sampleCounted_run sampleStart
  have hasks := hserves.snoc ⟨by trivial, .asks rfl rfl⟩
  have hanswers := hasks.snoc ⟨by trivial, .answers rfl⟩
  have hwaits := hanswers.snoc ⟨by trivial, .waits (Nat.zero_le 3)⟩
  have hreceives : ∃ t, (prompt false (some (.new 0 0)) 3).step sampleAnswered
      (.receives 3 (.ok [Proto.sampleExit])) t := by
    have hstep := Step.receives (s := sampleAnswered) rfl
    have hresult : (sampleAnswered.client.fetched
        (DiscoveryService.getAllNodes DiscoveryService.sampleCounted.registry).reply
          sampleAnswered.clock).2 = .ok [Proto.sampleExit] := fetched_sampleCounted
    rw [hresult] at hstep
    refine ⟨_, ?_, hstep⟩
    intro answer since hphase
    cases hphase
    exact le_rfl
  obtain ⟨t, hstep⟩ := hreceives
  exact ⟨_, (returns_recent DiscoveryService.readsBack_ipv4 ⟨rfl, rfl, rfl⟩ hwaits hstep).1 _ rfl⟩

end

end NodeCache

end NoPanic
