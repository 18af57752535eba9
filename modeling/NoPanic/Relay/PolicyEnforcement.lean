/-
# Exit policies and the exit handler

A relay registers an exit policy with the directory. Its exit handler is built
without it, so a destination is refused by nobody: the handler tries the resolved
addresses of every BEGIN it accepts, in order, up to the first that connects.

The policy is therefore kept in a run exactly when every address tried in it
happens to be allowed, which is always so under a policy that allows everything.
-/

import NoPanic.Relay.Config
import NoPanic.Relay.Exit

namespace NoPanic

open NoPanic.Math

/-! ## The addresses tried -/

/-- The addresses tried are those up to the first that connects. -/
theorem mem_connectFirst {tcpConnect : SocketAddr → Except String Unit} {lastErr : String}
    {addrs : List SocketAddr} {addr : SocketAddr} :
    addr ∈ (connectFirst tcpConnect lastErr addrs).1 ↔
      ∃ front back, addrs = front ++ addr :: back ∧ ∀ a ∈ front, tcpConnect a ≠ .ok () := by
  induction addrs generalizing lastErr with
  | nil => simp [connectFirst]
  | cons first rest ih =>
      simp only [connectFirst]
      split
      · next hok =>
          constructor
          · intro hmem
            obtain rfl := List.mem_singleton.mp hmem
            exact ⟨[], rest, rfl, by simp⟩
          · rintro ⟨front, back, hsplit, hfront⟩
            cases front with
            | nil => simp [(List.cons.inj hsplit).1]
            | cons a front =>
                obtain ⟨rfl, -⟩ := List.cons.inj hsplit
                exact absurd hok (hfront first (by simp))
      · next e herr =>
          constructor
          · intro hmem
            rcases List.mem_cons.mp hmem with rfl | hmem
            · exact ⟨[], rest, rfl, by simp⟩
            · obtain ⟨front, back, rfl, hfront⟩ := ih.mp hmem
              refine ⟨first :: front, back, rfl, ?_⟩
              intro a ha
              rcases List.mem_cons.mp ha with rfl | ha
              · simp [herr]
              · exact hfront a ha
          · rintro ⟨front, back, hsplit, hfront⟩
            cases front with
            | nil => simp [(List.cons.inj hsplit).1]
            | cons a front =>
                obtain ⟨rfl, hrest⟩ := List.cons.inj hsplit
                refine List.mem_cons_of_mem _ (ih.mpr ⟨front, back, hrest, ?_⟩)
                exact fun a ha => hfront a (by simp [ha])

/-- The addresses tried for a destination. -/
theorem mem_connectTo {io : RelayIo} {dest : String} {addr : SocketAddr} :
    addr ∈ (io.connectTo dest).1 ↔
      ∃ front back, io.resolve dest = .ok (front ++ addr :: back) ∧
        ∀ a ∈ front, io.tcpConnect a ≠ .ok () := by
  simp only [RelayIo.connectTo]
  split
  · next herr => simp [herr]
  · next addrs hok =>
      simp only [mem_connectFirst, hok, Except.ok.injEq]

namespace ExitCircuitHandler

variable [Primitives]

/-- A cell makes the exit try exactly the addresses of the destination it asks
for, if it asks for one. -/
theorem attempt_mem_handleMessage {h : ExitCircuitHandler} {io : RelayIo} {writer : ConnId}
    {msg : Message} {addr : SocketAddr} :
    .attempt addr ∈ (h.handleMessage io (some writer) msg).effects ↔
      ∃ dest, h.destination? msg = some dest ∧ addr ∈ (io.connectTo dest).1 := by
  cases hshared : h.sharedState with
  | none =>
      cases hcommand : msg.command with
      | create =>
          simp only [handleMessage, hcommand, handleCreate, destination?, hshared]
          split <;> simp
      | _ =>
          simp [handleMessage, destination?, hcommand, hshared, handleBegin, handleData, handleEnd]
  | some state =>
      rcases hopen : state.openCell msg with ⟨state', decrypted, valid⟩
      cases hcommand : msg.command with
      | begin =>
          simp only [handleMessage, hcommand, handleBegin, destination?, hshared, hopen]
          cases valid with
          | false => simp
          | true =>
              cases htext : fromUtf8 decrypted with
              | none => simp
              | some text =>
                  rcases hconnect : io.connectTo (trimEndZeros text) with ⟨tried, outcome⟩
                  cases outcome with
                  | error e => simp [replyEnd, hconnect]
                  | ok _ =>
                      simp only [hconnect, Bool.not_true, Bool.false_eq_true, if_false]
                      split <;> simp [hconnect]
      | create =>
          simp only [handleMessage, hcommand, handleCreate, destination?, hshared, hopen]
          split <;> simp
      | data =>
          simp only [handleMessage, hcommand, handleData, destination?, hshared, hopen]
          cases valid with
          | false => simp
          | true =>
              simp only [Bool.not_true, Bool.false_eq_true, if_false]
              split
              · split <;> simp [replyEnd]
              · simp [replyEnd]
      | «end» =>
          simp only [handleMessage, hcommand, handleEnd, destination?, hshared, hopen]
          cases valid <;> simp [replyEnd]
      | padding | created | extend | extended | destroy | connected =>
          simp [handleMessage, hcommand, destination?, hshared]

/-! ## Keeping a policy -/

/-- One call of the handler: what the outside answers, the connection to the
previous hop, and the cell. -/
structure Call where
  io : RelayIo
  writer : ConnId
  msg : Message

/-- The handler after a call. -/
def handle (h : ExitCircuitHandler) (call : Call) : Handled ExitCircuitHandler (Option Message) :=
  h.handleMessage call.io (some call.writer) call.msg

/-- The calls of a run, each with the handler it meets. -/
def trace : ExitCircuitHandler → List Call → List (ExitCircuitHandler × Call)
  | _, [] => []
  | h, call :: calls => (h, call) :: trace (h.handle call).handler calls

end ExitCircuitHandler

namespace ExitPolicy

/-- A policy refuses a destination: it resolves, and to refused addresses only. -/
def Refuses (policy : ExitPolicy) (io : RelayIo) (dest : String) : Prop :=
  ∃ addrs, io.resolve dest = .ok addrs ∧ addrs ≠ [] ∧ ∀ addr ∈ addrs, policy.allows addr = false

/-- Every address that a destination resolves to, up to the first that connects,
is allowed. -/
def PermitsUpToFirst (policy : ExitPolicy) (io : RelayIo) (dest : String) : Prop :=
  ∀ front addr back, io.resolve dest = .ok (front ++ addr :: back) →
    (∀ a ∈ front, io.tcpConnect a ≠ .ok ()) → policy.allows addr = true

/-- A policy that allows everything permits every destination. -/
theorem permitsUpToFirst_of_allows {policy : ExitPolicy}
    (hall : ∀ addr, policy.allows addr = true) (io : RelayIo) (dest : String) :
    policy.PermitsUpToFirst io dest :=
  fun _ addr _ _ _ => hall addr

/-- A destination that is permitted up to the first connection is not refused. -/
theorem PermitsUpToFirst.not_refuses {policy : ExitPolicy} {io : RelayIo} {dest : String}
    (h : policy.PermitsUpToFirst io dest) : ¬ policy.Refuses io dest := by
  rintro ⟨addrs, hresolve, hne, hrefused⟩
  cases addrs with
  | nil => exact hne rfl
  | cons addr rest =>
      have hallowed := h [] addr rest (by simpa using hresolve) (by simp)
      simp [hrefused addr (by simp)] at hallowed

end ExitPolicy

namespace ExitCircuitHandler

variable [Primitives]

/-- One call keeps a policy: it tries allowed addresses only, and it answers a
BEGIN for a refused destination with END and opens no stream. -/
structure PolicyKept (policy : ExitPolicy) (h : ExitCircuitHandler) (call : Call) : Prop where
  /-- Only allowed addresses are tried. -/
  attempts : ∀ addr, .attempt addr ∈ (h.handle call).effects → policy.allows addr = true
  /-- A refused destination is answered with END, and no stream opens. -/
  refused : ∀ dest, h.destination? call.msg = some dest → policy.Refuses call.io dest →
    (∃ reply, (h.handle call).result = .ok (some reply) ∧ reply.command = .end) ∧
      ∀ streamId destination, .openStream streamId destination ∉ (h.handle call).effects

/-- A call keeps a policy exactly when the destination it asks for is permitted
up to the first connection. -/
theorem policyKept_iff (policy : ExitPolicy) (h : ExitCircuitHandler) (call : Call) :
    PolicyKept policy h call ↔
      ∀ dest, h.destination? call.msg = some dest → policy.PermitsUpToFirst call.io dest := by
  constructor
  · intro hkept dest hdest front addr back hresolve hfront
    refine hkept.attempts addr (attempt_mem_handleMessage.mpr ⟨dest, hdest, ?_⟩)
    exact mem_connectTo.mpr ⟨front, back, hresolve, hfront⟩
  · intro hpermitted
    refine ⟨?_, fun dest hdest hrefuses => ?_⟩
    · intro addr hattempt
      obtain ⟨dest, hdest, htried⟩ := attempt_mem_handleMessage.mp hattempt
      obtain ⟨front, back, hresolve, hfront⟩ := mem_connectTo.mp htried
      exact hpermitted dest hdest front addr back hresolve hfront
    · exact absurd hrefuses (hpermitted dest hdest).not_refuses

/-- The crypto state of a new handler after its CREATE. -/
theorem sharedState_handle_create (circuitId : CircuitId) (keypair : KeyPair) (io : RelayIo)
    (writer : ConnId) (clientPublic : FixedBytes 32) :
    ((new circuitId keypair).handle
        ⟨io, writer, Message.create circuitId clientPublic.1⟩).handler.sharedState =
      some (ExitCryptoState.new (CipherPair.new
        (keypair.ntorServerHandshake io.ySecret clientPublic).2.2)) := by
  have hcreate := handleCreate_eq (new circuitId keypair) io circuitId clientPublic
  exact congrArg (fun handled => handled.handler.sharedState) hcreate

/-- With the policy lifted by the configuration, every call keeps it. -/
theorem policyKept_of_exitAllowAll {config : RelayConfig} (hflag : config.exitAllowAll = true)
    {policy : ExitPolicy} (hpolicy : config.exitPolicy .exit = some policy)
    (h : ExitCircuitHandler) (call : Call) : PolicyKept policy h call :=
  (policyKept_iff policy h call).mpr fun dest _ =>
    ExitPolicy.permitsUpToFirst_of_allows
      (RelayConfig.exitPolicy_exitAllowAll hflag hpolicy) call.io dest

/-- A run of a new handler keeps a policy exactly when every destination asked
for in it is permitted up to the first connection. -/
theorem policyKept_trace_iff (policy : ExitPolicy) (circuitId : CircuitId) (keypair : KeyPair)
    (calls : List Call) :
    (∀ h call, (h, call) ∈ (new circuitId keypair).trace calls → PolicyKept policy h call) ↔
      ∀ h call, (h, call) ∈ (new circuitId keypair).trace calls →
        ∀ dest, h.destination? call.msg = some dest → policy.PermitsUpToFirst call.io dest :=
  forall₃_congr fun h call _ => policyKept_iff policy h call

end ExitCircuitHandler

/-! ## A destination the default policy refuses -/

section

open Reference

/-- Port 25 of the exit relay itself. -/
def localSmtp : SocketAddr := .v4 ⟨[127, 0, 0, 1], rfl⟩ 25

/-- An outside where the local mail server resolves and connects. -/
def localSmtpIo : RelayIo where
  ySecret := FixedBytes.ofNat 32 2
  connect _ _ := .error "unreachable"
  write _ _ := .ok ()
  readCreated _ _ := .closed
  resolve dest := if dest = "127.0.0.1:25" then .ok [localSmtp] else .error "unknown host"
  tcpConnect addr := if addr = localSmtp then .ok () else .error "refused"
  destinationOpen _ := true

/-- The key pair of the exit relay. -/
def localSmtpKeyPair : KeyPair := KeyPair.fromSecretBytes (FixedBytes.ofNat 32 3)

/-- The client's ephemeral key. -/
def localSmtpClientPublic : FixedBytes 32 := Primitives.x25519Public (FixedBytes.ofNat 32 1)

/-- The crypto state after the CREATE of that client. -/
def localSmtpState : ExitCryptoState :=
  ExitCryptoState.new (CipherPair.new
    (localSmtpKeyPair.ntorServerHandshake localSmtpIo.ySecret localSmtpClientPublic).2.2)

/-- The client's CREATE. -/
def localSmtpCreate : ExitCircuitHandler.Call :=
  ⟨localSmtpIo, .prev 0, Message.create 1 localSmtpClientPublic.1⟩

/-- The BEGIN that this client sends for the local mail server. -/
def localSmtpBegin : ExitCircuitHandler.Call :=
  ⟨localSmtpIo, .prev 0, localSmtpState.forwardCell 1 1 .begin (asBytes "127.0.0.1:25\x00")⟩

/-- The exit's handler when the BEGIN arrives. -/
def localSmtpHandler : ExitCircuitHandler :=
  ((ExitCircuitHandler.new 1 localSmtpKeyPair).handle localSmtpCreate).handler

/-- The BEGIN is accepted, and asks for the local mail server. -/
theorem destination_localSmtpBegin :
    localSmtpHandler.destination? localSmtpBegin.msg = some "127.0.0.1:25" := by
  have hstate : localSmtpHandler.sharedState = some localSmtpState := by
    unfold localSmtpHandler localSmtpCreate localSmtpState
    exact ExitCircuitHandler.sharedState_handle_create 1 localSmtpKeyPair localSmtpIo (.prev 0)
      localSmtpClientPublic
  have htrim : trimEndZeros "127.0.0.1:25\x00" = "127.0.0.1:25" := by decide
  rw [ExitCircuitHandler.destination?, hstate]
  simp only [localSmtpBegin, ExitCryptoState.openCell_forwardCell, fromUtf8_asBytes,
    Option.map_some, htrim]
  rfl

/-- Under the default configuration this run does not keep the policy the relay
registers: the exit tries its own port 25. -/
theorem policy_not_kept_localSmtp :
    ∃ policy, RelayConfig.exitPolicy { exitAllowAll := false } .exit = some policy ∧
      ¬ ∀ h call, (h, call) ∈
          (ExitCircuitHandler.new 1 localSmtpKeyPair).trace [localSmtpCreate, localSmtpBegin] →
        ExitCircuitHandler.PolicyKept policy h call := by
  refine ⟨_, rfl, fun hkept => ?_⟩
  have hmem : (localSmtpHandler, localSmtpBegin) ∈
      (ExitCircuitHandler.new 1 localSmtpKeyPair).trace [localSmtpCreate, localSmtpBegin] := by
    simp only [ExitCircuitHandler.trace, localSmtpHandler, List.mem_cons, true_or, or_true]
  have hbegin := hkept localSmtpHandler localSmtpBegin hmem
  have hresolve : localSmtpBegin.io.resolve "127.0.0.1:25" = .ok ([] ++ localSmtp :: []) := by
    simp [localSmtpBegin, localSmtpIo]
  have hallowed := (ExitCircuitHandler.policyKept_iff _ _ _).mp hbegin _
    destination_localSmtpBegin [] localSmtp [] hresolve (by simp)
  exact absurd hallowed (by decide)

end

end NoPanic
