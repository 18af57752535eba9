/-
# Relay configuration

The configuration of a relay, with the defaults of the command line, and the exit policy that
follows from it.

Without the flag that lifts it, the policy blocks four addresses. Three of them are the
addresses of private networks and not of hosts, so blocking them blocks nothing: of the
networks it names the policy refuses these four addresses, and the ports it does not serve
anywhere.
-/

import NoPanic.Common.Types

namespace NoPanic

open NoPanic.Math

/-- The configuration of a relay. -/
structure RelayConfig where
  nodeType : Option NodeType := none
  port : UInt16 := 9001
  host : String := "127.0.0.1"
  bindHost : String := "0.0.0.0"
  directoryUrl : String := "http://localhost:8080"
  bandwidth : UInt64 := 1048576
  heartbeatInterval : UInt64 := 60
  exitAllowAll : Bool := false
  tui : Bool := false
  operatorId : Option String := none
  deriving DecidableEq, Repr

namespace RelayConfig

/-- The ports that the default policy serves. -/
def servedPorts : List UInt16 := [80, 443, 8080, 8443]

/-- The addresses that the default policy blocks. -/
def blockedHosts : List IpAddr :=
  [IpAddr.ofOctets 127 0 0 1, IpAddr.ofOctets 10 0 0 0, IpAddr.ofOctets 172 16 0 0,
    IpAddr.ofOctets 192 168 0 0]

/-- The exit policy a relay of some type registers with. -/
def exitPolicy (config : RelayConfig) (nodeType : NodeType) : Option ExitPolicy :=
  if nodeType = .exit then
    some (if config.exitAllowAll then
      { allowedPorts := []
        blockedPorts := []
        allowedIps := []
        blockedIps := [] }
    else
      { allowedPorts := servedPorts
        blockedPorts := [25, 465, 587]
        allowedIps := []
        blockedIps := blockedHosts })
  else none

/-- With the flag set, the registered policy allows every destination. -/
theorem exitPolicy_exitAllowAll {config : RelayConfig} (hflag : config.exitAllowAll = true)
    {policy : ExitPolicy} (hpolicy : config.exitPolicy .exit = some policy) (addr : SocketAddr) :
    policy.allows addr = true := by
  simp only [exitPolicy, hflag, if_true, Option.some.injEq] at hpolicy
  subst hpolicy
  rfl

/-! ## What the default policy refuses -/

/-- The networks of these addresses, each with the length of its prefix. -/
def namedNetworks : List (FixedBytes 4 × Nat) :=
  [(⟨[127, 0, 0, 0], rfl⟩, 8), (⟨[10, 0, 0, 0], rfl⟩, 8), (⟨[172, 16, 0, 0], rfl⟩, 12),
    (⟨[192, 168, 0, 0], rfl⟩, 16)]

/-- The address lies in one of the private and loopback networks. -/
def InNamedNetwork (ip : IpAddr) : Prop :=
  ∃ network ∈ namedNetworks, ip.inNetwork network.1 network.2 = true

/-- A policy keeps a destination in these networks out. -/
def KeepsOut (policy : ExitPolicy) (addr : SocketAddr) : Prop :=
  InNamedNetwork addr.ip → policy.allows addr = false

instance : DecidablePred InNamedNetwork := fun ip =>
  inferInstanceAs (Decidable (∃ network ∈ namedNetworks, ip.inNetwork network.1 network.2 = true))

section

variable {config : RelayConfig} {policy : ExitPolicy}

/-- The default policy allows the ports it serves at every address but the four. -/
theorem exitPolicy_allows_iff (hflag : config.exitAllowAll = false)
    (hpolicy : config.exitPolicy .exit = some policy) (addr : SocketAddr) :
    policy.allows addr = true ↔ addr.ip ∉ blockedHosts ∧ addr.port ∈ servedPorts := by
  simp only [exitPolicy, hflag, if_true, Bool.false_eq_true, if_false, Option.some.injEq]
    at hpolicy
  subst hpolicy
  have hserved : addr.port ∈ servedPorts → addr.port ∉ ([25, 465, 587] : List UInt16) := by
    intro hmem
    simp only [servedPorts, List.mem_cons, List.not_mem_nil, or_false] at hmem
    rcases hmem with heq | heq | heq | heq <;> rw [heq] <;> decide
  rw [ExitPolicy.allows_iff]
  constructor
  · rintro ⟨hhost, -, -, hport⟩
    exact ⟨hhost, hport.resolve_left (by simp [servedPorts])⟩
  · rintro ⟨hhost, hport⟩
    exact ⟨hhost, Or.inl rfl, hserved hport, Or.inr hport⟩

/-- The default policy keeps a destination in the named networks out exactly when its address
is one of the four or the port is not served anyway. -/
theorem exitPolicy_keepsOut_iff (hflag : config.exitAllowAll = false)
    (hpolicy : config.exitPolicy .exit = some policy) (addr : SocketAddr) :
    KeepsOut policy addr ↔
      ¬ InNamedNetwork addr.ip ∨ addr.ip ∈ blockedHosts ∨ addr.port ∉ servedPorts := by
  rw [KeepsOut, ← Bool.not_eq_true, exitPolicy_allows_iff hflag hpolicy]
  tauto

end

/-- A host of a private network on port 22. -/
theorem exitPolicy_keepsOut_iff_ssh :
    KeepsOut ⟨servedPorts, [25, 465, 587], [], blockedHosts⟩
      (.v4 ⟨[192, 168, 1, 1], rfl⟩ 22) := by
  have hpolicy : RelayConfig.exitPolicy {} .exit =
      some ⟨servedPorts, [25, 465, 587], [], blockedHosts⟩ := rfl
  exact (exitPolicy_keepsOut_iff rfl hpolicy _).mpr (Or.inr (Or.inr (by decide)))

/-- The web port of a host of a private network is open. -/
theorem not_keepsOut_privateHost :
    ¬ ∀ (config : RelayConfig) (policy : ExitPolicy) (addr : SocketAddr),
      config.exitAllowAll = false → config.exitPolicy .exit = some policy →
        KeepsOut policy addr := by
  intro hclaim
  have hrefused := hclaim {} _ (.v4 ⟨[192, 168, 1, 1], rfl⟩ 80) rfl rfl (by decide)
  revert hrefused
  decide

end RelayConfig

end NoPanic
