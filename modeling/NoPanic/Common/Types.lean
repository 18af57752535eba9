/-
# Shared types

Node types, addresses, exit policies and node descriptors, as the common crate
defines them. Addresses are those of the standard library: an IPv4 socket
address has an address and a port, an IPv6 one a flow label and a scope besides.
-/

import NoPanic.Math.ByteString

namespace NoPanic

open NoPanic.Math

/-- The position a relay takes in circuits. -/
inductive NodeType
  | entry
  | middle
  | exit
  deriving DecidableEq, Repr

/-- An IP address, by its octets. -/
inductive IpAddr
  | v4 (octets : FixedBytes 4)
  | v6 (octets : FixedBytes 16)
  deriving DecidableEq, Repr

namespace IpAddr

/-- `Ipv4Addr::new` of four octets. -/
def ofOctets (a b c d : UInt8) : IpAddr := .v4 ⟨[a, b, c, d], rfl⟩

/-- `127.0.0.0/8`, and `::1` alone. -/
def isLoopback : IpAddr → Bool
  | .v4 octets => octets.1.head? == some 127
  | .v6 octets => octets == ⟨List.replicate 15 0 ++ [1], rfl⟩

/-- Whether an IPv4 address has the first `prefixLength` bits of a network. -/
def inNetwork (ip : IpAddr) (network : FixedBytes 4) (prefixLength : Nat) : Bool :=
  match ip with
  | .v4 octets =>
      (ofBe32 octets).toNat / 2 ^ (32 - prefixLength) ==
        (ofBe32 network).toNat / 2 ^ (32 - prefixLength)
  | .v6 _ => false

end IpAddr

/-- A socket address. -/
inductive SocketAddr
  | v4 (octets : FixedBytes 4) (port : UInt16)
  | v6 (octets : FixedBytes 16) (port : UInt16) (flowinfo scopeId : UInt32)
  deriving DecidableEq, Repr

namespace SocketAddr

/-- The address without its port. -/
def ip : SocketAddr → IpAddr
  | .v4 octets _ => .v4 octets
  | .v6 octets _ _ _ => .v6 octets

/-- The port. -/
def port : SocketAddr → UInt16
  | .v4 _ port => port
  | .v6 _ port _ _ => port

end SocketAddr

/-- How the standard library prints socket addresses and reads them back. -/
class AddrText where
  /-- `SocketAddr::to_string`. -/
  display : SocketAddr → String
  /-- `str::parse::<SocketAddr>`. -/
  parse : String → Option SocketAddr

/-- The X25519 public key of a relay. -/
structure PublicKey where
  bytes : FixedBytes 32
  deriving DecidableEq, Repr

/-- Which destinations an exit relay serves. -/
structure ExitPolicy where
  allowedPorts : List UInt16
  blockedPorts : List UInt16
  allowedIps : List IpAddr
  blockedIps : List IpAddr
  deriving DecidableEq, Repr

namespace ExitPolicy

/-- The policy that restricts nothing. -/
def allowAll : ExitPolicy := ⟨[], [], [], []⟩

/-- Whether a connection to a destination is allowed. -/
def allows (policy : ExitPolicy) (addr : SocketAddr) : Bool :=
  if policy.blockedIps.contains addr.ip then false
  else if !policy.allowedIps.isEmpty && !policy.allowedIps.contains addr.ip then false
  else if policy.blockedPorts.contains addr.port then false
  else if policy.allowedPorts.isEmpty then true
  else policy.allowedPorts.contains addr.port

/-- A destination is allowed when neither its address nor its port is blocked, and both are
allowed or everything is. -/
theorem allows_iff (policy : ExitPolicy) (addr : SocketAddr) :
    policy.allows addr = true ↔
      addr.ip ∉ policy.blockedIps ∧ (policy.allowedIps = [] ∨ addr.ip ∈ policy.allowedIps) ∧
        addr.port ∉ policy.blockedPorts ∧
          (policy.allowedPorts = [] ∨ addr.port ∈ policy.allowedPorts) := by
  rw [allows]
  by_cases hip : addr.ip ∈ policy.blockedIps
  · simp [hip]
  by_cases hport : addr.port ∈ policy.blockedPorts
  · simp [hip, hport]
  -- an empty list of allowed addresses or ports restricts nothing
  cases policy.allowedIps with
  | nil => cases policy.allowedPorts <;> simp [hip, hport]
  | cons ip ips => cases policy.allowedPorts <;> simp [hip, hport]

/-- The permissive policy allows every destination. -/
@[simp]
theorem allows_allowAll (addr : SocketAddr) : allowAll.allows addr = true := rfl

end ExitPolicy

/-- Everything the directory knows of a relay. -/
structure NodeDescriptor where
  nodeId : String
  nodeType : NodeType
  address : SocketAddr
  publicKey : PublicKey
  bandwidth : UInt64
  exitPolicy : Option ExitPolicy
  operatorId : Option String
  tlsCertFingerprint : String
  deriving DecidableEq, Repr

/-- What a relay reports with a heartbeat. -/
structure NodeMetrics where
  connectionsAccepted : UInt64
  circuitsActive : UInt64
  circuitsCreated : UInt64
  circuitsDestroyed : UInt64
  bytesForwarded : UInt64
  bytesReceived : UInt64
  streamsOpened : UInt64
  uptimeSecs : UInt64
  eventSnapshot : List String
  deriving DecidableEq, Repr

end NoPanic
