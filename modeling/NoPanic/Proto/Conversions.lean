/-
# Protobuf forms

The directory's messages for exit policies and node descriptors, and the conversions
between them and the shared types. Encoding always succeeds. Decoding checks the node
type, the address, the key and the lengths of the IP addresses, and narrows the ports
without a check.

A descriptor survives encoding and decoding. The other way round, a descriptor that is
accepted keeps its exit policy exactly when every port in it fits sixteen bits.
-/

import Mathlib.Data.UInt
import NoPanic.Common.Reference

namespace NoPanic

open NoPanic.Math

/-- How prost prints an enumeration value that has no name. -/
class EnumText where
  /-- `UnknownEnumValue::to_string`. -/
  unknownEnumValue : Int32 → String

namespace Proto

/-- The error of a conversion. -/
inductive Status
  | invalidArgument (message : String)
  deriving DecidableEq, Repr

/-- The node types of the directory's messages. -/
inductive NodeType
  | unspecified
  | entry
  | middle
  | exit
  deriving DecidableEq, Repr

/-- A public key, of any length. -/
structure PublicKey where
  bytes : Bytes
  deriving DecidableEq, Repr

/-- An exit policy. IP addresses are byte strings, ports have 32 bits. -/
structure ExitPolicy where
  allowedPorts : List UInt32
  blockedPorts : List UInt32
  allowedIps : List Bytes
  blockedIps : List Bytes
  deriving DecidableEq, Repr

/-- A node descriptor. -/
structure NodeDescriptor where
  nodeId : String
  nodeType : Int32
  address : String
  publicKey : Option PublicKey
  bandwidth : UInt64
  exitPolicy : Option ExitPolicy
  operatorId : Option String
  tlsCertFingerprint : String
  deriving DecidableEq, Repr

/-! ## Node types and keys -/

namespace NodeType

/-- The number of a node type, `as i32`. -/
def toI32 : NodeType → Int32
  | .unspecified => 0
  | .entry => 1
  | .middle => 2
  | .exit => 3

/-- The node type with a number, if there is one. -/
def tryFrom (value : Int32) : Option NodeType :=
  if value = 0 then some .unspecified
  else if value = 1 then some .entry
  else if value = 2 then some .middle
  else if value = 3 then some .exit
  else none

/-- Encode a node type. -/
def fromCommon : NoPanic.NodeType → NodeType
  | .entry => .entry
  | .middle => .middle
  | .exit => .exit

/-- Decode a node type. -/
def toCommon : NodeType → Except Status NoPanic.NodeType
  | .entry => .ok .entry
  | .middle => .ok .middle
  | .exit => .ok .exit
  | .unspecified => .error (.invalidArgument "NodeType unspecified")

@[simp]
theorem tryFrom_toI32 (t : NodeType) : tryFrom t.toI32 = some t := by
  cases t <;> rfl

@[simp]
theorem toCommon_fromCommon (t : NoPanic.NodeType) : (fromCommon t).toCommon = .ok t := by
  cases t <;> rfl

end NodeType

namespace PublicKey

/-- Encode a public key. -/
def fromCommon (pk : NoPanic.PublicKey) : PublicKey := ⟨pk.bytes.1⟩

/-- Decode a public key. -/
def toCommon (pk : PublicKey) : Except Status NoPanic.PublicKey :=
  if hlen : pk.bytes.length = 32 then .ok ⟨⟨pk.bytes, hlen⟩⟩
  else .error (.invalidArgument "PublicKey must be exactly 32 bytes")

@[simp]
theorem toCommon_fromCommon (pk : NoPanic.PublicKey) : (fromCommon pk).toCommon = .ok pk :=
  dif_pos pk.bytes.2

end PublicKey

/-! ## IP addresses and exit policies -/

/-- The octets of an IP address. -/
def ipToBytes : IpAddr → Bytes
  | .v4 octets => octets.1
  | .v6 octets => octets.1

/-- The IP address with the given octets: four make an IPv4 address, sixteen an IPv6
one. -/
def ipFromBytes (bytes : Bytes) : Except Status IpAddr :=
  if hv4 : bytes.length = 4 then .ok (.v4 ⟨bytes, hv4⟩)
  else if hv6 : bytes.length = 16 then .ok (.v6 ⟨bytes, hv6⟩)
  else .error (.invalidArgument s!"Invalid IP byte length: {bytes.length}")

/-- The octets of an address are read back as that address. -/
@[simp]
theorem ipFromBytes_ipToBytes (ip : IpAddr) : ipFromBytes (ipToBytes ip) = .ok ip := by
  cases ip with
  | v4 octets => exact dif_pos octets.2
  | v6 octets =>
      have hnot : octets.1.length ≠ 4 := by
        rw [octets.2]
        decide
      rw [ipToBytes, ipFromBytes, dif_neg hnot]
      exact dif_pos octets.2

/-- Octets that are read as an address are the octets of that address. -/
theorem ipToBytes_of_ipFromBytes {bytes : Bytes} {ip : IpAddr} (h : ipFromBytes bytes = .ok ip) :
    ipToBytes ip = bytes := by
  rw [ipFromBytes] at h
  split at h
  · cases h
    rfl
  · split at h
    · cases h
      rfl
    · cases h

/-- Decode a list of IP addresses, up to the first that is refused. -/
def ipsFromBytes : List Bytes → Except Status (List IpAddr)
  | [] => .ok []
  | bytes :: rest =>
      match ipFromBytes bytes with
      | .error e => .error e
      | .ok ip =>
          match ipsFromBytes rest with
          | .error e => .error e
          | .ok ips => .ok (ip :: ips)

@[simp]
theorem ipsFromBytes_map_ipToBytes (ips : List IpAddr) :
    ipsFromBytes (ips.map ipToBytes) = .ok ips := by
  induction ips with
  | nil => rfl
  | cons ip ips ih => simp only [List.map_cons, ipsFromBytes, ipFromBytes_ipToBytes, ih]

/-- A list that is read as addresses holds the octets of those addresses. -/
theorem map_ipToBytes_of_ipsFromBytes {list : List Bytes} {ips : List IpAddr}
    (h : ipsFromBytes list = .ok ips) : ips.map ipToBytes = list := by
  induction list generalizing ips with
  | nil =>
      cases h
      rfl
  | cons bytes rest ih =>
      rw [ipsFromBytes] at h
      cases hfirst : ipFromBytes bytes with
      | error e =>
          rw [hfirst] at h
          cases h
      | ok ip =>
          simp only [hfirst] at h
          cases hrest : ipsFromBytes rest with
          | error e =>
              rw [hrest] at h
              cases h
          | ok others =>
              simp only [hrest] at h
              cases h
              rw [List.map_cons, ipToBytes_of_ipFromBytes hfirst, ih hrest]

namespace ExitPolicy

/-- Encode an exit policy. -/
def fromCommon (policy : NoPanic.ExitPolicy) : ExitPolicy where
  allowedPorts := policy.allowedPorts.map UInt16.toUInt32
  blockedPorts := policy.blockedPorts.map UInt16.toUInt32
  allowedIps := policy.allowedIps.map ipToBytes
  blockedIps := policy.blockedIps.map ipToBytes

/-- Decode an exit policy. Ports are narrowed: the high half of a port is dropped. -/
def toCommon (policy : ExitPolicy) : Except Status NoPanic.ExitPolicy :=
  match ipsFromBytes policy.allowedIps with
  | .error e => .error e
  | .ok allowedIps =>
      match ipsFromBytes policy.blockedIps with
      | .error e => .error e
      | .ok blockedIps =>
          .ok
            { allowedPorts := policy.allowedPorts.map UInt32.toUInt16
              blockedPorts := policy.blockedPorts.map UInt32.toUInt16
              allowedIps
              blockedIps }

/-- An exit policy is decoded from its encoding. -/
@[simp]
theorem toCommon_fromCommon (policy : NoPanic.ExitPolicy) :
    (fromCommon policy).toCommon = .ok policy := by
  simp [toCommon, fromCommon, Function.comp_def]

/-- Only the ports can get lost when an exit policy is decoded. -/
theorem toCommon_eq_ok {policy : ExitPolicy} {decoded : NoPanic.ExitPolicy}
    (h : policy.toCommon = .ok decoded) :
    decoded.allowedPorts = policy.allowedPorts.map UInt32.toUInt16 ∧
      decoded.blockedPorts = policy.blockedPorts.map UInt32.toUInt16 ∧
      decoded.allowedIps.map ipToBytes = policy.allowedIps ∧
      decoded.blockedIps.map ipToBytes = policy.blockedIps := by
  rw [toCommon] at h
  cases hallowed : ipsFromBytes policy.allowedIps with
  | error e =>
      rw [hallowed] at h
      cases h
  | ok allowedIps =>
      cases hblocked : ipsFromBytes policy.blockedIps with
      | error e =>
          rw [hallowed, hblocked] at h
          cases h
      | ok blockedIps =>
          simp only [hallowed, hblocked] at h
          cases h
          exact ⟨rfl, rfl, map_ipToBytes_of_ipsFromBytes hallowed,
            map_ipToBytes_of_ipsFromBytes hblocked⟩

end ExitPolicy

/-! ## Node descriptors -/

namespace NodeDescriptor

/-- Decode the key of a descriptor, which may be missing. -/
def decodeKey : Option PublicKey → Except Status NoPanic.PublicKey
  | some pk => pk.toCommon
  | none => .error (.invalidArgument "PublicKey is required")

/-- Decode the exit policy of a descriptor, if it has one. -/
def decodePolicy : Option ExitPolicy → Except Status (Option NoPanic.ExitPolicy)
  | some ep => ep.toCommon.map some
  | none => .ok none

@[simp]
theorem decodePolicy_map_fromCommon (policy : Option NoPanic.ExitPolicy) :
    decodePolicy (policy.map ExitPolicy.fromCommon) = .ok policy := by
  cases policy with
  | none => rfl
  | some policy =>
      rw [Option.map_some, decodePolicy, ExitPolicy.toCommon_fromCommon]
      rfl

variable [AddrText]

/-- Encode a node descriptor. -/
def fromCommon (d : NoPanic.NodeDescriptor) : NodeDescriptor where
  nodeId := d.nodeId
  nodeType := (NodeType.fromCommon d.nodeType).toI32
  address := AddrText.display d.address
  publicKey := some (PublicKey.fromCommon d.publicKey)
  bandwidth := d.bandwidth
  exitPolicy := d.exitPolicy.map ExitPolicy.fromCommon
  operatorId := d.operatorId
  tlsCertFingerprint := d.tlsCertFingerprint

/-- Decode a node descriptor. -/
def toCommon [EnumText] (d : NodeDescriptor) : Except Status NoPanic.NodeDescriptor :=
  match NodeType.tryFrom d.nodeType with
  | none =>
      .error (.invalidArgument ("Invalid node type: " ++ EnumText.unknownEnumValue d.nodeType))
  | some t =>
      match t.toCommon with
      | .error e => .error e
      | .ok nodeType =>
          match AddrText.parse d.address with
          | none =>
              .error (.invalidArgument "Invalid address: invalid socket address syntax")
          | some address =>
              match decodeKey d.publicKey with
              | .error e => .error e
              | .ok publicKey =>
                  match decodePolicy d.exitPolicy with
                  | .error e => .error e
                  | .ok exitPolicy =>
                      .ok
                        { nodeId := d.nodeId
                          nodeType
                          address
                          publicKey
                          bandwidth := d.bandwidth
                          exitPolicy
                          operatorId := d.operatorId
                          tlsCertFingerprint := d.tlsCertFingerprint }

/-- A descriptor whose address is read back from its text is decoded from its encoding. -/
theorem encoded_decodes [EnumText] (d : NoPanic.NodeDescriptor)
    (haddr : AddrText.parse (AddrText.display d.address) = some d.address) :
    (fromCommon d).toCommon = .ok d := by
  have htype : NodeType.tryFrom (fromCommon d).nodeType = some (NodeType.fromCommon d.nodeType) :=
    NodeType.tryFrom_toI32 _
  have haddress : AddrText.parse (fromCommon d).address = some d.address := haddr
  have hkey : decodeKey (fromCommon d).publicKey = .ok d.publicKey :=
    PublicKey.toCommon_fromCommon d.publicKey
  have hpolicy : decodePolicy (fromCommon d).exitPolicy = .ok d.exitPolicy :=
    decodePolicy_map_fromCommon d.exitPolicy
  simp only [toCommon, htype, NodeType.toCommon_fromCommon, haddress, hkey, hpolicy]
  rfl

/-- What a descriptor is decoded to: every part decodes by itself, and the rest is kept. -/
theorem toCommon_eq_ok_iff [EnumText] {p : NodeDescriptor} {d : NoPanic.NodeDescriptor} :
    p.toCommon = .ok d ↔
      ((NodeType.tryFrom p.nodeType).map NodeType.toCommon = some (.ok d.nodeType) ∧
        AddrText.parse p.address = some d.address ∧ decodeKey p.publicKey = .ok d.publicKey ∧
          decodePolicy p.exitPolicy = .ok d.exitPolicy) ∧
      p.nodeId = d.nodeId ∧ p.bandwidth = d.bandwidth ∧ p.operatorId = d.operatorId ∧
        p.tlsCertFingerprint = d.tlsCertFingerprint := by
  obtain ⟨nodeId, nodeType, address, publicKey, bandwidth, exitPolicy, operatorId,
    fingerprint⟩ := d
  rw [toCommon]
  cases NodeType.tryFrom p.nodeType with
  | none => simp
  | some t =>
      cases hcommon : t.toCommon with
      | error e => simp [hcommon]
      | ok commonType =>
          cases AddrText.parse p.address with
          | none => simp [hcommon]
          | some addr =>
              cases decodeKey p.publicKey with
              | error e => simp [hcommon]
              | ok key =>
                  cases decodePolicy p.exitPolicy with
                  | error e => simp [hcommon]
                  | ok policy =>
                      simp only [Except.ok.injEq, NoPanic.NodeDescriptor.mk.injEq,
                        Option.map_some, Option.some.injEq, hcommon]
                      tauto

/-- What is decoded of the exit policy. -/
theorem decodePolicy_of_toCommon [EnumText] {p : NodeDescriptor} {d : NoPanic.NodeDescriptor}
    (h : p.toCommon = .ok d) : decodePolicy p.exitPolicy = .ok d.exitPolicy := by
  rw [toCommon] at h
  split at h
  · cases h
  · split at h
    · cases h
    · split at h
      · cases h
      · split at h
        · cases h
        · split at h
          · cases h
          · next exitPolicy hpolicy =>
              cases h
              exact hpolicy

end NodeDescriptor

/-! ## Ports -/

/-- A port that is narrowed stays the same number exactly when it fits. -/
theorem toNat_toUInt16_iff (port : UInt32) :
    port.toUInt16.toNat = port.toNat ↔ port.toNat ≤ 65535 := by
  rw [UInt32.toNat_toUInt16]
  omega

/-- A port that is narrowed widens to itself exactly when it fits. -/
theorem toUInt32_toUInt16_iff (port : UInt32) :
    port.toUInt16.toUInt32 = port ↔ port.toNat ≤ 65535 := by
  rw [← UInt32.toNat_inj, UInt16.toNat_toUInt32, toNat_toUInt16_iff]

namespace ExitPolicy

/-- Every port of a policy fits sixteen bits. -/
def PortsFit (policy : ExitPolicy) : Prop :=
  ∀ port ∈ policy.allowedPorts ++ policy.blockedPorts, port.toNat ≤ 65535

/-- The decoded policy has the numbers of the policy as its ports, and its encoding is the
policy. -/
structure KeptBy (policy : ExitPolicy) (decoded : NoPanic.ExitPolicy) : Prop where
  allowed : decoded.allowedPorts.map UInt16.toNat = policy.allowedPorts.map UInt32.toNat
  blocked : decoded.blockedPorts.map UInt16.toNat = policy.blockedPorts.map UInt32.toNat
  encoded : fromCommon decoded = policy

/-- A list of ports keeps its numbers exactly when all of them fit. -/
theorem map_toNat_iff (ports : List UInt32) :
    (ports.map UInt32.toUInt16).map UInt16.toNat = ports.map UInt32.toNat ↔
      ∀ port ∈ ports, port.toNat ≤ 65535 := by
  rw [List.map_map, List.map_inj_left]
  exact forall₂_congr fun port _ => toNat_toUInt16_iff port

/-- A list of ports that all fit is widened to itself. -/
theorem map_toUInt32_of_fit {ports : List UInt32} (h : ∀ port ∈ ports, port.toNat ≤ 65535) :
    (ports.map UInt32.toUInt16).map UInt16.toUInt32 = ports := by
  have hid : ∀ port ∈ ports, (UInt16.toUInt32 ∘ UInt32.toUInt16) port = id port :=
    fun port hport => (toUInt32_toUInt16_iff port).mpr (h port hport)
  rw [List.map_map, List.map_congr_left hid, List.map_id]

/-- A decoded policy is the policy exactly when all ports fit. -/
theorem keptBy_iff {policy : ExitPolicy} {decoded : NoPanic.ExitPolicy}
    (h : policy.toCommon = .ok decoded) : policy.KeptBy decoded ↔ policy.PortsFit := by
  obtain ⟨hallowed, hblocked, hallowedIps, hblockedIps⟩ := toCommon_eq_ok h
  constructor
  · intro hkept port hport
    have hfirst := hkept.allowed
    have hsecond := hkept.blocked
    rw [hallowed, map_toNat_iff] at hfirst
    rw [hblocked, map_toNat_iff] at hsecond
    rcases List.mem_append.mp hport with hmem | hmem
    · exact hfirst port hmem
    · exact hsecond port hmem
  · intro hfit
    have hfirst : ∀ port ∈ policy.allowedPorts, port.toNat ≤ 65535 :=
      fun port hport => hfit port (List.mem_append_left _ hport)
    have hsecond : ∀ port ∈ policy.blockedPorts, port.toNat ≤ 65535 :=
      fun port hport => hfit port (List.mem_append_right _ hport)
    refine ⟨?_, ?_, ?_⟩
    · rw [hallowed]
      exact (map_toNat_iff _).mpr hfirst
    · rw [hblocked]
      exact (map_toNat_iff _).mpr hsecond
    · rw [fromCommon, hallowed, hblocked, map_toUInt32_of_fit hfirst,
        map_toUInt32_of_fit hsecond, hallowedIps, hblockedIps]

end ExitPolicy

namespace NodeDescriptor

/-- The exit policy of a descriptor is kept by what it is decoded to. -/
def PolicyKept (p : NodeDescriptor) (d : NoPanic.NodeDescriptor) : Prop :=
  (∀ policy, p.exitPolicy = some policy →
    ∃ decoded, d.exitPolicy = some decoded ∧ policy.KeptBy decoded) ∧
  d.exitPolicy.map ExitPolicy.fromCommon = p.exitPolicy

/-- The ports of a descriptor's exit policy fit, if it has one. -/
def PortsFit (p : NodeDescriptor) : Prop := ∀ policy, p.exitPolicy = some policy → policy.PortsFit

variable [AddrText] [EnumText]

/-- A descriptor that is accepted keeps its exit policy exactly when its ports fit. -/
theorem policyKept_iff_portsFit {p : NodeDescriptor} {d : NoPanic.NodeDescriptor}
    (h : p.toCommon = .ok d) : p.PolicyKept d ↔ p.PortsFit := by
  have hpolicy := decodePolicy_of_toCommon h
  cases hsome : p.exitPolicy with
  | none =>
      rw [hsome] at hpolicy
      have hnone : d.exitPolicy = none := (Except.ok.inj hpolicy).symm
      simp [PolicyKept, PortsFit, hsome, hnone]
  | some policy =>
      rw [hsome, decodePolicy] at hpolicy
      cases hdecoded : policy.toCommon with
      | error e =>
          rw [hdecoded] at hpolicy
          cases hpolicy
      | ok decoded =>
          rw [hdecoded] at hpolicy
          have hd : d.exitPolicy = some decoded := (Except.ok.inj hpolicy).symm
          have hkept := ExitPolicy.keptBy_iff hdecoded
          constructor
          · intro hall policy' hpolicy'
            obtain rfl : policy = policy' := Option.some.inj (hsome.symm.trans hpolicy')
            obtain ⟨decoded', hd', hkeeps⟩ := hall.1 policy hsome
            obtain rfl : decoded = decoded' := Option.some.inj (hd.symm.trans hd')
            exact hkept.mp hkeeps
          · intro hfit
            have hkeeps := hkept.mpr (hfit policy hsome)
            refine ⟨fun policy' hpolicy' => ?_, ?_⟩
            · obtain rfl : policy = policy' := Option.some.inj (hsome.symm.trans hpolicy')
              exact ⟨decoded, hd, hkeeps⟩
            · rw [hd, hsome, Option.map_some, hkeeps.encoded]

end NodeDescriptor

/-! ## Metrics and statistics -/

/-- What a relay reports with a heartbeat. -/
structure NodeMetrics where
  connectionsAccepted : UInt64
  circuitsActive : UInt64
  circuitsCreated : UInt64
  circuitsDestroyed : UInt64
  bytesForwarded : UInt64
  bytesReceived : UInt64
  streamsOpened : UInt64
  uptimeSecs : UInt64
  eventSnapshot : List String
  deriving DecidableEq, Repr

namespace NodeMetrics

/-- Encode the metrics of a relay. -/
def fromCommon (m : NoPanic.NodeMetrics) : NodeMetrics where
  connectionsAccepted := m.connectionsAccepted
  circuitsActive := m.circuitsActive
  circuitsCreated := m.circuitsCreated
  circuitsDestroyed := m.circuitsDestroyed
  bytesForwarded := m.bytesForwarded
  bytesReceived := m.bytesReceived
  streamsOpened := m.streamsOpened
  uptimeSecs := m.uptimeSecs
  eventSnapshot := m.eventSnapshot

/-- Decode the metrics of a relay. -/
def toCommon (m : NodeMetrics) : NoPanic.NodeMetrics where
  connectionsAccepted := m.connectionsAccepted
  circuitsActive := m.circuitsActive
  circuitsCreated := m.circuitsCreated
  circuitsDestroyed := m.circuitsDestroyed
  bytesForwarded := m.bytesForwarded
  bytesReceived := m.bytesReceived
  streamsOpened := m.streamsOpened
  uptimeSecs := m.uptimeSecs
  eventSnapshot := m.eventSnapshot

@[simp]
theorem toCommon_fromCommon (m : NoPanic.NodeMetrics) : (fromCommon m).toCommon = m := rfl

end NodeMetrics

/-- The statistics of a registry. -/
structure RegistryStats where
  totalNodes : UInt64
  entryCount : UInt64
  middleCount : UInt64
  exitCount : UInt64
  oldestNodeAgeSecs : Option UInt64
  newestNodeAgeSecs : Option UInt64
  deriving DecidableEq, Repr

/-! ## An exit relay with a policy -/

section

open Reference

/-- prost's text for an unknown enumeration value. -/
local instance : EnumText := ⟨fun value => s!"unknown enumeration value {value}"⟩

/-- An exit relay. -/
def sampleExit : NoPanic.NodeDescriptor where
  nodeId := "exit-1"
  nodeType := .exit
  address := .v4 ⟨[10, 0, 0, 1], rfl⟩ 9001
  publicKey := ⟨FixedBytes.zero 32⟩
  bandwidth := 1048576
  exitPolicy := some ⟨[80, 443], [25], [.ofOctets 192 0 2 1], [.v6 (FixedBytes.zero 16)]⟩
  operatorId := some "op"
  tlsCertFingerprint := "ab12"

/-- The exit relay is decoded from its encoding. -/
theorem encoded_decodes_sampleExit :
    (NodeDescriptor.fromCommon sampleExit).toCommon = .ok sampleExit :=
  NodeDescriptor.encoded_decodes sampleExit (by decide +kernel)

/-- The descriptor of an exit relay that allows one port. -/
def onePort (port : UInt32) : NodeDescriptor :=
  { NodeDescriptor.fromCommon sampleExit with exitPolicy := some ⟨[port], [], [], []⟩ }

/-- The exit relay with a policy that allows one port. -/
def allowsPort (port : UInt16) : NoPanic.NodeDescriptor :=
  { sampleExit with exitPolicy := some ⟨[port], [], [], []⟩ }

/-- A policy that allows port 443 is kept, since its port fits. -/
theorem policyKept_iff_portsFit_onePort : (onePort 443).PolicyKept (allowsPort 443) := by
  have hdecodes : (onePort 443).toCommon = .ok (allowsPort 443) := by decide +kernel
  refine (NodeDescriptor.policyKept_iff_portsFit hdecodes).mpr ?_
  intro policy hpolicy
  cases hpolicy
  exact fun port hport => by rw [List.mem_singleton.mp hport]; decide

/-- Port 65616 is accepted, and becomes port 80. -/
theorem not_policyKept_widePort :
    ¬ ∀ (p : NodeDescriptor) d, p.toCommon = .ok d → p.PolicyKept d := by
  intro hclaim
  have hdecodes : (onePort 65616).toCommon = .ok (allowsPort 80) := by decide +kernel
  obtain ⟨decoded, hd, hkept⟩ := (hclaim _ _ hdecodes).1 _ rfl
  cases hd
  exact absurd hkept.allowed (by decide)

end

end Proto

end NoPanic
