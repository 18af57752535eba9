/-
# Pinned certificates

A connection to a relay is made under the fingerprint that the directory has of the relay's
certificate. The TLS library asks a verifier twice: whether it takes the certificate, and
whether the signature over the handshake is one of the certificate's key. The verifier
compares fingerprints at the first question and says yes to the second.

What the TLS library itself does is not part of the code. A handshake completes here when
both answers are yes, and whether a signature verifies is a parameter.
-/

import NoPanic.Common.Crypto
import NoPanic.Common.Reference
import NoPanic.Math.Numeral

namespace NoPanic

open NoPanic.Math

/-- The versions of TLS that a connection may negotiate. -/
inductive TlsVersion
  | tls12
  | tls13
  deriving DecidableEq, Repr

/-- A signature over a handshake, with its scheme. -/
structure DigitallySignedStruct where
  scheme : UInt16
  signature : Bytes
  deriving DecidableEq, Repr

/-- What a server presents in a handshake, and what the client knows besides. -/
structure ServerHandshake where
  version : TlsVersion
  endEntity : Bytes
  intermediates : List Bytes
  serverName : String
  ocspResponse : Bytes
  now : Nat
  message : Bytes
  dss : DigitallySignedStruct
  deriving DecidableEq, Repr

/-- `str::eq_ignore_ascii_case`. -/
def eqIgnoreAsciiCase (a b : String) : Bool := a.toLower == b.toLower

/-- The fingerprint of a certificate: its SHA-256 in hexadecimal. -/
def computeCertFingerprint [Primitives] (certDer : Bytes) : String :=
  String.ofList ((Primitives.sha256 certDer).1.flatMap hexDigits)

/-- The verifier of a connection, with the fingerprint it expects. -/
structure FingerprintVerifier where
  expected : String
  deriving DecidableEq, Repr

namespace FingerprintVerifier

/-- Whether the certificate of a server is taken. -/
def verifyServerCert [Primitives] (verifier : FingerprintVerifier) (endEntity : Bytes)
    (_intermediates : List Bytes) (_serverName : String) (_ocspResponse : Bytes) (_now : Nat) :
    Except String Unit :=
  let actual := computeCertFingerprint endEntity
  if eqIgnoreAsciiCase actual verifier.expected then .ok ()
  else
    .error ("Certificate fingerprint mismatch: expected " ++ verifier.expected ++ ", got " ++
      actual)

/-- Whether the signature of a TLS 1.2 handshake is taken. -/
def verifyTls12Signature (_verifier : FingerprintVerifier) (_message _cert : Bytes)
    (_dss : DigitallySignedStruct) : Except String Unit :=
  .ok ()

/-- Whether the signature of a TLS 1.3 handshake is taken. -/
def verifyTls13Signature (_verifier : FingerprintVerifier) (_message _cert : Bytes)
    (_dss : DigitallySignedStruct) : Except String Unit :=
  .ok ()

/-- Whether the signature of a handshake is taken, by the callback of its version. -/
def verifySignature (verifier : FingerprintVerifier) (h : ServerHandshake) : Except String Unit :=
  match h.version with
  | .tls12 => verifier.verifyTls12Signature h.message h.endEntity h.dss
  | .tls13 => verifier.verifyTls13Signature h.message h.endEntity h.dss

/-- No signature is refused. -/
theorem verifySignature_eq (verifier : FingerprintVerifier) (h : ServerHandshake) :
    verifier.verifySignature h = .ok () := by
  rw [verifySignature]
  cases h.version <;> rfl

/-- A handshake completes when the verifier takes the certificate and the signature. -/
def Completes [Primitives] (verifier : FingerprintVerifier) (h : ServerHandshake) : Prop :=
  verifier.verifyServerCert h.endEntity h.intermediates h.serverName h.ocspResponse h.now = .ok () ∧
    verifier.verifySignature h = .ok ()

end FingerprintVerifier

/-- The connector to a server with a known fingerprint, by its verifier. -/
def makeTlsConnector (expectedFingerprint : String) : FingerprintVerifier := ⟨expectedFingerprint⟩

/-! ## What a completed handshake says of the server -/

/-- Whether a signature over a message verifies under the key of a certificate. -/
abbrev SignatureCheck : Type := Bytes → Bytes → DigitallySignedStruct → Bool

section

variable [Primitives]

/-- A certificate has a fingerprint, up to case. -/
def HasFingerprint (cert : Bytes) (fingerprint : String) : Prop :=
  (computeCertFingerprint cert).toLower = fingerprint.toLower

/-- The server is who it is taken for: it presents the certificate with the expected
fingerprint, and has signed the handshake with its key. -/
structure Authentic (verifies : SignatureCheck) (fingerprint : String) (h : ServerHandshake) :
    Prop where
  certificate : HasFingerprint h.endEntity fingerprint
  signature : verifies h.endEntity h.message h.dss = true

/-- A handshake completes exactly when the certificate has the fingerprint. -/
theorem completes_iff (fingerprint : String) (h : ServerHandshake) :
    (makeTlsConnector fingerprint).Completes h ↔ HasFingerprint h.endEntity fingerprint := by
  have hcert : eqIgnoreAsciiCase (computeCertFingerprint h.endEntity) fingerprint = true ↔
      HasFingerprint h.endEntity fingerprint := beq_iff_eq
  simp only [FingerprintVerifier.Completes, FingerprintVerifier.verifySignature_eq, and_true,
    FingerprintVerifier.verifyServerCert, makeTlsConnector, ← hcert]
  by_cases hsame : eqIgnoreAsciiCase (computeCertFingerprint h.endEntity) fingerprint = true
  · simp [hsame]
  · simp [hsame]

/-- A relay is reached under the fingerprint of its certificate, in either case. -/
theorem completes_of_fingerprint (h : ServerHandshake) :
    (makeTlsConnector (computeCertFingerprint h.endEntity)).Completes h :=
  (completes_iff _ h).mpr rfl

/-- Whoever presents the certificate of a server that is reached is reached as well, whatever
it signs and in whichever version. -/
theorem completes_of_sameCert {fingerprint : String} {h h' : ServerHandshake}
    (hcompletes : (makeTlsConnector fingerprint).Completes h)
    (hcert : h'.endEntity = h.endEntity) : (makeTlsConnector fingerprint).Completes h' := by
  rw [completes_iff, hcert]
  exact (completes_iff fingerprint h).mp hcompletes

/-- A handshake completes with nobody but the server of the fingerprint exactly when another
certificate is presented, or the signature is good. -/
theorem completes_authentic_iff (verifies : SignatureCheck) (fingerprint : String)
    (h : ServerHandshake) :
    ((makeTlsConnector fingerprint).Completes h → Authentic verifies fingerprint h) ↔
      ¬ HasFingerprint h.endEntity fingerprint ∨ verifies h.endEntity h.message h.dss = true := by
  rw [completes_iff]
  constructor
  · intro hauthentic
    by_cases hcert : HasFingerprint h.endEntity fingerprint
    · exact Or.inr (hauthentic hcert).signature
    · exact Or.inl hcert
  · rintro (hother | hsigned) hcert
    · exact absurd hcert hother
    · exact ⟨hcert, hsigned⟩

end

section

open Reference

/-- A handshake with the certificate of a relay and a signature of one zero byte. -/
def copiedCertificate : ServerHandshake :=
  ⟨.tls13, [0x30, 0x03, 0x02, 0x01, 0x05], [], "relay.test", [], 0, [1, 2, 3], ⟨0x0403, [0]⟩⟩

/-- A peer with a copy of a certificate is taken for the relay, though its signature does not
verify. -/
theorem not_authentic_copiedCertificate :
    ¬ ∀ (verifies : SignatureCheck) (fingerprint : String) (h : ServerHandshake),
      (makeTlsConnector fingerprint).Completes h → Authentic verifies fingerprint h := by
  intro hclaim
  have hauthentic := hclaim (fun _ _ _ => false) _ copiedCertificate
    (completes_of_fingerprint copiedCertificate)
  exact absurd hauthentic.signature (by decide)

end

end NoPanic
