/-
# The ntor handshake

Both sides of the handshake derive a seed, a verification tag and an
authentication tag from one string, `secret_input`, which lists the two shared
secrets and the three public keys. The relay sends its ephemeral key and the
authentication tag; the client recomputes the tag and compares.

Two facts make the handshake what it is. Honest runs agree, because X25519
commutes. An accepted tag binds everything, because both concatenations parse in
one way only: every part but the last has a fixed length.
-/

import NoPanic.Common.Types
import NoPanic.Common.Reference
import Mathlib.Data.Set.Function

namespace NoPanic

open NoPanic.Math

/-- The protocol id. -/
def protoId : Bytes := asBytes "ntor-curve25519-sha256-1"

/-- The HMAC key of the seed. -/
def tKey : Bytes := protoId ++ asBytes ":key_extract"

/-- The HMAC key of the verification tag. -/
def tVerify : Bytes := protoId ++ asBytes ":verify"

/-- The HMAC key of the authentication tag. -/
def tMac : Bytes := protoId ++ asBytes ":mac"

/-- The HMAC key of the expansion. -/
def mExpand : Bytes := protoId ++ asBytes ":key_expand"

/-- `secret_input = exp1 || exp2 || B || X || Y || PROTOID`. -/
def buildSecretInput (exp1 exp2 serverStaticPub clientEphemeralPub serverEphemeralPub :
    FixedBytes 32) : Bytes :=
  exp1.1 ++ (exp2.1 ++ (serverStaticPub.1 ++ (clientEphemeralPub.1 ++
    (serverEphemeralPub.1 ++ protoId))))

/-- `auth_input = verify || B || Y || X || PROTOID || "Server"`, as both sides
build it. -/
def buildAuthInput (verify serverStaticPub serverEphemeralPub clientEphemeralPub :
    FixedBytes 32) : Bytes :=
  verify.1 ++ (serverStaticPub.1 ++ (serverEphemeralPub.1 ++ (clientEphemeralPub.1 ++
    (protoId ++ asBytes "Server"))))

/-- `secret_input` determines each of its parts. -/
theorem buildSecretInput_inj {exp1 exp2 sB cX sY exp1' exp2' sB' cX' sY' : FixedBytes 32}
    (h : buildSecretInput exp1 exp2 sB cX sY = buildSecretInput exp1' exp2' sB' cX' sY') :
    exp1 = exp1' ∧ exp2 = exp2' ∧ sB = sB' ∧ cX = cX' ∧ sY = sY' := by
  obtain ⟨hexp1, h⟩ := FixedBytes.append_inj h
  obtain ⟨hexp2, h⟩ := FixedBytes.append_inj h
  obtain ⟨hB, h⟩ := FixedBytes.append_inj h
  obtain ⟨hX, h⟩ := FixedBytes.append_inj h
  exact ⟨hexp1, hexp2, hB, hX, (FixedBytes.append_inj h).1⟩

/-- `auth_input` determines each of its parts. -/
theorem buildAuthInput_inj {verify sB sY cX verify' sB' sY' cX' : FixedBytes 32}
    (h : buildAuthInput verify sB sY cX = buildAuthInput verify' sB' sY' cX') :
    verify = verify' ∧ sB = sB' ∧ sY = sY' ∧ cX = cX' := by
  obtain ⟨hverify, h⟩ := FixedBytes.append_inj h
  obtain ⟨hB, h⟩ := FixedBytes.append_inj h
  obtain ⟨hY, h⟩ := FixedBytes.append_inj h
  exact ⟨hverify, hB, hY, (FixedBytes.append_inj h).1⟩

section

variable [Primitives]

/-- Raw X25519. -/
def rawDhStatic (secretBytes theirPublic : FixedBytes 32) : FixedBytes 32 :=
  Primitives.x25519 secretBytes theirPublic

/-- The session key of a seed: the expansion, split in two halves. -/
def expandKeySeed (keySeed : FixedBytes 32) : SessionKey :=
  let keyMaterial := Primitives.hmacSha256 mExpand keySeed.1
  ⟨keyMaterial.take 16 (by decide), keyMaterial.drop 16 16 rfl⟩

/-- The relay's side. The ephemeral secret it draws is an argument. The result
lists the ephemeral public key, the authentication tag and the session key. -/
def ntorServer (ySecret staticSecret staticPublic clientEphemeralPub : FixedBytes 32) :
    FixedBytes 32 × FixedBytes 32 × SessionKey :=
  let yPubBytes := Primitives.x25519Public ySecret
  let exp1 := rawDhStatic ySecret clientEphemeralPub
  let exp2 := rawDhStatic staticSecret clientEphemeralPub
  let secretInput := buildSecretInput exp1 exp2 staticPublic clientEphemeralPub yPubBytes
  let keySeed := Primitives.hmacSha256 tKey secretInput
  let verify := Primitives.hmacSha256 tVerify secretInput
  let authInput := buildAuthInput verify staticPublic yPubBytes clientEphemeralPub
  let auth := Primitives.hmacSha256 tMac authInput
  (yPubBytes, auth, expandKeySeed keySeed)

/-- The client's side: compare the tag, then derive the session key. -/
def ntorClientFinishRaw (clientEphemeralSecretBytes clientEphemeralPub serverStaticPub
    serverEphemeralPub auth : FixedBytes 32) : Except TorError SessionKey :=
  let exp1 := rawDhStatic clientEphemeralSecretBytes serverEphemeralPub
  let exp2 := rawDhStatic clientEphemeralSecretBytes serverStaticPub
  let secretInput :=
    buildSecretInput exp1 exp2 serverStaticPub clientEphemeralPub serverEphemeralPub
  let keySeed := Primitives.hmacSha256 tKey secretInput
  let verify := Primitives.hmacSha256 tVerify secretInput
  let authInput := buildAuthInput verify serverStaticPub serverEphemeralPub clientEphemeralPub
  let expectedAuth := Primitives.hmacSha256 tMac authInput
  if auth != expectedAuth then .error .handshakeAuthFailed
  else .ok (expandKeySeed keySeed)

/-- The key pair of a relay. -/
structure KeyPair where
  pub : PublicKey
  secretBytes : FixedBytes 32
  deriving DecidableEq, Repr

namespace KeyPair

/-- The key pair of a secret. -/
def fromSecretBytes (bytes : FixedBytes 32) : KeyPair :=
  ⟨⟨Primitives.x25519Public bytes⟩, bytes⟩

/-- The relay's side of the handshake with this key pair. -/
def ntorServerHandshake (keypair : KeyPair) (ySecret clientEphemeralPub : FixedBytes 32) :
    FixedBytes 32 × FixedBytes 32 × SessionKey :=
  ntorServer ySecret keypair.secretBytes keypair.pub.bytes clientEphemeralPub

end KeyPair

/-! ## Agreement and binding -/

/-- Two secrets reach the same shared secret from each other's public keys. -/
def Agree (a b : FixedBytes 32) : Prop :=
  Primitives.x25519 a (Primitives.x25519Public b) =
    Primitives.x25519 b (Primitives.x25519Public a)

instance (a b : FixedBytes 32) : Decidable (Agree a b) :=
  inferInstanceAs (Decidable (_ = _))

/-- Honest runs agree: the client accepts the relay's reply and both hold the
same session key. -/
theorem ntorClientFinishRaw_ntorServer {x y b : FixedBytes 32} (heph : Agree y x)
    (hstatic : Agree b x) :
    ntorClientFinishRaw x (Primitives.x25519Public x) (Primitives.x25519Public b)
        (ntorServer y b (Primitives.x25519Public b) (Primitives.x25519Public x)).1
        (ntorServer y b (Primitives.x25519Public b) (Primitives.x25519Public x)).2.1 =
      .ok (ntorServer y b (Primitives.x25519Public b) (Primitives.x25519Public x)).2.2 := by
  simp only [Agree] at heph hstatic
  simp [ntorClientFinishRaw, ntorServer, rawDhStatic, heph, hstatic]

/-- The string from which a run of the relay derives everything. -/
def serverSecretInput (ySecret staticSecret staticPublic clientEphemeralPub : FixedBytes 32) :
    Bytes :=
  buildSecretInput (rawDhStatic ySecret clientEphemeralPub)
    (rawDhStatic staticSecret clientEphemeralPub) staticPublic clientEphemeralPub
    (Primitives.x25519Public ySecret)

/-- The string from which a run of the client derives everything. -/
def clientSecretInput (clientEphemeralSecretBytes clientEphemeralPub serverStaticPub
    serverEphemeralPub : FixedBytes 32) : Bytes :=
  buildSecretInput (rawDhStatic clientEphemeralSecretBytes serverEphemeralPub)
    (rawDhStatic clientEphemeralSecretBytes serverStaticPub) serverStaticPub
    clientEphemeralPub serverEphemeralPub

/-- The string a run of the relay authenticates. -/
def serverAuthInput (ySecret staticSecret staticPublic clientEphemeralPub : FixedBytes 32) :
    Bytes :=
  buildAuthInput
    (Primitives.hmacSha256 tVerify
      (serverSecretInput ySecret staticSecret staticPublic clientEphemeralPub))
    staticPublic (Primitives.x25519Public ySecret) clientEphemeralPub

/-- The string a run of the client expects to be authenticated. -/
def clientAuthInput (clientEphemeralSecretBytes clientEphemeralPub serverStaticPub
    serverEphemeralPub : FixedBytes 32) : Bytes :=
  buildAuthInput
    (Primitives.hmacSha256 tVerify
      (clientSecretInput clientEphemeralSecretBytes clientEphemeralPub serverStaticPub
        serverEphemeralPub))
    serverStaticPub serverEphemeralPub clientEphemeralPub

/-- What a relay run returns, from its two strings. -/
theorem ntorServer_eq (y b sB cX : FixedBytes 32) :
    ntorServer y b sB cX =
      (Primitives.x25519Public y, Primitives.hmacSha256 tMac (serverAuthInput y b sB cX),
        expandKeySeed (Primitives.hmacSha256 tKey (serverSecretInput y b sB cX))) := rfl

/-- A client run accepts exactly the tag of its own string. -/
theorem ntorClientFinishRaw_eq_ok {x cX sB sY auth : FixedBytes 32} {key : SessionKey} :
    ntorClientFinishRaw x cX sB sY auth = .ok key ↔
      auth = Primitives.hmacSha256 tMac (clientAuthInput x cX sB sY) ∧
        key = expandKeySeed (Primitives.hmacSha256 tKey (clientSecretInput x cX sB sY)) := by
  simp only [ntorClientFinishRaw, clientAuthInput, clientSecretInput, bne_iff_ne, ne_eq,
    ite_not]
  split
  · next hauth => simp [hauth, eq_comm]
  · next hauth => simp [hauth]

/-- An accepted tag binds the public keys, the shared secrets and the session
key, as long as HMAC does not collide on the strings of the two runs. -/
theorem ntorServer_binding {x cX sB sY y' b' sB' cX' : FixedBytes 32} {key : SessionKey}
    (hmac : Set.InjOn (Primitives.hmacSha256 tMac)
      {clientAuthInput x cX sB sY, serverAuthInput y' b' sB' cX'})
    (hverify : Set.InjOn (Primitives.hmacSha256 tVerify)
      {clientSecretInput x cX sB sY, serverSecretInput y' b' sB' cX'})
    (haccept : ntorClientFinishRaw x cX sB sY (ntorServer y' b' sB' cX').2.1 = .ok key) :
    (sB = sB' ∧ cX = cX' ∧ sY = Primitives.x25519Public y') ∧
      (rawDhStatic x sY = rawDhStatic y' cX' ∧ rawDhStatic x sB = rawDhStatic b' cX') ∧
        key = (ntorServer y' b' sB' cX').2.2 := by
  rw [ntorClientFinishRaw_eq_ok, ntorServer_eq] at haccept
  obtain ⟨htag, hkey⟩ := haccept
  have hauth : clientAuthInput x cX sB sY = serverAuthInput y' b' sB' cX' :=
    hmac (by simp) (by simp) htag.symm
  -- the outer string carries the tag of the inner one
  obtain ⟨htag', hB, hY, hX⟩ := buildAuthInput_inj hauth
  have hsecret : clientSecretInput x cX sB sY = serverSecretInput y' b' sB' cX' :=
    hverify (by simp) (by simp) htag'
  obtain ⟨hexp1, hexp2, -⟩ := buildSecretInput_inj hsecret
  refine ⟨⟨hB, hX, hY⟩, ⟨hexp1, hexp2⟩, ?_⟩
  rw [hkey, hsecret, ntorServer_eq]

/-- Agreement and binding of the handshake. -/
theorem ntor_agreement_and_binding :
    (∀ x y b : FixedBytes 32, Agree y x → Agree b x →
      let reply := ntorServer y b (Primitives.x25519Public b) (Primitives.x25519Public x)
      ntorClientFinishRaw x (Primitives.x25519Public x) (Primitives.x25519Public b) reply.1
        reply.2.1 = .ok reply.2.2) ∧
    (∀ (x cX sB sY y' b' sB' cX' : FixedBytes 32) (key : SessionKey),
      Set.InjOn (Primitives.hmacSha256 tMac)
        {clientAuthInput x cX sB sY, serverAuthInput y' b' sB' cX'} →
      Set.InjOn (Primitives.hmacSha256 tVerify)
        {clientSecretInput x cX sB sY, serverSecretInput y' b' sB' cX'} →
      ntorClientFinishRaw x cX sB sY (ntorServer y' b' sB' cX').2.1 = .ok key →
      (sB = sB' ∧ cX = cX' ∧ sY = (ntorServer y' b' sB' cX').1) ∧
        (rawDhStatic x sY = rawDhStatic y' cX' ∧ rawDhStatic x sB = rawDhStatic b' cX') ∧
          key = (ntorServer y' b' sB' cX').2.2) :=
  ⟨fun _ _ _ heph hstatic => ntorClientFinishRaw_ntorServer heph hstatic,
    fun _ _ _ _ _ _ _ _ _ hmac hverify haccept => ntorServer_binding hmac hverify haccept⟩

end

section

open Reference

/-- Agreement and binding at the client secret 1, the relay's ephemeral secret 2
and its static secret 3. -/
theorem ntor_agreement_and_binding_reference :
    let x := FixedBytes.ofNat 32 1
    let y := FixedBytes.ofNat 32 2
    let b := FixedBytes.ofNat 32 3
    let reply := ntorServer y b (Primitives.x25519Public b) (Primitives.x25519Public x)
    ntorClientFinishRaw x (Primitives.x25519Public x) (Primitives.x25519Public b) reply.1
        reply.2.1 = .ok reply.2.2 ∧
      rawDhStatic x reply.1 = rawDhStatic y (Primitives.x25519Public x) ∧
        rawDhStatic x (Primitives.x25519Public b) = rawDhStatic b (Primitives.x25519Public x) := by
  intro x y b reply
  have heph : Agree y x := by decide +kernel
  have hstatic : Agree b x := by decide +kernel
  have haccept := ntor_agreement_and_binding.1 x y b heph hstatic
  -- the two runs derive everything from the same strings
  have hsecret : clientSecretInput x (Primitives.x25519Public x) (Primitives.x25519Public b)
      reply.1 = serverSecretInput y b (Primitives.x25519Public b) (Primitives.x25519Public x) := by
    simp only [clientSecretInput, serverSecretInput, reply, ntorServer_eq, rawDhStatic]
    rw [← heph, ← hstatic]
  have hauth : clientAuthInput x (Primitives.x25519Public x) (Primitives.x25519Public b)
      reply.1 = serverAuthInput y b (Primitives.x25519Public b) (Primitives.x25519Public x) := by
    simp only [clientAuthInput, serverAuthInput, hsecret]
    rfl
  have hbinding := ntor_agreement_and_binding.2 x (Primitives.x25519Public x)
    (Primitives.x25519Public b) reply.1 y b (Primitives.x25519Public b)
    (Primitives.x25519Public x) reply.2.2 (by simp [hauth]) (by simp [hsecret]) haccept
  exact ⟨haccept, hbinding.2.1⟩

end

end NoPanic
