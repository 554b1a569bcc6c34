import WispersConnect.Messages
import WispersConnect.OutcomeMonad

/-!
# Signatures, hashing and pairing authentication

The primitives of the third-party crates are fields of one record of functions:
Ed25519 keys and signatures, SPKI decoding, SHA-256, HMAC and the `prost`
encodings. What the client computes from them is defined here as `crypto.rs`
and `roster.rs` compute it.
-/

namespace WispersConnect.Cryptography

open Messages OutcomeMonad

/-- The cryptographic and encoding functions the client calls but does not define. -/
structure Crypto where
  /-- Ed25519 verifying keys. -/
  VerifyingKey : Type
  /-- Verifying keys are compared by `==`. -/
  decEqKey : DecidableEq VerifyingKey
  /-- Ed25519 signing keys. -/
  SigningKey : Type
  /-- Parsed Ed25519 signatures. -/
  Signature : Type
  /-- `VerifyingKey::from_public_key_der`, with the error's text. -/
  fromPublicKeyDer : Bytes→Except String VerifyingKey
  /-- `Signature::from_slice`. -/
  signatureFromSlice : Bytes→Option Signature
  /-- `VerifyingKey::verify`. -/
  verify : VerifyingKey→Bytes→Signature→Bool
  /-- `SigningKey::from_bytes`. -/
  signingKeyFromBytes : Bytes→SigningKey
  /-- `SigningKey::verifying_key`. -/
  verifyingKey : SigningKey→VerifyingKey
  /-- `SigningKeyPair::public_key_spki`. -/
  publicKeySpki : SigningKey→Bytes
  /-- `SigningKeyPair::sign`. -/
  sign : SigningKey→Bytes→Bytes
  /-- SHA-256. -/
  sha256 : Bytes→Bytes
  /-- HMAC-SHA-256 of a key and a message. -/
  hmacSha256 : Bytes→Bytes→Bytes
  /-- HKDF-SHA-256 of salt, input key and info, expanded to 32 bytes. -/
  hkdfSha256 : Bytes→Bytes→Bytes→Bytes
  /-- `Roster::encode_to_vec`. -/
  encodeRoster : Roster→Bytes
  /-- `pair_nodes_message::Payload::encode_to_vec`. -/
  encodePairNodesPayload : PairNodesPayload→Bytes

instance (C : Crypto) : DecidableEq C.VerifyingKey := C.decEqKey

/-- A node's own SPKI bytes decode to its own verifying key. -/
def Crypto.SpkiRoundTrip (C : Crypto) : Prop :=
  ∀ key, C.fromPublicKeyDer (C.publicKeySpki key)=.ok (C.verifyingKey key)

/-- `verify_signature`: parse the signature bytes, then verify. -/
def verifySignature (C : Crypto) (key : C.VerifyingKey) (message signatureBytes : Bytes) :
    Outcome Unit Unit := do
  let signature ← Outcome.okOr (C.signatureFromSlice signatureBytes) ()
  Outcome.reject (C.verify key message signature=false) ()

/-- A signature verifies when its bytes parse to one that the key verifies. -/
theorem verifySignature_eq_ok {C : Crypto} {key : C.VerifyingKey} {message signatureBytes : Bytes} :
    verifySignature C key message signatureBytes=.ok () ↔
      ∃ signature,C.signatureFromSlice signatureBytes=some signature ∧
        C.verify key message signature=true := by
  simp only [verifySignature,Outcome.bind_eq_ok,Outcome.okOr_eq_ok,Outcome.reject_eq_ok,
    Bool.not_eq_false]

/-- Signature verification returns normally or with an error on every input. -/
theorem verifySignature_noPanic (C : Crypto) (key : C.VerifyingKey)
    (message signatureBytes : Bytes) :
    (verifySignature C key message signatureBytes).NoPanic :=
  (Outcome.noPanic_okOr _ _).bind fun _ _ => Outcome.noPanic_reject _ _

/-- Bytes of a `b"..."` literal, whose characters are all ASCII. -/
def literalBytes (text : String) : Bytes := text.toList.map fun c => UInt8.ofNat c.toNat

/-- `SigningKeyPair::derive_from_root_key`. -/
def deriveFromRootKey (C : Crypto) (rootKey : Bytes) : C.SigningKey :=
  C.signingKeyFromBytes
    (C.hkdfSha256 (literalBytes "wispers-connect-v1") rootKey (literalBytes "signing-key"))

/-- A pairing secret for device-to-device activation. -/
structure PairingSecret where
  /-- The raw secret. -/
  bytes : Bytes
  deriving DecidableEq

/-- `derive_mac_key`: HMAC of salt and info under the raw secret. -/
def PairingSecret.deriveMacKey (C : Crypto) (secret : PairingSecret) : Bytes :=
  C.hmacSha256 secret.bytes
    (literalBytes "wispers-pairing-v1"++literalBytes "wispers-pairing-v1|mac")

/-- `compute_mac`: the tag of a payload, truncated to 16 bytes. -/
def PairingSecret.computeMac (C : Crypto) (secret : PairingSecret) (payload : Bytes) : Bytes :=
  (C.hmacSha256 (secret.deriveMacKey C) payload).take 16

/-- `constant_time_eq`: fold the differences of all byte pairs. -/
def constantTimeEq (a b : Bytes) : Bool :=
  a.length==b.length && (a.zip b).foldl (fun acc pair => acc ||| (pair.1 ^^^ pair.2)) 0==0

/-- `verify_mac`: recompute the tag and compare in constant time. -/
def PairingSecret.verifyMac (C : Crypto) (secret : PairingSecret) (payload tag : Bytes) : Bool :=
  constantTimeEq (secret.computeMac C payload) tag

/-- Accumulated differences vanish only if every one of them does. -/
theorem foldl_or_eq_zero (pairs : List (UInt8×UInt8)) (acc : UInt8) :
    pairs.foldl (fun acc pair => acc ||| (pair.1 ^^^ pair.2)) acc=0 ↔
      acc=0 ∧ ∀ pair∈pairs,pair.1=pair.2 := by
  induction pairs generalizing acc with
  | nil => simp
  | cons pair pairs ih => simp [ih,and_assoc]

/-- The constant-time comparison is exact equality. -/
theorem constantTimeEq_iff (a b : Bytes) : constantTimeEq a b=true ↔ a=b := by
  simp only [constantTimeEq,Bool.and_eq_true,beq_iff_eq,foldl_or_eq_zero,true_and]
  constructor
  · rintro ⟨hl,hp⟩
    refine List.ext_getElem hl fun i hi hj => ?_
    exact hp (a[i],b[i]) (List.mem_iff_getElem.mpr ⟨i,by simp only [List.length_zip]; omega,by simp⟩)
  · rintro rfl
    refine ⟨rfl,fun pair hp => ?_⟩
    obtain ⟨i,hi,rfl⟩ := List.mem_iff_getElem.mp hp
    simp

/-- A tag verifies exactly when it is the computed tag. -/
theorem verifyMac_iff (C : Crypto) (secret : PairingSecret) (payload tag : Bytes) :
    secret.verifyMac C payload tag=true ↔ tag=secret.computeMac C payload := by
  rw [PairingSecret.verifyMac,constantTimeEq_iff,eq_comm]

end WispersConnect.Cryptography
