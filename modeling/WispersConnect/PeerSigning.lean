import WispersConnect.Cryptography

/-!
# The signed envelopes of a connection request and its answer

`p2p_signing.rs`: the payload travels as opaque bytes, with a signature over a
domain tag followed by those bytes. Caller and answerer have tags of their own.
The verifier checks the signature on the bytes as they came, then decodes them.
-/

namespace WispersConnect.PeerSigning

open Messages OutcomeMonad Cryptography

/-- `StunTurnConfig`. -/
structure StunTurnConfig where
  /-- Host and port. -/
  stunServer : String
  /-- Host and port. -/
  turnServer : String
  /-- Name for the TURN server. -/
  turnUsername : String
  /-- Password for the TURN server. -/
  turnPassword : String
  /-- When the TURN credentials expire. -/
  expiresAtMillis : Int64
  deriving DecidableEq

/-- `start_connection_request::Payload`. -/
structure RequestPayload where
  /-- The node the request is for. -/
  answererNodeNumber : Int32
  /-- The caller's ephemeral key. -/
  callerX25519PublicKey : Bytes
  /-- The caller's ICE description. -/
  callerSdp : String
  /-- `Transport`, as the wire has it. -/
  transport : Int32
  /-- The servers both sides use. -/
  stunTurnConfig : Option StunTurnConfig
  /-- The caller's estimate of its round trip to the hub. -/
  callerHubRttUsec : Int64
  /-- How long the caller waits before its ICE checks. -/
  callerIceStartDelayUsec : Int64
  deriving DecidableEq

/-- `start_connection_response::Payload`. -/
structure ResponsePayload where
  /-- Chosen by the answerer. -/
  connectionId : Int64
  /-- The answerer's ephemeral key. -/
  answererX25519PublicKey : Bytes
  /-- The answerer's ICE description. -/
  answererSdp : String
  deriving DecidableEq

/-- `StartConnectionRequest`. -/
structure StartConnectionRequest where
  /-- The encoded payload. -/
  signedPayload : Bytes
  /-- The caller's signature. -/
  signature : Bytes
  deriving DecidableEq

/-- `StartConnectionResponse`. -/
structure StartConnectionResponse where
  /-- The encoded payload. -/
  signedPayload : Bytes
  /-- The answerer's signature. -/
  signature : Bytes
  deriving DecidableEq

/-- The primitives with those that only connections use. -/
structure PeerCrypto extends Crypto where
  /-- `Signature::from_bytes`, of 64 bytes. -/
  signatureFromBytes : Bytes→Signature
  /-- `X25519KeyPair::public_key` of a seed. -/
  x25519PublicKey : Bytes→Bytes
  /-- `X25519KeyPair::diffie_hellman` of a seed and the peer's public key. -/
  diffieHellman : Bytes→Bytes→Bytes
  /-- `start_connection_request::Payload::encode_to_vec`. -/
  encodeRequestPayload : RequestPayload→Bytes
  /-- `start_connection_request::Payload::decode`. -/
  decodeRequestPayload : Bytes→Option RequestPayload
  /-- `start_connection_response::Payload::encode_to_vec`. -/
  encodeResponsePayload : ResponsePayload→Bytes
  /-- `start_connection_response::Payload::decode`. -/
  decodeResponsePayload : Bytes→Option ResponsePayload

/-- What was encoded is decoded again. -/
structure PeerCrypto.Decodes (C : PeerCrypto) : Prop where
  /-- Of a request. -/
  request : ∀ payload,C.decodeRequestPayload (C.encodeRequestPayload payload)=some payload
  /-- Of an answer. -/
  response : ∀ payload,C.decodeResponsePayload (C.encodeResponsePayload payload)=some payload

/-- A key's signature has 64 bytes and verifies under the key, on the signed message. -/
def PeerCrypto.SignsCorrectly (C : PeerCrypto) : Prop :=
  ∀ key message,(C.sign key message).length=64 ∧
    C.verify (C.verifyingKey key) message (C.signatureFromBytes (C.sign key message))=true

/-- `CALLER_SIG_DOMAIN`. -/
def callerSigDomain : Bytes := literalBytes "wispers-connect/p2p-sig/caller/v1\x00"

/-- `ANSWERER_SIG_DOMAIN`. -/
def answererSigDomain : Bytes := literalBytes "wispers-connect/p2p-sig/answerer/v1\x00"

/-- `build_caller_signing_input`. -/
def callerSigningInput (payload : Bytes) : Bytes := callerSigDomain++payload

/-- `build_answerer_signing_input`. -/
def answererSigningInput (payload : Bytes) : Bytes := answererSigDomain++payload

/-- `SigVerifyError`. -/
inductive SigVerifyError where
  /-- The SPKI bytes do not decode. -/
  | invalidKey
  /-- Not 64 bytes, or not the key's signature. -/
  | signatureMismatch
  /-- The payload does not decode. -/
  | payloadDecode
  deriving DecidableEq

variable (C : PeerCrypto)

/-- `build_signed_request`. -/
def buildSignedRequest (signingKey : C.SigningKey) (payload : RequestPayload) :
    StartConnectionRequest :=
  let payloadBytes := C.encodeRequestPayload payload
  ⟨payloadBytes,C.sign signingKey (callerSigningInput payloadBytes)⟩

/-- `build_signed_response`. -/
def buildSignedResponse (signingKey : C.SigningKey) (payload : ResponsePayload) :
    StartConnectionResponse :=
  let payloadBytes := C.encodeResponsePayload payload
  ⟨payloadBytes,C.sign signingKey (answererSigningInput payloadBytes)⟩

/-- `parse_signature`. -/
def parseSignature (bytes : Bytes) : Outcome SigVerifyError C.Signature :=
  if bytes.length=64 then .ok (C.signatureFromBytes bytes) else .err .signatureMismatch

/-- The common body of `verify_request` and `verify_response`: the signature over
the signing input, then the payload. -/
def verifySigned {α : Type} (signingInput : Bytes→Bytes) (decode : Bytes→Option α)
    (signedPayload signature publicKeySpki : Bytes) : Outcome SigVerifyError α := do
  let key ← (Outcome.ofExcept (C.fromPublicKeyDer publicKeySpki)).mapErr fun _ => .invalidKey
  let sig ← parseSignature C signature
  Outcome.reject (C.verify key (signingInput signedPayload) sig=false) .signatureMismatch
  Outcome.okOr (decode signedPayload) .payloadDecode

/-- `verify_request`. -/
def verifyRequest (request : StartConnectionRequest) (callerPublicKeySpki : Bytes) :
    Outcome SigVerifyError RequestPayload :=
  verifySigned C callerSigningInput C.decodeRequestPayload request.signedPayload request.signature
    callerPublicKeySpki

/-- `verify_response`. -/
def verifyResponse (response : StartConnectionResponse) (answererPublicKeySpki : Bytes) :
    Outcome SigVerifyError ResponsePayload :=
  verifySigned C answererSigningInput C.decodeResponsePayload response.signedPayload
    response.signature answererPublicKeySpki

variable {C}

/-- A signature of 64 bytes verifies under a key. -/
def EnvelopeSigned (key : C.VerifyingKey) (message signature : Bytes) : Prop :=
  signature.length=64 ∧ C.verify key message (C.signatureFromBytes signature)=true

/-- An envelope is accepted exactly when it is signed under the decoded key and decodes. -/
theorem verifySigned_eq_ok {α : Type} {signingInput : Bytes→Bytes} {decode : Bytes→Option α}
    {signedPayload signature spki : Bytes} {payload : α} :
    verifySigned C signingInput decode signedPayload signature spki=.ok payload ↔
      ∃ key,C.fromPublicKeyDer spki=.ok key ∧
        EnvelopeSigned key (signingInput signedPayload) signature ∧
        decode signedPayload=some payload := by
  simp only [verifySigned,Outcome.bind_eq_ok,Outcome.mapErr_eq_ok,Outcome.ofExcept_eq_ok,
    Outcome.reject_eq_ok,Outcome.okOr_eq_ok,parseSignature,EnvelopeSigned,Bool.not_eq_false]
  constructor
  · rintro ⟨key,hkey,sig,hsig,_,hverify,hdecode⟩
    split at hsig
    · next hlength =>
      obtain rfl := Outcome.ok.inj hsig
      exact ⟨key,hkey,⟨hlength,hverify⟩,hdecode⟩
    · cases hsig
  · rintro ⟨key,hkey,⟨hlength,hverify⟩,hdecode⟩
    exact ⟨key,hkey,_,if_pos hlength,(),hverify,hdecode⟩

/-- Checking an envelope never panics. -/
theorem verifySigned_noPanic {α : Type} {signingInput : Bytes→Bytes} {decode : Bytes→Option α}
    {signedPayload signature spki : Bytes} :
    (verifySigned C signingInput decode signedPayload signature spki).NoPanic := by
  refine (Outcome.noPanic_mapErr.mpr (Outcome.noPanic_ofExcept _)).bind fun _ _ => ?_
  refine Outcome.NoPanic.bind ?_ fun _ _ => ?_
  · unfold parseSignature
    split
    · exact Outcome.noPanic_ok _
    · exact Outcome.noPanic_err _
  · exact (Outcome.noPanic_reject _ _).bind fun _ _ => Outcome.noPanic_okOr _ _

/-- An accepted envelope is signed under the key its signer's entry decodes to. -/
theorem signed_of_verifySigned {α : Type} {signingInput : Bytes→Bytes} {decode : Bytes→Option α}
    {signedPayload signature spki : Bytes} {payload : α} {key : C.VerifyingKey}
    (h : verifySigned C signingInput decode signedPayload signature spki=.ok payload)
    (hkey : C.fromPublicKeyDer spki=.ok key) :
    EnvelopeSigned key (signingInput signedPayload) signature := by
  obtain ⟨found,hfound,hsigned,_⟩ := verifySigned_eq_ok.mp h
  obtain rfl := Except.ok.inj (hfound.symm.trans hkey)
  exact hsigned

/-- An accepted request is signed by the holder of the caller's key. -/
theorem signed_of_verifyRequest {request : StartConnectionRequest} {spki : Bytes}
    {payload : RequestPayload} {key : C.VerifyingKey}
    (h : verifyRequest C request spki=.ok payload) (hkey : C.fromPublicKeyDer spki=.ok key) :
    EnvelopeSigned key (callerSigningInput request.signedPayload) request.signature := by
  unfold verifyRequest at h
  have hsigned := signed_of_verifySigned h hkey
  exact hsigned

/-- An accepted answer is signed by the holder of the answerer's key. -/
theorem signed_of_verifyResponse {response : StartConnectionResponse} {spki : Bytes}
    {payload : ResponsePayload} {key : C.VerifyingKey}
    (h : verifyResponse C response spki=.ok payload) (hkey : C.fromPublicKeyDer spki=.ok key) :
    EnvelopeSigned key (answererSigningInput response.signedPayload) response.signature := by
  unfold verifyResponse at h
  have hsigned := signed_of_verifySigned h hkey
  exact hsigned

/-- A built request is signed over its payload with the caller's tag. -/
theorem buildSignedRequest_signature (C : PeerCrypto) (key : C.SigningKey)
    (payload : RequestPayload) : (buildSignedRequest C key payload).signature=
      C.sign key (callerSigningInput (buildSignedRequest C key payload).signedPayload) := rfl

/-- A built answer is signed over its payload with the answerer's tag. -/
theorem buildSignedResponse_signature (C : PeerCrypto) (key : C.SigningKey)
    (payload : ResponsePayload) : (buildSignedResponse C key payload).signature=
      C.sign key (answererSigningInput (buildSignedResponse C key payload).signedPayload) := rfl

/-- What a build function produced is accepted under the signer's SPKI. -/
theorem verifySigned_built {α : Type} (hround : C.SpkiRoundTrip) (hsign : C.SignsCorrectly)
    {decode : Bytes→Option α} {encode : α→Bytes} (hdecode : ∀ payload,decode (encode payload)=some payload)
    (signingInput : Bytes→Bytes) (key : C.SigningKey) (payload : α) :
    verifySigned C signingInput decode (encode payload)
      (C.sign key (signingInput (encode payload))) (C.publicKeySpki key)=.ok payload :=
  verifySigned_eq_ok.mpr ⟨_,hround key,hsign key _,hdecode payload⟩

/-- A built request is accepted and its payload returned. -/
theorem verifyRequest_built (hround : C.SpkiRoundTrip) (hsign : C.SignsCorrectly)
    (hdecodes : C.Decodes) (key : C.SigningKey) (payload : RequestPayload) :
    verifyRequest C (buildSignedRequest C key payload) (C.publicKeySpki key)=.ok payload :=
  verifySigned_built hround hsign hdecodes.request callerSigningInput key payload

/-- A built answer is accepted and its payload returned. -/
theorem verifyResponse_built (hround : C.SpkiRoundTrip) (hsign : C.SignsCorrectly)
    (hdecodes : C.Decodes) (key : C.SigningKey) (payload : ResponsePayload) :
    verifyResponse C (buildSignedResponse C key payload) (C.publicKeySpki key)=.ok payload :=
  verifySigned_built hround hsign hdecodes.response answererSigningInput key payload

/-- The payload of a caller's signing input is determined by it. -/
theorem callerSigningInput_injective : Function.Injective callerSigningInput :=
  fun _ _ h => List.append_cancel_left h

/-- The payload of an answerer's signing input is determined by it. -/
theorem answererSigningInput_injective : Function.Injective answererSigningInput :=
  fun _ _ h => List.append_cancel_left h

/-- The two domain tags differ before the shorter one ends. -/
theorem callerSigningInput_ne_answerer (p q : Bytes) :
    callerSigningInput p≠answererSigningInput q := by
  intro h
  have htake := congrArg (List.take 34) h
  have hcaller : (callerSigningInput p).take 34=callerSigDomain := List.take_left' (by decide)
  have hanswerer : (answererSigningInput q).take 34=answererSigDomain.take 34 := by
    rw [answererSigningInput,List.take_append_of_le_length (by decide)]
  rw [hcaller,hanswerer] at htake
  exact absurd htake (by decide)

/-- A caller's signing input is longer than a digest. -/
theorem callerSigningInput_length (p : Bytes) : (callerSigningInput p).length=34+p.length :=
  List.length_append

/-- An answerer's signing input is longer than a digest. -/
theorem answererSigningInput_length (q : Bytes) : (answererSigningInput q).length=36+q.length :=
  List.length_append

end WispersConnect.PeerSigning
