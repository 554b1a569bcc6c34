import WispersConnect.PeerSigning
import WispersConnect.RosterEncoding
import WispersConnect.SymbolicCrypto
import WispersConnect.WireDecoding

/-!
# The wire encoding of connection payloads

The payloads of a connection request and its answer with the field numbers of
`hub.proto`, written and read back. With them, an instance of the primitives
whose signatures have the 64 bytes that an envelope asks for: short messages are
carried in the signature itself, long ones by a checksum.
-/

namespace WispersConnect.PeerEncoding

open Messages OutcomeMonad Cryptography PeerSigning WireFormat WireDecoding RosterEncoding
open RosterBuilders RosterChain SymbolicCrypto

/-- The UTF-8 bytes of a text. -/
def textBytes (text : String) : Bytes := text.toByteArray.data.toList

/-- The text of UTF-8 bytes. -/
def decodeText (bytes : Bytes) : Option String :=
  if h : (ByteArray.mk bytes.toArray).IsValidUTF8 then some (.ofByteArray _ h) else none

/-- A text is read back. -/
theorem decodeText_textBytes (text : String) : decodeText (textBytes text)=some text := by
  have hsame : ByteArray.mk (textBytes text).toArray=text.toByteArray := rfl
  have hvalid : (ByteArray.mk (textBytes text).toArray).IsValidUTF8 := hsame ▸ text.isValidUTF8
  rw [decodeText,dif_pos hvalid]
  rfl

/-- The number of an `int64` varint. -/
def decodeInt64 (value : ℕ) : Int64 := (UInt64.ofNat value).toInt64

/-- The number of an `int32` varint: its low 32 bits. -/
def decodeInt32 (value : ℕ) : Int32 := (decodeInt64 value).toInt32

/-- An `int64` is read back. -/
theorem decodeInt64_varint (value : Int64) : decodeInt64 (int64Varint value)=value := by
  rw [decodeInt64,int64Varint,UInt64.ofNat_toNat,Int64.toInt64_toUInt64]

/-- An `int32` is read back. -/
theorem decodeInt32_varint (value : Int32) : decodeInt32 (int32Varint value)=value := by
  rw [decodeInt32,int32Varint,decodeInt64_varint,Int32.toInt32_toInt64]

/-- `StunTurnConfig`. -/
def stunTurnConfigFields (config : StunTurnConfig) : List Field :=
  fieldsOf 1 (bytesValues (textBytes config.stunServer))++
    fieldsOf 2 (bytesValues (textBytes config.turnServer))++
    fieldsOf 3 (bytesValues (textBytes config.turnUsername))++
    fieldsOf 4 (bytesValues (textBytes config.turnPassword))++
    fieldsOf 5 (varintValues (int64Varint config.expiresAtMillis))

/-- `start_connection_request::Payload`. -/
def requestPayloadFields (payload : RequestPayload) : List Field :=
  fieldsOf 1 (varintValues (int32Varint payload.answererNodeNumber))++
    fieldsOf 2 (bytesValues payload.callerX25519PublicKey)++
    fieldsOf 3 (bytesValues (textBytes payload.callerSdp))++
    fieldsOf 4 (varintValues (int32Varint payload.transport))++
    fieldsOf 5 (messageValues (payload.stunTurnConfig.toList.map stunTurnConfigFields))++
    fieldsOf 6 (varintValues (int64Varint payload.callerHubRttUsec))++
    fieldsOf 7 (varintValues (int64Varint payload.callerIceStartDelayUsec))

/-- `start_connection_response::Payload`. -/
def responsePayloadFields (payload : ResponsePayload) : List Field :=
  fieldsOf 1 (varintValues (int64Varint payload.connectionId))++
    fieldsOf 2 (bytesValues payload.answererX25519PublicKey)++
    fieldsOf 3 (bytesValues (textBytes payload.answererSdp))

/-- A `string` field. -/
def textOf (tag : ℕ) (fields : List Field) : Option String :=
  (lastBytes (valuesOf tag fields)).bind decodeText

/-- An `int64` field. -/
def int64Of (tag : ℕ) (fields : List Field) : Option Int64 :=
  (lastVarint (valuesOf tag fields)).map decodeInt64

/-- An `int32` field. -/
def int32Of (tag : ℕ) (fields : List Field) : Option Int32 :=
  (lastVarint (valuesOf tag fields)).map decodeInt32

/-- A `StunTurnConfig` from its fields. -/
def readStunTurnConfig (fields : List Field) : Option StunTurnConfig := do
  let stunServer ← textOf 1 fields
  let turnServer ← textOf 2 fields
  let turnUsername ← textOf 3 fields
  let turnPassword ← textOf 4 fields
  let expiresAtMillis ← int64Of 5 fields
  some ⟨stunServer,turnServer,turnUsername,turnPassword,expiresAtMillis⟩

/-- A request payload from its fields. -/
def readRequestPayload (fields : List Field) : Option RequestPayload := do
  let answererNodeNumber ← int32Of 1 fields
  let callerX25519PublicKey ← lastBytes (valuesOf 2 fields)
  let callerSdp ← textOf 3 fields
  let transport ← int32Of 4 fields
  let stunTurnConfig ← lastMessage readStunTurnConfig (valuesOf 5 fields)
  let callerHubRttUsec ← int64Of 6 fields
  let callerIceStartDelayUsec ← int64Of 7 fields
  some ⟨answererNodeNumber,callerX25519PublicKey,callerSdp,transport,stunTurnConfig,
    callerHubRttUsec,callerIceStartDelayUsec⟩

/-- An answer payload from its fields. -/
def readResponsePayload (fields : List Field) : Option ResponsePayload := do
  let connectionId ← int64Of 1 fields
  let answererX25519PublicKey ← lastBytes (valuesOf 2 fields)
  let answererSdp ← textOf 3 fields
  some ⟨connectionId,answererX25519PublicKey,answererSdp⟩

/-- The servers are read back. -/
theorem readStunTurnConfig_fields (config : StunTurnConfig) :
    readStunTurnConfig (stunTurnConfigFields config)=some config := by
  simp [readStunTurnConfig,stunTurnConfigFields,textOf,int64Of,lastBytes_values,
    lastVarint_values,decodeText_textBytes,decodeInt64_varint]

/-- A request payload is read back. -/
theorem readRequestPayload_fields (payload : RequestPayload) :
    readRequestPayload (requestPayloadFields payload)=some payload := by
  simp [readRequestPayload,requestPayloadFields,textOf,int64Of,int32Of,lastBytes_values,
    lastVarint_values,lastMessage_values readStunTurnConfig_fields,decodeText_textBytes,
    decodeInt64_varint,decodeInt32_varint]

/-- An answer payload is read back. -/
theorem readResponsePayload_fields (payload : ResponsePayload) :
    readResponsePayload (responsePayloadFields payload)=some payload := by
  simp [readResponsePayload,responsePayloadFields,textOf,int64Of,lastBytes_values,
    lastVarint_values,decodeText_textBytes,decodeInt64_varint]

/-- `start_connection_request::Payload::encode_to_vec`. -/
def encodeRequestPayload (payload : RequestPayload) : Bytes :=
  encodeMessage (requestPayloadFields payload)

/-- `start_connection_request::Payload::decode`. -/
def decodeRequestPayload (bytes : Bytes) : Option RequestPayload :=
  (decodeMessage bytes).bind readRequestPayload

/-- `start_connection_response::Payload::encode_to_vec`. -/
def encodeResponsePayload (payload : ResponsePayload) : Bytes :=
  encodeMessage (responsePayloadFields payload)

/-- `start_connection_response::Payload::decode`. -/
def decodeResponsePayload (bytes : Bytes) : Option ResponsePayload :=
  (decodeMessage bytes).bind readResponsePayload

/-- An encoded request payload is decoded again. -/
theorem decodeRequestPayload_encode (payload : RequestPayload) :
    decodeRequestPayload (encodeRequestPayload payload)=some payload := by
  rw [decodeRequestPayload,encodeRequestPayload,decodeMessage_encode,Option.bind_some,
    readRequestPayload_fields]

/-- An encoded answer payload is decoded again. -/
theorem decodeResponsePayload_encode (payload : ResponsePayload) :
    decodeResponsePayload (encodeResponsePayload payload)=some payload := by
  rw [decodeResponsePayload,encodeResponsePayload,decodeMessage_encode,Option.bind_some,
    readResponsePayload_fields]

/-- A signature of 64 bytes: the key, then the message if it fits, else a checksum of it. -/
def sealSignature (key : UInt8) (message : Bytes) : Bytes :=
  if message.length≤62 then
    key::UInt8.ofNat message.length::(message++List.replicate (62-message.length) 0)
  else key::255::(List.range 62).map fun i => checksum (UInt8.ofNat (2*i+3)) message

/-- A digest of 32 bytes. -/
def digest (message : Bytes) : Bytes :=
  (List.range 32).map fun i => checksum (UInt8.ofNat (2*i+3)) message

/-- The primitives with signatures and digests of the real lengths, and a key
exchange that adds up the two public keys. -/
def sealedCrypto : PeerCrypto where
  VerifyingKey := UInt8
  decEqKey := inferInstance
  SigningKey := UInt8
  Signature := Bytes
  fromPublicKeyDer := decodeSymbolicSpki
  signatureFromSlice := fun bytes => if bytes.length=64 then some bytes else none
  verify := fun key message signature => signature==sealSignature key message
  signingKeyFromBytes := fun bytes => bytes.headD 0
  verifyingKey := id
  publicKeySpki := symbolicSpki
  sign := sealSignature
  sha256 := digest
  hmacSha256 := symbolicCrypto.hmacSha256
  hkdfSha256 := fun _ rootKey _ => rootKey
  encodeRoster := encodeRoster
  encodePairNodesPayload := encodePairNodesPayload
  signatureFromBytes := id
  x25519PublicKey := fun seed => seed.map fun byte => byte*3+1
  diffieHellman := fun seed peerPublic =>
    List.zipWith (fun a b => a+b) (seed.map fun byte => byte*3+1) peerPublic
  encodeRequestPayload := encodeRequestPayload
  decodeRequestPayload := decodeRequestPayload
  encodeResponsePayload := encodeResponsePayload
  decodeResponsePayload := decodeResponsePayload

/-- Payloads are read back. -/
theorem sealedCrypto_decodes : sealedCrypto.Decodes := by
  have hrequest : sealedCrypto.decodeRequestPayload=decodeRequestPayload ∧
      sealedCrypto.encodeRequestPayload=encodeRequestPayload := ⟨rfl,rfl⟩
  have hresponse : sealedCrypto.decodeResponsePayload=decodeResponsePayload ∧
      sealedCrypto.encodeResponsePayload=encodeResponsePayload := ⟨rfl,rfl⟩
  constructor
  case request =>
    rw [hrequest.1,hrequest.2]
    exact decodeRequestPayload_encode
  case response =>
    rw [hresponse.1,hresponse.2]
    exact decodeResponsePayload_encode

/-- A node's own SPKI decodes to its own key. -/
theorem sealedCrypto_spkiRoundTrip : sealedCrypto.SpkiRoundTrip := fun _ => rfl

/-- Every signature has 64 bytes. -/
theorem sealSignature_length (key : UInt8) (message : Bytes) :
    (sealSignature key message).length=64 := by
  unfold sealSignature
  split
  · simp only [List.length_cons,List.length_append,List.length_replicate]
    omega
  · simp only [List.length_cons,List.length_map,List.length_range]

/-- The key can be read off a signature. -/
theorem sealSignature_key {key key' : UInt8} {m m' : Bytes}
    (h : sealSignature key m=sealSignature key' m') : key=key' := by
  have hhead : ∀ (k : UInt8) (message : Bytes),(sealSignature k message).head?=some k := by
    intro k message
    unfold sealSignature
    split
    · rfl
    · rfl
  exact Option.some.inj ((hhead key m).symm.trans ((congrArg List.head? h).trans (hhead key' m')))

/-- A signature verifies under its key on its message. -/
theorem sealedCrypto_signsCorrectly : sealedCrypto.SignsCorrectly := by
  intro key message
  exact ⟨sealSignature_length key message,beq_self_eq_true _⟩

/-- A digest has 32 bytes. -/
theorem digest_length (message : Bytes) : (digest message).length=32 := by
  rw [digest,List.length_map,List.length_range]

/-- Short messages can be read off their signatures. -/
theorem sealSignature_inj_short {key : UInt8} {m m' : Bytes} (hm : m.length≤62)
    (h : sealSignature key m'=sealSignature key m) : m'=m := by
  have hbyte : ∀ n : ℕ,n≤62 → (UInt8.ofNat n).toNat=n := fun n hn => byte_toNat (by omega)
  have hsame : m'.length≤62 ∧ m'.length=m.length := by
    unfold sealSignature at h
    rw [if_pos hm] at h
    by_cases hm' : m'.length≤62
    · rw [if_pos hm'] at h
      simp only [List.cons.injEq,true_and] at h
      have hlength := congrArg UInt8.toNat h.1
      rw [hbyte _ hm',hbyte _ hm] at hlength
      exact ⟨hm',hlength⟩
    · rw [if_neg hm'] at h
      simp only [List.cons.injEq,true_and] at h
      have hlength := congrArg UInt8.toNat h.1
      rw [hbyte _ hm] at hlength
      have h255 : (255 : UInt8).toNat=255 := rfl
      omega
  unfold sealSignature at h
  rw [if_pos hm,if_pos hsame.1] at h
  simp only [List.cons.injEq,true_and] at h
  exact (List.append_inj h.2 hsame.2).1

/-- A key's sealed signature over a roster whose latest signatures are cleared. -/
def sealedSign (key : UInt8) (roster : Roster) : Bytes :=
  sealSignature key (signingHash sealedCrypto.toCrypto (clearLatestAddendumSignatures roster))

/-- A state with the sealed signatures of both keys in its activation. -/
def sealedActivated (state : Addendum→Roster) (payload : ActivationPayload)
    (newKey endorserKey : UInt8) : Roster :=
  let unsigned := state (unsignedActivation payload)
  state (signedActivation payload (sealedSign newKey unsigned) (sealedSign endorserKey unsigned))

/-- Node 2 founds a group with node 1 as its endorser. -/
def sealedPair : Roster :=
  sealedActivated (bootstrapState ⟨1,2,1,[21],[11]⟩ (symbolicSpki 2) (symbolicSpki 1))
    ⟨1,2,1,[21],[11]⟩ 2 1

/-- Node 3 joins the pair, endorsed by node 2. -/
def sealedTrio : Roster :=
  sealedActivated (activationState sealedPair ⟨2,3,2,[32],[22]⟩ (symbolicSpki 3))
    ⟨2,3,2,[32],[22]⟩ 3 2

end WispersConnect.PeerEncoding
