import WispersConnect.Messages
import WispersConnect.WireFormat

/-!
# The wire encoding of rosters and pairing payloads

Message by message the field numbers of `roster.proto` and `hub.proto`, encoded
as the generated code encodes them: defaults left out, negative numbers sign
extended to 64 bits, present messages written even when empty. Each encoding
determines its message.
-/

namespace WispersConnect.RosterEncoding

open Messages WireFormat

/-- The varint of an `int64`. -/
def int64Varint (value : Int64) : ℕ := value.toUInt64.toNat

/-- The varint of an `int32`, sign extended. -/
def int32Varint (value : Int32) : ℕ := int64Varint value.toInt64

theorem int64Varint_injective : Function.Injective int64Varint := by
  rintro ⟨a⟩ ⟨b⟩ h
  have hu : a=b := UInt64.toNat_inj.mp h
  rw [hu]

theorem int32Varint_injective : Function.Injective int32Varint := by
  intro a b h
  have hw := congrArg Int64.toInt (int64Varint_injective h)
  rw [Int32.toInt_toInt64,Int32.toInt_toInt64] at hw
  exact Int32.toInt_inj.mp hw

/-- `roster::Node`. -/
def nodeFields (node : RosterNode) : List Field :=
  fieldsOf 1 (varintValues (int32Varint node.nodeNumber))++
    fieldsOf 2 (bytesValues node.publicKeySpki)++fieldsOf 3 (varintValues node.revoked.toNat)

/-- `roster::activation::Payload`. -/
def activationPayloadFields (payload : ActivationPayload) : List Field :=
  fieldsOf 1 (varintValues (int64Varint payload.version))++
    fieldsOf 2 (varintValues (int32Varint payload.newNodeNumber))++
    fieldsOf 3 (varintValues (int32Varint payload.endorserNodeNumber))++
    fieldsOf 4 (bytesValues payload.newNodeNonce)++fieldsOf 5 (bytesValues payload.endorserNonce)

/-- `roster::Activation`. -/
def activationFields (activation : Activation) : List Field :=
  fieldsOf 1 (messageValues (activation.payload.toList.map activationPayloadFields))++
    fieldsOf 2 (bytesValues activation.newNodeSignature)++
    fieldsOf 3 (bytesValues activation.endorserSignature)

/-- `roster::revocation::Payload`. -/
def revocationPayloadFields (payload : RevocationPayload) : List Field :=
  fieldsOf 1 (varintValues (int64Varint payload.version))++
    fieldsOf 2 (varintValues (int32Varint payload.revokedNodeNumber))++
    fieldsOf 3 (varintValues (int32Varint payload.revokerNodeNumber))

/-- `roster::Revocation`. -/
def revocationFields (revocation : Revocation) : List Field :=
  fieldsOf 1 (messageValues (revocation.payload.toList.map revocationPayloadFields))++
    fieldsOf 2 (bytesValues revocation.revokerSignature)

/-- `roster::Addendum`: the tag tells the kind. -/
def addendumFields (addendum : Addendum) : List Field :=
  match addendum.kind with
  | some (.activation activation) => fieldsOf 1 (messageValues [activationFields activation])
  | some (.revocation revocation) => fieldsOf 2 (messageValues [revocationFields revocation])
  | none => []

/-- `roster::Roster`. -/
def rosterFields (roster : Roster) : List Field :=
  fieldsOf 1 (varintValues (int64Varint roster.version))++
    fieldsOf 2 (messageValues (roster.nodes.map nodeFields))++
    fieldsOf 3 (messageValues (roster.addenda.map addendumFields))

/-- `pair_nodes_message::Payload`. -/
def pairNodesPayloadFields (payload : PairNodesPayload) : List Field :=
  fieldsOf 1 (varintValues (int32Varint payload.senderNodeNumber))++
    fieldsOf 2 (varintValues (int32Varint payload.receiverNodeNumber))++
    fieldsOf 3 (bytesValues payload.publicKeySpki)++fieldsOf 4 (bytesValues payload.nonce)++
    fieldsOf 5 (bytesValues payload.replyNonce)

/-- `Roster::encode_to_vec`. -/
def encodeRoster (roster : Roster) : Bytes := encodeMessage (rosterFields roster)

/-- `pair_nodes_message::Payload::encode_to_vec`. -/
def encodePairNodesPayload (payload : PairNodesPayload) : Bytes :=
  encodeMessage (pairNodesPayloadFields payload)

/-- An optional nested message is determined when its own fields determine it. -/
theorem optionFields_injective {α : Type} {fields : α→List Field}
    (h : Function.Injective fields) :
    Function.Injective fun message : Option α => messageValues (message.toList.map fields) := by
  intro a b he
  have hl := List.map_injective_iff.mpr h (messageValues_injective he)
  cases a <;> cases b <;> simp_all

/-- A node entry is determined by its fields. -/
theorem nodeFields_injective : Function.Injective nodeFields := by
  rintro ⟨number,spki,revoked⟩ ⟨number',spki',revoked'⟩ h
  have h1 : varintValues (int32Varint number)=varintValues (int32Varint number') := by
    simpa [nodeFields] using congrArg (valuesOf 1) h
  have h2 : bytesValues spki=bytesValues spki' := by
    simpa [nodeFields] using congrArg (valuesOf 2) h
  have h3 : varintValues revoked.toNat=varintValues revoked'.toNat := by
    simpa [nodeFields] using congrArg (valuesOf 3) h
  have hr : revoked=revoked' := by
    have hb := varintValues_injective h3
    cases revoked <;> cases revoked' <;> simp_all
  rw [int32Varint_injective (varintValues_injective h1),bytesValues_injective h2,hr]

/-- An activation payload is determined by its fields. -/
theorem activationPayloadFields_injective : Function.Injective activationPayloadFields := by
  rintro ⟨version,new,endorser,nonce,nonce₂⟩ ⟨version',new',endorser',nonce',nonce₂'⟩ h
  have h1 : varintValues (int64Varint version)=varintValues (int64Varint version') := by
    simpa [activationPayloadFields] using congrArg (valuesOf 1) h
  have h2 : varintValues (int32Varint new)=varintValues (int32Varint new') := by
    simpa [activationPayloadFields] using congrArg (valuesOf 2) h
  have h3 : varintValues (int32Varint endorser)=varintValues (int32Varint endorser') := by
    simpa [activationPayloadFields] using congrArg (valuesOf 3) h
  have h4 : bytesValues nonce=bytesValues nonce' := by
    simpa [activationPayloadFields] using congrArg (valuesOf 4) h
  have h5 : bytesValues nonce₂=bytesValues nonce₂' := by
    simpa [activationPayloadFields] using congrArg (valuesOf 5) h
  rw [int64Varint_injective (varintValues_injective h1),
    int32Varint_injective (varintValues_injective h2),
    int32Varint_injective (varintValues_injective h3),bytesValues_injective h4,
    bytesValues_injective h5]

/-- An activation is determined by its fields. -/
theorem activationFields_injective : Function.Injective activationFields := by
  rintro ⟨payload,new,endorser⟩ ⟨payload',new',endorser'⟩ h
  have h1 : messageValues (payload.toList.map activationPayloadFields)=
      messageValues (payload'.toList.map activationPayloadFields) := by
    simpa [activationFields] using congrArg (valuesOf 1) h
  have h2 : bytesValues new=bytesValues new' := by
    simpa [activationFields] using congrArg (valuesOf 2) h
  have h3 : bytesValues endorser=bytesValues endorser' := by
    simpa [activationFields] using congrArg (valuesOf 3) h
  rw [optionFields_injective activationPayloadFields_injective h1,bytesValues_injective h2,
    bytesValues_injective h3]

/-- A revocation payload is determined by its fields. -/
theorem revocationPayloadFields_injective : Function.Injective revocationPayloadFields := by
  rintro ⟨version,revoked,revoker⟩ ⟨version',revoked',revoker'⟩ h
  have h1 : varintValues (int64Varint version)=varintValues (int64Varint version') := by
    simpa [revocationPayloadFields] using congrArg (valuesOf 1) h
  have h2 : varintValues (int32Varint revoked)=varintValues (int32Varint revoked') := by
    simpa [revocationPayloadFields] using congrArg (valuesOf 2) h
  have h3 : varintValues (int32Varint revoker)=varintValues (int32Varint revoker') := by
    simpa [revocationPayloadFields] using congrArg (valuesOf 3) h
  rw [int64Varint_injective (varintValues_injective h1),
    int32Varint_injective (varintValues_injective h2),
    int32Varint_injective (varintValues_injective h3)]

/-- A revocation is determined by its fields. -/
theorem revocationFields_injective : Function.Injective revocationFields := by
  rintro ⟨payload,revoker⟩ ⟨payload',revoker'⟩ h
  have h1 : messageValues (payload.toList.map revocationPayloadFields)=
      messageValues (payload'.toList.map revocationPayloadFields) := by
    simpa [revocationFields] using congrArg (valuesOf 1) h
  have h2 : bytesValues revoker=bytesValues revoker' := by
    simpa [revocationFields] using congrArg (valuesOf 2) h
  rw [optionFields_injective revocationPayloadFields_injective h1,bytesValues_injective h2]

/-- An addendum is determined by its fields: kinds have different tags. -/
theorem addendumFields_injective : Function.Injective addendumFields := by
  intro a b h
  have h1 := congrArg (valuesOf 1) h
  have h2 := congrArg (valuesOf 2) h
  rcases a with ⟨_|⟨act|rev⟩⟩ <;> rcases b with ⟨_|⟨act'|rev'⟩⟩ <;>
    simp [addendumFields,messageValues,valuesOf_nil] at h1 h2
  case none.none => rfl
  case some.activation.some.activation =>
    rw [activationFields_injective (encodeMessage_injective h1)]
  case some.revocation.some.revocation =>
    rw [revocationFields_injective (encodeMessage_injective h2)]

/-- A roster is determined by its fields. -/
theorem rosterFields_injective : Function.Injective rosterFields := by
  rintro ⟨version,nodes,addenda⟩ ⟨version',nodes',addenda'⟩ h
  have h1 : varintValues (int64Varint version)=varintValues (int64Varint version') := by
    simpa [rosterFields] using congrArg (valuesOf 1) h
  have h2 : messageValues (nodes.map nodeFields)=messageValues (nodes'.map nodeFields) := by
    simpa [rosterFields] using congrArg (valuesOf 2) h
  have h3 : messageValues (addenda.map addendumFields)=
      messageValues (addenda'.map addendumFields) := by
    simpa [rosterFields] using congrArg (valuesOf 3) h
  have hn := List.map_injective_iff.mpr nodeFields_injective (messageValues_injective h2)
  have ha := List.map_injective_iff.mpr addendumFields_injective (messageValues_injective h3)
  rw [int64Varint_injective (varintValues_injective h1),hn,ha]

/-- A pairing payload is determined by its fields. -/
theorem pairNodesPayloadFields_injective : Function.Injective pairNodesPayloadFields := by
  rintro ⟨sender,receiver,spki,nonce,reply⟩ ⟨sender',receiver',spki',nonce',reply'⟩ h
  have h1 : varintValues (int32Varint sender)=varintValues (int32Varint sender') := by
    simpa [pairNodesPayloadFields] using congrArg (valuesOf 1) h
  have h2 : varintValues (int32Varint receiver)=varintValues (int32Varint receiver') := by
    simpa [pairNodesPayloadFields] using congrArg (valuesOf 2) h
  have h3 : bytesValues spki=bytesValues spki' := by
    simpa [pairNodesPayloadFields] using congrArg (valuesOf 3) h
  have h4 : bytesValues nonce=bytesValues nonce' := by
    simpa [pairNodesPayloadFields] using congrArg (valuesOf 4) h
  have h5 : bytesValues reply=bytesValues reply' := by
    simpa [pairNodesPayloadFields] using congrArg (valuesOf 5) h
  rw [int32Varint_injective (varintValues_injective h1),
    int32Varint_injective (varintValues_injective h2),bytesValues_injective h3,
    bytesValues_injective h4,bytesValues_injective h5]

/-- Different rosters have different encodings. -/
theorem encodeRoster_injective : Function.Injective encodeRoster :=
  encodeMessage_injective.comp rosterFields_injective

/-- Different pairing payloads have different encodings. -/
theorem encodePairNodesPayload_injective : Function.Injective encodePairNodesPayload :=
  encodeMessage_injective.comp pairNodesPayloadFields_injective

end WispersConnect.RosterEncoding
