import WispersConnect.RosterBuilders
import Mathlib.Data.Finmap

/-!
# Verification of a roster by reconstruction

The first half of `roster.rs`. The addenda are replayed from an empty working
roster, each addendum is checked against the keys accumulated so far and its
signatures against the reconstructed state, and the result must equal the
input. The verifier must be active in it under the key it expects.
-/

namespace WispersConnect.RosterVerification

open Messages OutcomeMonad Cryptography FirstMatch MachineIntegers RosterBuilders

/-- `RosterVerificationError`. -/
inductive RosterVerificationError where
  /-- The version is below 1. -/
  | invalidVersion (version : Int64)
  /-- The number of addenda differs from the version. -/
  | addendaCountMismatch (version : Int64) (expected actual : ℕ)
  /-- A node is activated a second time. -/
  | duplicateNode (nodeNumber : Int32)
  /-- A node's SPKI bytes do not decode. -/
  | invalidPublicKey (nodeNumber : Int32) (reason : String)
  /-- The verifier has no entry. -/
  | verifierNotInRoster (nodeNumber : Int32)
  /-- The verifier's entry is not active. -/
  | verifierRevoked (nodeNumber : Int32)
  /-- The verifier is active under another key. -/
  | verifierKeyMismatch (nodeNumber : Int32)
  /-- The addendum at this index has no kind. -/
  | emptyAddendum (index : ℕ)
  /-- An activation without payload. -/
  | missingActivationPayload (version : Int64)
  /-- A revocation without payload. -/
  | missingRevocationPayload (version : Int64)
  /-- The new node's signature does not verify. -/
  | invalidNewNodeSignature (version : Int64)
  /-- The endorser's signature does not verify. -/
  | invalidEndorserSignature (version : Int64)
  /-- The revoker's signature does not verify. -/
  | invalidRevokerSignature (version : Int64)
  /-- The activated node has no entry in the input. -/
  | newNodeNotInRoster (version : Int64) (newNode : Int32)
  /-- A node endorses itself. -/
  | newNodeIsEndorser (newNode : Int32)
  /-- The endorser is not active at this point. -/
  | endorserNotInPreviousRoster (version : Int64) (endorser : Int32)
  /-- The revoker is not active at this point. -/
  | revokerNotInPreviousRoster (version : Int64) (revoker : Int32)
  /-- The revoked node is not active at this point. -/
  | revokedNodeNotInRoster (version : Int64) (revoked : Int32)
  /-- The payload names another version. -/
  | versionMismatch (expected actual : Int64)
  /-- The replay does not reproduce the input. -/
  | reconstructionMismatch
  deriving DecidableEq

/-- The keys of the active nodes, by node number. -/
abbrev Keys (C : Crypto) := Finmap fun _ : Int32 => C.VerifyingKey

/-- `verify_roster_structure`. -/
def verifyRosterStructure (roster : Roster) : Outcome RosterVerificationError Unit := do
  Outcome.reject (roster.version<1) (.invalidVersion roster.version)
  let expectedAddenda := asUsize roster.version
  Outcome.reject (roster.addenda.length≠expectedAddenda)
    (.addendaCountMismatch roster.version expectedAddenda roster.addenda.length)

/-- Decode a listed key, naming the node in the error. -/
def decodeNodeKey (C : Crypto) (nodeNumber : Int32) (spki : Bytes) :
    Outcome RosterVerificationError C.VerifyingKey :=
  (Outcome.ofExcept (C.fromPublicKeyDer spki)).mapErr (.invalidPublicKey nodeNumber)

/-- `apply_and_verify_activation`, returning the new working roster and keys. -/
def applyAndVerifyActivation (C : Crypto) (inputRoster : Roster) (activation : Activation)
    (expectedVersion : Int64) (workingRoster : Roster) (keys : Keys C) :
    Outcome RosterVerificationError (Roster×Keys C) := do
  let payload ← Outcome.okOr activation.payload (.missingActivationPayload expectedVersion)
  Outcome.reject (payload.version≠expectedVersion) (.versionMismatch expectedVersion payload.version)
  Outcome.reject (payload.newNodeNumber=payload.endorserNodeNumber)
    (.newNodeIsEndorser payload.newNodeNumber)
  Outcome.reject (workingRoster.nodes.any (fun n => n.nodeNumber==payload.newNodeNumber)=true)
    (.duplicateNode payload.newNodeNumber)
  let newNodeInInput ← Outcome.okOr (findNode inputRoster.nodes payload.newNodeNumber)
    (.newNodeNotInRoster expectedVersion payload.newNodeNumber)
  let newNodeKey ← decodeNodeKey C payload.newNodeNumber newNodeInInput.publicKeySpki
  let endorserKey ← if expectedVersion=1 then do
      let endorserInInput ← Outcome.okOr (findNode inputRoster.nodes payload.endorserNodeNumber)
        (.endorserNotInPreviousRoster expectedVersion payload.endorserNodeNumber)
      decodeNodeKey C payload.endorserNodeNumber endorserInInput.publicKeySpki
    else
      Outcome.okOr (keys.lookup payload.endorserNodeNumber)
        (.endorserNotInPreviousRoster expectedVersion payload.endorserNodeNumber)
  let (nodes,keys) ← if expectedVersion=1 then do
      let endorserInInput ← Outcome.expect
        (findNode inputRoster.nodes payload.endorserNodeNumber) "checked above"
      pure (workingRoster.nodes++
          [⟨payload.endorserNodeNumber,endorserInInput.publicKeySpki,false⟩],
        keys.insert payload.endorserNodeNumber endorserKey)
    else pure (workingRoster.nodes,keys)
  let nodes := nodes++[⟨payload.newNodeNumber,newNodeInInput.publicKeySpki,false⟩]
  let keys := keys.insert payload.newNodeNumber newNodeKey
  let workingRoster : Roster :=
    ⟨expectedVersion,nodes,workingRoster.addenda++[unsignedActivation payload]⟩
  let signingHash ← computeSigningHash C workingRoster
  (verifySignature C newNodeKey signingHash activation.newNodeSignature).mapErr
    fun () => .invalidNewNodeSignature expectedVersion
  (verifySignature C endorserKey signingHash activation.endorserSignature).mapErr
    fun () => .invalidEndorserSignature expectedVersion
  let workingRoster ← setNewNodeSignature workingRoster activation.newNodeSignature
  let workingRoster ← setEndorserSignature workingRoster activation.endorserSignature
  pure (workingRoster,keys)

/-- `apply_and_verify_revocation`, returning the new working roster and keys. -/
def applyAndVerifyRevocation (C : Crypto) (revocation : Revocation) (expectedVersion : Int64)
    (workingRoster : Roster) (keys : Keys C) :
    Outcome RosterVerificationError (Roster×Keys C) := do
  let payload ← Outcome.okOr revocation.payload (.missingRevocationPayload expectedVersion)
  Outcome.reject (payload.version≠expectedVersion) (.versionMismatch expectedVersion payload.version)
  let revokerKey ← Outcome.okOr (keys.lookup payload.revokerNodeNumber)
    (.revokerNotInPreviousRoster expectedVersion payload.revokerNodeNumber)
  Outcome.reject (payload.revokedNodeNumber∉keys)
    (.revokedNodeNotInRoster expectedVersion payload.revokedNodeNumber)
  let workingRoster : Roster :=
    ⟨expectedVersion,markRevoked workingRoster.nodes payload.revokedNodeNumber,
      workingRoster.addenda++[unsignedRevocation payload]⟩
  let signingHash ← computeSigningHash C workingRoster
  (verifySignature C revokerKey signingHash revocation.revokerSignature).mapErr
    fun () => .invalidRevokerSignature expectedVersion
  let workingRoster ← setRevokerSignature workingRoster revocation.revokerSignature
  pure (workingRoster,keys.erase payload.revokedNodeNumber)

/-- One turn of the forward walk: the addendum at the given index. -/
def applyAndVerifyAddendum (C : Crypto) (inputRoster : Roster) (index : ℕ) (addendum : Addendum)
    (workingRoster : Roster) (keys : Keys C) :
    Outcome RosterVerificationError (Roster×Keys C) := do
  let expectedVersion := asI64 (index+1)
  let kind ← Outcome.okOr addendum.kind (.emptyAddendum index)
  match kind with
  | .activation activation =>
    applyAndVerifyActivation C inputRoster activation expectedVersion workingRoster keys
  | .revocation revocation =>
    applyAndVerifyRevocation C revocation expectedVersion workingRoster keys

/-- The forward walk over the remaining addenda, the first of which has the given index. -/
def walkAddenda (C : Crypto) (inputRoster : Roster) :
    ℕ→List Addendum→Roster→Keys C→Outcome RosterVerificationError (Roster×Keys C)
  | _,[],workingRoster,keys => .ok (workingRoster,keys)
  | index,addendum::addenda,workingRoster,keys => do
    let (workingRoster,keys) ←
      applyAndVerifyAddendum C inputRoster index addendum workingRoster keys
    walkAddenda C inputRoster (index+1) addenda workingRoster keys

/-- The checks of the verifier's own entry once the replay equals the input. -/
def checkVerifierAnchor (C : Crypto) (workingRoster : Roster) (keys : Keys C)
    (verifierNodeNumber : Int32) (expectedVerifierKey : C.VerifyingKey) :
    Outcome RosterVerificationError (Keys C) :=
  match keys.lookup verifierNodeNumber with
  | none =>
    if workingRoster.nodes.any (fun n => n.nodeNumber==verifierNodeNumber)=true then
      .err (.verifierRevoked verifierNodeNumber)
    else .err (.verifierNotInRoster verifierNodeNumber)
  | some verifierKeyInState =>
    if verifierKeyInState≠expectedVerifierKey then .err (.verifierKeyMismatch verifierNodeNumber)
    else .ok keys

/-- `verify_roster`: the keys of the active nodes of an accepted roster. -/
def verifyRoster (C : Crypto) (roster : Roster) (verifierNodeNumber : Int32)
    (verifierPublicKeySpki : Bytes) : Outcome RosterVerificationError (Keys C) := do
  let expectedVerifierKey ← Outcome.expect (C.fromPublicKeyDer verifierPublicKeySpki).toOption
    "verifier_public_key_spki must be valid SPKI-encoded Ed25519"
  verifyRosterStructure roster
  let (workingRoster,keys) ← walkAddenda C roster 0 roster.addenda Roster.default ∅
  Outcome.reject (workingRoster≠roster) .reconstructionMismatch
  checkVerifierAnchor C workingRoster keys verifierNodeNumber expectedVerifierKey

end WispersConnect.RosterVerification
