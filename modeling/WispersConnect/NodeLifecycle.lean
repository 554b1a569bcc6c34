import WispersConnect.PairingCodes
import WispersConnect.RosterVerification

/-!
# The life of a node

`node.rs`: the states of a node, registration, activation with a pairing code,
the operations that fetch a roster and move the node by what it says, revocation
and logout. Each call to the hub is one function of the record `Hub`, so the hub
may answer anything. Except for `register`, an operation that returns an error or
panics leaves the node as it was.
-/

namespace WispersConnect.NodeLifecycle

open Messages OutcomeMonad Cryptography FirstMatch PairingCodes RosterBuilders RosterVerification

/-- The gRPC status codes that the client tells apart. -/
inductive RpcCode where
  /-- The credentials were rejected. -/
  | unauthenticated
  /-- The node is unknown. -/
  | notFound
  /-- The peer or the hub refused. -/
  | failedPrecondition
  /-- The peer cannot be reached. -/
  | unavailable
  /-- Also reported by the client itself for an incomplete response. -/
  | internal
  /-- Any other code. -/
  | other (code : ℕ)
  deriving DecidableEq

/-- `HubError`. -/
inductive HubError where
  /-- The hub address is no URI. -/
  | invalidUri
  /-- No connection. -/
  | connection
  /-- The call failed with a status. -/
  | rpc (code : RpcCode) (message : String)
  /-- The hub rejects this client's version. -/
  | incompatibleVersion (message : String)
  /-- The credentials cannot be sent as metadata. -/
  | metadata
  /-- A fetched roster did not verify. -/
  | rosterVerification (error : RosterVerificationError)
  deriving DecidableEq

/-- `StorageError`. -/
inductive StorageError where
  /-- In-memory lock poisoned. -/
  | poisoned
  /-- File error. -/
  | io (message : String)
  /-- The root key has the wrong length. -/
  | invalidRootKey
  /-- The registration does not decode. -/
  | registrationCodec (message : String)
  /-- A foreign callback is absent. -/
  | missingCallback (name : String)
  /-- A foreign callback failed. -/
  | foreignStatus (status : ℕ)
  deriving DecidableEq

/-- `NodeState`. -/
inductive NodeState where
  /-- Needs to register. -/
  | pending
  /-- Registered, not activated. -/
  | registered
  /-- Activated. -/
  | activated
  /-- Was activated, then revoked. -/
  | revoked
  deriving DecidableEq

/-- `NodeStateError`. -/
inductive NodeStateError where
  /-- The store failed. -/
  | store (error : StorageError)
  /-- The hub failed. -/
  | hub (error : HubError)
  /-- Registering twice. -/
  | alreadyRegistered
  /-- No registration. -/
  | notRegistered
  /-- The activation code does not parse. -/
  | invalidActivationCode (error : PairingCodeError)
  /-- The reply is not from the code's issuer, or not to this request. -/
  | macVerificationFailed
  /-- The reply has no payload, or is for another node. -/
  | missingEndorserResponse
  /-- A roster did not verify. -/
  | rosterVerificationFailed (error : RosterVerificationError)
  /-- The last active node may not log out. -/
  | lastActiveNode
  /-- A node may not revoke itself this way. -/
  | cannotRevokeSelf
  /-- The node to revoke is not active. -/
  | nodeNotActive (nodeNumber : Int32)
  /-- This node is revoked. -/
  | revoked
  /-- The operation needs another state. -/
  | invalidState (current : NodeState) (required : String)
  deriving DecidableEq

/-- `P2pError`, as far as the roster lookup returns it. -/
inductive P2pError where
  /-- The hub failed. -/
  | hub (error : HubError)
  /-- The peer is not in the verified roster. -/
  | signatureVerificationFailed
  /-- This node is not activated. -/
  | notActivated
  /-- This node is revoked. -/
  | revoked
  deriving DecidableEq

/-- `NodeRegistration`; every constructor of the source fills in the token. -/
structure NodeRegistration where
  /-- The group. -/
  connectivityGroupId : String
  /-- This node's number in the group. -/
  nodeNumber : Int32
  /-- Credential for the hub. -/
  authToken : String
  /-- Attestation of the registration. -/
  attestationJwt : String
  deriving DecidableEq

/-- `PersistedNodeState`. -/
structure PersistedNodeState where
  /-- The 32 bytes all keys derive from. -/
  rootKey : Bytes
  /-- The registration, once there is one. -/
  registration : Option NodeRegistration
  deriving DecidableEq

/-- `InnerState`. -/
inductive InnerState where
  /-- Needs to register. -/
  | pending
  /-- Registered, not activated. -/
  | registered (registration : NodeRegistration)
  /-- Activated, with the cached roster. -/
  | activated (registration : NodeRegistration) (roster : Roster)
  /-- Was activated, then revoked. -/
  | revoked (registration : NodeRegistration)
  deriving DecidableEq

/-- `Node`. -/
structure Node (C : Crypto) where
  /-- The state and what it holds. -/
  inner : InnerState
  /-- What the store holds. -/
  persisted : PersistedNodeState
  /-- Derived from the root key at construction. -/
  signingKey : C.SigningKey

/-- What the hub answers to each call during one operation. -/
structure Hub where
  /-- `HubClient::connect`. -/
  connect : Except HubError Unit
  /-- `complete_registration`. -/
  completeRegistration : String→Except HubError NodeRegistration
  /-- `deregister_node`. -/
  deregisterNode : NodeRegistration→Except HubError Unit
  /-- `pair_nodes`, relayed to the endorser. -/
  pairNodes : NodeRegistration→PairNodesMessage→Except HubError PairNodesMessage
  /-- `get_unverified_roster`. -/
  getUnverifiedRoster : NodeRegistration→Except HubError Roster
  /-- The `cosigned_roster` field of the answer to `update_roster`. -/
  updateRoster : NodeRegistration→Roster→Except HubError (Option Roster)

/-- What the store answers during one operation. -/
structure Store where
  /-- `save`. -/
  save : PersistedNodeState→Except StorageError Unit
  /-- `delete`. -/
  delete : Except StorageError Unit

/-- `HubError::is_unauthenticated`. -/
def HubError.isUnauthenticated : HubError→Bool
  | .rpc .unauthenticated _ => true
  | _ => false

/-- `HubError::is_not_found`. -/
def HubError.isNotFound : HubError→Bool
  | .rpc .notFound _ => true
  | _ => false

/-- `NodeStateError::is_unauthenticated`. -/
def NodeStateError.isUnauthenticated : NodeStateError→Bool
  | .hub e => e.isUnauthenticated
  | _ => false

/-- `NodeStateError::is_not_found`. -/
def NodeStateError.isNotFound : NodeStateError→Bool
  | .hub e => e.isNotFound
  | _ => false

/-- A reply of the hub, with its error as the caller reports it. -/
def hubReply {α : Type} (reply : Except HubError α) : Outcome NodeStateError α :=
  (Outcome.ofExcept reply).mapErr .hub

/-- `HubClient::update_roster`. -/
def Hub.submitRoster (hub : Hub) (registration : NodeRegistration) (newRoster : Roster) :
    Except HubError Roster := do
  let cosignedRoster ← hub.updateRoster registration newRoster
  match cosignedRoster with
  | some roster => .ok roster
  | none => .error (.rpc .internal "missing cosigned_roster in response")

/-- `HubClient::get_and_verify_roster`. -/
def Hub.getAndVerifyRoster (C : Crypto) (hub : Hub) (registration : NodeRegistration)
    (verifierPublicKeySpki : Bytes) : Outcome HubError Roster := do
  let roster ← Outcome.ofExcept (hub.getUnverifiedRoster registration)
  let _keys ← (verifyRoster C roster registration.nodeNumber verifierPublicKeySpki).mapErr
    .rosterVerification
  pure roster

/-- `verify_roster` with its error as node operations report it. -/
def verifyRosterForNode (C : Crypto) (roster : Roster) (verifierNodeNumber : Int32)
    (verifierPublicKeySpki : Bytes) : Outcome NodeStateError (Keys C) :=
  (verifyRoster C roster verifierNodeNumber verifierPublicKeySpki).mapErr .rosterVerificationFailed

section Construction

variable (C : Crypto)

/-- `Node::new_pending`. -/
def Node.newPending (persisted : PersistedNodeState) : Node C :=
  ⟨.pending,persisted,deriveFromRootKey C persisted.rootKey⟩

/-- `Node::new_registered`. -/
def Node.newRegistered (persisted : PersistedNodeState) : Outcome NodeStateError (Node C) := do
  let registration ← Outcome.okOr persisted.registration .notRegistered
  pure ⟨.registered registration,persisted,deriveFromRootKey C persisted.rootKey⟩

/-- `Node::new_activated`. -/
def Node.newActivated (persisted : PersistedNodeState) (roster : Roster) :
    Outcome NodeStateError (Node C) := do
  let registration ← Outcome.expect persisted.registration
    "activated node must have registration"
  pure ⟨.activated registration roster,persisted,deriveFromRootKey C persisted.rootKey⟩

/-- `Node::new_revoked`. -/
def Node.newRevoked (persisted : PersistedNodeState) : Outcome NodeStateError (Node C) := do
  let registration ← Outcome.expect persisted.registration "revoked node must have registration"
  pure ⟨.revoked registration,persisted,deriveFromRootKey C persisted.rootKey⟩

/-- `restore_or_init_node`, given what the store loads, what it answers to a
save, and the root key that would be generated. -/
def restoreOrInitNode (loaded : Except StorageError (Option PersistedNodeState))
    (save : PersistedNodeState→Except StorageError Unit) (freshRootKey : Bytes) (hub : Hub) :
    Outcome NodeStateError (Node C) := do
  let stored ← (Outcome.ofExcept loaded).mapErr .store
  match stored with
  | none => do
    let state : PersistedNodeState := ⟨freshRootKey,none⟩
    (Outcome.ofExcept (save state)).mapErr .store
    pure (Node.newPending C state)
  | some state =>
    match state.registration with
    | none => pure (Node.newPending C state)
    | some registration => do
      hubReply hub.connect
      let roster ← hubReply (hub.getUnverifiedRoster registration)
      if roster.nodes.any (fun n => n.nodeNumber==registration.nodeNumber)=true then
        match verifyRoster C roster registration.nodeNumber
            (C.publicKeySpki (deriveFromRootKey C state.rootKey)) with
        | .ok _ => Node.newActivated C state roster
        | .err (.verifierRevoked _) => Node.newRevoked C state
        | .err e => .err (.rosterVerificationFailed e)
        | .panic m => .panic m
      else Node.newRegistered C state

end Construction

variable {C : Crypto}

/-- `state`. -/
def Node.state (node : Node C) : NodeState :=
  match node.inner with
  | .pending => .pending
  | .registered _ => .registered
  | .activated _ _ => .activated
  | .revoked _ => .revoked

/-- `require_registered`. -/
def Node.requireRegistered (node : Node C) : Outcome NodeStateError NodeRegistration :=
  match node.inner with
  | .registered registration => .ok registration
  | _ => .err (.invalidState node.state "Registered")

/-- `require_pending`. -/
def Node.requirePending (node : Node C) : Outcome NodeStateError Unit :=
  Outcome.reject (node.state≠.pending) (.invalidState node.state "Pending")

/-- `register`: the registration is put into the persisted data before it is saved. -/
def Node.register (node : Node C) (token : String) (hub : Hub) (store : Store) :
    Node C×Outcome NodeStateError Unit :=
  let reply : Outcome NodeStateError NodeRegistration := do
    node.requirePending
    hubReply hub.connect
    hubReply (hub.completeRegistration token)
  match reply with
  | .ok registration =>
    let persisted := {node.persisted with registration := some registration}
    match store.save persisted with
    | .ok () => (⟨.registered registration,persisted,node.signingKey⟩,.ok ())
    | .error e => ({node with persisted := persisted},.err (.store e))
  | .err e => (node,.err e)
  | .panic m => (node,.panic m)

/-- The pairing request of `activate`. -/
def pairingRequest (C : Crypto) (signingKey : C.SigningKey) (senderNodeNumber : Int32)
    (code : PairingCode) (nonce : Bytes) : PairNodesMessage :=
  let payload : PairNodesPayload :=
    ⟨senderNodeNumber,code.nodeNumber,C.publicKeySpki signingKey,nonce,[]⟩
  ⟨some payload,code.secret.computeMac C (C.encodePairNodesPayload payload)⟩

/-- The checks of `activate` on the pairing reply. -/
def checkPairingReply (C : Crypto) (receiverNodeNumber : Int32) (code : PairingCode)
    (nonce : Bytes) (response : PairNodesMessage) : Outcome NodeStateError PairNodesPayload := do
  let payload ← Outcome.okOr response.payload .missingEndorserResponse
  Outcome.reject (code.secret.verifyMac C (C.encodePairNodesPayload payload) response.mac=false)
    .macVerificationFailed
  Outcome.reject (payload.receiverNodeNumber≠receiverNodeNumber) .missingEndorserResponse
  Outcome.reject (payload.replyNonce≠nonce) .macVerificationFailed
  pure payload

/-- The base check of `activate`: a roster of positive version is verified with
the endorser's number and the key of its reply. -/
def checkBaseRoster (C : Crypto) (endorserNodeNumber : Int32) (response : PairNodesPayload)
    (currentRoster : Roster) : Outcome NodeStateError Unit :=
  if 0<currentRoster.version then do
    let _keys ← verifyRosterForNode C currentRoster endorserNodeNumber response.publicKeySpki
    pure ()
  else pure ()

/-- The base check of `activate` and the choice between founding and extending:
the roster that is about to be signed. -/
def draftRoster (C : Crypto) (signingKey : C.SigningKey) (nodeNumber endorserNodeNumber : Int32)
    (nonce : Bytes) (response : PairNodesPayload) (currentRoster : Roster) :
    Outcome NodeStateError Roster := do
  checkBaseRoster C endorserNodeNumber response currentRoster
  let activationPayload ← buildActivationPayload currentRoster nodeNumber endorserNodeNumber
    nonce response.nonce
  if currentRoster.version=0 then
    createBootstrapRoster activationPayload (C.publicKeySpki signingKey) response.publicKeySpki
  else addActivationToRoster currentRoster activationPayload (C.publicKeySpki signingKey)

/-- What `activate` has at hand when it comes to signing. -/
structure ActivationDraft where
  /-- The registration it acts under. -/
  registration : NodeRegistration
  /-- The parsed code. -/
  code : PairingCode
  /-- The nonce it chose. -/
  nonce : Bytes
  /-- The endorser's checked reply. -/
  response : PairNodesPayload
  /-- The roster the hub sent. -/
  currentRoster : Roster
  /-- The roster to sign. -/
  newRoster : Roster
  deriving DecidableEq

/-- `activate` up to the signing step. -/
def Node.activateDraft (node : Node C) (activationCode nonce : Bytes) (hub : Hub) :
    Outcome NodeStateError ActivationDraft := do
  let registration ← node.requireRegistered
  let code ← (Outcome.ofExcept (PairingCode.parse activationCode)).mapErr .invalidActivationCode
  hubReply hub.connect
  let message ← hubReply (hub.pairNodes registration
    (pairingRequest C node.signingKey registration.nodeNumber code nonce))
  let response ← checkPairingReply C registration.nodeNumber code nonce message
  let currentRoster ← hubReply (hub.getUnverifiedRoster registration)
  let newRoster ← draftRoster C node.signingKey registration.nodeNumber code.nodeNumber nonce
    response currentRoster
  pure ⟨registration,code,nonce,response,currentRoster,newRoster⟩

/-- `activate` from the signing step on. -/
def Node.completeActivation (node : Node C) (draft : ActivationDraft) (hub : Hub) :
    Outcome NodeStateError (Node C) := do
  let signingHash ← computeSigningHash C draft.newRoster
  let signedRoster ← setNewNodeSignature draft.newRoster (C.sign node.signingKey signingHash)
  let cosignedRoster ← hubReply (hub.submitRoster draft.registration signedRoster)
  let _keys ← verifyRosterForNode C cosignedRoster draft.registration.nodeNumber
    (C.publicKeySpki node.signingKey)
  pure {node with inner := .activated draft.registration cosignedRoster}

/-- `activate`. -/
def Node.activate (node : Node C) (activationCode nonce : Bytes) (hub : Hub) :
    Outcome NodeStateError (Node C) := do
  let draft ← node.activateDraft activationCode nonce hub
  node.completeActivation draft hub

/-- `find_peer_in_roster`: the peer's entry, and the node with its cache updated. -/
def Node.findPeerInRoster (node : Node C) (peerNodeNumber : Int32) (hub : Hub) :
    Outcome P2pError (Node C×RosterNode) :=
  match node.inner with
  | .activated registration roster =>
    match findPeer roster peerNodeNumber with
    | some peer => .ok (node,peer)
    | none =>
      match hub.getAndVerifyRoster C registration (C.publicKeySpki node.signingKey) with
      | .ok freshRoster => do
        let peer ← Outcome.okOr (findPeer freshRoster peerNodeNumber) .signatureVerificationFailed
        pure ({node with inner := .activated registration freshRoster},peer)
      | .err (.rosterVerification (.verifierRevoked _)) => .err .revoked
      | .err e => .err (.hub e)
      | .panic m => .panic m
  | _ => .err .notActivated

/-- The registration that `refresh_membership` acts under, in any state but pending. -/
def InnerState.registration : InnerState→Option NodeRegistration
  | .pending => none
  | .registered registration => some registration
  | .activated registration _ => some registration
  | .revoked registration => some registration

/-- `refresh_membership`: the new state, and the node in it. -/
def Node.refreshMembership (node : Node C) (hub : Hub) :
    Outcome NodeStateError (Node C×NodeState) :=
  match node.inner.registration with
  | none => .ok (node,.pending)
  | some registration => do
    hubReply hub.connect
    let roster ← hubReply (hub.getUnverifiedRoster registration)
    if roster.nodes.any (fun n => n.nodeNumber==registration.nodeNumber)=true then
      match verifyRoster C roster registration.nodeNumber (C.publicKeySpki node.signingKey) with
      | .ok _ => pure ({node with inner := .activated registration roster},.activated)
      | .err (.verifierRevoked _) => pure ({node with inner := .revoked registration},.revoked)
      | .err e => .err (.rosterVerificationFailed e)
      | .panic m => .panic m
    else pure ({node with inner := .registered registration},.registered)

/-- The unsigned roster of `submit_revocation`. -/
def draftRevocation (registration : NodeRegistration) (baseRoster : Roster)
    (revokedNodeNumber : Int32) : Outcome NodeStateError Roster := do
  let payload ← buildRevocationPayload baseRoster revokedNodeNumber registration.nodeNumber
  addRevocationToRoster baseRoster payload

/-- `submit_revocation`: the hub's answer is not looked at, the node's own roster is returned. -/
def Node.submitRevocation (node : Node C) (registration : NodeRegistration) (baseRoster : Roster)
    (revokedNodeNumber : Int32) (hub : Hub) : Outcome NodeStateError Roster := do
  let newRoster ← draftRevocation registration baseRoster revokedNodeNumber
  let signingHash ← computeSigningHash C newRoster
  let signedRoster ← setRevokerSignature newRoster (C.sign node.signingKey signingHash)
  let _cosignedRoster ← hubReply (hub.submitRoster registration signedRoster)
  pure signedRoster

/-- `revoke_node`. -/
def Node.revokeNode (node : Node C) (targetNodeNumber : Int32) (hub : Hub) :
    Outcome NodeStateError (Node C) :=
  match node.inner with
  | .activated registration baseRoster => do
    Outcome.reject (targetNodeNumber=registration.nodeNumber) .cannotRevokeSelf
    Outcome.reject ((activeNodes baseRoster).any (fun n => n.nodeNumber==targetNodeNumber)=false)
      (.nodeNotActive targetNodeNumber)
    hubReply hub.connect
    let newRoster ← node.submitRevocation registration baseRoster targetNodeNumber hub
    pure {node with inner := .activated registration newRoster}
  | .revoked _ => .err .revoked
  | _ => .err (.invalidState node.state "Activated")

/-- Deregistration in `logout`: a node that the hub no longer knows counts as deregistered. -/
def deregister (hub : Hub) (registration : NodeRegistration) : Outcome NodeStateError Unit :=
  match hub.deregisterNode registration with
  | .ok () => .ok ()
  | .error e => if e.isUnauthenticated || e.isNotFound then .ok () else .err (.hub e)

/-- What `logout` does at the hub, by state. -/
def Node.leaveHub (node : Node C) (hub : Hub) : Outcome NodeStateError Unit :=
  match node.inner with
  | .pending => .ok ()
  | .activated registration baseRoster => do
    Outcome.reject ((activeNodes baseRoster).length≤1) .lastActiveNode
    hubReply hub.connect
    match node.submitRevocation registration baseRoster registration.nodeNumber hub with
    | .ok _ => deregister hub registration
    | .err e => if e.isUnauthenticated || e.isNotFound then .ok () else .err e
    | .panic m => .panic m
  | _ => do
    let registration ← Outcome.expect node.persisted.registration "registered"
    hubReply hub.connect
    deregister hub registration

/-- `logout`: the root key and the signing key stay. -/
def Node.logout (node : Node C) (hub : Hub) (store : Store) : Outcome NodeStateError (Node C) := do
  node.leaveHub hub
  (Outcome.ofExcept store.delete).mapErr .store
  pure ⟨.pending,{node.persisted with registration := none},node.signingKey⟩

end WispersConnect.NodeLifecycle
