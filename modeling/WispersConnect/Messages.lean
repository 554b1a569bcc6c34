import Mathlib.Tactic.Common

/-!
# Wire messages of the roster and of the activation protocol

Field for field the messages of `roster.proto`, and those of `hub.proto` that
activation uses. Node numbers are `int32`, versions `int64`; an absent message
field is `none` and an absent `bytes` field is the empty list, as the generated
code has them.
-/

namespace WispersConnect.Messages

/-- A `bytes` field. -/
abbrev Bytes := List UInt8

/-- A node in the connectivity group. -/
structure RosterNode where
  /-- Number of the node within its group. -/
  nodeNumber : Int32
  /-- The node's public key in SPKI DER form. -/
  publicKeySpki : Bytes
  /-- True once the node has been revoked; revoked entries stay in the list. -/
  revoked : Bool
  deriving DecidableEq

/-- What an activation commits to. -/
structure ActivationPayload where
  /-- Roster version this addendum produces. -/
  version : Int64
  /-- The node being activated. -/
  newNodeNumber : Int32
  /-- The node endorsing it. -/
  endorserNodeNumber : Int32
  /-- Nonce the new node chose in the pairing. -/
  newNodeNonce : Bytes
  /-- Nonce the endorser chose in the pairing. -/
  endorserNonce : Bytes
  deriving DecidableEq

/-- Activation of a new node, signed by it and by its endorser. -/
structure Activation where
  /-- The signed intent. -/
  payload : Option ActivationPayload
  /-- Signature of the new node. -/
  newNodeSignature : Bytes
  /-- Signature of the endorser. -/
  endorserSignature : Bytes
  deriving DecidableEq

/-- What a revocation commits to. -/
structure RevocationPayload where
  /-- Roster version this addendum produces. -/
  version : Int64
  /-- The node being revoked. -/
  revokedNodeNumber : Int32
  /-- The node revoking it. -/
  revokerNodeNumber : Int32
  deriving DecidableEq

/-- Revocation of a node, signed by the revoker. -/
structure Revocation where
  /-- The signed intent. -/
  payload : Option RevocationPayload
  /-- Signature of the revoker. -/
  revokerSignature : Bytes
  deriving DecidableEq

/-- The `oneof` of an addendum. -/
inductive AddendumKind where
  /-- A node joined. -/
  | activation (activation : Activation)
  /-- A node was revoked. -/
  | revocation (revocation : Revocation)
  deriving DecidableEq

/-- A single change to the roster history. -/
structure Addendum where
  /-- Absent when the peer sent no kind, or one unknown here. -/
  kind : Option AddendumKind
  deriving DecidableEq

/-- The signed list of nodes together with its history of changes. -/
structure Roster where
  /-- Number of addenda applied. -/
  version : Int64
  /-- Every node ever activated, in order of activation. -/
  nodes : List RosterNode
  /-- The changes, oldest first. -/
  addenda : List Addendum
  deriving DecidableEq

/-- `Roster::default()`. -/
def Roster.default : Roster := ⟨0,[],[]⟩

/-- What one side of a pairing authenticates to the other. -/
structure PairNodesPayload where
  /-- Number of the node sending this message. -/
  senderNodeNumber : Int32
  /-- Number of the node it is meant for. -/
  receiverNodeNumber : Int32
  /-- The sender's public key. -/
  publicKeySpki : Bytes
  /-- The sender's fresh nonce. -/
  nonce : Bytes
  /-- In a reply, the nonce of the message it answers. -/
  replyNonce : Bytes
  deriving DecidableEq

/-- Pairing request and pairing reply share this message. -/
structure PairNodesMessage where
  /-- The authenticated content. -/
  payload : Option PairNodesPayload
  /-- Authentication tag over the encoded payload. -/
  mac : Bytes
  deriving DecidableEq

/-- The hub's request for an endorser's signature. -/
structure RosterCosignRequest where
  /-- Number of the node to endorse, as an `int64`. -/
  newNodeNumber : Int64
  /-- The roster the new node already signed. -/
  newRoster : Option Roster
  deriving DecidableEq

/-- The endorser's answer. -/
structure RosterCosignResponse where
  /-- Signature over the roster's signing hash. -/
  endorserSignature : Bytes
  deriving DecidableEq

end WispersConnect.Messages
