import WispersConnect.Cryptography
import WispersConnect.FirstMatch
import WispersConnect.MachineIntegers

/-!
# Building, hashing and signing rosters

The second half of `roster.rs`: the signing hash and its precondition, the
builders of new roster versions, and the setters that fill in the signatures of
the latest addendum. Debug assertions, expectations and overflow checks panic,
as in a debug build.
-/

namespace WispersConnect.RosterBuilders

open Messages OutcomeMonad Cryptography FirstMatch MachineIntegers

variable {ε : Type}

/-- `active_nodes`: the entries that are not revoked. -/
def activeNodes (roster : Roster) : List RosterNode := roster.nodes.filter fun n => !n.revoked

/-- First entry of the node list with the given number. -/
abbrev findNode (nodes : List RosterNode) (nodeNumber : Int32) : Option RosterNode :=
  lookup RosterNode.nodeNumber nodes nodeNumber

/-- The caller lookup of `handle_start_connection_request`. -/
def findCaller (roster : Roster) (callerNodeNumber : Int32) : Outcome String RosterNode := do
  let callerNode ← Outcome.okOr (findNode roster.nodes callerNodeNumber) "caller not in roster"
  Outcome.reject (callerNode.revoked=true) "caller has been revoked"
  pure callerNode

/-- The peer lookup of `find_peer_in_roster`. -/
def findPeer (roster : Roster) (peerNodeNumber : Int32) : Option RosterNode :=
  roster.nodes.find? fun n => n.nodeNumber=peerNodeNumber && !n.revoked

/-- `SIGNING_HASH_DOMAIN`. -/
def signingHashDomain : Bytes := literalBytes "wispers-connect/roster-signing/v1\x00"

/-- `latest_addendum_signatures_are_empty`. -/
def latestAddendumSignaturesAreEmpty (roster : Roster) : Bool :=
  match roster.addenda.getLast?.bind Addendum.kind with
  | some (.activation act) => act.newNodeSignature.isEmpty && act.endorserSignature.isEmpty
  | some (.revocation rev) => rev.revokerSignature.isEmpty
  | none => true

/-- The hash of a roster, whatever its latest signatures are. -/
def signingHash (C : Crypto) (roster : Roster) : Bytes :=
  C.sha256 (signingHashDomain++C.encodeRoster roster)

/-- `compute_signing_hash`: asserts that the latest signatures are empty. -/
def computeSigningHash (C : Crypto) (roster : Roster) : Outcome ε Bytes := do
  Outcome.debugAssert (latestAddendumSignaturesAreEmpty roster=true)
    "compute_signing_hash precondition violated"
  pure (signingHash C roster)

/-- An addendum with its signatures cleared. -/
def Addendum.clearSignatures (addendum : Addendum) : Addendum :=
  match addendum.kind with
  | some (.activation act) => ⟨some (.activation {act with newNodeSignature := [],endorserSignature := []})⟩
  | some (.revocation rev) => ⟨some (.revocation {rev with revokerSignature := []})⟩
  | none => addendum

/-- `clear_latest_addendum_signatures`, in place on the last addendum. -/
def clearLatestAddendumSignatures (roster : Roster) : Roster :=
  match roster.addenda.getLast? with
  | some last => {roster with addenda := roster.addenda.dropLast++[Addendum.clearSignatures last]}
  | none => roster

/-- `build_activation_payload`. -/
def buildActivationPayload (baseRoster : Roster) (newNodeNumber endorserNodeNumber : Int32)
    (newNodeNonce endorserNonce : Bytes) : Outcome ε ActivationPayload := do
  let version ← addOne baseRoster.version
  pure ⟨version,newNodeNumber,endorserNodeNumber,newNodeNonce,endorserNonce⟩

/-- An activation addendum whose signatures are not filled in yet. -/
def unsignedActivation (payload : ActivationPayload) : Addendum :=
  ⟨some (.activation ⟨some payload,[],[]⟩)⟩

/-- A revocation addendum whose signature is not filled in yet. -/
def unsignedRevocation (payload : RevocationPayload) : Addendum :=
  ⟨some (.revocation ⟨some payload,[]⟩)⟩

/-- `create_bootstrap_roster`: version 1 with its two founding nodes. -/
def createBootstrapRoster (payload : ActivationPayload)
    (newNodePubkeySpki endorserPubkeySpki : Bytes) : Outcome ε Roster := do
  Outcome.debugAssert (payload.version=1) "bootstrap payload must have version=1"
  pure ⟨1,
    [⟨payload.endorserNodeNumber,endorserPubkeySpki,false⟩,
      ⟨payload.newNodeNumber,newNodePubkeySpki,false⟩],
    [unsignedActivation payload]⟩

/-- `add_activation_to_roster`. -/
def addActivationToRoster (roster : Roster) (payload : ActivationPayload)
    (newNodePubkeySpki : Bytes) : Outcome ε Roster := do
  let nextVersion ← addOne roster.version
  Outcome.debugAssert (payload.version=nextVersion) "payload version must be roster.version + 1"
  pure ⟨payload.version,
    roster.nodes++[⟨payload.newNodeNumber,newNodePubkeySpki,false⟩],
    roster.addenda++[unsignedActivation payload]⟩

/-- `build_revocation_payload`. -/
def buildRevocationPayload (baseRoster : Roster) (revokedNodeNumber revokerNodeNumber : Int32) :
    Outcome ε RevocationPayload := do
  let version ← addOne baseRoster.version
  pure ⟨version,revokedNodeNumber,revokerNodeNumber⟩

/-- Turn on the flag of the first entry with the given number. -/
def markRevoked (nodes : List RosterNode) (nodeNumber : Int32) : List RosterNode :=
  updateFirst RosterNode.nodeNumber (fun n => {n with revoked := true}) nodeNumber nodes

/-- `add_revocation_to_roster`. -/
def addRevocationToRoster (roster : Roster) (payload : RevocationPayload) : Outcome ε Roster := do
  let nextVersion ← addOne roster.version
  Outcome.debugAssert (payload.version=nextVersion) "payload version must be roster.version + 1"
  pure ⟨payload.version,markRevoked roster.nodes payload.revokedNodeNumber,
    roster.addenda++[unsignedRevocation payload]⟩

/-- Change the kind of the latest addendum; the change may panic. -/
def modifyLatestKind (roster : Roster) (change : AddendumKind→Outcome ε AddendumKind) :
    Outcome ε Roster := do
  let last ← Outcome.expect roster.addenda.getLast? "roster has no addenda"
  let kind ← Outcome.expect last.kind "addendum has no kind"
  let kind ← change kind
  pure {roster with addenda := roster.addenda.dropLast++[⟨some kind⟩]}

/-- `set_new_node_signature`. -/
def setNewNodeSignature (roster : Roster) (signature : Bytes) : Outcome ε Roster :=
  modifyLatestKind roster fun
    | .activation act => .ok (.activation {act with newNodeSignature := signature})
    | .revocation _ => .panic "set_new_node_signature called on a revocation addendum"

/-- `set_endorser_signature`. -/
def setEndorserSignature (roster : Roster) (signature : Bytes) : Outcome ε Roster :=
  modifyLatestKind roster fun
    | .activation act => .ok (.activation {act with endorserSignature := signature})
    | .revocation _ => .panic "set_endorser_signature called on a revocation addendum"

/-- `set_revoker_signature`. -/
def setRevokerSignature (roster : Roster) (signature : Bytes) : Outcome ε Roster :=
  modifyLatestKind roster fun
    | .revocation rev => .ok (.revocation {rev with revokerSignature := signature})
    | .activation _ => .panic "set_revoker_signature called on an activation addendum"

/-- Cleared rosters meet the precondition of the signing hash. -/
theorem computeSigningHash_clearLatest (C : Crypto) (roster : Roster) :
    (computeSigningHash C (clearLatestAddendumSignatures roster) : Outcome ε Bytes)=
      .ok (signingHash C (clearLatestAddendumSignatures roster)) := by
  have hempty : latestAddendumSignaturesAreEmpty (clearLatestAddendumSignatures roster)=true := by
    cases hlast : roster.addenda.getLast? with
    | none =>
      simp only [clearLatestAddendumSignatures,hlast,latestAddendumSignaturesAreEmpty,
        Option.bind_none]
    | some last =>
      rcases last with ⟨_|⟨activation|revocation⟩⟩ <;>
        simp [clearLatestAddendumSignatures,hlast,latestAddendumSignaturesAreEmpty,
          Addendum.clearSignatures]
  simp only [computeSigningHash,hempty,Outcome.debugAssert,if_true,Outcome.ok_bind,
    Outcome.pure_eq_ok]

end WispersConnect.RosterBuilders
