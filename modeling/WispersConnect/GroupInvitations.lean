import WispersConnect.ActivationSteps
import WispersConnect.DeviceRuns
import WispersConnect.Endorsing
import WispersConnect.GroupStates
import WispersConnect.RosterHistory

/-!
# Acting on the group state

A node that is shown a group state acts on it by activating through the code of
another listed node. With an honest endorser and a hub that only relays, this
succeeds exactly when the roster is empty, or is alive with the endorser active
in it and has never listed the node. The states shown do not always say so: a
dead roster still has to verify, and a revoked node is still asked for a code.
-/

namespace WispersConnect.GroupInvitations

open Messages OutcomeMonad Cryptography FirstMatch MachineIntegers PairingCodes Endorsing
open RosterBuilders RosterVerification RosterChain RosterReplay RosterHistory NodeLifecycle
open ActivationSteps DeviceRuns GroupStates SymbolicCrypto

/-- The draft of an activation with its signatures filled in. -/
def signedDraft (currentRoster : Roster) (payload : ActivationPayload)
    (selfSpki endorserSpki newSignature endorserSignature : Bytes) : Roster :=
  if currentRoster.version=0 then
    bootstrapState payload selfSpki endorserSpki
      (signedActivation payload newSignature endorserSignature)
  else activationState currentRoster payload selfSpki
    (signedActivation payload newSignature endorserSignature)

/-- The drafts differ only in the signatures of their latest addendum. -/
theorem draft_shape (currentRoster : Roster) (payload : ActivationPayload)
    (selfSpki endorserSpki : Bytes) :
    ∃ version nodes addenda,
      draftState currentRoster payload selfSpki endorserSpki=
        ⟨version,nodes,addenda++[unsignedActivation payload]⟩ ∧
      ∀ newSignature endorserSignature,
        signedDraft currentRoster payload selfSpki endorserSpki newSignature endorserSignature=
          ⟨version,nodes,addenda++[signedActivation payload newSignature endorserSignature]⟩ := by
  by_cases h0 : currentRoster.version=0
  · refine ⟨1,[⟨payload.endorserNodeNumber,endorserSpki,false⟩,
      ⟨payload.newNodeNumber,selfSpki,false⟩],[],?_,fun newSignature endorserSignature => ?_⟩
    · rw [draftState,if_pos h0]
      rfl
    · rw [signedDraft,if_pos h0]
      rfl
  · refine ⟨payload.version,currentRoster.nodes++[⟨payload.newNodeNumber,selfSpki,false⟩],
      currentRoster.addenda,?_,fun newSignature endorserSignature => ?_⟩
    · rw [draftState,if_neg h0]
      rfl
    · rw [signedDraft,if_neg h0]
      rfl

section Drafts

variable {ε : Type} (C : Crypto) (currentRoster : Roster) (payload : ActivationPayload)
  (selfSpki endorserSpki newSignature endorserSignature : Bytes)

/-- The draft can be hashed. -/
theorem computeSigningHash_draft :
    (computeSigningHash C (draftState currentRoster payload selfSpki endorserSpki) :
      Outcome ε Bytes)=
      .ok (signingHash C (draftState currentRoster payload selfSpki endorserSpki)) := by
  obtain ⟨version,nodes,addenda,hdraft,_⟩ :=
    draft_shape currentRoster payload selfSpki endorserSpki
  rw [hdraft]
  exact computeSigningHash_unsignedActivation version nodes addenda C payload

/-- The new node's signature is filled in first. -/
theorem setNewNodeSignature_draft :
    (setNewNodeSignature (draftState currentRoster payload selfSpki endorserSpki) newSignature :
      Outcome ε Roster)=
      .ok (signedDraft currentRoster payload selfSpki endorserSpki newSignature []) := by
  obtain ⟨version,nodes,addenda,hdraft,hsigned⟩ :=
    draft_shape currentRoster payload selfSpki endorserSpki
  rw [hdraft,hsigned]
  exact setNewNodeSignature_activation version nodes addenda _ newSignature

/-- The endorser's signature is filled in second. -/
theorem setEndorserSignature_draft :
    (setEndorserSignature
      (signedDraft currentRoster payload selfSpki endorserSpki newSignature [])
      endorserSignature : Outcome ε Roster)=
      .ok (signedDraft currentRoster payload selfSpki endorserSpki newSignature
        endorserSignature) := by
  obtain ⟨version,nodes,addenda,_,hsigned⟩ :=
    draft_shape currentRoster payload selfSpki endorserSpki
  rw [hsigned,hsigned]
  exact setEndorserSignature_activation version nodes addenda _ endorserSignature

/-- Clearing the signatures gives the draft back. -/
theorem clearLatest_signedDraft :
    clearLatestAddendumSignatures
        (signedDraft currentRoster payload selfSpki endorserSpki newSignature endorserSignature)=
      draftState currentRoster payload selfSpki endorserSpki := by
  obtain ⟨version,nodes,addenda,hdraft,hsigned⟩ :=
    draft_shape currentRoster payload selfSpki endorserSpki
  rw [hdraft,hsigned]
  exact clearLatest_signedActivation version nodes addenda payload _ _

/-- The latest addendum is the activation. -/
theorem latestActivation_signedDraft :
    latestActivation
        (signedDraft currentRoster payload selfSpki endorserSpki newSignature endorserSignature)=
      some ⟨some payload,newSignature,endorserSignature⟩ := by
  obtain ⟨version,nodes,addenda,_,hsigned⟩ :=
    draft_shape currentRoster payload selfSpki endorserSpki
  rw [hsigned,latestActivation,List.getLast?_concat]
  rfl

end Drafts

/-- A roster that a node can join through another: an empty one, or an honestly
built one that has the other active and never listed the node. -/
inductive Joinable (C : Crypto) (roster : Roster) (nodeNumber endorserNodeNumber : Int32)
    (endorserKey : C.VerifyingKey) : Prop where
  /-- The two found the group. -/
  | founding (empty : roster=Roster.default) (distinct : endorserNodeNumber≠nodeNumber)
  /-- The other endorses the node. -/
  | extending (built : HonestlyBuilt C roster) (room : roster.version≠Int64.maxValue)
      (fresh : ∀ entry∈roster.nodes,entry.nodeNumber≠nodeNumber)
      (active : ActiveWithKey C roster endorserNodeNumber endorserKey)

section Joining

variable {C : Crypto} {roster : Roster} {payload : ActivationPayload}
  {selfSpki endorserSpki : Bytes} {selfKey endorserKey : C.VerifyingKey}

/-- An honestly built roster has a positive version. -/
theorem HonestlyBuilt.version_ne_zero (h : HonestlyBuilt C roster) : roster.version≠0 := by
  have hpos := accepted_version_pos h
  intro h0
  rw [h0] at hpos
  exact absurd hpos (by decide)

/-- Joining with both signatures keeps the roster honestly built and makes the node active. -/
theorem Joinable.joins (h : Joinable C roster payload.newNodeNumber payload.endorserNodeNumber
      endorserKey) (hversion : payload.version=roster.version+1)
    (hself : C.fromPublicKeyDer selfSpki=.ok selfKey)
    (hendorser : C.fromPublicKeyDer endorserSpki=.ok endorserKey)
    {newSignature endorserSignature : Bytes}
    (hnew : verifySignature C selfKey
      (signingHash C (draftState roster payload selfSpki endorserSpki)) newSignature=.ok ())
    (hcosigned : verifySignature C endorserKey
      (signingHash C (draftState roster payload selfSpki endorserSpki)) endorserSignature=.ok ()) :
    HonestlyBuilt C
        (signedDraft roster payload selfSpki endorserSpki newSignature endorserSignature) ∧
      ActiveWithKey C
        (signedDraft roster payload selfSpki endorserSpki newSignature endorserSignature)
        payload.newNodeNumber selfKey := by
  cases h with
  | founding hempty hdistinct =>
    have h0 : roster.version=0 := by
      rw [hempty]
      rfl
    have hfirst : payload.version=1 := by
      rw [hversion,h0]
      rfl
    rw [draftState,if_pos h0] at hnew hcosigned
    rw [signedDraft,if_pos h0]
    have facts : BootstrapFacts C payload selfSpki endorserSpki newSignature endorserSignature
        selfKey endorserKey := ⟨hfirst,hdistinct,hself,hendorser,hnew,hcosigned⟩
    refine ⟨.bootstrap ((honestBootstrap_iff C _).mpr ⟨_,_,_,_,_,_,_,facts,rfl⟩),?_⟩
    exact ⟨_,List.mem_cons_of_mem _ (List.mem_singleton_self _),rfl,rfl,hself⟩
  | extending hbuilt hroom hfresh hactive =>
    have h0 := HonestlyBuilt.version_ne_zero hbuilt
    rw [draftState,if_neg h0] at hnew hcosigned
    rw [signedDraft,if_neg h0]
    have hnext : (addOne roster.version : Outcome Empty Int64)=.ok payload.version :=
      addOne_eq_ok.mpr ⟨hroom,hversion.symm⟩
    have facts : ActivationFacts C roster payload selfSpki newSignature endorserSignature selfKey
        endorserKey := ⟨hnext,hfresh,hactive,hself,hnew,hcosigned⟩
    refine ⟨.step hbuilt ((honestStep_iff C _ _).mpr (.inl ⟨_,_,_,_,_,_,facts,rfl⟩)),?_⟩
    exact ⟨_,List.mem_append_right _ (List.mem_singleton_self _),rfl,rfl,hself⟩

/-- The version of a joinable roster can be incremented. -/
theorem Joinable.room {nodeNumber endorserNodeNumber : Int32}
    (h : Joinable C roster nodeNumber endorserNodeNumber endorserKey) :
    roster.version≠Int64.maxValue := by
  cases h with
  | founding hempty _ =>
    rw [hempty]
    decide
  | extending _ hroom _ _ => exact hroom

/-- A joinable roster of positive version verifies for the endorser. -/
theorem Joinable.base_verifies {nodeNumber endorserNodeNumber : Int32}
    (h : Joinable C roster nodeNumber endorserNodeNumber endorserKey)
    (hendorser : C.fromPublicKeyDer endorserSpki=.ok endorserKey) (hpos : 0<roster.version) :
    ∃ keys,verifyRoster C roster endorserNodeNumber endorserSpki=.ok keys := by
  cases h with
  | founding hempty _ =>
    rw [hempty] at hpos
    exact absurd hpos (by decide)
  | extending hbuilt _ _ hactive =>
    obtain ⟨keys,hkeys⟩ := HonestlyBuilt.exists_activeKeys hbuilt
    exact ⟨keys,verifyRoster_eq_ok.mpr ⟨endorserKey,hendorser,hbuilt,hkeys,hactive⟩⟩

/-- The signed draft lists the node and its endorser with the keys they paired with. -/
theorem Joinable.lists (h : Joinable C roster payload.newNodeNumber payload.endorserNodeNumber
      endorserKey) {newSignature endorserSignature : Bytes}
    (hlisted : ∀ entry∈roster.nodes,entry.nodeNumber=payload.endorserNodeNumber →
      entry.revoked=false → entry.publicKeySpki=endorserSpki) :
    (∃ entry,findNode (signedDraft roster payload selfSpki endorserSpki newSignature
        endorserSignature).nodes payload.newNodeNumber=some entry ∧
      entry.publicKeySpki=selfSpki) ∧
    ∃ entry,findNode (signedDraft roster payload selfSpki endorserSpki newSignature
        endorserSignature).nodes payload.endorserNodeNumber=some entry ∧
      entry.publicKeySpki=endorserSpki := by
  cases h with
  | founding hempty hdistinct =>
    have h0 : roster.version=0 := by
      rw [hempty]
      rfl
    rw [signedDraft,if_pos h0]
    constructor
    · exact ⟨⟨payload.newNodeNumber,selfSpki,false⟩,
        by simp [findNode,lookup,bootstrapState,hdistinct],rfl⟩
    · exact ⟨⟨payload.endorserNodeNumber,endorserSpki,false⟩,
        by simp [findNode,lookup,bootstrapState],rfl⟩
  | extending hbuilt _ hfresh hactive =>
    have h0 := HonestlyBuilt.version_ne_zero hbuilt
    rw [signedDraft,if_neg h0]
    obtain ⟨entry,hm,hn,hr,_⟩ := hactive
    have hfound : findNode roster.nodes payload.endorserNodeNumber=some entry :=
      hn ▸ lookup_of_mem RosterNode.nodeNumber hbuilt.invariant.distinct hm
    have habsent : findNode roster.nodes payload.newNodeNumber=none :=
      List.find?_eq_none.mpr fun entry hm => by simpa using hfresh entry hm
    constructor
    · refine ⟨⟨payload.newNodeNumber,selfSpki,false⟩,?_,rfl⟩
      rw [activationState,findNode,lookup,List.find?_append]
      rw [findNode,lookup] at habsent
      simp [habsent]
    · refine ⟨entry,?_,hlisted entry hm hn hr⟩
      rw [activationState,findNode,lookup,List.find?_append]
      rw [findNode,lookup] at hfound
      simp [hfound]

end Joining

/-- A code and what answers when a node uses it: the issuer's key and endorsing
state, when the pairing request comes and when the roster comes, and the hub. -/
structure Invitation (C : Crypto) where
  /-- The code as the user types it. -/
  code : Bytes
  /-- The secret in it. -/
  secret : PairingSecret
  /-- The nonce that the node draws. -/
  nonce : Bytes
  /-- The issuer's key. -/
  signingKey : C.SigningKey
  /-- The issuer's state when the pairing request comes. -/
  pairing : EndorsingState
  /-- The issuer's clock then. -/
  now : ℕ
  /-- The nonce that the issuer draws. -/
  ourNonce : Bytes
  /-- The issuer's state when the roster comes. -/
  cosigning : EndorsingState
  /-- The hub. -/
  hub : Hub

section Through

variable {C : Crypto} (invitation : Invitation C) (node : Node C)
  (registration : NodeRegistration) (roster : Roster) (issuer : Int32)

/-- The pairing request of the node. -/
def Invitation.request : PairNodesMessage :=
  pairingRequest C node.signingKey registration.nodeNumber ⟨issuer,invitation.secret⟩
    invitation.nonce

/-- The issuer's answer to it, with the state it is left in. -/
def Invitation.answer : EndorsingState×Except String PairNodesMessage :=
  invitation.pairing.pairNodes C (invitation.request node registration issuer) issuer
    invitation.signingKey invitation.now invitation.ourNonce

/-- The issuer is honest and its code alive, and the hub only relays. -/
structure Invitation.Honest : Prop where
  /-- The code is the issuer's. -/
  parses : PairingCode.parse invitation.code=.ok ⟨issuer,invitation.secret⟩
  /-- The issuer's key works. -/
  works : KeyWorks C invitation.signingKey
  /-- Where the roster has the issuer active, it is under that key. -/
  listed : ∀ entry∈roster.nodes,entry.nodeNumber=issuer → entry.revoked=false →
    entry.publicKeySpki=C.publicKeySpki invitation.signingKey
  /-- The code has not expired. -/
  outstanding : ∃ ts∈(invitation.pairing.pruneExpired invitation.now).pairingSecrets,
    ts.secret=invitation.secret
  /-- No other outstanding secret verifies the request. -/
  unmistaken : ∀ ts∈(invitation.pairing.pruneExpired invitation.now).pairingSecrets,
    ∀ payload,(invitation.request node registration issuer).payload=some payload →
      ts.secret.verifyMac C (C.encodePairNodesPayload payload)
        (invitation.request node registration issuer).mac=true → ts.secret=invitation.secret
  /-- The pending endorsement is still there when the roster comes. -/
  undisturbed : invitation.cosigning.pendingEndorsements.lookup registration.nodeNumber=
    (invitation.answer node registration issuer).1.pendingEndorsements.lookup
      registration.nodeNumber
  /-- The hub can be reached. -/
  connects : invitation.hub.connect=.ok ()
  /-- It delivers the request, and the answer. -/
  relays : ∀ message,(invitation.answer node registration issuer).2=.ok message →
    invitation.hub.pairNodes registration (invitation.request node registration issuer)=
      .ok message
  /-- It has the roster as the current one. -/
  delivers : invitation.hub.getUnverifiedRoster registration=.ok roster
  /-- It has an update co-signed by the issuer. -/
  cosigns : ∀ newRoster response signed,
    (invitation.cosigning.rosterCosign C ⟨registration.nodeNumber.toInt64,some newRoster⟩ issuer
      invitation.signingKey).2=.ok response →
    (setEndorserSignature newRoster response.endorserSignature : Outcome Empty Roster)=
      .ok signed →
    invitation.hub.updateRoster registration newRoster=.ok (some signed)

/-- The payload of the issuer's reply. -/
def Invitation.replyPayload : PairNodesPayload :=
  ⟨issuer,registration.nodeNumber,C.publicKeySpki invitation.signingKey,invitation.ourNonce,
    invitation.nonce⟩

/-- The payload of the activation. -/
def Invitation.payload : ActivationPayload :=
  draftPayload roster registration.nodeNumber issuer invitation.nonce invitation.ourNonce

/-- The roster that the node signs. -/
def Invitation.draft : Roster :=
  draftState roster (invitation.payload registration roster issuer)
    (C.publicKeySpki node.signingKey) (C.publicKeySpki invitation.signingKey)

/-- The roster that the node signs, with signatures filled in. -/
def Invitation.signed (newSignature endorserSignature : Bytes) : Roster :=
  signedDraft roster (invitation.payload registration roster issuer)
    (C.publicKeySpki node.signingKey) (C.publicKeySpki invitation.signingKey) newSignature
    endorserSignature

/-- The roster that the node submits. -/
def Invitation.submitted : Roster :=
  invitation.signed node registration roster issuer
    (C.sign node.signingKey (signingHash C (invitation.draft node registration roster issuer))) []

/-- The roster that the hub answers with. -/
def Invitation.cosigned : Roster :=
  invitation.signed node registration roster issuer
    (C.sign node.signingKey (signingHash C (invitation.draft node registration roster issuer)))
    (C.sign invitation.signingKey
      (signingHash C (invitation.draft node registration roster issuer)))

variable {invitation node registration roster issuer}

/-- The issuer answers under the secret of its code and remembers the node. -/
theorem Invitation.Honest.answers (h : invitation.Honest node registration roster issuer) :
    (invitation.answer node registration issuer).2=
      .ok ⟨some (invitation.replyPayload registration issuer),
        invitation.secret.computeMac C
          (C.encodePairNodesPayload (invitation.replyPayload registration issuer))⟩ ∧
    (invitation.answer node registration issuer).1.pendingEndorsements.lookup
        registration.nodeNumber=
      some ⟨C.publicKeySpki node.signingKey,invitation.nonce,invitation.ourNonce⟩ := by
  rcases pairNodes_cases C invitation.pairing (invitation.request node registration issuer) issuer
      invitation.signingKey invitation.now invitation.ourNonce with
    ⟨hnone,_⟩|⟨payload,ts,secrets,hverifying,hpayload,hmac,_,hpairs⟩
  · obtain ⟨ts,hts,hsecret⟩ := h.outstanding
    have hverifies := List.find?_eq_none.mp hnone ts hts
    refine absurd ?_ hverifies
    rw [hsecret]
    exact (verifyMac_iff C _ _ _).mpr rfl
  · have hts : ts∈(invitation.pairing.pruneExpired invitation.now).pairingSecrets := by
      rw [EndorsingState.verifyingSecret,hpayload] at hverifying
      exact List.mem_of_find?_eq_some hverifying
    have hsecret := h.unmistaken ts hts payload hpayload hmac
    obtain rfl := Option.some.inj hpayload
    rw [Invitation.answer,hpairs,hsecret]
    exact ⟨rfl,Finmap.lookup_insert _⟩

/-- A node that joins through an honest invitation comes to its signing step. -/
theorem Invitation.Honest.drafts (h : invitation.Honest node registration roster issuer)
    (hnode : node.inner=.registered registration)
    (hjoin : Joinable C roster registration.nodeNumber issuer
      (C.verifyingKey invitation.signingKey)) :
    node.activateDraft invitation.code invitation.nonce invitation.hub=
      .ok ⟨registration,⟨issuer,invitation.secret⟩,invitation.nonce,
        invitation.replyPayload registration issuer,roster,
        invitation.draft node registration roster issuer⟩ := by
  refine activateDraft_eq_ok.mpr ⟨hnode,h.parses,h.connects,rfl,?_,h.delivers,?_⟩
  · refine ⟨_,h.relays _ h.answers.1,checkPairingReply_eq_ok.mpr ⟨rfl,?_,rfl,rfl⟩⟩
    exact (verifyMac_iff C _ _ _).mpr rfl
  · exact draftRoster_eq_ok.mpr ⟨hjoin.base_verifies h.works.decodes,hjoin.room,rfl⟩

/-- The issuer co-signs the roster that the node submits. -/
theorem Invitation.Honest.cosigns_submitted
    (h : invitation.Honest node registration roster issuer)
    (hjoin : Joinable C roster registration.nodeNumber issuer
      (C.verifyingKey invitation.signingKey)) :
    (invitation.cosigning.rosterCosign C
      ⟨registration.nodeNumber.toInt64,
        some (invitation.submitted node registration roster issuer)⟩ issuer
      invitation.signingKey).2=
      .ok ⟨C.sign invitation.signingKey
        (signingHash C (invitation.draft node registration roster issuer))⟩ := by
  have hpending := h.undisturbed.trans h.answers.2
  obtain ⟨hnew,hendorser⟩ := @Joinable.lists C roster
    (invitation.payload registration roster issuer) (C.publicKeySpki node.signingKey)
    (C.publicKeySpki invitation.signingKey) _ hjoin
    (C.sign node.signingKey (signingHash C (invitation.draft node registration roster issuer))) []
    h.listed
  have facts : CosignFacts C invitation.cosigning
      ⟨registration.nodeNumber.toInt64,
        some (invitation.submitted node registration roster issuer)⟩ issuer
      invitation.signingKey (invitation.submitted node registration roster issuer)
      (invitation.payload registration roster issuer)
      ⟨C.publicKeySpki node.signingKey,invitation.nonce,invitation.ourNonce⟩ := by
    refine ⟨?_,rfl,⟨_,latestActivation_signedDraft _ _ _ _ _ _,rfl⟩,rfl,rfl,rfl,?_,hendorser⟩
    · rw [Int32.toInt32_toInt64]
      exact hpending
    · rw [Int32.toInt32_toInt64]
      exact hnew
  have hchecked := checkCosignRequest_eq_ok.mpr ⟨_,_,facts⟩
  simp only [EndorsingState.rosterCosign,hchecked,Outcome.ok_bind,computeSigningHash_clearLatest,
    Outcome.pure_eq_ok,Outcome.isOk,if_true]
  rw [Invitation.submitted,Invitation.signed,clearLatest_signedDraft]
  rfl

/-- The hub answers the submission with the co-signed roster. -/
theorem Invitation.Honest.submits (h : invitation.Honest node registration roster issuer)
    (hjoin : Joinable C roster registration.nodeNumber issuer
      (C.verifyingKey invitation.signingKey)) :
    invitation.hub.submitRoster registration
        (invitation.submitted node registration roster issuer)=
      .ok (invitation.cosigned node registration roster issuer) := by
  have hupdate := h.cosigns _ _ _ (h.cosigns_submitted hjoin)
    (setEndorserSignature_draft _ _ _ _ _ _)
  rw [Hub.submitRoster,hupdate]
  rfl

/-- The co-signed roster verifies for the node. -/
theorem Invitation.Honest.verifies (h : invitation.Honest node registration roster issuer)
    (hkey : KeyWorks C node.signingKey)
    (hjoin : Joinable C roster registration.nodeNumber issuer
      (C.verifyingKey invitation.signingKey)) :
    ∃ keys,verifyRoster C (invitation.cosigned node registration roster issuer)
      registration.nodeNumber (C.publicKeySpki node.signingKey)=.ok keys := by
  obtain ⟨hbuilt,hactive⟩ := @Joinable.joins C roster
    (invitation.payload registration roster issuer) (C.publicKeySpki node.signingKey)
    (C.publicKeySpki invitation.signingKey) _ _ hjoin rfl hkey.decodes h.works.decodes _ _
    (hkey.verifies _) (h.works.verifies _)
  obtain ⟨keys,hkeys⟩ := HonestlyBuilt.exists_activeKeys hbuilt
  exact ⟨keys,verifyRoster_eq_ok.mpr ⟨_,hkey.decodes,hbuilt,hkeys,hactive⟩⟩

variable (invitation node registration)

/-- The activation through an invitation succeeds: the base passes its check,
and the co-signed roster verifies for the node. -/
def Activates : Prop :=
  ∃ cosigned keys,node.activate invitation.code invitation.nonce invitation.hub=
      .ok {node with inner := .activated registration cosigned} ∧
    verifyRoster C cosigned registration.nodeNumber (C.publicKeySpki node.signingKey)=.ok keys

variable {invitation node registration}

/-- A node activates through an honest invitation to a roster it can join. -/
theorem Invitation.Honest.activates (h : invitation.Honest node registration roster issuer)
    (hnode : node.inner=.registered registration) (hkey : KeyWorks C node.signingKey)
    (hjoin : Joinable C roster registration.nodeNumber issuer
      (C.verifyingKey invitation.signingKey)) :
    Activates invitation node registration := by
  obtain ⟨keys,hkeys⟩ := h.verifies hkey hjoin
  have hself : verifyRosterForNode C (invitation.cosigned node registration roster issuer)
      registration.nodeNumber (C.publicKeySpki node.signingKey)=.ok keys := by
    rw [verifyRosterForNode,hkeys]
    rfl
  refine ⟨_,keys,?_,hkeys⟩
  rw [Node.activate,h.drafts hnode hjoin,Outcome.ok_bind]
  simp only [Node.completeActivation,Outcome.bind_eq_ok]
  exact ⟨_,computeSigningHash_draft _ _ _ _ _,_,setNewNodeSignature_draft _ _ _ _ _,_,
    hubReply_eq_ok.mpr (h.submits hjoin),keys,hself,rfl⟩

/-- An activation that extends an honestly built roster has the issuer active in
it, and its version can be incremented. -/
theorem Invitation.Honest.activates_only (h : invitation.Honest node registration roster issuer)
    (hnode : node.inner=.registered registration) (hbuilt : HonestlyBuilt C roster)
    (hactivates : Activates invitation node registration) :
    issuer∈activatedSet roster ∧ roster.version≠Int64.maxValue := by
  obtain ⟨_,_,hactivate,_⟩ := hactivates
  obtain ⟨draft,_,_,_,haccepts,_⟩ := activate_eq_ok hactivate
  have facts := activateDraft_eq_ok.mp haccepts.drafted
  have hregistration : draft.registration=registration :=
    InnerState.registered.inj (facts.registered.symm.trans hnode)
  have hcode : draft.code=⟨issuer,invitation.secret⟩ :=
    Except.ok.inj (facts.parsed.symm.trans h.parses)
  have hcurrent : draft.currentRoster=roster := by
    have hfetched := facts.fetched
    rw [hregistration,h.delivers] at hfetched
    exact (Except.ok.inj hfetched).symm
  have hdrafted := facts.drafted
  rw [hcurrent,hcode] at hdrafted
  obtain ⟨hverified,hroom,_⟩ := draftRoster_eq_ok.mp hdrafted
  obtain ⟨keys,hkeys⟩ := hverified (pos_iff_toInt.mpr (accepted_version_pos hbuilt))
  obtain ⟨key,_,_,_,hactive⟩ := verifyRoster_eq_ok.mp hkeys
  exact ⟨(mem_activatedSet_iff hbuilt.invariant).mpr ⟨key,hactive⟩,hroom⟩

/-- An honest issuer that is active in the roster is so under its own key. -/
theorem Invitation.Honest.active (h : invitation.Honest node registration roster issuer)
    (hissuer : issuer∈activatedSet roster) :
    ActiveWithKey C roster issuer (C.verifyingKey invitation.signingKey) := by
  obtain ⟨entry,hm,hn,hr⟩ := mem_activatedSet.mp hissuer
  refine ⟨entry,hm,hn,hr,?_⟩
  rw [h.listed entry hm hn hr]
  exact h.works.decodes

end Through

section Actions

variable {C : Crypto} (hubNodes : List HubNode) (roster : Roster) (node : Node C)
  (registration : NodeRegistration) (invitations : Int32→Invitation C)

/-- What the group state promises: when it is founding, the code of any other
listed node activates this one, and when it asks for a code, this node was never
listed in the roster and the code of some node reported as activated activates it. -/
structure Actionable : Prop where
  /-- Any node can pair with any other. -/
  bootstrap : (analyzeGroup hubNodes roster registration.nodeNumber).2=.bootstrap →
    ∀ hubNode∈hubNodes,hubNode.nodeNumber≠registration.nodeNumber →
      Activates (invitations hubNode.nodeNumber) node registration
  /-- A code of an activated peer is what is missing. -/
  needActivation : (analyzeGroup hubNodes roster registration.nodeNumber).2=.needActivation →
    (∀ entry∈roster.nodes,entry.nodeNumber≠registration.nodeNumber) ∧
    ∃ info∈(analyzeGroup hubNodes roster registration.nodeNumber).1,info.state=.activated ∧
      Activates (invitations info.nodeNumber) node registration

/-- Pairing is offered although a dead roster is in the way. -/
def OfferedInVain : Prop := IsDeadRoster hubNodes roster ∧ 2≤hubNodes.length

instance : Decidable (OfferedInVain hubNodes roster) := inferInstanceAs (Decidable (_ ∧ _))

/-- A code is asked for although the node is revoked for good, or the roster is full. -/
def AskedInVain (myNodeNumber : Int32) : Prop :=
  (∃ n∈activatedSet roster,n∈hubNumbers hubNodes) ∧ myNodeNumber∉activatedSet roster ∧
    2≤(hubNodes.countP fun n => n.nodeNumber∉revokedSet roster) ∧
    (myNodeNumber∈revokedSet roster ∨ roster.version=Int64.maxValue)

instance (myNodeNumber : Int32) : Decidable (AskedInVain hubNodes roster myNodeNumber) :=
  inferInstanceAs (Decidable (_ ∧ _))

/-- Every other listed node has an honest invitation for the node. -/
def Inviting : Prop :=
  ∀ issuer∈hubNumbers hubNodes,issuer≠registration.nodeNumber →
    (invitations issuer).Honest node registration roster issuer

variable {hubNodes roster node registration invitations}

/-- In a list of at least two distinct numbers there is another one. -/
theorem exists_other (hdistinct : (hubNodes.map HubNode.nodeNumber).Nodup)
    (htwo : 2≤hubNodes.length) (nodeNumber : Int32) :
    ∃ hubNode∈hubNodes,hubNode.nodeNumber≠nodeNumber := by
  by_contra hnone
  have hall : ∀ hubNode∈hubNodes,hubNode.nodeNumber=nodeNumber :=
    fun hubNode hm => not_not.mp fun hne => hnone ⟨hubNode,hm,hne⟩
  have hsame : hubNodes.map HubNode.nodeNumber=List.replicate hubNodes.length nodeNumber := by
    refine List.eq_replicate_iff.mpr ⟨List.length_map _,fun n hn => ?_⟩
    obtain ⟨hubNode,hm,rfl⟩ := List.mem_map.mp hn
    exact hall hubNode hm
  rw [hsame,List.nodup_replicate] at hdistinct
  omega

/-- An honestly built roster is dead when no active member is listed. -/
theorem isDeadRoster_iff (hbuilt : HonestlyBuilt C roster) :
    IsDeadRoster hubNodes roster ↔ ¬∃ n∈activatedSet roster,n∈hubNumbers hubNodes := by
  have hpos := pos_iff_toInt.mpr (accepted_version_pos hbuilt)
  exact ⟨fun h => h.2,fun h => ⟨hpos,h⟩⟩

/-- On the empty roster the group state can be acted on. -/
theorem actionable_default (hnode : node.inner=.registered registration)
    (hkey : KeyWorks C node.signingKey)
    (hinvite : Inviting hubNodes Roster.default node registration invitations) :
    Actionable hubNodes Roster.default node registration invitations := by
  constructor
  · intro _ hubNode hm hother
    have honest := hinvite _ (mem_hubNumbers.mpr ⟨hubNode,hm,rfl⟩) hother
    exact honest.activates hnode hkey (.founding rfl hother)
  · intro hstate
    exact absurd rfl (analyzeGroup_needActivation_iff.mp hstate).2.1

/-- With a dead roster the offer to pair with any listed node fails. -/
theorem not_actionable_of_dead (hnode : node.inner=.registered registration)
    (hdistinct : (hubNodes.map HubNode.nodeNumber).Nodup)
    (hbuilt : HonestlyBuilt C roster)
    (hinvite : Inviting hubNodes roster node registration invitations)
    (hvain : OfferedInVain hubNodes roster) :
    ¬Actionable hubNodes roster node registration invitations := by
  intro h
  obtain ⟨hdead,htwo⟩ := hvain
  have hcompany : 2≤company hubNodes roster := by
    rw [company_dead hdead]
    exact htwo
  have hstate := (@analyzeGroup_bootstrap_iff _ _ registration.nodeNumber).mpr
    ⟨hcompany,.inr hdead⟩
  obtain ⟨hubNode,hm,hother⟩ := exists_other hdistinct htwo registration.nodeNumber
  have hlisted := mem_hubNumbers.mpr ⟨hubNode,hm,rfl⟩
  have hactive := (hinvite _ hlisted hother).activates_only hnode hbuilt
    (h.bootstrap hstate hubNode hm hother)
  exact hdead.2 ⟨_,hactive.1,hlisted⟩

/-- A node that is asked for a code is inactive in a live roster. -/
theorem needActivation_of_asked (hbuilt : HonestlyBuilt C roster)
    (halive : ∃ n∈activatedSet roster,n∈hubNumbers hubNodes)
    (hself : registration.nodeNumber∉activatedSet roster)
    (htwo : 2≤hubNodes.countP fun n => n.nodeNumber∉revokedSet roster) :
    (analyzeGroup hubNodes roster registration.nodeNumber).2=.needActivation := by
  have hlive : ¬IsDeadRoster hubNodes roster := fun hdead => hdead.2 halive
  obtain ⟨n,hn,_⟩ := halive
  refine analyzeGroup_needActivation_iff.mpr ⟨?_,Finset.ne_empty_of_mem hn,hlive,hself⟩
  rw [company_live hbuilt.invariant hlive]
  exact htwo

/-- A node that is asked for a code in vain cannot activate. -/
theorem not_actionable_of_asked (hnode : node.inner=.registered registration)
    (hbuilt : HonestlyBuilt C roster)
    (hinvite : Inviting hubNodes roster node registration invitations)
    (hvain : AskedInVain hubNodes roster registration.nodeNumber) :
    ¬Actionable hubNodes roster node registration invitations := by
  intro h
  obtain ⟨halive,hself,htwo,hreason⟩ := hvain
  obtain ⟨habsent,info,hinfo,hactivated,hactivates⟩ :=
    h.needActivation (needActivation_of_asked hbuilt halive hself htwo)
  obtain ⟨hubNode,hm,rfl⟩ := mem_analyzeGroup_nodes.mp hinfo
  have hissuer := (reportedState_activated.mp hactivated).2
  have hother : hubNode.nodeNumber≠registration.nodeNumber :=
    fun he => hself (he ▸ hissuer)
  have honest := hinvite _ (mem_hubNumbers.mpr ⟨hubNode,hm,rfl⟩) hother
  rcases hreason with hrevoked|hfull
  · exact (absent_iff.mp habsent).2 hrevoked
  · exact (honest.activates_only hnode hbuilt hactivates).2 hfull

/-- Otherwise the group state can be acted on. -/
theorem actionable_of_not_vain (hnode : node.inner=.registered registration)
    (hkey : KeyWorks C node.signingKey) (hbuilt : HonestlyBuilt C roster)
    (hinvite : Inviting hubNodes roster node registration invitations)
    (hoffered : ¬OfferedInVain hubNodes roster)
    (hasked : ¬AskedInVain hubNodes roster registration.nodeNumber) :
    Actionable hubNodes roster node registration invitations := by
  constructor
  · intro hstate
    obtain ⟨hcompany,hunusable⟩ := analyzeGroup_bootstrap_iff.mp hstate
    have hdead : IsDeadRoster hubNodes roster := by
      rcases hunusable with hempty|hdead
      · refine (isDeadRoster_iff hbuilt).mpr ?_
        rw [hempty]
        simp
      · exact hdead
    rw [company_dead hdead] at hcompany
    exact absurd ⟨hdead,hcompany⟩ hoffered
  · intro hstate
    obtain ⟨hcompany,_,hlive,hself⟩ := analyzeGroup_needActivation_iff.mp hstate
    rw [company_live hbuilt.invariant hlive] at hcompany
    have halive := not_not.mp (mt (isDeadRoster_iff hbuilt).mpr hlive)
    have husable := fun hreason => hasked ⟨halive,hself,hcompany,hreason⟩
    have habsent := absent_iff.mpr ⟨hself,fun hrevoked => husable (.inl hrevoked)⟩
    obtain ⟨issuer,hissuer,hlisted⟩ := halive
    obtain ⟨hubNode,hm,rfl⟩ := mem_hubNumbers.mp hlisted
    have hother : hubNode.nodeNumber≠registration.nodeNumber :=
      fun he => hself (he ▸ hissuer)
    have honest := hinvite _ hlisted hother
    have hjoin : Joinable C roster registration.nodeNumber hubNode.nodeNumber
        (C.verifyingKey (invitations hubNode.nodeNumber).signingKey) :=
      .extending hbuilt (fun hfull => husable (.inr hfull)) habsent (honest.active hissuer)
    exact ⟨habsent,_,mem_analyzeGroup_nodes.mpr ⟨hubNode,hm,rfl⟩,
      reportedState_activated.mpr ⟨hlive,hissuer⟩,honest.activates hnode hkey hjoin⟩

end Actions

/-- The group state can be acted on exactly when pairing is not offered over a
dead roster and no code is asked of a revoked node or over a full roster. -/
theorem groupState_actionable_iff (C : Crypto) (hubNodes : List HubNode) (roster : Roster)
    (node : Node C) (registration : NodeRegistration) (invitations : Int32→Invitation C)
    (hnode : node.inner=.registered registration) (hkey : KeyWorks C node.signingKey)
    (hdistinct : (hubNodes.map HubNode.nodeNumber).Nodup)
    (hroster : roster=Roster.default ∨ HonestlyBuilt C roster)
    (hinvite : Inviting hubNodes roster node registration invitations) :
    Actionable hubNodes roster node registration invitations ↔
      ¬OfferedInVain hubNodes roster ∧ ¬AskedInVain hubNodes roster registration.nodeNumber := by
  rcases hroster with rfl|hbuilt
  · refine iff_of_true (actionable_default hnode hkey hinvite) ⟨?_,?_⟩
    · rintro ⟨⟨hpos,_⟩,_⟩
      exact absurd hpos (by decide)
    · rintro ⟨⟨n,hn,_⟩,_⟩
      obtain ⟨_,hm,_⟩ := mem_activatedSet.mp hn
      cases hm
  · constructor
    · intro h
      exact ⟨fun hvain => not_actionable_of_dead hnode hdistinct hbuilt hinvite hvain h,
        fun hvain => not_actionable_of_asked hnode hbuilt hinvite hvain h⟩
    · rintro ⟨hoffered,hasked⟩
      exact actionable_of_not_vain hnode hkey hbuilt hinvite hoffered hasked

/-- A hub that relays between a node and the issuer of a code. -/
def cooperatingHub (C : Crypto) (roster : Roster) (issuer : Int32) (signingKey : C.SigningKey)
    (pairing : EndorsingState) (now : ℕ) (ourNonce : Bytes) (cosigning : EndorsingState) : Hub where
  connect := .ok ()
  completeRegistration := fun _ => .error .metadata
  deregisterNode := fun _ => .error .metadata
  pairNodes := fun _ message =>
    (pairing.pairNodes C message issuer signingKey now ourNonce).2.mapError
      (.rpc .failedPrecondition)
  getUnverifiedRoster := fun _ => .ok roster
  updateRoster := fun registration newRoster =>
    match (cosigning.rosterCosign C ⟨registration.nodeNumber.toInt64,some newRoster⟩ issuer
        signingKey).2 with
    | .ok response =>
      match (setEndorserSignature newRoster response.endorserSignature : Outcome Empty Roster) with
      | .ok signed => .ok (some signed)
      | _ => .error (.rpc .internal "")
    | _ => .error (.rpc .failedPrecondition "")

/-- The endorsing state of a node that issued one code. -/
def issuingState : EndorsingState := ⟨none,[⟨firstSecret,120⟩],∅⟩

/-- The state it is left in by the second node's request. -/
def pairedState (issuer : Int32) (key : UInt8) : EndorsingState :=
  (issuingState.pairNodes symbolicCrypto
    (pairingRequest symbolicCrypto secondNode.signingKey 2 ⟨issuer,firstSecret⟩ [21]) issuer key 0
    [11]).1

/-- An invitation of the second node by a node with the given number and key. -/
def symbolicInvitation (roster : Roster) (issuer : Int32) (key : UInt8) (code : Bytes) :
    Invitation symbolicCrypto where
  code := code
  secret := firstSecret
  nonce := [21]
  signingKey := key
  pairing := issuingState
  now := 0
  ourNonce := [11]
  cosigning := pairedState issuer key
  hub := cooperatingHub symbolicCrypto roster issuer key issuingState 0 [11]
    (pairedState issuer key)

/-- Every symbolic key works. -/
theorem symbolicCrypto_keyWorks (key : UInt8) : KeyWorks symbolicCrypto key :=
  ⟨rfl,fun _ => symbolicCrypto_verify_iff.mpr rfl⟩

/-- A symbolic invitation with a code of its issuer is honest. -/
theorem symbolicInvitation_honest {roster : Roster} {issuer : Int32} {key : UInt8} {code : Bytes}
    (hparse : PairingCode.parse code=.ok ⟨issuer,firstSecret⟩)
    (hlisted : ∀ entry∈roster.nodes,entry.nodeNumber=issuer → entry.revoked=false →
      entry.publicKeySpki=symbolicSpki key) :
    (symbolicInvitation roster issuer key code).Honest secondNode secondRegistration roster
      issuer := by
  have hsecrets : (issuingState.pruneExpired 0).pairingSecrets=[⟨firstSecret,120⟩] := by
    decide
  refine ⟨hparse,symbolicCrypto_keyWorks key,hlisted,?_,?_,rfl,rfl,?_,rfl,?_⟩
  · exact ⟨_,hsecrets ▸ List.mem_singleton_self _,rfl⟩
  · intro ts hts _ _ _
    rw [symbolicInvitation,hsecrets] at hts
    rw [List.mem_singleton.mp hts]
    rfl
  · intro message hanswer
    exact congrArg (Except.mapError (HubError.rpc .failedPrecondition)) hanswer
  · intro newRoster response signed hresponse hsigned
    have hcosign : ((pairedState issuer key).rosterCosign symbolicCrypto
        ⟨secondRegistration.nodeNumber.toInt64,some newRoster⟩ issuer key).2=.ok response :=
      hresponse
    simp only [symbolicInvitation,cooperatingHub,hcosign,hsigned]

/-- A node as the hub lists it. -/
def listedNode (nodeNumber : Int32) : HubNode := ⟨nodeNumber,"","",0,true⟩

/-- Of the first two nodes the other one invites the second. -/
theorem symbolicPair_inviting {roster : Roster}
    (hlisted : ∀ entry∈roster.nodes,entry.nodeNumber=1 → entry.revoked=false →
      entry.publicKeySpki=symbolicSpki 1) :
    Inviting [listedNode 1,listedNode 2] roster secondNode secondRegistration
      fun _ => symbolicInvitation roster 1 (1 : UInt8) firstCode := by
  intro issuer hissuer hother
  have hone : issuer=1 := by
    obtain ⟨hubNode,hm,rfl⟩ := mem_hubNumbers.mp hissuer
    rcases List.mem_cons.mp hm with rfl|hm
    · rfl
    · obtain rfl := List.mem_singleton.mp hm
      exact absurd rfl hother
  subst hone
  exact symbolicInvitation_honest (by decide +kernel) hlisted

/-- The first two nodes with an empty roster: the second activates through the first one's code. -/
theorem groupState_actionable_pair :
    Actionable [listedNode 1,listedNode 2] Roster.default secondNode secondRegistration
      fun _ => symbolicInvitation Roster.default 1 (1 : UInt8) firstCode := by
  refine (groupState_actionable_iff symbolicCrypto [listedNode 1,listedNode 2] Roster.default
    secondNode secondRegistration _ rfl (symbolicCrypto_keyWorks 2) (by decide) (.inl rfl)
    (symbolicPair_inviting fun _ hm => absurd hm List.not_mem_nil)).mpr (by decide)

/-- A group of two nodes that the hub no longer lists. -/
def deadRoster : Roster := symbolicFounding ⟨1,6,5,[61],[51]⟩ 6 5

/-- A roster that some node accepts is honestly built. -/
theorem honestlyBuilt_of_isOk {roster : Roster} (nodeNumber : Int32) (spki : Bytes)
    (h : (verifyRoster symbolicCrypto roster nodeNumber spki).isOk=true) :
    HonestlyBuilt symbolicCrypto roster := by
  obtain ⟨keys,hkeys⟩ := Outcome.isOk_iff.mp h
  obtain ⟨_,_,hbuilt,_⟩ := verifyRoster_eq_ok.mp hkeys
  exact hbuilt

/-- A code issued by node 3. -/
def thirdCode : Bytes := literalBytes "3-00000000001"

/-- Two newly registered nodes are told to pair with each other and cannot, and
a revoked node is told to get a code and cannot use one. -/
theorem groupState_not_actionable :
    (∃ hubNodes roster invitations,(hubNodes.map HubNode.nodeNumber).Nodup ∧
      (2 : Int32)∈hubNumbers hubNodes ∧ HonestlyBuilt symbolicCrypto roster ∧
      Inviting hubNodes roster secondNode secondRegistration invitations ∧
      (analyzeGroup hubNodes roster 2).2=.bootstrap ∧
      ¬Actionable hubNodes roster secondNode secondRegistration invitations) ∧
    ∃ hubNodes roster invitations,(hubNodes.map HubNode.nodeNumber).Nodup ∧
      (2 : Int32)∈hubNumbers hubNodes ∧ HonestlyBuilt symbolicCrypto roster ∧
      Inviting hubNodes roster secondNode secondRegistration invitations ∧
      (analyzeGroup hubNodes roster 2).2=.needActivation ∧
      ¬Actionable hubNodes roster secondNode secondRegistration invitations := by
  have hdead : HonestlyBuilt symbolicCrypto deadRoster :=
    honestlyBuilt_of_isOk 5 (symbolicSpki 5) (by decide +kernel)
  have hreduced : HonestlyBuilt symbolicCrypto reducedRoster :=
    honestlyBuilt_of_isOk 1 (symbolicSpki 1) (by decide +kernel)
  constructor
  · have hinvite := @symbolicPair_inviting deadRoster (by decide)
    exact ⟨_,_,_,by decide,by decide,hdead,hinvite,by decide,
      not_actionable_of_dead rfl (by decide) hdead hinvite (by decide)⟩
  · have hinvite : Inviting [listedNode 1,listedNode 2,listedNode 3] reducedRoster secondNode
        secondRegistration fun issuer =>
          if issuer=1 then symbolicInvitation reducedRoster 1 (1 : UInt8) firstCode
          else symbolicInvitation reducedRoster 3 (3 : UInt8) thirdCode := by
      intro issuer hissuer hother
      have heither : issuer=1 ∨ issuer=3 := by
        obtain ⟨hubNode,hm,rfl⟩ := mem_hubNumbers.mp hissuer
        rcases List.mem_cons.mp hm with rfl|hm
        · exact .inl rfl
        · rcases List.mem_cons.mp hm with rfl|hm
          · exact absurd rfl hother
          · obtain rfl := List.mem_singleton.mp hm
            exact .inr rfl
      rcases heither with rfl|rfl
      · exact symbolicInvitation_honest (by decide +kernel) (by decide)
      · exact symbolicInvitation_honest (by decide +kernel) (by decide)
    exact ⟨_,_,_,by decide,by decide,hreduced,hinvite,by decide,
      not_actionable_of_asked rfl hreduced hinvite (by decide)⟩

end WispersConnect.GroupInvitations
