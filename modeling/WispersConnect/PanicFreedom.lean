import WispersConnect.ActivationSteps

/-!
# Which messages can make the roster code panic

Every assertion of the roster code has its precondition established by the code
that reaches it, whatever the hub delivers, with one exception: activation
verifies the hub's roster with the public key from the endorser's reply, and
that key need not decode.
-/

namespace WispersConnect.PanicFreedom

open Messages OutcomeMonad Cryptography FirstMatch MachineIntegers PairingCodes
open RosterBuilders RosterVerification RosterChain RosterReplay
open NodeLifecycle Endorsing ActivationSteps SymbolicCrypto

section Verification

variable {C : Crypto}

/-- Decoding a listed key returns a key or an error. -/
theorem decodeNodeKey_noPanic (nodeNumber : Int32) (spki : Bytes) :
    (decodeNodeKey C nodeNumber spki).NoPanic :=
  Outcome.noPanic_mapErr.mpr (Outcome.noPanic_ofExcept _)

/-- A signature check returns normally or with an error. -/
theorem checkSignature_noPanic (key : C.VerifyingKey) (hash signature : Bytes)
    (e : RosterVerificationError) :
    ((verifySignature C key hash signature).mapErr fun () => e).NoPanic :=
  Outcome.noPanic_mapErr.mpr (verifySignature_noPanic C key hash signature)

/-- Hashing, checking and signing a freshly appended activation does not panic. -/
theorem signedActivation_noPanic (version : Int64) (nodes : List RosterNode)
    (addenda : List Addendum) (payload : ActivationPayload) (activation : Activation)
    (newKey endorserKey : C.VerifyingKey) (keys : Keys C) :
    Outcome.NoPanic (do
      let signingHash ← computeSigningHash C ⟨version,nodes,addenda++[unsignedActivation payload]⟩
      (verifySignature C newKey signingHash activation.newNodeSignature).mapErr
        fun () => RosterVerificationError.invalidNewNodeSignature version
      (verifySignature C endorserKey signingHash activation.endorserSignature).mapErr
        fun () => .invalidEndorserSignature version
      let workingRoster ← setNewNodeSignature
        ⟨version,nodes,addenda++[unsignedActivation payload]⟩ activation.newNodeSignature
      let workingRoster ← setEndorserSignature workingRoster activation.endorserSignature
      pure (workingRoster,keys)) := by
  rw [computeSigningHash_unsignedActivation,Outcome.ok_bind]
  refine (checkSignature_noPanic _ _ _ _).bind fun _ _ => ?_
  refine (checkSignature_noPanic _ _ _ _).bind fun _ _ => ?_
  rw [unsignedActivation,setNewNodeSignature_activation,Outcome.ok_bind,
    setEndorserSignature_activation,Outcome.ok_bind]
  exact Outcome.noPanic_ok _

/-- Replaying an activation never panics. -/
theorem applyAndVerifyActivation_noPanic (inputRoster : Roster) (activation : Activation)
    (expectedVersion : Int64) (workingRoster : Roster) (keys : Keys C) :
    (applyAndVerifyActivation C inputRoster activation expectedVersion workingRoster keys).NoPanic := by
  unfold applyAndVerifyActivation
  refine (Outcome.noPanic_okOr _ _).bind fun payload _ => ?_
  refine (Outcome.noPanic_reject _ _).bind fun _ _ => ?_
  refine (Outcome.noPanic_reject _ _).bind fun _ _ => ?_
  refine (Outcome.noPanic_reject _ _).bind fun _ _ => ?_
  refine (Outcome.noPanic_okOr _ _).bind fun newNode _ => ?_
  refine (decodeNodeKey_noPanic _ _).bind fun newKey _ => ?_
  by_cases hfirst : expectedVersion=1
  · simp only [if_pos hfirst]
    cases hendorser : findNode inputRoster.nodes payload.endorserNodeNumber with
    | none => exact Outcome.noPanic_err _
    | some endorserNode =>
      simp only [Outcome.okOr,Outcome.expect,Outcome.ok_bind,Outcome.pure_eq_ok]
      refine (decodeNodeKey_noPanic _ _).bind fun endorserKey _ => ?_
      exact signedActivation_noPanic _ _ _ _ _ _ _ _
  · simp only [if_neg hfirst]
    refine (Outcome.noPanic_okOr _ _).bind fun endorserKey _ => ?_
    exact signedActivation_noPanic _ _ _ _ _ _ _ _

/-- Replaying a revocation never panics. -/
theorem applyAndVerifyRevocation_noPanic (revocation : Revocation) (expectedVersion : Int64)
    (workingRoster : Roster) (keys : Keys C) :
    (applyAndVerifyRevocation C revocation expectedVersion workingRoster keys).NoPanic := by
  unfold applyAndVerifyRevocation
  refine (Outcome.noPanic_okOr _ _).bind fun payload _ => ?_
  refine (Outcome.noPanic_reject _ _).bind fun _ _ => ?_
  refine (Outcome.noPanic_okOr _ _).bind fun revokerKey _ => ?_
  refine (Outcome.noPanic_reject _ _).bind fun _ _ => ?_
  dsimp only
  rw [computeSigningHash_unsignedRevocation,Outcome.ok_bind]
  refine (checkSignature_noPanic _ _ _ _).bind fun _ _ => ?_
  rw [unsignedRevocation,setRevokerSignature_revocation,Outcome.ok_bind]
  exact Outcome.noPanic_ok _

/-- The walk never panics, whatever the addenda are. -/
theorem walkAddenda_noPanic (inputRoster : Roster) (index : ℕ) (addenda : List Addendum)
    (workingRoster : Roster) (keys : Keys C) :
    (walkAddenda C inputRoster index addenda workingRoster keys).NoPanic := by
  induction addenda generalizing index workingRoster keys with
  | nil => exact Outcome.noPanic_ok _
  | cons addendum addenda ih =>
    rw [walkAddenda]
    refine Outcome.NoPanic.bind ?_ fun state _ => ih _ _ _
    rcases addendum with ⟨_|⟨activation|revocation⟩⟩
    · exact Outcome.noPanic_err _
    · exact applyAndVerifyActivation_noPanic _ _ _ _ _
    · exact applyAndVerifyRevocation_noPanic _ _ _ _

/-- Verification panics exactly when the verifier's own key does not decode. -/
theorem verifyRoster_noPanic_iff (roster : Roster) (verifierNodeNumber : Int32) (spki : Bytes) :
    (verifyRoster C roster verifierNodeNumber spki).NoPanic ↔
      ∃ key,C.fromPublicKeyDer spki=.ok key := by
  unfold verifyRoster
  cases hspki : C.fromPublicKeyDer spki with
  | error reason => simp [Except.toOption,Outcome.expect]
  | ok key =>
    simp only [Except.toOption,Outcome.expect,Outcome.ok_bind,Except.ok.injEq,exists_eq',iff_true]
    have hstructure : (verifyRosterStructure roster).NoPanic :=
      (Outcome.noPanic_reject _ _).bind fun _ _ => Outcome.noPanic_reject _ _
    refine hstructure.bind fun _ _ => ?_
    refine (walkAddenda_noPanic _ _ _ _ _).bind fun state _ => ?_
    refine (Outcome.noPanic_reject _ _).bind fun _ _ => ?_
    unfold checkVerifierAnchor
    split
    · split <;> simp
    · split <;> simp

/-- A node's own key always decodes, so verification with it never panics. -/
theorem verifyRoster_own_noPanic (hround : C.SpkiRoundTrip) (roster : Roster)
    (verifierNodeNumber : Int32) (signingKey : C.SigningKey) :
    (verifyRoster C roster verifierNodeNumber (C.publicKeySpki signingKey)).NoPanic :=
  (verifyRoster_noPanic_iff _ _ _).mpr ⟨_,hround signingKey⟩

end Verification

/-- A reply of the hub is a value or an error. -/
theorem hubReply_noPanic {α : Type} (reply : Except HubError α) : (hubReply reply).NoPanic :=
  Outcome.noPanic_mapErr.mpr (Outcome.noPanic_ofExcept _)

/-- Co-signing never panics: a refused request returns an error, and the hashed
roster has its latest signatures cleared. -/
theorem rosterCosign_noPanic (C : Crypto) (state : EndorsingState) (req : RosterCosignRequest)
    (nodeNumber : Int32) (signingKey : C.SigningKey) :
    (state.rosterCosign C req nodeNumber signingKey).2.NoPanic := by
  rcases rosterCosign_cases C state req nodeNumber signingKey with ⟨e,h⟩|⟨_,_,_,_,h⟩
  · rw [h]
    exact Outcome.noPanic_err e
  · rw [h]
    exact Outcome.noPanic_ok _

/-- Refreshing never panics. -/
theorem refreshMembership_noPanic {C : Crypto} (hround : C.SpkiRoundTrip) (node : Node C)
    (hub : Hub) : (node.refreshMembership hub).NoPanic := by
  unfold Node.refreshMembership
  split
  · exact Outcome.noPanic_ok _
  · next registration _ =>
    refine (hubReply_noPanic _).bind fun _ _ => ?_
    refine (hubReply_noPanic _).bind fun roster _ => ?_
    split
    · have hno := verifyRoster_own_noPanic hround roster registration.nodeNumber node.signingKey
      split
      · exact Outcome.noPanic_ok _
      · exact Outcome.noPanic_ok _
      · exact Outcome.noPanic_err _
      · next m hm => exact absurd hm (hno m)
    · exact Outcome.noPanic_ok _

/-- Looking up a peer never panics when the node's own key decodes. -/
theorem findPeerInRoster_noPanic {C : Crypto} {node : Node C}
    (hspki : ∃ key,C.fromPublicKeyDer (C.publicKeySpki node.signingKey)=.ok key)
    (peerNodeNumber : Int32) (hub : Hub) : (node.findPeerInRoster peerNodeNumber hub).NoPanic := by
  unfold Node.findPeerInRoster
  split
  · next registration roster _ =>
    split
    · exact Outcome.noPanic_ok _
    · have hno : (hub.getAndVerifyRoster C registration
          (C.publicKeySpki node.signingKey)).NoPanic := by
        refine (Outcome.noPanic_ofExcept _).bind fun fetched _ => ?_
        refine (Outcome.noPanic_mapErr.mpr ((verifyRoster_noPanic_iff _ _ _).mpr hspki)).bind
          fun _ _ => ?_
        exact Outcome.noPanic_ok _
      split
      · exact (Outcome.noPanic_okOr _ _).bind fun _ _ => Outcome.noPanic_ok _
      · exact Outcome.noPanic_err _
      · exact Outcome.noPanic_err _
      · next m hm => exact absurd hm (hno m)
  · exact Outcome.noPanic_err _

section Activation

variable {C : Crypto}

/-- Drafting panics exactly when a roster of positive version is to be verified
with an undecodable key, as long as its addenda fit in memory. -/
theorem draftRoster_noPanic_iff {signingKey : C.SigningKey} {nodeNumber endorserNodeNumber : Int32}
    {nonce : Bytes} {response : PairNodesPayload} {currentRoster : Roster}
    (hfits : currentRoster.addenda.length<2^63-1) :
    (draftRoster C signingKey nodeNumber endorserNodeNumber nonce response currentRoster).NoPanic ↔
      ¬(0<currentRoster.version ∧ ∀ key,C.fromPublicKeyDer response.publicKeySpki≠.ok key) := by
  have hguard : (checkBaseRoster C endorserNodeNumber response currentRoster).NoPanic ↔
      ¬(0<currentRoster.version ∧ ∀ key,C.fromPublicKeyDer response.publicKeySpki≠.ok key) := by
    unfold checkBaseRoster
    by_cases hpos : 0<currentRoster.version
    · rw [if_pos hpos]
      have hverify := @verifyRoster_noPanic_iff C currentRoster endorserNodeNumber
        response.publicKeySpki
      constructor
      · rintro hno ⟨_,hkey⟩
        have hpanics : ¬(verifyRoster C currentRoster endorserNodeNumber
            response.publicKeySpki).NoPanic := fun h => by
          obtain ⟨key,hk⟩ := hverify.mp h
          exact hkey key hk
        refine hpanics fun m hm => hno m ?_
        rw [verifyRosterForNode,hm]
        rfl
      · intro hdecodes
        have hkey : ∃ key,C.fromPublicKeyDer response.publicKeySpki=.ok key := by
          by_contra hnone
          exact hdecodes ⟨hpos,fun key hk => hnone ⟨key,hk⟩⟩
        have hno := hverify.mpr hkey
        exact (Outcome.noPanic_mapErr.mpr hno).bind fun _ _ => Outcome.noPanic_ok _
    · rw [if_neg hpos]
      simp [hpos]
  rw [←hguard]
  unfold draftRoster
  constructor
  · intro hno m hm
    refine hno m ?_
    rw [hm]
    rfl
  · intro hno
    refine hno.bind fun _ hchecked => ?_
    have hmax : currentRoster.version≠Int64.maxValue := by
      intro hmax
      have hpos : 0<currentRoster.version := by
        rw [hmax]
        decide
      rw [checkBaseRoster,if_pos hpos,verifyRosterForNode] at hchecked
      simp only [Outcome.bind_eq_ok,Outcome.mapErr_eq_ok] at hchecked
      obtain ⟨keys,hkeys,_⟩ := hchecked
      obtain ⟨_,_,hbuilt,_,_⟩ := verifyRoster_eq_ok.mp hkeys
      have inv := hbuilt.invariant
      have hvalue := congrArg Int64.toInt (inv.version.symm.trans hmax)
      rw [asI64_toInt inv.short,Int64.toInt_maxValue] at hvalue
      omega
    rw [draft_build hmax]
    exact Outcome.noPanic_ok _

/-- Completing a drafted activation never panics. -/
theorem completeActivation_noPanic (hround : C.SpkiRoundTrip) {node : Node C}
    {activationCode nonce : Bytes} {hub : Hub} {draft : ActivationDraft}
    (facts : DraftFacts node activationCode nonce hub draft) :
    (node.completeActivation draft hub).NoPanic := by
  obtain ⟨_,_,hnew⟩ := draftRoster_eq_ok.mp facts.drafted
  obtain ⟨version,nodes,addenda,payload,hform⟩ : ∃ version nodes addenda payload,
      draft.newRoster=⟨version,nodes,addenda++[unsignedActivation payload]⟩ := by
    rw [hnew,draftState]
    split
    · exact ⟨_,_,[],_,rfl⟩
    · exact ⟨_,_,_,_,rfl⟩
  unfold Node.completeActivation
  rw [hform,computeSigningHash_unsignedActivation,Outcome.ok_bind,unsignedActivation,
    setNewNodeSignature_activation,Outcome.ok_bind]
  refine (hubReply_noPanic _).bind fun cosignedRoster _ => ?_
  refine (Outcome.noPanic_mapErr.mpr (verifyRoster_own_noPanic hround _ _ _)).bind fun _ _ => ?_
  exact Outcome.noPanic_ok _

/-- The endorser's reply passes every check, the hub's roster has a positive
version, and the key in the reply does not decode. -/
def UndecodableEndorserKey (node : Node C) (activationCode nonce : Bytes) (hub : Hub) : Prop :=
  ∃ registration code message response currentRoster,
    node.inner=.registered registration ∧ PairingCode.parse activationCode=.ok code ∧
    hub.connect=.ok () ∧
    hub.pairNodes registration
      (pairingRequest C node.signingKey registration.nodeNumber code nonce)=.ok message ∧
    message.payload=some response ∧
    code.secret.verifyMac C (C.encodePairNodesPayload response) message.mac=true ∧
    response.receiverNodeNumber=registration.nodeNumber ∧ response.replyNonce=nonce ∧
    hub.getUnverifiedRoster registration=.ok currentRoster ∧ 0<currentRoster.version ∧
    ∀ key,C.fromPublicKeyDer response.publicKeySpki≠.ok key

/-- Activation panics exactly on an undecodable endorser key. -/
theorem activate_noPanic_iff (hround : C.SpkiRoundTrip) (node : Node C)
    (activationCode nonce : Bytes) (hub : Hub)
    (hfits : ∀ registration roster,hub.getUnverifiedRoster registration=.ok roster →
      roster.addenda.length<2^63-1) :
    (node.activate activationCode nonce hub).NoPanic ↔
      ¬UndecodableEndorserKey node activationCode nonce hub := by
  constructor
  · rintro hno ⟨registration,code,message,response,current,hr,hcode,hconnect,hmessage,hpayload,hmac,
      hreceiver,hreply,hcurrent,hpos,hkey⟩
    have hresponse := checkPairingReply_eq_ok.mpr ⟨hpayload,hmac,hreceiver,hreply⟩
    have hdraft : ¬(draftRoster C node.signingKey registration.nodeNumber code.nodeNumber nonce
        response current).NoPanic := by
      rw [draftRoster_noPanic_iff (hfits _ _ hcurrent),not_not]
      exact ⟨hpos,hkey⟩
    refine hdraft fun m hm => hno m ?_
    simp only [Node.activate,Node.activateDraft,Node.requireRegistered,hr,hcode,hubReply,hconnect,
      hmessage,hcurrent,Outcome.ofExcept,Outcome.mapErr,Outcome.ok_bind,hresponse,hm,
      Outcome.panic_bind]
  · intro hdecodes
    unfold Node.activate
    refine Outcome.NoPanic.bind ?_ fun draft hdraft =>
      completeActivation_noPanic hround (activateDraft_eq_ok.mp hdraft)
    unfold Node.activateDraft
    refine Outcome.NoPanic.bind ?_ fun registration hr => ?_
    · unfold Node.requireRegistered
      split
      · exact Outcome.noPanic_ok _
      · exact Outcome.noPanic_err _
    have hregistered : node.inner=.registered registration := by
      unfold Node.requireRegistered at hr
      split at hr
      · next found hfound => rw [hfound,Outcome.ok.inj hr]
      · cases hr
    refine (Outcome.noPanic_mapErr.mpr (Outcome.noPanic_ofExcept _)).bind fun code hcode => ?_
    refine (hubReply_noPanic _).bind fun _ hconnect => ?_
    refine (hubReply_noPanic _).bind fun message hmessage => ?_
    refine Outcome.NoPanic.bind ?_ fun response hresponse => ?_
    · refine (Outcome.noPanic_okOr _ _).bind fun _ _ => ?_
      refine (Outcome.noPanic_reject _ _).bind fun _ _ => ?_
      refine (Outcome.noPanic_reject _ _).bind fun _ _ => ?_
      exact (Outcome.noPanic_reject _ _).bind fun _ _ => Outcome.noPanic_ok _
    refine (hubReply_noPanic _).bind fun current hcurrent => ?_
    refine Outcome.NoPanic.bind ?_ fun newRoster _ => Outcome.noPanic_ok _
    have hfetched := hubReply_eq_ok.mp hcurrent
    rw [draftRoster_noPanic_iff (hfits _ _ hfetched)]
    rintro ⟨hpos,hkey⟩
    obtain ⟨hpayload,hmac,hreceiver,hreply⟩ := checkPairingReply_eq_ok.mp hresponse
    rw [Outcome.mapErr_eq_ok,Outcome.ofExcept_eq_ok] at hcode
    exact hdecodes ⟨registration,code,message,response,current,hregistered,hcode,
      hubReply_eq_ok.mp hconnect,hubReply_eq_ok.mp hmessage,hpayload,hmac,hreceiver,hreply,
      hfetched,hpos,hkey⟩

end Activation

/-- Verification with a node's own key, co-signing, refreshing and looking up a
peer never panic; activation panics exactly on an undecodable endorser key. -/
theorem roster_code_noPanic_iff (C : Crypto) (hround : C.SpkiRoundTrip) :
    (∀ (node : Node C) (activationCode nonce : Bytes) (hub : Hub),
      (∀ registration roster,hub.getUnverifiedRoster registration=.ok roster →
        roster.addenda.length<2^63-1) →
      ((node.activate activationCode nonce hub).NoPanic ↔
        ¬UndecodableEndorserKey node activationCode nonce hub)) ∧
    (∀ (roster : Roster) (verifierNodeNumber : Int32) (spki : Bytes),
      (verifyRoster C roster verifierNodeNumber spki).NoPanic ↔
        ∃ key,C.fromPublicKeyDer spki=.ok key) ∧
    (∀ (roster : Roster) (verifierNodeNumber : Int32) (signingKey : C.SigningKey),
      (verifyRoster C roster verifierNodeNumber (C.publicKeySpki signingKey)).NoPanic) ∧
    (∀ (state : EndorsingState) (req : RosterCosignRequest) (nodeNumber : Int32)
      (signingKey : C.SigningKey),(state.rosterCosign C req nodeNumber signingKey).2.NoPanic) ∧
    (∀ (node : Node C) (hub : Hub),(node.refreshMembership hub).NoPanic) ∧
    (∀ (node : Node C) (peerNodeNumber : Int32) (hub : Hub),
      (node.findPeerInRoster peerNodeNumber hub).NoPanic) :=
  ⟨activate_noPanic_iff hround,verifyRoster_noPanic_iff,verifyRoster_own_noPanic hround,
    rosterCosign_noPanic C,refreshMembership_noPanic hround,fun node => findPeerInRoster_noPanic ⟨_,hround node.signingKey⟩⟩

/-- A founding activation with a decodable endorser key does not panic. -/
theorem roster_code_noPanic_founding :
    (secondNode.activate firstCode [21] (relayingHub Roster.default none)).NoPanic := by
  have hall := (roster_code_noPanic_iff symbolicCrypto symbolicCrypto_spkiRoundTrip).1 secondNode
    firstCode [21] (relayingHub Roster.default none)
  refine (hall ?_).mpr ?_
  · intro registration roster h
    obtain rfl := Except.ok.inj h
    decide
  · rintro ⟨_,_,_,_,_,_,_,_,_,_,_,_,_,hcurrent,hpos,_⟩
    obtain rfl := Except.ok.inj hcurrent
    exact absurd hpos (by decide)

/-- A hub and an endorser in league: the reply authenticates an empty key. -/
def malformedKeyHub : Hub where
  connect := .ok ()
  completeRegistration := fun _ => .ok secondRegistration
  deregisterNode := fun _ => .ok ()
  pairNodes := fun _ message =>
    match message.payload with
    | some payload =>
      let reply : PairNodesPayload := ⟨1,payload.senderNodeNumber,[],[11],payload.nonce⟩
      .ok ⟨some reply,firstSecret.computeMac symbolicCrypto
        (symbolicCrypto.encodePairNodesPayload reply)⟩
    | none => .error .connection
  getUnverifiedRoster := fun _ => .ok pairRoster
  updateRoster := fun _ _ => .ok none

/-- An authenticated reply with an empty key makes activation panic. -/
theorem activate_malformed_key_panics :
    secondNode.activate firstCode [21] malformedKeyHub=
      .panic "verifier_public_key_spki must be valid SPKI-encoded Ed25519" := by
  have hdraft : secondNode.activateDraft firstCode [21] malformedKeyHub=
      .panic "verifier_public_key_spki must be valid SPKI-encoded Ed25519" := by decide +kernel
  rw [Node.activate,hdraft,Outcome.panic_bind]

end WispersConnect.PanicFreedom
