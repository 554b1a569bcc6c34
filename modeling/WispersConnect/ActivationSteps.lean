import WispersConnect.NodeLifecycle
import WispersConnect.RosterReplay
import WispersConnect.SymbolicCrypto

/-!
# What activation signs

The stages of `activate`, each with the facts that its success stands for. The
roster that is signed is a founding by two nodes or an extension of the hub's
roster; the extended roster was verified unless its version is negative.
-/

namespace WispersConnect.ActivationSteps

open Messages OutcomeMonad Cryptography FirstMatch MachineIntegers PairingCodes
open RosterBuilders RosterVerification RosterChain RosterReplay NodeLifecycle SymbolicCrypto

@[simp] theorem hubReply_eq_ok {α : Type} {reply : Except HubError α} {a : α} :
    hubReply reply=.ok a ↔ reply=.ok a := by
  simp [hubReply]

/-- The unsigned state that activation builds on the hub's roster. -/
def draftState (currentRoster : Roster) (payload : ActivationPayload)
    (selfSpki endorserSpki : Bytes) : Roster :=
  if currentRoster.version=0 then
    bootstrapState payload selfSpki endorserSpki (unsignedActivation payload)
  else activationState currentRoster payload selfSpki (unsignedActivation payload)

/-- The payload that activation puts on the hub's roster. -/
def draftPayload (currentRoster : Roster) (nodeNumber endorserNodeNumber : Int32)
    (nonce endorserNonce : Bytes) : ActivationPayload :=
  ⟨currentRoster.version+1,nodeNumber,endorserNodeNumber,nonce,endorserNonce⟩

/-- Building on a roster whose version can be incremented meets the builders' assertions. -/
theorem draft_build {ε : Type} {currentRoster : Roster}
    (hv : currentRoster.version≠Int64.maxValue) (nodeNumber endorserNodeNumber : Int32)
    (nonce endorserNonce selfSpki endorserSpki : Bytes) :
    (do let activationPayload ← buildActivationPayload currentRoster nodeNumber
          endorserNodeNumber nonce endorserNonce
        if currentRoster.version=0 then
          createBootstrapRoster activationPayload selfSpki endorserSpki
        else addActivationToRoster currentRoster activationPayload selfSpki : Outcome ε Roster)=
      .ok (draftState currentRoster
        (draftPayload currentRoster nodeNumber endorserNodeNumber nonce endorserNonce)
        selfSpki endorserSpki) := by
  have hone : (addOne currentRoster.version : Outcome ε Int64)=.ok (currentRoster.version+1) :=
    addOne_eq_ok.mpr ⟨hv,rfl⟩
  have hpayload : (buildActivationPayload currentRoster nodeNumber endorserNodeNumber nonce
      endorserNonce : Outcome ε ActivationPayload)=
      .ok (draftPayload currentRoster nodeNumber endorserNodeNumber nonce endorserNonce) := by
    simp only [buildActivationPayload,hone,Outcome.ok_bind,Outcome.pure_eq_ok,draftPayload]
  rw [hpayload,Outcome.ok_bind]
  by_cases h0 : currentRoster.version=0
  · have h1 : currentRoster.version+1=1 := by
      rw [h0]
      rfl
    rw [if_pos h0,createBootstrapRoster_eq h1,draftState,if_pos h0]
  · rw [if_neg h0,addActivationToRoster_eq hone,draftState,if_neg h0]

/-- Both kinds of draft have the version after the hub's. -/
theorem draftState_version {currentRoster : Roster} (hv : currentRoster.version≠Int64.maxValue)
    (nodeNumber endorserNodeNumber : Int32) (nonce endorserNonce selfSpki endorserSpki : Bytes) :
    (draftState currentRoster
      (draftPayload currentRoster nodeNumber endorserNodeNumber nonce endorserNonce)
      selfSpki endorserSpki).version.toInt=currentRoster.version.toInt+1 := by
  by_cases h0 : currentRoster.version=0
  · rw [draftState,if_pos h0,h0]
    rfl
  · rw [draftState,if_neg h0]
    exact addOne_toInt hv

/-- The roster to sign is the draft on the hub's roster; a positive version was verified. -/
theorem draftRoster_eq_ok {C : Crypto} {signingKey : C.SigningKey}
    {nodeNumber endorserNodeNumber : Int32} {nonce : Bytes} {response : PairNodesPayload}
    {currentRoster newRoster : Roster} :
    draftRoster C signingKey nodeNumber endorserNodeNumber nonce response currentRoster=
        .ok newRoster ↔
      (0<currentRoster.version → ∃ keys,
        verifyRoster C currentRoster endorserNodeNumber response.publicKeySpki=.ok keys) ∧
      currentRoster.version≠Int64.maxValue ∧
      newRoster=draftState currentRoster
        (draftPayload currentRoster nodeNumber endorserNodeNumber nonce response.nonce)
        (C.publicKeySpki signingKey) response.publicKeySpki := by
  have hguard : checkBaseRoster C endorserNodeNumber response currentRoster=.ok () ↔
      (0<currentRoster.version → ∃ keys,
        verifyRoster C currentRoster endorserNodeNumber response.publicKeySpki=.ok keys) := by
    by_cases hpos : 0<currentRoster.version
    · simp [checkBaseRoster,hpos,verifyRosterForNode]
    · simp [checkBaseRoster,hpos]
  rw [draftRoster,Outcome.bind_eq_ok]
  by_cases hv : currentRoster.version=Int64.maxValue
  · simp [hv,buildActivationPayload,addOne]
  · rw [draft_build hv,Outcome.ok.injEq]
    constructor
    · rintro ⟨_,hchecked,rfl⟩
      exact ⟨hguard.mp hchecked,hv,rfl⟩
    · rintro ⟨hchecked,_,rfl⟩
      exact ⟨(),hguard.mpr hchecked,rfl⟩

/-- A checked pairing reply is for this node and this request, under the code's secret. -/
theorem checkPairingReply_eq_ok {C : Crypto} {receiverNodeNumber : Int32} {code : PairingCode}
    {nonce : Bytes} {message : PairNodesMessage} {payload : PairNodesPayload} :
    checkPairingReply C receiverNodeNumber code nonce message=.ok payload ↔
      message.payload=some payload ∧
      code.secret.verifyMac C (C.encodePairNodesPayload payload) message.mac=true ∧
      payload.receiverNodeNumber=receiverNodeNumber ∧ payload.replyNonce=nonce := by
  simp only [checkPairingReply,Outcome.bind_eq_ok,Outcome.okOr_eq_ok,Outcome.reject_eq_ok,
    Outcome.pure_eq_ok,Outcome.ok.injEq,not_not,Bool.not_eq_false]
  constructor
  · rintro ⟨found,hfound,_,hmac,_,hreceiver,_,hreply,rfl⟩
    exact ⟨hfound,hmac,hreceiver,hreply⟩
  · rintro ⟨hfound,hmac,hreceiver,hreply⟩
    exact ⟨payload,hfound,(),hmac,(),hreceiver,(),hreply,rfl⟩

/-- What a run of `activate` that comes to its signing step went through. -/
structure DraftFacts {C : Crypto} (node : Node C) (activationCode nonce : Bytes) (hub : Hub)
    (draft : ActivationDraft) : Prop where
  /-- The node is registered. -/
  registered : node.inner=.registered draft.registration
  /-- The code parses. -/
  parsed : PairingCode.parse activationCode=.ok draft.code
  /-- The hub is reached. -/
  connected : hub.connect=.ok ()
  /-- The nonce is the one drawn for this call. -/
  drawn : draft.nonce=nonce
  /-- The reply to this call's request passes all checks. -/
  paired : ∃ message,hub.pairNodes draft.registration
      (pairingRequest C node.signingKey draft.registration.nodeNumber draft.code nonce)=
        .ok message ∧
    checkPairingReply C draft.registration.nodeNumber draft.code nonce message=.ok draft.response
  /-- The base is what the hub sent. -/
  fetched : hub.getUnverifiedRoster draft.registration=.ok draft.currentRoster
  /-- The roster to sign is drafted on it. -/
  drafted : draftRoster C node.signingKey draft.registration.nodeNumber draft.code.nodeNumber
    nonce draft.response draft.currentRoster=.ok draft.newRoster

/-- Activation comes to its signing step exactly with these facts. -/
theorem activateDraft_eq_ok {C : Crypto} {node : Node C} {activationCode nonce : Bytes} {hub : Hub}
    {draft : ActivationDraft} :
    node.activateDraft activationCode nonce hub=.ok draft ↔
      DraftFacts node activationCode nonce hub draft := by
  have hregistered : ∀ registration,node.requireRegistered=.ok registration ↔
      node.inner=.registered registration := by
    intro registration
    unfold Node.requireRegistered
    cases node.inner <;> simp
  simp only [Node.activateDraft,Outcome.bind_eq_ok,hregistered,Outcome.mapErr_eq_ok,
    Outcome.ofExcept_eq_ok,hubReply_eq_ok,Outcome.pure_eq_ok,Outcome.ok.injEq]
  constructor
  · rintro ⟨registration,hr,code,hcode,_,hconnect,message,hmessage,response,hresponse,current,
      hcurrent,newRoster,hdraft,rfl⟩
    exact ⟨hr,hcode,hconnect,rfl,⟨message,hmessage,hresponse⟩,hcurrent,hdraft⟩
  · intro facts
    obtain ⟨message,hmessage,hresponse⟩ := facts.paired
    refine ⟨_,facts.registered,_,facts.parsed,(),facts.connected,message,hmessage,_,hresponse,_,
      facts.fetched,_,facts.drafted,?_⟩
    rw [←facts.drawn]

/-- A roster that is signed under a positive version lists the endorser with the key of its reply. -/
theorem DraftFacts.lists_endorser {C : Crypto} {node : Node C} {activationCode nonce : Bytes}
    {hub : Hub} {draft : ActivationDraft} (facts : DraftFacts node activationCode nonce hub draft)
    (hpos : 0<draft.newRoster.version.toInt) :
    ∃ entry∈draft.newRoster.nodes,entry.nodeNumber=draft.code.nodeNumber ∧
      C.fromPublicKeyDer entry.publicKeySpki=C.fromPublicKeyDer draft.response.publicKeySpki := by
  obtain ⟨hverified,hmax,hnew⟩ := draftRoster_eq_ok.mp facts.drafted
  by_cases h0 : draft.currentRoster.version=0
  · rw [hnew,draftState,if_pos h0]
    exact ⟨_,List.mem_cons_self,rfl,rfl⟩
  · have hbase : 0<draft.currentRoster.version := by
      rw [hnew,draftState_version hmax] at hpos
      have hne := mt toInt_eq_zero.mp h0
      rw [pos_iff_toInt]
      omega
    obtain ⟨keys,hkeys⟩ := hverified hbase
    obtain ⟨key,hkey,_,_,entry,hm,hn,_,hdecode⟩ := verifyRoster_eq_ok.mp hkeys
    rw [hnew,draftState,if_neg h0]
    exact ⟨entry,List.mem_append_left _ hm,hn,hdecode.trans hkey.symm⟩

/-- The activation went through and stored the roster that the hub answered with. -/
structure Accepts {C : Crypto} (node : Node C) (activationCode nonce : Bytes) (hub : Hub)
    (draft : ActivationDraft) (cosigned : Roster) : Prop where
  /-- The call came to its signing step with this draft. -/
  drafted : node.activateDraft activationCode nonce hub=.ok draft
  /-- The call returned normally and stored the roster. -/
  stored : node.activate activationCode nonce hub=
    .ok {node with inner := .activated draft.registration cosigned}

/-- An activation that returns normally accepted some roster. -/
theorem activate_eq_ok {C : Crypto} {node node' : Node C} {activationCode nonce : Bytes}
    {hub : Hub} (h : node.activate activationCode nonce hub=.ok node') :
    ∃ draft cosigned submitted keys,Accepts node activationCode nonce hub draft cosigned ∧
      hub.submitRoster draft.registration submitted=.ok cosigned ∧
      verifyRoster C cosigned draft.registration.nodeNumber (C.publicKeySpki node.signingKey)=
        .ok keys ∧
      node'={node with inner := .activated draft.registration cosigned} := by
  have hok := h
  rw [Node.activate,Outcome.bind_eq_ok] at hok
  obtain ⟨draft,hdraft,hcomplete⟩ := hok
  simp only [Node.completeActivation,Outcome.bind_eq_ok,verifyRosterForNode,Outcome.mapErr_eq_ok,
    Outcome.pure_eq_ok,Outcome.ok.injEq,hubReply_eq_ok] at hcomplete
  obtain ⟨_,_,submitted,_,cosigned,hanswer,keys,hkeys,rfl⟩ := hcomplete
  exact ⟨draft,cosigned,submitted,keys,⟨hdraft,h⟩,hanswer,hkeys,rfl⟩

/-- The accepted roster is the hub's answer, verified under the node's own number and key. -/
theorem Accepts.verified {C : Crypto} {node : Node C} {activationCode nonce : Bytes} {hub : Hub}
    {draft : ActivationDraft} {cosigned : Roster}
    (h : Accepts node activationCode nonce hub draft cosigned) :
    (∃ submitted,hub.submitRoster draft.registration submitted=.ok cosigned) ∧
      ∃ keys,verifyRoster C cosigned draft.registration.nodeNumber
        (C.publicKeySpki node.signingKey)=.ok keys := by
  obtain ⟨draft',cosigned',submitted,keys,haccepts,hanswer,hkeys,hnode⟩ := activate_eq_ok h.stored
  obtain rfl := Outcome.ok.inj (h.drafted.symm.trans haccepts.drafted)
  have hinner := congrArg Node.inner hnode
  cases hinner
  exact ⟨⟨submitted,hanswer⟩,keys,hkeys⟩

/-- The roster to sign is a founding of the endorser and this node, or extends a
roster accepted under the endorser's key, and names this pairing. -/
def SafeDraft (C : Crypto) (selfSpki : Bytes) (draft : ActivationDraft) : Prop :=
  ∃ payload : ActivationPayload,
    payload.newNodeNumber=draft.registration.nodeNumber ∧
    payload.endorserNodeNumber=draft.code.nodeNumber ∧
    payload.newNodeNonce=draft.nonce ∧ payload.endorserNonce=draft.response.nonce ∧
    ((createBootstrapRoster payload selfSpki draft.response.publicKeySpki :
        Outcome Empty Roster)=.ok draft.newRoster ∨
      ∃ base keys,
        verifyRoster C base draft.code.nodeNumber draft.response.publicKeySpki=.ok keys ∧
        (addActivationToRoster base payload selfSpki : Outcome Empty Roster)=.ok draft.newRoster)

/-- An accepted roster has a positive version. -/
theorem accepted_version_pos {C : Crypto} {roster : Roster} (h : HonestlyBuilt C roster) :
    0<roster.version.toInt := by
  have inv := h.invariant
  have hpos := inv.nonempty
  rw [inv.version,asI64_toInt inv.short]
  omega

/-- A safe roster is signed under a positive version. -/
theorem SafeDraft.version_pos {C : Crypto} {selfSpki : Bytes} {draft : ActivationDraft}
    (h : SafeDraft C selfSpki draft) : 0<draft.newRoster.version.toInt := by
  obtain ⟨payload,_,_,_,_,hbuilt|⟨base,keys,haccepted,hbuilt⟩⟩ := h
  · simp only [createBootstrapRoster,Outcome.bind_eq_ok,Outcome.pure_eq_ok,
      Outcome.ok.injEq] at hbuilt
    obtain ⟨_,_,hroster⟩ := hbuilt
    rw [←hroster]
    exact Int.one_pos
  · simp only [addActivationToRoster,Outcome.bind_eq_ok,addOne_eq_ok,Outcome.debugAssert_eq_ok,
      Outcome.pure_eq_ok,Outcome.ok.injEq] at hbuilt
    obtain ⟨_,⟨hbase,rfl⟩,_,hpayload,hroster⟩ := hbuilt
    obtain ⟨_,_,hhonest,_,_⟩ := verifyRoster_eq_ok.mp haccepted
    have hpos := accepted_version_pos hhonest
    have hversion : draft.newRoster.version=base.version+1 := by
      rw [←hroster,←hpayload]
    rw [hversion,addOne_toInt hbase]
    omega

/-- The roster to sign is safe exactly when its base has no negative version. -/
theorem DraftFacts.safe_iff {C : Crypto} {node : Node C} {activationCode nonce : Bytes} {hub : Hub}
    {draft : ActivationDraft} (facts : DraftFacts node activationCode nonce hub draft) :
    SafeDraft C (C.publicKeySpki node.signingKey) draft ↔ ¬draft.currentRoster.version<0 := by
  obtain ⟨hverified,hmax,hnew⟩ := draftRoster_eq_ok.mp facts.drafted
  constructor
  · intro hsafe hnegative
    have hpos := hsafe.version_pos
    rw [hnew,draftState_version hmax] at hpos
    rw [neg_iff_toInt] at hnegative
    omega
  · intro hnonneg
    refine ⟨draftPayload draft.currentRoster draft.registration.nodeNumber draft.code.nodeNumber
      nonce draft.response.nonce,rfl,rfl,facts.drawn.symm,rfl,?_⟩
    by_cases h0 : draft.currentRoster.version=0
    · refine Or.inl ?_
      have h1 : draft.currentRoster.version+1=1 := by
        rw [h0]
        rfl
      rw [hnew,draftState,if_pos h0]
      exact createBootstrapRoster_eq h1 _ _
    · have hpos : 0<draft.currentRoster.version := by
        have hne := mt toInt_eq_zero.mp h0
        rw [neg_iff_toInt] at hnonneg
        rw [pos_iff_toInt]
        omega
      obtain ⟨keys,hkeys⟩ := hverified hpos
      refine Or.inr ⟨draft.currentRoster,keys,hkeys,?_⟩
      have hone : (addOne draft.currentRoster.version : Outcome Empty Int64)=
          .ok (draft.currentRoster.version+1) := addOne_eq_ok.mpr ⟨hmax,rfl⟩
      rw [hnew,draftState,if_neg h0]
      exact addActivationToRoster_eq hone _

/-- Whenever activation comes to its signing step, the endorser's reply was
verified, and the roster to sign is safe exactly when the hub's roster has no
negative version. -/
theorem activateDraft_safe_iff (C : Crypto) (node : Node C) (activationCode nonce : Bytes)
    (hub : Hub) (draft : ActivationDraft)
    (h : node.activateDraft activationCode nonce hub=.ok draft) :
    (∃ message,hub.pairNodes draft.registration
        (pairingRequest C node.signingKey draft.registration.nodeNumber draft.code nonce)=
          .ok message ∧ message.payload=some draft.response ∧
        draft.code.secret.verifyMac C (C.encodePairNodesPayload draft.response) message.mac=true) ∧
    ∃ currentRoster,hub.getUnverifiedRoster draft.registration=.ok currentRoster ∧
      (SafeDraft C (C.publicKeySpki node.signingKey) draft ↔ ¬currentRoster.version<0) := by
  have facts := activateDraft_eq_ok.mp h
  obtain ⟨message,hmessage,hreply⟩ := facts.paired
  have hchecked := checkPairingReply_eq_ok.mp hreply
  exact ⟨⟨message,hmessage,hchecked.1,hchecked.2.1⟩,draft.currentRoster,facts.fetched,
    facts.safe_iff⟩

/-- A founding activation signs a safe roster. -/
theorem activateDraft_safe_founding :
    ∃ draft,secondNode.activateDraft firstCode [21] (relayingHub Roster.default none)=.ok draft ∧
      SafeDraft symbolicCrypto (symbolicSpki 2) draft := by
  obtain ⟨draft,hdraft⟩ : ∃ draft,
      secondNode.activateDraft firstCode [21] (relayingHub Roster.default none)=.ok draft :=
    Outcome.isOk_iff.mp (by decide +kernel)
  obtain ⟨_,_,hfetched,hiff⟩ := activateDraft_safe_iff symbolicCrypto secondNode firstCode [21]
    (relayingHub Roster.default none) draft hdraft
  refine ⟨draft,hdraft,hiff.mpr ?_⟩
  obtain rfl := Except.ok.inj hfetched
  decide

/-- A roster of version -1 listing a key of the hub's own. -/
def negativeRoster : Roster := ⟨-1,[⟨9,symbolicSpki 9,false⟩],[]⟩

/-- On the negative roster the node comes to sign a state that nobody verified. -/
theorem activateDraft_negative_unsafe :
    ∃ draft,secondNode.activateDraft firstCode [21] (relayingHub negativeRoster none)=.ok draft ∧
      draft.newRoster.version=0 ∧ (⟨9,symbolicSpki 9,false⟩ : RosterNode)∈draft.newRoster.nodes ∧
      ¬SafeDraft symbolicCrypto (symbolicSpki 2) draft := by
  obtain ⟨draft,hdraft⟩ : ∃ draft,
      secondNode.activateDraft firstCode [21] (relayingHub negativeRoster none)=.ok draft :=
    Outcome.isOk_iff.mp (by decide +kernel)
  have facts := activateDraft_eq_ok.mp hdraft
  obtain ⟨_,_,hnew⟩ := draftRoster_eq_ok.mp facts.drafted
  have hcurrent : draft.currentRoster=negativeRoster := (Except.ok.inj facts.fetched).symm
  rw [hcurrent] at hnew
  refine ⟨draft,hdraft,?_,?_,fun hsafe => ?_⟩
  · rw [hnew]
    rfl
  · rw [hnew]
    exact List.mem_cons_self
  · refine facts.safe_iff.mp hsafe ?_
    rw [hcurrent]
    decide

end WispersConnect.ActivationSteps
