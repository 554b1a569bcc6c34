import WispersConnect.AnchoredHistory
import WispersConnect.Runs

/-!
# Whom an endorser endorses

Runs of the endorsing state of one node: codes issued, pairing requests and
co-sign requests answered or refused, whatever messages come in. A co-signed
roster carries the nonces and the key of a pairing of the node named in the
request. The activation that is signed names its new node once more, and only
requests in which both names agree endorse a node that paired.
-/

namespace WispersConnect.EndorserRuns

open Messages OutcomeMonad Cryptography FirstMatch MachineIntegers PairingCodes
open RosterBuilders RosterVerification RosterChain RosterReplay RosterHistory MembershipLog
open VerifiedRosters AnchoredHistory NodeLifecycle Endorsing SymbolicCrypto Runs

/-- One call to the endorsing state: what it was given, read and drew, and its result. -/
inductive EndorserEvent where
  /-- A serving session starts, with `EndorsingState::new`. -/
  | restart
  /-- `generate_activation_code_with_ttl`. -/
  | generateActivationCode (ttlProfile : TtlProfile) (pruneTime issueTime : ℕ)
      (secret : PairingSecret) (result : Except ServingError PairingCode)
  /-- `pair_nodes`, with the secret that verified the request. -/
  | pairNodes (message : PairNodesMessage) (now : ℕ) (ourNonce : Bytes)
      (used : Option PairingSecret) (result : Except String PairNodesMessage)
  /-- `roster_cosign`. -/
  | rosterCosign (request : RosterCosignRequest) (result : Outcome String RosterCosignResponse)

/-- A node that endorses others. -/
structure Endorser (C : Crypto) where
  /-- Its number in the group. -/
  nodeNumber : Int32
  /-- Its own key. -/
  signingKey : C.SigningKey

/-- One call takes the endorsing state to the next. -/
inductive EndorserStep {C : Crypto} (endorser : Endorser C) :
    EndorsingState→EndorserEvent→EndorsingState→Prop where
  /-- A new session forgets the state. -/
  | restart {before : EndorsingState} : EndorserStep endorser before .restart .new
  /-- A code is asked for. -/
  | generateActivationCode {before after : EndorsingState} {ttlProfile : TtlProfile}
      {pruneTime issueTime : ℕ} {secret : PairingSecret} {result : Except ServingError PairingCode}
      (call : before.generateActivationCode endorser.nodeNumber ttlProfile pruneTime issueTime
        secret=(after,result)) :
      EndorserStep endorser before
        (.generateActivationCode ttlProfile pruneTime issueTime secret result) after
  /-- A pairing request comes in. -/
  | pairNodes {before after : EndorsingState} {message : PairNodesMessage} {now : ℕ}
      {ourNonce : Bytes} {result : Except String PairNodesMessage}
      (call : before.pairNodes C message endorser.nodeNumber endorser.signingKey now ourNonce=
        (after,result)) :
      EndorserStep endorser before (.pairNodes message now ourNonce
        ((before.verifyingSecret C message now).map TimedSecret.secret) result) after
  /-- A co-sign request comes in. -/
  | rosterCosign {before after : EndorsingState} {request : RosterCosignRequest}
      {result : Outcome String RosterCosignResponse}
      (call : before.rosterCosign C request endorser.nodeNumber endorser.signingKey=
        (after,result)) :
      EndorserStep endorser before (.rosterCosign request result) after

/-- The runs of one endorser's state. -/
abbrev EndorserRun {C : Crypto} (endorser : Endorser C) : List EndorserEvent→EndorsingState→Prop :=
  Run (fun _ before event after => EndorserStep endorser before event after) EndorsingState.new

/-- A pairing request of the node with this number succeeded, with this key and these nonces. -/
def Paired (log : List EndorserEvent) (nodeNumber : Int32) (pending : PendingEndorsement) : Prop :=
  ∃ message now used reply payload,
    EndorserEvent.pairNodes message now pending.ourNonce used (.ok reply)∈log ∧
    message.payload=some payload ∧ payload.senderNodeNumber=nodeNumber ∧
    payload.publicKeySpki=pending.newNodePubkey ∧ payload.nonce=pending.newNodeNonce

/-- A pairing stays in the log. -/
theorem Paired.mono {log log' : List EndorserEvent} {nodeNumber : Int32}
    {pending : PendingEndorsement} (h : Paired log nodeNumber pending) (hsub : log⊆log') :
    Paired log' nodeNumber pending := by
  obtain ⟨message,now,used,reply,payload,hm,hrest⟩ := h
  exact ⟨message,now,used,reply,payload,hsub hm,hrest⟩

section Steps

variable {C : Crypto} {endorser : Endorser C}

/-- Everything a call can do, by its result. -/
inductive EndorserEffect (endorser : Endorser C) (before : EndorsingState) :
    EndorserEvent→EndorsingState→Prop where
  /-- A new session starts empty. -/
  | restarted : EndorserEffect endorser before .restart .new
  /-- At the bound, no code is issued. -/
  | refusedIssue {ttlProfile : TtlProfile} {pruneTime issueTime : ℕ} {secret : PairingSecret} :
      EndorserEffect endorser before
        (.generateActivationCode ttlProfile pruneTime issueTime secret
          (.error .tooManyActivationSessions)) (before.pruneExpired pruneTime)
  /-- Below the bound, the secret of a new code is added. -/
  | issued {ttlProfile : TtlProfile} {pruneTime issueTime : ℕ} {secret : PairingSecret}
      (below : (before.pruneExpired pruneTime).pairingSecrets.length+
        before.pendingEndorsements.entries.card < maxActiveActivations) :
      EndorserEffect endorser before
        (.generateActivationCode ttlProfile pruneTime issueTime secret
          (.ok ⟨endorser.nodeNumber,secret⟩))
        ⟨before.ttlOverride,(before.pruneExpired pruneTime).pairingSecrets++
          [⟨secret,issueTime+before.ttlOverride.getD ttlProfile.ttl⟩],before.pendingEndorsements⟩
  /-- No secret verifies the pairing request. -/
  | refusedPairing {message : PairNodesMessage} {now : ℕ} {ourNonce : Bytes} {e : String}
      {after : EndorsingState} (same : after=before ∨ after=before.pruneExpired now) :
      EndorserEffect endorser before (.pairNodes message now ourNonce none (.error e)) after
  /-- One secret verifies it and is used up, and the sender is left pending. -/
  | paired {message : PairNodesMessage} {now : ℕ} {ourNonce : Bytes} {payload : PairNodesPayload}
      {ts : TimedSecret} {secrets : List TimedSecret} (hasPayload : message.payload=some payload)
      (verifies : ts.secret.verifyMac C (C.encodePairNodesPayload payload) message.mac=true)
      (removed : (ts::secrets).Perm (before.pruneExpired now).pairingSecrets) :
      EndorserEffect endorser before
        (.pairNodes message now ourNonce (some ts.secret)
          (.ok (pairingReply C endorser.signingKey endorser.nodeNumber ts.secret payload ourNonce)))
        ⟨before.ttlOverride,secrets,before.pendingEndorsements.insert payload.senderNodeNumber
          ⟨payload.publicKeySpki,payload.nonce,ourNonce⟩⟩
  /-- A co-sign request fails. -/
  | refusedCosign {request : RosterCosignRequest} {e : String} :
      EndorserEffect endorser before (.rosterCosign request (.err e)) before
  /-- A co-sign request is answered, and its endorsement is no longer pending. -/
  | cosigned {request : RosterCosignRequest} {response : RosterCosignResponse}
      {pending : PendingEndorsement}
      (isPending : before.pendingEndorsements.lookup request.newNodeNumber.toInt32=some pending) :
      EndorserEffect endorser before (.rosterCosign request (.ok response))
        ⟨before.ttlOverride,before.pairingSecrets,
          before.pendingEndorsements.erase request.newNodeNumber.toInt32⟩

/-- Every call does one of these. -/
theorem EndorserStep.effect {before after : EndorsingState} {event : EndorserEvent}
    (h : EndorserStep endorser before event after) :
    EndorserEffect endorser before event after := by
  cases h with
  | restart => exact .restarted
  | @generateActivationCode _ ttlProfile pruneTime issueTime secret result call =>
    unfold EndorsingState.generateActivationCode at call
    dsimp only at call
    split at call
    · obtain ⟨rfl,rfl⟩ := Prod.mk.inj call
      exact .refusedIssue
    · rename_i hbelow
      obtain ⟨rfl,rfl⟩ := Prod.mk.inj call
      exact .issued (not_le.mp hbelow)
  | @pairNodes _ message now ourNonce result call =>
    rcases pairNodes_cases C before message endorser.nodeNumber endorser.signingKey now ourNonce
      with ⟨hnone,state',e,heq,hstate⟩|⟨payload,ts,secrets,hsome,hpayload,hverifies,hperm,heq⟩
    · obtain ⟨rfl,rfl⟩ := Prod.mk.inj (heq.symm.trans call)
      rw [hnone,Option.map_none]
      exact .refusedPairing hstate
    · obtain ⟨rfl,rfl⟩ := Prod.mk.inj (heq.symm.trans call)
      rw [hsome,Option.map_some]
      exact .paired hpayload hverifies hperm
  | @rosterCosign _ request result call =>
    rcases rosterCosign_cases C before request endorser.nodeNumber endorser.signingKey
      with ⟨e,heq⟩|⟨roster,payload,pending,facts,heq⟩
    · obtain ⟨rfl,rfl⟩ := Prod.mk.inj (heq.symm.trans call)
      exact .refusedCosign
    · obtain ⟨rfl,rfl⟩ := Prod.mk.inj (heq.symm.trans call)
      exact .cosigned facts.isPending

/-- Nothing is pending in a new session. -/
theorem new_pending (nodeNumber : Int32) :
    EndorsingState.new.pendingEndorsements.lookup nodeNumber=none := Finmap.lookup_empty nodeNumber

/-- What is pending after a step was pending before, or its node just paired. -/
theorem EndorserStep.pending {before after : EndorsingState} {event : EndorserEvent}
    (h : EndorserStep endorser before event after) {nodeNumber : Int32}
    {pending : PendingEndorsement}
    (hp : after.pendingEndorsements.lookup nodeNumber=some pending) :
    before.pendingEndorsements.lookup nodeNumber=some pending ∨
      Paired [event] nodeNumber pending := by
  cases h.effect with
  | restarted =>
    rw [new_pending] at hp
    cases hp
  | refusedIssue => exact Or.inl hp
  | issued => exact Or.inl hp
  | refusedPairing same =>
    rcases same with rfl|rfl
    · exact Or.inl hp
    · exact Or.inl hp
  | @paired message now ourNonce payload ts secrets hasPayload =>
    dsimp only at hp
    by_cases hn : nodeNumber=payload.senderNodeNumber
    · subst hn
      rw [Finmap.lookup_insert] at hp
      obtain rfl := Option.some.inj hp
      exact Or.inr ⟨message,now,_,_,payload,List.mem_cons_self,hasPayload,rfl,rfl,rfl⟩
    · rw [Finmap.lookup_insert_of_ne _ hn] at hp
      exact Or.inl hp
  | refusedCosign => exact Or.inl hp
  | @cosigned request =>
    dsimp only at hp
    by_cases hn : nodeNumber=request.newNodeNumber.toInt32
    · rw [hn,Finmap.lookup_erase] at hp
      cases hp
    · rw [Finmap.lookup_erase_ne hn] at hp
      exact Or.inl hp

/-- In every run, what is pending comes from a pairing of that run. -/
theorem pending_paired {log : List EndorserEvent} {state : EndorsingState}
    (run : EndorserRun endorser log state) {nodeNumber : Int32} {pending : PendingEndorsement}
    (hp : state.pendingEndorsements.lookup nodeNumber=some pending) :
    Paired log nodeNumber pending := by
  have hinvariant : ∀ number entry,state.pendingEndorsements.lookup number=some entry →
      Paired log number entry := by
    refine @Run.invariant EndorserEvent EndorsingState _ _
      (fun log state => ∀ number entry,state.pendingEndorsements.lookup number=some entry →
        Paired log number entry) ?_ ?_ log state run
    · intro number entry h
      rw [new_pending] at h
      cases h
    · intro log before event after _ ih hstep number entry h
      rcases hstep.pending h with hold|hnew
      · exact (ih number entry hold).mono (List.subset_append_left _ _)
      · exact hnew.mono (List.subset_append_right _ _)
  exact hinvariant nodeNumber pending hp

end Steps

/-- The request and the activation it asks to sign name the same new node. -/
def NamesOneNode (request : RosterCosignRequest) : Prop :=
  ∀ roster activation payload,request.newRoster=some roster →
    latestActivation roster=some activation → activation.payload=some payload →
    payload.newNodeNumber=request.newNodeNumber.toInt32

/-- The roster's latest activation is of a node that is pending after a pairing,
with the key and both nonces of that pairing. -/
def BackedByPairing (log : List EndorserEvent) (state : EndorsingState) (roster : Roster) : Prop :=
  ∃ activation payload pending node,
    latestActivation roster=some activation ∧ activation.payload=some payload ∧
    state.pendingEndorsements.lookup payload.newNodeNumber=some pending ∧
    Paired log payload.newNodeNumber pending ∧
    findNode roster.nodes payload.newNodeNumber=some node ∧
    node.publicKeySpki=pending.newNodePubkey ∧
    payload.newNodeNonce=pending.newNodeNonce ∧ payload.endorserNonce=pending.ourNonce

/-- An answered request that names one node is backed by a pairing. -/
theorem answered_backed {C : Crypto} {endorser : Endorser C} {log : List EndorserEvent}
    {state : EndorsingState} (run : EndorserRun endorser log state) {i : ℕ}
    {request : RosterCosignRequest} {response : RosterCosignResponse}
    (h : log[i]?=some (.rosterCosign request (.ok response))) (hnames : NamesOneNode request) :
    ∃ roster before,request.newRoster=some roster ∧ EndorserRun endorser (log.take i) before ∧
      BackedByPairing (log.take i) before roster := by
  obtain ⟨before,after,hbefore,hstep,_⟩ := run.at h
  cases hstep with
  | rosterCosign call =>
    rcases rosterCosign_cases C before request endorser.nodeNumber endorser.signingKey
      with ⟨e,heq⟩|⟨roster,payload,pending,facts,heq⟩
    · have hresult := congrArg Prod.snd (heq.symm.trans call)
      cases hresult
    · obtain ⟨activation,hlatest,hpayload⟩ := facts.latest
      obtain ⟨node,hnode,hkey⟩ := facts.newNodeKey
      have hnumber := hnames roster activation payload facts.hasRoster hlatest hpayload
      have hpending := facts.isPending
      rw [←hnumber] at hpending hnode
      have hpaired := pending_paired hbefore hpending
      exact ⟨roster,before,facts.hasRoster,hbefore,activation,payload,pending,node,hlatest,hpayload,
        hpending,hpaired,hnode,hkey,facts.newNodeNonce,facts.endorserNonce⟩

/-- Clearing signatures keeps what the latest activation says. -/
theorem latestActivation_clearLatest {roster : Roster} {payload : ActivationPayload} :
    (∃ activation,latestActivation (clearLatestAddendumSignatures roster)=some activation ∧
      activation.payload=some payload) ↔
    ∃ activation,latestActivation roster=some activation ∧ activation.payload=some payload := by
  obtain ⟨version,nodes,addenda⟩ := roster
  rcases List.eq_nil_or_concat' addenda with rfl|⟨earlier,last,rfl⟩
  · rfl
  · rw [clearLatest_concat]
    obtain ⟨_|⟨act|rev⟩⟩ := last
    · rfl
    · simp only [latestActivation,Addendum.clearSignatures,List.getLast?_concat,Option.bind_some,
        Option.some.injEq,exists_eq_left']
    · simp only [latestActivation,Addendum.clearSignatures,List.getLast?_concat,Option.bind_some,
        reduceCtorEq,false_and,exists_false]

/-- The state was co-signed, up to the signatures that are cleared for hashing. -/
def Cosigned (log : List EndorserEvent) (state : Roster) : Prop :=
  ∃ request response roster,EndorserEvent.rosterCosign request (.ok response)∈log ∧
    request.newRoster=some roster ∧ clearLatestAddendumSignatures roster=state

/-- If the latest activation names the number as endorser, it is of the number itself:
so are a node's own activation, and all its revocations. -/
def EndorsesNoOther (nodeNumber : Int32) (state : Roster) : Prop :=
  ∀ activation payload,latestActivation state=some activation → activation.payload=some payload →
    payload.endorserNodeNumber=nodeNumber → payload.newNodeNumber=nodeNumber

/-- The number and the key that an activation brought into the roster were paired with. -/
def ActivatesPaired (log : List EndorserEvent) (roster : Roster) (payload : ActivationPayload) :
    Prop :=
  ∃ node∈roster.nodes,node.nodeNumber=payload.newNodeNumber ∧ ∃ pending,
    Paired log payload.newNodeNumber pending ∧ node.publicKeySpki=pending.newNodePubkey ∧
    payload.newNodeNonce=pending.newNodeNonce ∧ payload.endorserNonce=pending.ourNonce

/-- An accepted roster lists what an honest endorser endorsed as it was paired. -/
theorem endorsed_paired {C : Crypto} {endorser : Endorser C}
    (hinj : Function.Injective (signingHash C)) {log : List EndorserEvent} {state : EndorsingState}
    (run : EndorserRun endorser log state)
    (hnames : ∀ request response,EndorserEvent.rosterCosign request (.ok response)∈log →
      NamesOneNode request)
    {other : Roster→Prop} (hother : ∀ signed,other signed → EndorsesNoOther endorser.nodeNumber signed)
    {roster : Roster} (hbuilt : HonestlyBuilt C roster)
    (hunforgeable : Unforgeable C (C.verifyingKey endorser.signingKey)
      (fun signed => Cosigned log signed ∨ other signed) roster)
    {j : ℕ} {payload : ActivationPayload} {newSignature endorserSignature : Bytes}
    (ha : roster.addenda[j]?=some (signedActivation payload newSignature endorserSignature))
    (hnumber : payload.endorserNodeNumber=endorser.nodeNumber) {entry : RosterNode}
    (hentry : entry∈roster.nodes) (hown : entry.nodeNumber=endorser.nodeNumber)
    (hkey : C.fromPublicKeyDer entry.publicKeySpki=.ok (C.verifyingKey endorser.signingKey)) :
    ActivatesPaired log roster payload := by
  obtain ⟨hdistinct,node,hm,hn,key,hdecode,hs⟩ := HonestlyBuilt.endorsed hbuilt ha
  have hsame : entry=node :=
    hbuilt.invariant.entry_unique hentry hm (hown.trans (hn.trans hnumber).symm)
  subst hsame
  obtain rfl := Except.ok.inj (hkey.symm.trans hdecode)
  obtain ⟨hj,haddendum⟩ := List.getElem?_eq_some_iff.mp ha
  have hstored : endorserSignature∈storedSignatures roster :=
    List.mem_flatMap.mpr ⟨_,List.mem_of_getElem? ha,List.mem_cons_of_mem _ List.mem_cons_self⟩
  obtain ⟨signed,hsigned,hhash⟩ := hunforgeable endorserSignature hstored _ (signedState_iff.mp hs)
  have hstate := hinj hhash
  subst hstate
  have hlatest : ∃ activation,latestActivation
      (clearLatestAddendumSignatures (historyAt roster (j+1)))=some activation ∧
      activation.payload=some payload := by
    rw [latestActivation_clearLatest,historyAt,List.take_succ_eq_append_getElem hj,haddendum]
    refine ⟨⟨some payload,newSignature,endorserSignature⟩,?_,rfl⟩
    simp only [latestActivation,List.getLast?_concat,Option.bind_some,signedActivation]
  rcases hsigned with ⟨request,response,cosigned,hevent,hrequest,hcleared⟩|hsigned
  · obtain ⟨i,hi⟩ := List.mem_iff_getElem?.mp hevent
    obtain ⟨found,before,hfound,_,activation,payload',pending,newNode,hact,hpayload,_,hpaired,
      hnewNode,hnewKey,hnonce,hours⟩ := answered_backed run hi (hnames _ _ hevent)
    obtain rfl := Option.some.inj (hrequest.symm.trans hfound)
    have hagree : payload'=payload := by
      rw [←hcleared,latestActivation_clearLatest] at hlatest
      obtain ⟨act,hact',hpayload'⟩ := hlatest
      obtain rfl := Option.some.inj (hact.symm.trans hact')
      exact Option.some.inj (hpayload.symm.trans hpayload')
    subst hagree
    obtain ⟨hmem,hnew⟩ := lookup_sound RosterNode.nodeNumber hnewNode
    have hnodes := congrArg Roster.nodes hcleared
    rw [clearLatest_nodes,clearLatest_nodes] at hnodes
    rw [hnodes] at hmem
    obtain ⟨listed,hlisted,hid⟩ := mem_nodesAt hmem
    have hlistedNumber : listed.nodeNumber=newNode.nodeNumber := congrArg Prod.fst hid
    have hlistedKey : listed.publicKeySpki=newNode.publicKeySpki := congrArg Prod.snd hid
    have hbefore := hpaired.mono (List.take_subset i log)
    exact ⟨listed,hlisted,hlistedNumber.trans hnew,pending,hbefore,hlistedKey.trans hnewKey,
      hnonce,hours⟩
  · obtain ⟨activation,hact,hpayload⟩ := hlatest
    have hself := hother _ hsigned activation payload hact hpayload hnumber
    exact absurd (hnumber.trans hself.symm) hdistinct

/-- In every run whose answered requests name one node each, every answered request
is backed by a pairing; and with unforgeable signatures every accepted roster
lists whom the endorser endorsed as it was paired. -/
theorem endorsements_backed (C : Crypto) (endorser : Endorser C)
    (hinj : Function.Injective (signingHash C)) (log : List EndorserEvent) (state : EndorsingState)
    (run : EndorserRun endorser log state)
    (hnames : ∀ request response,EndorserEvent.rosterCosign request (.ok response)∈log →
      NamesOneNode request) :
    (∀ (i : ℕ) (request : RosterCosignRequest) (response : RosterCosignResponse),
      log[i]?=some (.rosterCosign request (.ok response)) →
      ∃ roster before,request.newRoster=some roster ∧ EndorserRun endorser (log.take i) before ∧
        BackedByPairing (log.take i) before roster) ∧
    (∀ (other : Roster→Prop) (roster : Roster) (verifierNodeNumber : Int32) (spki : Bytes)
      (keys : Keys C),(∀ signed,other signed → EndorsesNoOther endorser.nodeNumber signed) →
      Unforgeable C (C.verifyingKey endorser.signingKey)
        (fun signed => Cosigned log signed ∨ other signed) roster →
      verifyRoster C roster verifierNodeNumber spki=.ok keys →
      ∀ (j : ℕ) (payload : ActivationPayload) (newSignature endorserSignature : Bytes)
        (entry : RosterNode),
        roster.addenda[j]?=some (signedActivation payload newSignature endorserSignature) →
        payload.endorserNodeNumber=endorser.nodeNumber →
        entry∈roster.nodes → entry.nodeNumber=endorser.nodeNumber →
        C.fromPublicKeyDer entry.publicKeySpki=.ok (C.verifyingKey endorser.signingKey) →
        ActivatesPaired log roster payload) := by
  constructor
  · intro i request response h
    exact answered_backed run h (hnames _ _ (List.mem_of_getElem? h))
  · intro other roster verifierNodeNumber spki keys hother hunforgeable haccept j payload
      newSignature endorserSignature entry ha hnumber hentry hown hkey
    obtain ⟨_,_,hbuilt,_,_⟩ := verifyRoster_eq_ok.mp haccept
    exact endorsed_paired hinj run hnames hother hbuilt hunforgeable ha hnumber hentry hown hkey

/-- Node 1 with key 1. -/
def firstEndorser : Endorser symbolicCrypto := ⟨1,(1 : UInt8)⟩

/-- Node 1 issues the first code. -/
def issuing : EndorsingState×Except ServingError PairingCode :=
  EndorsingState.new.generateActivationCode firstEndorser.nodeNumber .interactive 0 0 firstSecret

/-- The pairing request of node 2 for that code. -/
def secondRequest : PairNodesMessage :=
  pairingRequest symbolicCrypto (2 : UInt8) 2 ⟨1,firstSecret⟩ [21]

/-- Node 1 pairs with node 2. -/
def pairing : EndorsingState×Except String PairNodesMessage :=
  issuing.1.pairNodes symbolicCrypto secondRequest firstEndorser.nodeNumber
    firstEndorser.signingKey 0 [11]

/-- Node 1 is asked to co-sign after that pairing. -/
def cosigning (request : RosterCosignRequest) :
    EndorsingState×Outcome String RosterCosignResponse :=
  pairing.1.rosterCosign symbolicCrypto request firstEndorser.nodeNumber firstEndorser.signingKey

/-- Node 1 issues a code, pairs with node 2 and is asked to co-sign. -/
def cosignLog (request : RosterCosignRequest) : List EndorserEvent :=
  [.generateActivationCode .interactive 0 0 firstSecret issuing.2,
    .pairNodes secondRequest 0 [11]
      ((issuing.1.verifyingSecret symbolicCrypto secondRequest 0).map TimedSecret.secret) pairing.2,
    .rosterCosign request (cosigning request).2]

/-- That log is one of a run. -/
theorem cosignLog_run (request : RosterCosignRequest) :
    EndorserRun firstEndorser (cosignLog request) (cosigning request).1 := by
  have hissue : EndorserStep firstEndorser .new
      (.generateActivationCode .interactive 0 0 firstSecret issuing.2) issuing.1 :=
    .generateActivationCode Prod.mk.eta.symm
  have hpair : EndorserStep firstEndorser issuing.1 (.pairNodes secondRequest 0 [11]
      ((issuing.1.verifyingSecret symbolicCrypto secondRequest 0).map TimedSecret.secret)
      pairing.2) pairing.1 := .pairNodes Prod.mk.eta.symm
  have hcosign : EndorserStep firstEndorser pairing.1 (.rosterCosign request (cosigning request).2)
      (cosigning request).1 := .rosterCosign Prod.mk.eta.symm
  exact .next (.next (.next .start hissue) hpair) hcosign

/-- A state with the new node's signature, as it is submitted for co-signing. -/
def halfSigned (state : Addendum→Roster) (payload : ActivationPayload) (newKey : UInt8) : Roster :=
  state (signedActivation payload (symbolicSign newKey (state (unsignedActivation payload))) [])

/-- The founding by nodes 1 and 2. -/
def foundingRequest : RosterCosignRequest :=
  ⟨2,some (halfSigned (bootstrapState ⟨1,2,1,[21],[11]⟩ (symbolicSpki 2) (symbolicSpki 1))
    ⟨1,2,1,[21],[11]⟩ 2)⟩

/-- What the events of that log are. -/
theorem mem_cosignLog {request request' : RosterCosignRequest}
    {result : Outcome String RosterCosignResponse}
    (h : EndorserEvent.rosterCosign request' result∈cosignLog request) :
    request'=request ∧ result=(cosigning request).2 := by
  simpa [cosignLog] using h

/-- Node 1 co-signs its founding with node 2, and the pair lists node 2 as it was paired. -/
theorem endorsements_backed_founding :
    ActivatesPaired (cosignLog foundingRequest) pairRoster ⟨1,2,1,[21],[11]⟩ := by
  have hnames : ∀ request response,
      EndorserEvent.rosterCosign request (.ok response)∈cosignLog foundingRequest →
        NamesOneNode request := by
    intro request response hm roster activation payload hroster hlatest hpayload
    obtain ⟨rfl,_⟩ := mem_cosignLog hm
    cases hroster
    cases hlatest
    cases hpayload
    decide
  have hall := endorsements_backed symbolicCrypto firstEndorser symbolicCrypto_signingHash_injective
    (cosignLog foundingRequest) _ (cosignLog_run foundingRequest) hnames
  obtain ⟨response,hresponse⟩ : ∃ response,
      (cosigning foundingRequest).2=.ok response :=
    Outcome.isOk_iff.mp (by decide +kernel)
  have hcosigned : Cosigned (cosignLog foundingRequest) (clearLatestAddendumSignatures pairRoster) := by
    refine ⟨foundingRequest,response,_,?_,rfl,by decide +kernel⟩
    rw [cosignLog,hresponse]
    exact List.mem_cons_of_mem _ (List.mem_cons_of_mem _ List.mem_cons_self)
  obtain ⟨keys,hkeys⟩ : ∃ keys,verifyRoster symbolicCrypto pairRoster 2 (symbolicSpki 2)=.ok keys :=
    Outcome.isOk_iff.mp (by decide +kernel)
  have hsigned : Unforgeable symbolicCrypto (1 : UInt8)
      (fun signed => signed∈[clearLatestAddendumSignatures pairRoster]) pairRoster :=
    symbolic_unforgeable (by decide +kernel)
  refine hall.2 (fun _ => False) pairRoster 2 (symbolicSpki 2) keys (fun _ h => h.elim)
    (hsigned.mono ?_) hkeys 0 ⟨1,2,1,[21],[11]⟩ _ _ ⟨1,symbolicSpki 1,false⟩ rfl rfl ?_ rfl rfl
  · intro signed h
    rw [List.mem_singleton.mp h]
    exact Or.inl hcosigned
  · exact List.mem_cons_self

/-- Node 9, with a key of the hub's, joins the pair under the nonces of node 2's pairing. -/
def smuggledPayload : ActivationPayload := ⟨2,9,1,[21],[11]⟩

/-- That activation, presented as node 2's. -/
def smugglingRequest : RosterCosignRequest :=
  ⟨2,some (halfSigned (activationState pairRoster smuggledPayload (symbolicSpki 9))
    smuggledPayload 9)⟩

/-- Node 1 signs the activation of node 9, which never paired, and the members
accept the roster with that signature. -/
theorem smuggled_node_endorsed :
    ∃ response keys,
      (cosignLog smugglingRequest)[2]?=some (.rosterCosign smugglingRequest (.ok response)) ∧
      verifyRoster symbolicCrypto (activationState pairRoster smuggledPayload (symbolicSpki 9)
        (signedActivation smuggledPayload
          (symbolicSign 9 (activationState pairRoster smuggledPayload (symbolicSpki 9)
            (unsignedActivation smuggledPayload))) response.endorserSignature)) 2
          (symbolicSpki 2)=.ok keys ∧
      EndorserRun firstEndorser (cosignLog smugglingRequest)
        (cosigning smugglingRequest).1 ∧
      ∀ roster before,smugglingRequest.newRoster=some roster →
        ¬BackedByPairing (cosignLog smugglingRequest) before roster := by
  have hresponse : (cosigning smugglingRequest).2=
      .ok ⟨symbolicSign 1 (activationState pairRoster smuggledPayload (symbolicSpki 9)
        (unsignedActivation smuggledPayload))⟩ := by decide +kernel
  obtain ⟨keys,hkeys⟩ : ∃ keys,verifyRoster symbolicCrypto
      (symbolicActivation pairRoster smuggledPayload 9 1) 2 (symbolicSpki 2)=.ok keys :=
    Outcome.isOk_iff.mp (by decide +kernel)
  refine ⟨_,keys,?_,hkeys,cosignLog_run smugglingRequest,?_⟩
  · rw [cosignLog,hresponse]
    rfl
  · rintro roster before hroster ⟨activation,payload,pending,node,hlatest,hpayload,_,hpaired,_⟩
    cases hroster
    cases hlatest
    cases hpayload
    obtain ⟨message,now,used,reply,request,hm,hrequest,hsender,_⟩ := hpaired
    have hmessage : message=secondRequest := by
      simp [cosignLog] at hm
      exact hm.1
    rw [hmessage] at hrequest
    cases hrequest
    exact absurd hsender (by decide)

end WispersConnect.EndorserRuns
