import WispersConnect.KeyHistories
import WispersConnect.PeerConnections
import WispersConnect.Runs

/-!
# Whom a session key is shared with

Runs in which honest nodes call each other, answer, and complete their calls, and
the hub delivers whatever no honest node would have to sign for it. An answer's
signature covers neither the caller nor the request, and a member may sign the
ephemeral key of another as its own. So who is at the other end is certain on the
side where the named peer is honest.
-/

namespace WispersConnect.SessionKeys

open Messages OutcomeMonad Cryptography FirstMatch RosterBuilders RosterVerification RosterReplay
open NodeLifecycle KeyHistories PeerSigning PeerEncoding PeerConnections SymbolicCrypto Runs

/-- An honest member of the group. -/
structure Party (C : PeerCrypto) where
  /-- Its number. -/
  nodeNumber : Int32
  /-- Its own key. -/
  signingKey : C.SigningKey

/-- The key that a party's signatures verify under. -/
def Party.verifyingKey {C : PeerCrypto} (party : Party C) : C.VerifyingKey :=
  C.verifyingKey party.signingKey

/-- What happens at the honest parties. -/
inductive PeerEvent (C : PeerCrypto) (ι : Type) where
  /-- A party calls a peer: its signed request goes out. -/
  | request (i : ι) (node : Node C.toCrypto) (peerNodeNumber : Int32) (transport : Transport)
      (env : CallEnvironment) (call : PeerCall)
  /-- A serving session of a party signs an answer. -/
  | answer (i : ι) (session : ServingSession C) (callerNodeNumber : Int32)
      (req : StartConnectionRequest) (env : ServingEnvironment) (answer : SignedAnswer)
  /-- A caller accepts an answer and derives its key. -/
  | complete (i : ι) (call : PeerCall) (response : StartConnectionResponse) (key : SessionKey)

section Model

variable {C : PeerCrypto} {ι : Type}

/-- The seed of the ephemeral key that is drawn in an event. -/
def drawnSeed : PeerEvent C ι→Option Bytes
  | .request _ _ _ _ env _ => some env.seed
  | .answer _ _ _ _ env _ => some env.seed
  | .complete .. => none

/-- The ephemeral key that is drawn in an event. -/
def drawnKey (event : PeerEvent C ι) : Option Bytes := (drawnSeed event).map C.x25519PublicKey

/-- The ephemeral key of the other side that is used in an event. -/
def receivedKey : PeerEvent C ι→Option Bytes
  | .request .. => none
  | .answer _ _ _ req _ _ =>
    (C.decodeRequestPayload req.signedPayload).map RequestPayload.callerX25519PublicKey
  | .complete _ _ response _ =>
    (C.decodeResponsePayload response.signedPayload).map ResponsePayload.answererX25519PublicKey

/-- The string and the signature over it that are checked in an event. -/
def checkedSignature : PeerEvent C ι→Option (Bytes×Bytes)
  | .request .. => none
  | .answer _ _ _ req _ _ => some (callerSigningInput req.signedPayload,req.signature)
  | .complete _ _ response _ =>
    some (answererSigningInput response.signedPayload,response.signature)

/-- The party that signs a string in an event. -/
inductive SignsIn : PeerEvent C ι→ι→Bytes→Prop where
  /-- Its request. -/
  | request {i : ι} {node : Node C.toCrypto} {peerNodeNumber : Int32} {transport : Transport}
      {env : CallEnvironment} {call : PeerCall} :
      SignsIn (.request i node peerNodeNumber transport env call) i
        (callerSigningInput call.request.signedPayload)
  /-- Its answer. -/
  | answer {i : ι} {session : ServingSession C} {callerNodeNumber : Int32}
      {req : StartConnectionRequest} {env : ServingEnvironment} {answer : SignedAnswer} :
      SignsIn (.answer i session callerNodeNumber req env answer) i
        (answererSigningInput answer.response.signedPayload)

/-- A holder of the key signed the string in one of the events, or it may be the
digest of a roster state. -/
def HasSigned (parties : ι→Party C) (log : List (PeerEvent C ι)) (key : C.VerifyingKey)
    (message : Bytes) : Prop :=
  (∃ event∈log,∃ i,SignsIn event i message ∧ (parties i).verifyingKey=key) ∨ message.length=32

/-- The event is what the code of its party does. -/
inductive Performs (parties : ι→Party C) : PeerEvent C ι→Prop where
  /-- With any cached roster and any environment. -/
  | request {i : ι} {node : Node C.toCrypto} {peerNodeNumber : Int32} {transport : Transport}
      {env : CallEnvironment} {call : PeerCall} (own : node.signingKey=(parties i).signingKey)
      (starts : (Node.startCall node peerNodeNumber transport env).2=.ok call) :
      Performs parties (.request i node peerNodeNumber transport env call)
  /-- With any counter and any environment. -/
  | answer {i : ι} {session : ServingSession C} {callerNodeNumber : Int32}
      {req : StartConnectionRequest} {env : ServingEnvironment} {answer : SignedAnswer}
      (own : session.signingKey=(parties i).signingKey)
      (number : session.registration.nodeNumber=(parties i).nodeNumber)
      (answers : (session.handleStartConnectionRequest callerNodeNumber req env).2=.ok answer) :
      Performs parties (.answer i session callerNodeNumber req env answer)
  /-- With any answer. -/
  | complete {i : ι} {call : PeerCall} {response : StartConnectionResponse} {key : SessionKey}
      (completes : call.complete C response=.ok key) :
      Performs parties (.complete i call response key)

/-- One event among the honest parties. -/
structure PeerStep (parties : ι→Party C) (log : List (PeerEvent C ι)) (event : PeerEvent C ι) :
    Prop where
  /-- The party's code does it. -/
  performs : Performs parties event
  /-- Ephemeral keys are fresh. -/
  freshKey : ∀ key,drawnKey event=some key → key∉log.filterMap drawnKey
  /-- A signature of a party's key that is delivered was made by it before. -/
  unforgeable : ∀ (message signature : Bytes) (i : ι),checkedSignature event=some (message,signature) →
    EnvelopeSigned (parties i).verifyingKey message signature →
    HasSigned parties log (parties i).verifyingKey message
  /-- A call is completed only after its request went out. -/
  asked : ∀ i call response key,event=.complete i call response key →
    ∃ node peerNodeNumber transport env,.request i node peerNodeNumber transport env call∈log

/-- The runs of the honest parties; what they keep between events is in the events. -/
abbrev PeerRun (parties : ι→Party C) (log : List (PeerEvent C ι)) : Prop :=
  Run (fun log _ event _ => PeerStep parties log event) () log ()

/-- Two exchanges of drawn keys have one secret only if they are the two sides of one. -/
def IdealExchange (C : PeerCrypto) (seeds received : List Bytes) : Prop :=
  ∀ a∈seeds,∀ b∈seeds,∀ drawn∈seeds,∀ peerKey∈received,
    C.diffieHellman a (C.x25519PublicKey drawn)=C.diffieHellman b peerKey →
    (C.x25519PublicKey a=C.x25519PublicKey b ∧ C.x25519PublicKey drawn=peerKey) ∨
      (C.x25519PublicKey a=peerKey ∧ C.x25519PublicKey drawn=C.x25519PublicKey b)

/-- A roster entry with the number and the key of a party. -/
def HonestEntry (party : Party C) (entry : RosterNode) : Prop :=
  entry.nodeNumber=party.nodeNumber ∧
    C.fromPublicKeyDer entry.publicKeySpki=.ok party.verifyingKey

/-- The active entry that an answerer found under the claimed caller number is a party's. -/
def AttributedTo (party : Party C) (session : ServingSession C) (callerNodeNumber : Int32)
    (env : ServingEnvironment) : Prop :=
  ∃ roster entry,env.hub.getUnverifiedRoster session.registration=.ok roster ∧
    entry∈roster.nodes ∧ entry.nodeNumber=callerNodeNumber ∧ entry.revoked=false ∧
    HonestEntry party entry

/-- A started call carries the request its node signed, with its ephemeral key. -/
theorem startCall_eq_ok {node : Node C.toCrypto} {peerNodeNumber : Int32} {transport : Transport}
    {env : CallEnvironment} {call : PeerCall}
    (h : (Node.startCall node peerNodeNumber transport env).2=.ok call) :
    call.request=buildSignedRequest C node.signingKey call.payload ∧ call.seed=env.seed ∧
      call.payload.callerX25519PublicKey=C.x25519PublicKey env.seed := by
  unfold Node.startCall at h
  dsimp only at h
  split at h
  · next registration found peerNode hfound =>
    simp only [Outcome.bind_eq_ok,Outcome.mapErr_eq_ok,Outcome.pure_eq_ok,Outcome.ok.injEq,
      Prod.mk.injEq,Prod.exists] at hfound h
    obtain ⟨_,_,_,_,_,_,looked,peer,hlookup,rfl,rfl,rfl⟩ := hfound
    obtain ⟨config,_,callerSdp,_,rfl⟩ := h
    have hkey := findPeerInRoster_signingKey hlookup
    exact ⟨congrArg (fun key => buildSignedRequest C key _) hkey,rfl,rfl⟩
  · cases h
  · cases h

/-- A call is completed exactly by a verified answer with an ephemeral key of 32 bytes. -/
theorem complete_eq_ok {call : PeerCall} {response : StartConnectionResponse} {key : SessionKey} :
    call.complete C response=.ok key ↔
      ∃ payload,verifyResponse C response call.peerNode.publicKeySpki=.ok payload ∧
        payload.answererX25519PublicKey.length=32 ∧
        key=⟨payload.connectionId,C.diffieHellman call.seed payload.answererX25519PublicKey,
          payload.answererSdp⟩ := by
  simp only [PeerCall.complete,Outcome.bind_eq_ok,Outcome.mapErr_eq_ok,Outcome.reject_eq_ok,
    Outcome.pure_eq_ok,Outcome.ok.injEq,ne_eq,not_not]
  constructor
  · rintro ⟨payload,hverified,_,hlength,rfl⟩
    exact ⟨payload,hverified,hlength,rfl⟩
  · rintro ⟨payload,hverified,hlength,rfl⟩
    exact ⟨payload,hverified,(),hlength,rfl⟩

/-- A started connection carries the caller number, the next id and the secret of
the answerer's ephemeral key. -/
structure AnswerFacts (session : ServingSession C) (callerNodeNumber : Int32)
    (req : StartConnectionRequest) (env : ServingEnvironment) (answer : SignedAnswer)
    (payload : RequestPayload) (answererSdp : String) : Prop where
  /-- The request was vetted. -/
  vetted : Vetted session callerNodeNumber req env.hub payload
  /-- The answer's payload. -/
  response : answer.response=buildSignedResponse C session.signingKey
    ⟨session.connectionIdCounter,C.x25519PublicKey env.seed,answererSdp⟩
  /-- The connection that is started. -/
  started : ∀ incoming,answer.started=some incoming →
    incoming.callerNodeNumber=callerNodeNumber ∧
    incoming.connectionId=session.connectionIdCounter ∧
    incoming.sharedSecret=C.diffieHellman env.seed payload.callerX25519PublicKey

/-- An answered request has these facts. -/
theorem answer_facts {session : ServingSession C} {callerNodeNumber : Int32}
    {req : StartConnectionRequest} {env : ServingEnvironment} {answer : SignedAnswer}
    (h : (session.handleStartConnectionRequest callerNodeNumber req env).2=.ok answer) :
    ∃ payload answererSdp,AnswerFacts session callerNodeNumber req env answer payload answererSdp := by
  obtain ⟨_,payload,answererSdp,hvetted,_,rfl⟩ := handleStartConnectionRequest_eq_ok.mp h
  refine ⟨payload,answererSdp,hvetted,rfl,?_⟩
  intro incoming hstarted
  unfold ServingSession.signAnswer at hstarted
  dsimp only at hstarted
  split at hstarted
  · obtain rfl := Option.some.inj hstarted
    exact ⟨rfl,rfl,rfl⟩
  · cases hstarted

/-- An accepted envelope decodes to its payload. -/
theorem decoded_of_verifySigned {α : Type} {signingInput : Bytes→Bytes} {decode : Bytes→Option α}
    {signedPayload signature spki : Bytes} {payload : α}
    (h : verifySigned C signingInput decode signedPayload signature spki=.ok payload) :
    decode signedPayload=some payload := by
  obtain ⟨_,_,_,hdecode⟩ := verifySigned_eq_ok.mp h
  exact hdecode

section Runs

variable {parties : ι→Party C} {log : List (PeerEvent C ι)}

/-- Every event of a run was a step after the events before it. -/
theorem PeerRun.step (run : PeerRun parties log) {i : ℕ} {event : PeerEvent C ι}
    (h : log[i]?=some event) : PeerStep parties (log.take i) event := by
  obtain ⟨_,_,_,hstep,_⟩ := run.at h
  exact hstep

/-- A step makes a run longer. -/
theorem PeerRun.next (run : PeerRun parties log) {event : PeerEvent C ι}
    (h : PeerStep parties log event) : PeerRun parties (log++[event]) :=
  Run.next run h

/-- An ephemeral key is drawn at one position only. -/
theorem PeerRun.drawn_once (run : PeerRun parties log) {i j : ℕ} {a b : PeerEvent C ι}
    {key : Bytes} (hi : log[i]?=some a) (hj : log[j]?=some b) (ha : drawnKey a=some key)
    (hb : drawnKey b=some key) : i=j :=
  Run.drawn_once (fun _ _ _ _ key hstep hdrawn => hstep.freshKey key hdrawn) run hi hj ha hb

/-- A caller's signed string that verified under a party's key is that of its request. -/
theorem signed_request (hkeys : ∀ i j,(parties i).verifyingKey=(parties j).verifyingKey → i=j)
    {p : ι} {signedPayload : Bytes}
    (h : HasSigned parties log (parties p).verifyingKey (callerSigningInput signedPayload)) :
    ∃ node peerNodeNumber transport env call,
      PeerEvent.request p node peerNodeNumber transport env call∈log ∧
      call.request.signedPayload=signedPayload := by
  rcases h with ⟨event,hm,i,hsigns,hkey⟩|hlength
  · obtain rfl := hkeys i p hkey
    generalize hmessage : callerSigningInput signedPayload=message at hsigns
    cases hsigns with
    | request => exact ⟨_,_,_,_,_,hm,(callerSigningInput_injective hmessage).symm⟩
    | answer => exact absurd hmessage (callerSigningInput_ne_answerer _ _)
  · have hlong := callerSigningInput_length signedPayload
    omega

/-- An answerer's signed string that verified under a party's key is that of its answer. -/
theorem signed_answer (hkeys : ∀ i j,(parties i).verifyingKey=(parties j).verifyingKey → i=j)
    {p : ι} {signedPayload : Bytes}
    (h : HasSigned parties log (parties p).verifyingKey (answererSigningInput signedPayload)) :
    ∃ session callerNodeNumber req env answer,
      PeerEvent.answer p session callerNodeNumber req env answer∈log ∧
      answer.response.signedPayload=signedPayload := by
  rcases h with ⟨event,hm,i,hsigns,hkey⟩|hlength
  · obtain rfl := hkeys i p hkey
    generalize hmessage : answererSigningInput signedPayload=message at hsigns
    cases hsigns with
    | request => exact absurd hmessage.symm (callerSigningInput_ne_answerer _ _)
    | answer => exact ⟨_,_,_,_,_,hm,(answererSigningInput_injective hmessage).symm⟩
  · have hlong := answererSigningInput_length signedPayload
    omega

/-- A completed call whose peer entry is a party's has the answer of that party. -/
theorem completed_with_party (hdecodes : C.Decodes)
    (hkeys : ∀ i j,(parties i).verifyingKey=(parties j).verifyingKey → i=j)
    (run : PeerRun parties log) {n : ℕ} {c p : ι} {call : PeerCall}
    {response : StartConnectionResponse} {key : SessionKey}
    (hget : log[n]?=some (.complete c call response key))
    (hentry : HonestEntry (parties p) call.peerNode) :
    ∃ session callerNodeNumber req env answer,
      PeerEvent.answer p session callerNodeNumber req env answer∈log ∧
      key.connectionId=session.connectionIdCounter ∧
      key.sharedSecret=C.diffieHellman call.seed (C.x25519PublicKey env.seed) := by
  have hstep := PeerRun.step run hget
  cases hstep.performs with
  | complete completes =>
    obtain ⟨payload,hverified,_,rfl⟩ := complete_eq_ok.mp completes
    have hsigned := signed_of_verifyResponse hverified hentry.2
    have hbefore := hstep.unforgeable _ _ p rfl hsigned
    obtain ⟨session,callerNodeNumber,req,env,answer,hm,hsame⟩ := signed_answer hkeys hbefore
    have hmem := List.mem_of_mem_take hm
    obtain ⟨k,hk⟩ := List.mem_iff_getElem?.mp hmem
    cases (PeerRun.step run hk).performs with
    | answer own number answers =>
      obtain ⟨requested,answererSdp,facts⟩ := answer_facts answers
      have hdecoded := decoded_of_verifySigned hverified
      rw [←hsame,facts.response] at hdecoded
      have hpayload := Option.some.inj (hdecoded.symm.trans (hdecodes.response _))
      refine ⟨session,callerNodeNumber,req,env,answer,hmem,?_,?_⟩
      · rw [hpayload]
      · rw [hpayload]

/-- An answered request whose caller entry is a party's is the request of that party. -/
theorem answered_to_party (hdecodes : C.Decodes)
    (hkeys : ∀ i j,(parties i).verifyingKey=(parties j).verifyingKey → i=j)
    (run : PeerRun parties log) {n : ℕ} {q p : ι} {session : ServingSession C}
    {callerNodeNumber : Int32} {req : StartConnectionRequest} {env : ServingEnvironment}
    {answer : SignedAnswer} {incoming : IncomingConnection}
    (hget : log[n]?=some (.answer q session callerNodeNumber req env answer))
    (hstarted : answer.started=some incoming)
    (hattributed : AttributedTo (parties p) session callerNodeNumber env) :
    ∃ node peerNodeNumber transport callEnv call,
      PeerEvent.request p node peerNodeNumber transport callEnv call∈log ∧
      incoming.sharedSecret=C.diffieHellman env.seed (C.x25519PublicKey callEnv.seed) := by
  have hstep := PeerRun.step run hget
  cases hstep.performs with
  | answer own number answers =>
    obtain ⟨payload,answererSdp,facts⟩ := answer_facts answers
    obtain ⟨roster,keys,callerNode,hroster,haccepted,hm,hn,hr,hverified⟩ := facts.vetted
    obtain ⟨listed,entry,hlisted,hentryMem,hentryNumber,_,hentry⟩ := hattributed
    obtain rfl := Except.ok.inj (hroster.symm.trans hlisted)
    obtain ⟨_,_,hbuilt,_,_⟩ := verifyRoster_eq_ok.mp haccepted
    have hsame : callerNode=entry :=
      hbuilt.invariant.entry_unique hm hentryMem (hn.trans hentryNumber.symm)
    subst hsame
    have hsigned := signed_of_verifyRequest hverified hentry.2
    have hbefore := hstep.unforgeable _ _ p rfl hsigned
    obtain ⟨node,peerNodeNumber,transport,callEnv,call,hmem,hpayloadBytes⟩ :=
      signed_request hkeys hbefore
    have hmemLog := List.mem_of_mem_take hmem
    obtain ⟨k,hk⟩ := List.mem_iff_getElem?.mp hmemLog
    cases (PeerRun.step run hk).performs with
    | request ownKey starts =>
      obtain ⟨hrequest,_,hkey⟩ := startCall_eq_ok starts
      have hdecoded := decoded_of_verifySigned hverified
      rw [←hpayloadBytes,hrequest] at hdecoded
      have hpayload := Option.some.inj (hdecoded.symm.trans (hdecodes.request _))
      refine ⟨node,peerNodeNumber,transport,callEnv,call,hmemLog,?_⟩
      rw [(facts.started incoming hstarted).2.2,hpayload,hkey]

/-- Whoever has a secret in common agrees on both ends and on the connection id. -/
def KeysAgree (parties : ι→Party C) (log : List (PeerEvent C ι)) : Prop :=
  ∀ (c q : ι) (call : PeerCall) (response : StartConnectionResponse) (key : SessionKey)
    (session : ServingSession C) (callerNodeNumber : Int32) (req : StartConnectionRequest)
    (env : ServingEnvironment) (answer : SignedAnswer) (incoming : IncomingConnection),
    .complete c call response key∈log → .answer q session callerNodeNumber req env answer∈log →
    answer.started=some incoming → incoming.sharedSecret=key.sharedSecret →
    call.peerNodeNumber=(parties q).nodeNumber ∧
      incoming.callerNodeNumber=(parties c).nodeNumber ∧ key.connectionId=incoming.connectionId

/-- If a completed call and a started connection have one secret, then the answerer
is the called peer and has its connection id, if that peer is honest; and the caller is
the member the answerer passes on, if that member is honest. -/
theorem session_keys_agree (hdecodes : C.Decodes)
    (hkeys : ∀ i j,(parties i).verifyingKey=(parties j).verifyingKey → i=j)
    (run : PeerRun parties log)
    (hideal : IdealExchange C (log.filterMap drawnSeed) (log.filterMap receivedKey)) {c q : ι}
    {call : PeerCall} {response : StartConnectionResponse} {key : SessionKey}
    {session : ServingSession C} {callerNodeNumber : Int32} {req : StartConnectionRequest}
    {env : ServingEnvironment} {answer : SignedAnswer} {incoming : IncomingConnection}
    (hcomplete : PeerEvent.complete c call response key∈log)
    (hanswer : PeerEvent.answer q session callerNodeNumber req env answer∈log)
    (hstarted : answer.started=some incoming) (hsame : incoming.sharedSecret=key.sharedSecret) :
    (∀ p,HonestEntry (parties p) call.peerNode →
      p=q ∧ key.connectionId=incoming.connectionId) ∧
    (∀ p,AttributedTo (parties p) session callerNodeNumber env →
      p=c ∧ incoming.callerNodeNumber=(parties c).nodeNumber) := by
  obtain ⟨n,hn⟩ := List.mem_iff_getElem?.mp hcomplete
  obtain ⟨m,hm⟩ := List.mem_iff_getElem?.mp hanswer
  obtain ⟨node,peerNodeNumber,transport,callEnv,hasked⟩ :=
    (PeerRun.step run hn).asked c call response key rfl
  have hrequest := List.mem_of_mem_take hasked
  obtain ⟨k,hk⟩ := List.mem_iff_getElem?.mp hrequest
  have hseed : call.seed=callEnv.seed := by
    cases (PeerRun.step run hk).performs with
    | request own starts => exact (startCall_eq_ok starts).2.1
  have hcallSeed : call.seed∈log.filterMap drawnSeed :=
    List.mem_filterMap.mpr ⟨_,hrequest,congrArg some hseed.symm⟩
  have hanswerSeed : env.seed∈log.filterMap drawnSeed := List.mem_filterMap.mpr ⟨_,hanswer,rfl⟩
  have hapart : C.x25519PublicKey call.seed≠C.x25519PublicKey env.seed := by
    intro hequal
    have hposition := PeerRun.drawn_once run hk hm (congrArg some (congrArg _ hseed.symm))
      (congrArg some hequal.symm)
    subst hposition
    cases hk.symm.trans hm
  constructor
  · intro p hentry
    obtain ⟨session',caller',req',env',answer',hanswer',hid,hsecret⟩ :=
      completed_with_party hdecodes hkeys run hn hentry
    cases (PeerRun.step run hm).performs with
    | answer own number answers =>
      obtain ⟨payload,answererSdp,facts⟩ := answer_facts answers
      obtain ⟨_,hincomingId,hincoming⟩ := facts.started incoming hstarted
      obtain ⟨_,_,_,_,_,_,_,_,hverified⟩ := facts.vetted
      have hreceived : payload.callerX25519PublicKey∈log.filterMap receivedKey :=
        List.mem_filterMap.mpr
          ⟨_,hanswer,congrArg (Option.map _) (decoded_of_verifySigned hverified)⟩
      have hagree := hsecret.symm.trans (hsame.symm.trans hincoming)
      rcases hideal _ hcallSeed _ hanswerSeed env'.seed
        (List.mem_filterMap.mpr ⟨_,hanswer',rfl⟩) _ hreceived hagree with ⟨hequal,_⟩|⟨_,hequal⟩
      · exact absurd hequal hapart
      · obtain ⟨m',hm'⟩ := List.mem_iff_getElem?.mp hanswer'
        have hposition := PeerRun.drawn_once run hm' hm rfl (congrArg some hequal.symm)
        subst hposition
        obtain ⟨rfl,rfl,_⟩ := PeerEvent.answer.inj (Option.some.inj (hm'.symm.trans hm))
        exact ⟨rfl,hid.trans hincomingId.symm⟩
  · intro p hattributed
    obtain ⟨node',peer',transport',callEnv',call',hrequest',hsecret⟩ :=
      answered_to_party hdecodes hkeys run hm hstarted hattributed
    cases (PeerRun.step run hn).performs with
    | complete completes =>
      obtain ⟨payload,hverified,_,rfl⟩ := complete_eq_ok.mp completes
      have hreceived : payload.answererX25519PublicKey∈log.filterMap receivedKey :=
        List.mem_filterMap.mpr
          ⟨_,hcomplete,congrArg (Option.map _) (decoded_of_verifySigned hverified)⟩
      have hagree := hsecret.symm.trans hsame
      rcases hideal _ hanswerSeed _ hcallSeed callEnv'.seed
        (List.mem_filterMap.mpr ⟨_,hrequest',rfl⟩) _ hreceived hagree with ⟨hequal,_⟩|⟨_,hequal⟩
      · exact absurd hequal.symm hapart
      · obtain ⟨k',hk'⟩ := List.mem_iff_getElem?.mp hrequest'
        have hposition := PeerRun.drawn_once run hk' hk rfl
          (congrArg some ((congrArg _ hseed.symm).trans hequal.symm))
        subst hposition
        obtain ⟨rfl,_⟩ := PeerEvent.request.inj (Option.some.inj (hk'.symm.trans hk))
        cases (PeerRun.step run hm).performs with
        | answer own number answers =>
          obtain ⟨_,_,facts⟩ := answer_facts answers
          obtain ⟨_,entry,_,_,hnumber,_,hentry⟩ := hattributed
          exact ⟨rfl,((facts.started incoming hstarted).1.trans hnumber.symm).trans hentry.1⟩

end Runs

end Model

/-- Nodes 1 and 2 of the trio are honest. -/
def twoParties : Fin 2→Party sealedCrypto
  | 0 => ⟨1,(1 : UInt8)⟩
  | 1 => ⟨2,(2 : UInt8)⟩

/-- The registration of node 1. -/
def firstRegistration : NodeRegistration := ⟨"group",1,"token",""⟩

/-- Node 1 is activated in the trio. -/
def firstCaller : Node sealedCrypto.toCrypto :=
  ⟨.activated firstRegistration sealedTrio,⟨[1],some firstRegistration⟩,(1 : UInt8)⟩

/-- The servers of the trio. -/
def trioServers : StunTurnConfig :=
  ⟨"stun.example:3478","turn.example:3478","user","password",0⟩

/-- The environment of node 1's call. -/
def firstEnvironment : CallEnvironment where
  hub := relayingHub sealedTrio none
  stunTurnConfig := fun _ => .ok trioServers
  iceCaller := fun _ => .ok "offer"
  seed := List.replicate 32 1
  rttEstimate := none
  startConnection := fun _ _ => .error .connection
  iceConnect := fun _ => .ok ()

/-- Node 1's call to a peer with a key. -/
def callTo (peer : Int32) (peerKey : UInt8) : PeerCall :=
  buildCall sealedCrypto (1 : UInt8) firstRegistration ⟨peer,symbolicSpki peerKey,false⟩ peer
    .datagram trioServers "offer" firstEnvironment

/-- A request to node 2 with node 1's ephemeral key, signed by a key. -/
def requestBy (callerKey : UInt8) : StartConnectionRequest :=
  buildSignedRequest sealedCrypto callerKey (callTo 2 2).payload

/-- What node 2 answers. -/
def secondAnswer (caller : Int32) : SignedAnswer :=
  secondSession.signAnswer caller (callTo 2 2).payload 1 "answer" trioServing

/-- An answer with node 2's ephemeral key, signed by a key. -/
def responseBy (peerKey : UInt8) (connectionId : Int64) : StartConnectionResponse :=
  buildSignedResponse sealedCrypto peerKey
    ⟨connectionId,sealedCrypto.x25519PublicKey trioServing.seed,"answer"⟩

/-- What node 1 derives from that. -/
def firstSessionKey (connectionId : Int64) : SessionKey :=
  ⟨connectionId,sealedCrypto.diffieHellman firstEnvironment.seed
    (sealedCrypto.x25519PublicKey trioServing.seed),"answer"⟩

/-- Node 1 calls a peer, node 2 answers a request under a caller number, and node 1
accepts an answer of its peer. -/
def exchangeLog (peer : Int32) (peerKey : UInt8) (caller : Int32) (callerKey : UInt8)
    (connectionId : Int64) : List (PeerEvent sealedCrypto (Fin 2)) :=
  [.request 0 firstCaller peer .datagram firstEnvironment (callTo peer peerKey),
    .answer 1 secondSession caller (requestBy callerKey) trioServing (secondAnswer caller),
    .complete 0 (callTo peer peerKey) (responseBy peerKey connectionId)
      (firstSessionKey connectionId)]

/-- The two keys are different. -/
theorem twoParties_keys (i j : Fin 2)
    (h : (twoParties i).verifyingKey=(twoParties j).verifyingKey) : i=j := by
  match i,j,h with
  | 0,0,_ => rfl
  | 1,1,_ => rfl
  | 0,1,h => exact absurd h (show (1 : UInt8)≠2 by decide)
  | 1,0,h => exact absurd h (show (2 : UInt8)≠1 by decide)

/-- Neither is that of member 3. -/
theorem twoParties_ne_third (i : Fin 2) : (twoParties i).signingKey≠(3 : UInt8) := by
  match i with
  | 0 => exact show (1 : UInt8)≠3 by decide
  | 1 => exact show (2 : UInt8)≠3 by decide

/-- A sealed signature verifies under the key that made it only. -/
theorem signer_of_sealed {i : Fin 2} {key : UInt8} {message signature : Bytes}
    (hsignature : signature=sealedCrypto.sign key message)
    (h : EnvelopeSigned (twoParties i).verifyingKey message signature) :
    (twoParties i).signingKey=key := by
  have hverify : sealedCrypto.verify=fun key message signature =>
      signature==sealSignature key message := rfl
  have hsign : sealedCrypto.sign=sealSignature := rfl
  have hverified := h.2
  rw [hverify] at hverified
  rw [hsign] at hsignature
  exact (sealSignature_key (hsignature.symm.trans (beq_iff_eq.mp hverified))).symm

/-- Every answered exchange has one secret on both sides. -/
theorem secondAnswer_started (caller : Int32) (connectionId : Int64) :
    ∃ incoming,(secondAnswer caller).started=some incoming ∧
      incoming.callerNodeNumber=caller ∧ incoming.connectionId=1 ∧
      incoming.sharedSecret=(firstSessionKey connectionId).sharedSecret :=
  ⟨_,rfl,rfl,rfl,rfl⟩

/-- The exchange is a run when member 3 signs what is not from nodes 1 and 2. -/
theorem exchangeLog_run (peer : Int32) (peerKey : UInt8) (caller : Int32) (callerKey : UInt8)
    (connectionId : Int64)
    (hstart : (Node.startCall firstCaller peer .datagram firstEnvironment).2=
      .ok (callTo peer peerKey))
    (hlisted : ⟨caller,symbolicSpki callerKey,false⟩∈sealedTrio.nodes)
    (hcaller : callerKey=3 ∨ callerKey=1 ∧ peer=2 ∧ peerKey=2)
    (hpeer : peerKey=3 ∨ peerKey=2 ∧ connectionId=1) :
    PeerRun twoParties (exchangeLog peer peerKey caller callerKey connectionId) := by
  obtain ⟨keys,hkeys⟩ := sealedTrio_accepted
  have hverified : verifyRequest sealedCrypto (requestBy callerKey) (symbolicSpki callerKey)=
      .ok (callTo 2 2).payload := verifyRequest_built sealedCrypto_spkiRoundTrip
    sealedCrypto_signsCorrectly sealedCrypto_decodes callerKey (callTo 2 2).payload
  have hvetted : Vetted secondSession caller (requestBy callerKey) trioServing.hub
      (callTo 2 2).payload :=
    ⟨sealedTrio,keys,_,rfl,hkeys,hlisted,rfl,rfl,hverified⟩
  have hanswers := handleStartConnectionRequest_eq_ok.mpr
    ⟨rfl,(callTo 2 2).payload,"answer",hvetted,⟨rfl,_,rfl,rfl⟩,rfl⟩
  have haccepted : verifyResponse sealedCrypto (responseBy peerKey connectionId)
      (symbolicSpki peerKey)=
      .ok ⟨connectionId,sealedCrypto.x25519PublicKey trioServing.seed,"answer"⟩ :=
    verifyResponse_built sealedCrypto_spkiRoundTrip sealedCrypto_signsCorrectly
      sealedCrypto_decodes peerKey _
  have hcompletes : (callTo peer peerKey).complete sealedCrypto (responseBy peerKey connectionId)=
      .ok (firstSessionKey connectionId) := complete_eq_ok.mpr ⟨_,haccepted,rfl,rfl⟩
  have hrequest : PeerStep twoParties []
      (.request 0 firstCaller peer .datagram firstEnvironment (callTo peer peerKey)) := by
    refine ⟨.request rfl hstart,fun _ _ => List.not_mem_nil,?_,?_⟩
    · intro message signature i hchecked
      cases hchecked
    · intro i call response key hevent
      cases hevent
  have hanswer : PeerStep twoParties
      [.request 0 firstCaller peer .datagram firstEnvironment (callTo peer peerKey)]
      (.answer 1 secondSession caller (requestBy callerKey) trioServing (secondAnswer caller)) := by
    refine ⟨.answer rfl rfl hanswers,?_,?_,?_⟩
    · intro key hdrawn
      obtain rfl := Option.some.inj hdrawn
      have hapart : sealedCrypto.x25519PublicKey trioServing.seed∉
          [sealedCrypto.x25519PublicKey firstEnvironment.seed] := by decide +kernel
      exact hapart
    · intro message signature i hchecked hsigned
      obtain ⟨rfl,rfl⟩ := Prod.mk.inj (Option.some.inj hchecked)
      have hsigner := signer_of_sealed (buildSignedRequest_signature _ _ _) hsigned
      rcases hcaller with rfl|⟨rfl,rfl,rfl⟩
      · exact absurd hsigner (twoParties_ne_third i)
      · exact .inl ⟨_,List.mem_singleton_self _,0,.request,congrArg sealedCrypto.verifyingKey hsigner.symm⟩
    · intro i call response key hevent
      cases hevent
  have hcomplete : PeerStep twoParties
      [.request 0 firstCaller peer .datagram firstEnvironment (callTo peer peerKey),
        .answer 1 secondSession caller (requestBy callerKey) trioServing (secondAnswer caller)]
      (.complete 0 (callTo peer peerKey) (responseBy peerKey connectionId)
        (firstSessionKey connectionId)) := by
    refine ⟨.complete hcompletes,?_,?_,?_⟩
    · intro key hdrawn
      cases hdrawn
    · intro message signature i hchecked hsigned
      obtain ⟨rfl,rfl⟩ := Prod.mk.inj (Option.some.inj hchecked)
      have hsigner := signer_of_sealed (buildSignedResponse_signature _ _ _) hsigned
      rcases hpeer with rfl|⟨rfl,rfl⟩
      · exact absurd hsigner (twoParties_ne_third i)
      · exact .inl ⟨_,List.mem_cons_of_mem _ (List.mem_singleton_self _),1,.answer,
          congrArg sealedCrypto.verifyingKey hsigner.symm⟩
    · intro i call response key hevent
      obtain ⟨rfl,rfl,_,_⟩ := PeerEvent.complete.inj hevent
      exact ⟨_,_,_,_,List.mem_cons_self⟩
  exact PeerRun.next (PeerRun.next (PeerRun.next .start hrequest) hanswer) hcomplete

/-- Its exchanges are ideal. -/
theorem exchangeLog_ideal (peer : Int32) (peerKey : UInt8) (caller : Int32) (callerKey : UInt8)
    (connectionId : Int64) :
    IdealExchange sealedCrypto
      ((exchangeLog peer peerKey caller callerKey connectionId).filterMap drawnSeed)
      ((exchangeLog peer peerKey caller callerKey connectionId).filterMap receivedKey) := by
  have hseeds : (exchangeLog peer peerKey caller callerKey connectionId).filterMap drawnSeed=
      [firstEnvironment.seed,trioServing.seed] := rfl
  have hreceived : (exchangeLog peer peerKey caller callerKey connectionId).filterMap receivedKey=
      [sealedCrypto.x25519PublicKey firstEnvironment.seed,
        sealedCrypto.x25519PublicKey trioServing.seed] := by
    have hanswer : receivedKey (.answer 1 secondSession caller (requestBy callerKey) trioServing
        (secondAnswer caller) : PeerEvent sealedCrypto (Fin 2))=
        some (sealedCrypto.x25519PublicKey firstEnvironment.seed) :=
      congrArg (Option.map _) (sealedCrypto_decodes.request (callTo 2 2).payload)
    have hcomplete : receivedKey (.complete 0 (callTo peer peerKey)
        (responseBy peerKey connectionId) (firstSessionKey connectionId) :
        PeerEvent sealedCrypto (Fin 2))=some (sealedCrypto.x25519PublicKey trioServing.seed) :=
      congrArg (Option.map _) (sealedCrypto_decodes.response _)
    rw [exchangeLog,List.filterMap_cons_none rfl,List.filterMap_cons_some hanswer,
      List.filterMap_cons_some hcomplete,List.filterMap_nil]
  rw [hseeds,hreceived]
  unfold IdealExchange
  decide +kernel

/-- Node 1 calls node 2: it is answered by node 2, which passes on node 1. -/
theorem session_keys_agree_honest :
    ∃ incoming,(secondAnswer 1).started=some incoming ∧
      (firstSessionKey 1).connectionId=incoming.connectionId ∧ incoming.callerNodeNumber=1 := by
  obtain ⟨incoming,hstarted,_,_,hsecret⟩ := secondAnswer_started 1 1
  have hrun := exchangeLog_run 2 2 1 1 1 rfl List.mem_cons_self (.inr ⟨rfl,rfl,rfl⟩)
    (.inr ⟨rfl,rfl⟩)
  obtain ⟨hpeer,hcaller⟩ := session_keys_agree sealedCrypto_decodes twoParties_keys hrun
    (exchangeLog_ideal 2 2 1 1 1) (List.mem_cons_of_mem _ (List.mem_cons_of_mem _ List.mem_cons_self))
    (List.mem_cons_of_mem _ List.mem_cons_self) hstarted hsecret
  have hattributed : AttributedTo (twoParties 0) secondSession 1 trioServing :=
    ⟨sealedTrio,⟨1,symbolicSpki 1,false⟩,rfl,List.mem_cons_self,rfl,rfl,rfl,rfl⟩
  exact ⟨incoming,hstarted,(hpeer 1 ⟨rfl,rfl⟩).2,(hcaller 0 hattributed).2⟩

/-- Node 1 calls member 3, which has node 2 answer and passes the answer on as its own;
or node 1 calls node 2, and member 3 passes the call on as its own. -/
theorem passed_on_key_misattributed :
    (PeerRun twoParties (exchangeLog 3 3 3 3 7) ∧
      IdealExchange sealedCrypto ((exchangeLog 3 3 3 3 7).filterMap drawnSeed)
        ((exchangeLog 3 3 3 3 7).filterMap receivedKey) ∧
      ¬KeysAgree twoParties (exchangeLog 3 3 3 3 7) ∧
      (callTo 3 3).peerNodeNumber≠(twoParties 1).nodeNumber ∧
      ∀ incoming,(secondAnswer 3).started=some incoming →
        (firstSessionKey 7).connectionId≠incoming.connectionId) ∧
    PeerRun twoParties (exchangeLog 2 2 3 3 1) ∧
      IdealExchange sealedCrypto ((exchangeLog 2 2 3 3 1).filterMap drawnSeed)
        ((exchangeLog 2 2 3 3 1).filterMap receivedKey) ∧
      ¬KeysAgree twoParties (exchangeLog 2 2 3 3 1) := by
  have hlisted : ⟨3,symbolicSpki 3,false⟩∈sealedTrio.nodes := by decide +kernel
  have hdisagree : ∀ (peer : Int32) (peerKey : UInt8) (connectionId : Int64),
      ¬KeysAgree twoParties (exchangeLog peer peerKey 3 3 connectionId) := by
    intro peer peerKey connectionId hagree
    obtain ⟨incoming,hstarted,hcaller,_,hsecret⟩ := secondAnswer_started 3 connectionId
    have hall := hagree _ _ _ _ _ _ _ _ _ _ incoming
      (List.mem_cons_of_mem _ (List.mem_cons_of_mem _ List.mem_cons_self))
      (List.mem_cons_of_mem _ List.mem_cons_self) hstarted hsecret
    exact absurd (hcaller.symm.trans hall.2.1) (show (3 : Int32)≠1 by decide)
  have hapart : ∀ incoming,(secondAnswer 3).started=some incoming →
      (firstSessionKey 7).connectionId≠incoming.connectionId := by
    intro incoming hstarted
    obtain ⟨other,hother,_,hid,_⟩ := secondAnswer_started 3 7
    obtain rfl := Option.some.inj (hstarted.symm.trans hother)
    rw [hid]
    exact show (7 : Int64)≠1 by decide
  exact ⟨⟨exchangeLog_run 3 3 3 3 7 rfl hlisted (.inl rfl) (.inl rfl),
      exchangeLog_ideal 3 3 3 3 7,hdisagree 3 3 7,show (3 : Int32)≠2 by decide,hapart⟩,
    exchangeLog_run 2 2 3 3 1 rfl hlisted (.inl rfl) (.inr ⟨rfl,rfl⟩),
    exchangeLog_ideal 2 2 3 3 1,hdisagree 2 2 1⟩

end WispersConnect.SessionKeys
