import WispersConnect.NodeLifecycle
import WispersConnect.PeerEncoding
import WispersConnect.VerifiedRosters

/-!
# Setting up a connection between two nodes

The caller of `node.rs` looks up its peer in the roster, signs a request and
checks the signed answer; the answerer of `serving.rs` checks a request that the
hub attributes to a caller and signs an answer. Both sides derive a shared secret
from ephemeral keys that travel in the signed payloads. The answerer does not
compare the node the request is for with itself.
-/

namespace WispersConnect.PeerConnections

open Messages OutcomeMonad Cryptography FirstMatch RosterBuilders RosterVerification RosterChain
open NodeLifecycle PeerSigning PeerEncoding SymbolicCrypto VerifiedRosters RosterReplay
open RosterHistory

/-- `Transport`. -/
inductive Transport where
  /-- Encrypted datagrams. -/
  | datagram
  /-- QUIC streams. -/
  | stream
  deriving DecidableEq

/-- The number of a transport on the wire. -/
def Transport.toInt32 : Transport→Int32
  | datagram => 0
  | stream => 1

/-- `Payload::transport`: an unknown number reads as the default. -/
def transportOf (value : Int32) : Transport := if value=1 then .stream else .datagram

/-- `ServingSession`, as far as it answers connection requests. -/
structure ServingSession (C : PeerCrypto) where
  /-- The registration the session fetches rosters under. -/
  registration : NodeRegistration
  /-- The node's own key. -/
  signingKey : C.SigningKey
  /-- The next connection id, from 1. -/
  connectionIdCounter : Int64

/-- What the outside answers while one request is handled. -/
structure ServingEnvironment where
  /-- The hub. -/
  hub : Hub
  /-- `IceAnswerer::new`: the local description, or the text of the error. -/
  iceAnswerer : String→StunTurnConfig→Except String String
  /-- The seed of the ephemeral key. -/
  seed : Bytes
  /-- The answer could be handed to the hub stream. -/
  responseSent : Bool
  /-- The node's own round trip to the hub, in nanoseconds. -/
  ownRtt : Option ℕ

/-- What the task that completes an incoming connection is started with. -/
structure IncomingConnection where
  /-- The caller that the connection is passed on with. -/
  callerNodeNumber : Int32
  /-- The id put into the answer. -/
  connectionId : Int64
  /-- The key material of the connection. -/
  sharedSecret : Bytes
  /-- The transport that was asked for. -/
  transport : Transport
  /-- Nanoseconds to wait before the ICE checks. -/
  startDelay : ℕ
  deriving DecidableEq

/-- What handling a request comes to once the answer is signed. -/
structure SignedAnswer where
  /-- The signed answer. -/
  response : StartConnectionResponse
  /-- The connection, unless the answer could not be sent. -/
  started : Option IncomingConnection
  deriving DecidableEq

/-- The texts sent back when the roster cannot be had. -/
def rosterErrorText : HubError→String
  | .rosterVerification (.verifierNotInRoster _) => "node not yet activated"
  | .rosterVerification (.verifierRevoked _) => "node has been revoked"
  | _ => "internal error"

/-- `compute_check_start_delay`, in nanoseconds: a negative or zero estimate is none. -/
def computeCheckStartDelay (ownRtt : Option ℕ) (callerHubRttUsec callerIceStartDelayUsec : Int64) :
    ℕ :=
  let theirRtt := if 0<callerHubRttUsec then some (callerHubRttUsec.toInt.toNat*1000) else none
  let callerWait := callerIceStartDelayUsec.toInt.toNat*1000
  let signaling := match theirRtt,ownRtt with
    | some d1,some d2 => (d1+d2)/2
    | some d1,none => d1
    | none,some d2 => d2
    | none,none => 0
  signaling+callerWait

section Serving

variable {C : PeerCrypto}

/-- `handle_start_connection_request` up to the verified payload. -/
def ServingSession.checkRequest (session : ServingSession C) (callerNodeNumber : Int32)
    (req : StartConnectionRequest) (hub : Hub) : Outcome String RequestPayload := do
  (Outcome.ofExcept hub.connect).mapErr fun _ => "internal error"
  let roster ← (hub.getAndVerifyRoster C.toCrypto session.registration
    (C.publicKeySpki session.signingKey)).mapErr rosterErrorText
  let callerNode ← findCaller roster callerNodeNumber
  (verifyRequest C req callerNode.publicKeySpki).mapErr fun _ => "signature verification failed"

/-- `handle_start_connection_request` from the ephemeral key on. -/
def ServingSession.signAnswer (session : ServingSession C) (callerNodeNumber : Int32)
    (payload : RequestPayload) (connectionId : Int64) (answererSdp : String)
    (env : ServingEnvironment) : SignedAnswer :=
  let responsePayload : ResponsePayload :=
    ⟨connectionId,C.x25519PublicKey env.seed,answererSdp⟩
  let sharedSecret := C.diffieHellman env.seed payload.callerX25519PublicKey
  ⟨buildSignedResponse C session.signingKey responsePayload,
    if env.responseSent=true then
      some ⟨callerNodeNumber,connectionId,sharedSecret,transportOf payload.transport,
        computeCheckStartDelay env.ownRtt payload.callerHubRttUsec payload.callerIceStartDelayUsec⟩
    else none⟩

/-- `handle_start_connection_request`: the session with its counter moved on, and
the signed answer or the text of the error sent back. -/
def ServingSession.handleStartConnectionRequest (session : ServingSession C)
    (callerNodeNumber : Int32) (req : StartConnectionRequest) (env : ServingEnvironment) :
    ServingSession C×Outcome String SignedAnswer :=
  match session.checkRequest callerNodeNumber req env.hub with
  | .ok payload =>
    if payload.callerX25519PublicKey.length≠32 then (session,.err "invalid X25519 public key")
    else
      let connectionId := session.connectionIdCounter
      ({session with connectionIdCounter := connectionId+1},do
        let stunTurnConfig ← Outcome.okOr payload.stunTurnConfig "missing STUN/TURN config"
        let answererSdp ← (Outcome.ofExcept
          (env.iceAnswerer payload.callerSdp stunTurnConfig)).mapErr fun e => "ICE error: "++e
        pure (session.signAnswer callerNodeNumber payload connectionId answererSdp env))
  | .err e => (session,.err e)
  | .panic m => (session,.panic m)

end Serving

/-- `P2pError`, as far as a connection attempt returns it up to its shared secret. -/
inductive ConnectError where
  /-- An error that the roster lookup returns too. -/
  | p2p (error : P2pError)
  /-- `Ice`, with its text. -/
  | ice (text : String)
  deriving DecidableEq

/-- What the outside answers during one connection attempt. -/
structure CallEnvironment where
  /-- The hub. -/
  hub : Hub
  /-- `get_stun_turn_config`. -/
  stunTurnConfig : NodeRegistration→Except HubError StunTurnConfig
  /-- `IceCaller::new` and the local description. -/
  iceCaller : StunTurnConfig→Except String String
  /-- The seed of the ephemeral key. -/
  seed : Bytes
  /-- The node's own round trip to the hub, in microseconds. -/
  rttEstimate : Option ℕ
  /-- `start_connection`, relayed to the peer. -/
  startConnection : NodeRegistration→StartConnectionRequest→
    Except HubError StartConnectionResponse
  /-- `IceCaller::connect`. -/
  iceConnect : String→Except String Unit

/-- What a caller has at hand between its request and the answer. -/
structure PeerCall where
  /-- The registration it acts under. -/
  registration : NodeRegistration
  /-- The peer it calls. -/
  peerNodeNumber : Int32
  /-- The peer's entry in the roster. -/
  peerNode : RosterNode
  /-- The seed of its ephemeral key. -/
  seed : Bytes
  /-- What it signed. -/
  payload : RequestPayload
  /-- The signed request. -/
  request : StartConnectionRequest
  deriving DecidableEq

/-- What both sides of a connection hold. -/
structure SessionKey where
  /-- The id the answerer chose. -/
  connectionId : Int64
  /-- The shared secret. -/
  sharedSecret : Bytes
  /-- The answerer's ICE description. -/
  answererSdp : String
  deriving DecidableEq

/-- `CALLER_ICE_START_DELAY`, in microseconds. -/
def callerIceStartDelayUsec : Int64 := 50000

/-- The estimate in microseconds as an `i64`, zero when there is none or it does not fit. -/
def rttUsec (rttEstimate : Option ℕ) : Int64 :=
  let usec := rttEstimate.getD 0
  if usec<2^63 then Int64.ofNat usec else 0

section Calling

variable {C : PeerCrypto}

/-- The signed request of a caller. -/
def buildCall (C : PeerCrypto) (signingKey : C.SigningKey) (registration : NodeRegistration)
    (peerNode : RosterNode) (peerNodeNumber : Int32) (transport : Transport)
    (stunTurnConfig : StunTurnConfig) (callerSdp : String) (env : CallEnvironment) : PeerCall :=
  let payload : RequestPayload :=
    ⟨peerNodeNumber,C.x25519PublicKey env.seed,callerSdp,transport.toInt32,some stunTurnConfig,
      rttUsec env.rttEstimate,callerIceStartDelayUsec⟩
  ⟨registration,peerNodeNumber,peerNode,env.seed,payload,
    buildSignedRequest C signingKey payload⟩

/-- The common body of `connect_udp` and `connect_quic` up to the signed request,
with the node as the roster lookup leaves it. -/
def Node.startCall (node : Node C.toCrypto) (peerNodeNumber : Int32) (transport : Transport)
    (env : CallEnvironment) : Node C.toCrypto×Outcome ConnectError PeerCall :=
  let found : Outcome ConnectError (NodeRegistration×Node C.toCrypto×RosterNode) := do
    Outcome.reject (node.state≠.activated) (.p2p .notActivated)
    let registration ← Outcome.expect node.persisted.registration "activated"
    (Outcome.ofExcept env.hub.connect).mapErr fun e => .p2p (.hub e)
    let (node,peerNode) ← (node.findPeerInRoster peerNodeNumber env.hub).mapErr .p2p
    pure (registration,node,peerNode)
  match found with
  | .ok (registration,node,peerNode) => (node,do
      let stunTurnConfig ← (Outcome.ofExcept (env.stunTurnConfig registration)).mapErr
        fun e => .p2p (.hub e)
      let callerSdp ← (Outcome.ofExcept (env.iceCaller stunTurnConfig)).mapErr .ice
      pure (buildCall C node.signingKey registration peerNode peerNodeNumber transport
        stunTurnConfig callerSdp env))
  | .err e => (node,.err e)
  | .panic m => (node,.panic m)

/-- The check of the answer and the derivation of the shared secret. -/
def PeerCall.complete (C : PeerCrypto) (call : PeerCall) (response : StartConnectionResponse) :
    Outcome ConnectError SessionKey := do
  let payload ← (verifyResponse C response call.peerNode.publicKeySpki).mapErr
    fun _ => .p2p .signatureVerificationFailed
  Outcome.reject (payload.answererX25519PublicKey.length≠32) (.p2p .signatureVerificationFailed)
  pure ⟨payload.connectionId,C.diffieHellman call.seed payload.answererX25519PublicKey,
    payload.answererSdp⟩

/-- The common body of `connect_udp` and `connect_quic` up to the transport on top of ICE. -/
def Node.connect (node : Node C.toCrypto) (peerNodeNumber : Int32) (transport : Transport)
    (env : CallEnvironment) : Node C.toCrypto×Outcome ConnectError SessionKey :=
  let (node,started) := Node.startCall node peerNodeNumber transport env
  (node,do
    let call ← started
    let response ← (Outcome.ofExcept (env.startConnection call.registration call.request)).mapErr
      fun e => .p2p (.hub e)
    let key ← call.complete C response
    (Outcome.ofExcept (env.iceConnect key.answererSdp)).mapErr .ice
    pure key)

/-- `connect_udp`. -/
def Node.connectUdp (node : Node C.toCrypto) (peerNodeNumber : Int32) (env : CallEnvironment) :
    Node C.toCrypto×Outcome ConnectError SessionKey :=
  Node.connect node peerNodeNumber .datagram env

/-- `connect_quic`. -/
def Node.connectQuic (node : Node C.toCrypto) (peerNodeNumber : Int32) (env : CallEnvironment) :
    Node C.toCrypto×Outcome ConnectError SessionKey :=
  Node.connect node peerNodeNumber .stream env

end Calling

section Answering

variable {C : PeerCrypto} {session : ServingSession C} {callerNodeNumber : Int32}
  {req : StartConnectionRequest}

/-- The hub's roster verifies for this node, lists the claimed caller as active, and
the request verifies under the caller's listed key. -/
def Vetted (session : ServingSession C) (callerNodeNumber : Int32) (req : StartConnectionRequest)
    (hub : Hub) (payload : RequestPayload) : Prop :=
  ∃ roster keys callerNode,hub.getUnverifiedRoster session.registration=.ok roster ∧
    verifyRoster C.toCrypto roster session.registration.nodeNumber
      (C.publicKeySpki session.signingKey)=.ok keys ∧
    callerNode∈roster.nodes ∧ callerNode.nodeNumber=callerNodeNumber ∧
    callerNode.revoked=false ∧ verifyRequest C req callerNode.publicKeySpki=.ok payload

/-- The checks up to the verified payload pass exactly on vetted requests. -/
theorem checkRequest_eq_ok {hub : Hub} {payload : RequestPayload} :
    session.checkRequest callerNodeNumber req hub=.ok payload ↔
      hub.connect=.ok () ∧ Vetted session callerNodeNumber req hub payload := by
  simp only [ServingSession.checkRequest,Hub.getAndVerifyRoster,Outcome.bind_eq_ok,
    Outcome.mapErr_eq_ok,Outcome.ofExcept_eq_ok,Outcome.pure_eq_ok,Outcome.ok.injEq]
  constructor
  · rintro ⟨_,hconnect,roster,⟨_,hroster,keys,hkeys,rfl⟩,callerNode,hcaller,hrequest⟩
    obtain ⟨_,_,hbuilt,_,_⟩ := verifyRoster_eq_ok.mp hkeys
    obtain ⟨hm,hn,hr⟩ := (findCaller_eq_ok hbuilt.invariant).mp hcaller
    exact ⟨hconnect,_,keys,callerNode,hroster,hkeys,hm,hn,hr,hrequest⟩
  · rintro ⟨hconnect,roster,keys,callerNode,hroster,hkeys,hm,hn,hr,hrequest⟩
    obtain ⟨_,_,hbuilt,_,_⟩ := verifyRoster_eq_ok.mp hkeys
    have hcaller := (findCaller_eq_ok hbuilt.invariant).mpr ⟨hm,hn,hr⟩
    exact ⟨(),hconnect,roster,⟨roster,hroster,keys,hkeys,rfl⟩,callerNode,hcaller,hrequest⟩

/-- What a vetted request needs beyond that to be answered. -/
def Answerable (payload : RequestPayload) (env : ServingEnvironment) (answererSdp : String) :
    Prop :=
  payload.callerX25519PublicKey.length=32 ∧ ∃ stunTurnConfig,
    payload.stunTurnConfig=some stunTurnConfig ∧
    env.iceAnswerer payload.callerSdp stunTurnConfig=.ok answererSdp

/-- A request that is answerable is answered once it has passed the checks. -/
theorem handleStartConnectionRequest_of_checked {env : ServingEnvironment}
    {payload : RequestPayload} {answererSdp : String}
    (hchecked : session.checkRequest callerNodeNumber req env.hub=.ok payload)
    (hanswerable : Answerable payload env answererSdp) :
    session.handleStartConnectionRequest callerNodeNumber req env=
      ({session with connectionIdCounter := session.connectionIdCounter+1},
        .ok (session.signAnswer callerNodeNumber payload session.connectionIdCounter answererSdp
          env)) := by
  obtain ⟨hlength,config,hconfig,hsdp⟩ := hanswerable
  unfold ServingSession.handleStartConnectionRequest
  rw [hchecked]
  dsimp only
  rw [if_neg (not_not_intro hlength),hconfig]
  dsimp only [Outcome.okOr,Outcome.ok_bind]
  rw [hsdp]
  rfl

/-- A request is answered exactly when it is vetted and answerable. -/
theorem handleStartConnectionRequest_eq_ok {env : ServingEnvironment} {answer : SignedAnswer} :
    (session.handleStartConnectionRequest callerNodeNumber req env).2=.ok answer ↔
      env.hub.connect=.ok () ∧ ∃ payload answererSdp,
        Vetted session callerNodeNumber req env.hub payload ∧
        Answerable payload env answererSdp ∧
        answer=session.signAnswer callerNodeNumber payload session.connectionIdCounter
          answererSdp env := by
  have hcheck := @checkRequest_eq_ok C session callerNodeNumber req env.hub
  unfold ServingSession.handleStartConnectionRequest
  cases hresult : session.checkRequest callerNodeNumber req env.hub with
  | ok payload =>
    obtain ⟨hconnect,hvetted⟩ := hcheck.mp hresult
    have hunique : ∀ {other},Vetted session callerNodeNumber req env.hub other → other=payload :=
      fun h => Outcome.ok.inj ((hcheck.mpr ⟨hconnect,h⟩).symm.trans hresult)
    by_cases hlength : payload.callerX25519PublicKey.length=32
    · simp only [ne_eq,hlength,not_true_eq_false,if_false,Outcome.bind_eq_ok,Outcome.okOr_eq_ok,
        Outcome.mapErr_eq_ok,Outcome.ofExcept_eq_ok,Outcome.pure_eq_ok,Outcome.ok.injEq]
      constructor
      · rintro ⟨config,hconfig,answererSdp,hsdp,rfl⟩
        exact ⟨hconnect,payload,answererSdp,hvetted,⟨hlength,config,hconfig,hsdp⟩,rfl⟩
      · rintro ⟨_,other,answererSdp,hother,⟨_,config,hconfig,hsdp⟩,rfl⟩
        obtain rfl := hunique hother
        exact ⟨config,hconfig,answererSdp,hsdp,rfl⟩
    · dsimp only
      rw [if_pos hlength]
      constructor
      · intro h
        cases h
      · rintro ⟨_,other,_,hother,⟨hlong,_⟩,_⟩
        obtain rfl := hunique hother
        exact absurd hlong hlength
  | err e =>
    constructor
    · intro h
      cases h
    · rintro ⟨hconnect,payload,_,hvetted,_⟩
      cases hresult.symm.trans (hcheck.mpr ⟨hconnect,hvetted⟩)
  | panic m =>
    constructor
    · intro h
      cases h
    · rintro ⟨hconnect,payload,_,hvetted,_⟩
      cases hresult.symm.trans (hcheck.mpr ⟨hconnect,hvetted⟩)

/-- A request that would be answered, but names another node. -/
def Misdirected (session : ServingSession C) (callerNodeNumber : Int32)
    (req : StartConnectionRequest) (env : ServingEnvironment) : Prop :=
  env.hub.connect=.ok () ∧ ∃ payload answererSdp,
    Vetted session callerNodeNumber req env.hub payload ∧ Answerable payload env answererSdp ∧
    payload.answererNodeNumber≠session.registration.nodeNumber

end Answering

/-- Every answered request is vetted. That answered requests name the answering node
holds of a request exactly when it is not a misdirected one. -/
theorem answers_own_requests_iff (C : PeerCrypto) (session : ServingSession C)
    (callerNodeNumber : Int32) (req : StartConnectionRequest) (env : ServingEnvironment) :
    (∀ answer,(session.handleStartConnectionRequest callerNodeNumber req env).2=.ok answer →
      ∃ payload,Vetted session callerNodeNumber req env.hub payload) ∧
    ((∀ answer,(session.handleStartConnectionRequest callerNodeNumber req env).2=.ok answer →
      ∃ payload,Vetted session callerNodeNumber req env.hub payload ∧
        payload.answererNodeNumber=session.registration.nodeNumber) ↔
      ¬Misdirected session callerNodeNumber req env) := by
  constructor
  · intro answer h
    obtain ⟨_,payload,_,hvetted,_⟩ := handleStartConnectionRequest_eq_ok.mp h
    exact ⟨payload,hvetted⟩
  · constructor
    · rintro hown ⟨hconnect,payload,answererSdp,hvetted,hanswerable,hother⟩
      have hanswers := handleStartConnectionRequest_eq_ok.mpr
        ⟨hconnect,payload,answererSdp,hvetted,hanswerable,rfl⟩
      obtain ⟨found,hfound,hsame⟩ := hown _ hanswers
      have hagree : payload=found := Outcome.ok.inj
        ((checkRequest_eq_ok.mpr ⟨hconnect,hvetted⟩).symm.trans
          (checkRequest_eq_ok.mpr ⟨hconnect,hfound⟩))
      exact hother (hagree ▸ hsame)
    · intro hdirected answer h
      obtain ⟨hconnect,payload,answererSdp,hvetted,hanswerable,_⟩ :=
        handleStartConnectionRequest_eq_ok.mp h
      refine ⟨payload,hvetted,?_⟩
      by_contra hother
      exact hdirected ⟨hconnect,payload,answererSdp,hvetted,hanswerable,hother⟩

/-- Node 2 serves connections. -/
def secondSession : ServingSession sealedCrypto := ⟨secondRegistration,(2 : UInt8),1⟩

/-- An environment of the trio in which everything goes through. -/
def trioServing : ServingEnvironment where
  hub := relayingHub sealedTrio none
  iceAnswerer := fun _ _ => .ok "answer"
  seed := List.replicate 32 2
  responseSent := true
  ownRtt := none

/-- What node 1 asks of node 3. -/
def thirdRequestPayload : RequestPayload :=
  ⟨3,sealedCrypto.x25519PublicKey (List.replicate 32 1),"offer",0,
    some ⟨"stun.example:3478","turn.example:3478","user","password",0⟩,0,50000⟩

/-- The request of node 1 to node 3. -/
def thirdRequest : StartConnectionRequest :=
  buildSignedRequest sealedCrypto (1 : UInt8) thirdRequestPayload

/-- A sealed signature verifies under its key. -/
theorem sealSignature_verifies (key : UInt8) (message : Bytes) :
    verifySignature sealedCrypto.toCrypto key message (sealSignature key message)=.ok () := by
  have hparse : sealedCrypto.signatureFromSlice (sealSignature key message)=
      some (sealSignature key message) := if_pos (sealSignature_length key message)
  have hverify : sealedCrypto.verify key message (sealSignature key message)=true :=
    beq_self_eq_true _
  exact verifySignature_eq_ok.mpr ⟨_,hparse,hverify⟩

/-- The signature of a key over a state without signatures verifies on that state. -/
theorem sealedSign_verifies (key : UInt8) {unsigned : Roster}
    (h : clearLatestAddendumSignatures unsigned=unsigned) :
    verifySignature sealedCrypto.toCrypto key (signingHash sealedCrypto.toCrypto unsigned)
      (sealedSign key unsigned)=.ok () := by
  rw [sealedSign,h]
  exact sealSignature_verifies key _

/-- The pair is an honest founding. -/
theorem sealedPair_founded : HonestBootstrap sealedCrypto.toCrypto sealedPair := by
  let payload : ActivationPayload := ⟨1,2,1,[21],[11]⟩
  let unsigned := bootstrapState payload (symbolicSpki 2) (symbolicSpki 1)
    (unsignedActivation payload)
  have hclear : clearLatestAddendumSignatures unsigned=unsigned :=
    clearLatest_signedActivation 1 [⟨1,symbolicSpki 1,false⟩,⟨2,symbolicSpki 2,false⟩] [] payload
      [] []
  have facts : BootstrapFacts sealedCrypto.toCrypto payload (symbolicSpki 2) (symbolicSpki 1)
      (sealedSign 2 unsigned) (sealedSign 1 unsigned) (2 : UInt8) (1 : UInt8) :=
    ⟨rfl,by decide,rfl,rfl,sealedSign_verifies 2 hclear,sealedSign_verifies 1 hclear⟩
  exact (honestBootstrap_iff _ _).mpr ⟨_,_,_,_,_,_,_,facts,rfl⟩

/-- Node 3 joins the pair by an honest step. -/
theorem sealedTrio_step : HonestStep sealedCrypto.toCrypto sealedPair sealedTrio := by
  let payload : ActivationPayload := ⟨2,3,2,[32],[22]⟩
  let unsigned := activationState sealedPair payload (symbolicSpki 3) (unsignedActivation payload)
  have hclear : clearLatestAddendumSignatures unsigned=unsigned :=
    clearLatest_signedActivation 2 _ sealedPair.addenda payload [] []
  have hendorser : ActiveWithKey sealedCrypto.toCrypto sealedPair 2 (2 : UInt8) :=
    ⟨⟨2,symbolicSpki 2,false⟩,List.mem_cons_of_mem _ List.mem_cons_self,rfl,rfl,rfl⟩
  have hfresh : ∀ node∈sealedPair.nodes,node.nodeNumber≠3 := by
    intro node hnode
    simp only [sealedPair,sealedActivated,bootstrapState,List.mem_cons,List.not_mem_nil,
      or_false] at hnode
    rcases hnode with rfl|rfl <;> decide
  have facts : ActivationFacts sealedCrypto.toCrypto sealedPair payload (symbolicSpki 3)
      (sealedSign 3 unsigned) (sealedSign 2 unsigned) (3 : UInt8) (2 : UInt8) :=
    ⟨rfl,hfresh,hendorser,rfl,sealedSign_verifies 3 hclear,sealedSign_verifies 2 hclear⟩
  exact (honestStep_iff _ _ _).mpr (.inl ⟨_,_,_,_,_,_,facts,rfl⟩)

/-- An honestly built roster that lists node 2 under its key is accepted by node 2. -/
theorem sealed_accepted {roster : Roster} (hbuilt : HonestlyBuilt sealedCrypto.toCrypto roster)
    (hlisted : ⟨2,symbolicSpki 2,false⟩∈roster.nodes) :
    ∃ keys,verifyRoster sealedCrypto.toCrypto roster 2 (symbolicSpki 2)=.ok keys := by
  obtain ⟨keys,hkeys⟩ := HonestlyBuilt.exists_activeKeys hbuilt
  have hactive : ActiveWithKey sealedCrypto.toCrypto roster 2 (2 : UInt8) :=
    ⟨_,hlisted,rfl,rfl,rfl⟩
  exact ⟨keys,verifyRoster_eq_ok.mpr ⟨(2 : UInt8),rfl,hbuilt,hkeys,hactive⟩⟩

/-- Node 2 accepts the roster of the trio. -/
theorem sealedTrio_accepted : ∃ keys,
    verifyRoster sealedCrypto.toCrypto sealedTrio 2 (symbolicSpki 2)=.ok keys :=
  sealed_accepted (.step (.bootstrap sealedPair_founded) sealedTrio_step)
    (List.mem_cons_of_mem _ List.mem_cons_self)

/-- The request of node 1 passes the checks of node 2, whatever the id of its next connection. -/
theorem thirdRequest_vetted (connectionId : Int64) :
    Vetted {secondSession with connectionIdCounter := connectionId} 1 thirdRequest trioServing.hub
      thirdRequestPayload := by
  obtain ⟨keys,hkeys⟩ := sealedTrio_accepted
  have hverified : verifyRequest sealedCrypto thirdRequest (symbolicSpki 1)=
      .ok thirdRequestPayload := verifyRequest_built sealedCrypto_spkiRoundTrip
    sealedCrypto_signsCorrectly sealedCrypto_decodes (1 : UInt8) thirdRequestPayload
  exact ⟨sealedTrio,keys,⟨1,symbolicSpki 1,false⟩,rfl,hkeys,List.mem_cons_self,rfl,rfl,hverified⟩

/-- Node 2 answers it, and moves on to the next id. -/
theorem thirdRequest_answered (connectionId : Int64) :
    {secondSession with connectionIdCounter := connectionId}.handleStartConnectionRequest 1
        thirdRequest trioServing=
      ({secondSession with connectionIdCounter := connectionId+1},
        .ok (secondSession.signAnswer 1 thirdRequestPayload connectionId "answer" trioServing)) :=
  handleStartConnectionRequest_of_checked
    (checkRequest_eq_ok.mpr ⟨rfl,thirdRequest_vetted connectionId⟩) ⟨rfl,_,rfl,rfl⟩

/-- The hub delivers the request to node 2, which answers it and starts a connection. -/
theorem misdirected_request_answered :
    (∃ answer,(secondSession.handleStartConnectionRequest 1 thirdRequest trioServing).2=.ok answer ∧
      answer.started.isSome=true) ∧
    ¬∀ answer,(secondSession.handleStartConnectionRequest 1 thirdRequest trioServing).2=.ok answer →
      ∃ payload,Vetted secondSession 1 thirdRequest trioServing.hub payload ∧
        payload.answererNodeNumber=secondSession.registration.nodeNumber := by
  have hvetted : Vetted secondSession 1 thirdRequest trioServing.hub thirdRequestPayload :=
    thirdRequest_vetted 1
  have hanswers := handleStartConnectionRequest_eq_ok.mpr
    ⟨rfl,thirdRequestPayload,"answer",hvetted,⟨rfl,_,rfl,rfl⟩,rfl⟩
  refine ⟨⟨_,hanswers,rfl⟩,?_⟩
  intro hown
  obtain ⟨found,hfound,hsame⟩ := hown _ hanswers
  have hagree : thirdRequestPayload=found := Outcome.ok.inj
    ((checkRequest_eq_ok.mpr ⟨rfl,hvetted⟩).symm.trans (checkRequest_eq_ok.mpr ⟨rfl,hfound⟩))
  rw [←hagree] at hsame
  exact absurd hsame (by decide)

end WispersConnect.PeerConnections
