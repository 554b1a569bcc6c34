import WispersConnect.ActivationSteps
import WispersConnect.PairingSecrets

/-!
# Pairing through an untrusted hub

Any number of endorsers and activating nodes run their pairing through a hub that
relays, drops, repeats, reflects and invents messages. Without an issued secret
the hub can only deliver authenticated payloads that an honest party
authenticated before. An activation that accepts a reply then agrees with its
code's issuer on numbers, key and both nonces.
-/

namespace WispersConnect.PairingAgreement

open Messages OutcomeMonad Cryptography PairingCodes NodeLifecycle Endorsing ActivationSteps
open EndorserRuns PairingSecrets Runs RosterEncoding SymbolicCrypto

/-- An `activate` call of a registered node with a code that parses. -/
structure PairingCall (C : Crypto) where
  /-- The node that activates. -/
  node : Node C
  /-- The registration it activates under. -/
  registration : NodeRegistration
  /-- The code as it was typed. -/
  activationCode : Bytes
  /-- The code as it was parsed. -/
  code : PairingCode
  /-- The nonce drawn for the call. -/
  nonce : Bytes
  /-- The node is registered. -/
  registered : node.inner=.registered registration
  /-- The code parses. -/
  parsed : PairingCode.parse activationCode=.ok code

section Calls

variable {C : Crypto}

/-- The payload of the call's request. -/
def PairingCall.payload (call : PairingCall C) : PairNodesPayload :=
  ⟨call.registration.nodeNumber,call.code.nodeNumber,C.publicKeySpki call.node.signingKey,
    call.nonce,[]⟩

/-- The request that the call sends. -/
def PairingCall.request (call : PairingCall C) : PairNodesMessage :=
  pairingRequest C call.node.signingKey call.registration.nodeNumber call.code call.nonce

/-- The call's checks on a reply. -/
def PairingCall.check (call : PairingCall C) (message : PairNodesMessage) :
    Outcome NodeStateError PairNodesPayload :=
  checkPairingReply C call.registration.nodeNumber call.code call.nonce message

end Calls

/-- What happens at the honest parties. -/
inductive PairingEvent (C : Crypto) (ι : Type) where
  /-- A call to the endorsing state of one endorser. -/
  | endorser (e : ι) (event : EndorserEvent)
  /-- An activation sends its request. -/
  | request (call : PairingCall C)
  /-- A reply is delivered to an activation. -/
  | response (call : PairingCall C) (message : PairNodesMessage)

section Model

variable {C : Crypto} {ι : Type} [DecidableEq ι]

/-- The nonce that is drawn in an event: by a request, or by a successful pairing. -/
def drawnNonce : PairingEvent C ι→Option Bytes
  | .request call => some call.nonce
  | .endorser _ (.pairNodes _ _ ourNonce _ (.ok _)) => some ourNonce
  | _ => none

/-- The secret that is drawn for a new code in an event. -/
def drawnCodeSecret : PairingEvent C ι→Option PairingSecret
  | .endorser _ event => drawnSecret event
  | _ => none

/-- The message that the hub delivers in an event. -/
def deliveredMessage : PairingEvent C ι→Option PairNodesMessage
  | .endorser _ (.pairNodes message _ _ _ _) => some message
  | .response _ message => some message
  | _ => none

/-- An honest party computes the MAC of the payload under the secret in the event. -/
inductive Authenticates (secret : PairingSecret) (payload : PairNodesPayload) :
    PairingEvent C ι→Prop where
  /-- For its request. -/
  | request {call : PairingCall C} (own : call.code.secret=secret) (sent : call.payload=payload) :
      Authenticates secret payload (.request call)
  /-- For its reply. -/
  | reply {e : ι} {message reply : PairNodesMessage} {now : ℕ} {ourNonce : Bytes}
      (sent : reply.payload=some payload) :
      Authenticates secret payload
        (.endorser e (.pairNodes message now ourNonce (some secret) (.ok reply)))

/-- The hub knows no issued secret: what it delivers either fails under all of
them, or its payload's bytes were authenticated before. -/
def HubCanDeliver (log : List (PairingEvent C ι)) (message : PairNodesMessage) : Prop :=
  ∀ payload secret,message.payload=some payload → secret∈log.filterMap drawnCodeSecret →
    secret.verifyMac C (C.encodePairNodesPayload payload) message.mac=true →
    ∃ event∈log,∃ authenticated,Authenticates secret authenticated event ∧
      C.encodePairNodesPayload authenticated=C.encodePairNodesPayload payload

/-- The endorsing states move with the calls to them. -/
inductive Moves (endorsers : ι→Endorser C) (before : ι→EndorsingState) :
    PairingEvent C ι→(ι→EndorsingState)→Prop where
  /-- One endorser's state moves. -/
  | endorser {e : ι} {event : EndorserEvent} {next : EndorsingState}
      (call : EndorserStep (endorsers e) (before e) event next) :
      Moves endorsers before (.endorser e event) (Function.update before e next)
  /-- A request moves none. -/
  | request {call : PairingCall C} : Moves endorsers before (.request call) before
  /-- Nor does a reply. -/
  | response {call : PairingCall C} {message : PairNodesMessage} :
      Moves endorsers before (.response call message) before

/-- One event among honest parties and the hub. -/
structure PairingStep (endorsers : ι→Endorser C) (log : List (PairingEvent C ι))
    (before : ι→EndorsingState) (event : PairingEvent C ι) (after : ι→EndorsingState) : Prop where
  /-- The states move. -/
  moves : Moves endorsers before event after
  /-- Secrets of new codes are fresh. -/
  freshSecret : ∀ secret,drawnCodeSecret event=some secret → secret∉log.filterMap drawnCodeSecret
  /-- Nonces have 16 bytes and are fresh. -/
  freshNonce : ∀ nonce,drawnNonce event=some nonce →
    nonce.length=16 ∧ nonce∉log.filterMap drawnNonce
  /-- The hub delivers only what it can. -/
  delivers : ∀ message,deliveredMessage event=some message → HubCanDeliver log message
  /-- A reply is awaited only after the request was sent. -/
  asked : ∀ call message,event=.response call message → .request call∈log

/-- The runs of all parties, from endorsers that have issued no code. -/
abbrev PairingRun (endorsers : ι→Endorser C) : List (PairingEvent C ι)→(ι→EndorsingState)→Prop :=
  Run (PairingStep endorsers) fun _ => EndorsingState.new

/-- The call to one endorser that an event is, if it is one. -/
def callTo (e : ι) : PairingEvent C ι→Option EndorserEvent
  | .endorser e' event => if e'=e then some event else none
  | _ => none

/-- The calls to one endorser. -/
def callsTo (e : ι) (log : List (PairingEvent C ι)) : List EndorserEvent :=
  log.filterMap (callTo e)

/-- The calls to an endorser are its events. -/
theorem mem_callsTo {e : ι} {log : List (PairingEvent C ι)} {event : EndorserEvent} :
    event∈callsTo e log ↔ .endorser e event∈log := by
  rw [callsTo,List.mem_filterMap]
  constructor
  · rintro ⟨happened,hm,h⟩
    cases happened with
    | endorser e' event' =>
      rw [callTo] at h
      by_cases he : e'=e
      · rw [if_pos he] at h
        rw [←Option.some.inj h,←he]
        exact hm
      · rw [if_neg he] at h
        cases h
    | request call => cases h
    | response call message => cases h
  · intro hm
    exact ⟨_,hm,if_pos rfl⟩

/-- A call to an endorser is its latest call. -/
theorem callsTo_concat_same (e : ι) (log : List (PairingEvent C ι)) (event : EndorserEvent) :
    callsTo e (log++[.endorser e event])=callsTo e log++[event] := by
  have hsome : callTo e (.endorser e event : PairingEvent C ι)=some event := if_pos rfl
  rw [callsTo,List.filterMap_append,List.filterMap_cons_some hsome]
  rfl

/-- Other events are no calls to it. -/
theorem callsTo_concat_other {e : ι} {event : PairingEvent C ι}
    (h : ∀ call,event≠.endorser e call) (log : List (PairingEvent C ι)) :
    callsTo e (log++[event])=callsTo e log := by
  have hnone : callsTo e [event]=[] := by
    refine List.eq_nil_iff_forall_not_mem.mpr fun call hm => ?_
    have hevent := List.mem_singleton.mp (mem_callsTo.mp hm)
    exact h call hevent.symm
  rw [callsTo,List.filterMap_append]
  change callsTo e log++callsTo e [event]=callsTo e log
  rw [hnone,List.append_nil]

/-- What an endorser drew is drawn in the run. -/
theorem drawn_of_callsTo {e : ι} {log : List (PairingEvent C ι)} {secret : PairingSecret}
    (h : secret∈(callsTo e log).filterMap drawnSecret) :
    ∃ event,.endorser e event∈log ∧ drawnSecret event=some secret := by
  obtain ⟨event,hm,hdrawn⟩ := List.mem_filterMap.mp h
  exact ⟨event,mem_callsTo.mp hm,hdrawn⟩

variable {endorsers : ι→Endorser C}

/-- In every run the secrets of each endorser keep their invariant. -/
theorem secrets_invariant {log : List (PairingEvent C ι)} {world : ι→EndorsingState}
    (run : PairingRun endorsers log world) (e : ι) :
    SecretsInvariant (callsTo e log) (world e).pairingSecrets := by
  refine @Run.invariant (PairingEvent C ι) (ι→EndorsingState) _ _
    (fun log world => SecretsInvariant (callsTo e log) (world e).pairingSecrets)
    ?_ ?_ log world run
  · exact SecretsInvariant.start
  intro log before event after _ ih hstep
  have hfresh := hstep.freshSecret
  cases hstep.moves with
  | @endorser e' event next call =>
    by_cases he : e'=e
    · subst he
      rw [callsTo_concat_same,Function.update_self]
      refine ih.step ?_ (EndorserStep.secrets call)
      intro secret hdrawn hm
      obtain ⟨earlier,hearlier,hsame⟩ := drawn_of_callsTo hm
      exact hfresh secret hdrawn (List.mem_filterMap.mpr ⟨_,hearlier,hsame⟩)
    · have hother : ∀ call,PairingEvent.endorser (C:=C) e' event≠.endorser e call := by
        intro call h
        cases h
        exact he rfl
      rw [callsTo_concat_other hother,Function.update_of_ne (Ne.symm he)]
      exact ih
  | request =>
    rw [callsTo_concat_other (fun call h => by cases h)]
    exact ih
  | response =>
    rw [callsTo_concat_other (fun call h => by cases h)]
    exact ih

/-- A nonce is drawn once. -/
theorem nonce_drawn_once {log : List (PairingEvent C ι)} {world : ι→EndorsingState}
    (run : PairingRun endorsers log world) {i j : ℕ} {a b : PairingEvent C ι} {nonce : Bytes}
    (hi : log[i]?=some a) (hj : log[j]?=some b) (ha : drawnNonce a=some nonce)
    (hb : drawnNonce b=some nonce) : i=j :=
  run.drawn_once (fun _ _ _ _ nonce hstep h => (hstep.freshNonce nonce h).2) hi hj ha hb

/-- A secret is drawn once. -/
theorem secret_drawn_once {log : List (PairingEvent C ι)} {world : ι→EndorsingState}
    (run : PairingRun endorsers log world) {i j : ℕ} {a b : PairingEvent C ι}
    {secret : PairingSecret} (hi : log[i]?=some a) (hj : log[j]?=some b)
    (ha : drawnCodeSecret a=some secret) (hb : drawnCodeSecret b=some secret) : i=j :=
  run.drawn_once (fun _ _ _ _ secret hstep h => hstep.freshSecret secret h) hi hj ha hb

/-- Only one endorser draws a secret. -/
theorem secret_drawn_by_one {log : List (PairingEvent C ι)} {world : ι→EndorsingState}
    (run : PairingRun endorsers log world) {e e' : ι} {event event' : EndorserEvent}
    {secret : PairingSecret} (h : .endorser e event∈log) (h' : .endorser e' event'∈log)
    (hdrawn : drawnSecret event=some secret) (hdrawn' : drawnSecret event'=some secret) : e=e' := by
  obtain ⟨i,hi⟩ := List.mem_iff_getElem?.mp h
  obtain ⟨j,hj⟩ := List.mem_iff_getElem?.mp h'
  have hij := secret_drawn_once run hi hj hdrawn hdrawn'
  subst hij
  cases Option.some.inj (hi.symm.trans hj)
  rfl

/-- What a successful pairing in a run consists of. -/
structure PairingFacts (endorsers : ι→Endorser C) (log : List (PairingEvent C ι)) (j : ℕ) (e : ι)
    (message reply : PairNodesMessage) (ourNonce : Bytes) (used : Option PairingSecret)
    (payload : PairNodesPayload) (secret : PairingSecret) (before after : ι→EndorsingState) :
    Prop where
  /-- The states before it. -/
  earlier : PairingRun endorsers (log.take j) before
  /-- The states after it. -/
  later : PairingRun endorsers (log.take (j+1)) after
  /-- The hub delivered the request. -/
  delivered : HubCanDeliver (log.take j) message
  /-- One secret verified it. -/
  isUsed : used=some secret
  /-- The request has a payload. -/
  hasPayload : message.payload=some payload
  /-- The secret authenticates the payload. -/
  mac : message.mac=secret.computeMac C (C.encodePairNodesPayload payload)
  /-- The reply is made with the same secret. -/
  answers : reply=pairingReply C (endorsers e).signingKey (endorsers e).nodeNumber secret payload
    ourNonce
  /-- The secret was outstanding before. -/
  outstanding : ∃ ts∈(before e).pairingSecrets,ts.secret=secret
  /-- It is not outstanding after. -/
  removed : ∀ ts∈(after e).pairingSecrets,ts.secret≠secret
  /-- The sender is pending with its key and both nonces. -/
  isPending : (after e).pendingEndorsements.lookup payload.senderNodeNumber=
    some ⟨payload.publicKeySpki,payload.nonce,ourNonce⟩

/-- Every successful pairing of a run has these facts. -/
theorem pairing_facts {log : List (PairingEvent C ι)} {world : ι→EndorsingState}
    (run : PairingRun endorsers log world) {j : ℕ} {e : ι} {message reply : PairNodesMessage}
    {now : ℕ} {ourNonce : Bytes} {used : Option PairingSecret}
    (h : log[j]?=some (.endorser e (.pairNodes message now ourNonce used (.ok reply)))) :
    ∃ payload secret before after,
      PairingFacts endorsers log j e message reply ourNonce used payload secret before after := by
  obtain ⟨before,after,hbefore,hstep,hafter⟩ := run.at h
  have hdelivered := hstep.delivers message rfl
  cases hstep.moves with
  | @endorser _ _ next step =>
    have hstepped := step
    cases step with
    | pairNodes call =>
      rcases pairNodes_cases C (before e) message (endorsers e).nodeNumber
        (endorsers e).signingKey now ourNonce
        with ⟨_,state',error,heq,_⟩|⟨payload,ts,secrets,hsome,hpayload,hmac,hperm,heq⟩
      · have hresult := congrArg Prod.snd (heq.symm.trans call)
        cases hresult
      · have hnext := congrArg Prod.fst (heq.symm.trans call)
        have hreply := congrArg Prod.snd (heq.symm.trans call)
        dsimp only at hnext hreply
        refine ⟨payload,ts.secret,before,_,hbefore,hafter,hdelivered,?_,hpayload,
          (verifyMac_iff C _ _ _).mp hmac,(Except.ok.inj hreply).symm,?_,?_,?_⟩
        · rw [hsome,Option.map_some]
        · have hm := hperm.subset List.mem_cons_self
          exact ⟨ts,(pruneExpired_sublist (before e) now).subset hm,rfl⟩
        · intro other ho hsame
          have hinvariant := secrets_invariant hafter e
          have hcall := mem_callsTo.mpr (mem_take_iff.mpr ⟨j,Nat.lt_succ_self j,h⟩)
          refine hinvariant.unused other ho (List.mem_filterMap.mpr ⟨_,hcall,?_⟩)
          rw [usedSecret,hsome,Option.map_some,hsame]
        · rw [Function.update_self,←hnext]
          exact Finmap.lookup_insert _

/-- The secret of a pairing was drawn by its endorser. -/
theorem PairingFacts.drawn {log : List (PairingEvent C ι)} {j : ℕ} {e : ι}
    {message reply : PairNodesMessage} {ourNonce : Bytes} {used : Option PairingSecret}
    {payload : PairNodesPayload} {secret : PairingSecret} {before after : ι→EndorsingState}
    (facts : PairingFacts endorsers log j e message reply ourNonce used payload secret before
      after) :
    ∃ event,.endorser e event∈log.take j ∧ drawnSecret event=some secret := by
  obtain ⟨ts,hts,rfl⟩ := facts.outstanding
  exact drawn_of_callsTo ((secrets_invariant facts.earlier e).drawn ts hts)

/-- The payload of a pairing request was authenticated by an honest party before. -/
theorem PairingFacts.authenticated (hinj : Function.Injective C.encodePairNodesPayload)
    {log : List (PairingEvent C ι)} {j : ℕ} {e : ι}
    {message reply : PairNodesMessage} {ourNonce : Bytes} {used : Option PairingSecret}
    {payload : PairNodesPayload} {secret : PairingSecret} {before after : ι→EndorsingState}
    (facts : PairingFacts endorsers log j e message reply ourNonce used payload secret before
      after) :
    ∃ event∈log.take j,Authenticates secret payload event := by
  obtain ⟨drawing,hdrawing,hdrawn⟩ := facts.drawn
  have hissued : secret∈(log.take j).filterMap drawnCodeSecret :=
    List.mem_filterMap.mpr ⟨_,hdrawing,hdrawn⟩
  have hmac := (verifyMac_iff C secret (C.encodePairNodesPayload payload) message.mac).mpr facts.mac
  obtain ⟨event,hm,authenticated,hauth,hencode⟩ :=
    facts.delivered payload secret facts.hasPayload hissued hmac
  rw [hinj hencode] at hauth
  exact ⟨event,hm,hauth⟩

/-- A secret is used up by one pairing only. -/
theorem secret_used_once {log : List (PairingEvent C ι)} {world : ι→EndorsingState}
    (run : PairingRun endorsers log world) {i j : ℕ} {e e' : ι}
    {message reply message' reply' : PairNodesMessage} {now now' : ℕ} {ourNonce ourNonce' : Bytes}
    {secret : PairingSecret}
    (hi : log[i]?=some (.endorser e (.pairNodes message now ourNonce (some secret) (.ok reply))))
    (hj : log[j]?=
      some (.endorser e' (.pairNodes message' now' ourNonce' (some secret) (.ok reply')))) :
    i=j := by
  have hnot : ∀ {i j : ℕ} {e e' : ι} {message reply message' reply' : PairNodesMessage}
      {now now' : ℕ} {ourNonce ourNonce' : Bytes},
      log[i]?=some (.endorser e (.pairNodes message now ourNonce (some secret) (.ok reply))) →
      log[j]?=some
        (.endorser e' (.pairNodes message' now' ourNonce' (some secret) (.ok reply'))) →
      ¬i<j := by
    intro i j e e' message reply message' reply' now now' ourNonce ourNonce' hi hj hlt
    obtain ⟨payload,used,before,after,facts⟩ := pairing_facts run hi
    obtain ⟨payload',used',before',after',facts'⟩ := pairing_facts run hj
    obtain rfl := Option.some.inj facts.isUsed
    obtain rfl := Option.some.inj facts'.isUsed
    obtain ⟨drawing,hdrawing,hdrawn⟩ := facts.drawn
    obtain ⟨drawing',hdrawing',hdrawn'⟩ := facts'.drawn
    have hsame : e=e' := secret_drawn_by_one run (List.mem_of_mem_take hdrawing)
      (List.mem_of_mem_take hdrawing') hdrawn hdrawn'
    subst hsame
    obtain ⟨ts,hts,hsecret⟩ := facts'.outstanding
    have hinvariant := secrets_invariant facts'.earlier e
    have hcall := mem_callsTo.mpr (mem_take_iff.mpr ⟨i,hlt,hi⟩)
    refine hinvariant.unused ts hts (List.mem_filterMap.mpr ⟨_,hcall,?_⟩)
    rw [usedSecret,hsecret]
  have hleft := hnot hi hj
  have hright := hnot hj hi
  omega

/-- A pairing on a payload with the nonce of a call is on exactly that call's
request, under its secret. -/
theorem pairing_of_nonce (hinj : Function.Injective C.encodePairNodesPayload)
    {log : List (PairingEvent C ι)} {world : ι→EndorsingState}
    (run : PairingRun endorsers log world) {call : PairingCall C} (hcall : .request call∈log)
    {j : ℕ} {e : ι} {message reply : PairNodesMessage} {ourNonce : Bytes}
    {used : Option PairingSecret} {payload : PairNodesPayload} {secret : PairingSecret}
    {before after : ι→EndorsingState}
    (facts : PairingFacts endorsers log j e message reply ourNonce used payload secret before
      after) (hnonce : payload.nonce=call.nonce) :
    secret=call.code.secret ∧ message=call.request := by
  obtain ⟨i,hi⟩ := List.mem_iff_getElem?.mp hcall
  obtain ⟨event,hm,hauth⟩ := facts.authenticated hinj
  obtain ⟨k,hk⟩ := List.mem_iff_getElem?.mp (List.mem_of_mem_take hm)
  cases hauth with
  | @request other own sent =>
    have hother : drawnNonce (.request other : PairingEvent C ι)=some call.nonce := by
      rw [drawnNonce,←hnonce,←sent]
      rfl
    have hik := nonce_drawn_once run hi hk rfl hother
    subst hik
    cases Option.some.inj (hi.symm.trans hk)
    refine ⟨own.symm,?_⟩
    have hmac := facts.mac
    have hpayload := facts.hasPayload
    rw [←sent] at hmac hpayload
    rw [←own] at hmac
    obtain ⟨messagePayload,messageMac⟩ := message
    dsimp only at hmac hpayload
    rw [hmac,hpayload]
    rfl
  | @reply e' message' reply' now' ourNonce' sent =>
    obtain ⟨payload',secret',before',after',facts'⟩ := pairing_facts run hk
    have hours : payload.nonce=ourNonce' := by
      rw [facts'.answers] at sent
      rw [←Option.some.inj sent]
    have hother : drawnNonce (.endorser e' (.pairNodes message' now' ourNonce' (some secret)
        (.ok reply')) : PairingEvent C ι)=some call.nonce := by
      rw [drawnNonce,←hours,hnonce]
    have hik := nonce_drawn_once run hi hk rfl hother
    subst hik
    cases Option.some.inj (hi.symm.trans hk)

/-- The endorser issued the code. -/
def Issued (e : ι) (code : PairingCode) (log : List (PairingEvent C ι)) : Prop :=
  ∃ ttlProfile pruneTime issueTime secret,
    .endorser e (.generateActivationCode ttlProfile pruneTime issueTime secret (.ok code))∈log

/-- An issued code names its issuer and carries the secret drawn for it. -/
theorem issued_code {log : List (PairingEvent C ι)} {world : ι→EndorsingState}
    (run : PairingRun endorsers log world) {e : ι} {code : PairingCode} (h : Issued e code log) :
    code.nodeNumber=(endorsers e).nodeNumber ∧
      ∃ event,.endorser e event∈log ∧ drawnSecret event=some code.secret := by
  obtain ⟨ttlProfile,pruneTime,issueTime,secret,hm⟩ := h
  obtain ⟨i,hi⟩ := List.mem_iff_getElem?.mp hm
  obtain ⟨before,after,_,hstep,_⟩ := run.at hi
  cases hstep.moves with
  | endorser step =>
    cases step with
    | generateActivationCode call =>
      have hresult := congrArg Prod.snd call
      unfold EndorsingState.generateActivationCode at hresult
      dsimp only at hresult
      split at hresult
      · cases hresult
      · obtain rfl := Except.ok.inj hresult
        exact ⟨rfl,_,hm,rfl⟩

/-- What the parties agree on when a call accepts a reply. -/
structure Agreement (endorsers : ι→Endorser C) (log : List (PairingEvent C ι)) (i : ℕ)
    (call : PairingCall C) (message : PairNodesMessage) (payload : PairNodesPayload) (e : ι) (j : ℕ)
    (before after : ι→EndorsingState) : Prop where
  /-- The endorser paired before the reply was accepted. -/
  earlier : j < i
  /-- It paired on exactly the call's request, with the call's secret, and its
  reply is the one accepted. -/
  paired : ∃ now,log[j]?=some (.endorser e
    (.pairNodes call.request now payload.nonce (some call.code.secret) (.ok message)))
  /-- The states before the pairing. -/
  runBefore : PairingRun endorsers (log.take j) before
  /-- The states after it. -/
  runAfter : PairingRun endorsers (log.take (j+1)) after
  /-- The code's secret was outstanding. -/
  outstanding : ∃ ts∈(before e).pairingSecrets,ts.secret=call.code.secret
  /-- The pairing removed it. -/
  removed : ∀ ts∈(after e).pairingSecrets,ts.secret≠call.code.secret
  /-- The node is pending with its key, its nonce and the nonce it received. -/
  isPending : (after e).pendingEndorsements.lookup call.registration.nodeNumber=
    some ⟨C.publicKeySpki call.node.signingKey,call.nonce,payload.nonce⟩
  /-- The reply carries the endorser's key. -/
  endorserKey : payload.publicKeySpki=C.publicKeySpki (endorsers e).signingKey
  /-- It carries the endorser's number, which the code names too. -/
  endorserNumber : payload.senderNodeNumber=(endorsers e).nodeNumber ∧
    call.code.nodeNumber=(endorsers e).nodeNumber
  /-- No other pairing was on the call's request. -/
  once : ∀ (j' : ℕ) (e' : ι) (now : ℕ) (ourNonce : Bytes) (used : Option PairingSecret)
    (reply : PairNodesMessage),
    log[j']?=some (.endorser e' (.pairNodes call.request now ourNonce used (.ok reply))) → j'=j
  /-- The accepted message is the reply of no other session. -/
  noReplay : ∀ (j' : ℕ) (e' : ι) (request : PairNodesMessage) (now : ℕ) (ourNonce : Bytes)
    (used : Option PairingSecret),
    log[j']?=some (.endorser e' (.pairNodes request now ourNonce used (.ok message))) → j'=j
  /-- It is no request. -/
  noReflection : ∀ other : PairingCall C,message≠other.request

/-- Any pairing on a payload with the call's nonce is the one that used the call's secret. -/
theorem pairing_unique (hinj : Function.Injective C.encodePairNodesPayload)
    {log : List (PairingEvent C ι)} {world : ι→EndorsingState}
    (run : PairingRun endorsers log world) {call : PairingCall C} (hcall : .request call∈log)
    {j j' : ℕ} {e e' : ι} {message message' reply reply' : PairNodesMessage} {now now' : ℕ}
    {ourNonce ourNonce' : Bytes} {used' : Option PairingSecret}
    (hj : log[j]?=some (.endorser e
      (.pairNodes message now ourNonce (some call.code.secret) (.ok reply))))
    (hj' : log[j']?=some (.endorser e' (.pairNodes message' now' ourNonce' used' (.ok reply'))))
    (hnonce : ∀ payload,message'.payload=some payload → payload.nonce=call.nonce) : j'=j := by
  obtain ⟨payload,secret,before,after,facts⟩ := pairing_facts run hj'
  obtain ⟨rfl,_⟩ := pairing_of_nonce hinj run hcall facts (hnonce payload facts.hasPayload)
  rw [facts.isUsed] at hj'
  exact secret_used_once run hj' hj

/-- The nonce of a call that was made has 16 bytes. -/
theorem request_nonce_length {log : List (PairingEvent C ι)} {world : ι→EndorsingState}
    (run : PairingRun endorsers log world) {call : PairingCall C} (hcall : .request call∈log) :
    call.nonce.length=16 := by
  obtain ⟨i,hi⟩ := List.mem_iff_getElem?.mp hcall
  obtain ⟨_,_,_,hstep,_⟩ := run.at hi
  exact (hstep.freshNonce call.nonce rfl).1

omit [DecidableEq ι] in
/-- A payload that answers a nonce is authenticated by a reply: requests answer none. -/
theorem authenticated_by_reply {secret : PairingSecret} {payload : PairNodesPayload}
    {event : PairingEvent C ι} (h : Authenticates secret payload event)
    (hanswers : payload.replyNonce≠[]) :
    ∃ e request reply now ourNonce,reply.payload=some payload ∧
      event=.endorser e (.pairNodes request now ourNonce (some secret) (.ok reply)) := by
  cases h with
  | @request call own sent =>
    rw [←sent] at hanswers
    exact absurd rfl hanswers
  | @reply e request reply now ourNonce sent => exact ⟨e,request,reply,now,ourNonce,sent,rfl⟩

/-- What the reply of a pairing says. -/
theorem PairingFacts.replied {log : List (PairingEvent C ι)} {j : ℕ} {e : ι}
    {message reply : PairNodesMessage} {ourNonce : Bytes} {used : Option PairingSecret}
    {requested payload : PairNodesPayload} {secret : PairingSecret} {before after : ι→EndorsingState}
    (facts : PairingFacts endorsers log j e message reply ourNonce used requested secret before
      after) (hpayload : reply.payload=some payload) :
    payload=⟨(endorsers e).nodeNumber,requested.senderNodeNumber,
      C.publicKeySpki (endorsers e).signingKey,ourNonce,requested.nonce⟩ := by
  rw [facts.answers] at hpayload
  exact (Option.some.inj hpayload).symm

/-- A message that carries the payload of a pairing's reply under the same secret is the reply. -/
theorem PairingFacts.reply_unique {log : List (PairingEvent C ι)} {j : ℕ} {e : ι}
    {request reply message : PairNodesMessage} {ourNonce : Bytes} {used : Option PairingSecret}
    {requested payload : PairNodesPayload} {secret : PairingSecret} {before after : ι→EndorsingState}
    (facts : PairingFacts endorsers log j e request reply ourNonce used requested secret before
      after) (hsent : reply.payload=some payload) (hpayload : message.payload=some payload)
    (hmac : secret.verifyMac C (C.encodePairNodesPayload payload) message.mac=true) :
    reply=message := by
  have hform := facts.replied hsent
  have htag := (verifyMac_iff C _ _ _).mp hmac
  obtain ⟨messagePayload,messageMac⟩ := message
  dsimp only at hpayload htag
  rw [facts.answers,pairingReply,hpayload,htag,hform]

end Model

/-- In every run, a call that accepts a reply under a code of an honest endorser
agrees with that endorser, whose one pairing on the call's request used up the code. -/
theorem accepted_reply_agreement (C : Crypto) (ι : Type) [DecidableEq ι] (endorsers : ι→Endorser C)
    (hinj : Function.Injective C.encodePairNodesPayload) (log : List (PairingEvent C ι))
    (world : ι→EndorsingState) (run : PairingRun endorsers log world) (i : ℕ) (call : PairingCall C)
    (message : PairNodesMessage) (payload : PairNodesPayload) (e : ι)
    (hresponse : log[i]?=some (.response call message)) (hissued : Issued e call.code (log.take i))
    (haccepts : call.check message=.ok payload) :
    ∃ j before after,Agreement endorsers log i call message payload e j before after := by
  obtain ⟨hpayload,hmac,_,hreply⟩ := checkPairingReply_eq_ok.mp haccepts
  obtain ⟨_,_,hearlier,hstep,_⟩ := run.at hresponse
  obtain ⟨hnumber,drawing,hdrawing,hdrawn⟩ := issued_code hearlier hissued
  have hasked : .request call∈log := List.mem_of_mem_take (hstep.asked call message rfl)
  have hnonempty : payload.replyNonce≠[] := by
    intro hempty
    have hlength := request_nonce_length run hasked
    rw [←hreply,hempty] at hlength
    cases hlength
  have hknown : call.code.secret∈(log.take i).filterMap drawnCodeSecret :=
    List.mem_filterMap.mpr ⟨_,hdrawing,hdrawn⟩
  obtain ⟨event,hm,authenticated,hauth,hencode⟩ :=
    hstep.delivers message rfl payload call.code.secret hpayload hknown hmac
  rw [hinj hencode] at hauth
  obtain ⟨e',request,reply,now,ourNonce,hsent,rfl⟩ := authenticated_by_reply hauth hnonempty
  obtain ⟨j,hlt,hj⟩ := mem_take_iff.mp hm
  obtain ⟨requested,secret,before,after,facts⟩ := pairing_facts run hj
  obtain rfl := Option.some.inj facts.isUsed
  have hform := facts.replied hsent
  have hnonce : requested.nonce=call.nonce := by
    rw [hform] at hreply
    exact hreply
  obtain ⟨_,hrequest⟩ := pairing_of_nonce hinj run hasked facts hnonce
  have hsame : e'=e := by
    obtain ⟨drawing',hdrawing',hdrawn'⟩ := facts.drawn
    exact secret_drawn_by_one run (List.mem_of_mem_take hdrawing')
      (List.mem_of_mem_take hdrawing) hdrawn' hdrawn
  subst hsame
  obtain rfl := facts.reply_unique hsent hpayload hmac
  have hrequested : requested=call.payload := by
    have hfound := facts.hasPayload
    rw [hrequest] at hfound
    exact (Option.some.inj hfound).symm
  have hours : payload.nonce=ourNonce := by rw [hform]
  have hpending := facts.isPending
  rw [hrequested,←hours] at hpending
  rw [hrequest,←hours] at hj
  refine ⟨j,before,after,?_⟩
  constructor
  case earlier => exact hlt
  case paired => exact ⟨now,hj⟩
  case runBefore => exact facts.earlier
  case runAfter => exact facts.later
  case outstanding => exact facts.outstanding
  case removed => exact facts.removed
  case isPending => exact hpending
  case endorserKey => rw [hform]
  case endorserNumber => exact ⟨by rw [hform],hnumber⟩
  case once =>
    intro j' e'' now' ourNonce' used reply' hj'
    refine pairing_unique hinj run hasked hj hj' fun found hfound => ?_
    rw [←Option.some.inj hfound]
  case noReplay =>
    intro j' e'' request' now' ourNonce' used hj'
    refine pairing_unique hinj run hasked hj hj' fun found hfound => ?_
    obtain ⟨found',secret',_,_,facts'⟩ := pairing_facts run hj'
    obtain rfl := Option.some.inj (hfound.symm.trans facts'.hasPayload)
    rw [←hreply,facts'.replied hsent]
  case noReflection =>
    intro other hother
    rw [hother] at hsent
    rw [←Option.some.inj hsent] at hnonempty
    exact hnonempty rfl

/-- Node 2 activates with node 1's code. -/
def secondCall : PairingCall symbolicCrypto where
  node := secondNode
  registration := secondRegistration
  activationCode := firstCode
  code := ⟨1,firstSecret⟩
  nonce := List.replicate 16 21
  registered := rfl
  parsed := by decide +kernel

/-- Node 1's reply to it. -/
def firstReply : PairNodesMessage :=
  pairingReply symbolicCrypto (1 : UInt8) 1 firstSecret secondCall.payload (List.replicate 16 11)

/-- Node 1 issues the code, node 2 asks, node 1 pairs and its reply is delivered. -/
def agreementLog : List (PairingEvent symbolicCrypto Unit) :=
  [.endorser () (.generateActivationCode .interactive 0 0 firstSecret (.ok ⟨1,firstSecret⟩)),
    .request secondCall,
    .endorser () (.pairNodes secondCall.request 0 (List.replicate 16 11) (some firstSecret)
      (.ok firstReply)),
    .response secondCall firstReply]

/-- A payload that was authenticated under every drawn secret can be delivered. -/
theorem canDeliver_of_authenticated {C : Crypto} {ι : Type} {log : List (PairingEvent C ι)}
    {message : PairNodesMessage} {payload : PairNodesPayload}
    (hpayload : message.payload=some payload)
    (h : ∀ secret∈log.filterMap drawnCodeSecret,∃ event∈log,Authenticates secret payload event) :
    HubCanDeliver log message := by
  intro found secret hfound hknown _
  obtain ⟨event,hm,hauth⟩ := h secret hknown
  have hsame := Option.some.inj (hpayload.symm.trans hfound)
  subst hsame
  exact ⟨event,hm,payload,hauth,rfl⟩

/-- Node 1 pairs on that request. -/
def firstPairing : EndorsingState×Except String PairNodesMessage :=
  issuing.1.pairNodes symbolicCrypto secondCall.request firstEndorser.nodeNumber
    firstEndorser.signingKey 0 (List.replicate 16 11)

/-- Issuing the code is a step. -/
theorem issuing_step :
    EndorserStep firstEndorser .new
      (.generateActivationCode .interactive 0 0 firstSecret (.ok ⟨1,firstSecret⟩)) issuing.1 := by
  have hissued : issuing.2=.ok ⟨1,firstSecret⟩ := by decide +kernel
  have hissue : EndorserStep firstEndorser .new
      (.generateActivationCode .interactive 0 0 firstSecret issuing.2) issuing.1 :=
    .generateActivationCode Prod.mk.eta.symm
  rw [hissued] at hissue
  exact hissue

/-- Pairing is a step after it. -/
theorem firstPairing_step :
    EndorserStep firstEndorser issuing.1 (.pairNodes secondCall.request 0 (List.replicate 16 11)
      (some firstSecret) (.ok firstReply)) firstPairing.1 := by
  have hused : (issuing.1.verifyingSecret symbolicCrypto secondCall.request 0).map
      TimedSecret.secret=some firstSecret := by decide +kernel
  have hreply : firstPairing.2=.ok firstReply := by decide +kernel
  have hpair : EndorserStep firstEndorser issuing.1 (.pairNodes secondCall.request 0
      (List.replicate 16 11)
      ((issuing.1.verifyingSecret symbolicCrypto secondCall.request 0).map TimedSecret.secret)
      firstPairing.2) firstPairing.1 := .pairNodes Prod.mk.eta.symm
  rw [hused,hreply] at hpair
  exact hpair

/-- That log is one of a run. -/
theorem agreementLog_run :
    ∃ world,PairingRun (fun _ : Unit => firstEndorser) agreementLog world := by
  have hissue : PairingStep (fun _ : Unit => firstEndorser) [] (fun _ => EndorsingState.new)
      (.endorser () (.generateActivationCode .interactive 0 0 firstSecret (.ok ⟨1,firstSecret⟩)))
      (Function.update (fun _ => EndorsingState.new) () issuing.1) := by
    constructor
    case moves => exact .endorser issuing_step
    case freshSecret => exact fun _ _ => List.not_mem_nil
    case freshNonce => exact fun _ h => by cases h
    case delivers => exact fun _ h => by cases h
    case asked => exact fun _ _ h => by cases h
  have hrequest : PairingStep (fun _ : Unit => firstEndorser) (agreementLog.take 1)
      (Function.update (fun _ => EndorsingState.new) () issuing.1) (.request secondCall)
      (Function.update (fun _ => EndorsingState.new) () issuing.1) := by
    constructor
    case moves => exact .request
    case freshSecret => exact fun _ h => by cases h
    case freshNonce =>
      intro nonce h
      cases h
      exact ⟨rfl,List.not_mem_nil⟩
    case delivers => exact fun _ h => by cases h
    case asked => exact fun _ _ h => by cases h
  have hpair : PairingStep (fun _ : Unit => firstEndorser) (agreementLog.take 2)
      (Function.update (fun _ => EndorsingState.new) () issuing.1)
      (.endorser () (.pairNodes secondCall.request 0 (List.replicate 16 11) (some firstSecret)
        (.ok firstReply)))
      (Function.update (Function.update (fun _ => EndorsingState.new) () issuing.1) ()
        firstPairing.1) := by
    constructor
    case moves => exact .endorser firstPairing_step
    case freshSecret => exact fun _ h => by cases h
    case freshNonce =>
      intro nonce h
      cases h
      exact ⟨rfl,by decide⟩
    case delivers =>
      intro message h
      cases h
      refine canDeliver_of_authenticated rfl fun secret hknown => ?_
      have hsecret : secret=firstSecret := List.mem_singleton.mp hknown
      subst hsecret
      exact ⟨.request secondCall,List.mem_cons_of_mem _ List.mem_cons_self,.request rfl rfl⟩
    case asked => exact fun _ _ h => by cases h
  have hresponse : PairingStep (fun _ : Unit => firstEndorser) (agreementLog.take 3)
      (Function.update (Function.update (fun _ => EndorsingState.new) () issuing.1) ()
        firstPairing.1) (.response secondCall firstReply)
      (Function.update (Function.update (fun _ => EndorsingState.new) () issuing.1) ()
        firstPairing.1) := by
    constructor
    case moves => exact .response
    case freshSecret => exact fun _ h => by cases h
    case freshNonce => exact fun _ h => by cases h
    case delivers =>
      intro message h
      cases h
      refine canDeliver_of_authenticated rfl fun secret hknown => ?_
      have hsecret : secret=firstSecret := List.mem_singleton.mp hknown
      subst hsecret
      exact ⟨_,List.mem_cons_of_mem _ (List.mem_cons_of_mem _ List.mem_cons_self),.reply rfl⟩
    case asked =>
      intro call message h
      cases h
      exact List.mem_cons_of_mem _ List.mem_cons_self
  exact ⟨_,.next (.next (.next (.next .start hissue) hrequest) hpair) hresponse⟩

/-- Node 2 accepts node 1's reply and both agree. -/
theorem accepted_reply_agreement_pair :
    ∃ j before after,Agreement (fun _ : Unit => firstEndorser) agreementLog 3 secondCall firstReply
      ⟨1,2,symbolicSpki 1,List.replicate 16 11,List.replicate 16 21⟩ () j before after := by
  obtain ⟨world,hrun⟩ := agreementLog_run
  exact accepted_reply_agreement symbolicCrypto Unit (fun _ => firstEndorser)
    encodePairNodesPayload_injective agreementLog world hrun 3 secondCall firstReply _ () rfl
    ⟨.interactive,0,0,firstSecret,List.mem_cons_self⟩ (by decide +kernel)

end WispersConnect.PairingAgreement
