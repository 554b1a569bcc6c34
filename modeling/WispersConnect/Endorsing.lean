import WispersConnect.PairingCodes
import WispersConnect.RosterBuilders
import Mathlib.Data.Finmap

/-!
# The endorser's side of activation

The endorsing state of `serving.rs`: outstanding secrets with their expiry,
and the endorsements that await a co-signature, by the new node's number. Each
operation is a function of the state, of what it reads from the clock and of the
random bytes it draws, and returns the new state with its result.
-/

namespace WispersConnect.Endorsing

open Messages OutcomeMonad Cryptography FirstMatch PairingCodes RosterBuilders

/-- `MAX_ACTIVE_ACTIVATIONS`. -/
def maxActiveActivations : ℕ := 100

/-- `TimedSecret`. -/
structure TimedSecret where
  /-- The secret of an issued code. -/
  secret : PairingSecret
  /-- The instant from which it no longer counts. -/
  expiresAt : ℕ
  deriving DecidableEq

/-- `PendingEndorsement`. -/
structure PendingEndorsement where
  /-- The key the new node sent. -/
  newNodePubkey : Bytes
  /-- The nonce the new node sent. -/
  newNodeNonce : Bytes
  /-- The nonce sent back to it. -/
  ourNonce : Bytes
  deriving DecidableEq

/-- `EndorsingState`. -/
structure EndorsingState where
  /-- Replaces the lifetime of every code, in tests. -/
  ttlOverride : Option ℕ
  /-- Secrets of the codes not used yet. -/
  pairingSecrets : List TimedSecret
  /-- What the new nodes that paired are to be endorsed with. -/
  pendingEndorsements : Finmap fun _ : Int32 => PendingEndorsement

/-- `EndorsingState::new`. -/
def EndorsingState.new : EndorsingState := ⟨none,[],∅⟩

/-- `ServingError`, as far as the endorsing state returns it. -/
inductive ServingError where
  /-- Too many codes and pending co-signatures. -/
  | tooManyActivationSessions
  deriving DecidableEq

/-- `prune_expired`. -/
def EndorsingState.pruneExpired (state : EndorsingState) (now : ℕ) : EndorsingState :=
  {state with pairingSecrets := state.pairingSecrets.filter fun ts => now<ts.expiresAt}

/-- `generate_activation_code_with_ttl`, with the clock read for pruning and
again for the expiry. -/
def EndorsingState.generateActivationCode (state : EndorsingState) (nodeNumber : Int32)
    (ttlProfile : TtlProfile) (pruneTime issueTime : ℕ) (secret : PairingSecret) :
    EndorsingState×Except ServingError PairingCode :=
  let state := state.pruneExpired pruneTime
  if maxActiveActivations≤
      state.pairingSecrets.length+state.pendingEndorsements.entries.card then
    (state,.error .tooManyActivationSessions)
  else
    let ttl := state.ttlOverride.getD ttlProfile.ttl
    ({state with pairingSecrets := state.pairingSecrets++[⟨secret,issueTime+ttl⟩]},
      .ok ⟨nodeNumber,secret⟩)

/-- `Vec::swap_remove`: the last element takes the place of the removed one. -/
def swapRemove {α : Type} (xs : List α) (i : ℕ) : List α :=
  match xs.getLast? with
  | some last => (xs.set i last).dropLast
  | none => []

/-- The reply to a pairing request. -/
def pairingReply (C : Crypto) (signingKey : C.SigningKey) (nodeNumber : Int32)
    (secret : PairingSecret) (payload : PairNodesPayload) (ourNonce : Bytes) : PairNodesMessage :=
  let replyPayload : PairNodesPayload :=
    ⟨nodeNumber,payload.senderNodeNumber,C.publicKeySpki signingKey,ourNonce,payload.nonce⟩
  ⟨some replyPayload,secret.computeMac C (C.encodePairNodesPayload replyPayload)⟩

/-- `pair_nodes`. -/
def EndorsingState.pairNodes (C : Crypto) (state : EndorsingState) (msg : PairNodesMessage)
    (nodeNumber : Int32) (signingKey : C.SigningKey) (now : ℕ) (ourNonce : Bytes) :
    EndorsingState×Except String PairNodesMessage :=
  match msg.payload with
  | none => (state,.error "PairNodesMessage missing payload")
  | some payload =>
    let state := state.pruneExpired now
    let verifies := fun ts : TimedSecret =>
      ts.secret.verifyMac C (C.encodePairNodesPayload payload) msg.mac
    match state.pairingSecrets.find? verifies with
    | none =>
      if state.pairingSecrets=[] then (state,.error "no active pairing session")
      else (state,.error "MAC verification failed")
    | some ts =>
      ({state with
          pairingSecrets := swapRemove state.pairingSecrets (state.pairingSecrets.findIdx verifies)
          pendingEndorsements := state.pendingEndorsements.insert payload.senderNodeNumber
            ⟨payload.publicKeySpki,payload.nonce,ourNonce⟩},
        .ok (pairingReply C signingKey nodeNumber ts.secret payload ourNonce))

/-- The entry whose secret verifies a pairing request at an instant: the first that does. -/
def EndorsingState.verifyingSecret (C : Crypto) (state : EndorsingState) (msg : PairNodesMessage)
    (now : ℕ) : Option TimedSecret :=
  msg.payload.bind fun payload => (state.pruneExpired now).pairingSecrets.find? fun ts =>
    ts.secret.verifyMac C (C.encodePairNodesPayload payload) msg.mac

/-- The activation of the latest addendum, if it is one. -/
def latestActivation (roster : Roster) : Option Activation :=
  match roster.addenda.getLast?.bind Addendum.kind with
  | some (.activation activation) => some activation
  | _ => none

/-- The checks of `roster_cosign`, up to the signing. -/
def EndorsingState.checkCosignRequest (C : Crypto) (state : EndorsingState)
    (req : RosterCosignRequest) (nodeNumber : Int32) (signingKey : C.SigningKey) :
    Outcome String Roster := do
  let newNodeNumber := req.newNodeNumber.toInt32
  let pending ← Outcome.okOr (state.pendingEndorsements.lookup newNodeNumber)
    ("no pending endorsement for node "++toString newNodeNumber)
  let roster ← Outcome.okOr req.newRoster "missing roster"
  let activation ← Outcome.okOr (latestActivation roster) "no activation addendum"
  let activationPayload ← Outcome.okOr activation.payload "activation missing payload"
  Outcome.reject (activationPayload.newNodeNonce≠pending.newNodeNonce) "new node nonce mismatch"
  Outcome.reject (activationPayload.endorserNonce≠pending.ourNonce) "endorser nonce mismatch"
  Outcome.reject (activationPayload.endorserNodeNumber≠nodeNumber) "wrong endorser node number"
  let newNodeInRoster ← Outcome.okOr (findNode roster.nodes newNodeNumber) "new node not in roster"
  Outcome.reject (newNodeInRoster.publicKeySpki≠pending.newNodePubkey)
    "nodes list new_node key does not match paired key"
  let endorserInRoster ← Outcome.okOr (findNode roster.nodes nodeNumber) "endorser not in roster"
  Outcome.reject (endorserInRoster.publicKeySpki≠C.publicKeySpki signingKey)
    "nodes list endorser key does not match our own key"
  pure roster

/-- `roster_cosign`: a signed request uses up its pending endorsement. -/
def EndorsingState.rosterCosign (C : Crypto) (state : EndorsingState)
    (req : RosterCosignRequest) (nodeNumber : Int32) (signingKey : C.SigningKey) :
    EndorsingState×Outcome String RosterCosignResponse :=
  let result : Outcome String RosterCosignResponse := do
    let roster ← state.checkCosignRequest C req nodeNumber signingKey
    let signingHash ← computeSigningHash C (clearLatestAddendumSignatures roster)
    pure ⟨C.sign signingKey signingHash⟩
  if result.isOk=true then
    ({state with pendingEndorsements :=
        state.pendingEndorsements.erase req.newNodeNumber.toInt32},result)
  else (state,result)

/-- Removing an element by swapping leaves exactly the other elements. -/
theorem swapRemove_perm {α : Type} {xs : List α} {i : ℕ} (hi : i<xs.length) :
    (xs[i]::swapRemove xs i).Perm xs := by
  obtain ⟨ys,last,rfl⟩ := List.eq_nil_or_concat' xs |>.resolve_left fun h => by simp [h] at hi
  have hremove : swapRemove (ys++[last]) i=((ys++[last]).set i last).dropLast := by
    rw [swapRemove,List.getLast?_concat]
  rw [hremove]
  by_cases hlast : i<ys.length
  · rw [List.set_append_left i last hlast,List.dropLast_concat,List.getElem_append_left hlast]
    have hset := List.set_perm_cons_eraseIdx hlast last
    have hget := List.getElem_cons_eraseIdx_perm hlast
    have hswap : (ys[i]::ys.set i last).Perm (last::ys[i]::ys.eraseIdx i) :=
      (hset.cons ys[i]).trans (List.Perm.swap last ys[i] (ys.eraseIdx i))
    exact hswap.trans ((hget.cons last).trans (List.perm_append_singleton last ys).symm)
  · have he : i=ys.length := by
      rw [List.length_append,List.length_singleton] at hi
      omega
    subst he
    rw [List.set_append_right _ _ (le_refl _),Nat.sub_self,List.set_cons_zero,List.dropLast_concat,
      List.getElem_concat_length rfl]
    exact (List.perm_append_singleton last ys).symm

/-- The element found first is the one at the first position that qualifies. -/
theorem find_cons_swapRemove_perm {α : Type} {xs : List α} {p : α→Bool} {x : α}
    (h : xs.find? p=some x) : (x::swapRemove xs (xs.findIdx p)).Perm xs := by
  have hi : xs.findIdx p<xs.length :=
    List.findIdx_lt_length_of_exists ⟨x,List.mem_of_find?_eq_some h,List.find?_some h⟩
  have hx : xs[xs.findIdx p]=x := by
    have hget : xs.find? p=xs[xs.findIdx p]? := List.find?_eq_getElem?_findIdx
    rw [h,List.getElem?_eq_getElem hi] at hget
    exact (Option.some.inj hget).symm
  exact hx ▸ swapRemove_perm hi

/-- A pairing request is refused, or uses up exactly one secret that verifies it
and leaves its sender pending. -/
theorem pairNodes_cases (C : Crypto) (state : EndorsingState) (msg : PairNodesMessage)
    (nodeNumber : Int32) (signingKey : C.SigningKey) (now : ℕ) (ourNonce : Bytes) :
    (state.verifyingSecret C msg now=none ∧ ∃ state' e,
      state.pairNodes C msg nodeNumber signingKey now ourNonce=(state',.error e) ∧
      (state'=state ∨ state'=state.pruneExpired now)) ∨
    (∃ payload ts secrets,state.verifyingSecret C msg now=some ts ∧ msg.payload=some payload ∧
      ts.secret.verifyMac C (C.encodePairNodesPayload payload) msg.mac=true ∧
      (ts::secrets).Perm (state.pruneExpired now).pairingSecrets ∧
      state.pairNodes C msg nodeNumber signingKey now ourNonce=
        (⟨state.ttlOverride,secrets,state.pendingEndorsements.insert payload.senderNodeNumber
            ⟨payload.publicKeySpki,payload.nonce,ourNonce⟩⟩,
          .ok (pairingReply C signingKey nodeNumber ts.secret payload ourNonce))) := by
  cases hp : msg.payload with
  | none =>
    have hnone : state.verifyingSecret C msg now=none := by
      rw [EndorsingState.verifyingSecret,hp,Option.bind_none]
    refine Or.inl ⟨hnone,state,"PairNodesMessage missing payload",?_,Or.inl rfl⟩
    simp only [EndorsingState.pairNodes,hp]
  | some payload =>
    cases hf : (state.pruneExpired now).pairingSecrets.find? fun ts : TimedSecret =>
        ts.secret.verifyMac C (C.encodePairNodesPayload payload) msg.mac with
    | none =>
      have hnone : state.verifyingSecret C msg now=none := by
        rw [EndorsingState.verifyingSecret,hp,Option.bind_some,hf]
      by_cases hempty : (state.pruneExpired now).pairingSecrets=[]
      · refine Or.inl ⟨hnone,state.pruneExpired now,"no active pairing session",?_,Or.inr rfl⟩
        simp only [EndorsingState.pairNodes,hp,hf,if_pos hempty]
      · refine Or.inl ⟨hnone,state.pruneExpired now,"MAC verification failed",?_,Or.inr rfl⟩
        simp only [EndorsingState.pairNodes,hp,hf,if_neg hempty]
    | some ts =>
      have hsome : state.verifyingSecret C msg now=some ts := by
        rw [EndorsingState.verifyingSecret,hp,Option.bind_some,hf]
      have hverifies := List.find?_some hf
      refine Or.inr ⟨payload,ts,_,hsome,rfl,hverifies,find_cons_swapRemove_perm hf,?_⟩
      simp only [EndorsingState.pairNodes,hp,hf]
      rfl

/-- What a co-signed request satisfied. -/
structure CosignFacts (C : Crypto) (state : EndorsingState) (req : RosterCosignRequest)
    (nodeNumber : Int32) (signingKey : C.SigningKey) (roster : Roster)
    (payload : ActivationPayload) (pending : PendingEndorsement) : Prop where
  /-- The endorsement was pending under the request's number. -/
  isPending : state.pendingEndorsements.lookup req.newNodeNumber.toInt32=some pending
  /-- The request carries the roster. -/
  hasRoster : req.newRoster=some roster
  /-- Its latest addendum is an activation with this payload. -/
  latest : ∃ activation,latestActivation roster=some activation ∧ activation.payload=some payload
  /-- The new node's nonce is that of the pairing. -/
  newNodeNonce : payload.newNodeNonce=pending.newNodeNonce
  /-- The endorser's nonce is that of the pairing. -/
  endorserNonce : payload.endorserNonce=pending.ourNonce
  /-- This node is named as the endorser. -/
  endorser : payload.endorserNodeNumber=nodeNumber
  /-- The entry listed under the request's number carries the paired key. -/
  newNodeKey : ∃ node,findNode roster.nodes req.newNodeNumber.toInt32=some node ∧
    node.publicKeySpki=pending.newNodePubkey
  /-- The entry listed under this node's number carries its own key. -/
  endorserKey : ∃ node,findNode roster.nodes nodeNumber=some node ∧
    node.publicKeySpki=C.publicKeySpki signingKey

/-- The checks pass exactly on requests with these facts. -/
theorem checkCosignRequest_eq_ok {C : Crypto} {state : EndorsingState} {req : RosterCosignRequest}
    {nodeNumber : Int32} {signingKey : C.SigningKey} {roster : Roster} :
    state.checkCosignRequest C req nodeNumber signingKey=.ok roster ↔
      ∃ payload pending,CosignFacts C state req nodeNumber signingKey roster payload pending := by
  simp only [EndorsingState.checkCosignRequest,Outcome.bind_eq_ok,Outcome.okOr_eq_ok,
    Outcome.reject_eq_ok,Outcome.pure_eq_ok,Outcome.ok.injEq,not_not]
  constructor
  · rintro ⟨pending,hpending,listed,hroster,activation,hlatest,payload,hpayload,_,hnew,_,hours,_,
      hendorser,newNode,hnewNode,_,hnewKey,endorserNode,hendorserNode,_,hendorserKey,rfl⟩
    exact ⟨payload,pending,hpending,hroster,⟨activation,hlatest,hpayload⟩,hnew,hours,hendorser,
      ⟨newNode,hnewNode,hnewKey⟩,⟨endorserNode,hendorserNode,hendorserKey⟩⟩
  · rintro ⟨payload,pending,facts⟩
    obtain ⟨activation,hlatest,hpayload⟩ := facts.latest
    obtain ⟨newNode,hnewNode,hnewKey⟩ := facts.newNodeKey
    obtain ⟨endorserNode,hendorserNode,hendorserKey⟩ := facts.endorserKey
    exact ⟨pending,facts.isPending,roster,facts.hasRoster,activation,hlatest,payload,hpayload,(),
      facts.newNodeNonce,(),facts.endorserNonce,(),facts.endorser,newNode,hnewNode,(),hnewKey,
      endorserNode,hendorserNode,(),hendorserKey,rfl⟩

/-- A co-sign request is refused and changes nothing, or is signed and uses up
its pending endorsement. -/
theorem rosterCosign_cases (C : Crypto) (state : EndorsingState) (req : RosterCosignRequest)
    (nodeNumber : Int32) (signingKey : C.SigningKey) :
    (∃ e,state.rosterCosign C req nodeNumber signingKey=(state,.err e)) ∨
    (∃ roster payload pending,
      CosignFacts C state req nodeNumber signingKey roster payload pending ∧
      state.rosterCosign C req nodeNumber signingKey=
        (⟨state.ttlOverride,state.pairingSecrets,
            state.pendingEndorsements.erase req.newNodeNumber.toInt32⟩,
          .ok ⟨C.sign signingKey (signingHash C (clearLatestAddendumSignatures roster))⟩)) := by
  cases hc : state.checkCosignRequest C req nodeNumber signingKey with
  | ok roster =>
    obtain ⟨payload,pending,facts⟩ := checkCosignRequest_eq_ok.mp hc
    refine Or.inr ⟨roster,payload,pending,facts,?_⟩
    simp only [EndorsingState.rosterCosign,hc,Outcome.ok_bind,computeSigningHash_clearLatest,
      Outcome.pure_eq_ok,Outcome.isOk,if_true]
  | err e =>
    refine Or.inl ⟨e,?_⟩
    simp only [EndorsingState.rosterCosign,hc,Outcome.err_bind,Outcome.isOk,Bool.false_eq_true,
      if_false]
  | panic m =>
    have hno : (state.checkCosignRequest C req nodeNumber signingKey).NoPanic := by
      intro m' h
      simp [EndorsingState.checkCosignRequest,Outcome.bind_eq_panic] at h
    exact absurd hc (hno m)

end WispersConnect.Endorsing
