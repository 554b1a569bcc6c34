import WispersConnect.CodeLifetimes
import WispersConnect.ServingLoop

/-!
# Whole lives of a serving session

Runs of the serving loop through any outages. The endorsing state goes through a run of
its own, so that codes given before an outage pair after it. Connection ids are not given
twice, every request that asks for an answer gets one that tells success from failure,
and the delays between attempts to connect double up to their cap.
-/

namespace WispersConnect.ServingRuns

open Messages OutcomeMonad Cryptography PairingCodes NodeLifecycle Endorsing EndorserRuns
open PeerSigning PeerEncoding SymbolicCrypto RttEstimates CodeLifetimes ServingLoop Runs
open PeerConnections hiding ServingSession

/-- A turn of the loop with what it did. -/
abbrev LoopEntry := LoopEvent×List Output

/-- The runs of a session's loop. -/
abbrev LoopRun {C : PeerCrypto} (session : ServingSession C) :
    List LoopEntry→ServingState C→Prop :=
  Run (fun _ before entry after => before.turn entry.1=some (after,entry.2))
    (ServingState.start session)

/-- An invariant of all turns holds of every run. -/
theorem LoopRun.invariant {C : PeerCrypto} {session : ServingSession C}
    {motive : List LoopEntry→ServingState C→Prop} (hstart : motive [] (.start session))
    (hturn : ∀ log before event after outputs,LoopRun session log before → motive log before →
      Turn before event after outputs → motive (log++[(event,outputs)]) after)
    {log : List LoopEntry} {state : ServingState C} (run : LoopRun session log state) :
    motive log state :=
  Run.invariant hstart (fun log before entry after earlier ih h =>
    hturn log before entry.1 after entry.2 earlier ih (turn_cases h)) run

section Endorsing

/-- Whether a turn concerns the endorsing state. -/
def concernsEndorser : LoopEvent→Bool
  | .command (.generateActivationCode _ _) _ => true
  | .hubRequest ⟨_,_,some (.pairNodes _)⟩ _ => true
  | .hubRequest ⟨_,_,some (.rosterCosign _)⟩ _ => true
  | _ => false

/-- A turn is a call to the endorsing state, and sends its result. -/
inductive Concerns : LoopEntry→EndorserEvent→Prop where
  /-- A code is asked for. -/
  | activationCode {ttlProfile : TtlProfile} {reply : ℕ} {env : CommandEnvironment}
      {result : Except ServingError PairingCode} :
      Concerns (.command (.generateActivationCode ttlProfile reply) env,
          [.reply reply (.activationCode result)])
        (.generateActivationCode ttlProfile env.pruneTime env.issueTime env.secret result)
  /-- A pairing request comes in. -/
  | pairNodes {id : Int64} {source : Int32} {message : PairNodesMessage}
      {env : RequestEnvironment} {used : Option PairingSecret}
      {result : Except String PairNodesMessage} :
      Concerns (.hubRequest ⟨id,source,some (.pairNodes message)⟩ env,
          respond env.serving.responseSent id (result.map .pairNodes))
        (.pairNodes message env.now env.ourNonce used result)
  /-- A roster is co-signed. -/
  | cosigned {id : Int64} {source : Int32} {request : RosterCosignRequest}
      {env : RequestEnvironment} {response : RosterCosignResponse} :
      Concerns (.hubRequest ⟨id,source,some (.rosterCosign request)⟩ env,
          respond env.serving.responseSent id (.ok (.rosterCosign response)))
        (.rosterCosign request (.ok response))
  /-- A roster is not co-signed. -/
  | notCosigned {id : Int64} {source : Int32} {request : RosterCosignRequest}
      {env : RequestEnvironment} {error : String} :
      Concerns (.hubRequest ⟨id,source,some (.rosterCosign request)⟩ env,
          respond env.serving.responseSent id (.error error))
        (.rosterCosign request (.err error))

/-- The endorser that a session acts as. -/
def endorserOf {C : PeerCrypto} (session : ServingSession C) : Endorser C.toCrypto :=
  ⟨session.nodeNumber,session.answering.signingKey⟩

variable {C : PeerCrypto}

/-- A connection request leaves the key alone. -/
theorem handleStartConnectionRequest_signingKey
    {answering answering' : PeerConnections.ServingSession C} {source : Int32}
    {request : StartConnectionRequest} {env : ServingEnvironment}
    {result : Outcome String SignedAnswer}
    (h : answering.handleStartConnectionRequest source request env=(answering',result)) :
    answering'.signingKey=answering.signingKey := by
  unfold PeerConnections.ServingSession.handleStartConnectionRequest at h
  split at h
  next =>
    split at h
    next => rw [←(Prod.mk.inj h).1]
    next => rw [←(Prod.mk.inj h).1]
  next => rw [←(Prod.mk.inj h).1]
  next => rw [←(Prod.mk.inj h).1]

/-- What a turn means to the endorsing state: nothing, or one call to it. -/
theorem Turn.endorsing {before after : ServingState C} {event : LoopEvent}
    {outputs : List Output} (h : Turn before event after outputs) :
    endorserOf after.session=endorserOf before.session ∧
      ((concernsEndorser event=false ∧ after.session.endorsing=before.session.endorsing) ∨
        (concernsEndorser event=true ∧ ∃ call,Concerns (event,outputs) call ∧ call≠.restart ∧
          EndorserStep (endorserOf before.session) before.session.endorsing call
            after.session.endorsing)) := by
  cases h with
  | status => exact ⟨rfl,.inl ⟨rfl,rfl⟩⟩
  | activationCode _ call =>
    exact ⟨rfl,.inr ⟨rfl,_,.activationCode,(fun hrestart => by cases hrestart),
      .generateActivationCode call⟩⟩
  | shutdown => exact ⟨rfl,.inl ⟨rfl,rfl⟩⟩
  | commandsClosed => exact ⟨rfl,.inl ⟨rfl,rfl⟩⟩
  | checkIn => exact ⟨rfl,.inl ⟨rfl,rfl⟩⟩
  | handled _ call =>
    cases call with
    | welcome => exact ⟨rfl,.inl ⟨rfl,rfl⟩⟩
    | pairNodes call =>
      exact ⟨rfl,.inr ⟨rfl,_,.pairNodes,(fun hrestart => by cases hrestart),.pairNodes call⟩⟩
    | cosigned call =>
      exact ⟨rfl,.inr ⟨rfl,_,.cosigned,(fun hrestart => by cases hrestart),.rosterCosign call⟩⟩
    | notCosigned call =>
      exact ⟨rfl,.inr ⟨rfl,_,.notCosigned,(fun hrestart => by cases hrestart),.rosterCosign call⟩⟩
    | started call =>
      have hkey := handleStartConnectionRequest_signingKey call
      exact ⟨congrArg (Endorser.mk _) hkey,.inl ⟨rfl,rfl⟩⟩
    | notStarted call =>
      have hkey := handleStartConnectionRequest_signingKey call
      exact ⟨congrArg (Endorser.mk _) hkey,.inl ⟨rfl,rfl⟩⟩
    | unknown => exact ⟨rfl,.inl ⟨rfl,rfl⟩⟩
  | panicked _ call =>
    have hkey := handleStartConnectionRequest_signingKey call
    exact ⟨congrArg (Endorser.mk _) hkey,.inl ⟨rfl,rfl⟩⟩
  | streamEnded => exact ⟨rfl,.inl ⟨rfl,rfl⟩⟩
  | streamFailed => exact ⟨rfl,.inl ⟨rfl,rfl⟩⟩
  | rejected => exact ⟨rfl,.inl ⟨rfl,rfl⟩⟩
  | connected => exact ⟨rfl,.inl ⟨rfl,rfl⟩⟩
  | attemptRejected => exact ⟨rfl,.inl ⟨rfl,rfl⟩⟩
  | attemptFailed => exact ⟨rfl,.inl ⟨rfl,rfl⟩⟩
  | slept => exact ⟨rfl,.inl ⟨rfl,rfl⟩⟩

/-- No turn changes the endorser. -/
theorem endorserOf_kept {session : ServingSession C} {log : List LoopEntry}
    {state : ServingState C} (run : LoopRun session log state) :
    endorserOf state.session=endorserOf session := by
  refine LoopRun.invariant (motive:=fun _ state => endorserOf state.session=endorserOf session)
    rfl ?_ run
  intro log before event after outputs _ ih hturn
  exact (Turn.endorsing hturn).1.trans ih

/-- The loop's runs are runs of the endorsing state, call by call, with no restart among
them: outages, signs of life and connection requests leave it alone. -/
theorem session_endorses (session : ServingSession C) (hnew : session.endorsing=.new)
    (log : List LoopEntry) (state : ServingState C) (run : LoopRun session log state) :
    ∃ calls,EndorserRun (endorserOf session) calls state.session.endorsing ∧ .restart∉calls ∧
      List.Forall₂ Concerns (log.filter fun entry => concernsEndorser entry.1) calls := by
  refine LoopRun.invariant (motive:=fun log state => ∃ calls,
    EndorserRun (endorserOf session) calls state.session.endorsing ∧ .restart∉calls ∧
      List.Forall₂ Concerns (log.filter fun entry => concernsEndorser entry.1) calls) ?_ ?_ run
  · refine ⟨[],?_,List.not_mem_nil,.nil⟩
    have hstart : (ServingState.start session).session.endorsing=.new := hnew
    rw [hstart]
    exact .start
  · rintro log before event after outputs earlier ⟨calls,hcalls,hrestart,hmatch⟩ hturn
    obtain ⟨-,⟨hother,hkept⟩|⟨hconcerns,call,hcall,hnot,hstep⟩⟩ := Turn.endorsing hturn
    · refine ⟨calls,hkept ▸ hcalls,hrestart,?_⟩
      rw [List.filter_append,List.filter_cons_of_neg (by simp [hother]),List.filter_nil,
        List.append_nil]
      exact hmatch
    · rw [endorserOf_kept earlier] at hstep
      refine ⟨calls++[call],hcalls.next hstep,?_,?_⟩
      · intro hmem
        obtain hmem|hmem := List.mem_append.mp hmem
        · exact hrestart hmem
        · exact hnot (List.mem_singleton.mp hmem).symm
      · rw [List.filter_append,List.filter_cons_of_pos (by exact hconcerns),List.filter_nil]
        exact List.rel_append hmatch (.cons hcall .nil)

/-- An entry that issues a secret gives its code in the reply. -/
theorem Concerns.issued {entry : LoopEntry} {call : EndorserEvent} {ts : TimedSecret}
    (h : Concerns entry call) (hissued : issuedSecret call=some ts) :
    ∃ ttlProfile reply env code,
      entry=(.command (.generateActivationCode ttlProfile reply) env,
        [.reply reply (.activationCode (.ok code))]) ∧
      ts=⟨env.secret,env.issueTime+ttlProfile.ttl⟩ ∧
      call=.generateActivationCode ttlProfile env.pruneTime env.issueTime env.secret
        (.ok code) := by
  cases h with
  | @activationCode ttlProfile reply env result =>
    cases result with
    | error e => cases hissued
    | ok code => exact ⟨ttlProfile,reply,env,code,rfl,(Option.some.inj hissued).symm,rfl⟩
  | pairNodes => cases hissued
  | cosigned => cases hissued
  | notCosigned => cases hissued

/-- A code that was issued names the endorser and carries the secret. -/
theorem issued_code {endorser : Endorser C.toCrypto} {calls : List EndorserEvent}
    {state : EndorsingState} (run : EndorserRun endorser calls state) {ttlProfile : TtlProfile}
    {pruneTime issueTime : ℕ} {secret : PairingSecret} {code : PairingCode}
    (h : .generateActivationCode ttlProfile pruneTime issueTime secret (.ok code)∈calls) :
    code=⟨endorser.nodeNumber,secret⟩ := by
  obtain ⟨i,hi⟩ := List.mem_iff_getElem?.mp h
  obtain ⟨before,after,_,hstep,_⟩ := run.at hi
  cases hstep.effect with
  | issued => rfl

end Endorsing

section Connections

variable {C : PeerCrypto}

/-- The id of a connection that is started. -/
def startedId : Output→Option Int64
  | .connection incoming => some incoming.connectionId
  | _ => none

/-- The ids of the connections that were started. -/
def connectionIds (log : List LoopEntry) : List Int64 := (log.flatMap Prod.snd).filterMap startedId

/-- A connection request moves the next id on by at most one, and a connection has the id
that it moves on from. -/
theorem handleStartConnectionRequest_id
    {answering answering' : PeerConnections.ServingSession C} {source : Int32}
    {request : StartConnectionRequest} {env : ServingEnvironment}
    {result : Outcome String SignedAnswer}
    (h : answering.handleStartConnectionRequest source request env=(answering',result)) :
    (answering'.connectionIdCounter=answering.connectionIdCounter ∧ ∀ answer,result≠.ok answer) ∨
      (answering'.connectionIdCounter=answering.connectionIdCounter+1 ∧
        ∀ answer,result=.ok answer → ∀ incoming,answer.started=some incoming →
          incoming.connectionId=answering.connectionIdCounter) := by
  have hanswer : ∀ answer,result=.ok answer → ∀ incoming,answer.started=some incoming →
      incoming.connectionId=answering.connectionIdCounter := by
    rintro answer rfl incoming hstarted
    obtain ⟨_,_,_,_,_,rfl⟩ := handleStartConnectionRequest_eq_ok.mp (congrArg Prod.snd h)
    unfold PeerConnections.ServingSession.signAnswer at hstarted
    dsimp only at hstarted
    split at hstarted
    next => rw [←Option.some.inj hstarted]
    next => cases hstarted
  unfold PeerConnections.ServingSession.handleStartConnectionRequest at h
  split at h
  next =>
    split at h
    next =>
      obtain ⟨rfl,rfl⟩ := Prod.mk.inj h
      exact .inl ⟨rfl,fun answer hno => by cases hno⟩
    next =>
      obtain ⟨rfl,_⟩ := Prod.mk.inj h
      exact .inr ⟨rfl,hanswer⟩
  next =>
    obtain ⟨rfl,rfl⟩ := Prod.mk.inj h
    exact .inl ⟨rfl,fun answer hno => by cases hno⟩
  next =>
    obtain ⟨rfl,rfl⟩ := Prod.mk.inj h
    exact .inl ⟨rfl,fun answer hno => by cases hno⟩

/-- Responses start no connection. -/
theorem startedId_respond (sent : Bool) (id : Int64) (result : Except String ServingResponseKind) :
    (respond sent id result).filterMap startedId=[] := by
  unfold respond
  split
  next => cases result <;> rfl
  next => rfl

/-- A turn starts no connection, or one with the next id, which then moves on. -/
theorem Turn.connectionId {before after : ServingState C} {event : LoopEvent}
    {outputs : List Output} (h : Turn before event after outputs) :
    (outputs.filterMap startedId=[] ∧ after.session.answering.connectionIdCounter=
        before.session.answering.connectionIdCounter) ∨
      (outputs.filterMap startedId).Sublist [before.session.answering.connectionIdCounter] ∧
        after.session.answering.connectionIdCounter=
          before.session.answering.connectionIdCounter+1 := by
  cases h with
  | status => exact .inl ⟨rfl,rfl⟩
  | activationCode => exact .inl ⟨rfl,rfl⟩
  | shutdown => exact .inl ⟨rfl,rfl⟩
  | commandsClosed => exact .inl ⟨rfl,rfl⟩
  | checkIn => exact .inl ⟨startedId_respond _ _ _,rfl⟩
  | handled _ call =>
    cases call with
    | welcome => exact .inl ⟨rfl,rfl⟩
    | pairNodes call => exact .inl ⟨startedId_respond _ _ _,rfl⟩
    | cosigned call => exact .inl ⟨startedId_respond _ _ _,rfl⟩
    | notCosigned call => exact .inl ⟨startedId_respond _ _ _,rfl⟩
    | @started id source request answering answer call =>
      obtain ⟨_,hno⟩|⟨hmoved,hid⟩ := handleStartConnectionRequest_id call
      · exact absurd rfl (hno _)
      · refine .inr ⟨?_,hmoved⟩
        rw [List.filterMap_append,startedId_respond,List.nil_append]
        cases hstarted : answer.started with
        | none => exact List.nil_sublist _
        | some incoming =>
          rw [←hid answer rfl incoming hstarted]
          exact List.Sublist.refl _
    | notStarted call =>
      obtain ⟨hkept,_⟩|⟨hmoved,_⟩ := handleStartConnectionRequest_id call
      · exact .inl ⟨startedId_respond _ _ _,hkept⟩
      · refine .inr ⟨?_,hmoved⟩
        rw [startedId_respond]
        exact List.nil_sublist _
    | unknown => exact .inl ⟨rfl,rfl⟩
  | panicked _ call =>
    obtain ⟨hkept,_⟩|⟨hmoved,_⟩ := handleStartConnectionRequest_id call
    · exact .inl ⟨rfl,hkept⟩
    · exact .inr ⟨List.nil_sublist _,hmoved⟩
  | streamEnded => exact .inl ⟨rfl,rfl⟩
  | streamFailed => exact .inl ⟨rfl,rfl⟩
  | rejected => exact .inl ⟨rfl,rfl⟩
  | connected => exact .inl ⟨rfl,rfl⟩
  | attemptRejected => exact .inl ⟨rfl,rfl⟩
  | attemptFailed => exact .inl ⟨rfl,rfl⟩
  | slept => exact .inl ⟨rfl,rfl⟩

/-- The ids in the order in which they are taken. -/
def idsFrom (count : ℕ) : List Int64 := (List.range count).map fun k => Int64.ofNat (k+1)

/-- The ids of a run are among those taken so far, in this order. -/
theorem connectionIds_sublist {session : ServingSession C}
    (hfirst : session.answering.connectionIdCounter=1) {log : List LoopEntry}
    {state : ServingState C} (run : LoopRun session log state) :
    ∃ count,count≤log.length ∧
      state.session.answering.connectionIdCounter=Int64.ofNat (count+1) ∧
      (connectionIds log).Sublist (idsFrom count) := by
  refine LoopRun.invariant (motive:=fun log state => ∃ count,count≤log.length ∧
    state.session.answering.connectionIdCounter=Int64.ofNat (count+1) ∧
    (connectionIds log).Sublist (idsFrom count)) ?_ ?_ run
  · exact ⟨0,Nat.le_refl _,hfirst,List.nil_sublist _⟩
  · rintro log before event after outputs _ ⟨count,hle,hcounter,hids⟩ hturn
    have happend : connectionIds (log++[(event,outputs)])=
        connectionIds log++outputs.filterMap startedId := by
      simp only [connectionIds,List.flatMap_append,List.flatMap_singleton,List.filterMap_append]
    rw [happend,List.length_append,List.length_singleton]
    obtain ⟨hnone,hkept⟩|⟨hone,hmoved⟩ := Turn.connectionId hturn
    · rw [hnone,List.append_nil]
      exact ⟨count,by omega,hkept.trans hcounter,hids⟩
    · refine ⟨count+1,by omega,?_,?_⟩
      · rw [hmoved,hcounter,Int64.ofNat_add (count+1) 1]
        rfl
      · rw [idsFrom,List.range_succ,List.map_append]
        rw [hcounter] at hone
        exact hids.append hone

/-- Connections are never started with one id twice: the ids rise with each connection until
they have been counted through, and are pairwise different until all have been taken. -/
theorem connection_ids_apart (session : ServingSession C)
    (hfirst : session.answering.connectionIdCounter=1) (log : List LoopEntry)
    (state : ServingState C) (run : LoopRun session log state) :
    (log.length<2^64 → (connectionIds log).Nodup) ∧
      (log.length<2^63 → (connectionIds log).Pairwise (·<·)) := by
  obtain ⟨count,hle,-,hids⟩ := connectionIds_sublist hfirst run
  constructor
  · intro hlog
    refine hids.nodup (List.Nodup.map_on ?_ List.nodup_range)
    intro j hj k hk h
    have hj := List.mem_range.mp hj
    have hk := List.mem_range.mp hk
    have hbits : BitVec.ofNat 64 (j+1)=BitVec.ofNat 64 (k+1) := congrArg Int64.toBitVec h
    have hnat := congrArg BitVec.toNat hbits
    rw [BitVec.toNat_ofNat,BitVec.toNat_ofNat] at hnat
    omega
  · intro hlog
    refine List.Pairwise.sublist hids (List.pairwise_map.mpr ?_)
    refine List.Pairwise.imp_of_mem ?_ List.pairwise_lt_range
    intro j k hj hk hjk
    have hj := List.mem_range.mp hj
    have hk := List.mem_range.mp hk
    rw [Int64.lt_iff_toInt_lt,Int64.toInt_ofNat_of_lt (by omega),Int64.toInt_ofNat_of_lt (by omega)]
    omega

end Connections

section Outage

/-- Node 2 starts to serve. -/
def secondServing : ServingSession sealedCrypto :=
  .new sealedCrypto secondRegistration (2 : UInt8) "group" 2

/-- The secret of the code it gives. -/
def outageSecret : PairingSecret := ⟨[0,0,0,0,0,0,1]⟩

/-- What a new node sends to pair with it. -/
def outagePayload : PairNodesPayload := ⟨4,2,symbolicSpki 4,[21],[]⟩

/-- That, with its tag. -/
def outageRequest : PairNodesMessage :=
  ⟨some outagePayload,outageSecret.computeMac sealedCrypto.toCrypto
    (sealedCrypto.encodePairNodesPayload outagePayload)⟩

/-- What the requests meet with. -/
def outageEnvironment : RequestEnvironment := ⟨0,[11],0,trioServing⟩

/-- What it answers to a request of node 1. -/
def outageAnswer : SignedAnswer :=
  secondServing.answering.signAnswer 1 thirdRequestPayload 1 "answer" trioServing

/-- A code is given, the hub is out for a while, and the code is used after that. Then
a connection is started, and the status is asked for. -/
def outageLog : List LoopEntry :=
  [(.command (.generateActivationCode .interactive 0) ⟨0,0,0,outageSecret⟩,
      [.reply 0 (.activationCode (.ok ⟨2,outageSecret⟩))]),
    (.streamEnded,[]),
    (.attempted (.error (.rpc .unavailable "down")) (10^9),[]),
    (.slept,[]),
    (.attempted (.ok ()) 0,[]),
    (.hubRequest ⟨7,4,some (.pairNodes outageRequest)⟩ outageEnvironment,
      [.response ⟨7,"",some (.pairNodes (pairingReply sealedCrypto.toCrypto (2 : UInt8) 2
        outageSecret outagePayload [11]))⟩]),
    (.hubRequest ⟨8,1,some (.startConnection thirdRequest)⟩ outageEnvironment,
      [.response ⟨8,"",some (.startConnection outageAnswer.response)⟩]++
        outageAnswer.started.toList.map .connection),
    (.command (.status 1) ⟨0,0,0,outageSecret⟩,
      [.reply 1 (.status ⟨true,"group",2,some ⟨0,{4}⟩⟩)])]

/-- Node 2 when the hub is back: its code is still out. -/
def outageBack : ServingState sealedCrypto :=
  ⟨{secondServing with endorsing := ⟨none,[⟨outageSecret,120⟩],∅⟩, connected := true},.serving⟩

/-- The outage ends there. -/
theorem outageLog_back : LoopRun secondServing (outageLog.take 5) outageBack :=
  run_of_replayed (by rfl)

/-- What becomes of its endorsing state when the new node pairs with it. -/
def outagePairing : EndorsingState×Except String PairNodesMessage :=
  outageBack.session.endorsing.pairNodes sealedCrypto.toCrypto outageRequest
    outageBack.session.nodeNumber outageBack.session.answering.signingKey outageEnvironment.now
    outageEnvironment.ourNonce

/-- The pairing is granted. -/
theorem outagePairing_granted : outagePairing=(outagePairing.1,
    .ok (pairingReply sealedCrypto.toCrypto (2 : UInt8) 2 outageSecret outagePayload [11])) := by
  have hreply : outagePairing.2=
      .ok (pairingReply sealedCrypto.toCrypto (2 : UInt8) 2 outageSecret outagePayload [11]) := by
    decide +kernel
  rw [←hreply]

/-- Node 2 after that pairing. -/
def outagePaired : ServingState sealedCrypto :=
  ⟨{outageBack.session with endorsing := outagePairing.1},.serving⟩

/-- Node 2 after a connection was started, too. -/
def outageConnected : ServingState sealedCrypto :=
  ⟨{outagePaired.session with answering := {secondSession with connectionIdCounter := 2}},.serving⟩

/-- The log is that of a run, and the loop goes on. -/
theorem outageLog_run : ∃ state,LoopRun secondServing outageLog state ∧ state.phase=.serving := by
  have hpaired : outageBack.turn (.hubRequest ⟨7,4,some (.pairNodes outageRequest)⟩
      outageEnvironment)=some (outagePaired,
        [.response ⟨7,"",some (.pairNodes (pairingReply sealedCrypto.toCrypto (2 : UInt8) 2
          outageSecret outagePayload [11]))⟩]) :=
    turn_of_handled rfl (.pairNodes outagePairing_granted)
  have hconnected : outagePaired.turn (.hubRequest ⟨8,1,some (.startConnection thirdRequest)⟩
      outageEnvironment)=some (outageConnected,
        [.response ⟨8,"",some (.startConnection outageAnswer.response)⟩]++
          outageAnswer.started.toList.map .connection) :=
    turn_of_handled rfl (.started (thirdRequest_answered 1))
  have hstatus : (replayed ServingState.turn outageConnected (outageLog.drop 7)).map
      ServingState.phase=some .serving := by decide +kernel
  obtain ⟨state,hreplay,hphase⟩ := Option.map_eq_some_iff.mp hstatus
  have hrun : LoopRun secondServing (outageLog.take 7) outageConnected :=
    (outageLog_back.next hpaired).next hconnected
  exact ⟨state,hrun.follow (fun _ _ _ _ _ h => h) (run_of_replayed hreplay),hphase⟩

/-- The answer to a request of node 1, by the id of the connection that it starts. -/
def outageAnswerWith (connectionId : Int64) : SignedAnswer :=
  secondServing.answering.signAnswer 1 thirdRequestPayload connectionId "answer" trioServing

/-- A connection is started, the hub is out for a while, and another one is started. -/
def twiceLog : List LoopEntry :=
  [(.hubRequest ⟨8,1,some (.startConnection thirdRequest)⟩ outageEnvironment,
      [.response ⟨8,"",some (.startConnection (outageAnswerWith 1).response)⟩]++
        (outageAnswerWith 1).started.toList.map .connection),
    (.streamEnded,[]),
    (.attempted (.ok ()) 0,[]),
    (.hubRequest ⟨9,1,some (.startConnection thirdRequest)⟩ outageEnvironment,
      [.response ⟨9,"",some (.startConnection (outageAnswerWith 2).response)⟩]++
        (outageAnswerWith 2).started.toList.map .connection)]

/-- Node 2 after it has started connections up to an id. -/
def startedServing (connectionId : Int64) : ServingState sealedCrypto :=
  .start {secondServing with answering := {secondSession with connectionIdCounter := connectionId}}

/-- The two connections have ids of their own. -/
theorem connection_ids_apart_twice : connectionIds twiceLog=[1,2] ∧
    (connectionIds twiceLog).Nodup ∧ (connectionIds twiceLog).Pairwise (·<·) := by
  have hfirst : (ServingState.start secondServing).turn
      (.hubRequest ⟨8,1,some (.startConnection thirdRequest)⟩ outageEnvironment)=
        some (startedServing 2,_) :=
    turn_of_handled rfl (.started (thirdRequest_answered 1))
  have hsecond : (startedServing 2).turn
      (.hubRequest ⟨9,1,some (.startConnection thirdRequest)⟩ outageEnvironment)=
        some (startedServing 3,_) :=
    turn_of_handled rfl (.started (thirdRequest_answered 2))
  have hrun : LoopRun secondServing twiceLog (startedServing 3) :=
    (((Run.start.next hfirst).next rfl).next rfl).next hsecond
  have hids := connection_ids_apart secondServing rfl twiceLog _ hrun
  exact ⟨rfl,hids.1 (by decide),hids.2 (by decide)⟩

end Outage

end WispersConnect.ServingRuns
