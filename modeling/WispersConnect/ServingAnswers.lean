import WispersConnect.AbandonedPairings
import WispersConnect.PanicFreedom
import WispersConnect.ServingRuns

/-!
# What a serving session answers

Over whole runs through any outages. Every request that asks for an answer gets one,
in order and under its id, and the answer tells an error from an answer of the kind that
was asked for. No request makes the session panic. A status tells whether there is a
stream.
-/

namespace WispersConnect.ServingAnswers

open Messages OutcomeMonad Cryptography RosterVerification PairingCodes NodeLifecycle Endorsing
open EndorserRuns CodeLifetimes AbandonedPairings PairingSecrets PeerSigning RosterBuilders
open PeerEncoding ServingLoop ServingRuns Runs PanicFreedom
open PeerConnections hiding ServingSession

section Texts

variable {δ α β : Type}

/-- Every error of a call has a text. -/
def Explains (outcome : Outcome String α) : Prop := ∀ error,outcome=.err error → error≠""

/-- A text that goes on after a word is not empty. -/
theorem append_ne_empty {word : String} (h : word≠"") (rest : String) : word++rest≠"" :=
  fun hempty => h <| by
    have hchars := congrArg String.toList hempty
    rw [String.toList_append] at hchars
    exact String.toList_eq_nil_iff.mp (List.append_eq_nil_iff.mp hchars).1

theorem explains_ok (a : α) : Explains (.ok a) := fun _ h => by cases h

theorem explains_err {error : String} (h : error≠"") : Explains (.err error : Outcome String α) :=
  fun _ h' => Outcome.err.inj h' ▸ h

theorem explains_okOr {error : String} (h : error≠"") (x : Option α) :
    Explains (Outcome.okOr x error) := by
  intro e he
  rw [Outcome.okOr_eq_err] at he
  exact he.2 ▸ h

theorem explains_reject {error : String} (h : error≠"") (p : Prop) [Decidable p] :
    Explains (Outcome.reject p error) := by
  intro e he
  rw [Outcome.reject_eq_err] at he
  exact he.2 ▸ h

theorem explains_mapErr {f : δ→String} (h : ∀ e,f e≠"") (x : Outcome δ α) :
    Explains (x.mapErr f) := by
  cases x with
  | ok a => exact explains_ok a
  | err e => exact explains_err (h e)
  | panic m => exact fun _ h => by cases h

/-- A sequence explains its errors when both halves do. -/
theorem Explains.bind {x : Outcome String α} {f : α→Outcome String β} (hx : Explains x)
    (hf : ∀ a,Explains (f a)) : Explains (x >>= f) := by
  intro e he
  obtain h|⟨a,_,h⟩ := Outcome.bind_eq_err.mp he
  · exact hx e h
  · exact hf a e h

end Texts

section Refusals

/-- A pairing request is not refused without a text. -/
theorem pairNodes_explains (C : Crypto) (state : EndorsingState) (message : PairNodesMessage)
    (nodeNumber : Int32) (signingKey : C.SigningKey) (now : ℕ) (ourNonce : Bytes) :
    (∃ reply,(state.pairNodes C message nodeNumber signingKey now ourNonce).2=.ok reply) ∨
      ∃ error,(state.pairNodes C message nodeNumber signingKey now ourNonce).2=.error error ∧
        error≠"" := by
  unfold EndorsingState.pairNodes
  split
  next => exact .inr ⟨_,rfl,by decide⟩
  next =>
    dsimp only
    split
    next =>
      split
      next => exact .inr ⟨_,rfl,by decide⟩
      next => exact .inr ⟨_,rfl,by decide⟩
    next => exact .inl ⟨_,rfl⟩

/-- A co-signature is not refused without a text. -/
theorem rosterCosign_explains (C : Crypto) (state : EndorsingState) (request : RosterCosignRequest)
    (nodeNumber : Int32) (signingKey : C.SigningKey) :
    Explains (state.rosterCosign C request nodeNumber signingKey).2 := by
  have hcheck : Explains (state.checkCosignRequest C request nodeNumber signingKey) := by
    refine (explains_okOr (append_ne_empty (by decide) _) _).bind fun pending => ?_
    refine (explains_okOr (by decide) _).bind fun roster => ?_
    refine (explains_okOr (by decide) _).bind fun activation => ?_
    refine (explains_okOr (by decide) _).bind fun payload => ?_
    refine (explains_reject (by decide) _).bind fun _ => ?_
    refine (explains_reject (by decide) _).bind fun _ => ?_
    refine (explains_reject (by decide) _).bind fun _ => ?_
    refine (explains_okOr (by decide) _).bind fun newNode => ?_
    refine (explains_reject (by decide) _).bind fun _ => ?_
    refine (explains_okOr (by decide) _).bind fun endorser => ?_
    exact (explains_reject (by decide) _).bind fun _ => explains_ok _
  have hsign : Explains (state.checkCosignRequest C request nodeNumber signingKey >>= fun roster =>
      computeSigningHash C (clearLatestAddendumSignatures roster) >>= fun signingHash =>
        pure (RosterCosignResponse.mk (C.sign signingKey signingHash))) := by
    refine hcheck.bind fun roster => ?_
    rw [computeSigningHash_clearLatest]
    exact explains_ok _
  unfold EndorsingState.rosterCosign
  dsimp only
  split
  next => exact hsign
  next => exact hsign

/-- A connection is not refused without a text. -/
theorem handleStartConnectionRequest_explains {C : PeerCrypto}
    (answering : PeerConnections.ServingSession C) (source : Int32)
    (request : StartConnectionRequest) (env : ServingEnvironment) :
    Explains (answering.handleStartConnectionRequest source request env).2 := by
  have htext : ∀ e,rosterErrorText e≠"" := by
    intro e
    unfold rosterErrorText
    split <;> decide
  have hcheck : Explains (answering.checkRequest source request env.hub) := by
    refine (explains_mapErr (fun _ => by decide) _).bind fun _ => ?_
    refine (explains_mapErr htext _).bind fun roster => ?_
    refine Explains.bind ?_ fun callerNode => explains_mapErr (fun _ => by decide) _
    refine (explains_okOr (by decide) _).bind fun node => ?_
    exact (explains_reject (by decide) _).bind fun _ => explains_ok _
  unfold PeerConnections.ServingSession.handleStartConnectionRequest
  cases hresult : answering.checkRequest source request env.hub with
  | ok payload =>
    dsimp only
    split
    next => exact explains_err (by decide)
    next =>
      refine (explains_okOr (by decide) _).bind fun config => ?_
      refine (explains_mapErr (fun e => append_ne_empty (by decide) e) _).bind fun sdp => ?_
      exact explains_ok _
  | err error => exact explains_err (hcheck error hresult)
  | panic m => exact fun _ h => by cases h

/-- A connection request does not panic, as the session's own key decodes. -/
theorem handleStartConnectionRequest_noPanic {C : PeerCrypto} (hround : C.SpkiRoundTrip)
    (answering : PeerConnections.ServingSession C) (source : Int32)
    (request : StartConnectionRequest) (env : ServingEnvironment) :
    (answering.handleStartConnectionRequest source request env).2.NoPanic := by
  have hcheck : (answering.checkRequest source request env.hub).NoPanic := by
    refine (Outcome.noPanic_mapErr.mpr (Outcome.noPanic_ofExcept _)).bind fun _ _ => ?_
    refine Outcome.NoPanic.bind (Outcome.noPanic_mapErr.mpr ?_) fun roster _ => ?_
    · refine (Outcome.noPanic_ofExcept _).bind fun fetched _ => ?_
      refine (Outcome.noPanic_mapErr.mpr (verifyRoster_own_noPanic hround _ _ _)).bind
        fun _ _ => ?_
      exact Outcome.noPanic_ok _
    · refine Outcome.NoPanic.bind ?_ fun callerNode _ => Outcome.noPanic_mapErr.mpr
        verifySigned_noPanic
      refine (Outcome.noPanic_okOr _ _).bind fun node _ => ?_
      exact (Outcome.noPanic_reject _ _).bind fun _ _ => Outcome.noPanic_ok _
  unfold PeerConnections.ServingSession.handleStartConnectionRequest
  cases hresult : answering.checkRequest source request env.hub with
  | ok payload =>
    dsimp only
    split
    next => exact Outcome.noPanic_err _
    next =>
      refine (Outcome.noPanic_okOr _ _).bind fun config _ => ?_
      refine (Outcome.noPanic_mapErr.mpr (Outcome.noPanic_ofExcept _)).bind fun sdp _ => ?_
      exact Outcome.noPanic_ok _
  | err error => exact Outcome.noPanic_err _
  | panic m => exact absurd hresult (hcheck m)

end Refusals

section Answering

/-- An answer is of the kind of the request. -/
inductive Fits : ServingRequestKind→ServingResponseKind→Prop where
  /-- A pairing. -/
  | pairNodes {message reply : PairNodesMessage} : Fits (.pairNodes message) (.pairNodes reply)
  /-- A co-signature. -/
  | rosterCosign {request : RosterCosignRequest} {response : RosterCosignResponse} :
      Fits (.rosterCosign request) (.rosterCosign response)
  /-- A connection. -/
  | startConnection {request : StartConnectionRequest} {response : StartConnectionResponse} :
      Fits (.startConnection request) (.startConnection response)

/-- Whether an event asks for a response and the stream takes it. -/
def asksAnswer : LoopEvent→Bool
  | .checkIn sent => sent
  | .hubRequest ⟨_,_,some (.welcome _)⟩ _ => false
  | .hubRequest ⟨_,_,some _⟩ env => env.serving.responseSent
  | _ => false

/-- A response answers an event. -/
inductive Answers : LoopEvent→ServingResponse→Prop where
  /-- A sign of life has the number zero. -/
  | checkIn : Answers (.checkIn true) ⟨0,"",some .checkIn⟩
  /-- A request is granted under its number. -/
  | granted {id : Int64} {source : Int32} {kind : ServingRequestKind} {env : RequestEnvironment}
      {answer : ServingResponseKind} (fits : Fits kind answer) :
      Answers (.hubRequest ⟨id,source,some kind⟩ env) ⟨id,"",some answer⟩
  /-- A request is refused under its number. -/
  | refused {id : Int64} {source : Int32} {kind : ServingRequestKind} {env : RequestEnvironment}
      {error : String} (explained : error≠"") :
      Answers (.hubRequest ⟨id,source,some kind⟩ env) ⟨id,error,none⟩

/-- The response in an output. -/
def responseOf : Output→Option ServingResponse
  | .response response => some response
  | _ => none

/-- The responses of a run. -/
def responses (log : List LoopEntry) : List ServingResponse :=
  (log.flatMap Prod.snd).filterMap responseOf

/-- The events of a run that ask for a response. -/
def asking (log : List LoopEntry) : List LoopEvent := (log.map Prod.fst).filter asksAnswer

variable {C : PeerCrypto}

/-- A request is answered by its result. -/
theorem answers_respond {id : Int64} {source : Int32} {kind : ServingRequestKind}
    {env : RequestEnvironment} {result : Except String ServingResponseKind}
    (hasks : asksAnswer (.hubRequest ⟨id,source,some kind⟩ env)=env.serving.responseSent)
    (hfits : ∀ answer,result=.ok answer → Fits kind answer)
    (hexplains : ∀ error,result=.error error → error≠"") :
    List.Forall₂ Answers ([.hubRequest ⟨id,source,some kind⟩ env].filter asksAnswer)
      ((respond env.serving.responseSent id result).filterMap responseOf) := by
  unfold respond
  cases hsent : env.serving.responseSent with
  | false =>
    rw [List.filter_cons_of_neg (by rw [hasks,hsent]; decide)]
    exact .nil
  | true =>
    rw [List.filter_cons_of_pos (by rw [hasks,hsent])]
    cases result with
    | ok answer => exact .cons (.granted (hfits answer rfl)) .nil
    | error error => exact .cons (.refused (hexplains error rfl)) .nil

/-- A turn that does not panic answers what asks for it. -/
theorem Turn.answers {before after : ServingState C} {event : LoopEvent} {outputs : List Output}
    (h : Turn before event after outputs) (hphase : ∀ m,after.phase≠.ended (.panicked m)) :
    List.Forall₂ Answers ([event].filter asksAnswer) (outputs.filterMap responseOf) := by
  cases h with
  | status => exact .nil
  | activationCode => exact .nil
  | shutdown => exact .nil
  | commandsClosed => exact .nil
  | @checkIn sent =>
    cases sent with
    | false => exact .nil
    | true => exact .cons .checkIn .nil
  | @handled _ env _ _ _ call =>
    cases call with
    | welcome => exact .nil
    | @pairNodes id source message endorsing result call =>
      have hexplains := pairNodes_explains C.toCrypto before.session.endorsing message
        before.session.nodeNumber before.session.answering.signingKey env.now env.ourNonce
      rw [call] at hexplains
      refine answers_respond rfl ?_ ?_
      · intro answer hanswer
        cases result with
        | ok reply =>
          obtain rfl := Except.ok.inj hanswer
          exact .pairNodes
        | error e => cases hanswer
      · intro error herror
        cases result with
        | ok reply => cases herror
        | error e =>
          obtain rfl := Except.error.inj herror
          obtain ⟨reply,hreply⟩|⟨error,he,hne⟩ := hexplains
          · cases hreply
          · exact Except.error.inj he ▸ hne
    | cosigned call =>
      refine answers_respond rfl ?_ (fun _ herror => by cases herror)
      intro answer hanswer
      obtain rfl := Except.ok.inj hanswer
      exact .rosterCosign
    | notCosigned call =>
      refine answers_respond rfl (fun _ hanswer => by cases hanswer) ?_
      intro error herror
      obtain rfl := Except.error.inj herror
      exact rosterCosign_explains _ _ _ _ _ _ (congrArg Prod.snd call)
    | started call =>
      rw [List.filterMap_append]
      have hnone : ∀ started : Option PeerConnections.IncomingConnection,
          (started.toList.map Output.connection).filterMap responseOf=[] := by
        intro started
        cases started <;> rfl
      rw [hnone,List.append_nil]
      refine answers_respond rfl ?_ (fun _ herror => by cases herror)
      intro answer hanswer
      obtain rfl := Except.ok.inj hanswer
      exact .startConnection
    | notStarted call =>
      refine answers_respond rfl (fun _ hanswer => by cases hanswer) ?_
      intro error herror
      obtain rfl := Except.error.inj herror
      exact handleStartConnectionRequest_explains _ _ _ _ _ (congrArg Prod.snd call)
    | unknown => exact .nil
  | panicked => exact absurd rfl (hphase _)
  | streamEnded => exact .nil
  | streamFailed => exact .nil
  | rejected => exact .nil
  | connected => exact .nil
  | attemptRejected => exact .nil
  | attemptFailed => exact .nil
  | slept => exact .nil

/-- A turn does not panic. -/
theorem Turn.noPanic (hround : C.SpkiRoundTrip) {before after : ServingState C}
    {event : LoopEvent} {outputs : List Output} (h : Turn before event after outputs)
    (hphase : ∀ m,before.phase≠.ended (.panicked m)) (m : String) :
    after.phase≠.ended (.panicked m) := by
  cases h with
  | status => exact hphase m
  | activationCode => exact hphase m
  | checkIn => exact hphase m
  | panicked _ call =>
    have hno := handleStartConnectionRequest_noPanic hround before.session.answering
    exact absurd (congrArg Prod.snd call) (hno _ _ _ _)
  | _ => exact fun hno => by cases hno

/-- Over every run, the session does not panic. -/
theorem never_panicked (hround : C.SpkiRoundTrip) {session : ServingSession C}
    {log : List LoopEntry} {state : ServingState C} (run : LoopRun session log state) (m : String) :
    state.phase≠.ended (.panicked m) :=
  LoopRun.invariant (motive:=fun _ state => ∀ m,state.phase≠.ended (.panicked m))
    (fun _ hno => by cases hno) (fun _ _ _ _ _ _ hphase hturn => Turn.noPanic hround hturn hphase)
    run m

/-- Over every run, the session does not panic, and the requests that ask for an answer are
answered once each and in order, under their numbers: with an answer of their kind, or with
a text that says what went wrong. -/
theorem requests_answered (hround : C.SpkiRoundTrip) (session : ServingSession C)
    (log : List LoopEntry) (state : ServingState C) (run : LoopRun session log state) :
    (∀ m,state.phase≠.ended (.panicked m)) ∧
      List.Forall₂ Answers (asking log) (responses log) := by
  refine ⟨never_panicked hround run,?_⟩
  refine LoopRun.invariant (motive:=fun log _ => List.Forall₂ Answers (asking log) (responses log))
    .nil ?_ run
  intro log before event after outputs earlier hanswers hturn
  have hnext := Turn.noPanic hround hturn (never_panicked hround earlier)
  simp only [asking,responses,List.map_append,List.map_cons,List.map_nil,List.filter_append,
    List.flatMap_append,List.flatMap_cons,List.flatMap_nil,List.append_nil,
    List.filterMap_append]
  exact List.rel_append hanswers (Turn.answers hturn hnext)

/-- A pairing request and a connection request are answered after an outage. -/
theorem requests_answered_outage : List.Forall₂ Answers (asking outageLog) (responses outageLog) ∧
    (responses outageLog).map ServingResponse.requestId=[7,8] := by
  obtain ⟨state,hrun,-⟩ := outageLog_run
  exact ⟨(requests_answered sealedCrypto_spkiRoundTrip secondServing outageLog state hrun).2,
    by decide +kernel⟩

end Answering

section Status

/-- Whether a stream is open after an event, by whether one was open before it. -/
def openAfter (isOpen : Bool) : LoopEvent→Bool
  | .streamEnded => false
  | .streamFailed _ _ => false
  | .attempted (.ok ()) _ => true
  | _ => isOpen

/-- Whether a stream is open after the events of a run, which starts with one. -/
def streamOpen (log : List LoopEntry) : Bool := (log.map Prod.fst).foldl openAfter true

variable {C : PeerCrypto}

/-- A turn after which the loop goes on keeps account of the stream. -/
theorem Turn.connected {before after : ServingState C} {event : LoopEvent} {outputs : List Output}
    (h : Turn before event after outputs) (hrunning : after.phase.Running) :
    after.session.connected=openAfter before.session.connected event := by
  cases h with
  | shutdown => exact absurd hrunning id
  | commandsClosed => exact absurd hrunning id
  | handled _ call => cases call <;> rfl
  | panicked => exact absurd hrunning id
  | rejected => exact absurd hrunning id
  | attemptRejected => exact absurd hrunning id
  | _ => rfl

/-- While the loop goes on, the session knows whether a stream is open. -/
theorem connected_streamOpen {session : ServingSession C} {log : List LoopEntry}
    {state : ServingState C} (run : LoopRun session log state) :
    state.phase.Running → state.session.connected=streamOpen log := by
  refine LoopRun.invariant (motive:=fun log state => state.phase.Running →
    state.session.connected=streamOpen log) ?_ ?_ run
  · exact fun _ => rfl
  · intro log before event after outputs _ ih hturn hrunning
    rw [Turn.connected hturn hrunning,ih (hturn.running hrunning)]
    unfold streamOpen
    rw [List.map_append,List.foldl_append]
    rfl

/-- No turn changes the group. -/
theorem connectivityGroupId_kept {session : ServingSession C} {log : List LoopEntry}
    {state : ServingState C} (run : LoopRun session log state) :
    state.session.connectivityGroupId=session.connectivityGroupId := by
  refine LoopRun.invariant (motive:=fun _ state => state.session.connectivityGroupId=
    session.connectivityGroupId) rfl ?_ run
  intro log before event after outputs _ ih hturn
  refine Eq.trans ?_ ih
  cases hturn with
  | handled _ call => cases call <;> rfl
  | _ => rfl

/-- The codes outstanding after a call, of those before it: those that had expired are dropped,
one that authorises a pairing is used up, and one that is issued is added. -/
def codesAfter (codes : List TimedSecret) : EndorserEvent→List TimedSecret
  | .restart => []
  | .generateActivationCode ttlProfile pruneTime issueTime secret result =>
    let codes := codes.filter fun ts => pruneTime<ts.expiresAt
    match result with
    | .ok _ => codes++[⟨secret,issueTime+ttlProfile.ttl⟩]
    | .error _ => codes
  | .pairNodes message now _ used _ =>
    match message.payload with
    | none => codes
    | some _ =>
      let codes := codes.filter fun ts => now<ts.expiresAt
      match used with
      | some secret => swapRemove codes (codes.findIdx fun ts => ts.secret=secret)
      | none => codes
  | .rosterCosign _ _ => codes

/-- The codes that some calls leave outstanding. -/
def outstandingCodes (calls : List EndorserEvent) : List TimedSecret := calls.foldl codesAfter []

/-- The first code that verifies a request is the first with its secret. -/
theorem findIdx_secret {codes : List TimedSecret} {verifies : PairingSecret→Bool}
    {ts : TimedSecret} (h : codes.find? (fun code => verifies code.secret)=some ts) :
    codes.findIdx (fun code => verifies code.secret)=
      codes.findIdx fun code => code.secret=ts.secret := by
  induction codes with
  | nil => cases h
  | cons code codes ih =>
    rw [List.find?_cons] at h
    rw [List.findIdx_cons,List.findIdx_cons]
    by_cases hverifies : verifies code.secret=true
    · rw [hverifies] at h
      rw [hverifies,Option.some.inj h,decide_eq_true rfl]
      rfl
    · rw [Bool.not_eq_true] at hverifies
      rw [hverifies] at h
      have hfound : verifies ts.secret=true :=
        List.find?_some (p := fun code : TimedSecret => verifies code.secret) h
      have hother : code.secret≠ts.secret := fun hsame => by
        rw [hsame,hfound] at hverifies
        cases hverifies
      rw [hverifies,decide_eq_false hother,ih h]

/-- A call leaves those codes outstanding. -/
theorem EndorserStep.codes {C : Crypto} {endorser : Endorser C} {before after : EndorsingState}
    {call : EndorserEvent} (h : EndorserStep endorser before call after)
    (htime : before.ttlOverride=none) :
    after.pairingSecrets=codesAfter before.pairingSecrets call := by
  have heffect := h.effect
  cases h with
  | restart => rfl
  | generateActivationCode =>
    cases heffect with
    | refusedIssue => rfl
    | issued =>
      rw [htime]
      rfl
  | @pairNodes _ message now ourNonce result called =>
    unfold EndorsingState.verifyingSecret
    unfold EndorsingState.pairNodes at called
    cases hpayload : message.payload with
    | none =>
      rw [hpayload] at called
      rw [←(Prod.mk.inj called).1,codesAfter,hpayload]
    | some payload =>
      rw [hpayload] at called
      dsimp only at called
      rw [codesAfter,hpayload,Option.bind_some]
      split at called
      next hnone =>
        rw [hnone]
        split at called
        next => rw [←(Prod.mk.inj called).1]; rfl
        next => rw [←(Prod.mk.inj called).1]; rfl
      next ts hsome =>
        rw [hsome,←(Prod.mk.inj called).1]
        dsimp only [Option.map_some]
        have hindex := @findIdx_secret _ (fun secret => secret.verifyMac C
          (C.encodePairNodesPayload payload) message.mac) _ hsome
        rw [hindex]
        rfl
  | rosterCosign =>
    cases heffect with
    | refusedCosign => rfl
    | cosigned => rfl

/-- In every run, the codes kept are those that the calls leave outstanding. -/
theorem outstanding_codes {C : Crypto} {endorser : Endorser C} {calls : List EndorserEvent}
    {state : EndorsingState} (run : EndorserRun endorser calls state) :
    state.pairingSecrets=outstandingCodes calls := by
  refine run.invariant
    (motive := fun calls state => state.pairingSecrets=outstandingCodes calls) rfl ?_
  intro calls before call after earlier ih hstep
  rw [EndorserStep.codes hstep (ttlOverride_none earlier),ih]
  unfold outstandingCodes
  rw [List.foldl_append]
  rfl

/-- The outstanding codes are among those issued, each counted as often. -/
theorem outstanding_subperm {C : Crypto} {endorser : Endorser C} {calls : List EndorserEvent}
    {state : EndorsingState} (run : EndorserRun endorser calls state) :
    state.pairingSecrets.Subperm (calls.filterMap issuedSecret) := by
  refine run.invariant (motive:=fun calls state =>
    state.pairingSecrets.Subperm (calls.filterMap issuedSecret)) List.nil_subperm ?_
  intro calls before call after earlier ih hstep
  have hpruned : ∀ now,(before.pruneExpired now).pairingSecrets.Subperm
      (calls.filterMap issuedSecret) :=
    fun now => (pruneExpired_sublist before now).subperm.trans ih
  have hkept : ∀ {secrets : List TimedSecret},secrets.Subperm (calls.filterMap issuedSecret) →
      secrets.Subperm ((calls++[call]).filterMap issuedSecret) := by
    intro secrets h
    rw [List.filterMap_append]
    exact h.trans (List.sublist_append_left _ _).subperm
  have htime := ttlOverride_none earlier
  cases hstep.effect with
  | restarted => exact List.nil_subperm
  | refusedIssue => exact hkept (hpruned _)
  | issued =>
    rw [List.filterMap_append,htime]
    exact (hpruned _).append (List.Subperm.refl _)
  | refusedPairing same =>
    obtain rfl|rfl := same
    · exact hkept ih
    · exact hkept (hpruned _)
  | @paired _ _ _ _ _ secrets _ _ removed =>
    exact hkept ((List.sublist_cons_self _ secrets).subperm.trans
      (removed.subperm.trans (hpruned _)))
  | refusedCosign => exact hkept ih
  | cosigned => exact hkept ih

/-- The codes that a status counts. -/
def countedCodes (status : ServingStatus) : ℕ :=
  (status.endorsing.map EndorsingStatus.codesOutstanding).getD 0

/-- The nodes that a status names. -/
def namedNodes (status : ServingStatus) : Finset Int32 :=
  (status.endorsing.map EndorsingStatus.nodesAwaitingCosign).getD ∅

/-- A status leaves nothing out when it has nothing to tell. -/
theorem buildStatus_endorsing (session : ServingSession C) (now : ℕ) :
    countedCodes (session.buildStatus now)=
        (session.endorsing.pairingSecrets.filter fun ts => now<ts.expiresAt).length ∧
      namedNodes (session.buildStatus now)=session.endorsing.pendingEndorsements.keys := by
  unfold countedCodes namedNodes ServingSession.buildStatus endorsingStatus
  dsimp only
  split
  next hnothing => exact ⟨hnothing.1.symm,hnothing.2.symm⟩
  next => exact ⟨rfl,rfl⟩

/-- What the calls to the endorsing state make true of a status at an instant. -/
structure Accounts (calls : List EndorserEvent) (now : ℕ) (status : ServingStatus) : Prop where
  /-- The nodes named are those that paired and were not co-signed since. -/
  waiting : namedNodes status=awaitingCosign calls
  /-- The codes counted are those outstanding that have not expired. -/
  codes : countedCodes status=
    ((outstandingCodes calls).filter fun ts => now<ts.expiresAt).length
  /-- No more codes are counted than were issued and have not expired. -/
  issued : countedCodes status≤
    ((calls.filterMap issuedSecret).filter fun ts => now<ts.expiresAt).length
  /-- Together they stay within the bound. -/
  bounded : countedCodes status+(namedNodes status).card ≤ maxActiveActivations

/-- In every run through any outages, a status tells whether a stream is open, for this node
and group, and accounts for the codes and pairings so far. -/
theorem status_truthful (session : ServingSession C) (hnew : session.endorsing=.new)
    (log : List LoopEntry) (state : ServingState C) (run : LoopRun session log state) (i : ℕ)
    (reply : ℕ) (env : CommandEnvironment) (outputs : List Output)
    (h : log[i]?=some (.command (.status reply) env,outputs)) :
    ∃ status calls endorsing,outputs=[.reply reply (.status status)] ∧
      status.connected=streamOpen (log.take i) ∧ status.nodeNumber=session.nodeNumber ∧
      status.connectivityGroupId=session.connectivityGroupId ∧
      EndorserRun (endorserOf session) calls endorsing ∧
      List.Forall₂ Concerns ((log.take i).filter fun entry => concernsEndorser entry.1) calls ∧
      Accounts calls env.now status := by
  obtain ⟨before,after,hbefore,hturn,_⟩ := run.at h
  obtain ⟨calls,hcalls,_,hmatch⟩ := session_endorses session hnew _ _ hbefore
  cases turn_cases hturn with
  | status running =>
    have hnode := congrArg Endorser.nodeNumber (endorserOf_kept hbefore)
    obtain ⟨hcodes,hwaiting⟩ := buildStatus_endorsing before.session env.now
    have hkeys := pending_awaiting hcalls
    refine ⟨_,calls,_,rfl,connected_streamOpen hbefore running,hnode,
      connectivityGroupId_kept hbefore,hcalls,hmatch,hwaiting.trans hkeys,?_,?_,?_⟩
    · rw [hcodes,outstanding_codes hcalls]
    · rw [hcodes]
      exact ((outstanding_subperm hcalls).filter _).length_le
    · have hbound := activations_bounded hcalls
      rw [activeActivations,card_entries] at hbound
      rw [hcodes,hwaiting]
      have hle := List.length_filter_le (fun ts : TimedSecret => decide (env.now<ts.expiresAt))
        before.session.endorsing.pairingSecrets
      omega

end Status

end WispersConnect.ServingAnswers
