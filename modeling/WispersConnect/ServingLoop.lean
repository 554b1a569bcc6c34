import WispersConnect.EndorserRuns
import WispersConnect.RttEstimates

/-!
# The serving loop

`ServingSession::run`: commands of the handles and requests of the hub are handled one
at a time. When the hub's stream drops, the session connects again, waiting longer after
each failure, and goes on answering commands meanwhile. Each turn of the loop is one
event, with what the clock, the random numbers and the hub contribute to it.
-/

namespace WispersConnect.ServingLoop

open Messages OutcomeMonad Cryptography PairingCodes RosterVerification NodeLifecycle Endorsing
open PeerSigning RttEstimates
open PeerConnections hiding ServingSession

/-- `EndorsingStatus`. -/
structure EndorsingStatus where
  /-- Codes that wait to be used. -/
  codesOutstanding : ℕ
  /-- Nodes that paired and await a co-signature. -/
  nodesAwaitingCosign : Finset Int32
  deriving DecidableEq

/-- `EndorsingState::status`. -/
def endorsingStatus (state : EndorsingState) (now : ℕ) : Option EndorsingStatus :=
  let codesOutstanding := (state.pairingSecrets.filter fun ts => now<ts.expiresAt).length
  let nodesAwaitingCosign := state.pendingEndorsements.keys
  if codesOutstanding=0 ∧ nodesAwaitingCosign=∅ then none
  else some ⟨codesOutstanding,nodesAwaitingCosign⟩

/-- `ServingStatus`. -/
structure ServingStatus where
  /-- There is a stream to the hub. -/
  connected : Bool
  /-- The group. -/
  connectivityGroupId : String
  /-- This node's number. -/
  nodeNumber : Int32
  /-- What the endorsing state has in hand. -/
  endorsing : Option EndorsingStatus
  deriving DecidableEq

/-- `Command`, with the number of the channel that its reply goes to. -/
inductive Command where
  /-- The status is asked for. -/
  | status (reply : ℕ)
  /-- A code is asked for. -/
  | generateActivationCode (ttlProfile : TtlProfile) (reply : ℕ)
  /-- The session is to end. -/
  | shutdown
  deriving DecidableEq

/-- What goes into a reply channel. -/
inductive Reply where
  /-- The status. -/
  | status (status : ServingStatus)
  /-- A code, or why there is none. -/
  | activationCode (result : Except ServingError PairingCode)
  deriving DecidableEq

/-- `serving_request::Kind`. -/
inductive ServingRequestKind where
  /-- The first message of a stream, with the time the hub spent on opening it. -/
  | welcome (serverSideInitLatencyUsec : Int64)
  /-- A node wants to pair. -/
  | pairNodes (message : PairNodesMessage)
  /-- A roster is to be co-signed. -/
  | rosterCosign (request : RosterCosignRequest)
  /-- A node wants to connect. -/
  | startConnection (request : StartConnectionRequest)

/-- `ServingRequest`. -/
structure ServingRequest where
  /-- What the answer is matched by. -/
  requestId : Int64
  /-- The node it comes from, as the hub says. -/
  sourceNodeNumber : Int32
  /-- What is asked for, if it is known here. -/
  kind : Option ServingRequestKind

/-- `serving_response::Kind`. -/
inductive ServingResponseKind where
  /-- A sign of life. -/
  | checkIn
  /-- The reply to a pairing request. -/
  | pairNodes (message : PairNodesMessage)
  /-- The co-signature. -/
  | rosterCosign (response : RosterCosignResponse)
  /-- The signed answer to a connection request. -/
  | startConnection (response : StartConnectionResponse)
  deriving DecidableEq

/-- `ServingResponse`. -/
structure ServingResponse where
  /-- The number of the request, zero for a sign of life. -/
  requestId : Int64
  /-- What went wrong, empty if nothing did. -/
  error : String
  /-- The answer, if there is one. -/
  kind : Option ServingResponseKind
  deriving DecidableEq

/-- What one turn of the loop does to its surroundings. -/
inductive Output where
  /-- A reply is sent. -/
  | reply (channel : ℕ) (reply : Reply)
  /-- A response goes onto the hub's stream. -/
  | response (response : ServingResponse)
  /-- A task completes a connection. -/
  | connection (incoming : IncomingConnection)
  /-- A round trip was measured. -/
  | rttSample (sample : ℕ)
  deriving DecidableEq

/-- `ServingSession`. -/
structure ServingSession (C : PeerCrypto) where
  /-- The registration, the key and the next connection id. -/
  answering : PeerConnections.ServingSession C
  /-- This node's number. -/
  nodeNumber : Int32
  /-- The group. -/
  connectivityGroupId : String
  /-- Codes and pending co-signatures. -/
  endorsing : EndorsingState
  /-- There is a stream to the hub. -/
  connected : Bool

/-- `ServingSession::new`. -/
def ServingSession.new (C : PeerCrypto) (registration : NodeRegistration)
    (signingKey : C.SigningKey) (connectivityGroupId : String) (nodeNumber : Int32) :
    ServingSession C :=
  ⟨⟨registration,signingKey,1⟩,nodeNumber,connectivityGroupId,.new,false⟩

/-- What a command reads and draws. -/
structure CommandEnvironment where
  /-- The clock, for a status. -/
  now : ℕ
  /-- The clock, when codes are pruned. -/
  pruneTime : ℕ
  /-- The clock, when a code is issued. -/
  issueTime : ℕ
  /-- The secret of a new code. -/
  secret : PairingSecret

/-- What a request of the hub meets with. -/
structure RequestEnvironment where
  /-- The clock. -/
  now : ℕ
  /-- The nonce for a pairing. -/
  ourNonce : Bytes
  /-- Since when the stream is open. -/
  elapsed : ℕ
  /-- What a connection request needs, and whether the stream takes the answer. -/
  serving : ServingEnvironment

/-- Why the loop ended. -/
inductive Ending where
  /-- It was asked to, or no handle is left. -/
  | shutdown
  /-- The hub rejects the credentials. -/
  | fatal (error : HubError)
  /-- A request panicked. -/
  | panicked (message : String)
  deriving DecidableEq

/-- `ReconnectBackoff`. -/
structure ReconnectBackoff where
  /-- The next delay, before it is varied. -/
  current : ℕ
  deriving DecidableEq

/-- `BASE`. -/
def backoffBase : ℕ := 10^9

/-- `CAP`. -/
def backoffCap : ℕ := 30*10^9

/-- `ReconnectBackoff::new`. -/
def ReconnectBackoff.new : ReconnectBackoff := ⟨backoffBase⟩

/-- `next_delay` moves on to twice the delay, up to the cap. -/
def ReconnectBackoff.advance (backoff : ReconnectBackoff) : ReconnectBackoff :=
  ⟨min (backoff.current*2) backoffCap⟩

/-- `next_delay` returns the delay varied by at most a fifth. -/
def ReconnectBackoff.Allows (backoff : ReconnectBackoff) (wait : ℕ) : Prop :=
  8*backoff.current≤10*wait ∧ 10*wait≤12*backoff.current

instance (backoff : ReconnectBackoff) (wait : ℕ) : Decidable (backoff.Allows wait) :=
  inferInstanceAs (Decidable (_ ∧ _))

/-- Where the loop is. -/
inductive Phase where
  /-- `serve`. -/
  | serving
  /-- `reconnect`, while an attempt is under way. -/
  | connecting (backoff : ReconnectBackoff)
  /-- `wait_while_servicing_commands`. -/
  | waiting (backoff : ReconnectBackoff)
  /-- `run` has returned. -/
  | ended (ending : Ending)
  deriving DecidableEq

/-- What happens next. -/
inductive LoopEvent where
  /-- A command is taken from the channel. -/
  | command (command : Command) (env : CommandEnvironment)
  /-- The channel is empty, and no handle is left. -/
  | commandsClosed
  /-- It is time for a sign of life, which the stream takes or not. -/
  | checkIn (sent : Bool)
  /-- The hub sends a request. -/
  | hubRequest (request : ServingRequest) (env : RequestEnvironment)
  /-- The hub's stream ends. -/
  | streamEnded
  /-- The hub's stream fails. -/
  | streamFailed (code : RpcCode) (message : String)
  /-- An attempt to connect succeeds, or fails and is followed by a wait. -/
  | attempted (result : Except HubError Unit) (wait : ℕ)
  /-- The wait is over. -/
  | slept

section Handling

variable {C : PeerCrypto}

/-- `build_status`. -/
def ServingSession.buildStatus (session : ServingSession C) (now : ℕ) : ServingStatus :=
  ⟨session.connected,session.connectivityGroupId,session.nodeNumber,
    endorsingStatus session.endorsing now⟩

/-- `dispatch_command`: the session, what it sends, and whether it goes on. -/
def ServingSession.dispatchCommand (session : ServingSession C) (command : Option Command)
    (env : CommandEnvironment) : ServingSession C×List Output×Bool :=
  match command with
  | some (.status reply) => (session,[.reply reply (.status (session.buildStatus env.now))],true)
  | some (.generateActivationCode ttlProfile reply) =>
    let (endorsing,result) := session.endorsing.generateActivationCode session.nodeNumber
      ttlProfile env.pruneTime env.issueTime env.secret
    ({session with endorsing},[.reply reply (.activationCode result)],true)
  | some .shutdown => (session,[],false)
  | none => (session,[],false)

/-- A response with an answer, or as in `send_error_response`, if the stream takes it. -/
def respond (sent : Bool) (requestId : Int64) (result : Except String ServingResponseKind) :
    List Output :=
  if sent then
    match result with
    | .ok kind => [.response ⟨requestId,"",some kind⟩]
    | .error e => [.response ⟨requestId,e,none⟩]
  else []

/-- `handle_hub_request`: the session, and what it sends unless it panics. -/
def ServingSession.handleHubRequest (session : ServingSession C) (request : ServingRequest)
    (env : RequestEnvironment) : ServingSession C×Outcome Empty (List Output) :=
  let send := respond env.serving.responseSent request.requestId
  match request.kind with
  | some (.welcome latency) => (session,.ok [.rttSample (welcomeSample env.elapsed latency)])
  | some (.pairNodes message) =>
    let (endorsing,result) := session.endorsing.pairNodes C.toCrypto message session.nodeNumber
      session.answering.signingKey env.now env.ourNonce
    ({session with endorsing},.ok (send (result.map .pairNodes)))
  | some (.rosterCosign cosignRequest) =>
    let (endorsing,result) := session.endorsing.rosterCosign C.toCrypto cosignRequest
      session.nodeNumber session.answering.signingKey
    ({session with endorsing},match result with
      | .ok response => .ok (send (.ok (.rosterCosign response)))
      | .err e => .ok (send (.error e))
      | .panic m => .panic m)
  | some (.startConnection startRequest) =>
    let (answering,result) := session.answering.handleStartConnectionRequest
      request.sourceNodeNumber startRequest env.serving
    ({session with answering},match result with
      | .ok answer => .ok (send (.ok (.startConnection answer.response))++
          answer.started.toList.map .connection)
      | .err e => .ok (send (.error e))
      | .panic m => .panic m)
  | none => (session,.ok [])

end Handling

/-- The loop between two turns. -/
structure ServingState (C : PeerCrypto) where
  /-- The session. -/
  session : ServingSession C
  /-- Where it is. -/
  phase : Phase

section Turns

variable {C : PeerCrypto}

/-- `run` starts on a stream that is open. -/
def ServingState.start (session : ServingSession C) : ServingState C :=
  ⟨{session with connected := true},.serving⟩

/-- The stream is lost. -/
def ServingState.disconnect (state : ServingState C) : ServingState C :=
  ⟨{state.session with connected := false},.connecting .new⟩

/-- A turn that is possible in every phase but the last. -/
def ServingState.takeCommand (state : ServingState C) (command : Option Command)
    (env : CommandEnvironment) : Option (ServingState C×List Output) :=
  match state.phase with
  | .ended _ => none
  | phase =>
    let (session,outputs,continues) := state.session.dispatchCommand command env
    some (⟨session,if continues then phase else .ended .shutdown⟩,outputs)

/-- A turn in `serve`. -/
def ServingState.serve (state : ServingState C) : LoopEvent→Option (ServingState C×List Output)
  | .checkIn sent => some (state,respond sent 0 (.ok .checkIn))
  | .hubRequest request env =>
    match state.session.handleHubRequest request env with
    | (session,.ok outputs) => some (⟨session,.serving⟩,outputs)
    | (session,.panic m) => some (⟨session,.ended (.panicked m)⟩,[])
  | .streamEnded => some (state.disconnect,[])
  | .streamFailed code message =>
    let err := HubError.rpc code message
    if err.isUnauthenticated then some (⟨state.session,.ended (.fatal err)⟩,[])
    else some (state.disconnect,[])
  | _ => none

/-- A turn in `reconnect`, when an attempt is over. -/
def ServingState.reconnect (state : ServingState C) (backoff : ReconnectBackoff) :
    LoopEvent→Option (ServingState C×List Output)
  | .attempted (.ok ()) _ => some (⟨{state.session with connected := true},.serving⟩,[])
  | .attempted (.error e) wait =>
    if e.isUnauthenticated then some (⟨state.session,.ended (.fatal e)⟩,[])
    else if backoff.Allows wait then some (⟨state.session,.waiting backoff.advance⟩,[])
    else none
  | _ => none

/-- A turn of the loop, if it is possible. -/
def ServingState.turn (state : ServingState C) (event : LoopEvent) :
    Option (ServingState C×List Output) :=
  match event with
  | .command command env => state.takeCommand (some command) env
  | .commandsClosed => state.takeCommand none ⟨0,0,0,⟨[]⟩⟩
  | event =>
    match state.phase,event with
    | .serving,event => state.serve event
    | .connecting backoff,event => state.reconnect backoff event
    | .waiting backoff,.slept => some (⟨state.session,.connecting backoff⟩,[])
    | _,_ => none

end Turns

/-- The loop has not returned. -/
def Phase.Running : Phase→Prop
  | .ended _ => False
  | _ => True

section Cases

variable {C : PeerCrypto}

/-- Everything the handling of a request can do, unless it panics. -/
inductive Handled (before : ServingSession C) (env : RequestEnvironment) :
    ServingRequest→ServingSession C→List Output→Prop where
  /-- The stream is open. -/
  | welcome {id : Int64} {source : Int32} {latency : Int64} :
      Handled before env ⟨id,source,some (.welcome latency)⟩ before
        [.rttSample (welcomeSample env.elapsed latency)]
  /-- A pairing request is answered or refused. -/
  | pairNodes {id : Int64} {source : Int32} {message : PairNodesMessage}
      {endorsing : EndorsingState} {result : Except String PairNodesMessage}
      (call : before.endorsing.pairNodes C.toCrypto message before.nodeNumber
        before.answering.signingKey env.now env.ourNonce=(endorsing,result)) :
      Handled before env ⟨id,source,some (.pairNodes message)⟩ {before with endorsing}
        (respond env.serving.responseSent id (result.map .pairNodes))
  /-- A roster is co-signed. -/
  | cosigned {id : Int64} {source : Int32} {request : RosterCosignRequest}
      {endorsing : EndorsingState} {response : RosterCosignResponse}
      (call : before.endorsing.rosterCosign C.toCrypto request before.nodeNumber
        before.answering.signingKey=(endorsing,.ok response)) :
      Handled before env ⟨id,source,some (.rosterCosign request)⟩ {before with endorsing}
        (respond env.serving.responseSent id (.ok (.rosterCosign response)))
  /-- A roster is not co-signed. -/
  | notCosigned {id : Int64} {source : Int32} {request : RosterCosignRequest}
      {endorsing : EndorsingState} {error : String}
      (call : before.endorsing.rosterCosign C.toCrypto request before.nodeNumber
        before.answering.signingKey=(endorsing,.err error)) :
      Handled before env ⟨id,source,some (.rosterCosign request)⟩ {before with endorsing}
        (respond env.serving.responseSent id (.error error))
  /-- A connection is started. -/
  | started {id : Int64} {source : Int32} {request : StartConnectionRequest}
      {answering : PeerConnections.ServingSession C} {answer : SignedAnswer}
      (call : before.answering.handleStartConnectionRequest source request env.serving=
        (answering,.ok answer)) :
      Handled before env ⟨id,source,some (.startConnection request)⟩ {before with answering}
        (respond env.serving.responseSent id (.ok (.startConnection answer.response))++
          answer.started.toList.map .connection)
  /-- A connection is refused. -/
  | notStarted {id : Int64} {source : Int32} {request : StartConnectionRequest}
      {answering : PeerConnections.ServingSession C} {error : String}
      (call : before.answering.handleStartConnectionRequest source request env.serving=
        (answering,.err error)) :
      Handled before env ⟨id,source,some (.startConnection request)⟩ {before with answering}
        (respond env.serving.responseSent id (.error error))
  /-- A request of a kind that is not known is passed over. -/
  | unknown {id : Int64} {source : Int32} : Handled before env ⟨id,source,none⟩ before []

/-- A request that does not panic is handled so. -/
theorem handled_of_handleHubRequest {before after : ServingSession C} {request : ServingRequest}
    {env : RequestEnvironment} {outputs : List Output}
    (h : before.handleHubRequest request env=(after,.ok outputs)) :
    Handled before env request after outputs := by
  obtain ⟨id,source,kind⟩ := request
  unfold ServingSession.handleHubRequest at h
  cases kind with
  | none =>
    obtain ⟨rfl,houtputs⟩ := Prod.mk.inj h
    obtain rfl := Outcome.ok.inj houtputs
    exact .unknown
  | some kind =>
    cases kind with
    | welcome latency =>
      obtain ⟨rfl,houtputs⟩ := Prod.mk.inj h
      obtain rfl := Outcome.ok.inj houtputs
      exact .welcome
    | pairNodes message =>
      obtain ⟨rfl,houtputs⟩ := Prod.mk.inj h
      obtain rfl := Outcome.ok.inj houtputs
      exact .pairNodes rfl
    | rosterCosign request =>
      cases hcall : before.endorsing.rosterCosign C.toCrypto request before.nodeNumber
          before.answering.signingKey with
      | mk endorsing result =>
        dsimp only at h
        rw [hcall] at h
        obtain ⟨rfl,houtputs⟩ := Prod.mk.inj h
        cases result with
        | ok response =>
          obtain rfl := Outcome.ok.inj houtputs
          exact .cosigned hcall
        | err error =>
          obtain rfl := Outcome.ok.inj houtputs
          exact .notCosigned hcall
        | panic m => cases houtputs
    | startConnection request =>
      cases hcall : before.answering.handleStartConnectionRequest source request env.serving with
      | mk answering result =>
        dsimp only at h
        rw [hcall] at h
        obtain ⟨rfl,houtputs⟩ := Prod.mk.inj h
        cases result with
        | ok answer =>
          obtain rfl := Outcome.ok.inj houtputs
          exact .started hcall
        | err error =>
          obtain rfl := Outcome.ok.inj houtputs
          exact .notStarted hcall
        | panic m => cases houtputs

/-- Only the handling of a connection request panics. -/
theorem panicked_of_handleHubRequest {before after : ServingSession C} {request : ServingRequest}
    {env : RequestEnvironment} {m : String}
    (h : before.handleHubRequest request env=(after,.panic m)) :
    ∃ startRequest answering,request.kind=some (.startConnection startRequest) ∧
      before.answering.handleStartConnectionRequest request.sourceNodeNumber startRequest
        env.serving=(answering,.panic m) ∧ after={before with answering} := by
  obtain ⟨id,source,kind⟩ := request
  unfold ServingSession.handleHubRequest at h
  cases kind with
  | none => cases h
  | some kind =>
    cases kind with
    | welcome latency => cases h
    | pairNodes message => cases (Prod.mk.inj h).2
    | rosterCosign request =>
      obtain ⟨e,hcall⟩|⟨roster,payload,pending,_,hcall⟩ := rosterCosign_cases C.toCrypto
        before.endorsing request before.nodeNumber before.answering.signingKey
      · dsimp only at h
        rw [hcall] at h
        cases (Prod.mk.inj h).2
      · dsimp only at h
        rw [hcall] at h
        cases (Prod.mk.inj h).2
    | startConnection request =>
      cases hcall : before.answering.handleStartConnectionRequest source request env.serving with
      | mk answering result =>
        dsimp only at h
        rw [hcall] at h
        obtain ⟨rfl,houtputs⟩ := Prod.mk.inj h
        cases result with
        | ok answer => cases houtputs
        | err error => cases houtputs
        | panic m' =>
          obtain rfl := Outcome.panic.inj houtputs
          exact ⟨request,answering,rfl,hcall,rfl⟩

/-- A request is handled in a turn while there is a stream. -/
theorem turn_of_handled {before : ServingState C} {request : ServingRequest}
    {env : RequestEnvironment} {session : ServingSession C} {outputs : List Output}
    (hserving : before.phase=.serving) (h : Handled before.session env request session outputs) :
    before.turn (.hubRequest request env)=some (⟨session,.serving⟩,outputs) := by
  have hhandled : before.session.handleHubRequest request env=(session,.ok outputs) := by
    cases h with
    | welcome => rfl
    | unknown => rfl
    | pairNodes call =>
      unfold ServingSession.handleHubRequest
      dsimp only
      rw [call]
    | cosigned call | notCosigned call =>
      unfold ServingSession.handleHubRequest
      dsimp only
      rw [call]
    | started call | notStarted call =>
      unfold ServingSession.handleHubRequest
      dsimp only
      rw [call]
  unfold ServingState.turn ServingState.serve
  rw [hserving]
  dsimp only
  rw [hhandled]

/-- Everything a turn can do. -/
inductive Turn (before : ServingState C) : LoopEvent→ServingState C→List Output→Prop where
  /-- A status is given. -/
  | status {reply : ℕ} {env : CommandEnvironment} (running : before.phase.Running) :
      Turn before (.command (.status reply) env) before
        [.reply reply (.status (before.session.buildStatus env.now))]
  /-- A code is given or refused. -/
  | activationCode {ttlProfile : TtlProfile} {reply : ℕ} {env : CommandEnvironment}
      {endorsing : EndorsingState} {result : Except ServingError PairingCode}
      (running : before.phase.Running)
      (call : before.session.endorsing.generateActivationCode before.session.nodeNumber ttlProfile
        env.pruneTime env.issueTime env.secret=(endorsing,result)) :
      Turn before (.command (.generateActivationCode ttlProfile reply) env)
        ⟨{before.session with endorsing},before.phase⟩ [.reply reply (.activationCode result)]
  /-- The loop is told to end. -/
  | shutdown {env : CommandEnvironment} (running : before.phase.Running) :
      Turn before (.command .shutdown env) ⟨before.session,.ended .shutdown⟩ []
  /-- No handle is left. -/
  | commandsClosed (running : before.phase.Running) :
      Turn before .commandsClosed ⟨before.session,.ended .shutdown⟩ []
  /-- A sign of life. -/
  | checkIn {sent : Bool} (serving : before.phase=.serving) :
      Turn before (.checkIn sent) before (respond sent 0 (.ok .checkIn))
  /-- A request is handled. -/
  | handled {request : ServingRequest} {env : RequestEnvironment} {session : ServingSession C}
      {outputs : List Output} (serving : before.phase=.serving)
      (call : Handled before.session env request session outputs) :
      Turn before (.hubRequest request env) ⟨session,.serving⟩ outputs
  /-- A connection request panics. -/
  | panicked {id : Int64} {source : Int32} {request : StartConnectionRequest}
      {env : RequestEnvironment} {answering : PeerConnections.ServingSession C} {m : String}
      (serving : before.phase=.serving)
      (call : before.session.answering.handleStartConnectionRequest source request env.serving=
        (answering,.panic m)) :
      Turn before (.hubRequest ⟨id,source,some (.startConnection request)⟩ env)
        ⟨{before.session with answering},.ended (.panicked m)⟩ []
  /-- The stream ends. -/
  | streamEnded (serving : before.phase=.serving) : Turn before .streamEnded before.disconnect []
  /-- The stream fails. -/
  | streamFailed {code : RpcCode} {message : String} (serving : before.phase=.serving)
      (retried : (HubError.rpc code message).isUnauthenticated=false) :
      Turn before (.streamFailed code message) before.disconnect []
  /-- The hub rejects the credentials on the stream. -/
  | rejected {code : RpcCode} {message : String} (serving : before.phase=.serving)
      (final : (HubError.rpc code message).isUnauthenticated=true) :
      Turn before (.streamFailed code message)
        ⟨before.session,.ended (.fatal (.rpc code message))⟩ []
  /-- There is a stream again. -/
  | connected {backoff : ReconnectBackoff} {wait : ℕ}
      (connecting : before.phase=.connecting backoff) :
      Turn before (.attempted (.ok ()) wait)
        ⟨{before.session with connected := true},.serving⟩ []
  /-- The hub rejects the credentials of an attempt. -/
  | attemptRejected {backoff : ReconnectBackoff} {error : HubError} {wait : ℕ}
      (connecting : before.phase=.connecting backoff) (final : error.isUnauthenticated=true) :
      Turn before (.attempted (.error error) wait) ⟨before.session,.ended (.fatal error)⟩ []
  /-- An attempt fails. -/
  | attemptFailed {backoff : ReconnectBackoff} {error : HubError} {wait : ℕ}
      (connecting : before.phase=.connecting backoff)
      (retried : error.isUnauthenticated=false) (allowed : backoff.Allows wait) :
      Turn before (.attempted (.error error) wait) ⟨before.session,.waiting backoff.advance⟩ []
  /-- The wait is over. -/
  | slept {backoff : ReconnectBackoff} (waiting : before.phase=.waiting backoff) :
      Turn before .slept ⟨before.session,.connecting backoff⟩ []

/-- A loop that goes on after a turn went on before it. -/
theorem Turn.running {before after : ServingState C} {event : LoopEvent} {outputs : List Output}
    (h : Turn before event after outputs) (hrunning : after.phase.Running) :
    before.phase.Running := by
  cases h with
  | status running => exact running
  | activationCode running => exact running
  | shutdown running => exact running
  | commandsClosed running => exact running
  | checkIn => exact hrunning
  | handled serving =>
    rw [serving]
    trivial
  | panicked => exact absurd hrunning id
  | streamEnded serving =>
    rw [serving]
    trivial
  | streamFailed serving =>
    rw [serving]
    trivial
  | rejected => exact absurd hrunning id
  | connected connecting =>
    rw [connecting]
    trivial
  | attemptRejected => exact absurd hrunning id
  | attemptFailed connecting =>
    rw [connecting]
    trivial
  | slept waiting =>
    rw [waiting]
    trivial

/-- A command is taken in every phase but the last. -/
theorem takeCommand_eq_some {before after : ServingState C} {command : Option Command}
    {env : CommandEnvironment} {outputs : List Output}
    (h : before.takeCommand command env=some (after,outputs)) :
    before.phase.Running ∧ ∃ session continues,
      before.session.dispatchCommand command env=(session,outputs,continues) ∧
      after=⟨session,if continues then before.phase else .ended .shutdown⟩ := by
  unfold ServingState.takeCommand at h
  split at h
  next => cases h
  next hrunning =>
    obtain ⟨rfl,rfl⟩ := Prod.mk.inj (Option.some.inj h)
    refine ⟨?_,_,_,rfl,rfl⟩
    cases hphase : before.phase with
    | ended ending => exact absurd hphase (hrunning ending)
    | serving => trivial
    | connecting backoff => trivial
    | waiting backoff => trivial

/-- Every turn does one of these. -/
theorem turn_cases {before after : ServingState C} {event : LoopEvent} {outputs : List Output}
    (h : before.turn event=some (after,outputs)) : Turn before event after outputs := by
  cases event with
  | command command env =>
    obtain ⟨hrunning,session,continues,hdispatch,rfl⟩ := takeCommand_eq_some h
    cases command with
    | status reply =>
      obtain ⟨rfl,hrest⟩ := Prod.mk.inj hdispatch
      obtain ⟨rfl,rfl⟩ := Prod.mk.inj hrest
      exact .status hrunning
    | generateActivationCode ttlProfile reply =>
      obtain ⟨rfl,hrest⟩ := Prod.mk.inj hdispatch
      obtain ⟨rfl,rfl⟩ := Prod.mk.inj hrest
      exact .activationCode hrunning rfl
    | shutdown =>
      obtain ⟨rfl,hrest⟩ := Prod.mk.inj hdispatch
      obtain ⟨rfl,rfl⟩ := Prod.mk.inj hrest
      exact .shutdown hrunning
  | commandsClosed =>
    have htake : before.takeCommand none ⟨0,0,0,⟨[]⟩⟩=some (after,outputs) := h
    obtain ⟨hrunning,session,continues,hdispatch,rfl⟩ := takeCommand_eq_some htake
    obtain ⟨rfl,hrest⟩ := Prod.mk.inj hdispatch
    obtain ⟨rfl,rfl⟩ := Prod.mk.inj hrest
    exact .commandsClosed hrunning
  | checkIn sent =>
    cases hphase : before.phase <;> simp only [ServingState.turn,hphase] at h
    case serving =>
      obtain ⟨rfl,rfl⟩ := Prod.mk.inj (Option.some.inj h)
      exact .checkIn hphase
    all_goals cases h
  | hubRequest request env =>
    cases hphase : before.phase <;> simp only [ServingState.turn,hphase] at h
    case serving =>
      cases hcall : before.session.handleHubRequest request env with
      | mk session result =>
        simp only [ServingState.serve,hcall] at h
        cases result with
        | ok handled =>
          obtain ⟨rfl,rfl⟩ := Prod.mk.inj (Option.some.inj h)
          exact .handled hphase (handled_of_handleHubRequest hcall)
        | err e => cases e
        | panic m =>
          obtain ⟨rfl,rfl⟩ := Prod.mk.inj (Option.some.inj h)
          obtain ⟨startRequest,answering,hkind,hstart,rfl⟩ := panicked_of_handleHubRequest hcall
          obtain ⟨id,source,kind⟩ := request
          dsimp only at hkind
          subst hkind
          exact .panicked hphase hstart
    all_goals cases h
  | streamEnded =>
    cases hphase : before.phase <;> simp only [ServingState.turn,hphase] at h
    case serving =>
      obtain ⟨rfl,rfl⟩ := Prod.mk.inj (Option.some.inj h)
      exact .streamEnded hphase
    all_goals cases h
  | streamFailed code message =>
    cases hphase : before.phase <;> simp only [ServingState.turn,hphase] at h
    case serving =>
      unfold ServingState.serve at h
      dsimp only at h
      split at h
      next hfinal =>
        obtain ⟨rfl,rfl⟩ := Prod.mk.inj (Option.some.inj h)
        exact .rejected hphase hfinal
      next hretried =>
        obtain ⟨rfl,rfl⟩ := Prod.mk.inj (Option.some.inj h)
        exact .streamFailed hphase (Bool.eq_false_iff.mpr hretried)
    all_goals cases h
  | attempted result wait =>
    cases hphase : before.phase <;> simp only [ServingState.turn,hphase] at h
    case connecting backoff =>
      cases result with
      | ok _ =>
        obtain ⟨rfl,rfl⟩ := Prod.mk.inj (Option.some.inj h)
        exact .connected hphase
      | error error =>
        simp only [ServingState.reconnect] at h
        split at h
        next hfinal =>
          obtain ⟨rfl,rfl⟩ := Prod.mk.inj (Option.some.inj h)
          exact .attemptRejected hphase hfinal
        next hretried =>
          split at h
          next hallowed =>
            obtain ⟨rfl,rfl⟩ := Prod.mk.inj (Option.some.inj h)
            exact .attemptFailed hphase (Bool.eq_false_iff.mpr hretried) hallowed
          next => cases h
    all_goals cases h
  | slept =>
    cases hphase : before.phase <;> simp only [ServingState.turn,hphase] at h
    case waiting backoff =>
      obtain ⟨rfl,rfl⟩ := Prod.mk.inj (Option.some.inj h)
      exact .slept hphase
    all_goals cases h

end Cases

end WispersConnect.ServingLoop
