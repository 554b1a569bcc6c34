import WispersConnect.ListEntries
import WispersConnect.ReadWriteLocks
import WispersConnect.ServingCalls

/-!
# Requests to the daemon

The daemon of a node answers local clients while it connects to the hub. Its handle to the
serving session is behind a lock: the task that connects puts it there, and the main loop
puts it there again before it starts the session. Whoever serves a client keeps the lock for
reading while a request is answered, also while the session is waited for.
-/

namespace WispersConnect.DaemonRequests

open Messages OutcomeMonad PairingCodes Endorsing ServingLoop ServingCalls Runs Mailboxes
open MailboxRuns PeerSigning ReadWriteLocks

/-- The `TtlProfile` of a request. -/
inductive TtlProfile where
  /-- Typed in right away. -/
  | interactive
  /-- Sent by slower means. -/
  | asynchronous
  deriving DecidableEq

/-- `TtlProfile::to_lib`. -/
def TtlProfile.toLib : TtlProfile→PairingCodes.TtlProfile
  | interactive => .interactive
  | asynchronous => .asynchronous

/-- `Request`. -/
inductive Request where
  /-- The status is asked for. -/
  | status
  /-- A code is asked for. -/
  | getActivationCode (ttlProfile : TtlProfile)
  /-- The daemon is to stop. -/
  | shutdown
  deriving DecidableEq

/-- What `serde_json` makes of a line: a request, or the text of what is wrong with it. -/
abbrev Line := Except String Request

/-- `EndorsingData`. -/
structure EndorsingData where
  /-- Codes that wait to be used. -/
  codesOutstanding : ℕ
  /-- Nodes that paired and await a co-signature. -/
  nodesAwaitingCosign : Finset Int32
  deriving DecidableEq

/-- `StatusData`. -/
structure StatusData where
  /-- There is a stream to the hub. -/
  connected : Bool
  /-- This node's number. -/
  nodeNumber : Int32
  /-- The group. -/
  cgId : String
  /-- What the endorsing state has in hand. -/
  endorsing : Option EndorsingData
  deriving DecidableEq

/-- `ResponseData`. -/
inductive ResponseData where
  /-- The status. -/
  | status (data : StatusData)
  /-- `ActivationCodeData`: a code as text. -/
  | activationCode (activationCode : Bytes)
  /-- Nothing. -/
  | empty
  deriving DecidableEq

/-- `Response`. -/
inductive Response where
  /-- `Success`. -/
  | success (ok : Bool) (data : ResponseData)
  /-- `Error`. -/
  | error (ok : Bool) (error : String)
  deriving DecidableEq

/-- `Response::success`. -/
def Response.ofData (data : ResponseData) : Response := .success true data

/-- `Response::error`. -/
def Response.ofText (error : String) : Response := .error false error

/-- How `ServingError` is shown. -/
def errorText : CallError→String
  | .sessionShutdown => "session shut down"
  | .serving .tooManyActivationSessions => "too many active activation sessions (max 100)"

/-- What is made of a status of the session. -/
def statusData (status : ServingStatus) : StatusData :=
  ⟨status.connected,status.nodeNumber,status.connectivityGroupId,
    status.endorsing.map fun e => ⟨e.codesOutstanding,e.nodesAwaitingCosign⟩⟩

/-- The call on the handle that a request is answered by. -/
def Request.call : Request→HandleCall
  | .status => .status
  | .getActivationCode ttlProfile => .generateActivationCodeWithTtl ttlProfile.toLib
  | .shutdown => .shutdown

/-- What `process_request` makes of what the call on the handle returned. -/
def Request.respond : Request→Except CallError HandleAnswer→Option (Outcome Empty Response)
  | .status,.ok (.status given) => some (.ok (.ofData (.status (statusData given))))
  | .status,.error error => some (.ok (.ofText ("status failed: "++errorText error)))
  | .getActivationCode _,.ok (.activationCode code) => some (do
      let text ← code.format
      pure (.ofData (.activationCode text)))
  | .getActivationCode _,.error error => some (.ok (.ofText (errorText error)))
  | .shutdown,_ => some (.ok (.ofData .empty))
  | _,_ => none

/-- The answer to a line that is no request. -/
def invalidRequest (error : String) : Response := .ofText ("invalid request: "++error)

/-- The answer while there is no handle. -/
def unconnected : Line→Response
  | .ok .status => .ofData (.status ⟨false,0,"",none⟩)
  | .ok _ => .ofText "hub not connected yet"
  | .error error => invalidRequest error

/-- A client is served no further once it was told that the daemon stops. -/
def isShutdown (line : Line) : Bool :=
  match line with
  | .ok .shutdown => true
  | _ => false

/-- Who asks for the lock of the handle. -/
inductive Party where
  /-- The task that connects to the hub. -/
  | connectTask
  /-- The main loop. -/
  | mainLoop
  /-- Whoever serves a client. -/
  | client (number : ℕ)
  deriving DecidableEq

/-- How far a client is served in `handle_client_with_optional_handle`. -/
inductive Service where
  /-- A line is read. -/
  | reading
  /-- The handle is to be looked at, under the lock. -/
  | asked (line : Line)
  /-- A call on the handle is waited for, under the lock. -/
  | calling (request : Request) (number : ℕ)
  /-- A response is written, maybe the last one. -/
  | writing (response : Response) (last : Bool)
  /-- It is served no further. -/
  | ended
  deriving DecidableEq

/-- How far the task is that connects to the hub. -/
inductive ConnectTask where
  /-- It waits for `start_serving`. -/
  | connecting
  /-- It is to put the handle there. -/
  | storing
  /-- It has put the handle there. -/
  | connected
  /-- It has failed. -/
  | failed
  deriving DecidableEq

/-- Where the main loop is. -/
inductive MainLoop where
  /-- In `select!`. -/
  | selecting
  /-- It is to put the handle there and to start the session. -/
  | storing
  /-- `serve` has returned. -/
  | returned
  deriving DecidableEq

/-- The daemon. -/
structure Daemon (C : PeerCrypto) where
  /-- `handle_state` has a handle. -/
  handleStored : Bool
  /-- The lock of `handle_state`. -/
  lock : Lock Party
  /-- `connect_task`. -/
  connectTask : ConnectTask
  /-- The loop of `serve`. -/
  mainLoop : MainLoop
  /-- `session_task` is there: the session runs. -/
  sessionSpawned : Bool
  /-- The session, and the calls on its handle. -/
  desk : ServingDesk C
  /-- The clients, in the order in which they came. -/
  clients : List Service

/-- What happens. -/
inductive DaemonEvent where
  /-- `start_serving` returns. -/
  | connected (success : Bool)
  /-- The lock is given to whoever has waited for it longest. -/
  | granted
  /-- Whoever has the lock for writing puts the handle there. -/
  | store (party : Party)
  /-- The main loop learns that the hub is connected, or that it could not be. -/
  | joined
  /-- The main loop learns that the session has ended. -/
  | sessionEnded
  /-- A client comes. -/
  | accepted
  /-- A line of a client was read. -/
  | lineRead (client : ℕ) (line : Line)
  /-- A client has gone. -/
  | hungUp (client : ℕ)
  /-- The handle is looked at for a client. -/
  | look (client : ℕ)
  /-- The command of a call goes into the channel. -/
  | handOver (call : ℕ) (command : Command)
  /-- The call for a client returns. -/
  | called (client : ℕ)
  /-- A response was written, or could not be. -/
  | wrote (client : ℕ) (success : Bool)
  /-- The session turns to something else. -/
  | turnAway
  /-- The session has done something. -/
  | turn (event : LoopEvent)

/-- An event and what it was to the session and the calls on its handle. -/
abbrev DaemonEntry := DaemonEvent×List ServingDeskEntry

section Steps

variable {C : PeerCrypto}

/-- The daemon as it starts. -/
def Daemon.start (session : ServingLoop.ServingSession C) : Daemon C :=
  ⟨false,.free,.connecting,.selecting,false,.start (.start session),[]⟩

/-- How far a client is served changes. -/
def Daemon.setClient (daemon : Daemon C) (client : ℕ) (service : Service) : Daemon C :=
  {daemon with clients := daemon.clients.set client service}

/-- The lock was kept for a client, and is no longer. -/
def Daemon.unlock (daemon : Daemon C) (client : ℕ) : Daemon C :=
  {daemon with lock := daemon.lock.release (.client client)}

/-- Something happens to the session or a call on its handle. -/
def Daemon.atDesk (daemon : Daemon C) (event : DeskEvent LoopEvent Command) :
    Option (Daemon C×Seen (List Output) Reply) :=
  (daemon.desk.step (servingActor C) commandCapacity event).map fun (desk,seen) =>
    ({daemon with desk},seen)

/-- Whoever has the lock for writing puts the handle there and lets the lock go. -/
def Daemon.store (daemon : Daemon C) : Party→Option (Daemon C)
  | .connectTask => some {daemon with
      handleStored := true, connectTask := .connected
      lock := daemon.lock.release .connectTask}
  | .mainLoop => some {daemon with
      handleStored := true, sessionSpawned := true, mainLoop := .selecting
      lock := daemon.lock.release .mainLoop}
  | .client _ => none

/-- The handle is looked at for a client that has sent a line. -/
def Daemon.look (daemon : Daemon C) (client : ℕ) (line : Line) :
    Option (Daemon C×List ServingDeskEntry) :=
  if daemon.handleStored then
    match line with
    | .error error =>
      some ((daemon.setClient client (.writing (invalidRequest error) false)).unlock client,[])
    | .ok request => do
      let number := daemon.desk.calls.length
      let event : DeskEvent LoopEvent Command := .call number (request.call.command number)
      let (after,seen) ← daemon.atDesk event
      some (after.setClient client (.calling request number),[(event,seen)])
  else
    let service : Service := .writing (unconnected line) (isShutdown line)
    some ((daemon.setClient client service).unlock client,[])

/-- The call for a client returns. -/
def Daemon.called (daemon : Daemon C) (client : ℕ) (request : Request) (number : ℕ) :
    Option (Daemon C×List ServingDeskEntry) := do
  let (after,seen) ← daemon.atDesk (.result number)
  match seen with
  | .returns result =>
    let answer ← request.call.returned result
    let service : Service := match ← request.respond answer with
      | .ok response => .writing response (request=.shutdown)
      | _ => .ended
    some ((after.setClient client service).unlock client,[(.result number,seen)])
  | _ => none

/-- A step of the daemon, if it is possible, and what it was to the session and the calls. -/
def Daemon.step (daemon : Daemon C) (event : DaemonEvent) :
    Option (Daemon C×List ServingDeskEntry) :=
  if daemon.mainLoop=.returned then none else
  match event with
  | .connected success =>
    if daemon.connectTask=.connecting then
      some (if success then {daemon with
          connectTask := .storing, lock := daemon.lock.ask .connectTask .write}
        else {daemon with connectTask := .failed},[])
    else none
  | .granted => daemon.lock.grant.map fun lock => ({daemon with lock},[])
  | .store party =>
    if (party,.write)∈daemon.lock.holders then (daemon.store party).map (·,[]) else none
  | .joined =>
    if daemon.mainLoop=.selecting ∧ daemon.sessionSpawned=false then
      match daemon.connectTask with
      | .connected => some ({daemon with
          mainLoop := .storing, lock := daemon.lock.ask .mainLoop .write},[])
      | .failed => some ({daemon with mainLoop := .returned},[])
      | _ => none
    else none
  | .sessionEnded =>
    if daemon.mainLoop=.selecting ∧ daemon.sessionSpawned=true ∧
        phaseEnded daemon.desk.actor.phase=true then
      some ({daemon with mainLoop := .returned},[])
    else none
  | .accepted =>
    if daemon.mainLoop=.selecting then
      some ({daemon with clients := daemon.clients++[.reading]},[])
    else none
  | .lineRead client line =>
    match daemon.clients[client]? with
    | some .reading => some ({daemon.setClient client (.asked line) with
        lock := daemon.lock.ask (.client client) .read},[])
    | _ => none
  | .hungUp client =>
    match daemon.clients[client]? with
    | some .reading => some (daemon.setClient client .ended,[])
    | _ => none
  | .look client =>
    match daemon.clients[client]? with
    | some (.asked line) =>
      if (.client client,.read)∈daemon.lock.holders then daemon.look client line else none
    | _ => none
  | .handOver call command =>
    (daemon.atDesk (.handOver call command)).map fun (after,seen) =>
      (after,[(.handOver call command,seen)])
  | .called client =>
    match daemon.clients[client]? with
    | some (.calling request number) => daemon.called client request number
    | _ => none
  | .wrote client success =>
    match daemon.clients[client]? with
    | some (.writing _ last) =>
      some (daemon.setClient client (if success && !last then .reading else .ended),[])
    | _ => none
  | .turnAway =>
    if daemon.sessionSpawned then
      (daemon.atDesk .turnAway).map fun (after,seen) => (after,[(.turnAway,seen)])
    else none
  | .turn event =>
    if daemon.sessionSpawned then
      (daemon.atDesk (.turn event)).map fun (after,seen) => (after,[(.turn event,seen)])
    else none

/-- The runs of the daemon from a state on. -/
abbrev DaemonRunFrom (before : Daemon C) : List DaemonEntry→Daemon C→Prop :=
  Run (fun _ before entry after => before.step entry.1=some (after,entry.2)) before

/-- The runs of the daemon. -/
abbrev DaemonRun (session : ServingLoop.ServingSession C) : List DaemonEntry→Daemon C→Prop :=
  DaemonRunFrom (Daemon.start session)

/-- What happened to the session and the calls on its handle. -/
def deskLog (log : List DaemonEntry) : List ServingDeskEntry := log.flatMap Prod.snd

/-- Everything that a step can do. -/
inductive DaemonMove (before : Daemon C) :
    DaemonEvent→List ServingDeskEntry→Daemon C→Prop where
  /-- The hub is connected. -/
  | connected (connecting : before.connectTask=.connecting) :
      DaemonMove before (.connected true) [] {before with
        connectTask := .storing, lock := before.lock.ask .connectTask .write}
  /-- The hub could not be connected. -/
  | notConnected (connecting : before.connectTask=.connecting) :
      DaemonMove before (.connected false) [] {before with connectTask := .failed}
  /-- Somebody gets the lock. -/
  | granted {lock : Lock Party} (grant : before.lock.grant=some lock) :
      DaemonMove before .granted [] {before with lock}
  /-- The task that connects puts the handle there. -/
  | stored (holds : (.connectTask,.write)∈before.lock.holders) :
      DaemonMove before (.store .connectTask) [] {before with
        handleStored := true, connectTask := .connected
        lock := before.lock.release .connectTask}
  /-- The main loop puts the handle there and starts the session. -/
  | started (holds : (.mainLoop,.write)∈before.lock.holders) :
      DaemonMove before (.store .mainLoop) [] {before with
        handleStored := true, sessionSpawned := true, mainLoop := .selecting
        lock := before.lock.release .mainLoop}
  /-- The main loop learns that the hub is connected. -/
  | joined (selecting : before.mainLoop=.selecting) (unspawned : before.sessionSpawned=false)
      (connected : before.connectTask=.connected) : DaemonMove before .joined [] {before with
        mainLoop := .storing, lock := before.lock.ask .mainLoop .write}
  /-- The main loop learns that the hub could not be connected. -/
  | joinedFailed (selecting : before.mainLoop=.selecting)
      (unspawned : before.sessionSpawned=false) (failed : before.connectTask=.failed) :
      DaemonMove before .joined [] {before with mainLoop := .returned}
  /-- The main loop learns that the session has ended. -/
  | sessionEnded (selecting : before.mainLoop=.selecting) (spawned : before.sessionSpawned=true)
      (ended : phaseEnded before.desk.actor.phase=true) :
      DaemonMove before .sessionEnded [] {before with mainLoop := .returned}
  /-- A client comes. -/
  | accepted (selecting : before.mainLoop=.selecting) :
      DaemonMove before .accepted [] {before with clients := before.clients++[.reading]}
  /-- A line of a client was read. -/
  | lineRead {client : ℕ} {line : Line} (reading : before.clients[client]?=some .reading) :
      DaemonMove before (.lineRead client line) [] {before.setClient client (.asked line) with
        lock := before.lock.ask (.client client) .read}
  /-- A client has gone. -/
  | hungUp {client : ℕ} (reading : before.clients[client]?=some .reading) :
      DaemonMove before (.hungUp client) [] (before.setClient client .ended)
  /-- A client is told that there is no handle. -/
  | unconnected {client : ℕ} {line : Line} (asked : before.clients[client]?=some (.asked line))
      (holds : (.client client,.read)∈before.lock.holders) (none : before.handleStored=false) :
      DaemonMove before (.look client) [] ((before.setClient client
        (.writing (unconnected line) (isShutdown line))).unlock client)
  /-- A client is told that its line is no request. -/
  | invalid {client : ℕ} {error : String}
      (asked : before.clients[client]?=some (.asked (.error error)))
      (holds : (.client client,.read)∈before.lock.holders) (stored : before.handleStored=true) :
      DaemonMove before (.look client) [] ((before.setClient client
        (.writing (invalidRequest error) false)).unlock client)
  /-- A call begins for a client. -/
  | calls {client : ℕ} {request : Request} {desk : ServingDesk C} {seen : Seen (List Output) Reply}
      {event : DeskEvent LoopEvent Command}
      (asked : before.clients[client]?=some (.asked (.ok request)))
      (holds : (.client client,.read)∈before.lock.holders) (stored : before.handleStored=true)
      (begins : event=.call before.desk.calls.length
        (request.call.command before.desk.calls.length))
      (step : before.desk.step (servingActor C) commandCapacity event=some (desk,seen)) :
      DaemonMove before (.look client) [(event,seen)] {before with
        desk, clients := before.clients.set client (.calling request before.desk.calls.length)}
  /-- The command of a call goes into the channel. -/
  | handOver {call : ℕ} {command : Command} {desk : ServingDesk C}
      {seen : Seen (List Output) Reply}
      (step : before.desk.step (servingActor C) commandCapacity (.handOver call command)=
        some (desk,seen)) :
      DaemonMove before (.handOver call command) [(.handOver call command,seen)] {before with desk}
  /-- The call for a client returns. -/
  | called {client number : ℕ} {request : Request} {desk : ServingDesk C} {result : Result Reply}
      {service : Service} {answer : Except CallError HandleAnswer}
      (calling : before.clients[client]?=some (.calling request number))
      (step : before.desk.step (servingActor C) commandCapacity (.result number)=
        some (desk,.returns result))
      (returned : request.call.returned result=some answer)
      (told : (∃ response,request.respond answer=some (.ok response) ∧
        service=.writing response (request=.shutdown)) ∨ service=.ended) :
      DaemonMove before (.called client) [(.result number,.returns result)] {before with
        desk, clients := before.clients.set client service
        lock := before.lock.release (.client client)}
  /-- A response was written, or could not be. -/
  | wrote {client : ℕ} {response : Response} {last success : Bool}
      (writing : before.clients[client]?=some (.writing response last)) :
      DaemonMove before (.wrote client success) []
        (before.setClient client (if success && !last then .reading else .ended))
  /-- The session turns to something else. -/
  | turnAway {desk : ServingDesk C} {seen : Seen (List Output) Reply}
      (spawned : before.sessionSpawned=true)
      (step : before.desk.step (servingActor C) commandCapacity .turnAway=some (desk,seen)) :
      DaemonMove before .turnAway [(.turnAway,seen)] {before with desk}
  /-- The session has done something. -/
  | turn {event : LoopEvent} {desk : ServingDesk C} {seen : Seen (List Output) Reply}
      (spawned : before.sessionSpawned=true)
      (step : before.desk.step (servingActor C) commandCapacity (.turn event)=some (desk,seen)) :
      DaemonMove before (.turn event) [(.turn event,seen)] {before with desk}

variable {before after : Daemon C} {event : DaemonEvent} {entries : List ServingDeskEntry}

/-- What happens to the session or a call changes nothing else. -/
theorem atDesk_eq {own : DeskEvent LoopEvent Command} {seen : Seen (List Output) Reply}
    (h : before.atDesk own=some (after,seen)) :
    ∃ desk,before.desk.step (servingActor C) commandCapacity own=some (desk,seen) ∧
      after={before with desk} := by
  obtain ⟨⟨desk,seen'⟩,hstep,heq⟩ := Option.map_eq_some_iff.mp h
  obtain ⟨rfl,rfl⟩ := Prod.mk.inj heq
  exact ⟨desk,hstep,rfl⟩

/-- What a look at the handle does is one of these. -/
theorem look_move {client : ℕ} {line : Line} (asked : before.clients[client]?=some (.asked line))
    (holds : (.client client,.read)∈before.lock.holders)
    (h : before.look client line=some (after,entries)) :
    DaemonMove before (.look client) entries after := by
  unfold Daemon.look at h
  split at h
  next stored =>
    cases line with
    | error error =>
      obtain ⟨rfl,rfl⟩ := Prod.mk.inj (Option.some.inj h)
      exact .invalid asked holds stored
    | ok request =>
      obtain ⟨⟨middle,seen⟩,hdesk,h⟩ := Option.bind_eq_some_iff.mp h
      obtain ⟨desk,hstep,rfl⟩ := atDesk_eq hdesk
      obtain ⟨rfl,rfl⟩ := Prod.mk.inj (Option.some.inj h)
      exact .calls asked holds stored rfl hstep
  next stored =>
    obtain ⟨rfl,rfl⟩ := Prod.mk.inj (Option.some.inj h)
    exact .unconnected asked holds (Bool.eq_false_iff.mpr stored)

/-- What the return of a call does is one of these. -/
theorem called_move {client number : ℕ} {request : Request}
    (calling : before.clients[client]?=some (.calling request number))
    (h : before.called client request number=some (after,entries)) :
    DaemonMove before (.called client) entries after := by
  obtain ⟨⟨middle,seen⟩,hdesk,h⟩ := Option.bind_eq_some_iff.mp h
  obtain ⟨desk,hstep,rfl⟩ := atDesk_eq hdesk
  cases seen with
  | returns result =>
    obtain ⟨answer,hreturned,h⟩ := Option.bind_eq_some_iff.mp h
    obtain ⟨outcome,hrespond,h⟩ := Option.bind_eq_some_iff.mp h
    obtain ⟨rfl,rfl⟩ := Prod.mk.inj (Option.some.inj h)
    refine .called calling hstep hreturned ?_
    cases outcome with
    | ok response => exact .inl ⟨response,hrespond,rfl⟩
    | err error => exact .inr rfl
    | panic message => exact .inr rfl
  | nothing => cases h
  | sends outputs => cases h

/-- Every step is one of these, and is none of a daemon that has returned. -/
theorem step_move (h : before.step event=some (after,entries)) :
    before.mainLoop≠.returned ∧ DaemonMove before event entries after := by
  unfold Daemon.step at h
  split at h
  next => cases h
  next hrunning =>
  refine ⟨hrunning,?_⟩
  cases event with
  | connected success =>
    dsimp only at h
    split at h
    next hconnecting =>
      obtain ⟨rfl,rfl⟩ := Prod.mk.inj (Option.some.inj h)
      cases success with
      | true => exact .connected hconnecting
      | false => exact .notConnected hconnecting
    next => cases h
  | granted =>
    obtain ⟨lock,hgrant,heq⟩ := Option.map_eq_some_iff.mp h
    obtain ⟨rfl,rfl⟩ := Prod.mk.inj heq
    exact .granted hgrant
  | store party =>
    dsimp only at h
    split at h
    next hholds =>
      obtain ⟨stored,hstored,heq⟩ := Option.map_eq_some_iff.mp h
      obtain ⟨rfl,rfl⟩ := Prod.mk.inj heq
      cases party with
      | connectTask =>
        obtain rfl := Option.some.inj hstored
        exact .stored hholds
      | mainLoop =>
        obtain rfl := Option.some.inj hstored
        exact .started hholds
      | client number => cases hstored
    next => cases h
  | joined =>
    dsimp only at h
    split at h
    next hready =>
      split at h
      next hconnected =>
        obtain ⟨rfl,rfl⟩ := Prod.mk.inj (Option.some.inj h)
        exact .joined hready.1 hready.2 hconnected
      next hfailed =>
        obtain ⟨rfl,rfl⟩ := Prod.mk.inj (Option.some.inj h)
        exact .joinedFailed hready.1 hready.2 hfailed
      next => cases h
    next => cases h
  | sessionEnded =>
    dsimp only at h
    split at h
    next hready =>
      obtain ⟨rfl,rfl⟩ := Prod.mk.inj (Option.some.inj h)
      exact .sessionEnded hready.1 hready.2.1 hready.2.2
    next => cases h
  | accepted =>
    dsimp only at h
    split at h
    next hselecting =>
      obtain ⟨rfl,rfl⟩ := Prod.mk.inj (Option.some.inj h)
      exact .accepted hselecting
    next => cases h
  | lineRead client line =>
    dsimp only at h
    split at h
    next hreading =>
      obtain ⟨rfl,rfl⟩ := Prod.mk.inj (Option.some.inj h)
      exact .lineRead hreading
    next => cases h
  | hungUp client =>
    dsimp only at h
    split at h
    next hreading =>
      obtain ⟨rfl,rfl⟩ := Prod.mk.inj (Option.some.inj h)
      exact .hungUp hreading
    next => cases h
  | look client =>
    dsimp only at h
    split at h
    next line hasked =>
      split at h
      next hholds => exact look_move hasked hholds h
      next => cases h
    next => cases h
  | handOver call command =>
    obtain ⟨⟨middle,seen⟩,hdesk,heq⟩ := Option.map_eq_some_iff.mp h
    obtain ⟨desk,hstep,rfl⟩ := atDesk_eq hdesk
    obtain ⟨rfl,rfl⟩ := Prod.mk.inj heq
    exact .handOver hstep
  | called client =>
    dsimp only at h
    split at h
    next request number hcalling => exact called_move hcalling h
    next => cases h
  | wrote client success =>
    dsimp only at h
    split at h
    next response last hwriting =>
      obtain ⟨rfl,rfl⟩ := Prod.mk.inj (Option.some.inj h)
      exact .wrote hwriting
    next => cases h
  | turnAway =>
    dsimp only at h
    split at h
    next hspawned =>
      obtain ⟨⟨middle,seen⟩,hdesk,heq⟩ := Option.map_eq_some_iff.mp h
      obtain ⟨desk,hstep,rfl⟩ := atDesk_eq hdesk
      obtain ⟨rfl,rfl⟩ := Prod.mk.inj heq
      exact .turnAway hspawned hstep
    next => cases h
  | turn own =>
    dsimp only at h
    split at h
    next hspawned =>
      obtain ⟨⟨middle,seen⟩,hdesk,heq⟩ := Option.map_eq_some_iff.mp h
      obtain ⟨desk,hstep,rfl⟩ := atDesk_eq hdesk
      obtain ⟨rfl,rfl⟩ := Prod.mk.inj heq
      exact .turn hspawned hstep
    next => cases h

/-- A step does nothing to the session and the calls on its handle, or one thing. -/
theorem move_desk (move : DaemonMove before event entries after) :
    (entries=[] ∧ after.desk=before.desk) ∨ ∃ own seen,entries=[(own,seen)] ∧
      before.desk.step (servingActor C) commandCapacity own=some (after.desk,seen) := by
  cases move with
  | calls _ _ _ _ hstep => exact .inr ⟨_,_,rfl,hstep⟩
  | handOver hstep => exact .inr ⟨_,_,rfl,hstep⟩
  | called _ hstep => exact .inr ⟨_,_,rfl,hstep⟩
  | turnAway _ hstep => exact .inr ⟨_,_,rfl,hstep⟩
  | turn _ hstep => exact .inr ⟨_,_,rfl,hstep⟩
  | _ => exact .inl ⟨rfl,rfl⟩

/-- What happens to the session and the calls on its handle is a run of theirs. -/
theorem run_desk {session : ServingLoop.ServingSession C} {log : List DaemonEntry}
    {daemon : Daemon C} (run : DaemonRun session log daemon) :
    ServingDeskRun session (deskLog log) daemon.desk := by
  induction run with
  | start => exact .start
  | @next log before after entry earlier now ih =>
    rw [deskLog,List.flatMap_append,List.flatMap_singleton]
    rcases move_desk (step_move now).2 with ⟨hnone,hdesk⟩|⟨own,seen,hone,hstep⟩
    · rw [hnone,hdesk,List.append_nil]
      exact ih
    · rw [hone]
      exact ih.next hstep

end Steps

end WispersConnect.DaemonRequests
