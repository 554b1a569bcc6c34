import WispersConnect.MailboxRuns
import WispersConnect.ServingAnswers

/-!
# Calls to a serving session

Clones of a handle send commands to the loop over a bounded channel, with a channel for each
reply. The loop takes commands in whatever phase it is. Over every interleaving of the
callers and the loop, through any outages, a call answers as if it had happened at one moment
between its beginning and its return, and none is left without an answer.
-/

namespace WispersConnect.ServingCalls

open Messages OutcomeMonad Cryptography PairingCodes NodeLifecycle Endorsing EndorserRuns
open CodeLifetimes PeerEncoding SymbolicCrypto ServingLoop ServingRuns ServingAnswers Runs
open Mailboxes MailboxRuns PeerSigning AbandonedPairings PanicFreedom
open PeerConnections hiding ServingSession

variable {C : PeerCrypto}

/-- How many commands the channel holds. -/
def commandCapacity : ℕ := 32

/-- What a turn takes from the channel. -/
def takesCommand : LoopEvent→Option (Option Command)
  | .command command _ => some (some command)
  | .commandsClosed => some none
  | _ => none

/-- The reply channel that comes with a command. -/
def replyChannel : Command→Option ℕ
  | .status reply => some reply
  | .generateActivationCode _ reply => some reply
  | .shutdown => none

/-- The replies among what a turn does. -/
def replyOutputs (outputs : List Output) : List (ℕ×Reply) :=
  outputs.filterMap fun output => match output with
    | .reply channel reply => some (channel,reply)
    | _ => none

/-- `run` has returned. -/
def phaseEnded : Phase→Bool
  | .ended _ => true
  | _ => false

/-- A loop that goes on has not returned. -/
theorem phaseEnded_eq_false {phase : Phase} (h : phase.Running) : phaseEnded phase=false := by
  cases phase with
  | ended => exact absurd h id
  | _ => rfl

/-- What goes to the hub is no reply to a handle. -/
theorem replyOutputs_respond (sent : Bool) (id : Int64)
    (result : Except String ServingResponseKind) : replyOutputs (respond sent id result)=[] := by
  unfold respond
  split
  · split <;> rfl
  · rfl

/-- A handled request is not replied to over a handle's channel. -/
theorem replyOutputs_handled {before after : ServingLoop.ServingSession C}
    {env : RequestEnvironment} {request : ServingRequest} {outputs : List Output}
    (h : Handled before env request after outputs) : replyOutputs outputs=[] := by
  cases h with
  | welcome | unknown => rfl
  | @started _ _ _ _ answer =>
    have hnone : replyOutputs (answer.started.toList.map .connection)=[] := by
      cases answer.started <;> rfl
    exact (List.filterMap_append).trans (by
      rw [show List.filterMap _ _=[] from replyOutputs_respond _ _ _]
      exact hnone)
  | _ => exact replyOutputs_respond _ _ _

/-- What a turn replies goes to the reply channel of the command that it takes, if that has
one. -/
theorem replyOutputs_turn {before after : ServingState C} {event : LoopEvent}
    {outputs : List Output} (h : Turn before event after outputs) :
    (replyOutputs outputs).map Prod.fst=((takesCommand event).join.bind replyChannel).toList := by
  cases h with
  | checkIn => exact congrArg (List.map Prod.fst) (replyOutputs_respond _ _ _)
  | handled _ call => exact congrArg (List.map Prod.fst) (replyOutputs_handled call)
  | _ => rfl

/-- A command can be taken as long as the loop has not returned. -/
theorem takeCommand_isSome {state : ServingState C} (hrunning : phaseEnded state.phase=false)
    (command : Option Command) (env : CommandEnvironment) :
    (state.takeCommand command env).isSome=true := by
  unfold ServingState.takeCommand
  cases hphase : state.phase with
  | ended =>
    rw [hphase] at hrunning
    cases hrunning
  | _ => rfl

/-- The loop can come to the end of what it is at: of a request of the hub, of an attempt to
connect or of a wait. -/
theorem turn_returns {state : ServingState C} (hrunning : phaseEnded state.phase=false) :
    ∃ event,takesCommand event=none ∧ (state.turn event).isSome=true := by
  obtain ⟨session,phase⟩ := state
  cases phase with
  | serving => exact ⟨.streamEnded,rfl,rfl⟩
  | connecting backoff => exact ⟨.attempted (.ok ()) 0,rfl,rfl⟩
  | waiting backoff => exact ⟨.slept,rfl,rfl⟩
  | ended ending => cases hrunning

/-- While there is a stream, the loop comes to the end of every request of the hub. -/
theorem turn_hubRequest {state : ServingState C} (hserving : state.phase=.serving)
    (request : ServingRequest) (env : RequestEnvironment) :
    (state.turn (.hubRequest request env)).isSome=true := by
  unfold ServingState.turn
  dsimp only
  rw [hserving]
  dsimp only [ServingState.serve]
  split
  · rfl
  · rfl

/-- A loop that has returned takes no turn. -/
theorem turn_ended {state : ServingState C} (hended : phaseEnded state.phase=true)
    (event : LoopEvent) : state.turn event=none := by
  cases hphase : state.phase with
  | ended ending => cases event <;> simp [ServingState.turn,ServingState.takeCommand,hphase]
  | _ =>
    rw [hphase] at hended
    cases hended

/-- The loop, as the party that its handles send commands to. -/
def servingActor (C : PeerCrypto) :
    Actor (ServingState C) LoopEvent (List Output) Command Reply where
  step := ServingState.turn
  takes := takesCommand
  replies := replyOutputs
  address := replyChannel
  stopped state := phaseEnded state.phase
  stays hended event := turn_ended hended event
  answers h := replyOutputs_turn (turn_cases h)
  stops h htakes := by
    cases turn_cases h with
    | commandsClosed => rfl
    | _ => cases htakes
  ready hrunning command :=
    ⟨.command command ⟨0,0,0,⟨[]⟩⟩,rfl,takeCommand_isSome hrunning (some command) ⟨0,0,0,⟨[]⟩⟩⟩
  returns hrunning := turn_returns hrunning

/-- The loop with its handles and the calls that were made on them. -/
abbrev ServingDesk (C : PeerCrypto) := Desk (ServingState C) Command Reply

/-- What happens there. -/
abbrev ServingDeskEntry := DeskEntry LoopEvent (List Output) Command Reply

/-- The runs of the loop and its callers. `ServingSession::new` has made a handle, and `run` has
begun. -/
abbrev ServingDeskRun (session : ServingLoop.ServingSession C) :
    List ServingDeskEntry→ServingDesk C→Prop :=
  DeskRun (servingActor C) commandCapacity (Desk.start (ServingState.start session))

/-- What a handle can be asked. -/
inductive HandleCall where
  /-- `status`. -/
  | status
  /-- `generate_activation_code_with_ttl`. -/
  | generateActivationCodeWithTtl (ttlProfile : TtlProfile)
  /-- `shutdown`. -/
  | shutdown
  deriving DecidableEq

/-- The command that a call sends, with its reply channel. -/
def HandleCall.command (reply : ℕ) : HandleCall → Command
  | .status => .status reply
  | .generateActivationCodeWithTtl ttlProfile => .generateActivationCode ttlProfile reply
  | .shutdown => .shutdown

/-- `ServingError`, as a call returns it. -/
inductive CallError where
  /-- `SessionShutdown`. -/
  | sessionShutdown
  /-- An error of the session. -/
  | serving (error : ServingError)
  deriving DecidableEq

/-- What a call returns if it succeeds. -/
inductive HandleAnswer where
  /-- The status. -/
  | status (status : ServingStatus)
  /-- A code. -/
  | activationCode (code : PairingCode)
  /-- Nothing but success. -/
  | done
  deriving DecidableEq

/-- What a call makes of what it waited for. -/
def HandleCall.returned : HandleCall→Result Reply→Option (Except CallError HandleAnswer)
  | _,.closed => some (.error .sessionShutdown)
  | .status,.answer (.status given) => some (.ok (.status given))
  | .generateActivationCodeWithTtl _,.answer (.activationCode result) =>
    some (match result with
      | .ok code => .ok (.activationCode code)
      | .error error => .error (.serving error))
  | .shutdown,.delivered => some (.ok .done)
  | _,_ => none

section Moments

variable {session : ServingLoop.ServingSession C} {log : List ServingDeskEntry}
  {desk : ServingDesk C}

/-- What a call waited for was so at one moment between its beginning and its return, where the
loop is in a phase at the end. -/
inductive Explained (log : List ServingDeskEntry) (phase : Phase) (number : ℕ) :
    HandleCall→Result Reply→Prop where
  /-- The loop took the command and replied with the status. -/
  | status {env : CommandEnvironment} {status : ServingStatus}
      {earlier later : List ServingDeskEntry}
      (moment : log=earlier++(.turn (.command (.status number) env),
        .sends [.reply number (.status status)])::later)
      (began : (.call number (.status number),.nothing)∈earlier)
      (returned : (.result number,.returns (.answer (.status status)))∈later) :
      Explained log phase number .status (.answer (.status status))
  /-- The loop took the command and gave a code or refused to. -/
  | activationCode {ttlProfile : TtlProfile} {env : CommandEnvironment}
      {result : Except ServingError PairingCode} {earlier later : List ServingDeskEntry}
      (moment : log=earlier++(.turn (.command (.generateActivationCode ttlProfile number) env),
        .sends [.reply number (.activationCode result)])::later)
      (began : (.call number (.generateActivationCode ttlProfile number),.nothing)∈earlier)
      (returned : (.result number,.returns (.answer (.activationCode result)))∈later) :
      Explained log phase number (.generateActivationCodeWithTtl ttlProfile)
        (.answer (.activationCode result))
  /-- The command went into the channel. -/
  | shutdown {earlier later : List ServingDeskEntry}
      (moment : log=earlier++(.handOver number .shutdown,.nothing)::later)
      (began : (.call number .shutdown,.nothing)∈earlier)
      (returned : (.result number,.returns .delivered)∈later) :
      Explained log phase number .shutdown .delivered
  /-- The loop has returned, and not for want of handles. -/
  | closed {call : HandleCall} {last : LoopEntry} (ended : phaseEnded phase=true)
      (lastTurn : (turns log).getLast?=some last) (asked : last.1≠.commandsClosed) :
      Explained log phase number call .closed

/-- What the loop does among its callers is a run of its own. -/
theorem loopRun_turns (run : ServingDeskRun session log desk) :
    LoopRun session (turns log) desk.actor := DeskRun.alone run

/-- The loop has not returned at the start. -/
theorem start_running (session : ServingLoop.ServingSession C) :
    (servingActor C).stopped (.start session)=false := rfl

/-- What the loop does is one of its turns. -/
theorem turn_of_mem {turned : List LoopEntry} {state : ServingState C}
    (run : LoopRun session turned state) {event : LoopEvent} {outputs : List Output}
    (h : (event,outputs)∈turned) : ∃ before after : ServingState C,
      Turn before event after outputs := by
  obtain ⟨i,hi⟩ := List.mem_iff_getElem?.mp h
  obtain ⟨before,after,_,hturn,_⟩ := run.at hi
  exact ⟨before,after,turn_cases hturn⟩

/-- A call whose command asks for a reply is explained by the reply. -/
theorem explained_answer (run : ServingDeskRun session log desk) {number : ℕ} {call : HandleCall}
    {reply : Reply} (hcall : (.call number (call.command number),.nothing)∈log)
    (hresult : (.result number,.returns (.answer reply))∈log) :
    Explained log desk.actor.phase number call (.answer reply) := by
  obtain ⟨later,⟨command,event,outputs,earlier,⟨htakes,haddress,hreplies⟩,hlog,hbegan⟩,hlater⟩ :=
    DeskRun.between (start_running session) run number reply hresult
  have hcommand : command=call.command number := by
    refine DeskRun.call_unique run ?_ hcall
    rw [hlog]
    exact List.mem_append_left _ hbegan
  have hmem : (event,outputs)∈turns log := by
    rw [hlog,turns_around]
    exact List.mem_append_right _ List.mem_cons_self
  obtain ⟨before,after,hturn⟩ := turn_of_mem (loopRun_turns run) hmem
  cases hturn with
  | status =>
    obtain rfl := Option.some.inj (Option.some.inj htakes)
    obtain rfl := Option.some.inj haddress
    obtain rfl := (Prod.mk.inj (List.singleton_inj.mp hreplies)).2
    cases call with
    | status => exact .status hlog hbegan hlater
    | _ => cases hcommand
  | activationCode =>
    obtain rfl := Option.some.inj (Option.some.inj htakes)
    obtain rfl := Option.some.inj haddress
    obtain rfl := (Prod.mk.inj (List.singleton_inj.mp hreplies)).2
    cases call with
    | generateActivationCodeWithTtl =>
      obtain ⟨rfl,_⟩ := Command.generateActivationCode.inj hcommand
      exact .activationCode hlog hbegan hlater
    | _ => cases hcommand
  | shutdown =>
    obtain rfl := Option.some.inj (Option.some.inj htakes)
    cases haddress
  | _ => cases htakes

/-- A call whose command asks for no reply is explained by its way into the channel. -/
theorem explained_delivered (run : ServingDeskRun session log desk) {number : ℕ}
    {call : HandleCall} (hcall : (.call number (call.command number),.nothing)∈log)
    (hresult : (.result number,.returns .delivered)∈log) :
    Explained log desk.actor.phase number call .delivered := by
  obtain ⟨later,⟨command,earlier,haddress,hlog,hbegan⟩,hlater⟩ :=
    DeskRun.delivered (start_running session) run number hresult
  have hcommand : command=call.command number := by
    refine DeskRun.call_unique run ?_ hcall
    rw [hlog]
    exact List.mem_append_left _ hbegan
  subst hcommand
  cases call with
  | shutdown => exact .shutdown hlog hbegan hlater
  | _ => cases haddress

end Moments

section Outage

/-- A call for the status and one for a code begin, the stream is lost, and the code is given
before the status. Then a call shuts the session down, before the command of the last call is
taken. -/
def callsLog : List ServingDeskEntry :=
  [(.call 0 (.status 0),.nothing),
    (.clone,.nothing),
    (.call 1 (.generateActivationCode .interactive 1),.nothing),
    (.handOver 1 (.generateActivationCode .interactive 1),.nothing),
    (.handOver 0 (.status 0),.nothing),
    (.turnAway,.nothing),
    (.turn .streamEnded,.sends []),
    (.turn (.command (.generateActivationCode .interactive 1) ⟨0,0,0,outageSecret⟩),
      .sends [.reply 1 (.activationCode (.ok ⟨2,outageSecret⟩))]),
    (.turn (.command (.status 0) ⟨0,0,0,outageSecret⟩),
      .sends [.reply 0 (.status ⟨false,"group",2,some ⟨1,∅⟩⟩)]),
    (.result 0,.returns (.answer (.status ⟨false,"group",2,some ⟨1,∅⟩⟩))),
    (.call 2 .shutdown,.nothing),
    (.call 3 (.status 3),.nothing),
    (.handOver 2 .shutdown,.nothing),
    (.result 2,.returns .delivered),
    (.turn (.command .shutdown ⟨0,0,0,outageSecret⟩),.sends []),
    (.result 3,.returns .closed),
    (.result 1,.returns (.answer (.activationCode (.ok ⟨2,outageSecret⟩))))]

/-- The loop and its callers go through this. -/
theorem callsLog_run : ∃ desk,ServingDeskRun secondServing callsLog desk := by
  obtain ⟨desk,hreplayed⟩ := Option.isSome_iff_exists.mp (show
    (replayed (Desk.step (servingActor sealedCrypto) commandCapacity)
      (Desk.start (.start secondServing)) callsLog).isSome=true by decide +kernel)
  exact ⟨desk,run_of_replayed hreplayed⟩

end Outage

section Results

/-- Over every interleaving of the callers and the loop, through any outages: what the loop does
is a run of its own, it takes the commands in the order in which they went into the channel, and
a call returns at most once, with what fits it and was so at one moment between its beginning
and its return. -/
theorem calls_linearizable (session : ServingLoop.ServingSession C) (log : List ServingDeskEntry)
    (desk : ServingDesk C) (run : ServingDeskRun session log desk) :
    LoopRun session (turns log) desk.actor ∧
      taken (servingActor C) log<+:handed log ∧ ((results log).map Prod.fst).Nodup ∧
      ∀ number (call : HandleCall) result,(.call number (call.command number),.nothing)∈log →
        (.result number,.returns result)∈log →
        Explained log desk.actor.phase number call result ∧ (call.returned result).isSome=true := by
  have hlinear := DeskRun.linearizable (start_running session) run
  refine ⟨loopRun_turns run,hlinear.inOrder,hlinear.once,
    fun number call result hcall hresult => ?_⟩
  have hexplained : Explained log desk.actor.phase number call result := by
    cases result with
    | answer reply => exact explained_answer run hcall hresult
    | delivered => exact explained_delivered run hcall hresult
    | closed =>
      obtain ⟨hended,last,hlast,hnot⟩ := hlinear.closed number hresult
      refine .closed hended hlast fun hclosed => hnot ?_
      rw [hclosed]
      rfl
  refine ⟨hexplained,?_⟩
  cases hexplained with
  | closed => cases call <;> rfl
  | _ => rfl

/-- After an outage and a shutdown, a call for the status is told that the loop has returned. -/
theorem calls_linearizable_outage : ∃ desk,ServingDeskRun secondServing callsLog desk ∧
    taken (servingActor sealedCrypto) callsLog<+:handed callsLog ∧
    ((results callsLog).map Prod.fst).Nodup ∧
    Explained callsLog desk.actor.phase 3 .status .closed := by
  obtain ⟨desk,hrun⟩ := callsLog_run
  obtain ⟨-,horder,honce,hcalls⟩ := calls_linearizable secondServing callsLog desk hrun
  exact ⟨desk,hrun,horder,honce,(hcalls 3 .status .closed
    (List.mem_of_getElem? (show callsLog[11]?=some _ from rfl))
    (List.mem_of_getElem? (show callsLog[15]?=some _ from rfl))).1⟩

/-- A call for the status returns what was true at a moment between its beginning and its return:
whether a stream to the hub was open, and what the codes and pairings until then come to. -/
theorem status_calls_truthful (session : ServingLoop.ServingSession C)
    (hnew : session.endorsing=.new) (log : List ServingDeskEntry) (desk : ServingDesk C)
    (run : ServingDeskRun session log desk) (number : ℕ) (status : ServingStatus)
    (h : (.result number,.returns (.answer (.status status)))∈log) :
    ∃ env earlier later calls endorsing,log=earlier++(.turn (.command (.status number) env),
        .sends [.reply number (.status status)])::later ∧
      (.call number (.status number),.nothing)∈earlier ∧
      (.result number,.returns (.answer (.status status)))∈later ∧
      status.connected=streamOpen (turns earlier) ∧ status.nodeNumber=session.nodeNumber ∧
      status.connectivityGroupId=session.connectivityGroupId ∧
      EndorserRun (endorserOf session) calls endorsing ∧
      List.Forall₂ Concerns ((turns earlier).filter fun entry => concernsEndorser entry.1) calls ∧
      Accounts calls env.now status := by
  obtain ⟨later,⟨command,event,outputs,earlier,⟨htakes,haddress,hreplies⟩,hlog,hbegan⟩,hlater⟩ :=
    DeskRun.between (start_running session) run number (.status status) h
  have hturns : turns log=turns earlier++(event,outputs)::turns later := by
    rw [hlog,turns_around]
  have hat : (turns log)[(turns earlier).length]?=some (event,outputs) := by
    rw [hturns,List.getElem?_append_right (Nat.le_refl _),Nat.sub_self]
    rfl
  have hloop := loopRun_turns run
  obtain ⟨before,after,_,hturn,_⟩ := hloop.at hat
  cases turn_cases hturn with
  | @status reply env =>
    obtain rfl := Option.some.inj (Option.some.inj htakes)
    obtain rfl := Option.some.inj haddress
    obtain rfl := Reply.status.inj (Prod.mk.inj (List.singleton_inj.mp hreplies)).2
    obtain ⟨given,calls,endorsing,hgiven,hconnected,hnode,hgroup,hendorses,hcalls,haccounts⟩ :=
      status_truthful session hnew (turns log) desk.actor hloop _ _ env _ hat
    obtain rfl := Reply.status.inj (Output.reply.inj (List.singleton_inj.mp hgiven)).2
    rw [hturns,List.take_left] at hconnected hcalls
    exact ⟨env,earlier,later,calls,endorsing,hlog,hbegan,hlater,hconnected,hnode,hgroup,hendorses,
      hcalls,haccounts⟩
  | activationCode =>
    have hno := (Prod.mk.inj (List.singleton_inj.mp hreplies)).2
    cases hno
  | shutdown =>
    obtain rfl := Option.some.inj (Option.some.inj htakes)
    cases haddress
  | _ => cases htakes

/-- The status that is given while the stream is lost says so. -/
theorem status_calls_truthful_outage : ∃ (earlier later : List ServingDeskEntry),
    callsLog=earlier++later ∧ false=streamOpen (turns earlier) := by
  obtain ⟨desk,hrun⟩ := callsLog_run
  obtain ⟨env,earlier,later,calls,_,hlog,-,-,hconnected,-⟩ := status_calls_truthful secondServing rfl
    callsLog desk hrun 0 ⟨false,"group",2,some ⟨1,∅⟩⟩
    (List.mem_of_getElem? (show callsLog[9]?=some _ from rfl))
  exact ⟨earlier,_,hlog,hconnected⟩

/-- A call is told that the session is shut down only after some call had asked for it, or after
the hub had rejected the credentials: not by an outage, nor because handles were dropped. -/
theorem session_shutdown_explained (hround : C.SpkiRoundTrip)
    (session : ServingLoop.ServingSession C) (log : List ServingDeskEntry) (desk : ServingDesk C)
    (run : ServingDeskRun session log desk) (number : ℕ)
    (h : (.result number,.returns .closed)∈log) :
    ((∃ asking,(.call asking .shutdown,.nothing)∈log) ∧ desk.actor.phase=.ended .shutdown) ∨
      ∃ error,error.isUnauthenticated=true ∧ desk.actor.phase=.ended (.fatal error) := by
  obtain ⟨hstopped,⟨event,outputs⟩,hlast,hnot⟩ :=
    DeskRun.closed (start_running session) run number h
  obtain ⟨front,hturns⟩ := List.getLast?_eq_some_iff.mp hlast
  have hloop := loopRun_turns run
  have hnoPanic := never_panicked hround hloop
  rw [hturns] at hloop
  obtain ⟨before,-,hturn⟩ := hloop.last
  have hended : phaseEnded desk.actor.phase=true := hstopped
  have hstate := turn_cases hturn
  generalize desk.actor=after at hstate hended hnoPanic
  cases hstate with
  | shutdown =>
    refine .inl ⟨?_,rfl⟩
    have htaken : Command.shutdown∈taken (servingActor C) log := by
      rw [taken,hturns,List.filterMap_append]
      exact List.mem_append_right _ List.mem_cons_self
    exact DeskRun.handed_called (start_running session) run ((DeskRun.inOrder run).1.subset htaken)
  | commandsClosed => exact absurd rfl hnot
  | panicked => exact absurd rfl (hnoPanic _)
  | rejected _ final => exact .inr ⟨_,final,rfl⟩
  | attemptRejected _ final => exact .inr ⟨_,final,rfl⟩
  | status running | activationCode running =>
    exact absurd ((phaseEnded_eq_false running).symm.trans hended) Bool.false_ne_true
  | checkIn serving =>
    rw [serving] at hended
    cases hended
  | _ => cases hended

/-- The last call of that log finds the session shut down by another. -/
theorem session_shutdown_explained_outage :
    (∃ asking,((.call asking .shutdown,.nothing) : ServingDeskEntry)∈callsLog) ∨
      ∃ error : HubError,error.isUnauthenticated=true := by
  obtain ⟨desk,hrun⟩ := callsLog_run
  obtain ⟨hasked,-⟩|⟨error,hfinal,-⟩ := session_shutdown_explained sealedCrypto_spkiRoundTrip
    secondServing callsLog desk hrun 3 (List.mem_of_getElem? (show callsLog[15]?=some _ from rfl))
  · exact .inl hasked
  · exact .inr ⟨error,hfinal⟩

/-- A call that is under way can return or put its command into the channel, or else it is
nearer by the commands that were taken, the loop has not returned, and there is something that
can be done: the loop ends what it is at, or takes a command in whatever phase it is, or the
channel is empty and another call has room. Whichever request of the hub the loop is at, it can
come back from it. No call waits for more commands than were ahead of it. -/
theorem calls_go_on (session : ServingLoop.ServingSession C) (log later : List ServingDeskEntry)
    (desk after : ServingDesk C) (run : ServingDeskRun session log desk)
    (run' : DeskRun (servingActor C) commandCapacity desk later after) (number : ℕ)
    (hpending : Pending desk number) (hown : ∀ entry∈later,OwnStep number entry.1=false) :
    (after.step (servingActor C) commandCapacity (.result number)).isSome=true ∨
      (∃ command,(after.step (servingActor C) commandCapacity
        (.handOver number command)).isSome=true) ∨
      Nears (servingActor C) commandCapacity desk later after number ∧
        (after.away=true → after.actor.phase=.serving → ∀ request env,
          (after.step (servingActor C) commandCapacity
            (.turn (.hubRequest request env))).isSome=true) := by
  obtain hreturns|hgoes|hnears :=
    DeskRun.nears (start_running session) (by decide) run run' hpending hown
  · exact .inl hreturns
  · exact .inr (.inl hgoes)
  · refine .inr (.inr ⟨hnears,fun haway hserving request env => ?_⟩)
    have hadmits : after.admits (servingActor C) (.hubRequest request env)=true := haway
    rw [Desk.step,Option.isSome_map,Desk.turn,if_pos hadmits,Option.isSome_map]
    exact turn_hubRequest hserving request env

/-- While the loop is at a request of the hub, a call for the status that waits is nearer, and the
loop can come back. -/
theorem calls_go_on_away : ∃ desk after,
    ServingDeskRun secondServing (callsLog.take 5) desk ∧
    DeskRun (servingActor sealedCrypto) commandCapacity desk [(.turnAway,.nothing)] after ∧
    after.away=true ∧ after.actor.phase=.serving ∧
    ((after.step (servingActor sealedCrypto) commandCapacity (.result 0)).isSome=true ∨
      (∃ command,(after.step (servingActor sealedCrypto) commandCapacity
        (.handOver 0 command)).isSome=true) ∨
      Nears (servingActor sealedCrypto) commandCapacity desk [(.turnAway,.nothing)] after 0 ∧
        (after.away=true → after.actor.phase=.serving → ∀ request env,
          (after.step (servingActor sealedCrypto) commandCapacity
            (.turn (.hubRequest request env))).isSome=true)) := by
  have hsent : (replayed (Desk.step (servingActor sealedCrypto) commandCapacity)
      (Desk.start (.start secondServing)) (callsLog.take 5)).map (fun desk =>
        (desk.calls[0]?,(replayed (Desk.step (servingActor sealedCrypto) commandCapacity) desk
          [(.turnAway,.nothing)]).map fun after => (after.away,after.actor.phase)))=
      some (some .sent,some (true,.serving)) := by decide +kernel
  obtain ⟨desk,hdesk,hboth⟩ := Option.map_eq_some_iff.mp hsent
  obtain ⟨hcall,hlater⟩ := Prod.mk.inj hboth
  obtain ⟨after,hafter,haway⟩ := Option.map_eq_some_iff.mp hlater
  obtain ⟨haway,hphase⟩ := Prod.mk.inj haway
  have hrun := run_of_replayed hdesk
  have hrun' := run_of_replayed hafter
  exact ⟨desk,after,hrun,hrun',haway,hphase,calls_go_on secondServing _ _ desk after hrun hrun' 0
    ⟨.sent,hcall,fun hno => by cases hno⟩ (by decide)⟩

end Results

end WispersConnect.ServingCalls
