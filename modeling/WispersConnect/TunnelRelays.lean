import WispersConnect.HttpResponses
import WispersConnect.PortForwarding
import WispersConnect.RelayChains

/-!
# Tunnels

A connection of a client is tunnelled through a stream between two nodes to a service. Each
way, two relay loops pass it on: from the client's connection onto the stream on the calling
node, from the stream to the service's connection on the answering node, and back. A handler
on each node joins its two loops. The HTTP proxy gives its handler a timer, which cuts off both
loops of the calling node and writes an error response after what the client has got so far.
-/

namespace WispersConnect.TunnelRelays

open Messages HttpResponses RelayChains Runs

/-- The buffer of every relay loop. -/
def relayBuffer : ℕ := 8192

/-- One way of a tunnel: the connection of the sender, the stream, and the connection of the
receiver, with a relay loop on each node. -/
def tunnelSetup (capacity : ℕ→ℕ) : Setup := ⟨2,relayBuffer,capacity⟩

/-- The ways of a tunnel. -/
inductive Way where
  /-- From the client to the service. -/
  | outward
  /-- From the service to the client. -/
  | back
  deriving DecidableEq

/-- The handlers that relay for a client on the calling node. -/
inductive Caller where
  /-- `handle_forward_connection`. -/
  | forward
  /-- `handle_tunnel` of the HTTP proxy. -/
  | httpProxy
  /-- `relay` of the SOCKS proxy. -/
  | socksProxy
  deriving DecidableEq

/-- The handler runs under `REQUEST_TIMEOUT`. -/
def Caller.timed : Caller→Bool
  | .httpProxy => true
  | _ => false

/-- A tunnel once the answering node has said that it is connected. -/
structure Tunnel where
  /-- From the client to the service. -/
  outward : Chain UInt8
  /-- From the service to the client. -/
  back : Chain UInt8
  /-- The timer of the calling node's handler has fired. -/
  timedOut : Bool
  /-- What is left to be written of the error response. -/
  unwritten : Bytes
  /-- The client's connection, after what was relayed: the error response on it. -/
  answer : Channel UInt8
  /-- The client has read the end after that. -/
  hungUp : Bool

/-- One of its ways. -/
def Tunnel.way (tunnel : Tunnel) : Way→Chain UInt8
  | .outward => tunnel.outward
  | .back => tunnel.back

/-- Nothing has been relayed. -/
def Tunnel.start : Tunnel := ⟨.start,.start,false,[],.empty,false⟩

/-- What happens on a tunnel. -/
inductive TunnelEvent where
  /-- Something on one of its ways. -/
  | on (way : Way) (event : ChainEvent UInt8)
  /-- The timer of the calling node's handler fires. -/
  | timeout
  /-- So many bytes of the error response are written. -/
  | answer (n : ℕ)
  /-- The client's connection is closed, with the error response written or not. -/
  | hangUp
  /-- The client reads so many bytes of the error response. -/
  | readAnswer (n : ℕ)
  /-- The client reads the end after it. -/
  | readHangUp

/-- The error response when the timer fires. -/
def timeoutResponse : Bytes :=
  (Written.error (.gatewayTimeout "tunnel setup timed out".toList)).bytes

/-- What goes on on a way. -/
def wayStep (capacity : Way→ℕ→ℕ) (tunnel : Tunnel) (way : Way) (event : ChainEvent UInt8) :
    Option Tunnel :=
  match way with
  | .outward => ((tunnelSetup (capacity .outward)).step tunnel.outward event).map fun chain =>
    {tunnel with outward := chain}
  | .back => ((tunnelSetup (capacity .back)).step tunnel.back event).map fun chain =>
    {tunnel with back := chain}

/-- A step of a tunnel. When the timer fires, the loops of the calling node are cut off. Then an
error response is written, unless the client's connection is shut down for writing. -/
def tunnelStep (caller : Caller) (capacity : Way→ℕ→ℕ) (tunnel : Tunnel) :
    TunnelEvent→Option Tunnel
  | .on way event => wayStep capacity tunnel way event
  | .timeout =>
    if caller.timed=true ∧ tunnel.timedOut=false ∧
        ¬(tunnel.outward.relays 0=.closed ∧ tunnel.back.relays 1=.closed) then
      (wayStep capacity tunnel .outward (.relay 0 .cancelled)).bind fun tunnel =>
        (wayStep capacity tunnel .back (.relay 1 .cancelled)).map fun tunnel =>
          {tunnel with timedOut := true, unwritten := timeoutResponse}
    else none
  | .answer n =>
    if tunnel.timedOut=true ∧ tunnel.answer.ended=false ∧ (tunnel.back.channels 2).ended=false ∧
        n≤tunnel.unwritten.length ∧ (tunnel.back.channels 2).inFlight.length+
          tunnel.answer.inFlight.length+n ≤ capacity .back 2 then
      some {tunnel with
        unwritten := tunnel.unwritten.drop n
        answer := tunnel.answer.write (tunnel.unwritten.take n)}
    else none
  | .hangUp =>
    if tunnel.timedOut=true then some {tunnel with answer := tunnel.answer.finish} else none
  | .readAnswer n =>
    if (tunnel.back.channels 2).inFlight.length=0 ∧ n≤tunnel.answer.inFlight.length then
      some {tunnel with answer := tunnel.answer.read n}
    else none
  | .readHangUp =>
    if (tunnel.back.channels 2).inFlight.length=0 ∧ tunnel.answer.inFlight.length=0 ∧
        tunnel.answer.ended=true then
      some {tunnel with hungUp := true}
    else none

/-- The runs of a tunnel. -/
abbrev TunnelRun (caller : Caller) (capacity : Way→ℕ→ℕ) (before : Tunnel) :
    List TunnelEvent→Tunnel→Prop :=
  Run (fun _ before event after => tunnelStep caller capacity before event=some after) before

/-- The loop of the calling node on a way. -/
def callerLoop : Way→ℕ
  | .outward => 0
  | .back => 1

/-- What an event is on a way. -/
def eventOn (way : Way) : TunnelEvent→List (ChainEvent UInt8)
  | .on taken event => if taken=way then [event] else []
  | .timeout => [.relay (callerLoop way) .cancelled]
  | _ => []

/-- The events of a way. -/
def along (way : Way) (log : List TunnelEvent) : List (ChainEvent UInt8) :=
  log.flatMap (eventOn way)

/-- The handler on the calling node, `handle_forward_connection`, `handle_tunnel` or `relay`,
is done: `tcp_to_quic` and `quic_to_tcp` are. -/
def Tunnel.callerDone (tunnel : Tunnel) : Prop :=
  tunnel.outward.relays 0=.closed ∧ tunnel.back.relays 1=.closed

/-- The handler on the answering node, `handle_forward_stream` or `handle_connect_stream`, is
done: `quic_to_tcp` and `tcp_to_quic` are. -/
def Tunnel.answererDone (tunnel : Tunnel) : Prop :=
  tunnel.outward.relays 1=.closed ∧ tunnel.back.relays 0=.closed

section Ways

variable {caller : Caller} {capacity : Way→ℕ→ℕ}

/-- The events of a way with an event more. -/
theorem along_append (way : Way) (log : List TunnelEvent) (event : TunnelEvent) :
    along way (log++[event])=along way log++eventOn way event := by
  unfold along
  rw [List.flatMap_append,List.flatMap_singleton]

/-- A step on a way is a step of its chain, and leaves all else alone. -/
theorem wayStep_way {before after : Tunnel} {taken : Way} {event : ChainEvent UInt8}
    (h : wayStep capacity before taken event=some after) :
    (tunnelSetup (capacity taken)).step (before.way taken) event=some (after.way taken) ∧
      (∀ way,way≠taken → after.way way=before.way way) ∧ after.timedOut=before.timedOut ∧
      after.unwritten=before.unwritten ∧ after.answer=before.answer ∧
      after.hungUp=before.hungUp := by
  unfold wayStep at h
  cases taken with
  | outward =>
    obtain ⟨chain,hstep,rfl⟩ := Option.map_eq_some_iff.mp h
    refine ⟨hstep,fun way hway => ?_,rfl,rfl,rfl,rfl⟩
    cases way with
    | outward => exact absurd rfl hway
    | back => rfl
  | back =>
    obtain ⟨chain,hstep,rfl⟩ := Option.map_eq_some_iff.mp h
    refine ⟨hstep,fun way hway => ?_,rfl,rfl,rfl,rfl⟩
    cases way with
    | outward => rfl
    | back => exact absurd rfl hway

/-- The timer cuts off the loop of the calling node on each way. -/
theorem tunnelStep_timeout {before after : Tunnel}
    (h : tunnelStep caller capacity before .timeout=some after) :
    caller.timed=true ∧ (∀ way,(tunnelSetup (capacity way)).step (before.way way)
      (.relay (callerLoop way) .cancelled)=some (after.way way)) ∧ after.timedOut=true ∧
      after.unwritten=timeoutResponse ∧ after.answer=before.answer ∧
      after.hungUp=before.hungUp ∧ before.timedOut=false := by
  dsimp only [tunnelStep] at h
  split at h
  next htimed =>
    obtain ⟨middle,hfirst,h⟩ := Option.bind_eq_some_iff.mp h
    obtain ⟨last,hsecond,rfl⟩ := Option.map_eq_some_iff.mp h
    obtain ⟨houtward,hother,_,_,hanswer,hhung⟩ := wayStep_way hfirst
    obtain ⟨hback,hother',_,_,hanswer',hhung'⟩ := wayStep_way hsecond
    refine ⟨htimed.1,fun way => ?_,rfl,rfl,hanswer'.trans hanswer,hhung'.trans hhung,htimed.2.1⟩
    cases way with
    | outward =>
      have hkept := hother' .outward (by decide)
      exact houtward.trans (congrArg some hkept.symm)
    | back =>
      rw [hother .back (by decide)] at hback
      exact hback
  next => cases h

/-- A step of a tunnel is, on each way, what the event is there. -/
theorem tunnelStep_way {before after : Tunnel} {event : TunnelEvent}
    (h : tunnelStep caller capacity before event=some after) (way : Way)
    {log : List (ChainEvent UInt8)} {first : Chain UInt8}
    (run : Run (fun _ before event after => (tunnelSetup (capacity way)).step before event=
      some after) first log (before.way way)) :
    Run (fun _ before event after => (tunnelSetup (capacity way)).step before event=some after)
      first (log++eventOn way event) (after.way way) := by
  cases event with
  | on taken event =>
    obtain ⟨hstep,hother,_⟩ := wayStep_way h
    dsimp only [eventOn]
    split
    next htaken => exact run.next (htaken▸hstep)
    next htaken =>
      rw [List.append_nil,hother way (Ne.symm htaken)]
      exact run
  | timeout => exact run.next ((tunnelStep_timeout h).2.1 way)
  | answer n | hangUp | readAnswer n | readHangUp =>
    dsimp only [eventOn]
    rw [List.append_nil]
    dsimp only [tunnelStep] at h
    split at h
    next =>
      obtain rfl := Option.some.inj h
      cases way with
      | outward | back => exact run
    next => cases h

/-- A run of a tunnel is a run of each of its ways. -/
theorem TunnelRun.along {before after : Tunnel} {log : List TunnelEvent}
    (run : TunnelRun caller capacity before log after) (way : Way) :
    Run (fun _ before event after => (tunnelSetup (capacity way)).step before event=some after)
      (before.way way) (TunnelRelays.along way log) (after.way way) := by
  refine run.invariant (motive:=fun log after => Run (fun _ before event after =>
    (tunnelSetup (capacity way)).step before event=some after)
    (before.way way) (TunnelRelays.along way log) (after.way way)) .start ?_
  intro log middle event after _ ih hstep
  rw [along_append]
  exact tunnelStep_way hstep way ih

/-- What the calling node's handler writes itself, by whether its timer has fired. -/
structure AnswerInv (caller : Caller) (log : List TunnelEvent) (tunnel : Tunnel) : Prop where
  /-- It is the error response, in order. -/
  inOrder : tunnel.timedOut=true → tunnel.answer.written++tunnel.unwritten=timeoutResponse
  /-- Until the timer fires there is none, and the connection is not closed. -/
  none : tunnel.timedOut=false → tunnel.answer=.empty ∧ tunnel.hungUp=false
  /-- Only a handler with a timer has one that fires, and on each way that cuts off a loop. -/
  timed : tunnel.timedOut=true → caller.timed=true ∧ ∀ way,failures (TunnelRelays.along way log)≠[]

/-- Once something has failed, it has. -/
theorem failures_kept {way : Way} {log : List TunnelEvent} (event : TunnelEvent)
    (h : failures (TunnelRelays.along way log)≠[]) :
    failures (TunnelRelays.along way (log++[event]))≠[] := by
  rw [along_append]
  unfold failures at h ⊢
  rw [List.filterMap_append]
  exact fun hnil => h (List.append_eq_nil_iff.mp hnil).1

/-- A step keeps it so. -/
theorem AnswerInv.step {before after : Tunnel} {log : List TunnelEvent} {event : TunnelEvent}
    (inv : AnswerInv caller log before)
    (h : tunnelStep caller capacity before event=some after) :
    AnswerInv caller (log++[event]) after := by
  have htimed : before.timedOut=true → caller.timed=true ∧
      ∀ way,failures (TunnelRelays.along way (log++[event]))≠[] := fun h =>
    ⟨(inv.timed h).1,fun way => failures_kept event ((inv.timed h).2 way)⟩
  cases event with
  | on taken event =>
    obtain ⟨-,-,htime,hunwritten,hanswer,hhung⟩ := wayStep_way h
    refine ⟨?_,?_,?_⟩
    · rw [htime,hunwritten,hanswer]
      exact inv.inOrder
    · rw [htime,hanswer,hhung]
      exact inv.none
    · rw [htime]
      exact htimed
  | timeout =>
    obtain ⟨hcaller,-,htime,hunwritten,hanswer,-,hbefore⟩ := tunnelStep_timeout h
    refine ⟨fun _ => ?_,fun hno => ?_,fun _ => ⟨hcaller,fun way hnil => ?_⟩⟩
    · rw [hunwritten,hanswer,(inv.none hbefore).1]
      rfl
    · rw [htime] at hno
      cases hno
    · rw [along_append,failures,List.filterMap_append] at hnil
      cases (List.append_eq_nil_iff.mp hnil).2
  | answer n =>
    dsimp only [tunnelStep] at h
    split at h
    next hwrites =>
      obtain rfl := Option.some.inj h
      refine ⟨fun htime => ?_,fun hno => ?_,htimed⟩
      · have hbefore := inv.inOrder htime
        dsimp only
        rw [Channel.written_write,List.append_assoc,List.take_append_drop]
        exact hbefore
      · rw [hwrites.1] at hno
        cases hno
    next => cases h
  | hangUp =>
    dsimp only [tunnelStep] at h
    split at h
    next htime =>
      obtain rfl := Option.some.inj h
      refine ⟨fun htime => inv.inOrder htime,fun hno => ?_,htimed⟩
      rw [htime] at hno
      cases hno
    next => cases h
  | readAnswer n =>
    dsimp only [tunnelStep] at h
    split at h
    next =>
      obtain rfl := Option.some.inj h
      refine ⟨fun htime => ?_,fun hno => ?_,htimed⟩
      · dsimp only
        rw [Channel.written_read]
        exact inv.inOrder htime
      · obtain ⟨hnone,hhung⟩ := inv.none hno
        refine ⟨?_,hhung⟩
        dsimp only
        rw [hnone]
        simp [Channel.read,Channel.empty]
    next => cases h
  | readHangUp =>
    dsimp only [tunnelStep] at h
    split at h
    next hend =>
      obtain rfl := Option.some.inj h
      refine ⟨fun htime => inv.inOrder htime,fun hno => ?_,htimed⟩
      have hnone := (inv.none hno).1
      rw [hnone] at hend
      cases hend.2.2
    next => cases h

/-- It holds of every run. -/
theorem TunnelRun.answer {log : List TunnelEvent} {tunnel : Tunnel}
    (run : TunnelRun caller capacity .start log tunnel) : AnswerInv caller log tunnel :=
  run.invariant (motive:=AnswerInv caller)
    ⟨(fun h => by cases h),fun _ => ⟨rfl,rfl⟩,(fun h => by cases h)⟩
    fun _ _ _ _ _ inv h => inv.step h

end Ways

section Playing

/-- The tunnel after some events, if they are possible. -/
def relayed (caller : Caller) (capacity : Way→ℕ→ℕ) (tunnel : Tunnel) (log : List TunnelEvent) :
    Option Tunnel := log.foldlM (tunnelStep caller capacity) tunnel

/-- Events that are possible one after another are a run. -/
theorem run_of_relayed {caller : Caller} {capacity : Way→ℕ→ℕ} {before after : Tunnel}
    {log : List TunnelEvent} (h : relayed caller capacity before log=some after) :
    TunnelRun caller capacity before log after := by
  show Run _ before ([]++log) after
  exact Run.extend (fun _ _ _ _ hstep => hstep) .start h

/-- A byte is relayed along a way. -/
def oneByte (way : Way) (byte : UInt8) : List TunnelEvent :=
  [.on way (.send [byte]),.on way (.relay 0 (.read 1)),.on way (.relay 0 (.write 1)),
    .on way (.relay 1 (.read 1)),.on way (.relay 1 (.write 1)),.on way (.receive 1)]

/-- What the first loop ends goes on to be ended at the receiver. -/
def endPassedOn (way : Way) : List TunnelEvent :=
  [.on way (.relay 0 .close),.on way (.relay 1 .readEnd),.on way (.relay 1 .close),
    .on way .receiveEnd]

/-- Both ends are done at once. -/
def silentLog : List TunnelEvent :=
  .on .outward .sendEnd::.on .outward (.relay 0 .readEnd)::endPassedOn .outward++
    .on .back .sendEnd::.on .back (.relay 0 .readEnd)::endPassedOn .back

/-- A byte is relayed to the client, and then the timer fires and an error response is written. -/
def timedOutLog : List TunnelEvent :=
  oneByte .back 7++[.timeout,.answer 12,.readAnswer 12]

/-- Channels that hold some bytes. -/
def sixteen : Way→ℕ→ℕ := fun _ _ => 16

end Playing

section Results

/-- The bytes that the sender of a way wrote. -/
def sentAlong (way : Way) (log : List TunnelEvent) : Bytes := sent (along way log)

/-- The bytes that its receiver read. -/
def receivedAlong (way : Way) (tunnel : Tunnel) : Bytes :=
  ((tunnel.way way).channels 2).taken++
    match way with
    | .outward => []
    | .back => tunnel.answer.taken

/-- Its receiver read the end. -/
def Tunnel.finished (tunnel : Tunnel) : Way→Prop
  | .outward => tunnel.outward.finished=true
  | .back => tunnel.back.finished=true ∨ tunnel.hungUp=true

/-- Until the timer fires, nothing but what was relayed is received. -/
theorem AnswerInv.receives {caller : Caller} {log : List TunnelEvent} {tunnel : Tunnel}
    (inv : AnswerInv caller log tunnel) (htime : tunnel.timedOut=false) (way : Way) :
    receivedAlong way tunnel=((tunnel.way way).channels 2).taken ∧
      (tunnel.finished way ↔ (tunnel.way way).finished=true) := by
  obtain ⟨hnone,hhung⟩ := inv.none htime
  cases way with
  | outward => exact ⟨List.append_nil _,Iff.rfl⟩
  | back =>
    constructor
    · unfold receivedAlong
      rw [hnone]
      exact List.append_nil _
    · unfold Tunnel.finished
      rw [hhung]
      exact or_iff_left Bool.false_ne_true

/-- Where no loop of a way fails or is cut off, the timer has not fired. -/
theorem AnswerInv.untimed {caller : Caller} {log : List TunnelEvent} {tunnel : Tunnel}
    (inv : AnswerInv caller log tunnel) {way : Way} (hnone : failures (along way log)=[]) :
    tunnel.timedOut=false :=
  Bool.eq_false_iff.mpr fun htime => (inv.timed htime).2 way hnone

/-- Over every interleaving of the four relay loops, what either end reads is a prefix of what
the other wrote, followed only at a client of the HTTP proxy, and only after its timer has
fired, by a part of its error response. Once an end reads the end it has read everything,
unless a loop of that way failed or was cut off by the timer. -/
theorem tunnel_in_order (caller : Caller) (capacity : Way→ℕ→ℕ) (log : List TunnelEvent)
    (tunnel : Tunnel) (run : TunnelRun caller capacity .start log tunnel) (way : Way) :
    (∃ front answer,receivedAlong way tunnel=front++answer ∧ front<+:sentAlong way log ∧
        answer<+:timeoutResponse ∧
        (answer≠[] → caller.timed=true ∧ way=.back ∧ tunnel.timedOut=true)) ∧
      (tunnel.finished way → failures (along way log)=[] →
        receivedAlong way tunnel=sentAlong way log) := by
  have hway : (Tunnel.start.way way)=Chain.start := by cases way <;> rfl
  have hrun := run.along way
  rw [hway] at hrun
  have inv := run.answer
  obtain ⟨hfront,hall⟩ := ChainRun.delivered hrun
  refine ⟨?_,fun hfinished hnone => ?_⟩
  · cases htime : tunnel.timedOut with
    | false =>
      exact ⟨_,[],(inv.receives htime way).1.trans (List.append_nil _).symm,hfront,
        List.nil_prefix,fun hno => absurd rfl hno⟩
    | true =>
      cases way with
      | outward => exact ⟨_,[],rfl,hfront,List.nil_prefix,fun hno => absurd rfl hno⟩
      | back =>
        refine ⟨_,tunnel.answer.taken,rfl,hfront,?_,fun _ => ⟨(inv.timed htime).1,rfl,rfl⟩⟩
        rw [←inv.inOrder htime]
        exact (Channel.taken_prefix _).trans (List.prefix_append _ _)
  · have htime := inv.untimed hnone
    obtain ⟨hreceived,hend⟩ := inv.receives htime way
    rw [hreceived]
    exact hall (hend.mp hfinished) hnone

/-- A client of the HTTP proxy whose timer fires reads a part of its error response after the
byte that was relayed. -/
theorem tunnel_in_order_timedOut : ∃ tunnel,
    TunnelRun .httpProxy sixteen .start timedOutLog tunnel ∧ sentAlong .back timedOutLog=[7] ∧
    receivedAlong .back tunnel=[7]++StreamCommands.ascii "HTTP/1.1 504" ∧
    ∃ front answer,receivedAlong .back tunnel=front++answer ∧
      front<+:sentAlong .back timedOutLog ∧ answer<+:timeoutResponse := by
  have hread : (relayed .httpProxy sixteen .start timedOutLog).map (receivedAlong .back)=
      some ([7]++StreamCommands.ascii "HTTP/1.1 504") := by decide +kernel
  obtain ⟨tunnel,hrelayed,hreceived⟩ := Option.map_eq_some_iff.mp hread
  have hrun := run_of_relayed hrelayed
  obtain ⟨⟨front,answer,hparts,hfront,hanswer,-⟩,-⟩ :=
    tunnel_in_order .httpProxy sixteen timedOutLog tunnel hrun .back
  exact ⟨tunnel,hrun,rfl,hreceived,front,answer,hparts,hfront,hanswer⟩

/-- Once both ends have read the end, and if no loop failed or was cut off by the timer, all
loops are done, so that the handlers on both nodes return and drop the stream. -/
theorem handlers_return (caller : Caller) (capacity : Way→ℕ→ℕ) (log : List TunnelEvent)
    (tunnel : Tunnel) (run : TunnelRun caller capacity .start log tunnel)
    (hfinished : ∀ way,tunnel.finished way)
    (hnone : ∀ way,failures (along way log)=[]) : tunnel.callerDone ∧ tunnel.answererDone := by
  have inv := run.answer
  have hclosed : ∀ way i,i < 2 → (tunnel.way way).relays i=.closed := by
    intro way i hi
    have hway : (Tunnel.start.way way)=Chain.start := by cases way <;> rfl
    have hend := ((inv.receives (inv.untimed (hnone way)) way).2).mp (hfinished way)
    have hrun := run.along way
    rw [hway] at hrun
    have inv := ChainRun.invariant hrun
    exact inv.all_closed (hnone way) (Nat.le_refl 2) (inv.complete hend).2 i hi
  exact ⟨⟨hclosed .outward 0 (by decide),hclosed .back 1 (by decide)⟩,
    hclosed .outward 1 (by decide),hclosed .back 0 (by decide)⟩

/-- The handlers return where client and service say nothing and end. -/
theorem handlers_return_silent : ∃ tunnel,
    TunnelRun .httpProxy sixteen .start silentLog tunnel ∧
    tunnel.callerDone ∧ tunnel.answererDone := by
  have hfinished : (relayed .httpProxy sixteen .start silentLog).map (fun tunnel =>
      (tunnel.outward.finished,tunnel.back.finished))=some (true,true) := by decide +kernel
  obtain ⟨tunnel,hrelayed,hend⟩ := Option.map_eq_some_iff.mp hfinished
  obtain ⟨houtward,hback⟩ := Prod.mk.inj hend
  have hrun := run_of_relayed hrelayed
  exact ⟨tunnel,hrun,handlers_return .httpProxy sixteen silentLog tunnel hrun
    (fun way => by cases way; exacts [houtward,.inl hback]) (fun way => by cases way <;> rfl)⟩

end Results

end WispersConnect.TunnelRelays
