import WispersConnect.Messages
import Mathlib.Data.Finset.Basic
import Mathlib.Logic.Function.Basic

/-!
# A QUIC connection, its driver and its callers

`quic.rs`: the driver task that moves packets, the calls that wait for it through
the notification, the poll functions that wait for it through their wakers, and
the drop of the connection, which aborts the driver. What happens under the
connection lock is one step. quiche and the transport are parameters: quiche's
state changes by the calls made here and by nothing else.
-/

namespace WispersConnect.QuicConnection

open Messages

/-- `quiche::Error`, as far as it is told apart. -/
inductive QuicheError where
  /-- Nothing to do, or no room. -/
  | done
  /-- Any other error. -/
  | other (code : ℕ)
  deriving DecidableEq

/-- `quiche::Shutdown`. -/
inductive Half where
  /-- The receiving half. -/
  | read
  /-- The sending half. -/
  | write
  deriving DecidableEq

/-- The functions of a quiche connection with state `σ` and packets `ρ`. -/
structure Quiche (σ ρ : Type) where
  /-- `is_established`. -/
  isEstablished : σ→Bool
  /-- `is_closed`. -/
  isClosed : σ→Bool
  /-- `is_draining`. -/
  isDraining : σ→Bool
  /-- `stats().acked_bytes`. -/
  ackedBytes : σ→ℕ
  /-- `peer_streams_left_bidi`. -/
  peerStreamsLeftBidi : σ→ℕ
  /-- `stream_finished`. -/
  streamFinished : σ→ℕ→Bool
  /-- `send`: the next packet to be sent. -/
  send : σ→Except QuicheError ρ×σ
  /-- `recv`. -/
  recv : σ→ρ→Except QuicheError Unit×σ
  /-- `on_timeout`. -/
  onTimeout : σ→σ
  /-- `send_ack_eliciting`. -/
  sendAckEliciting : σ→Except QuicheError Unit×σ
  /-- `close`, by the application. -/
  close : σ→ℕ→Bytes→σ
  /-- `stream_send`: how many bytes were taken. -/
  streamSend : σ→ℕ→Bytes→Bool→Except QuicheError ℕ×σ
  /-- `stream_recv` into a buffer of the given size: how many bytes, and whether they are the last. -/
  streamRecv : σ→ℕ→ℕ→Except QuicheError (ℕ×Bool)×σ
  /-- `stream_readable_next`. -/
  streamReadableNext : σ→Option ℕ×σ
  /-- `stream_shutdown` with error code 0; its result is not looked at. -/
  streamShutdown : σ→ℕ→Half→σ

/-- `QuicError`, as far as these calls return it. -/
inductive QuicError where
  /-- An error of quiche. -/
  | quic (error : QuicheError)
  /-- An error of the transport. -/
  | ice
  /-- The handshake failed. -/
  | handshakeFailed
  /-- The connection is closed. -/
  | connectionClosed
  /-- The error code does not fit. -/
  | invalidErrorCode (code : ℕ)
  deriving DecidableEq

/-- `QuicRole`. -/
inductive QuicRole where
  /-- Opens streams 0, 4, 8, … -/
  | client
  /-- Opens streams 1, 5, 9, … -/
  | server
  deriving DecidableEq

/-- The first stream that a role opens. -/
def QuicRole.base : QuicRole→ℕ
  | client => 0
  | server => 1

/-- `MAX_ERROR_CODE`. -/
def maxErrorCode : ℕ := (1<<<62)-1

/-- What the transport does with a packet, after any retries. -/
inductive Transport where
  /-- It is sent. -/
  | sent
  /-- The send buffer stays full. -/
  | full
  /-- It fails. -/
  | failed
  deriving DecidableEq

/-- What `flush_ready` meets at a packet that quiche has ready. -/
inductive Ready where
  /-- It is paced for later. -/
  | paced
  /-- It is handed to the transport. -/
  | offered (transport : Transport)
  deriving DecidableEq

/-- What ends the driver's wait. -/
inductive Selected (ρ : Type) where
  /-- A packet comes in. -/
  | packet (packet : ρ)
  /-- The transport fails. -/
  | iceError
  /-- The timeout runs out. -/
  | slept
  /-- The keepalive is due. -/
  | ticked

/-- What the surroundings decide during a step. -/
structure Turn (ρ : Type) where
  /-- What the transport does. -/
  transport : Transport
  /-- How often a loop over readable streams turns. -/
  scanned : ℕ
  /-- Whether somebody else holds the lock. -/
  contended : Bool
  /-- What a flush without waiting meets. -/
  ready : List Ready
  /-- What the driver is woken by. -/
  selected : Selected ρ

/-- What the parties share: `ConnectionInner`, and the flags of the stream handles. -/
structure Shared (σ ω : Type) where
  /-- The quiche connection. -/
  conn : σ
  /-- The driver is to stop. -/
  shutdown : Bool
  /-- The streams accepted so far. -/
  acceptedStreams : Finset ℕ
  /-- The index of the next stream to open. -/
  nextStreamIndex : ℕ
  /-- Dropped streams: id, and whether each half was finished. -/
  pendingShutdown : List (ℕ×Bool×Bool)
  /-- The wakers of the poll functions. -/
  pollWakers : List ω
  /-- The driver left its loop. -/
  driverExited : Bool
  /-- `recv_fin` of each stream's handle. -/
  recvFin : ℕ→Bool
  /-- `sent_fin` of each stream's handle. -/
  sentFin : ℕ→Bool

/-- A call that waits for the notification, with its variables. -/
inductive Call where
  /-- `handshake`. -/
  | handshake
  /-- `ping`, with the bytes acknowledged before it. -/
  | ping (ackedBefore : ℕ)
  /-- `open_stream`. -/
  | openStream
  /-- `accept_stream`. -/
  | acceptStream
  /-- `read` into a buffer of some size. -/
  | read (stream cap : ℕ)
  /-- `write_all`, with what is written so far. -/
  | writeAll (stream : ℕ) (data : Bytes) (offset : ℕ)
  deriving DecidableEq

/-- What a call returns when it succeeds. -/
inductive Value where
  /-- Nothing, or a duration. -/
  | unit
  /-- A stream. -/
  | stream (id : ℕ)
  /-- A number of bytes. -/
  | bytes (n : ℕ)
  deriving DecidableEq

/-- What a call goes on with after flushing. -/
inductive AfterFlush where
  /-- The next turn of its loop. -/
  | loop
  /-- Its wait. -/
  | await
  /-- Its return. -/
  | return (value : Value)
  deriving DecidableEq

/-- Where a call stands. -/
inductive Pc where
  /-- Before its loop. -/
  | enter
  /-- At the head of its loop, before it arms the notification. -/
  | arm
  /-- Before it looks at the connection. -/
  | check
  /-- Before it looks at the driver's exit flag. -/
  | exitCheck
  /-- In `flush_send`. -/
  | flush (next : AfterFlush)
  /-- Waiting for the notification. -/
  | await
  deriving DecidableEq

/-- Where `notify_state_change` stands. -/
inductive NotifyPc (ω : Type) where
  /-- Before it notifies the waiters. -/
  | waiters
  /-- Before it takes the wakers. -/
  | take
  /-- Waking the wakers it took. -/
  | wake (taken : List ω)
  deriving DecidableEq

/-- Where `close_with_error` stands. -/
inductive ClosePc (ω : Type) where
  /-- Before it closes the connection. -/
  | enter (errorCode : ℕ) (reason : Bytes)
  /-- In `flush_send`. -/
  | flush
  /-- Before it sets the shutdown flag. -/
  | store
  /-- Notifying. -/
  | notify (pc : NotifyPc ω)
  deriving DecidableEq

/-- A call of a poll function. -/
inductive PollCall where
  /-- `poll_read` into a buffer of some size. -/
  | read (stream cap : ℕ)
  /-- `poll_write`. -/
  | write (stream : ℕ) (data : Bytes)
  /-- `poll_shutdown`. -/
  | shutdown (stream : ℕ)
  deriving DecidableEq

/-- Where it stands. -/
inductive PollPc where
  /-- About to run. -/
  | enter
  /-- Registered, before it tries the lock. -/
  | tryLock
  /-- It returned `Pending`. -/
  | pending
  deriving DecidableEq

/-- The error of a poll function. -/
inductive IoError where
  /-- The connection is closed or its driver gone. -/
  | connectionAborted
  /-- Any other error. -/
  | other (error : QuicError)
  deriving DecidableEq

/-- What a caller is doing. -/
inductive Caller (ω : Type) where
  /-- Nothing yet. -/
  | idle
  /-- In a call; the notification it armed last has fired or not. -/
  | call (call : Call) (pc : Pc) (fired : Bool)
  /-- In `close_with_error`. -/
  | closing (pc : ClosePc ω)
  /-- In a poll function; its waker was woken since it registered or not. -/
  | poll (call : PollCall) (pc : PollPc) (woken : Bool)
  /-- A call returned. -/
  | returned (reply : Except QuicError Value)
  /-- A poll function returned `Ready`. -/
  | ready (reply : Except IoError ℕ)

/-- What the driver does after notifying. -/
inductive AfterNotify where
  /-- The next turn of its loop. -/
  | loop
  /-- It leaves its loop. -/
  | exit
  /-- It ends. -/
  | finish
  deriving DecidableEq

/-- Where the driver stands. -/
inductive DriverPc (ρ ω : Type) where
  /-- Spawned, not run yet. -/
  | spawned
  /-- At the head of its loop. -/
  | head
  /-- In `flush_send`, of the loop or of the keepalive. -/
  | flush (keepalive : Bool)
  /-- Before it looks whether the connection is closed. -/
  | closedCheck
  /-- Before it asks for the timeout. -/
  | timeout
  /-- Waiting for a packet, the timeout or the keepalive. -/
  | select
  /-- Before it processes a packet. -/
  | packet (packet : ρ)
  /-- Before it handles the timeout. -/
  | expired
  /-- Before it sends the keepalive. -/
  | keepalive
  /-- Notifying. -/
  | notify (pc : NotifyPc ω) (next : AfterNotify)
  /-- Out of its loop, before it sets the exit flag. -/
  | exit
  /-- It ended. -/
  | finished
  /-- It was cancelled. -/
  | cancelled

/-- The connection's owner. -/
inductive Handle where
  /-- Holds the connection. -/
  | held
  /-- Is dropping it: the shutdown flag is set. -/
  | dropping
  /-- Has aborted the driver. -/
  | dropped
  deriving DecidableEq

/-- The connection, its driver and its callers. -/
structure State (σ ρ ω ι : Type) where
  /-- What they share. -/
  shared : Shared σ ω
  /-- The driver. -/
  driver : DriverPc ρ ω
  /-- The connection's owner. -/
  handle : Handle
  /-- The callers. -/
  callers : ι→Caller ω

section Sections

variable {σ ρ ω : Type} (Q : Quiche σ ρ)

/-- What one turn of `flush_send` comes to. -/
inductive Flushed where
  /-- There may be more. -/
  | more
  /-- It is done for now. -/
  | ok
  /-- It failed. -/
  | failed (error : QuicError)

/-- One turn of `flush_send`. -/
def flushTurn (conn : σ) (transport : Transport) : Flushed×σ :=
  match Q.send conn with
  | (.ok _,conn) =>
    match transport with
    | .sent => (.more,conn)
    | .full => (.ok,conn)
    | .failed => (.failed .ice,conn)
  | (.error .done,conn) => (.ok,conn)
  | (.error e,conn) => (.failed (.quic e),conn)

/-- `flush_ready`, by what it meets at each packet; it needs to know as much as it meets. -/
def flushReady : List Ready→σ→Option (Except QuicError Unit×σ)
  | ready,conn =>
    match Q.send conn,ready with
    | (.error .done,conn),[] => some (.ok (),conn)
    | (.error .done,_),_ => none
    | (.error e,conn),[] => some (.error (.quic e),conn)
    | (.error _,_),_ => none
    | (.ok _,_),[] => none
    | (.ok _,conn),.paced::[] => some (.ok (),conn)
    | (.ok _,conn),.offered .full::[] => some (.ok (),conn)
    | (.ok _,conn),.offered .failed::[] => some (.error .ice,conn)
    | (.ok _,conn),.offered .sent::rest => flushReady rest conn
    | (.ok _,_),_::_ => none

/-- Shuts down the halves of a dropped stream that were not finished. -/
def shutdownHalves (conn : σ) : ℕ×Bool×Bool→σ
  | (id,sentFin,recvFin) =>
    let conn := if recvFin then conn else Q.streamShutdown conn id .read
    if sentFin then conn else Q.streamShutdown conn id .write

/-- `drain_pending_shutdown`. -/
def drainPendingShutdown (shared : Shared σ ω) : Shared σ ω :=
  {shared with
    conn := shared.pendingShutdown.foldl (shutdownHalves Q) shared.conn
    pendingShutdown := []}

/-- `handshake` under the lock. -/
def handshakeCheck (conn : σ) : Option (Except QuicError Value) :=
  if Q.isEstablished conn then some (.ok .unit)
  else if Q.isClosed conn then some (.error .handshakeFailed)
  else none

/-- `ping` before its loop: the bytes acknowledged so far. -/
def pingStart (conn : σ) : Except QuicError ℕ×σ :=
  if Q.isClosed conn || Q.isDraining conn then (.error .connectionClosed,conn)
  else
    match Q.sendAckEliciting conn with
    | (.error e,conn) => (.error (.quic e),conn)
    | (.ok (),conn) => (.ok (Q.ackedBytes conn),conn)

/-- `ping` under the lock. -/
def pingCheck (ackedBefore : ℕ) (conn : σ) : Option (Except QuicError Value) :=
  if ackedBefore<Q.ackedBytes conn then some (.ok .unit)
  else if Q.isClosed conn || Q.isDraining conn then some (.error .connectionClosed)
  else none

/-- `open_stream` under the lock: the stream opened, if there is credit. -/
def openCheck (role : QuicRole) (shared : Shared σ ω) :
    Except QuicError (Option ℕ)×Shared σ ω :=
  let shared := drainPendingShutdown Q shared
  if Q.isClosed shared.conn then (.error .connectionClosed,shared)
  else if shared.driverExited then (.error .connectionClosed,shared)
  else if Q.peerStreamsLeftBidi shared.conn=0 then (.ok none,shared)
  else
    let id := role.base+4*shared.nextStreamIndex
    let shared := {shared with
      nextStreamIndex := shared.nextStreamIndex+1
      recvFin := Function.update shared.recvFin id false
      sentFin := Function.update shared.sentFin id false}
    match Q.streamSend shared.conn id [] false with
    | (.ok _,conn) => (.ok (some id),{shared with conn := conn})
    | (.error .done,conn) => (.ok (some id),{shared with conn := conn})
    | (.error e,conn) => (.error (.quic e),{shared with conn := conn})

/-- The loop of `accept_stream` over readable streams, turning `scanned` times
before its last: a stream that was not accepted yet, if there is one. -/
def scanReadable (accepted : Finset ℕ) : ℕ→σ→Option (Option ℕ×σ)
  | scanned,conn =>
    match Q.streamReadableNext conn with
    | (none,conn) => if scanned=0 then some (none,conn) else none
    | (some id,conn) =>
      if id∈accepted then
        match scanned with
        | 0 => none
        | scanned+1 => scanReadable accepted scanned conn
      else if scanned=0 then some (some id,conn) else none

/-- `accept_stream` under the lock. -/
def acceptCheck (scanned : ℕ) (shared : Shared σ ω) :
    Option (Option (Except QuicError Value)×Shared σ ω) :=
  let shared := drainPendingShutdown Q shared
  match scanReadable Q shared.acceptedStreams scanned shared.conn with
  | none => none
  | some (some id,conn) =>
    some (some (.ok (.stream id)),{shared with
      conn := conn
      acceptedStreams := insert id shared.acceptedStreams
      recvFin := Function.update shared.recvFin id false
      sentFin := Function.update shared.sentFin id false})
  | some (none,conn) =>
    let shared := {shared with conn := conn}
    if Q.isClosed conn then some (some (.error .connectionClosed),shared) else some (none,shared)

/-- `read` under the lock. -/
def readCheck (stream cap : ℕ) (shared : Shared σ ω) :
    Option (Except QuicError Value)×Shared σ ω :=
  let finish := fun conn => {shared with
    conn := conn
    recvFin := Function.update shared.recvFin stream true}
  match Q.streamRecv shared.conn stream cap with
  | (.ok (n,fin),conn) =>
    (some (.ok (.bytes n)),if fin then finish conn else {shared with conn := conn})
  | (.error .done,conn) =>
    if Q.streamFinished conn stream then (some (.ok (.bytes 0)),finish conn)
    else if Q.isClosed conn then (some (.error .connectionClosed),{shared with conn := conn})
    else (none,{shared with conn := conn})
  | (.error e,conn) => (some (.error (.quic e)),{shared with conn := conn})

/-- `write_all` under the lock: how many bytes were taken. -/
def writeAllSend (stream : ℕ) (data : Bytes) (offset : ℕ) (conn : σ) : Except QuicError ℕ×σ :=
  match Q.streamSend conn stream (data.drop offset) false with
  | (.ok n,conn) => (.ok n,conn)
  | (.error .done,conn) => (.ok 0,conn)
  | (.error e,conn) => (.error (.quic e),conn)

/-- `poll_read` under the lock: `none` for `Pending`. -/
def pollReadCheck (stream cap : ℕ) (shared : Shared σ ω) : Option (Except IoError ℕ)×Shared σ ω :=
  let finish := fun conn => {shared with
    conn := conn
    recvFin := Function.update shared.recvFin stream true}
  match Q.streamRecv shared.conn stream cap with
  | (.ok (n,fin),conn) =>
    let shared := if fin then finish conn else {shared with conn := conn}
    if n=0 ∧ fin=false then (none,shared) else (some (.ok n),shared)
  | (.error .done,conn) =>
    if Q.streamFinished conn stream then (some (.ok 0),finish conn)
    else if Q.isClosed conn || shared.driverExited then
      (some (.error .connectionAborted),{shared with conn := conn})
    else (none,{shared with conn := conn})
  | (.error e,conn) => (some (.error (.other (.quic e))),{shared with conn := conn})

/-- `poll_write` under the lock. -/
def pollWriteCheck (stream : ℕ) (data : Bytes) (ready : List Ready) (shared : Shared σ ω) :
    Option (Option (Except IoError ℕ)×Shared σ ω) :=
  let blocked := fun conn =>
    if shared.driverExited then (some (.error .connectionAborted),{shared with conn := conn})
    else (none,{shared with conn := conn})
  match Q.streamSend shared.conn stream data false with
  | (.ok 0,conn) => some (blocked conn)
  | (.error .done,conn) => some (blocked conn)
  | (.ok n,conn) =>
    match flushReady Q ready conn with
    | none => none
    | some (.error e,conn) => some (some (.error (.other e)),{shared with conn := conn})
    | some (.ok (),conn) => some (some (.ok n),{shared with conn := conn})
  | (.error e,conn) => some (some (.error (.other (.quic e))),{shared with conn := conn})

/-- `finish` and `poll_shutdown` under the lock. -/
def finishStream (stream : ℕ) (shared : Shared σ ω) : Except QuicError Unit×Shared σ ω :=
  let sent := fun conn => {shared with
    conn := conn
    sentFin := Function.update shared.sentFin stream true}
  match Q.streamSend shared.conn stream [] true with
  | (.ok _,conn) => (.ok (),sent conn)
  | (.error .done,conn) => (.ok (),sent conn)
  | (.error e,conn) => (.error (.quic e),{shared with conn := conn})

/-- `poll_shutdown` under the lock. -/
def pollShutdownCheck (stream : ℕ) (ready : List Ready) (shared : Shared σ ω) :
    Option (Except IoError ℕ×Shared σ ω) :=
  match finishStream Q stream shared with
  | (.error e,shared) => some (.error (.other e),shared)
  | (.ok (),shared) =>
    match flushReady Q ready shared.conn with
    | none => none
    | some (_,conn) => some (.ok 0,{shared with conn := conn})

end Sections

/-- The error of a call that finds the driver gone. -/
def Call.exitError : Call→QuicError
  | handshake => .handshakeFailed
  | _ => .connectionClosed

/-- Where a call goes on after flushing. -/
def AfterFlush.resume {ω : Type} (call : Call) (fired : Bool) : AfterFlush→Caller ω
  | loop => .call call .arm fired
  | await => .call call .await fired
  | .return value => .returned (.ok value)

section Callers

variable {σ ρ ω : Type} (Q : Quiche σ ρ) (role : QuicRole)

/-- A call before its loop. -/
def enterStep (shared : Shared σ ω) (fired : Bool) : Call→Shared σ ω×Caller ω
  | .ping _ =>
    match pingStart Q shared.conn with
    | (.error e,conn) => ({shared with conn := conn},.returned (.error e))
    | (.ok acked,conn) => ({shared with conn := conn},.call (.ping acked) (.flush .loop) fired)
  | .read stream cap =>
    if shared.recvFin stream then (shared,.returned (.ok (.bytes 0)))
    else (shared,.call (.read stream cap) .arm fired)
  | call => (shared,.call call .arm fired)

/-- A call at the head of its loop. -/
def armStep : Call→Caller ω
  | .writeAll stream data offset =>
    if offset<data.length then .call (.writeAll stream data offset) .check false
    else .returned (.ok .unit)
  | call => .call call .check false

/-- A call that found what it waits for, or goes on to the exit flag. -/
def afterCheck (call : Call) (fired : Bool) : Option (Except QuicError Value)→Caller ω
  | some reply => .returned reply
  | none => .call call .exitCheck fired

/-- A call under the lock. -/
def checkStep (shared : Shared σ ω) (fired : Bool) (scanned : ℕ) :
    Call→Option (Shared σ ω×Caller ω)
  | .handshake => some (shared,afterCheck .handshake fired (handshakeCheck Q shared.conn))
  | .ping acked => some (shared,afterCheck (.ping acked) fired (pingCheck Q acked shared.conn))
  | .openStream =>
    match openCheck Q role shared with
    | (.error e,shared) => some (shared,.returned (.error e))
    | (.ok (some id),shared) => some (shared,.call .openStream (.flush (.return (.stream id))) fired)
    | (.ok none,shared) => some (shared,.call .openStream (.flush .await) fired)
  | .acceptStream =>
    (acceptCheck Q scanned shared).map fun (reply,shared) =>
      (shared,afterCheck .acceptStream fired reply)
  | .read stream cap =>
    match readCheck Q stream cap shared with
    | (reply,shared) => some (shared,afterCheck (.read stream cap) fired reply)
  | .writeAll stream data offset =>
    match writeAllSend Q stream data offset shared.conn with
    | (.error e,conn) => some ({shared with conn := conn},.returned (.error e))
    | (.ok n,conn) =>
      some ({shared with conn := conn},
        if 0<n then .call (.writeAll stream data (offset+n)) (.flush .loop) fired
        else .call (.writeAll stream data offset) .await fired)

/-- A call that looks at the exit flag. -/
def exitCheckStep (shared : Shared σ ω) (fired : Bool) (call : Call) : Caller ω :=
  if shared.driverExited then .returned (.error call.exitError)
  else if call=.acceptStream then .call call (.flush .await) fired
  else .call call .await fired

/-- One step of a call. -/
def callStep (shared : Shared σ ω) (call : Call) (fired : Bool) (turn : Turn ρ) :
    Pc→Option (Shared σ ω×Caller ω)
  | .enter => some (enterStep Q shared fired call)
  | .arm => some (shared,armStep call)
  | .check => checkStep Q role shared fired turn.scanned call
  | .exitCheck => some (shared,exitCheckStep shared fired call)
  | .flush next =>
    match flushTurn Q shared.conn turn.transport with
    | (.more,conn) => some ({shared with conn := conn},.call call (.flush next) fired)
    | (.ok,conn) => some ({shared with conn := conn},next.resume call fired)
    | (.failed e,conn) => some ({shared with conn := conn},.returned (.error e))
  | .await => if fired then some (shared,.call call .arm fired) else none

/-- `register_poll_waker`. -/
def registerPollWaker [DecidableEq ω] (waker : ω) (shared : Shared σ ω) : Shared σ ω :=
  if waker∈shared.pollWakers then shared
  else {shared with pollWakers := shared.pollWakers++[waker]}

/-- A poll function registers its waker when it starts, unless it need not wait. -/
def pollEnter [DecidableEq ω] (waker : ω) (shared : Shared σ ω) : PollCall→Shared σ ω×Caller ω
  | .read stream cap =>
    if shared.recvFin stream then (shared,.ready (.ok 0))
    else (registerPollWaker waker shared,.poll (.read stream cap) .tryLock false)
  | .write stream data =>
    (registerPollWaker waker shared,.poll (.write stream data) .tryLock false)
  | .shutdown stream => (shared,.poll (.shutdown stream) .tryLock false)

/-- What a poll function returns. -/
def pollReply (call : PollCall) (woken : Bool) : Option (Except IoError ℕ)→Caller ω
  | some reply => .ready reply
  | none => .poll call .pending woken

/-- A poll function under the lock. -/
def pollCheck (shared : Shared σ ω) (woken : Bool) (ready : List Ready) :
    PollCall→Option (Shared σ ω×Caller ω)
  | .read stream cap =>
    match pollReadCheck Q stream cap shared with
    | (reply,shared) => some (shared,pollReply (.read stream cap) woken reply)
  | .write stream data =>
    (pollWriteCheck Q stream data ready shared).map fun (reply,shared) =>
      (shared,pollReply (.write stream data) woken reply)
  | .shutdown stream =>
    (pollShutdownCheck Q stream ready shared).map fun (reply,shared) => (shared,.ready reply)

/-- What `close_with_error` sends of its reason: at most `MAX_CLOSE_REASON_LEN`
bytes, up to the start of a character. -/
def truncateReason (reason : Bytes) : ℕ→Bytes
  | 0 => []
  | n+1 =>
    if (reason[n+1]?).all fun byte => byte<128 ∨ 192≤byte then reason.take (n+1)
    else truncateReason reason n

end Callers

/-- An operation that does not wait, apart from flushing. -/
inductive Touch where
  /-- `write`. -/
  | write (stream : ℕ) (data : Bytes)
  /-- `finish`. -/
  | finish (stream : ℕ)
  /-- `shutdown` of a stream. -/
  | shutdown (stream : ℕ)
  /-- The drop of a stream. -/
  | dropped (stream : ℕ)
  /-- A packet is flushed. -/
  | flush

/-- What a caller starts. -/
inductive Op where
  /-- `handshake`. -/
  | handshake
  /-- `ping`. -/
  | ping
  /-- `open_stream`. -/
  | openStream
  /-- `accept_stream`. -/
  | acceptStream
  /-- `close_with_error`. -/
  | closeWithError (errorCode : ℕ) (reason : Bytes)
  /-- `read`. -/
  | read (stream cap : ℕ)
  /-- `write_all`. -/
  | writeAll (stream : ℕ) (data : Bytes)
  /-- `poll_read`. -/
  | pollRead (stream cap : ℕ)
  /-- `poll_write`. -/
  | pollWrite (stream : ℕ) (data : Bytes)
  /-- `poll_shutdown`. -/
  | pollShutdown (stream : ℕ)
  deriving DecidableEq

/-- An operation at its start. -/
def Op.caller {ω : Type} : Op→Caller ω
  | handshake => .call .handshake .enter false
  | ping => .call (.ping 0) .enter false
  | openStream => .call .openStream .enter false
  | acceptStream => .call .acceptStream .enter false
  | closeWithError errorCode reason => .closing (.enter errorCode reason)
  | read stream cap => .call (.read stream cap) .enter false
  | writeAll stream data => .call (.writeAll stream data 0) .enter false
  | pollRead stream cap => .poll (.read stream cap) .enter false
  | pollWrite stream data => .poll (.write stream data) .enter false
  | pollShutdown stream => .poll (.shutdown stream) .enter false

/-- The caller is through with what it started. -/
def Caller.settled {ω : Type} : Caller ω→Bool
  | idle | returned _ | ready _ => true
  | _ => false

/-- The caller can give up: it has not run yet, or is at a point where it awaits
or has returned `Pending`. -/
def Caller.abandonable {ω : Type} : Caller ω→Bool
  | call _ .arm _ | call _ .exitCheck _ => false
  | call _ _ _ => true
  | closing (.enter _ _) | closing .flush => true
  | poll _ .tryLock _ => false
  | poll _ _ _ => true
  | _ => false

/-- The caller holds a reference to the connection. -/
def Caller.borrows {ω : Type} : Caller ω→Bool
  | call (.handshake) _ _ | call (.ping _) _ _ | call .openStream _ _ | call .acceptStream _ _ => true
  | closing _ => true
  | _ => false

/-- Its armed notification fires. -/
def Caller.fire {ω : Type} : Caller ω→Caller ω
  | call c pc _ => .call c pc true
  | caller => caller

/-- Its waker is woken. -/
def Caller.wake {ω : Type} : Caller ω→Caller ω
  | poll c pc _ => .poll c pc true
  | caller => caller

/-- The driver can be cancelled: it has not run yet, or is at a point where it awaits. -/
def DriverPc.awaits {ρ ω : Type} : DriverPc ρ ω→Bool
  | spawned | flush _ | closedCheck | timeout | select | packet _ | expired | keepalive => true
  | _ => false

/-- What happens. -/
inductive Label (ρ ι : Type) where
  /-- The driver takes a step. -/
  | driver (turn : Turn ρ)
  /-- A caller takes a step. -/
  | caller (i : ι) (turn : Turn ρ)
  /-- A caller starts an operation. -/
  | start (i : ι) (op : Op)
  /-- A caller gives up. -/
  | abandon (i : ι)
  /-- An operation that does not wait. -/
  | touch (touch : Touch)
  /-- The connection is dropped: the shutdown flag is set. -/
  | dropConnection
  /-- The driver is aborted. -/
  | abort
  /-- The abort takes effect. -/
  | cancel

section System

variable {σ ρ ω ι : Type} (Q : Quiche σ ρ) (role : QuicRole) (waker : ι→ω)

/-- An operation that does not wait. -/
def touchStep (shared : Shared σ ω) : Touch→Shared σ ω
  | .write stream data => {shared with conn := (Q.streamSend shared.conn stream data false).2}
  | .finish stream => (finishStream Q stream shared).2
  | .shutdown stream =>
    {shared with conn :=
      Q.streamShutdown (Q.streamShutdown shared.conn stream .read) stream .write}
  | .dropped stream =>
    if shared.sentFin stream && shared.recvFin stream then shared
    else {shared with pendingShutdown :=
      shared.pendingShutdown++[(stream,shared.sentFin stream,shared.recvFin stream)]}
  | .flush => {shared with conn := (Q.send shared.conn).2}

/-- `notify_waiters`. -/
def State.notifyWaiters (state : State σ ρ ω ι) : State σ ρ ω ι :=
  {state with callers := fun i => (state.callers i).fire}

variable [DecidableEq ω]

/-- `Waker::wake`. -/
def State.wakeWaker (state : State σ ρ ω ι) (w : ω) : State σ ρ ω ι :=
  {state with callers := fun i => if waker i=w then (state.callers i).wake else state.callers i}

/-- One step of `notify_state_change`; `none` when it is through. -/
def notifyStep (state : State σ ρ ω ι) : NotifyPc ω→Option (NotifyPc ω)×State σ ρ ω ι
  | .waiters => (some .take,state.notifyWaiters)
  | .take => (some (.wake state.shared.pollWakers),
      {state with shared := {state.shared with pollWakers := []}})
  | .wake [] => (none,state)
  | .wake (w::rest) => (some (.wake rest),state.wakeWaker waker w)

/-- The driver's next place after notifying. -/
def AfterNotify.driver {ρ ω : Type} : AfterNotify→DriverPc ρ ω
  | loop => .head
  | exit => .exit
  | finish => .finished

/-- The state with another connection. -/
def State.setConn (state : State σ ρ ω ι) (conn : σ) : State σ ρ ω ι :=
  {state with shared := {state.shared with conn := conn}}

/-- The state with the driver elsewhere. -/
def State.goto (state : State σ ρ ω ι) (driver : DriverPc ρ ω) : State σ ρ ω ι :=
  {state with driver := driver}

/-- One step of `driver_loop`. -/
def driverStep (state : State σ ρ ω ι) (turn : Turn ρ) : Option (State σ ρ ω ι) :=
  match state.driver with
  | .spawned => some (state.goto .head)
  | .head => some (state.goto (if state.shared.shutdown then .exit else .flush false))
  | .flush keepalive =>
    match flushTurn Q state.shared.conn turn.transport with
    | (.more,conn) => some (state.setConn conn)
    | (.ok,conn) => some ((state.setConn conn).goto (if keepalive then .head else .closedCheck))
    | (.failed _,conn) => some ((state.setConn conn).goto .exit)
  | .closedCheck =>
    some (state.goto (if Q.isClosed state.shared.conn then .notify .waiters .exit else .timeout))
  | .timeout => some (state.goto .select)
  | .select =>
    match turn.selected with
    | .packet packet => some (state.goto (.packet packet))
    | .iceError => some (state.goto .exit)
    | .slept => some (state.goto .expired)
    | .ticked => some (state.goto .keepalive)
  | .packet packet =>
    match Q.recv state.shared.conn packet with
    | (.ok (),conn) => some ((state.setConn conn).goto (.notify .waiters .loop))
    | (.error .done,conn) => some ((state.setConn conn).goto (.notify .waiters .loop))
    | (.error _,conn) => some ((state.setConn conn).goto .exit)
  | .expired =>
    some ((state.setConn (Q.onTimeout state.shared.conn)).goto (.notify .waiters .loop))
  | .keepalive =>
    if Q.isEstablished state.shared.conn then
      match Q.sendAckEliciting state.shared.conn with
      | (.ok (),conn) => some ((state.setConn conn).goto (.flush true))
      | (.error _,conn) => some ((state.setConn conn).goto .exit)
    else some (state.goto (.flush true))
  | .notify pc next =>
    match notifyStep waker state pc with
    | (some pc,state) => some (state.goto (.notify pc next))
    | (none,state) => some (state.goto next.driver)
  | .exit =>
    some ({state with shared := {state.shared with driverExited := true}}.goto
      (.notify .waiters .finish))
  | .finished => none
  | .cancelled => none

variable [DecidableEq ι]

/-- The state with one caller moved on. -/
def State.setCaller (state : State σ ρ ω ι) (i : ι) (caller : Caller ω) : State σ ρ ω ι :=
  {state with callers := Function.update state.callers i caller}

/-- The state after a caller's step on what is shared. -/
def State.after (state : State σ ρ ω ι) (i : ι) (result : Shared σ ω×Caller ω) : State σ ρ ω ι :=
  {state with shared := result.1}.setCaller i result.2

/-- `MAX_CLOSE_REASON_LEN`. -/
def maxCloseReasonLen : ℕ := 1024

/-- One step of `close_with_error`. -/
def closeStep (state : State σ ρ ω ι) (i : ι) (turn : Turn ρ) : ClosePc ω→State σ ρ ω ι
  | .enter errorCode reason =>
    if maxErrorCode<errorCode then state.setCaller i (.returned (.error (.invalidErrorCode errorCode)))
    else (state.setConn (Q.close state.shared.conn errorCode
      (truncateReason reason (min reason.length maxCloseReasonLen)))).setCaller i (.closing .flush)
  | .flush =>
    match flushTurn Q state.shared.conn turn.transport with
    | (.more,conn) => state.setConn conn
    | (.ok,conn) => (state.setConn conn).setCaller i (.closing .store)
    | (.failed e,conn) => (state.setConn conn).setCaller i (.returned (.error e))
  | .store =>
    {state with shared := {state.shared with shutdown := true}}.setCaller i
      (.closing (.notify .waiters))
  | .notify pc =>
    match notifyStep waker state pc with
    | (some pc,state) => state.setCaller i (.closing (.notify pc))
    | (none,state) => state.setCaller i (.returned (.ok .unit))

/-- One step of a poll function; a poll that finds the lock taken wakes itself. -/
def pollStep (state : State σ ρ ω ι) (i : ι) (call : PollCall) (woken : Bool) (turn : Turn ρ) :
    PollPc→Option (State σ ρ ω ι)
  | .enter => some (state.after i (pollEnter (waker i) state.shared call))
  | .tryLock =>
    if turn.contended then
      some ((state.setCaller i (.poll call .pending woken)).wakeWaker waker (waker i))
    else (pollCheck Q state.shared woken turn.ready call).map (state.after i)
  | .pending => some (state.setCaller i (.poll call .enter woken))

/-- One step of a caller. -/
def callerStep (state : State σ ρ ω ι) (i : ι) (turn : Turn ρ) : Option (State σ ρ ω ι) :=
  match state.callers i with
  | .call call pc fired => (callStep Q role state.shared call fired turn pc).map (state.after i)
  | .closing pc => some (closeStep Q waker state i turn pc)
  | .poll call pc woken => pollStep Q waker state i call woken turn pc
  | _ => none

/-- The state after something happened, where it can happen. -/
def step (state : State σ ρ ω ι) : Label ρ ι→Option (State σ ρ ω ι)
  | .driver turn => driverStep Q waker state turn
  | .caller i turn => callerStep Q role waker state i turn
  | .start i op =>
    if (state.callers i).settled ∧ ((op.caller : Caller ω).borrows → state.handle=.held) then
      some (state.setCaller i op.caller)
    else none
  | .abandon i =>
    if (state.callers i).abandonable then some (state.setCaller i .idle) else none
  | .touch touch => some {state with shared := touchStep Q state.shared touch}
  | .dropConnection =>
    if state.handle=.held then
      some {state with shared := {state.shared with shutdown := true},handle := .dropping}
    else none
  | .abort => if state.handle=.dropping then some {state with handle := .dropped} else none
  | .cancel =>
    if state.handle=.dropped ∧ state.driver.awaits then some (state.goto .cancelled) else none

/-- One step; a connection is not dropped while a call borrows it. -/
structure Step (before : State σ ρ ω ι) (label : Label ρ ι) (after : State σ ρ ω ι) : Prop where
  /-- What happens can happen. -/
  now : step Q role waker before label=some after
  /-- Nobody holds a reference to a connection that is dropped. -/
  unborrowed : label=.dropConnection → ∀ i,(before.callers i).borrows=false

/-- A new connection: the driver is spawned, nobody has called yet. -/
structure Fresh (state : State σ ρ ω ι) : Prop where
  /-- The driver starts. -/
  driver : state.driver=.spawned
  /-- The connection is held. -/
  handle : state.handle=.held
  /-- Nobody asked it to stop. -/
  shutdown : state.shared.shutdown=false
  /-- It has not exited. -/
  driverExited : state.shared.driverExited=false
  /-- No wakers are registered. -/
  pollWakers : state.shared.pollWakers=[]
  /-- No caller does anything. -/
  callers : ∀ i,state.callers i=.idle

end System

end WispersConnect.QuicConnection
