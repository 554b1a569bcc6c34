import WispersConnect.ListEntries
import WispersConnect.PartialMaps
import WispersConnect.Runs
import Mathlib.Algebra.Group.Nat.Defs
import Mathlib.Data.List.Basic

/-!
# Calls from other languages

The bindings keep a pointer to a box that the library made, and whether it was given back.
A call reads the pointer, takes a slot in the table of pending calls, and hands pointer and
slot to an exported function. That answers at once, or starts a task which reports through
the slot. Between the steps of a call those of others come, on the same handle too.
-/

namespace WispersConnect.ForeignCalls

open ListEntries PartialMaps Runs

/-- What a box holds. -/
inductive Kind where
  /-- `WispersNodeStorageHandle`. -/
  | nodeStorage
  /-- `WispersNodeHandle`. -/
  | node
  /-- `WispersServingHandle`. -/
  | servingHandle
  /-- `WispersServingSession`. -/
  | servingSession
  /-- `WispersIncomingConnections`. -/
  | incomingConnections
  /-- `WispersUdpConnectionHandle`. -/
  | udpConnection
  /-- `WispersQuicConnectionHandle`. -/
  | quicConnection
  /-- `WispersQuicStreamHandle`. -/
  | quicStream
  deriving DecidableEq

/-- The exported functions that are given the pointer of a handle. -/
inductive Exported where
  /-- `wispers_storage_read_registration`. -/
  | storageReadRegistration
  /-- `wispers_storage_override_hub_addr`. -/
  | storageOverrideHubAddr
  /-- `wispers_storage_delete_state`. -/
  | storageDeleteState
  /-- `wispers_storage_restore_or_init_async`. -/
  | storageRestoreOrInit
  /-- `wispers_node_state`. -/
  | nodeState
  /-- `wispers_node_register_async`. -/
  | nodeRegister
  /-- `wispers_node_activate_async`. -/
  | nodeActivate
  /-- `wispers_node_logout_async`. -/
  | nodeLogout
  /-- `wispers_node_revoke_node_async`. -/
  | nodeRevokeNode
  /-- `wispers_node_refresh_membership_async`. -/
  | nodeRefreshMembership
  /-- `wispers_node_group_info_async`. -/
  | nodeGroupInfo
  /-- `wispers_node_start_serving_async`. -/
  | nodeStartServing
  /-- `wispers_node_connect_udp_async`. -/
  | nodeConnectUdp
  /-- `wispers_node_connect_quic_async`. -/
  | nodeConnectQuic
  /-- `generate_activation_code_impl`, behind two exported names. -/
  | servingHandleGenerateActivationCode
  /-- `wispers_serving_handle_status_async`. -/
  | servingHandleStatus
  /-- `wispers_serving_handle_shutdown_async`. -/
  | servingHandleShutdown
  /-- `wispers_serving_session_run_async`. -/
  | servingSessionRun
  /-- `wispers_incoming_accept_udp_async`. -/
  | incomingAcceptUdp
  /-- `wispers_incoming_accept_quic_async`. -/
  | incomingAcceptQuic
  /-- `wispers_udp_connection_send`. -/
  | udpConnectionSend
  /-- `wispers_udp_connection_recv_async`. -/
  | udpConnectionRecv
  /-- `wispers_udp_connection_close`. -/
  | udpConnectionClose
  /-- `wispers_quic_connection_open_stream_async`. -/
  | quicConnectionOpenStream
  /-- `wispers_quic_connection_accept_stream_async`. -/
  | quicConnectionAcceptStream
  /-- `wispers_quic_connection_ping_async`. -/
  | quicConnectionPing
  /-- `wispers_quic_connection_peer_close_info`. -/
  | quicConnectionPeerCloseInfo
  /-- `wispers_quic_connection_close_async`. -/
  | quicConnectionClose
  /-- `wispers_quic_connection_close_with_error_async`. -/
  | quicConnectionCloseWithError
  /-- `wispers_quic_stream_write_async`. -/
  | quicStreamWrite
  /-- `wispers_quic_stream_read_async`. -/
  | quicStreamRead
  /-- `wispers_quic_stream_finish_async`. -/
  | quicStreamFinish
  /-- `wispers_quic_stream_shutdown_async`. -/
  | quicStreamShutdown
  /-- `wispers_storage_free` and its siblings, by what the box holds. -/
  | free (kind : Kind)
  deriving DecidableEq

/-- How a function treats the box it is given. -/
inductive Access where
  /-- It looks into the box before it returns, and copies what its task needs. -/
  | clones
  /-- Its task looks into the box for as long as it runs. -/
  | borrows
  /-- It takes the box over and does away with it before it returns. -/
  | consumes
  /-- It takes the box over, and its task does away with it when it ends. -/
  | keeps
  deriving DecidableEq

/-- What a function refuses, if it is given a handle and a callback. -/
inductive Refusal where
  /-- Nothing. -/
  | never
  /-- Its arguments, before it looks into the box. -/
  | unread
  /-- What it finds in the box. -/
  | read
  deriving DecidableEq

/-- What the box holds that the function is given. -/
def Exported.kind : Exported→Kind
  | storageReadRegistration | storageOverrideHubAddr | storageDeleteState
  | storageRestoreOrInit => .nodeStorage
  | nodeState | nodeRegister | nodeActivate | nodeLogout | nodeRevokeNode
  | nodeRefreshMembership | nodeGroupInfo | nodeStartServing | nodeConnectUdp
  | nodeConnectQuic => .node
  | servingHandleGenerateActivationCode | servingHandleStatus
  | servingHandleShutdown => .servingHandle
  | servingSessionRun => .servingSession
  | incomingAcceptUdp | incomingAcceptQuic => .incomingConnections
  | udpConnectionSend | udpConnectionRecv | udpConnectionClose => .udpConnection
  | quicConnectionOpenStream | quicConnectionAcceptStream | quicConnectionPing
  | quicConnectionPeerCloseInfo | quicConnectionClose
  | quicConnectionCloseWithError => .quicConnection
  | quicStreamWrite | quicStreamRead | quicStreamFinish | quicStreamShutdown => .quicStream
  | free kind => kind

/-- The function returns once it is done, and takes no callback. -/
def Exported.synchronous : Exported→Bool
  | storageReadRegistration | storageOverrideHubAddr | storageDeleteState | nodeState
  | udpConnectionSend | udpConnectionClose | quicConnectionPeerCloseInfo | free _ => true
  | _ => false

/-- How the function treats the box. -/
def Exported.access : Exported→Access
  | udpConnectionRecv | quicConnectionOpenStream | quicConnectionAcceptStream
  | quicConnectionPing | quicStreamWrite | quicStreamRead | quicStreamFinish
  | quicStreamShutdown => .borrows
  | servingSessionRun | udpConnectionClose | quicConnectionClose
  | quicConnectionCloseWithError | free _ => .consumes
  | nodeLogout => .keeps
  | _ => .clones

/-- What the function refuses. -/
def Exported.refusal : Exported→Refusal
  | storageOverrideHubAddr | nodeRegister | nodeActivate | udpConnectionSend
  | quicConnectionCloseWithError | quicStreamWrite => .unread
  | nodeStartServing => .read
  | _ => .never

/-- What the boxes hold that come with a success. -/
def Exported.makes : Exported→List Kind
  | storageRestoreOrInit => [.node]
  | nodeStartServing => [.servingHandle,.servingSession,.incomingConnections]
  | nodeConnectUdp | incomingAcceptUdp => [.udpConnection]
  | nodeConnectQuic | incomingAcceptQuic => [.quicConnection]
  | quicConnectionOpenStream | quicConnectionAcceptStream => [.quicStream]
  | _ => []

/-- The function takes the box over. -/
def Exported.takesOver (function : Exported) : Bool :=
  function.access=.consumes || function.access=.keeps

/-- The function returns once it is done, and looks into the box until then: it may wait for the
lock of the node there, or call the program's storage. -/
def Exported.lingers (function : Exported) : Bool :=
  function.synchronous && function.access=.clones

/-- What a callback is given: a status with its data, and pointers to new boxes. -/
structure Answer (ρ : Type) where
  /-- The status and the data. -/
  payload : ρ
  /-- The pointers. -/
  boxes : List ℕ
  deriving DecidableEq

/-- What a call returns. -/
inductive Returned (ρ : Type) where
  /-- That its handle was given back before. -/
  | closed
  /-- The status of a refusal. -/
  | refused
  /-- What a synchronous function returns. -/
  | done
  /-- What the callback was given. -/
  | answered (answer : Answer ρ)
  /-- Nothing: it was cancelled. -/
  | cancelled
  deriving DecidableEq

/-- How far a call is. -/
inductive Phase (ρ : Type) where
  /-- It has the pointer, or is in a function that returns once it is done. -/
  | checked
  /-- It has a slot. -/
  | registered
  /-- The function has refused it. -/
  | refused
  /-- It waits for what comes through its slot. -/
  | waiting
  /-- It has returned. -/
  | returned (result : Returned ρ)
  deriving DecidableEq

/-- How far the task of a call is. -/
inductive Task (ρ : Type) where
  /-- There is none. -/
  | unspawned
  /-- It runs. -/
  | running
  /-- It has ended with an answer. -/
  | ended (answer : Answer ρ)
  deriving DecidableEq

/-- A call of an exported function. -/
structure Call (ρ : Type) where
  /-- The function. -/
  function : Exported
  /-- The handle it is made on. -/
  handle : ℕ
  /-- The pointer in it. -/
  pointer : ℕ
  /-- The number of its slot, from one on; zero while it has none. -/
  id : ℕ
  /-- How far it is. -/
  phase : Phase ρ
  /-- How far its task is. -/
  task : Task ρ
  /-- What has come through its slot. -/
  slot : Option (Answer ρ)
  deriving DecidableEq

/-- A handle of the bindings: `handle`, `Handle` or `WispersHandle`. -/
structure Handle where
  /-- Its class says what its box holds. -/
  kind : Kind
  /-- The pointer. -/
  pointer : ℕ
  /-- It was given back. -/
  closed : Bool
  deriving DecidableEq

/-- A box that the library made. -/
structure Box where
  /-- What it holds. -/
  kind : Kind
  /-- It was not done away with. -/
  live : Bool
  deriving DecidableEq

/-- The library's boxes and what the bindings know. -/
structure Bridge (ρ : Type) where
  /-- The boxes, by pointer. -/
  boxes : List Box
  /-- The handles. -/
  handles : List Handle
  /-- The calls. -/
  calls : List (Call ρ)
  /-- `nextID`. -/
  nextId : ℕ
  /-- `pending`: the call that a slot is of. -/
  pending : ℕ→Option ℕ

/-- What happens. -/
inductive Event (ρ : Type) where
  /-- `wispers_storage_new_in_memory` or `wispers_storage_new_with_callbacks`. -/
  | storageNew
  /-- `requireOpen` or `consume`: a call begins on a handle. -/
  | start (handle : ℕ) (function : Exported)
  /-- `newPendingCall`, `register` or `_new_pending`. -/
  | register (call : ℕ)
  /-- The function is called, and accepts or refuses; one that takes no callback returns. -/
  | enter (call : ℕ) (accepts : Bool)
  /-- The task of a call goes on, or a function that returns once it is done does. -/
  | run (call : ℕ)
  /-- The task of a call ends: the callback is called. -/
  | complete (call : ℕ) (payload : ρ) (success : Bool)
  /-- A call goes on after a refusal or with its answer, and returns. -/
  | finish (call : ℕ)
  /-- A call that waits is cancelled. -/
  | cancel (call : ℕ)
  deriving DecidableEq

section Steps

variable {ρ : Type}

/-- Nothing was made yet. -/
def Bridge.initial : Bridge ρ := ⟨[],[],[],0,fun _ => none⟩

/-- A call as it begins. -/
def Handle.begin (handle : Handle) (number : ℕ) (function : Exported) : Call ρ :=
  ⟨function,number,handle.pointer,0,if handle.closed then .returned .closed else .checked,
    .unspawned,none⟩

/-- A box is done away with. -/
def Bridge.release (bridge : Bridge ρ) (pointer : ℕ) : Bridge ρ :=
  {bridge with boxes := bridge.boxes.modify pointer fun box => {box with live := false}}

/-- A box is done away with in some cases. -/
def Bridge.releaseIf (bridge : Bridge ρ) (applies : Bool) (pointer : ℕ) : Bridge ρ :=
  if applies then bridge.release pointer else bridge

/-- Boxes are made. -/
def Bridge.allocate (bridge : Bridge ρ) (kinds : List Kind) : Bridge ρ :=
  {bridge with boxes := bridge.boxes++kinds.map (Box.mk · true)}

/-- What is known of a call changes. -/
def Bridge.setCall (bridge : Bridge ρ) (number : ℕ) (call : Call ρ) : Bridge ρ :=
  {bridge with calls := bridge.calls.set number call}

/-- The number that comes after one in a counter of 64 bits. -/
def addId (id : ℕ) : ℕ := (id+1)%2^64

/-- `ctx`: the number of a slot as one of so many pointers. -/
def contextOf (pointers id : ℕ) : ℕ := id%pointers

/-- `resolvePendingCall`, `resumeSuccess`, `resume` or `_resolve`: whoever is in the slot gets
the answer and leaves it. -/
def Bridge.resolve (bridge : Bridge ρ) (context : ℕ) (answer : Answer ρ) : Bridge ρ :=
  match bridge.pending context with
  | none => bridge
  | some number => {bridge with
      calls := bridge.calls.modify number fun call => {call with slot := some answer}
      pending := Function.update bridge.pending context none}

/-- The pointers to so many new boxes. -/
def Bridge.newBoxes (bridge : Bridge ρ) (kinds : List Kind) : List ℕ :=
  List.range' bridge.boxes.length kinds.length

/-- A step, if it is possible where a pointer has one of so many values. -/
def Bridge.step (pointers : ℕ) (bridge : Bridge ρ) : Event ρ→Option (Bridge ρ)
  | .storageNew => some {bridge.allocate [.nodeStorage] with
      handles := bridge.handles++[⟨.nodeStorage,bridge.boxes.length,false⟩]}
  | .start number function => do
    let handle ← bridge.handles[number]?
    if handle.kind=function.kind then
      some {bridge with
        handles := if function.takesOver then bridge.handles.set number {handle with closed := true}
          else bridge.handles
        calls := bridge.calls++[handle.begin number function]}
    else none
  | .register number => do
    let call ← bridge.calls[number]?
    match call.phase,call.function.synchronous with
    | .checked,false =>
      let id := addId bridge.nextId
      some {bridge.setCall number {call with id := id, phase := .registered} with
        nextId := id
        pending := Function.update bridge.pending id (some number)}
    | _,_ => none
  | .enter number accepts => do
    let call ← bridge.calls[number]?
    match call.phase,call.function.synchronous,accepts with
    | .checked,true,true =>
      some ((bridge.releaseIf (call.function.access=.consumes) call.pointer).setCall number
        {call with phase := .returned .done})
    | .checked,true,false =>
      if call.function.refusal=.never then none
      else some (bridge.setCall number {call with phase := .returned .refused})
    | .registered,false,true =>
      some ((bridge.releaseIf (call.function.access=.consumes) call.pointer).setCall number
        {call with phase := .waiting, task := .running})
    | .registered,false,false =>
      if call.function.refusal=.never then none
      else some (bridge.setCall number {call with phase := .refused})
    | _,_,_ => none
  | .run number => do
    let call ← bridge.calls[number]?
    match call.task,call.phase,call.function.lingers with
    | .running,_,_ => some bridge
    | _,.checked,true => some bridge
    | _,_,_ => none
  | .complete number payload success => do
    let call ← bridge.calls[number]?
    match call.task with
    | .running =>
      let kinds := if success then call.function.makes else []
      let answer : Answer ρ := ⟨payload,bridge.newBoxes kinds⟩
      let released := bridge.releaseIf (call.function.access=.keeps) call.pointer
      some (((released.allocate kinds).setCall number {call with task := .ended answer}).resolve
        (contextOf pointers call.id) answer)
    | _ => none
  | .finish number => do
    let call ← bridge.calls[number]?
    let left := Function.update bridge.pending call.id none
    match call.phase,call.slot with
    | .refused,_ =>
      some {(bridge.releaseIf call.function.takesOver call.pointer).setCall number
        {call with phase := .returned .refused} with pending := left}
    | .waiting,some answer =>
      some {bridge.setCall number {call with phase := .returned (.answered answer)} with
        handles := bridge.handles++
          List.zipWith (fun kind pointer => ⟨kind,pointer,false⟩) call.function.makes answer.boxes
        pending := left}
    | _,_ => none
  | .cancel number => do
    let call ← bridge.calls[number]?
    match call.phase with
    | .waiting =>
      some {bridge.setCall number {call with phase := .returned .cancelled} with
        pending := Function.update bridge.pending call.id none}
    | _ => none

/-- The languages that have bindings. -/
inductive Binding where
  /-- Go. -/
  | go
  /-- Swift. -/
  | swift
  /-- Kotlin. -/
  | kotlin
  /-- Python. -/
  | python
  deriving DecidableEq

/-- Whether the calls on handles of a kind check that theirs was not given back, and note in the
same step that it is when they give it back. `ServingSession` of Kotlin does not for the session,
and that of Python neither for the session nor for the serving handle. -/
def Binding.guards : Binding→Kind→Bool
  | .kotlin,.servingSession => false
  | .python,.servingSession => false
  | .python,.servingHandle => false
  | _,_ => true

/-- What happens in a binding. -/
inductive BindingEvent (ρ : Type) where
  /-- What happens where such a check is one step. -/
  | own (event : Event ρ)
  /-- A call begins on a handle which was given back before: its check came too early, or does not
  see it. -/
  | slip (handle : ℕ) (function : Exported)

/-- A call goes on with the pointer of a handle that was given back. -/
def Bridge.slip (binding : Binding) (bridge : Bridge ρ) (number : ℕ) (function : Exported) :
    Option (Bridge ρ) := do
  let handle ← bridge.handles[number]?
  if handle.kind=function.kind ∧ handle.closed=true ∧ binding.guards function.kind=false then
    some {bridge with
      calls := bridge.calls++[{handle.begin number function with phase := .checked}]}
  else none

/-- A step in a binding. -/
def Bridge.bindingStep (binding : Binding) (pointers : ℕ) (bridge : Bridge ρ) :
    BindingEvent ρ→Option (Bridge ρ)
  | .own event => bridge.step pointers event
  | .slip handle function => bridge.slip binding handle function

/-- The pointer that the library goes through in a step, and what it expects there. -/
def Bridge.reads (bridge : Bridge ρ) : Event ρ→Option (ℕ×Kind)
  | .enter number accepts => do
    let call ← bridge.calls[number]?
    if accepts && call.function.access=.clones || !accepts && call.function.refusal=.read then
      some (call.pointer,call.function.kind)
    else none
  | .run number => do
    let call ← bridge.calls[number]?
    match call.task with
    | .running =>
      if call.function.access=.borrows || call.function.access=.keeps then
        some (call.pointer,call.function.kind)
      else none
    | _ => some (call.pointer,call.function.kind)
  | .complete number _ _ => do
    let call ← bridge.calls[number]?
    if call.function.access=.borrows then some (call.pointer,call.function.kind) else none
  | _ => none

/-- The pointer whose box is done away with in a step, and what is expected in it. -/
def Bridge.releases (bridge : Bridge ρ) : Event ρ→Option (ℕ×Kind)
  | .enter number accepts => do
    let call ← bridge.calls[number]?
    if accepts && call.function.access=.consumes then some (call.pointer,call.function.kind)
    else none
  | .complete number _ _ => do
    let call ← bridge.calls[number]?
    if call.function.access=.keeps then some (call.pointer,call.function.kind) else none
  | .finish number => do
    let call ← bridge.calls[number]?
    match call.phase with
    | .refused => if call.function.takesOver then some (call.pointer,call.function.kind) else none
    | _ => none
  | _ => none

/-- The counter does not overflow before it has counted so far. -/
theorem addId_eq {id : ℕ} (h : id+1<2^64) : addId id=id+1 := Nat.mod_eq_of_lt h

@[simp] theorem releaseIf_calls {bridge : Bridge ρ} {applies : Bool} {pointer : ℕ} :
    (bridge.releaseIf applies pointer).calls=bridge.calls := by
  cases applies <;> rfl

@[simp] theorem releaseIf_handles {bridge : Bridge ρ} {applies : Bool} {pointer : ℕ} :
    (bridge.releaseIf applies pointer).handles=bridge.handles := by
  cases applies <;> rfl

@[simp] theorem releaseIf_nextId {bridge : Bridge ρ} {applies : Bool} {pointer : ℕ} :
    (bridge.releaseIf applies pointer).nextId=bridge.nextId := by
  cases applies <;> rfl

@[simp] theorem releaseIf_pending {bridge : Bridge ρ} {applies : Bool} {pointer : ℕ} :
    (bridge.releaseIf applies pointer).pending=bridge.pending := by
  cases applies <;> rfl

/-- A call changes as a box is done away with. -/
theorem releaseIf_setCall_calls {bridge : Bridge ρ} {applies : Bool} {pointer number : ℕ}
    {call : Call ρ} : ((bridge.releaseIf applies pointer).setCall number call).calls=
      bridge.calls.set number call := by
  rw [Bridge.setCall,releaseIf_calls]

/-- The runs of the calls, where a pointer has one of so many values. -/
abbrev BridgeRun (pointers : ℕ) : List (Event ρ)→Bridge ρ→Prop :=
  Run (fun _ before event after => before.step pointers event=some after) .initial

/-- What a step can do. -/
inductive BridgeMove (pointers : ℕ) (bridge : Bridge ρ) : Event ρ→Bridge ρ→Prop where
  /-- A storage is made. -/
  | storageNew : BridgeMove pointers bridge .storageNew {bridge.allocate [.nodeStorage] with
      handles := bridge.handles++[⟨.nodeStorage,bridge.boxes.length,false⟩]}
  /-- A call begins. -/
  | start {number : ℕ} {function : Exported} {handle : Handle}
      (hhandle : bridge.handles[number]?=some handle) (hkind : handle.kind=function.kind) :
      BridgeMove pointers bridge (.start number function) {bridge with
        handles := if function.takesOver then bridge.handles.set number {handle with closed := true}
          else bridge.handles
        calls := bridge.calls++[handle.begin number function]}
  /-- A call gets a slot. -/
  | register {number : ℕ} {call : Call ρ} (hcall : bridge.calls[number]?=some call)
      (hphase : call.phase=.checked) (hkind : call.function.synchronous=false) :
      BridgeMove pointers bridge (.register number)
        {bridge.setCall number {call with id := addId bridge.nextId, phase := .registered} with
          nextId := addId bridge.nextId
          pending := Function.update bridge.pending (addId bridge.nextId) (some number)}
  /-- A synchronous function does what it is called for. -/
  | done {number : ℕ} {call : Call ρ} (hcall : bridge.calls[number]?=some call)
      (hphase : call.phase=.checked) (hkind : call.function.synchronous=true) :
      BridgeMove pointers bridge (.enter number true)
        ((bridge.releaseIf (call.function.access=.consumes) call.pointer).setCall number
          {call with phase := .returned .done})
  /-- A synchronous function refuses. -/
  | refusedNow {number : ℕ} {call : Call ρ} (hcall : bridge.calls[number]?=some call)
      (hphase : call.phase=.checked) (hkind : call.function.synchronous=true)
      (hrefusal : call.function.refusal≠.never) : BridgeMove pointers bridge (.enter number false)
        (bridge.setCall number {call with phase := .returned .refused})
  /-- A task is started. -/
  | spawned {number : ℕ} {call : Call ρ} (hcall : bridge.calls[number]?=some call)
      (hphase : call.phase=.registered) (hkind : call.function.synchronous=false) :
      BridgeMove pointers bridge (.enter number true)
        ((bridge.releaseIf (call.function.access=.consumes) call.pointer).setCall number
          {call with phase := .waiting, task := .running})
  /-- A function refuses to start a task. -/
  | refused {number : ℕ} {call : Call ρ} (hcall : bridge.calls[number]?=some call)
      (hphase : call.phase=.registered) (hkind : call.function.synchronous=false)
      (hrefusal : call.function.refusal≠.never) : BridgeMove pointers bridge (.enter number false)
        (bridge.setCall number {call with phase := .refused})
  /-- A task goes on, or a function that returns once it is done. -/
  | run {number : ℕ} {call : Call ρ} (hcall : bridge.calls[number]?=some call)
      (hruns : call.task=.running ∨ call.phase=.checked ∧ call.function.lingers=true) :
      BridgeMove pointers bridge (.run number) bridge
  /-- A task ends. -/
  | complete {number : ℕ} {call : Call ρ} {payload : ρ} {success : Bool} {kinds : List Kind}
      {answer : Answer ρ} (hcall : bridge.calls[number]?=some call) (htask : call.task=.running)
      (hkinds : kinds=if success then call.function.makes else [])
      (hanswer : answer=⟨payload,bridge.newBoxes kinds⟩) :
      BridgeMove pointers bridge (.complete number payload success)
        ((((bridge.releaseIf (call.function.access=.keeps) call.pointer).allocate kinds).setCall
          number {call with task := .ended answer}).resolve (contextOf pointers call.id) answer)
  /-- A call returns its refusal, and the box with it that it took over. -/
  | finishRefused {number : ℕ} {call : Call ρ} (hcall : bridge.calls[number]?=some call)
      (hphase : call.phase=.refused) : BridgeMove pointers bridge (.finish number)
        {(bridge.releaseIf call.function.takesOver call.pointer).setCall number
          {call with phase := .returned .refused} with
          pending := Function.update bridge.pending call.id none}
  /-- A call returns its answer. -/
  | finishAnswered {number : ℕ} {call : Call ρ} {answer : Answer ρ}
      (hcall : bridge.calls[number]?=some call) (hphase : call.phase=.waiting)
      (hslot : call.slot=some answer) : BridgeMove pointers bridge (.finish number)
        {bridge.setCall number {call with phase := .returned (.answered answer)} with
          handles := bridge.handles++List.zipWith (fun kind pointer => ⟨kind,pointer,false⟩)
            call.function.makes answer.boxes
          pending := Function.update bridge.pending call.id none}
  /-- A call is cancelled. -/
  | cancel {number : ℕ} {call : Call ρ} (hcall : bridge.calls[number]?=some call)
      (hphase : call.phase=.waiting) : BridgeMove pointers bridge (.cancel number)
        {bridge.setCall number {call with phase := .returned .cancelled} with
          pending := Function.update bridge.pending call.id none}

/-- Every step is one of these. -/
theorem step_move {pointers : ℕ} {bridge after : Bridge ρ} {event : Event ρ}
    (h : bridge.step pointers event=some after) : BridgeMove pointers bridge event after := by
  cases event with
  | storageNew =>
    obtain rfl := Option.some.inj h
    exact .storageNew
  | start number function =>
    obtain ⟨handle,hhandle,h⟩ := Option.bind_eq_some_iff.mp h
    split at h
    next hkind =>
      obtain rfl := Option.some.inj h
      exact .start hhandle hkind
    next => cases h
  | register number =>
    obtain ⟨call,hcall,h⟩ := Option.bind_eq_some_iff.mp h
    split at h
    next hphase hkind =>
      obtain rfl := Option.some.inj h
      exact .register hcall hphase hkind
    next => cases h
  | enter number accepts =>
    obtain ⟨call,hcall,h⟩ := Option.bind_eq_some_iff.mp h
    split at h
    next hphase hkind _ =>
      obtain rfl := Option.some.inj h
      exact .done hcall hphase hkind
    next hphase hkind _ =>
      split at h
      next => cases h
      next hrefusal =>
        obtain rfl := Option.some.inj h
        exact .refusedNow hcall hphase hkind hrefusal
    next hphase hkind _ =>
      obtain rfl := Option.some.inj h
      exact .spawned hcall hphase hkind
    next hphase hkind _ =>
      split at h
      next => cases h
      next hrefusal =>
        obtain rfl := Option.some.inj h
        exact .refused hcall hphase hkind hrefusal
    next => cases h
  | run number =>
    obtain ⟨call,hcall,h⟩ := Option.bind_eq_some_iff.mp h
    split at h
    next htask =>
      obtain rfl := Option.some.inj h
      exact .run hcall (.inl htask)
    next hphase hlingers _ =>
      obtain rfl := Option.some.inj h
      exact .run hcall (.inr ⟨hphase,hlingers⟩)
    next => cases h
  | complete number payload success =>
    obtain ⟨call,hcall,h⟩ := Option.bind_eq_some_iff.mp h
    split at h
    next htask =>
      obtain rfl := Option.some.inj h
      exact .complete hcall htask rfl rfl
    next => cases h
  | finish number =>
    obtain ⟨call,hcall,h⟩ := Option.bind_eq_some_iff.mp h
    dsimp only at h
    split at h
    next hphase =>
      obtain rfl := Option.some.inj h
      exact .finishRefused hcall hphase
    next hphase hslot =>
      obtain rfl := Option.some.inj h
      exact .finishAnswered hcall hphase hslot
    next => cases h
  | cancel number =>
    obtain ⟨call,hcall,h⟩ := Option.bind_eq_some_iff.mp h
    split at h
    next hphase =>
      obtain rfl := Option.some.inj h
      exact .cancel hcall hphase
    next => cases h

end Steps

end WispersConnect.ForeignCalls
