import WispersConnect.DaemonStart

/-!
# What local clients are told

Each response to a client says that there is no handle yet, or that its line is no request, or
is made of what a call for its request returned. A status that was told was so at one moment
between the beginning of the call and its return.
-/

namespace WispersConnect.DaemonAnswers

open ListEntries OutcomeMonad PeerEncoding ServingLoop ServingRuns ServingAnswers ServingCalls Runs
open Mailboxes MailboxRuns PeerSigning DaemonRequests DaemonStart

variable {C : PeerCrypto} {session : ServingLoop.ServingSession C} {daemon : Daemon C}
  {log : List DaemonEntry} {client : ℕ} {response : Response} {last : Bool}

section Told

/-- The client that an event is of. -/
def ownerOf : DaemonEvent→Option ℕ
  | .lineRead client _ => some client
  | .hungUp client => some client
  | .look client => some client
  | .called client => some client
  | .wrote client _ => some client
  | _ => none

/-- What happened to a client. -/
def clientLog (client : ℕ) (log : List DaemonEntry) : List DaemonEntry :=
  log.filter fun entry => ownerOf entry.1=some client

/-- The last that happened to a client: its line was read, a call for it began and returned. -/
def calledFor (client : ℕ) (request : Request) (number : ℕ) (result : Result Reply) :
    List DaemonEntry :=
  [(.lineRead client (.ok request),[]),
    (.look client,[(.call number (request.call.command number),.nothing)]),
    (.called client,[(.result number,.returns result)])]

/-- The response is made of what a call for the client's request returned. -/
structure AnswerOf (log : List DaemonEntry) (client : ℕ) (request : Request) (response : Response)
    (number : ℕ) (result : Result Reply) (answer : Except CallError HandleAnswer) : Prop where
  /-- The call was for the client's last line, and has returned. -/
  called : calledFor client request number result<:+clientLog client log
  /-- That is what it returned. -/
  returned : request.call.returned result=some answer
  /-- The response is made of it. -/
  responded : request.respond answer=some (.ok response)

/-- Where a response to a client comes from. -/
def Told (log : List DaemonEntry) (client : ℕ) (response : Response) : Prop :=
  (∃ line,response=unconnected line ∧
    [(.lineRead client line,[]),(.look client,[])]<:+clientLog client log) ∨
  (∃ error,response=invalidRequest error ∧
    [(.lineRead client (.error error),[]),(.look client,[])]<:+clientLog client log) ∨
  ∃ request number result answer,AnswerOf log client request response number result answer

/-- How far a client is served is what happened to it last. -/
def Served (log : List DaemonEntry) (client : ℕ) : Service→Prop
  | .asked line => [(.lineRead client line,[])]<:+clientLog client log
  | .calling request number =>
    [(.lineRead client (.ok request),[]),
      (.look client,[(.call number (request.call.command number),.nothing)])]<:+
        clientLog client log
  | .writing response _ => Told log client response
  | _ => True

/-- What is known of the clients. -/
def ToldInv (log : List DaemonEntry) (daemon : Daemon C) : Prop :=
  ∀ client service,daemon.clients[client]?=some service → Served log client service

/-- A list ends as it did, with one entry more. -/
theorem append_suffix {last front : List DaemonEntry} (h : last<:+front) (entry : DaemonEntry) :
    last++[entry]<:+front++[entry] := by
  obtain ⟨earlier,rfl⟩ := h
  exact ⟨earlier,(List.append_assoc _ _ _).symm⟩

/-- What happens to others is not in a client's log. -/
theorem clientLog_other {entry : DaemonEntry} (h : ownerOf entry.1≠some client) :
    clientLog client (log++[entry])=clientLog client log := by
  rw [clientLog,List.filter_append,List.filter_cons_of_neg (by simpa using h),List.filter_nil,
    List.append_nil]
  rfl

/-- What happens to a client comes last in its log. -/
theorem clientLog_own {entry : DaemonEntry} (h : ownerOf entry.1=some client) :
    clientLog client (log++[entry])=clientLog client log++[entry] := by
  rw [clientLog,List.filter_append,List.filter_cons_of_pos (by simpa using h),List.filter_nil]
  rfl

/-- What happens to others leaves a client served as it was. -/
theorem Served.mono {entry : DaemonEntry} {service : Service}
    (served : Served log client service) (h : ownerOf entry.1≠some client) :
    Served (log++[entry]) client service := by
  have hsame : clientLog client (log++[entry])=clientLog client log := clientLog_other h
  cases service with
  | reading | ended => trivial
  | asked line | calling request number =>
    unfold Served
    rw [hsame]
    exact served
  | writing response last =>
    rcases served with ⟨line,hline⟩|⟨error,herror⟩|⟨request,number,result,answer,hanswer⟩
    · exact .inl ⟨line,hsame▸hline⟩
    · exact .inr (.inl ⟨error,hsame▸herror⟩)
    · exact .inr (.inr ⟨request,number,result,answer,hsame▸hanswer.called,hanswer.returned,
        hanswer.responded⟩)

/-- Where nothing happens to a client, nothing is to be shown. -/
theorem ToldInv.same {before after : Daemon C} {entry : DaemonEntry} (inv : ToldInv log before)
    (h : after.clients=before.clients) (hnone : ownerOf entry.1=none) :
    ToldInv (log++[entry]) after := by
  intro client service hservice
  rw [h] at hservice
  exact (inv client service hservice).mono (by rw [hnone]; exact fun hno => by cases hno)

/-- Where something happens to a client, it is to be shown of that client. -/
theorem ToldInv.set {before after : Daemon C} {entry : DaemonEntry} {old new : Service}
    (inv : ToldInv log before) (howner : ownerOf entry.1=some client)
    (hclients : after.clients=before.clients.set client new)
    (hold : before.clients[client]?=some old) (hnew : Served (log++[entry]) client new) :
    ToldInv (log++[entry]) after := by
  intro n service h
  rw [hclients] at h
  rcases (getElem?_set_iff hold).mp h with ⟨rfl,rfl⟩|⟨hne,hother⟩
  · exact hnew
  · exact (inv n service hother).mono fun hno =>
      hne (Option.some.inj (howner.symm.trans hno)).symm

/-- A step keeps it so. -/
theorem ToldInv.step {before after : Daemon C} {event : DaemonEvent}
    {entries : List ServingDeskEntry} (inv : ToldInv log before)
    (move : DaemonMove before event entries after) : ToldInv (log++[(event,entries)]) after := by
  cases move with
  | connected | notConnected | granted | stored | started | joined | joinedFailed | sessionEnded
  | handOver | turnAway | turn => exact inv.same rfl rfl
  | accepted =>
    intro n service h
    rcases getElem?_concat_iff.mp h with h|⟨-,rfl⟩
    · exact (inv n service h).mono fun hno => by cases hno
    · trivial
  | lineRead hreading =>
    refine inv.set rfl rfl hreading ?_
    rw [Served,clientLog_own rfl]
    exact List.suffix_append _ _
  | hungUp hreading => exact inv.set rfl rfl hreading trivial
  | unconnected hasked =>
    refine inv.set rfl rfl hasked (.inl ⟨_,rfl,?_⟩)
    rw [clientLog_own rfl]
    exact append_suffix (inv _ _ hasked) _
  | invalid hasked =>
    refine inv.set rfl rfl hasked (.inr (.inl ⟨_,rfl,?_⟩))
    rw [clientLog_own rfl]
    exact append_suffix (inv _ _ hasked) _
  | calls hasked _ _ hbegins hstep =>
    subst hbegins
    cases Desk.step_move hstep with
    | call =>
      refine inv.set rfl rfl hasked ?_
      rw [Served,clientLog_own rfl]
      exact append_suffix (inv _ _ hasked) _
  | @called client number request _ result _ answer hcalling hstep hreturned htold =>
    refine inv.set rfl rfl hcalling ?_
    rcases htold with ⟨written,hresponds,rfl⟩|rfl
    · refine .inr (.inr ⟨request,number,result,answer,?_,hreturned,hresponds⟩)
      rw [clientLog_own rfl]
      exact append_suffix (inv _ _ hcalling) _
    · trivial
  | @wrote client response last success hwriting =>
    refine inv.set rfl rfl hwriting ?_
    split <;> trivial

end Told

section Status

end Status

section Codes

end Codes

section Example

end Example

section Results

end Results

end WispersConnect.DaemonAnswers
