import WispersConnect.DaemonBetween

/-!
# How the session is started

The handle is there before the session runs. A client whose request comes in between waits
for an answer of the session, under the lock that the main loop waits for in order to start
it. What was asked for by those who come to the handle in between decides whether the session
can ever be started.
-/

namespace WispersConnect.DaemonStart

open ListEntries PeerSigning ServingLoop ServingCalls Runs Mailboxes MailboxRuns ReadWriteLocks
open PeerEncoding ServingRuns DaemonRequests DaemonLine DaemonBetween

variable {C : PeerCrypto} {session : ServingLoop.ServingSession C}
  {daemon before after : Daemon C} {event : DaemonEvent} {entries : List ServingDeskEntry}
  {log : List DaemonEntry} {client n : ℕ} {service service' : Service}

section Progress

/-- What is left to be done for a party in line. -/
def cost (clients : List Service) : Party→ℕ
  | .client n =>
    match clients[n]? with
    | some (.asked _) => 3
    | some (.calling _ _) => 1
    | _ => 0
  | _ => 1

/-- What is left to be done until the session is started, if nothing comes in between. -/
def work (daemon : Daemon C) : ℕ :=
  (if daemon.connectTask=.connecting then 3 else 0)+
  (if daemon.mainLoop=.selecting then 3 else 0)+
  (daemon.lock.line.map (cost daemon.clients)).sum+daemon.lock.queue.length+
  daemon.desk.waiting.length

/-- The session was not started, and nothing is in the way. -/
structure Ready (daemon : Daemon C) : Prop where
  /-- `serve` has not returned. -/
  serving : daemon.mainLoop≠.returned
  /-- The session was not started. -/
  unspawned : daemon.sessionSpawned=false
  /-- The hub could be connected, or may be. -/
  connects : daemon.connectTask≠.failed
  /-- Nothing is in the way. -/
  clear : Clear daemon

/-- There is always one handle. -/
theorem run_handles (run : DaemonRun session log daemon) : daemon.desk.handles=1 := by
  induction run with
  | start => rfl
  | @next log before after entry earlier now ih =>
    obtain ⟨event,entries⟩ := entry
    cases (step_move now).2 with
    | calls _ _ _ hbegins hstep =>
      subst hbegins
      cases Desk.step_move hstep with
      | call => exact ih
    | handOver hstep =>
      cases Desk.step_move hstep with
      | handOver => exact ih
    | called _ hstep =>
      cases Desk.step_move hstep with
      | result => exact ih
    | turnAway _ hstep =>
      cases Desk.step_move hstep with
      | turnAway => exact ih
    | turn _ hstep => cases Desk.step_move hstep <;> exact ih
    | _ => exact ih

/-- A call can begin. -/
theorem call_possible (hhandles : daemon.desk.handles=1) (request : Request) :
    ∃ desk,daemon.desk.step (servingActor C) commandCapacity
      (.call daemon.desk.calls.length (request.call.command daemon.desk.calls.length))=
      some (desk,.nothing) ∧ desk.waiting.length=daemon.desk.waiting.length+1 := by
  have hown : (servingActor C).address (request.call.command daemon.desk.calls.length)=none ∨
      (servingActor C).address (request.call.command daemon.desk.calls.length)=
        some daemon.desk.calls.length := by
    cases request with
    | status => exact .inr rfl
    | getActivationCode ttlProfile => exact .inr rfl
    | shutdown => exact .inl rfl
  have hpossible : 0<daemon.desk.handles ∧ daemon.desk.calls.length=daemon.desk.calls.length ∧
      ((servingActor C).address (request.call.command daemon.desk.calls.length)=none ∨
      (servingActor C).address (request.call.command daemon.desk.calls.length)=
        some daemon.desk.calls.length) := ⟨hhandles ▸ Nat.one_pos,rfl,hown⟩
  refine ⟨{daemon.desk with
    waiting := daemon.desk.waiting++
      [(daemon.desk.calls.length,request.call.command daemon.desk.calls.length)]
    calls := daemon.desk.calls++[.sending]},?_,List.length_append⟩
  have hcall : daemon.desk.call (servingActor C) daemon.desk.calls.length
      (request.call.command daemon.desk.calls.length)=some {daemon.desk with
        waiting := daemon.desk.waiting++
          [(daemon.desk.calls.length,request.call.command daemon.desk.calls.length)]
        calls := daemon.desk.calls++[.sending]} := if_pos hpossible
  simp only [Desk.step,hcall]
  rfl

/-- What is left to be done for those who stay in line does not change with another client. -/
theorem cost_set {rest : List Party} {clients : List Service} (h : .client client∉rest) :
    (rest.map (cost (clients.set client service'))).sum=(rest.map (cost clients)).sum := by
  refine congrArg List.sum (List.map_congr_left fun party hparty => ?_)
  cases party with
  | client n =>
    have hne : client≠n := fun heq => h (heq ▸ hparty)
    simp only [cost,List.getElem?_set_ne hne]
  | connectTask => rfl
  | mainLoop => rfl

/-- The first in line lets the lock go, so that there is less to be done. -/
theorem work_unlock (desk : ServingDesk C) (inv : LineInv before) {rest : List Party}
    (hline : before.lock.line=.client client::rest)
    (hholds : (.client client,.read)∈before.lock.holders)
    (hcost : 0<cost before.clients (.client client))
    (hwaiting : desk.waiting.length≤before.desk.waiting.length) :
    work {before with
      desk, clients := before.clients.set client service'
      lock := before.lock.release (.client client)}<work before := by
  have hout : .client client∉rest := (List.nodup_cons.mp (hline ▸ inv.fair.distinct)).1
  have hafter := inv.fair.line_release_first hholds hline
  have hqueue : (before.lock.release (.client client)).queue=before.lock.queue := rfl
  simp only [work,hafter,hqueue,hline,List.map_cons,List.sum_cons,cost_set hout]
  omega

/-- What changes when a client was told something and lets the lock go. -/
theorem unlock_eq : (before.setClient client service').unlock client={before with
    desk := before.desk, clients := before.clients.set client service'
    lock := before.lock.release (.client client)} := rfl

/-- The first in line was told what there is to be told, so that there is less to be done. -/
theorem work_look (inv : LineInv before) {rest : List Party}
    (hline : before.lock.line=.client client::rest)
    (hholds : (.client client,.read)∈before.lock.holders)
    (hcost : 0<cost before.clients (.client client)) :
    work ((before.setClient client service').unlock client)<work before := by
  rw [unlock_eq]
  exact work_unlock before.desk inv hline hholds hcost (Nat.le_refl _)

/-- The handle can be looked at for the client that is first in line. -/
theorem look_goes_on (inv : LineInv before) (quiet : QuietInv before)
    (hhandles : before.desk.handles=1) (ready : Ready before) {rest : List Party} {line : Line}
    (hline : before.lock.line=.client client::rest)
    (hholds : (.client client,.read)∈before.lock.holders)
    (hservice : before.clients[client]?=some (.asked line)) :
    ∃ event entries after,before.step event=some (after,entries) ∧ Ready after ∧
      work after<work before := by
  obtain ⟨hserving,hunspawned,hconnects,clear⟩ := ready
  have hcost : cost before.clients (.client client)=3 := by simp only [cost,hservice]
  have hpos : 0<cost before.clients (.client client) := by
    rw [hcost]
    exact Nat.succ_pos 2
  cases hstored : before.handleStored with
  | false =>
    have hless : work ((before.setClient client
        (.writing (unconnected line) (isShutdown line))).unlock client)<work before :=
      work_look inv hline hholds hpos
    have hclear : Clear ((before.setClient client
        (.writing (unconnected line) (isShutdown line))).unlock client) :=
      (clear_unconnected inv hholds hstored).mpr clear
    refine ⟨.look client,[],(before.setClient client
      (.writing (unconnected line) (isShutdown line))).unlock client,?_,
      ⟨hserving,hunspawned,hconnects,hclear⟩,hless⟩
    simp only [Daemon.step,if_neg hserving,hservice,if_pos hholds,Daemon.look,hstored]
    rfl
  | true =>
    have hconnected := inv.stored.mp hstored
    cases line with
    | error error =>
      have hless : work ((before.setClient client
          (.writing (invalidRequest error) false)).unlock client)<work before :=
        work_look inv hline hholds hpos
      have hclear : Clear ((before.setClient client
          (.writing (invalidRequest error) false)).unlock client) :=
        (clear_unlock inv before.desk hconnected hservice hholds rfl rfl rfl
          fun _ _ _ => rfl).mpr clear
      refine ⟨.look client,[],(before.setClient client
        (.writing (invalidRequest error) false)).unlock client,?_,
        ⟨hserving,hunspawned,hconnects,hclear⟩,hless⟩
      simp only [Daemon.step,if_neg hserving,hservice,if_pos hholds,Daemon.look,hstored]
      rfl
    | ok request =>
      obtain ⟨desk,hstep,hwaiting⟩ := call_possible hhandles request
      have hout : .client client∉rest := (List.nodup_cons.mp (hline ▸ inv.fair.distinct)).1
      have hlt := (List.getElem?_eq_some_iff.mp hservice).1
      refine ⟨.look client,[(.call before.desk.calls.length
        (request.call.command before.desk.calls.length),.nothing)],{before with
          desk, clients := before.clients.set client (.calling request before.desk.calls.length)},
        ?_,⟨hserving,hunspawned,hconnects,(clear_begin inv quiet hservice hstep).mpr clear⟩,?_⟩
      · simp only [Daemon.step,if_neg hserving,hservice,if_pos hholds,Daemon.look,hstored,
          Daemon.atDesk,hstep]
        rfl
      · have hnow : cost (before.clients.set client
            (.calling request before.desk.calls.length)) (.client client)=1 := by
          simp only [cost,List.getElem?_set_self hlt]
        simp only [work,hline,List.map_cons,List.sum_cons,cost_set hout,hnow,hcost,hwaiting]
        omega

/-- While a call waits for room in the channel, there is room for the first that does. -/
theorem handOver_goes_on (inv : LineInv before) (quiet : QuietInv before)
    (deskInv : before.desk.Inv (servingActor C) commandCapacity) (ready : Ready before)
    (hstored : before.handleStored=true) {call : ℕ} {command : Command}
    {others : List (ℕ×Command)} (hwaiting : before.desk.waiting=(call,command)::others) :
    ∃ event entries after,before.step event=some (after,entries) ∧ Ready after ∧
      work after<work before := by
  obtain ⟨hserving,hunspawned,hconnects,clear⟩ := ready
  have hfirst : (call,command)∈before.desk.waiting := hwaiting ▸ List.mem_cons_self
  have hstage := (deskInv.sending call).mpr (List.mem_map.mpr ⟨_,hfirst,rfl⟩)
  obtain ⟨n,asked,hclient,hcommand⟩ := quiet.owner hfirst
  have hin := between_of_holds inv (inv.stored.mp hstored) (inv.calling hclient).1
  have hsilent := clear.answers _ hin
  rw [isSo_of hclient] at hsilent
  have hshutdown : asked=.shutdown := not_not.mp (of_decide_eq_false hsilent)
  subst hshutdown
  have hcount : 0<(between before).countP (isSo before (needsRoom before.desk.calls)) :=
    List.countP_pos_iff.mpr ⟨_,hin,(isSo_of hclient).trans (decide_eq_true hstage)⟩
  have hroom := clear.room
  have htake : (call,command)∈
      before.desk.waiting.take (commandCapacity-before.desk.mailbox.length) := by
    obtain ⟨k,hk⟩ : ∃ k,commandCapacity-before.desk.mailbox.length=k+1 :=
      ⟨commandCapacity-before.desk.mailbox.length-1,by omega⟩
    rw [hk,hwaiting,List.take_succ_cons]
    exact List.mem_cons_self
  have hpossible : (servingActor C).stopped before.desk.actor=false ∧ (call,command)∈
      before.desk.waiting.take (commandCapacity-before.desk.mailbox.length) :=
    ⟨quiet.running,htake⟩
  obtain ⟨desk,hstep,hwaits⟩ : ∃ desk,before.desk.step (servingActor C) commandCapacity
      (.handOver call command)=some (desk,.nothing) ∧ desk.waiting=before.desk.leave call := by
    refine ⟨{before.desk with
      mailbox := before.desk.mailbox++[(call,command)]
      waiting := before.desk.leave call
      calls := before.desk.calls.set call
        (if ((servingActor C).address command).isSome then .sent else .delivered)},?_,rfl⟩
    have hgiven : before.desk.handOver (servingActor C) commandCapacity call command=
        some {before.desk with
          mailbox := before.desk.mailbox++[(call,command)]
          waiting := before.desk.leave call
          calls := before.desk.calls.set call
            (if ((servingActor C).address command).isSome then .sent else .delivered)} :=
      if_pos hpossible
    simp only [Desk.step,hgiven]
    rfl
  have hless : (before.desk.leave call).length<before.desk.waiting.length :=
    List.length_filter_lt_length_iff_exists.mpr ⟨_,hfirst,by
      simp only [ne_eq,not_true_eq_false,decide_false,Bool.false_eq_true,not_false_eq_true]⟩
  refine ⟨.handOver call command,[(.handOver call command,.nothing)],{before with desk},?_,
    ⟨hserving,hunspawned,hconnects,(clear_handOver inv quiet deskInv hstep).mpr clear⟩,?_⟩
  · simp only [Daemon.step,if_neg hserving,Daemon.atDesk,hstep]
    rfl
  · simp only [work,hwaits]
    omega

/-- The client that is first in line can be served. -/
theorem client_goes_on (inv : LineInv before) (quiet : QuietInv before)
    (deskInv : before.desk.Inv (servingActor C) commandCapacity)
    (hhandles : before.desk.handles=1) (ready : Ready before) {rest : List Party}
    (hline : before.lock.line=.client client::rest)
    (hholds : (.client client,.read)∈before.lock.holders) :
    ∃ event entries after,before.step event=some (after,entries) ∧ Ready after ∧
      work after<work before := by
  obtain ⟨service,hservice,hbusy⟩ := (inv.client client).mp (mem_line_of_holds hholds)
  cases service with
  | asked line => exact look_goes_on inv quiet hhandles ready hline hholds hservice
  | calling request number =>
    have hstored := (inv.calling hservice).2
    rcases quiet.stage hservice with hwaits|⟨_,hnot⟩|⟨hdelivered,rfl⟩
    · cases hwaiting : before.desk.waiting with
      | nil =>
        rw [hwaiting] at hwaits
        cases hwaits
      | cons first others => exact handOver_goes_on inv quiet deskInv ready hstored hwaiting
    · have hneeds := ready.clear.answers _
        (between_of_holds inv (inv.stored.mp hstored) hholds)
      rw [isSo_of hservice] at hneeds
      exact absurd (not_not.mp (of_decide_eq_false hneeds)) hnot
    · obtain ⟨hserving,hunspawned,hconnects,clear⟩ := ready
      obtain ⟨desk,hstep,hwaiting⟩ : ∃ desk,before.desk.step (servingActor C) commandCapacity
          (.result number)=some (desk,.returns .delivered) ∧
          desk.waiting=before.desk.leave number := by
        refine ⟨{before.desk with
          waiting := before.desk.leave number, calls := before.desk.calls.set number .finished},
          ?_,rfl⟩
        simp only [Desk.step,Desk.result,Desk.outcome,hdelivered]
        rfl
      have hpos : 0<cost before.clients (.client client) := by
        simp only [cost,hservice]
        exact Nat.one_pos
      have hfewer : desk.waiting.length≤before.desk.waiting.length :=
        hwaiting ▸ List.length_filter_le _ _
      refine ⟨.called client,[(.result number,.returns .delivered)],{before with
        desk, clients := before.clients.set client (.writing (.ofData .empty) true)
        lock := before.lock.release (.client client)},?_,⟨hserving,hunspawned,hconnects,
        (clear_called inv quiet deskInv hservice hstep).mpr clear⟩,
        work_unlock desk inv hline hholds hpos hfewer⟩
      simp only [Daemon.step,if_neg hserving,hservice,Daemon.called,Daemon.atDesk,hstep]
      rfl
  | reading => cases hbusy
  | writing response last => cases hbusy
  | ended => cases hbusy

/-- While nothing is in the way, the daemon comes nearer to starting the session. -/
theorem goes_on (inv : LineInv before) (quiet : QuietInv before)
    (deskInv : before.desk.Inv (servingActor C) commandCapacity)
    (hhandles : before.desk.handles=1) (ready : Ready before) :
    ∃ event entries after,before.step event=some (after,entries) ∧
      (after.sessionSpawned=true ∨ Ready after ∧ work after<work before) := by
  obtain ⟨hserving,hunspawned,hconnects,clear⟩ := ready
  cases hline : before.lock.line with
  | nil =>
    cases hconnect : before.connectTask with
    | connecting =>
      have hnone : between {before with
          connectTask := .storing, lock := before.lock.ask .connectTask .write}=[] := by
        simp only [between,line_ask,hline]
        rfl
      refine ⟨.connected true,[],{before with
        connectTask := .storing, lock := before.lock.ask .connectTask .write},?_,
        .inr ⟨⟨hserving,hunspawned,(fun h => by cases h),clear_of_none deskInv hnone⟩,?_⟩⟩
      · simp only [Daemon.step,if_neg hserving,if_pos hconnect]
        rfl
      · have hqueue : (before.lock.ask .connectTask .write).queue.length=
            before.lock.queue.length+1 := List.length_append
        simp only [work,line_ask,hline,hqueue,hconnect,List.nil_append,List.map_cons,List.map_nil,
          List.sum_cons,List.sum_nil,cost,if_true,reduceCtorEq,if_false]
        omega
    | storing =>
      have hmem := inv.connectTask.mpr hconnect
      rw [hline] at hmem
      cases hmem
    | connected =>
      have hselecting : before.mainLoop=.selecting := by
        cases hmain : before.mainLoop with
        | selecting => rfl
        | storing =>
          have hmem := inv.mainLoop.mpr hmain
          rw [hline] at hmem
          cases hmem
        | returned => exact absurd hmain hserving
      refine ⟨.joined,[],{before with
        mainLoop := .storing, lock := before.lock.ask .mainLoop .write},?_,
        .inr ⟨⟨(fun h => by cases h),hunspawned,hconnects,
          (clear_joined inv hselecting hconnect).mpr clear⟩,?_⟩⟩
      · simp only [Daemon.step,if_neg hserving,if_pos (And.intro hselecting hunspawned),hconnect]
      · have hqueue : (before.lock.ask .mainLoop .write).queue.length=
            before.lock.queue.length+1 := List.length_append
        simp only [work,line_ask,hline,hqueue,hselecting,List.nil_append,List.map_cons,
          List.map_nil,List.sum_cons,List.sum_nil,cost,if_true,reduceCtorEq,if_false]
        omega
    | failed => exact absurd hconnect hconnects
  | cons party rest =>
    rcases first_goes hline with ⟨access,hholds⟩|⟨_,lock,access,hgrant,_⟩
    · obtain rfl : access=accessOf party := inv.access _ (List.mem_append_left _ hholds)
      cases party with
      | connectTask =>
        have hafter := inv.fair.line_release_first hholds hline
        have hstoring := inv.connectTask.mp (mem_line_of_holds hholds)
        refine ⟨.store .connectTask,[],{before with
          handleStored := true, connectTask := .connected
          lock := before.lock.release .connectTask},?_,.inr ⟨⟨hserving,hunspawned,
          (fun h => by cases h),(clear_stored inv hholds).mpr clear⟩,?_⟩⟩
        · have hmem : (.connectTask,.write)∈before.lock.holders := hholds
          simp only [Daemon.step,if_neg hserving,if_pos hmem]
          rfl
        · have hqueue : (before.lock.release .connectTask).queue=before.lock.queue := rfl
          simp only [work,hafter,hline,hqueue,hstoring,List.map_cons,List.sum_cons,cost,
            reduceCtorEq,if_false]
          omega
      | mainLoop =>
        refine ⟨.store .mainLoop,[],{before with
          handleStored := true, sessionSpawned := true, mainLoop := .selecting
          lock := before.lock.release .mainLoop},?_,.inl rfl⟩
        have hmem : (.mainLoop,.write)∈before.lock.holders := hholds
        simp only [Daemon.step,if_neg hserving,if_pos hmem]
        rfl
      | client n =>
        obtain ⟨event,entries,after,hstep,hready,hless⟩ := client_goes_on inv quiet deskInv hhandles
          ⟨hserving,hunspawned,hconnects,clear⟩ hline hholds
        exact ⟨event,entries,after,hstep,.inr ⟨hready,hless⟩⟩
    · have hiff : Clear {before with lock} ↔ Clear before := by
        refine clear_same ?_ (fun party _ => ?_) rfl
        · simp only [between,line_grant hgrant]
        · cases party <;> exact ⟨rfl,rfl⟩
      refine ⟨.granted,[],{before with lock},?_,
        .inr ⟨⟨hserving,hunspawned,hconnects,hiff.mpr clear⟩,?_⟩⟩
      · simp only [Daemon.step,if_neg hserving,hgrant,Option.map_some]
      · have hqueue := queue_length_grant hgrant
        simp only [work,line_grant hgrant]
        omega

/-- While nothing is in the way, the session can be started. -/
theorem starts_of_ready (run : DaemonRun session log daemon) (ready : Ready daemon) :
    ∃ later after,DaemonRunFrom daemon later after ∧ after.sessionSpawned=true := by
  induction hwork : work daemon using Nat.strong_induction_on generalizing daemon log with
  | _ size ih =>
    obtain ⟨event,entries,after,hstep,hspawned|⟨hready,hless⟩⟩ := goes_on (run_line run)
      (run_quiet run ready.unspawned) (run_deskInv run) (run_handles run) ready
    · have hone : DaemonRunFrom daemon ([]++[(event,entries)]) after := Run.next .start hstep
      exact ⟨_,after,hone,hspawned⟩
    · have hrun : DaemonRun session (log++[(event,entries)]) after := run.next hstep
      obtain ⟨later,last,hrest,hdone⟩ := ih _ (hwork ▸ hless) hrun hready rfl
      have hone : DaemonRunFrom daemon ([]++[(event,entries)]) after := Run.next .start hstep
      exact ⟨_,last,hone.follow (fun _ _ _ _ _ h => h) hrest,hdone⟩

/-- If the session can be started, nothing is in the way. -/
theorem clear_of_starts {later : List DaemonEntry} (run : DaemonRun session log daemon)
    (hunspawned : daemon.sessionSpawned=false) (rest : DaemonRunFrom daemon later after)
    (h : after.sessionSpawned=true ∨ Clear after) : Clear daemon := by
  induction rest with
  | start =>
    rcases h with h|h
    · rw [hunspawned] at h
      cases h
    · exact h
  | @next later middle after entry earlier now ih =>
    have hrun := run.follow (fun _ _ _ _ _ h => h) earlier
    cases hspawned : middle.sessionSpawned with
    | true => exact ih (.inl hspawned)
    | false =>
      exact ih (.inr (clear_before (run_line hrun) (run_quiet hrun hspawned) (run_deskInv hrun)
        hspawned (step_move now).2 h))

end Progress

section Readers

/-- Once the session is started, only clients are in line. -/
theorem readers_of_spawned (inv : LineInv daemon) (hspawned : daemon.sessionSpawned=true) :
    ∀ entry∈daemon.lock.entries,entry.2=.read := by
  intro entry hentry
  have hline : entry.1∈daemon.lock.line := List.mem_map.mpr ⟨entry,hentry,rfl⟩
  rw [inv.access entry hentry]
  generalize entry.1=party at hline
  cases party with
  | client n => rfl
  | connectTask =>
    have hconnected := inv.spawned hspawned
    rw [inv.connectTask.mp hline] at hconnected
    cases hconnected
  | mainLoop =>
    have hunspawned := (inv.storing (inv.mainLoop.mp hline)).2
    cases hspawned.symm.trans hunspawned

/-- Where only readers are in line, all of them can get the lock without anything else. -/
theorem grants_all (hserving : daemon.mainLoop≠.returned)
    (hreaders : ∀ entry∈daemon.lock.entries,entry.2=.read) :
    ∃ count lock,DaemonRunFrom daemon (List.replicate count (.granted,[])) {daemon with lock} ∧
      lock.entries=daemon.lock.entries ∧ lock.queue=[] := by
  induction hsize : daemon.lock.queue.length generalizing daemon with
  | zero => exact ⟨0,daemon.lock,.start,rfl,List.length_eq_zero_iff.mp hsize⟩
  | succ size ih =>
    have hqueue : daemon.lock.queue≠[] := List.ne_nil_of_length_eq_add_one hsize
    obtain ⟨lock,hgrant⟩ := grant_of_readers hreaders hqueue
    have hentries := entries_grant hgrant
    have hone : DaemonRunFrom daemon ([]++[(.granted,[])]) {daemon with lock} :=
      .next .start (by simp only [Daemon.step,if_neg hserving,hgrant,Option.map_some])
    have hless : lock.queue.length=size := by
      have hlength := queue_length_grant hgrant
      omega
    obtain ⟨count,last,hrest,hsame,hnone⟩ := @ih {daemon with lock} hserving
      (hentries ▸ hreaders) hless
    exact ⟨count+1,last,hone.follow (fun _ _ _ _ _ h => h) hrest,hsame.trans hentries,hnone⟩

/-- Who is in line where nobody waits holds the lock. -/
theorem holds_of_line (inv : LineInv daemon) {lock : Lock Party}
    (hentries : lock.entries=daemon.lock.entries) (hqueue : lock.queue=[])
    (hservice : daemon.clients[client]?=some service) (hbusy : busy service=true) :
    (.client client,.read)∈lock.holders := by
  have hline := (inv.client client).mpr ⟨service,hservice,hbusy⟩
  obtain ⟨⟨party,access⟩,hentry,rfl⟩ := List.mem_map.mp hline
  obtain rfl : access=.read := inv.access _ hentry
  rw [←hentries,Lock.entries,hqueue,List.append_nil] at hentry
  exact hentry

end Readers

section Stuck

/-- The session was not started and never will be. -/
structure Stuck (daemon : Daemon C) : Prop where
  /-- `serve` has not returned. -/
  serving : daemon.mainLoop≠.returned
  /-- The session was not started. -/
  unspawned : daemon.sessionSpawned=false
  /-- The hub could be connected. -/
  connected : daemon.connectTask=.storing ∨ daemon.connectTask=.connected
  /-- Something is in the way. -/
  notClear : ¬Clear daemon

/-- Before the hub is connected nothing is in the way. -/
theorem clear_of_connecting (deskInv : daemon.desk.Inv (servingActor C) commandCapacity)
    (h : daemon.connectTask=.connecting) : Clear daemon :=
  clear_of_none deskInv (by simp only [between,h])

/-- A daemon that is stuck stays so, and none of the calls that its clients wait for is answered
by the session. -/
theorem Stuck.step (stuck : Stuck before) (run : DaemonRun session log before)
    (move : DaemonMove before event entries after) :
    Stuck after ∧ ∀ number reply,(.result number,.returns (.answer reply))∉entries := by
  obtain ⟨hserving,hunspawned,hconnected,hnot⟩ := stuck
  have hlater : ¬(after.sessionSpawned=true ∨ Clear after) := fun h =>
    hnot (clear_before (run_line run) (run_quiet run hunspawned) (run_deskInv run) hunspawned move
      h)
  have hstill : after.sessionSpawned=false := Bool.eq_false_iff.mpr fun h => hlater (.inl h)
  have hnotAfter : ¬Clear after := fun h => hlater (.inr h)
  cases move with
  | connected hconnecting =>
    rw [hconnecting] at hconnected
    rcases hconnected with h|h <;> cases h
  | notConnected hconnecting =>
    rw [hconnecting] at hconnected
    rcases hconnected with h|h <;> cases h
  | stored => exact ⟨⟨hserving,hstill,.inr rfl,hnotAfter⟩,fun _ _ => List.not_mem_nil⟩
  | started => cases hstill
  | joined =>
    exact ⟨⟨(fun h => by cases h),hstill,hconnected,hnotAfter⟩,fun _ _ => List.not_mem_nil⟩
  | joinedFailed _ _ hfailed =>
    rw [hfailed] at hconnected
    rcases hconnected with h|h <;> cases h
  | sessionEnded _ hspawned => cases hspawned.symm.trans hunspawned
  | calls _ _ _ hbegins =>
    refine ⟨⟨hserving,hstill,hconnected,hnotAfter⟩,fun number reply h => ?_⟩
    rw [←(Prod.mk.inj (List.mem_singleton.mp h)).1] at hbegins
    cases hbegins
  | handOver =>
    refine ⟨⟨hserving,hstill,hconnected,hnotAfter⟩,fun number reply h => ?_⟩
    cases (Prod.mk.inj (List.mem_singleton.mp h)).1
  | called hcalling hstep =>
    refine ⟨⟨hserving,hstill,hconnected,hnotAfter⟩,fun number reply h => ?_⟩
    obtain ⟨-,rfl,-⟩ := (run_quiet run hunspawned).returns (run_deskInv run) hcalling hstep
    cases (Prod.mk.inj (List.mem_singleton.mp h)).2
  | turnAway hspawned => cases hspawned.symm.trans hunspawned
  | turn hspawned => cases hspawned.symm.trans hunspawned
  | _ => exact ⟨⟨hserving,hstill,hconnected,hnotAfter⟩,fun _ _ => List.not_mem_nil⟩

/-- However a daemon that is stuck goes on, it stays stuck and answers no call. -/
theorem Stuck.later (run : DaemonRun session log daemon) (stuck : Stuck daemon)
    {later : List DaemonEntry} (rest : DaemonRunFrom daemon later after) :
    Stuck after ∧ ∀ number reply,(.result number,.returns (.answer reply))∉deskLog later := by
  induction rest with
  | start => exact ⟨stuck,fun _ _ => List.not_mem_nil⟩
  | @next later middle after entry earlier now ih =>
    obtain ⟨hmiddle,hearlier⟩ := ih
    have hrun := run.follow (fun _ _ _ _ _ h => h) earlier
    obtain ⟨hafter,hnow⟩ := hmiddle.step hrun (step_move now).2
    refine ⟨hafter,fun number reply h => ?_⟩
    rw [deskLog,List.flatMap_append,List.flatMap_singleton] at h
    rcases List.mem_append.mp h with h|h
    · exact hearlier number reply h
    · exact hnow number reply h

end Stuck

section Example

/-- The hub is connected, and a client has come. -/
def storedLog : List DaemonEntry :=
  [(.connected true,[]),(.accepted,[]),(.granted,[]),(.store .connectTask,[])]

/-- The daemon after that log. -/
def storedDaemon : Daemon sealedCrypto :=
  {Daemon.start secondServing with
    handleStored := true, connectTask := .connected, clients := [.reading]}

/-- The daemon comes there. -/
theorem storedLog_run : DaemonRun secondServing storedLog storedDaemon := by
  have hconnected : DaemonRun secondServing ([]++[(.connected true,[])]) _ := .next .start rfl
  have haccepted : DaemonRun secondServing (_++[(.accepted,[])]) _ := .next hconnected rfl
  have hgranted : DaemonRun secondServing (_++[(.granted,[])]) _ := .next haccepted rfl
  have hstored : DaemonRun secondServing (_++[(.store .connectTask,[])]) _ := .next hgranted rfl
  exact hstored

/-- The client asks for the status before the session is started. -/
def stuckLog : List DaemonEntry :=
  storedLog++[(.lineRead 0 (.ok .status),[])]++[(.granted,[])]++
    [(.look 0,[(.call 0 (.status 0),.nothing)])]

/-- The daemon after that log. -/
def stuckDaemon : Daemon sealedCrypto :=
  {storedDaemon with
    lock := ⟨[(.client 0,.read)],[]⟩
    desk := {storedDaemon.desk with waiting := [(0,.status 0)], calls := [.sending]}
    clients := [.calling .status 0]}

/-- The daemon comes there. -/
theorem stuckLog_run : DaemonRun secondServing stuckLog stuckDaemon := by
  have hread : DaemonRun secondServing (_++[(.lineRead 0 (.ok .status),[])]) _ :=
    .next storedLog_run rfl
  have hlocked : DaemonRun secondServing (_++[(.granted,[])]) _ := .next hread rfl
  have hlooked : DaemonRun secondServing (_++[(.look 0,[(.call 0 (.status 0),.nothing)])]) _ :=
    .next hlocked rfl
  exact hlooked

/-- The client is in the way. -/
theorem stuckDaemon_not_clear : ¬Clear stuckDaemon := fun clear =>
  Bool.false_ne_true ((clear.answers (.client 0) List.mem_cons_self).symm.trans rfl)

/-- The client asks for the status after the session was started. -/
def askedLog : List DaemonEntry :=
  storedLog++[(.joined,[])]++[(.granted,[])]++[(.store .mainLoop,[])]++
    [(.lineRead 0 (.ok .status),[])]

/-- The daemon after that log. -/
def askedDaemon : Daemon sealedCrypto :=
  {storedDaemon with
    lock := ⟨[],[(.client 0,.read)]⟩, sessionSpawned := true, clients := [.asked (.ok .status)]}

/-- The daemon comes there. -/
theorem askedLog_run : DaemonRun secondServing askedLog askedDaemon := by
  have hjoined : DaemonRun secondServing (_++[(.joined,[])]) _ := .next storedLog_run rfl
  have hlocked : DaemonRun secondServing (_++[(.granted,[])]) _ := .next hjoined rfl
  have hstarted : DaemonRun secondServing (_++[(.store .mainLoop,[])]) _ := .next hlocked rfl
  have hread : DaemonRun secondServing (_++[(.lineRead 0 (.ok .status),[])]) _ :=
    .next hstarted rfl
  exact hread

end Example

section Results

/-- While `serve` goes on and may still connect to the hub, the session can be started exactly
when none of those who come to the handle after it was put there, and before the main loop has
the lock again, needs an answer of the session, and the channel has room for their commands. -/
theorem session_started_iff (session : ServingLoop.ServingSession C) (log : List DaemonEntry)
    (daemon : Daemon C) (run : DaemonRun session log daemon)
    (hserving : daemon.mainLoop≠.returned) (hunspawned : daemon.sessionSpawned=false)
    (hconnects : daemon.connectTask≠.failed) :
    (∃ later after,DaemonRunFrom daemon later after ∧ after.sessionSpawned=true) ↔
      Clear daemon := by
  constructor
  · rintro ⟨later,after,hrest,hspawned⟩
    exact clear_of_starts run hunspawned hrest (.inl hspawned)
  · intro clear
    exact starts_of_ready run ⟨hserving,hunspawned,hconnects,clear⟩

/-- After a request for the status in between, the session cannot be started. -/
theorem session_started_iff_status :
    ¬∃ later after,DaemonRunFrom stuckDaemon later after ∧ after.sessionSpawned=true := by
  have hiff := session_started_iff secondServing stuckLog stuckDaemon stuckLog_run
    (fun h => by cases h) rfl (fun h => by cases h)
  exact fun h => stuckDaemon_not_clear (hiff.mp h)

/-- Otherwise the session is never started, `serve` never returns, and no client whose request
needs an answer of the session gets one, however the daemon goes on. -/
theorem session_never_started (session : ServingLoop.ServingSession C) (log : List DaemonEntry)
    (daemon : Daemon C) (run : DaemonRun session log daemon)
    (hserving : daemon.mainLoop≠.returned) (hunspawned : daemon.sessionSpawned=false)
    (hconnects : daemon.connectTask≠.failed) (hnot : ¬Clear daemon)
    (later : List DaemonEntry) (after : Daemon C) (rest : DaemonRunFrom daemon later after) :
    after.sessionSpawned=false ∧ after.mainLoop≠.returned ∧
      ∀ number reply,(.result number,.returns (.answer reply))∉deskLog later := by
  have hconnected : daemon.connectTask=.storing ∨ daemon.connectTask=.connected := by
    cases h : daemon.connectTask with
    | connecting => exact absurd (clear_of_connecting (run_deskInv run) h) hnot
    | storing => exact .inl rfl
    | connected => exact .inr rfl
    | failed => exact absurd h hconnects
  obtain ⟨hstuck,hunanswered⟩ := Stuck.later run ⟨hserving,hunspawned,hconnected,hnot⟩ rest
  exact ⟨hstuck.unspawned,hstuck.serving,hunanswered⟩

/-- Where the main loop has asked for the lock after such a request, the session is not started. -/
theorem session_never_started_status : ∃ after,
    DaemonRunFrom stuckDaemon [(.joined,[])] after ∧ after.mainLoop=.storing ∧
    after.sessionSpawned=false := by
  have hrest : DaemonRunFrom stuckDaemon ([]++[(.joined,[])]) _ := .next .start rfl
  obtain ⟨hstill,-,-⟩ := session_never_started secondServing stuckLog stuckDaemon stuckLog_run
    (fun h => by cases h) rfl (fun h => by cases h) stuckDaemon_not_clear _ _ hrest
  exact ⟨_,hrest,rfl,hstill⟩

/-- Once the session is started, the handle can be looked at for each client whose line was read,
after the lock was given to those in line, and so without an answer to anybody else: its call
begins, or it is told that its line is no request. -/
theorem clients_looked_at (session : ServingLoop.ServingSession C) (log : List DaemonEntry)
    (daemon : Daemon C) (run : DaemonRun session log daemon)
    (hserving : daemon.mainLoop≠.returned) (hspawned : daemon.sessionSpawned=true)
    (client : ℕ) (line : Line) (hasked : daemon.clients[client]?=some (.asked line)) :
    ∃ count lock after entries,
      DaemonRunFrom daemon (List.replicate count (.granted,[])) {daemon with lock} ∧
      Daemon.step {daemon with lock} (.look client)=some (after,entries) ∧
      (∀ request,line=.ok request →
        after.clients[client]?=some (.calling request daemon.desk.calls.length)) ∧
      ∀ error,line=.error error →
        after.clients[client]?=some (.writing (invalidRequest error) false) := by
  have inv := run_line run
  obtain ⟨count,lock,hgrants,hentries,hqueue⟩ :=
    grants_all hserving (readers_of_spawned inv hspawned)
  have hholds := holds_of_line inv hentries hqueue hasked rfl
  have hstored := inv.stored.mpr (inv.spawned hspawned)
  have hlt := (List.getElem?_eq_some_iff.mp hasked).1
  cases line with
  | ok request =>
    obtain ⟨desk,hstep,-⟩ := call_possible (run_handles run) request
    refine ⟨count,lock,{daemon with
        desk, lock, clients := daemon.clients.set client
          (.calling request daemon.desk.calls.length)},
      [(.call daemon.desk.calls.length (request.call.command daemon.desk.calls.length),.nothing)],
      hgrants,?_,fun asked h => ?_,fun error h => by cases h⟩
    · simp only [Daemon.step,if_neg hserving,hasked,if_pos hholds,Daemon.look,hstored,
        Daemon.atDesk,hstep]
      rfl
    · obtain rfl := Except.ok.inj h
      exact List.getElem?_set_self hlt
  | error error =>
    refine ⟨count,lock,(Daemon.setClient {daemon with lock} client
        (.writing (invalidRequest error) false)).unlock client,[],hgrants,?_,
      (fun request h => by cases h),fun told h => ?_⟩
    · simp only [Daemon.step,if_neg hserving,hasked,if_pos hholds,Daemon.look,hstored]
      rfl
    · obtain rfl := Except.error.inj h
      exact List.getElem?_set_self hlt

/-- A request for the status after the session was started is looked at. -/
theorem clients_looked_at_status : ∃ daemon : Daemon sealedCrypto,∃ count lock after entries,
    DaemonRunFrom daemon (List.replicate count (.granted,[])) {daemon with lock} ∧
    Daemon.step {daemon with lock} (.look 0)=some (after,entries) ∧
    after.clients[0]?=some (.calling .status 0) := by
  obtain ⟨count,lock,after,entries,hgrants,hlook,hcalls,-⟩ := clients_looked_at secondServing
    askedLog askedDaemon askedLog_run (fun h => by cases h) rfl 0 (.ok .status) rfl
  exact ⟨askedDaemon,count,lock,after,entries,hgrants,hlook,hcalls .status rfl⟩

end Results

end WispersConnect.DaemonStart
