import WispersConnect.DaemonRequests

/-!
# Who is in line for the handle

Whoever serves a client asks for the lock of the handle when a line was read, and lets it go
when the line is answered. Until the session is started, none of the calls that were begun was
answered.
-/

namespace WispersConnect.DaemonLine

open ListEntries PeerSigning ServingLoop ServingCalls Runs Mailboxes MailboxRuns ReadWriteLocks
open DaemonRequests

variable {C : PeerCrypto} {session : ServingLoop.ServingSession C}
  {daemon before after : Daemon C} {event : DaemonEvent} {entries : List ServingDeskEntry}
  {log : List DaemonEntry} {client n : ℕ} {service service' : Service}

section Lines

/-- A client is in line, or holds the lock, while its line is answered. -/
def busy : Service→Bool
  | .asked _ => true
  | .calling _ _ => true
  | _ => false

/-- A client is at such a point. -/
def Busy (clients : List Service) (n : ℕ) : Prop :=
  ∃ service,clients[n]?=some service ∧ busy service=true

/-- Clients ask for the lock for reading, the others for writing. -/
def accessOf : Party→Access
  | .client _ => .read
  | _ => .write

/-- Who is in line for the lock, and what was done by then. -/
structure LineInv (daemon : Daemon C) : Prop where
  /-- The lock is fair. -/
  fair : Fair daemon.lock
  /-- All ask for what they need. -/
  access : ∀ entry∈daemon.lock.entries,entry.2=accessOf entry.1
  /-- The task that connects is in line when it is to put the handle there. -/
  connectTask : .connectTask∈daemon.lock.line ↔ daemon.connectTask=.storing
  /-- The main loop is in line while it is to put the handle there. -/
  mainLoop : .mainLoop∈daemon.lock.line ↔ daemon.mainLoop=.storing
  /-- Clients are in line while their lines are answered. -/
  client : ∀ n,.client n∈daemon.lock.line ↔ Busy daemon.clients n
  /-- The lock is held while a call is waited for. -/
  calling : ∀ {n request number},daemon.clients[n]?=some (.calling request number) →
    (.client n,.read)∈daemon.lock.holders ∧ daemon.handleStored=true
  /-- The handle is there once the task has put it there. -/
  stored : daemon.handleStored=true ↔ daemon.connectTask=.connected
  /-- The main loop starts the session after that. -/
  storing : daemon.mainLoop=.storing → daemon.connectTask=.connected ∧ daemon.sessionSpawned=false
  /-- The session was started after that. -/
  spawned : daemon.sessionSpawned=true → daemon.connectTask=.connected

/-- What becomes of a client that is served in another way. -/
theorem busy_set {clients : List Service} (h : clients[client]?=some service) :
    Busy (clients.set client service') n ↔
      (n=client ∧ busy service'=true) ∨ (n≠client ∧ Busy clients n) := by
  constructor
  · rintro ⟨found,hfound,hbusy⟩
    rcases (getElem?_set_iff h).mp hfound with ⟨rfl,rfl⟩|⟨hne,hold⟩
    · exact .inl ⟨rfl,hbusy⟩
    · exact .inr ⟨hne,found,hold,hbusy⟩
  · rintro (⟨rfl,hbusy⟩|⟨hne,found,hold,hbusy⟩)
    · exact ⟨service',(getElem?_set_iff h).mpr (.inl ⟨rfl,rfl⟩),hbusy⟩
    · exact ⟨found,(getElem?_set_iff h).mpr (.inr ⟨hne,hold⟩),hbusy⟩

/-- A client at a known point. -/
theorem busy_of {clients : List Service} (h : clients[n]?=some service) :
    Busy clients n ↔ busy service=true := by
  constructor
  · rintro ⟨found,hfound,hbusy⟩
    rwa [Option.some.inj (h.symm.trans hfound)]
  · exact fun hbusy => ⟨service,h,hbusy⟩

/-- A client stays as busy as it was. -/
theorem busy_set_same {clients : List Service} (h : clients[client]?=some service)
    (hsame : busy service'=busy service) : Busy (clients.set client service') n ↔
      Busy clients n := by
  rw [busy_set h]
  by_cases hn : n=client
  · subst hn
    rw [busy_of h,hsame]
    exact ⟨fun h => h.elim And.right (fun h => absurd rfl h.1),fun h => .inl ⟨rfl,h⟩⟩
  · exact ⟨fun h => h.elim (fun h => absurd h.1 hn) And.right,fun h => .inr ⟨hn,h⟩⟩

/-- A new client is not at such a point. -/
theorem busy_concat {clients : List Service} : Busy (clients++[.reading]) n ↔ Busy clients n := by
  constructor
  · rintro ⟨found,hfound,hbusy⟩
    rcases getElem?_concat_iff.mp hfound with hold|⟨_,rfl⟩
    · exact ⟨found,hold,hbusy⟩
    · cases hbusy
  · rintro ⟨found,hfound,hbusy⟩
    exact ⟨found,getElem?_concat_iff.mpr (.inl hfound),hbusy⟩

/-- Nobody has asked for the lock in the beginning. -/
theorem LineInv.start : LineInv (Daemon.start session) where
  fair := .free
  access entry h := by cases h
  connectTask := ⟨(fun h => by cases h),fun h => by cases h⟩
  mainLoop := ⟨(fun h => by cases h),fun h => by cases h⟩
  client n := ⟨(fun h => by cases h),fun ⟨_,h,_⟩ => by cases h⟩
  calling h := by cases h
  stored := ⟨(fun h => by cases h),fun h => by cases h⟩
  storing h := by cases h
  spawned h := by cases h

/-- What is waited for with the lock is told apart from what waits for it. -/
theorem LineInv.frame (inv : LineInv before) (hlock : after.lock=before.lock)
    (hconnect : after.connectTask=before.connectTask) (hmain : after.mainLoop=before.mainLoop)
    (hstored : after.handleStored=before.handleStored)
    (hspawned : after.sessionSpawned=before.sessionSpawned)
    (hbusy : ∀ n,Busy after.clients n ↔ Busy before.clients n)
    (hcalling : ∀ {n request number},after.clients[n]?=some (.calling request number) →
      (.client n,.read)∈before.lock.holders ∧ before.handleStored=true) : LineInv after where
  fair := hlock ▸ inv.fair
  access := hlock ▸ inv.access
  connectTask := by rw [hlock,hconnect,inv.connectTask]
  mainLoop := by rw [hlock,hmain,inv.mainLoop]
  client n := by rw [hlock,inv.client,hbusy]
  calling h := by
    rw [hlock,hstored]
    exact hcalling h
  stored := by rw [hstored,hconnect,inv.stored]
  storing h := by
    rw [hconnect,hspawned]
    exact inv.storing (hmain ▸ h)
  spawned h := hconnect ▸ inv.spawned (hspawned ▸ h)

/-- A client that waited for no call does not after it is served in another way that does not. -/
theorem LineInv.calling_set (inv : LineInv before) {clients : List Service}
    (hclients : clients=before.clients.set client service')
    (h : before.clients[client]?=some service)
    (hservice : ∀ request number,service'≠.calling request number) {request : Request}
    {number : ℕ} (hcalling : clients[n]?=some (.calling request number)) :
    n≠client ∧ (.client n,.read)∈before.lock.holders ∧ before.handleStored=true := by
  subst hclients
  rcases (getElem?_set_iff h).mp hcalling with ⟨_,heq⟩|⟨hne,hold⟩
  · exact absurd heq.symm (hservice _ _)
  · exact ⟨hne,inv.calling hold⟩

/-- Somebody who is not in line gets in line. -/
theorem LineInv.access_ask (inv : LineInv before) {party : Party} :
    ∀ entry∈(before.lock.ask party (accessOf party)).entries,entry.2=accessOf entry.1 := by
  intro entry h
  rw [entries_ask] at h
  rcases List.mem_append.mp h with h|h
  · exact inv.access entry h
  · rw [List.mem_singleton.mp h]

/-- A client that is served no longer with the lock lets it go. -/
theorem LineInv.unlock (inv : LineInv before) {desk : ServingDesk C}
    (h : before.clients[client]?=some service) (holds : (.client client,.read)∈before.lock.holders)
    (hservice : busy service'=false) : LineInv {before with
      desk, clients := before.clients.set client service'
      lock := before.lock.release (.client client)} where
  fair := inv.fair.release
  access entry h := inv.access entry (mem_of_mem_release h)
  connectTask := by
    refine (inv.fair.mem_line_release holds).trans (Iff.trans ?_ inv.connectTask)
    exact and_iff_left (fun h => by cases h)
  mainLoop := by
    refine (inv.fair.mem_line_release holds).trans (Iff.trans ?_ inv.mainLoop)
    exact and_iff_left (fun h => by cases h)
  client n := by
    refine (inv.fair.mem_line_release holds).trans ((busy_set h).trans ?_).symm
    rw [hservice,inv.client]
    constructor
    · rintro (⟨_,hfalse⟩|⟨hne,hbusy⟩)
      · cases hfalse
      · exact ⟨hbusy,fun heq => hne (Party.client.inj heq)⟩
    · exact fun ⟨hbusy,hne⟩ => .inr ⟨fun heq => hne (congrArg _ heq),hbusy⟩
  calling hcalling := by
    have hnot : ∀ request number,service'≠.calling request number := by
      rintro request number rfl
      cases hservice
    obtain ⟨hne,hholds,hstored⟩ := inv.calling_set rfl h hnot hcalling
    exact ⟨mem_release.mpr ⟨hholds,fun heq => hne (Party.client.inj heq)⟩,hstored⟩
  stored := inv.stored
  storing := inv.storing
  spawned := inv.spawned

/-- A step keeps the line as it should be. -/
theorem LineInv.step (inv : LineInv before) (move : DaemonMove before event entries after) :
    LineInv after := by
  cases move with
  | connected hconnecting =>
    have hnew : .connectTask∉before.lock.line := by
      rw [inv.connectTask,hconnecting]
      exact fun h => by cases h
    exact {
      fair := inv.fair.ask hnew
      access := inv.access_ask
      connectTask := ⟨fun _ => rfl,fun _ => mem_line_ask.mpr (.inr rfl)⟩
      mainLoop := (mem_line_ask.trans (or_iff_left (fun h => by cases h))).trans inv.mainLoop
      client := fun n =>
        (mem_line_ask.trans (or_iff_left (fun h => by cases h))).trans (inv.client n)
      calling := inv.calling
      stored := by
        rw [inv.stored,hconnecting]
        exact ⟨(fun h => by cases h),fun h => by cases h⟩
      storing := fun h => by
        have hconnected := (inv.storing h).1
        rw [hconnecting] at hconnected
        cases hconnected
      spawned := fun h => by
        have hconnected := inv.spawned h
        rw [hconnecting] at hconnected
        cases hconnected }
  | notConnected hconnecting =>
    exact {
      fair := inv.fair
      access := inv.access
      connectTask := by
        rw [inv.connectTask,hconnecting]
        exact ⟨(fun h => by cases h),fun h => by cases h⟩
      mainLoop := inv.mainLoop
      client := inv.client
      calling := inv.calling
      stored := by
        rw [inv.stored,hconnecting]
        exact ⟨(fun h => by cases h),fun h => by cases h⟩
      storing := fun h => by
        have hconnected := (inv.storing h).1
        rw [hconnecting] at hconnected
        cases hconnected
      spawned := fun h => by
        have hconnected := inv.spawned h
        rw [hconnecting] at hconnected
        cases hconnected }
  | granted hgrant =>
    exact {
      fair := inv.fair.grant hgrant
      access := entries_grant hgrant ▸ inv.access
      connectTask := line_grant hgrant ▸ inv.connectTask
      mainLoop := line_grant hgrant ▸ inv.mainLoop
      client := line_grant hgrant ▸ inv.client
      calling := fun h => ⟨holders_grant hgrant (inv.calling h).1,(inv.calling h).2⟩
      stored := inv.stored
      storing := inv.storing
      spawned := inv.spawned }
  | stored hholds =>
    have hstoring := inv.connectTask.mp (mem_line_of_holds hholds)
    have halone := inv.fair.alone hholds
    exact {
      fair := inv.fair.release
      access := fun entry h => inv.access entry (mem_of_mem_release h)
      connectTask := by
        rw [inv.fair.mem_line_release hholds]
        exact ⟨fun h => absurd rfl h.2,fun h => by cases h⟩
      mainLoop := (inv.fair.mem_line_release hholds).trans
        ((and_iff_left (fun h => by cases h)).trans inv.mainLoop)
      client := fun n => (inv.fair.mem_line_release hholds).trans
        ((and_iff_left (fun h => by cases h)).trans (inv.client n))
      calling := fun h => by
        have hmem := (inv.calling h).1
        rw [halone] at hmem
        cases List.mem_singleton.mp hmem
      stored := ⟨fun _ => rfl,fun _ => rfl⟩
      storing := fun h => ⟨rfl,(inv.storing h).2⟩
      spawned := fun _ => rfl }
  | started hholds =>
    have hstoring := inv.storing (inv.mainLoop.mp (mem_line_of_holds hholds))
    have halone := inv.fair.alone hholds
    exact {
      fair := inv.fair.release
      access := fun entry h => inv.access entry (mem_of_mem_release h)
      connectTask := (inv.fair.mem_line_release hholds).trans
        ((and_iff_left (fun h => by cases h)).trans inv.connectTask)
      mainLoop := by
        rw [inv.fair.mem_line_release hholds]
        exact ⟨fun h => absurd rfl h.2,fun h => by cases h⟩
      client := fun n => (inv.fair.mem_line_release hholds).trans
        ((and_iff_left (fun h => by cases h)).trans (inv.client n))
      calling := fun h => by
        have hmem := (inv.calling h).1
        rw [halone] at hmem
        cases List.mem_singleton.mp hmem
      stored := ⟨fun _ => hstoring.1,fun _ => rfl⟩
      storing := fun h => by cases h
      spawned := fun _ => hstoring.1 }
  | joined hselecting hunspawned hconnected =>
    have hnew : .mainLoop∉before.lock.line := by
      rw [inv.mainLoop,hselecting]
      exact fun h => by cases h
    exact {
      fair := inv.fair.ask hnew
      access := inv.access_ask
      connectTask := (mem_line_ask.trans (or_iff_left (fun h => by cases h))).trans inv.connectTask
      mainLoop := ⟨fun _ => rfl,fun _ => mem_line_ask.mpr (.inr rfl)⟩
      client := fun n =>
        (mem_line_ask.trans (or_iff_left (fun h => by cases h))).trans (inv.client n)
      calling := inv.calling
      stored := inv.stored
      storing := fun _ => ⟨hconnected,hunspawned⟩
      spawned := inv.spawned }
  | joinedFailed hselecting =>
    exact {
      fair := inv.fair
      access := inv.access
      connectTask := inv.connectTask
      mainLoop := by
        rw [inv.mainLoop,hselecting]
        exact ⟨(fun h => by cases h),fun h => by cases h⟩
      client := inv.client
      calling := inv.calling
      stored := inv.stored
      storing := fun h => by cases h
      spawned := inv.spawned }
  | sessionEnded hselecting =>
    exact {
      fair := inv.fair
      access := inv.access
      connectTask := inv.connectTask
      mainLoop := by
        rw [inv.mainLoop,hselecting]
        exact ⟨(fun h => by cases h),fun h => by cases h⟩
      client := inv.client
      calling := inv.calling
      stored := inv.stored
      storing := fun h => by cases h
      spawned := inv.spawned }
  | accepted =>
    refine inv.frame rfl rfl rfl rfl rfl (fun _ => busy_concat) fun h => ?_
    rcases getElem?_concat_iff.mp h with hold|⟨_,heq⟩
    · exact inv.calling hold
    · cases heq
  | @lineRead client line hreading =>
    have hnew : .client client∉before.lock.line := by
      rw [inv.client,busy_of hreading]
      exact fun h => by cases h
    exact {
      fair := inv.fair.ask hnew
      access := inv.access_ask
      connectTask := (mem_line_ask.trans (or_iff_left (fun h => by cases h))).trans inv.connectTask
      mainLoop := (mem_line_ask.trans (or_iff_left (fun h => by cases h))).trans inv.mainLoop
      client := fun n => by
        refine mem_line_ask.trans ((busy_set hreading).trans ?_).symm
        rw [inv.client]
        constructor
        · rintro (⟨rfl,_⟩|⟨_,hbusy⟩)
          · exact .inr rfl
          · exact .inl hbusy
        · rintro (hbusy|heq)
          · refine .inr ⟨?_,hbusy⟩
            rintro rfl
            exact hnew ((inv.client _).mpr hbusy)
          · exact .inl ⟨Party.client.inj heq,rfl⟩
      calling := fun h => (inv.calling_set rfl hreading (fun _ _ h => by cases h) h).2
      stored := inv.stored
      storing := inv.storing
      spawned := inv.spawned }
  | hungUp hreading =>
    exact inv.frame rfl rfl rfl rfl rfl (fun _ => busy_set_same hreading rfl)
      fun h => (inv.calling_set rfl hreading (fun _ _ h => by cases h) h).2
  | unconnected hasked hholds => exact inv.unlock hasked hholds rfl
  | invalid hasked hholds => exact inv.unlock hasked hholds rfl
  | @calls client request desk seen own hasked hholds hstored =>
    refine inv.frame rfl rfl rfl rfl rfl (fun _ => busy_set_same hasked rfl) fun h => ?_
    rcases (getElem?_set_iff hasked).mp h with ⟨rfl,_⟩|⟨_,hold⟩
    · exact ⟨hholds,hstored⟩
    · exact inv.calling hold
  | handOver => exact inv.frame rfl rfl rfl rfl rfl (fun _ => Iff.rfl) inv.calling
  | called hcalling _ _ htold =>
    refine inv.unlock hcalling (inv.calling hcalling).1 ?_
    rcases htold with ⟨response,_,rfl⟩|rfl
    · rfl
    · rfl
  | @wrote client response last success hwriting =>
    refine inv.frame rfl rfl rfl rfl rfl (fun _ => busy_set_same hwriting ?_)
      fun h => (inv.calling_set rfl hwriting (fun _ _ h => ?_) h).2
    · cases success <;> cases last <;> rfl
    · cases success <;> cases last <;> cases h
  | turnAway => exact inv.frame rfl rfl rfl rfl rfl (fun _ => Iff.rfl) inv.calling
  | turn => exact inv.frame rfl rfl rfl rfl rfl (fun _ => Iff.rfl) inv.calling

/-- In every run the line is as it should be. -/
theorem run_line (run : DaemonRun session log daemon) : LineInv daemon :=
  run.invariant (motive:=fun _ daemon => LineInv daemon) .start
    fun _ _ _ _ _ inv now => inv.step (step_move now).2

end Lines

section Quiet

/-- The calls of a daemon whose session was not started: each has a client, and none was
answered. -/
structure QuietInv (daemon : Daemon C) : Prop where
  /-- The session has not ended. -/
  running : (servingActor C).stopped daemon.desk.actor=false
  /-- What waits for room in the channel is the command of a client's call. -/
  owner : ∀ {number : ℕ} {command : Command},(number,command)∈daemon.desk.waiting →
    ∃ (n : ℕ) (request : Request),daemon.clients[n]?=some (.calling request number) ∧
      command=request.call.command number
  /-- A call waits for room, or for an answer, or needs none. -/
  stage : ∀ {n number : ℕ} {request : Request},daemon.clients[n]?=some (.calling request number) →
    (number,request.call.command number)∈daemon.desk.waiting ∨
    daemon.desk.calls[number]?=some .sent ∧ request≠.shutdown ∨
    daemon.desk.calls[number]?=some .delivered ∧ request=.shutdown
  /-- No two clients have one call. -/
  apart : ∀ {n m number : ℕ} {request request' : Request},
    daemon.clients[n]?=some (.calling request number) →
    daemon.clients[m]?=some (.calling request' number) → n=m
  /-- The calls were made. -/
  made : ∀ {n number : ℕ} {request : Request},daemon.clients[n]?=some (.calling request number) →
    number<daemon.desk.calls.length
  /-- None was answered. -/
  unanswered : ∀ (number : ℕ) (reply : Reply),daemon.desk.calls[number]?≠some (.answered reply)

/-- Nobody has called in the beginning. -/
theorem QuietInv.start : QuietInv (Daemon.start session) where
  running := start_running session
  owner h := by cases h
  stage h := by cases h
  apart h := by cases h
  made h := by cases h
  unanswered number reply h := by cases h

/-- Clients wait for all answers but that to a shutdown. -/
theorem address_command (request : Request) (number : ℕ) :
    ((servingActor C).address (request.call.command number)).isSome=true ↔ request≠.shutdown := by
  cases request with
  | status => exact ⟨(fun _ h => by cases h),fun _ => rfl⟩
  | getActivationCode ttlProfile => exact ⟨(fun _ h => by cases h),fun _ => rfl⟩
  | shutdown => exact ⟨(fun h => by cases h),fun h => absurd rfl h⟩

/-- The session is only ever started. -/
theorem unspawned_before (move : DaemonMove before event entries after)
    (h : after.sessionSpawned=false) : before.sessionSpawned=false := by
  cases move with
  | started => cases h
  | _ => exact h

/-- What changes no call changes nothing of this, if no call is waited for anew. -/
theorem QuietInv.frame (inv : QuietInv before) (hdesk : after.desk=before.desk)
    (hcalling : ∀ {n number : ℕ} {request : Request},
      after.clients[n]?=some (.calling request number) ↔
        before.clients[n]?=some (.calling request number)) : QuietInv after where
  running := hdesk ▸ inv.running
  owner h := by
    obtain ⟨n,request,hclient,hcommand⟩ := inv.owner (hdesk ▸ h)
    exact ⟨n,request,hcalling.mpr hclient,hcommand⟩
  stage h := hdesk ▸ inv.stage (hcalling.mp h)
  apart h h' := inv.apart (hcalling.mp h) (hcalling.mp h')
  made h := hdesk ▸ inv.made (hcalling.mp h)
  unanswered := hdesk ▸ inv.unanswered

/-- A client that waits for no call is served in another way, without a call. -/
theorem calling_set_iff {clients : List Service} (h : clients[client]?=some service)
    (hbefore : ∀ request number,service≠.calling request number)
    (hafter : ∀ request number,service'≠.calling request number) {request : Request} {number : ℕ} :
    (clients.set client service')[n]?=some (.calling request number) ↔
      clients[n]?=some (.calling request number) := by
  rw [getElem?_set_iff h]
  constructor
  · rintro (⟨_,heq⟩|⟨_,hold⟩)
    · exact absurd heq.symm (hafter _ _)
    · exact hold
  · refine fun hold => .inr ⟨?_,hold⟩
    rintro rfl
    exact hbefore _ _ (Option.some.inj (h.symm.trans hold))

/-- A call begins for a client. -/
theorem QuietInv.begin (inv : QuietInv before) {request : Request} {desk : ServingDesk C}
    {seen : Seen (List Output) Reply} (hasked : before.clients[client]?=some (.asked (.ok request)))
    (hstep : before.desk.step (servingActor C) commandCapacity
      (.call before.desk.calls.length (request.call.command before.desk.calls.length))=
      some (desk,seen)) :
    QuietInv {before with
      desk, clients := before.clients.set client (.calling request before.desk.calls.length)} := by
  cases Desk.step_move hstep with
  | call handle next own =>
    have hnew : ∀ {n number : ℕ} {request' : Request},(before.clients.set client
        (.calling request before.desk.calls.length))[n]?=some (.calling request' number) →
        (n=client ∧ request'=request ∧ number=before.desk.calls.length) ∨
        n≠client ∧ before.clients[n]?=some (.calling request' number) := by
      intro n number request' h
      rcases (getElem?_set_iff hasked).mp h with ⟨rfl,heq⟩|hold
      · obtain ⟨rfl,rfl⟩ := Service.calling.inj heq
        exact .inl ⟨rfl,rfl,rfl⟩
      · exact .inr hold
    exact {
      running := inv.running
      owner := fun {number command} h => by
        rcases List.mem_append.mp h with h|h
        · obtain ⟨n,request',hclient,hcommand⟩ := inv.owner h
          refine ⟨n,request',(getElem?_set_iff hasked).mpr (.inr ⟨?_,hclient⟩),hcommand⟩
          rintro rfl
          cases hasked.symm.trans hclient
        · obtain ⟨rfl,rfl⟩ := Prod.mk.inj (List.mem_singleton.mp h)
          exact ⟨client,request,(getElem?_set_iff hasked).mpr (.inl ⟨rfl,rfl⟩),rfl⟩
      stage := fun {n number request'} h => by
        rcases hnew h with ⟨rfl,rfl,rfl⟩|⟨_,hold⟩
        · exact .inl (List.mem_append_right _ (List.mem_singleton_self _))
        · rcases inv.stage hold with hwaits|⟨hsent,hnot⟩|⟨hdelivered,his⟩
          · exact .inl (List.mem_append_left _ hwaits)
          · exact .inr (.inl ⟨getElem?_concat_iff.mpr (.inl hsent),hnot⟩)
          · exact .inr (.inr ⟨getElem?_concat_iff.mpr (.inl hdelivered),his⟩)
      apart := fun {n m number request' request''} h h' => by
        rcases hnew h with ⟨rfl,_,rfl⟩|⟨_,hold⟩
        · rcases hnew h' with ⟨rfl,_,_⟩|⟨_,hold'⟩
          · rfl
          · exact absurd (inv.made hold') (Nat.lt_irrefl _)
        · rcases hnew h' with ⟨_,_,rfl⟩|⟨_,hold'⟩
          · exact absurd (inv.made hold) (Nat.lt_irrefl _)
          · exact inv.apart hold hold'
      made := fun {n number request'} h => by
        rw [List.length_append,List.length_singleton]
        rcases hnew h with ⟨_,_,rfl⟩|⟨_,hold⟩
        · exact Nat.lt_succ_self _
        · exact Nat.lt_succ_of_lt (inv.made hold)
      unanswered := fun number reply h => by
        rcases getElem?_concat_iff.mp h with hold|⟨_,heq⟩
        · exact inv.unanswered number reply hold
        · cases heq }

/-- A command goes into the channel. -/
theorem QuietInv.handOver (inv : QuietInv before) (deskInv : before.desk.Inv (servingActor C)
      commandCapacity) {call : ℕ} {command : Command} {desk : ServingDesk C}
    {seen : Seen (List Output) Reply}
    (hstep : before.desk.step (servingActor C) commandCapacity (.handOver call command)=
      some (desk,seen)) : QuietInv {before with desk} := by
  cases Desk.step_move hstep with
  | handOver running room =>
    have hwaits := List.mem_of_mem_take room
    have hstage := (deskInv.sending call).mpr (List.mem_map.mpr ⟨_,hwaits,rfl⟩)
    obtain ⟨owner,asked,howner,hcommand⟩ := inv.owner hwaits
    exact {
      running := inv.running
      owner := fun h => inv.owner (Desk.mem_leave.mp h).1
      stage := fun {n number request} h => by
        by_cases hn : number=call
        · subst hn
          obtain rfl := inv.apart h howner
          obtain ⟨rfl,_⟩ := Service.calling.inj (Option.some.inj (h.symm.trans howner))
          have haddress := address_command (C:=C) request number
          rw [←hcommand] at haddress
          by_cases hshutdown : request=.shutdown
          · have hsilent := mt haddress.mp (fun h => h hshutdown)
            refine .inr (.inr ⟨(getElem?_set_iff hstage).mpr (.inl ⟨rfl,?_⟩),hshutdown⟩)
            exact (if_neg hsilent).symm
          · refine .inr (.inl ⟨(getElem?_set_iff hstage).mpr (.inl ⟨rfl,?_⟩),hshutdown⟩)
            exact (if_pos (haddress.mpr hshutdown)).symm
        · rcases inv.stage h with hold|⟨hsent,hnot⟩|⟨hdelivered,his⟩
          · exact .inl (Desk.mem_leave.mpr ⟨hold,hn⟩)
          · exact .inr (.inl ⟨(getElem?_set_iff hstage).mpr (.inr ⟨hn,hsent⟩),hnot⟩)
          · exact .inr (.inr ⟨(getElem?_set_iff hstage).mpr (.inr ⟨hn,hdelivered⟩),his⟩)
      apart := inv.apart
      made := fun h => by
        rw [List.length_set]
        exact inv.made h
      unanswered := fun number reply h => by
        rcases (getElem?_set_iff hstage).mp h with ⟨_,heq⟩|⟨_,hold⟩
        · split at heq
          · cases heq
          · cases heq
        · exact inv.unanswered number reply hold }

/-- Only the call for a shutdown returns. -/
theorem QuietInv.returns (inv : QuietInv before) (deskInv : before.desk.Inv (servingActor C)
      commandCapacity) {request : Request} {number : ℕ} {desk : ServingDesk C}
    {result : Result Reply} (hcalling : before.clients[client]?=some (.calling request number))
    (hstep : before.desk.step (servingActor C) commandCapacity (.result number)=
      some (desk,.returns result)) :
    request=.shutdown ∧ result=.delivered ∧ before.desk.calls[number]?=some .delivered ∧
      desk={before.desk with
        waiting := before.desk.leave number, calls := before.desk.calls.set number .finished} := by
  cases Desk.step_move hstep with
  | result returns =>
    have hdelivered : before.desk.calls[number]?=some .delivered ∧ result=.delivered := by
      unfold Desk.outcome at returns
      rw [inv.running] at returns
      split at returns
      next => cases returns
      next => cases returns
      next h => exact ⟨h,(Option.some.inj returns).symm⟩
      next h => exact absurd h (inv.unanswered _ _)
      next => cases returns
    refine ⟨?_,hdelivered.2,hdelivered.1,rfl⟩
    rcases inv.stage hcalling with hwaits|⟨hsent,_⟩|⟨_,his⟩
    · have hsending := (deskInv.sending number).mpr (List.mem_map.mpr ⟨_,hwaits,rfl⟩)
      cases hsending.symm.trans hdelivered.1
    · cases hsent.symm.trans hdelivered.1
    · exact his

/-- The call for a client returns. -/
theorem QuietInv.called (inv : QuietInv before) (deskInv : before.desk.Inv (servingActor C)
      commandCapacity) {request : Request} {number : ℕ} {desk : ServingDesk C}
    {result : Result Reply} (hcalling : before.clients[client]?=some (.calling request number))
    (hservice : ∀ request number,service'≠.calling request number)
    (hstep : before.desk.step (servingActor C) commandCapacity (.result number)=
      some (desk,.returns result)) {lock : Lock Party} :
    QuietInv {before with desk, lock, clients := before.clients.set client service'} := by
  obtain ⟨_,_,hdelivered,rfl⟩ := inv.returns deskInv hcalling hstep
  have hold : ∀ {n number' : ℕ} {request' : Request},(before.clients.set client service')[n]?=
      some (.calling request' number') →
      before.clients[n]?=some (.calling request' number') ∧ number'≠number := by
    intro n number' request' h
    rcases (getElem?_set_iff hcalling).mp h with ⟨_,heq⟩|⟨hne,hold⟩
    · exact absurd heq.symm (hservice _ _)
    · refine ⟨hold,?_⟩
      rintro rfl
      exact hne (inv.apart hold hcalling)
  exact {
    running := inv.running
    owner := fun {number' command} h => by
      obtain ⟨hwaits,hne⟩ := Desk.mem_leave.mp h
      obtain ⟨n,request',hclient,hcommand⟩ := inv.owner hwaits
      refine ⟨n,request',(getElem?_set_iff hcalling).mpr (.inr ⟨?_,hclient⟩),hcommand⟩
      rintro rfl
      exact hne (Service.calling.inj (Option.some.inj (hclient.symm.trans hcalling))).2
    stage := fun {n number' request'} h => by
      obtain ⟨hclient,hne⟩ := hold h
      rcases inv.stage hclient with hwaits|⟨hsent,hnot⟩|⟨hgiven,his⟩
      · exact .inl (Desk.mem_leave.mpr ⟨hwaits,hne⟩)
      · exact .inr (.inl ⟨(getElem?_set_iff hdelivered).mpr (.inr ⟨hne,hsent⟩),hnot⟩)
      · exact .inr (.inr ⟨(getElem?_set_iff hdelivered).mpr (.inr ⟨hne,hgiven⟩),his⟩)
    apart := fun h h' => inv.apart (hold h).1 (hold h').1
    made := fun h => by
      rw [List.length_set]
      exact inv.made (hold h).1
    unanswered := fun number' reply h => by
      rcases (getElem?_set_iff hdelivered).mp h with ⟨_,heq⟩|⟨_,hrest⟩
      · cases heq
      · exact inv.unanswered number' reply hrest }

/-- A step that leaves the session to be started keeps this. -/
theorem QuietInv.step (inv : QuietInv before) (deskInv : before.desk.Inv (servingActor C)
      commandCapacity) (move : DaemonMove before event entries after)
    (hunspawned : after.sessionSpawned=false) : QuietInv after := by
  have hbefore := unspawned_before move hunspawned
  cases move with
  | connected => exact inv.frame rfl Iff.rfl
  | notConnected => exact inv.frame rfl Iff.rfl
  | granted => exact inv.frame rfl Iff.rfl
  | stored => exact inv.frame rfl Iff.rfl
  | started => cases hunspawned
  | joined => exact inv.frame rfl Iff.rfl
  | joinedFailed => exact inv.frame rfl Iff.rfl
  | sessionEnded => exact inv.frame rfl Iff.rfl
  | accepted =>
    refine inv.frame rfl ⟨fun h => ?_,fun h => getElem?_concat_iff.mpr (.inl h)⟩
    rcases getElem?_concat_iff.mp h with hold|⟨_,heq⟩
    · exact hold
    · cases heq
  | lineRead hreading =>
    exact inv.frame rfl (calling_set_iff hreading (fun _ _ h => by cases h) fun _ _ h => by cases h)
  | hungUp hreading =>
    exact inv.frame rfl (calling_set_iff hreading (fun _ _ h => by cases h) fun _ _ h => by cases h)
  | unconnected hasked =>
    exact inv.frame rfl (calling_set_iff hasked (fun _ _ h => by cases h) fun _ _ h => by cases h)
  | invalid hasked =>
    exact inv.frame rfl (calling_set_iff hasked (fun _ _ h => by cases h) fun _ _ h => by cases h)
  | calls hasked _ _ hbegins hstep => exact inv.begin hasked (hbegins ▸ hstep)
  | handOver hstep => exact inv.handOver deskInv hstep
  | called hcalling hstep _ htold =>
    refine inv.called deskInv hcalling ?_ hstep
    rintro request number rfl
    rcases htold with ⟨response,_,heq⟩|heq
    · cases heq
    · cases heq
  | @wrote client response last success hwriting =>
    refine inv.frame rfl (calling_set_iff hwriting (fun _ _ h => by cases h) fun _ _ h => ?_)
    cases success <;> cases last <;> cases h
  | turnAway hspawned =>
    rw [hbefore] at hspawned
    cases hspawned
  | turn hspawned =>
    rw [hbefore] at hspawned
    cases hspawned

/-- At all times of a run the channel and its calls are as they should be. -/
theorem run_deskInv (run : DaemonRun session log daemon) :
    daemon.desk.Inv (servingActor C) commandCapacity :=
  (run_desk run).inv (start_running session)

/-- Until the session is started, none of its calls was answered. -/
theorem run_quiet (run : DaemonRun session log daemon) (h : daemon.sessionSpawned=false) :
    QuietInv daemon := by
  induction run with
  | start => exact .start
  | next earlier now ih =>
    have hmove := (step_move now).2
    exact (ih (unspawned_before hmove h)).step (run_deskInv earlier) hmove h

end Quiet

end WispersConnect.DaemonLine
