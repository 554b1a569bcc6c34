import WispersConnect.DaemonLine
import Mathlib.Data.List.TakeWhile

/-!
# Who comes before the session is started

The handle is there before the session runs. What is asked for by those who come to the handle
in between is the same after each step until the session is started.
-/

namespace WispersConnect.DaemonBetween

open ListEntries PeerSigning ServingLoop ServingCalls Runs Mailboxes MailboxRuns ReadWriteLocks
open DaemonRequests DaemonLine

variable {C : PeerCrypto} {session : ServingLoop.ServingSession C}
  {daemon before after : Daemon C} {event : DaemonEvent} {entries : List ServingDeskEntry}
  {log : List DaemonEntry} {client n : ℕ} {service service' : Service}

section Between

/-- What a client asks for needs an answer of the session. -/
def needsAnswer : Service→Bool
  | .asked (.ok request) => request≠.shutdown
  | .calling request _ => request≠.shutdown
  | _ => false

/-- What a client asks for is yet to go into the channel, and needs no answer. -/
def needsRoom (calls : List (Stage Reply)) : Service→Bool
  | .asked (.ok .shutdown) => true
  | .calling .shutdown number => calls[number]?=some .sending
  | _ => false

/-- The party is a client of which something is so. -/
def isSo (daemon : Daemon C) (p : Service→Bool) : Party→Bool
  | .client n => daemon.clients[n]?.any p
  | _ => false

/-- Those who come to the handle after it was put there, and before the session is started. -/
def between (daemon : Daemon C) : List Party :=
  match daemon.connectTask with
  | .storing => (daemon.lock.line.dropWhile (· ≠ .connectTask)).tail
  | .connected => daemon.lock.line.takeWhile (· ≠ .mainLoop)
  | _ => []

/-- None of those needs an answer of the session, and there is room for their commands. -/
structure Clear (daemon : Daemon C) : Prop where
  /-- None needs an answer. -/
  answers : ∀ party∈between daemon,isSo daemon needsAnswer party=false
  /-- There is room. -/
  room : daemon.desk.mailbox.length+
    (between daemon).countP (isSo daemon (needsRoom daemon.desk.calls)) ≤ commandCapacity

/-- A step that takes some of those away who ask for nothing, and changes no other. -/
theorem clear_filter (kept : Party→Bool) (hbetween : between after=(between before).filter kept)
    (hkept : ∀ party∈between before,kept party=true →
      isSo after needsAnswer party=isSo before needsAnswer party ∧
      isSo after (needsRoom after.desk.calls) party=
        isSo before (needsRoom before.desk.calls) party)
    (hgone : ∀ party∈between before,kept party=false → isSo before needsAnswer party=false ∧
      isSo before (needsRoom before.desk.calls) party=false)
    (hmailbox : after.desk.mailbox.length=before.desk.mailbox.length) :
    Clear after ↔ Clear before := by
  have hcount : (between after).countP (isSo after (needsRoom after.desk.calls))=
      (between before).countP (isSo before (needsRoom before.desk.calls)) := by
    rw [hbetween,List.countP_filter]
    refine List.countP_congr fun party hparty => ?_
    cases hk : kept party with
    | true => rw [(hkept party hparty hk).2,Bool.and_true]
    | false => rw [(hgone party hparty hk).2,Bool.and_false]
  constructor
  · intro clear
    refine ⟨fun party hparty => ?_,by rw [←hcount,←hmailbox]; exact clear.room⟩
    cases hk : kept party with
    | true =>
      rw [←(hkept party hparty hk).1]
      exact clear.answers party (hbetween ▸ List.mem_filter.mpr ⟨hparty,hk⟩)
    | false => exact (hgone party hparty hk).1
  · intro clear
    refine ⟨fun party hparty => ?_,by rw [hcount,hmailbox]; exact clear.room⟩
    rw [hbetween] at hparty
    obtain ⟨hparty,hk⟩ := List.mem_filter.mp hparty
    rw [(hkept party hparty hk).1]
    exact clear.answers party hparty

/-- A step that changes none of those. -/
theorem clear_same (hbetween : between after=between before)
    (hsame : ∀ party∈between before,
      isSo after needsAnswer party=isSo before needsAnswer party ∧
      isSo after (needsRoom after.desk.calls) party=
        isSo before (needsRoom before.desk.calls) party)
    (hmailbox : after.desk.mailbox.length=before.desk.mailbox.length) :
    Clear after ↔ Clear before := by
  refine clear_filter (fun _ => true) ?_ (fun party hparty _ => hsame party hparty)
    (fun party _ h => by cases h) hmailbox
  rw [hbetween,List.filter_true]

/-- While nobody can be in between, nothing is in the way. -/
theorem clear_of_none (deskInv : daemon.desk.Inv (servingActor C) commandCapacity)
    (h : between daemon=[]) : Clear daemon where
  answers party hparty := by
    rw [h] at hparty
    cases hparty
  room := by
    rw [h]
    exact deskInv.room

/-- What is so of a client that is served in another way. -/
theorem isSo_set {p : Service→Bool} {clients : List Service} (hclients :
      after.clients=clients.set client service') (hbefore : before.clients=clients) {party : Party}
    (hne : party≠.client client) : isSo after p party=isSo before p party := by
  cases party with
  | client n =>
    have hn : client≠n := fun heq => hne (congrArg _ heq.symm)
    simp only [isSo,hclients,hbefore,List.getElem?_set_ne hn]
  | connectTask => rfl
  | mainLoop => rfl

/-- What is so of a client at a known point. -/
theorem isSo_of {p : Service→Bool} (h : daemon.clients[n]?=some service) :
    isSo daemon p (.client n)=p service := by
  simp only [isSo,h,Option.any_some]

/-- Those in between are in line. -/
theorem mem_line_of_between {party : Party} (h : party∈between daemon) :
    party∈daemon.lock.line := by
  unfold between at h
  split at h
  next => exact (List.dropWhile_sublist _).subset (List.mem_of_mem_tail h)
  next => exact (List.takeWhile_sublist _).subset h
  next => cases h

/-- Those in between are at such a point. -/
theorem busy_of_between (inv : LineInv daemon) (h : .client n∈between daemon) :
    Busy daemon.clients n := (inv.client n).mp (mem_line_of_between h)

/-- Only clients hold the lock together with a client. -/
theorem clients_hold (inv : LineInv daemon)
    (holds : (.client client,.read)∈daemon.lock.holders) {party : Party}
    (h : party∈daemon.lock.holders.map Prod.fst) : ∃ n,party=.client n := by
  obtain ⟨⟨holder,access⟩,hmem,rfl⟩ := List.mem_map.mp h
  have haccess := inv.access _ (List.mem_append_left _ hmem)
  dsimp only at haccess
  cases holder with
  | client n => exact ⟨n,rfl⟩
  | connectTask =>
    subst haccess
    rw [inv.fair.alone hmem] at holds
    cases List.mem_singleton.mp holds
  | mainLoop =>
    subst haccess
    rw [inv.fair.alone hmem] at holds
    cases List.mem_singleton.mp holds

/-- The line in two parts. -/
theorem line_eq (lock : Lock Party) :
    lock.line=lock.holders.map Prod.fst++lock.queue.map Prod.fst := List.map_append

/-- Once the handle is there, a client that holds the lock is in between, as long as the
session was not started. -/
theorem between_of_holds (inv : LineInv daemon) (hconnected : daemon.connectTask=.connected)
    (holds : (.client client,.read)∈daemon.lock.holders) : .client client∈between daemon := by
  simp only [between,hconnected,line_eq]
  rw [List.takeWhile_append_of_pos]
  · exact List.mem_append_left _ (List.mem_map.mpr ⟨_,holds,rfl⟩)
  · intro party hparty
    obtain ⟨n,rfl⟩ := clients_hold inv holds hparty
    exact decide_eq_true (fun h => by cases h)

/-- The main loop is not in line while the task that connects is. -/
theorem not_mainLoop (inv : LineInv daemon) (h : daemon.mainLoop≠.storing) :
    ∀ party∈daemon.lock.line,decide (party≠.mainLoop)=true := by
  intro party hparty
  refine decide_eq_true ?_
  rintro rfl
  exact h (inv.mainLoop.mp hparty)

/-- Where the main loop is not in line, all are in between. -/
theorem between_connected (inv : LineInv daemon)
    (hconnected : daemon.connectTask=.connected) (h : daemon.mainLoop≠.storing) :
    between daemon=daemon.lock.line := by
  simp only [between,hconnected]
  exact List.takeWhile_eq_self_iff.mpr (not_mainLoop inv h)

/-- Who lets the lock go was before the task that connects, while that waits. -/
theorem between_storing (inv : LineInv daemon)
    (holds : (.client client,.read)∈daemon.lock.holders) (hstoring : daemon.connectTask=.storing) :
    between daemon=((daemon.lock.queue.map Prod.fst).dropWhile (· ≠ .connectTask)).tail := by
  simp only [between,hstoring,line_eq]
  rw [List.dropWhile_append_of_pos]
  intro party hparty
  obtain ⟨n,rfl⟩ := clients_hold inv holds hparty
  exact decide_eq_true (fun h => by cases h)

end Between

section Changes

/-- A client that is in between at a known point asks for nothing there. -/
theorem quiet_of {p : Service→Bool} (h : daemon.clients[n]?=some service)
    (hp : p service=false) : isSo daemon p (.client n)=false := by
  rw [isSo_of h,hp]

/-- What a step does with a client that is not in between changes nothing there. -/
theorem clear_set (hbetween : between after=between before)
    (hclients : after.clients=before.clients.set client service')
    (hout : .client client∉between before) (hdesk : after.desk=before.desk) :
    Clear after ↔ Clear before := by
  refine clear_same hbetween (fun party hparty => ?_) (by rw [hdesk])
  have hne : party≠.client client := fun heq => hout (heq ▸ hparty)
  rw [hdesk]
  exact ⟨isSo_set hclients rfl hne,isSo_set hclients rfl hne⟩

/-- A client that is not in between is served in another way. -/
theorem clear_setClient (hout : .client client∉between before) :
    Clear (before.setClient client service') ↔ Clear before := clear_set rfl rfl hout rfl

/-- The task that connects puts the handle there. -/
theorem clear_stored (inv : LineInv before) (hholds : (.connectTask,.write)∈before.lock.holders) :
    Clear {before with
      handleStored := true, connectTask := .connected
      lock := before.lock.release .connectTask} ↔ Clear before := by
  have hstoring := inv.connectTask.mp (mem_line_of_holds hholds)
  have halone := inv.fair.alone hholds
  have hmain : before.mainLoop≠.storing := fun h => by
    rw [(inv.storing h).1] at hstoring
    cases hstoring
  have hrest : (before.lock.release .connectTask).line=before.lock.queue.map Prod.fst := by
    simp only [line_eq,Lock.release,halone]
    rfl
  refine clear_same ?_ (fun party _ => ?_) rfl
  · simp only [between,hstoring,hrest,line_eq before.lock,halone]
    refine (List.takeWhile_eq_self_iff.mpr fun party hparty => ?_).trans rfl
    refine not_mainLoop inv hmain party ?_
    rw [line_eq]
    exact List.mem_append_right _ hparty
  · cases party <;> exact ⟨rfl,rfl⟩

/-- The main loop asks for the lock. -/
theorem clear_joined (inv : LineInv before) (hselecting : before.mainLoop=.selecting)
    (hconnected : before.connectTask=.connected) :
    Clear {before with
      mainLoop := .storing, lock := before.lock.ask .mainLoop .write} ↔ Clear before := by
  have hmain : before.mainLoop≠.storing := fun h => by
    rw [hselecting] at h
    cases h
  refine clear_same ?_ (fun party _ => ?_) rfl
  · rw [between_connected inv hconnected hmain]
    simp only [between,hconnected,line_ask]
    rw [List.takeWhile_append_of_pos (not_mainLoop inv hmain)]
    exact List.append_nil _
  · cases party <;> exact ⟨rfl,rfl⟩

/-- A client is told that there is no handle. -/
theorem clear_unconnected (inv : LineInv before)
    (hholds : (.client client,.read)∈before.lock.holders) (hnone : before.handleStored=false) :
    Clear ((before.setClient client service').unlock client) ↔ Clear before := by
  have hnot : before.connectTask≠.connected := fun h => by
    rw [inv.stored.mpr h] at hnone
    cases hnone
  refine clear_set ?_ rfl ?_ rfl
  · cases hconnect : before.connectTask with
    | storing =>
      rw [between_storing inv hholds hconnect]
      simp only [between,Daemon.unlock,Daemon.setClient,hconnect,line_eq]
      rw [List.dropWhile_append_of_pos]
      · rfl
      · intro party hparty
        obtain ⟨entry,hentry,rfl⟩ := List.mem_map.mp hparty
        obtain ⟨n,hn⟩ := clients_hold inv hholds
          (List.mem_map.mpr ⟨entry,(mem_release.mp hentry).1,rfl⟩)
        rw [hn]
        exact decide_eq_true (fun h => by cases h)
    | connected => exact absurd hconnect hnot
    | connecting => simp only [between,Daemon.unlock,Daemon.setClient,hconnect]
    | failed => simp only [between,Daemon.unlock,Daemon.setClient,hconnect]
  · intro hmem
    cases hconnect : before.connectTask with
    | storing =>
      rw [between_storing inv hholds hconnect] at hmem
      obtain ⟨⟨waiter,access⟩,hwaits,rfl⟩ := List.mem_map.mp
        ((List.dropWhile_sublist _).subset (List.mem_of_mem_tail hmem))
      exact inv.fair.not_waits hholds hwaits
    | connected => exact absurd hconnect hnot
    | connecting =>
      simp only [between,hconnect] at hmem
      cases hmem
    | failed =>
      simp only [between,hconnect] at hmem
      cases hmem

/-- A client that asked for nothing, or has it, lets the lock go. -/
theorem clear_unlock (inv : LineInv before) (desk : ServingDesk C)
    (hconnected : before.connectTask=.connected) (hclient : before.clients[client]?=some service)
    (hholds : (.client client,.read)∈before.lock.holders) (hanswer : needsAnswer service=false)
    (hroom : needsRoom before.desk.calls service=false)
    (hmailbox : desk.mailbox.length=before.desk.mailbox.length)
    (hothers : ∀ m∈between before,m≠.client client →
      isSo before (needsRoom desk.calls) m=isSo before (needsRoom before.desk.calls) m) :
    Clear {before with
      desk, clients := before.clients.set client service'
      lock := before.lock.release (.client client)} ↔ Clear before := by
  refine clear_filter (fun party => party≠.client client) ?_ (fun party hparty hk => ?_)
    (fun party _ hk => ?_) hmailbox
  · simp only [between,hconnected]
    rw [inv.fair.line_release hholds]
    refine takeWhile_filter_kept (fun party hp => decide_eq_true ?_) _
    rintro rfl
    exact absurd hp (Bool.eq_false_iff.not.mpr (not_not.mpr (decide_eq_true (fun h => by cases h))))
  · have hne := of_decide_eq_true hk
    exact ⟨isSo_set rfl rfl hne,(isSo_set rfl rfl hne).trans (hothers party hparty hne)⟩
  · have heq : party=.client client := by
      by_contra hne
      rw [decide_eq_true hne] at hk
      cases hk
    subst heq
    exact ⟨quiet_of hclient hanswer,quiet_of hclient hroom⟩

/-- The calls that wait for room are no others when a call begins. -/
theorem needsRoom_concat {calls : List (Stage Reply)}
    (h : ∀ request number,service=.calling request number → number<calls.length) :
    needsRoom (calls++[.sending]) service=needsRoom calls service := by
  unfold needsRoom
  split
  next => rfl
  next number => rw [List.getElem?_append_left (h _ _ rfl)]
  next => rfl

/-- A call begins for a client. -/
theorem clear_begin (inv : LineInv before) (quiet : QuietInv before) {request : Request}
    {desk : ServingDesk C} {seen : Seen (List Output) Reply}
    (hasked : before.clients[client]?=some (.asked (.ok request)))
    (hstep : before.desk.step (servingActor C) commandCapacity
      (.call before.desk.calls.length (request.call.command before.desk.calls.length))=
      some (desk,seen)) :
    Clear {before with
      desk, clients := before.clients.set client (.calling request before.desk.calls.length)} ↔
      Clear before := by
  cases Desk.step_move hstep with
  | call handle next own =>
    refine clear_same rfl (fun party hparty => ?_) rfl
    by_cases hne : party=.client client
    · subst hne
      have hlt := (List.getElem?_eq_some_iff.mp hasked).1
      have hnow : (before.clients.set client
          (.calling request before.desk.calls.length))[client]?=
          some (.calling request before.desk.calls.length) := List.getElem?_set_self hlt
      simp only [isSo,hnow,hasked,Option.any_some]
      refine ⟨rfl,?_⟩
      cases request with
      | status => rfl
      | getActivationCode ttlProfile => rfl
      | shutdown => exact decide_eq_true List.getElem?_concat_length
    · refine ⟨isSo_set rfl rfl hne,(isSo_set rfl rfl hne).trans ?_⟩
      cases party with
      | client n =>
        obtain ⟨service,hservice,-⟩ := busy_of_between inv hparty
        rw [isSo_of hservice,isSo_of hservice]
        refine needsRoom_concat fun request' number heq => quiet.made (heq ▸ hservice)
      | connectTask => rfl
      | mainLoop => rfl

/-- A command goes into the channel. -/
theorem clear_handOver (inv : LineInv before) (quiet : QuietInv before)
    (deskInv : before.desk.Inv (servingActor C) commandCapacity) {call : ℕ} {command : Command}
    {desk : ServingDesk C} {seen : Seen (List Output) Reply}
    (hstep : before.desk.step (servingActor C) commandCapacity (.handOver call command)=
      some (desk,seen)) : Clear {before with desk} ↔ Clear before := by
  cases Desk.step_move hstep with
  | handOver running room =>
    have hwaits := List.mem_of_mem_take room
    have hstage := (deskInv.sending call).mpr (List.mem_map.mpr ⟨_,hwaits,rfl⟩)
    obtain ⟨n,request,hclient,rfl⟩ := quiet.owner hwaits
    have hmem := between_of_holds inv (inv.stored.mp (inv.calling hclient).2)
      (inv.calling hclient).1
    by_cases hrequest : request=.shutdown
    · subst hrequest
      have hdistinct : (between before).Nodup := by
        simp only [between,inv.stored.mp (inv.calling hclient).2]
        exact inv.fair.distinct.sublist (List.takeWhile_sublist _)
      have hcount := countP_one_less (f:=isSo before (needsRoom before.desk.calls))
        (g:=isSo before (needsRoom (before.desk.calls.set call .delivered))) hdistinct hmem ?_ ?_ ?_
      · constructor
        · intro clear
          refine ⟨clear.answers,?_⟩
          have hroom := clear.room
          rw [List.length_append,List.length_singleton] at hroom
          rw [hcount,←Nat.add_assoc,Nat.add_right_comm]
          exact hroom
        · intro clear
          refine ⟨clear.answers,?_⟩
          have hroom := clear.room
          rw [hcount,←Nat.add_assoc,Nat.add_right_comm] at hroom
          rw [List.length_append,List.length_singleton]
          exact hroom
      · rw [isSo_of hclient]
        exact decide_eq_true hstage
      · rw [isSo_of hclient]
        refine decide_eq_false fun h => ?_
        rcases (getElem?_set_iff hstage).mp h with ⟨_,heq⟩|⟨hne,_⟩
        · cases heq
        · exact hne rfl
      · intro party hparty hne
        cases party with
        | client m =>
          obtain ⟨service,hservice,-⟩ := busy_of_between inv hparty
          rw [isSo_of hservice,isSo_of hservice]
          unfold needsRoom
          split
          next => rfl
          next number =>
            refine decide_eq_decide.mpr ?_
            have hnumber : number≠call := by
              rintro rfl
              exact hne (congrArg _ (quiet.apart hservice hclient))
            rw [List.getElem?_set_ne (Ne.symm hnumber)]
          next => rfl
        | connectTask => rfl
        | mainLoop => rfl
    · have hanswer : needsAnswer (.calling request call)=true := decide_eq_true hrequest
      have hneeds : isSo before needsAnswer (.client n)=true := (isSo_of hclient).trans hanswer
      refine ⟨fun clear => ?_,fun clear => ?_⟩
      · exact absurd (hneeds.symm.trans (clear.answers _ hmem)) (fun h => by cases h)
      · exact absurd (hneeds.symm.trans (clear.answers _ hmem)) (fun h => by cases h)

/-- The call for a client returns. -/
theorem clear_called (inv : LineInv before) (quiet : QuietInv before)
    (deskInv : before.desk.Inv (servingActor C) commandCapacity) {request : Request} {number : ℕ}
    {desk : ServingDesk C} {result : Result Reply}
    (hcalling : before.clients[client]?=some (.calling request number))
    (hstep : before.desk.step (servingActor C) commandCapacity (.result number)=
      some (desk,.returns result)) :
    Clear {before with
      desk, clients := before.clients.set client service'
      lock := before.lock.release (.client client)} ↔ Clear before := by
  obtain ⟨rfl,_,hdelivered,rfl⟩ := quiet.returns deskInv hcalling hstep
  have hholds := inv.calling hcalling
  refine clear_unlock inv _ (inv.stored.mp hholds.2) hcalling hholds.1 rfl ?_ rfl ?_
  · refine decide_eq_false fun h => ?_
    cases h.symm.trans hdelivered
  · intro party hparty hne
    cases party with
    | client m =>
      obtain ⟨service,hservice,-⟩ := busy_of_between inv hparty
      rw [isSo_of hservice,isSo_of hservice]
      unfold needsRoom
      split
      next => rfl
      next other =>
        have hnumber : other≠number := by
          rintro rfl
          exact hne (congrArg _ (quiet.apart hservice hcalling))
        rw [List.getElem?_set_ne (Ne.symm hnumber)]
      next => rfl
    | connectTask => rfl
    | mainLoop => rfl

/-- Before a step after which nothing is in the way, nothing was. -/
theorem clear_before (inv : LineInv before) (quiet : QuietInv before)
    (deskInv : before.desk.Inv (servingActor C) commandCapacity)
    (hunspawned : before.sessionSpawned=false) (move : DaemonMove before event entries after)
    (h : after.sessionSpawned=true ∨ Clear after) : Clear before := by
  have hgoes : after.sessionSpawned=before.sessionSpawned → Clear after := by
    intro hsame
    rcases h with h|h
    · rw [hsame,hunspawned] at h
      cases h
    · exact h
  cases move with
  | connected hconnecting =>
    exact clear_of_none deskInv (by simp only [between,hconnecting])
  | notConnected hconnecting =>
    exact clear_of_none deskInv (by simp only [between,hconnecting])
  | @granted lock hgrant =>
    have hiff : Clear {before with lock} ↔ Clear before := by
      refine clear_same ?_ (fun party _ => ?_) rfl
      · simp only [between,line_grant hgrant]
      · cases party <;> exact ⟨rfl,rfl⟩
    exact hiff.mp (hgoes rfl)
  | stored hholds => exact (clear_stored inv hholds).mp (hgoes rfl)
  | started hholds =>
    refine clear_of_none deskInv ?_
    have hconnected := (inv.storing (inv.mainLoop.mp (mem_line_of_holds hholds))).1
    simp only [between,hconnected,line_eq,inv.fair.alone hholds]
    rfl
  | joined hselecting _ hconnected => exact (clear_joined inv hselecting hconnected).mp (hgoes rfl)
  | joinedFailed _ _ hfailed => exact clear_of_none deskInv (by simp only [between,hfailed])
  | sessionEnded _ hspawned =>
    rw [hunspawned] at hspawned
    cases hspawned
  | accepted =>
    have hiff : Clear {before with clients := before.clients++[.reading]} ↔ Clear before := by
      refine clear_same rfl (fun party hparty => ?_) rfl
      cases party with
      | client n =>
        obtain ⟨service,hservice,-⟩ := busy_of_between inv hparty
        have hnow : (before.clients++[.reading])[n]?=some service :=
          getElem?_concat_iff.mpr (.inl hservice)
        simp only [isSo,hnow,hservice,and_self]
      | connectTask => exact ⟨rfl,rfl⟩
      | mainLoop => exact ⟨rfl,rfl⟩
    exact hiff.mp (hgoes rfl)
  | @lineRead client line hreading =>
    have clear := hgoes rfl
    have hout : .client client∉between before := fun hmem => by
      obtain ⟨service,hservice,hbusy⟩ := busy_of_between inv hmem
      obtain rfl := Option.some.inj (hreading.symm.trans hservice)
      cases hbusy
    have hne : ∀ party∈between before,party≠.client client := fun party hparty heq =>
      hout (heq ▸ hparty)
    have hsub : (between before).Sublist (between {before.setClient client (.asked line) with
        lock := before.lock.ask (.client client) .read}) := by
      simp only [between,Daemon.setClient,line_ask]
      split
      · exact tail_dropWhile_sublist_append _ _
      · exact takeWhile_sublist_append _ _
      · exact List.Sublist.refl _
    refine ⟨fun party hparty => ?_,?_⟩
    · have hthen := clear.answers party (hsub.subset hparty)
      rwa [isSo_set rfl rfl (hne party hparty)] at hthen
    · refine Nat.le_trans (Nat.add_le_add_left ?_ _) clear.room
      refine Nat.le_trans (Nat.le_of_eq ?_) hsub.countP_le
      refine List.countP_congr fun party hparty => ?_
      exact Iff.of_eq (congrArg (·=true) (isSo_set rfl rfl (hne party hparty)).symm)
  | hungUp hreading =>
    refine (clear_setClient fun hmem => ?_).mp (hgoes rfl)
    obtain ⟨service,hservice,hbusy⟩ := busy_of_between inv hmem
    obtain rfl := Option.some.inj (hreading.symm.trans hservice)
    cases hbusy
  | unconnected _ hholds hnone =>
    exact (clear_unconnected inv hholds hnone).mp (hgoes rfl)
  | invalid hasked hholds hstored =>
    exact (clear_unlock inv before.desk (inv.stored.mp hstored) hasked hholds rfl rfl rfl
      fun _ _ _ => rfl).mp (hgoes rfl)
  | calls hasked _ _ hbegins hstep =>
    exact (clear_begin inv quiet hasked (hbegins ▸ hstep)).mp (hgoes rfl)
  | handOver hstep => exact (clear_handOver inv quiet deskInv hstep).mp (hgoes rfl)
  | called hcalling hstep => exact (clear_called inv quiet deskInv hcalling hstep).mp (hgoes rfl)
  | wrote hwriting =>
    refine (clear_setClient fun hmem => ?_).mp (hgoes rfl)
    obtain ⟨service,hservice,hbusy⟩ := busy_of_between inv hmem
    obtain rfl := Option.some.inj (hwriting.symm.trans hservice)
    cases hbusy
  | turnAway hspawned =>
    rw [hunspawned] at hspawned
    cases hspawned
  | turn hspawned =>
    rw [hunspawned] at hspawned
    cases hspawned

end Changes

end WispersConnect.DaemonBetween
