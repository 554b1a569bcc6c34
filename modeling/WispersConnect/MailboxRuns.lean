import WispersConnect.Mailboxes

/-!
# Runs of a mailbox

Over every run of a desk, calls behave as if each happened at one moment between its beginning
and its return, and the messages are taken in the order in which they went into the mailbox. A
call that can not go on waits for no more than the messages ahead of its own.
-/

namespace WispersConnect.MailboxRuns

open Runs Mailboxes

variable {σ ι ω μ ρ : Type*}

section Histories

/-- The runs of a desk. -/
abbrev DeskRun [DecidableEq μ] (A : Actor σ ι ω μ ρ) (capacity : ℕ) (before : Desk σ μ ρ) :
    List (DeskEntry ι ω μ ρ)→Desk σ μ ρ→Prop :=
  Run (fun _ before entry after => before.step A capacity entry.1=some (after,entry.2)) before

/-- The runs of the party alone. -/
abbrev ActorRun (A : Actor σ ι ω μ ρ) (before : σ) : List (ι×ω)→σ→Prop :=
  Run (fun _ before entry after => A.step before entry.1=some (after,entry.2)) before

/-- What the party did. -/
def turns (log : List (DeskEntry ι ω μ ρ)) : List (ι×ω) :=
  log.filterMap fun entry => match entry with
    | (.turn event,.sends outputs) => some (event,outputs)
    | _ => none

/-- What the calls returned. -/
def results (log : List (DeskEntry ι ω μ ρ)) : List (ℕ×Result ρ) :=
  log.filterMap fun entry => match entry with
    | (.result number,.returns result) => some (number,result)
    | _ => none

/-- The calls that were made. -/
def begun (log : List (DeskEntry ι ω μ ρ)) : List (ℕ×μ) :=
  log.filterMap fun entry => match entry.1 with
    | .call number message => some (number,message)
    | _ => none

/-- The messages that went into the mailbox. -/
def handed (log : List (DeskEntry ι ω μ ρ)) : List μ :=
  log.filterMap fun entry => match entry.1 with
    | .handOver _ message => some message
    | _ => none

/-- The messages that the party took. -/
def taken (A : Actor σ ι ω μ ρ) (log : List (DeskEntry ι ω μ ρ)) : List μ :=
  (turns log).filterMap fun turn => (A.takes turn.1).join

/-- An event of the party takes the message of a call and replies to it. -/
def Serves (A : Actor σ ι ω μ ρ) (number : ℕ) (message : μ) (reply : ρ) (event : ι)
    (outputs : ω) : Prop :=
  A.takes event=some (some message) ∧ A.address message=some number ∧
    A.replies outputs=[(number,reply)]

/-- A reply to a call was sent after it began, by the event that took its message. -/
def AnsweredIn (A : Actor σ ι ω μ ρ) (log : List (DeskEntry ι ω μ ρ)) (number : ℕ) (reply : ρ)
    (later : List (DeskEntry ι ω μ ρ)) : Prop :=
  ∃ message event outputs earlier,Serves A number message reply event outputs ∧
    log=earlier++(.turn event,.sends outputs)::later ∧ (.call number message,.nothing)∈earlier

/-- A message of a call that asks for no reply went into the mailbox after the call began. -/
def DeliveredIn (A : Actor σ ι ω μ ρ) (log : List (DeskEntry ι ω μ ρ)) (number : ℕ)
    (later : List (DeskEntry ι ω μ ρ)) : Prop :=
  ∃ message earlier,A.address message=none ∧
    log=earlier++(.handOver number message,.nothing)::later ∧
    (.call number message,.nothing)∈earlier

/-- Calls behave as if each happened at one moment. -/
structure Linearizable (A : Actor σ ι ω μ ρ) (actor : σ) (log : List (DeskEntry ι ω μ ρ))
    (desk : Desk σ μ ρ) : Prop where
  /-- What the party did is a run of its own. -/
  alone : ActorRun A actor (turns log) desk.actor
  /-- The calls are numbered in the order in which they began. -/
  numbered : (begun log).map Prod.fst=List.range desk.calls.length
  /-- Messages are taken in the order in which they went into the mailbox. -/
  inOrder : taken A log<+:handed log
  /-- A call returns at most once. -/
  once : ((results log).map Prod.fst).Nodup
  /-- A reply that it returns was sent between its beginning and its return, by the event that
  took its message. -/
  between : ∀ number reply,(.result number,.returns (.answer reply))∈log →
    ∃ later,AnsweredIn A log number reply later ∧ (.result number,.returns (.answer reply))∈later
  /-- A call that returns no reply asked for none, and its message went into the mailbox between
  its beginning and its return. -/
  delivered : ∀ number,(.result number,.returns .delivered)∈log →
    ∃ later,DeliveredIn A log number later ∧ (.result number,.returns .delivered)∈later
  /-- That the party has stopped is true, and it has not stopped for want of handles. -/
  closed : ∀ number,(.result number,.returns .closed)∈log → A.stopped desk.actor=true ∧
    ∃ last∈(turns log).getLast?,A.takes last.1≠some none

variable {A : Actor σ ι ω μ ρ} {capacity : ℕ} {actor : σ} {log : List (DeskEntry ι ω μ ρ)}
  {desk before after : Desk σ μ ρ} {event : DeskEvent ι μ} {seen : Seen ω ρ}

@[simp] theorem turns_append (log : List (DeskEntry ι ω μ ρ)) (entry : DeskEntry ι ω μ ρ) :
    turns (log++[entry])=turns log++turns [entry] := List.filterMap_append

@[simp] theorem results_append (log : List (DeskEntry ι ω μ ρ)) (entry : DeskEntry ι ω μ ρ) :
    results (log++[entry])=results log++results [entry] := List.filterMap_append

@[simp] theorem begun_append (log : List (DeskEntry ι ω μ ρ)) (entry : DeskEntry ι ω μ ρ) :
    begun (log++[entry])=begun log++begun [entry] := List.filterMap_append

@[simp] theorem handed_append (log : List (DeskEntry ι ω μ ρ)) (entry : DeskEntry ι ω μ ρ) :
    handed (log++[entry])=handed log++handed [entry] := List.filterMap_append

/-- What the party did around one of its events. -/
theorem turns_around (earlier later : List (DeskEntry ι ω μ ρ)) (event : ι) (outputs : ω) :
    turns (earlier++(.turn event,.sends outputs)::later)=
      turns earlier++(event,outputs)::turns later := List.filterMap_append

@[simp] theorem taken_append (log : List (DeskEntry ι ω μ ρ)) (entry : DeskEntry ι ω μ ρ) :
    taken A (log++[entry])=taken A log++taken A [entry] := by
  rw [taken,turns_append,List.filterMap_append]
  rfl

/-- What was sent once stays so. -/
theorem AnsweredIn.append {number : ℕ} {reply : ρ} {later : List (DeskEntry ι ω μ ρ)}
    (h : AnsweredIn A log number reply later) (entry : DeskEntry ι ω μ ρ) :
    AnsweredIn A (log++[entry]) number reply (later++[entry]) := by
  obtain ⟨message,event,outputs,earlier,hserves,rfl,hcall⟩ := h
  exact ⟨message,event,outputs,earlier,hserves,List.append_assoc _ _ _,hcall⟩

/-- What went into the mailbox once stays so. -/
theorem DeliveredIn.append {number : ℕ} {later : List (DeskEntry ι ω μ ρ)}
    (h : DeliveredIn A log number later) (entry : DeskEntry ι ω μ ρ) :
    DeliveredIn A (log++[entry]) number (later++[entry]) := by
  obtain ⟨message,earlier,hasks,rfl,hcall⟩ := h
  exact ⟨message,earlier,hasks,List.append_assoc _ _ _,hcall⟩

/-- The messages that one event takes. -/
theorem taken_turn (event : ι) (outputs : ω) :
    taken A [((.turn event,.sends outputs) : DeskEntry ι ω μ ρ)]=(A.takes event).join.toList := by
  rw [taken,show turns [_]=[(event,outputs)] from rfl]
  cases htakes : (A.takes event).join with
  | none => exact List.filterMap_cons_none htakes
  | some message => exact List.filterMap_cons_some htakes

/-- What is taken is the front of what was in the mailbox or goes into it. The rest stays there
unless the party stops. -/
theorem move_queue (hmove : DeskMove A capacity before event seen after) :
    (A.stopped before.actor=false ∨ A.stopped after.actor=true ∧ taken A [(event,seen)]=[]) ∧
      ∃ rest,before.mailbox.map Prod.snd++handed [((event,seen) : DeskEntry ι ω μ ρ)]=
        taken A [(event,seen)]++rest ∧
        (A.stopped after.actor=false → rest=after.mailbox.map Prod.snd) := by
  have hkept : ∀ {actor : σ} {rest : List (ℕ×μ)},A.stopped actor=false →
      rest.map Prod.snd=(if A.stopped actor then [] else rest).map Prod.snd := by
    intro actor rest hrunning
    rw [hrunning,if_neg Bool.false_ne_true]
  have hsame : ∀ state : σ,A.stopped state=false ∨ A.stopped state=true ∧ ([] : List μ)=[] := by
    intro state
    cases A.stopped state with
    | true => exact .inr ⟨rfl,rfl⟩
    | false => exact .inl rfl
  cases hmove with
  | handOver running room =>
    refine ⟨.inl running,_,rfl,fun _ => ?_⟩
    rw [List.map_append]
    rfl
  | other away takes step =>
    rw [taken_turn,takes]
    exact ⟨.inl (A.running_of_step step),_,List.append_nil _,hkept⟩
  | closes takes empty handles step =>
    rw [taken_turn,takes]
    exact ⟨.inl (A.running_of_step step),_,List.append_nil _,fun hrunning =>
      absurd (hrunning.symm.trans (A.stops step takes)) Bool.false_ne_true⟩
  | takes free takes next silent step =>
    rw [taken_turn,takes,next]
    exact ⟨.inl (A.running_of_step step),_,List.append_nil _,hkept⟩
  | replies free takes next asks step sent =>
    rw [taken_turn,takes,next]
    exact ⟨.inl (A.running_of_step step),_,List.append_nil _,hkept⟩
  | _ => exact ⟨hsame _,_,List.append_nil _,fun _ => rfl⟩

/-- A reply that is there was there before, or is sent by the event that takes the message. -/
theorem move_answered (hmove : DeskMove A capacity before event seen after)
    (inv : before.Inv A capacity) {n : ℕ} {r : ρ} (h : after.calls[n]?=some (.answered r)) :
    before.calls[n]?=some (.answered r) ∨ ∃ message own outputs,event=.turn own ∧
      seen=.sends outputs ∧ Serves A n message r own outputs ∧ (n,message)∈before.mailbox := by
  cases hmove with
  | call =>
    by_cases hlt : n<before.calls.length
    · rw [List.getElem?_append_left hlt] at h
      exact .inl h
    · rw [List.getElem?_append_right (Nat.le_of_not_lt hlt)] at h
      cases List.mem_singleton.mp (List.mem_of_getElem? h)
  | handOver =>
    obtain ⟨_,hno⟩|⟨_,h⟩ := getElem?_set_eq_some h
    · split at hno <;> cases hno
    · exact .inl h
  | result | giveUp =>
    obtain ⟨_,hno⟩|⟨_,h⟩ := getElem?_set_eq_some h
    · cases hno
    · exact .inl h
  | @replies own actor outputs number target message rest reply free takes next asks step sent =>
    obtain ⟨rfl,_,heq⟩|⟨h,_⟩ := getElem?_reply_eq_some h
    · obtain rfl := Stage.answered.inj heq
      have hnumber := inv.target next asks
      refine .inr ⟨message,own,outputs,rfl,rfl,⟨takes,asks,sent⟩,?_⟩
      rw [next,hnumber]
      exact List.mem_cons_self
    · exact .inl h
  | _ => exact .inl h

/-- A message that is said to be in the mailbox was there before, or goes there. -/
theorem move_delivered (hmove : DeskMove A capacity before event seen after) {n : ℕ}
    (h : after.calls[n]?=some .delivered) : before.calls[n]?=some .delivered ∨
      ∃ message,event=.handOver n message ∧ seen=.nothing ∧ A.address message=none ∧
        (n,message)∈before.waiting := by
  cases hmove with
  | call =>
    by_cases hlt : n<before.calls.length
    · rw [List.getElem?_append_left hlt] at h
      exact .inl h
    · rw [List.getElem?_append_right (Nat.le_of_not_lt hlt)] at h
      cases List.mem_singleton.mp (List.mem_of_getElem? h)
  | @handOver number message running room =>
    obtain ⟨rfl,hstage⟩|⟨_,h⟩ := getElem?_set_eq_some h
    · refine .inr ⟨message,rfl,rfl,?_,List.mem_of_mem_take room⟩
      split at hstage
      next => cases hstage
      next hnone => exact Option.not_isSome_iff_eq_none.mp hnone
    · exact .inl h
  | result | giveUp =>
    obtain ⟨_,hno⟩|⟨_,h⟩ := getElem?_set_eq_some h
    · cases hno
    · exact .inl h
  | replies =>
    obtain ⟨_,_,hno⟩|⟨h,_⟩ := getElem?_reply_eq_some h
    · cases hno
    · exact .inl h
  | _ => exact .inl h

/-- A party that has stopped does nothing more. -/
theorem move_stopped (hmove : DeskMove A capacity before event seen after)
    (hstop : A.stopped before.actor=true) :
    after.actor=before.actor ∧ turns [((event,seen) : DeskEntry ι ω μ ρ)]=[] := by
  cases hmove with
  | other _ _ step | closes _ _ _ step | takes _ _ _ _ step | replies _ _ _ _ step =>
    exact absurd ((A.running_of_step step).symm.trans hstop) Bool.false_ne_true
  | _ => exact ⟨rfl,rfl⟩

/-- No call is under way and none can begin. -/
def Deserted (desk : Desk σ μ ρ) : Prop :=
  desk.handles=0 ∧ ∀ stage∈desk.calls,stage=.finished

/-- The desk of a party that has stopped stays deserted. -/
theorem move_deserted (hmove : DeskMove A capacity before event seen after)
    (hstop : A.stopped before.actor=true) (h : Deserted before) : Deserted after := by
  have hset : ∀ {number : ℕ},∀ stage∈before.calls.set number .finished,stage=Stage.finished := by
    intro number stage hmem
    obtain hmem|rfl := List.mem_or_eq_of_mem_set hmem
    · exact h.2 stage hmem
    · rfl
  cases hmove with
  | call handle | clone handle => exact absurd handle (Nat.not_lt.mpr (Nat.le_of_eq h.1))
  | handOver running => exact absurd (running.symm.trans hstop) Bool.false_ne_true
  | result | giveUp => exact ⟨h.1,hset⟩
  | drop => exact ⟨Nat.sub_eq_zero_of_le (Nat.le_succ_of_le (Nat.le_of_eq h.1)),h.2⟩
  | turnAway => exact h
  | other _ _ step | closes _ _ _ step | takes _ _ _ _ step | replies _ _ _ _ step =>
    exact absurd ((A.running_of_step step).symm.trans hstop) Bool.false_ne_true

end Histories

section Linear

variable [DecidableEq μ] {A : Actor σ ι ω μ ρ} {capacity : ℕ} {actor : σ}
  {log : List (DeskEntry ι ω μ ρ)} {desk : Desk σ μ ρ}

/-- The invariant holds in every run. -/
theorem DeskRun.inv (hrunning : A.stopped actor=false)
    (run : DeskRun A capacity (.start actor) log desk) : desk.Inv A capacity :=
  run.invariant (motive:=fun _ desk => desk.Inv A capacity) (.start actor hrunning)
    fun _ _ _ _ _ inv hstep => (Desk.step_move hstep).inv inv

/-- What the party does in a run is a run of its own. -/
theorem DeskRun.alone (run : DeskRun A capacity (.start actor) log desk) :
    ActorRun A actor (turns log) desk.actor := by
  refine run.invariant (motive:=fun log desk => ActorRun A actor (turns log) desk.actor) .start ?_
  intro log before entry after _ ih hstep
  obtain ⟨event,seen⟩ := entry
  rw [turns_append]
  cases Desk.step_move hstep with
  | other _ _ step => exact ih.next step
  | closes _ _ _ step => exact ih.next step
  | takes _ _ _ _ step => exact ih.next step
  | replies _ _ _ _ step _ => exact ih.next step
  | _ =>
    rw [show turns [_]=([] : List (ι×ω)) from rfl,List.append_nil]
    exact ih

/-- Calls are numbered in the order in which they begin. -/
theorem DeskRun.numbered (run : DeskRun A capacity (.start actor) log desk) :
    (begun log).map Prod.fst=List.range desk.calls.length := by
  refine run.invariant
    (motive:=fun log desk => (begun log).map Prod.fst=List.range desk.calls.length) rfl ?_
  intro log before entry after _ ih hstep
  obtain ⟨event,seen⟩ := entry
  rw [begun_append,List.map_append,ih]
  cases Desk.step_move hstep with
  | call handle next own =>
    rw [List.length_append,List.length_singleton,List.range_succ,next]
    rfl
  | handOver | result | giveUp =>
    rw [List.length_set]
    exact List.append_nil _
  | replies =>
    rw [List.length_modify]
    exact List.append_nil _
  | _ => exact List.append_nil _

/-- A call has one message. -/
theorem DeskRun.call_unique (run : DeskRun A capacity (.start actor) log desk) {number : ℕ}
    {message message' : μ} (h : (.call number message,.nothing)∈log)
    (h' : (.call number message',.nothing)∈log) : message=message' := by
  have hnodup : ((begun log).map Prod.fst).Nodup := by
    rw [DeskRun.numbered run]
    exact List.nodup_range
  have hmem : (number,message)∈begun log := List.mem_filterMap.mpr ⟨_,h,rfl⟩
  have hmem' : (number,message')∈begun log := List.mem_filterMap.mpr ⟨_,h',rfl⟩
  exact congrArg Prod.snd (List.inj_on_of_nodup_map hnodup hmem hmem' rfl)

/-- Messages are taken in the order in which they went into the mailbox, where those that are
not taken are, until the party stops. -/
theorem DeskRun.inOrder (run : DeskRun A capacity (.start actor) log desk) :
    taken A log<+:handed log ∧ (A.stopped desk.actor=false →
      handed log=taken A log++desk.mailbox.map Prod.snd) := by
  refine run.invariant (motive:=fun log desk => taken A log<+:handed log ∧
    (A.stopped desk.actor=false → handed log=taken A log++desk.mailbox.map Prod.snd))
    ⟨List.prefix_refl _,fun _ => rfl⟩ ?_
  intro log before entry after _ ih hstep
  obtain ⟨hinitial,hall⟩ := ih
  have hmove := Desk.step_move hstep
  obtain ⟨hwas,rest,hqueue,hrest⟩ := move_queue hmove
  rw [taken_append,handed_append]
  obtain hrunning|⟨hstop,hnone⟩ := hwas
  · have hmore : handed log++handed [entry]=taken A log++taken A [entry]++rest := by
      rw [hall hrunning,List.append_assoc,hqueue,List.append_assoc]
    refine ⟨⟨rest,hmore.symm⟩,fun hafter => ?_⟩
    rw [hmore,hrest hafter]
  · rw [hnone,List.append_nil]
    exact ⟨hinitial.trans (List.prefix_append _ _),fun hno =>
      absurd (hno.symm.trans hstop) Bool.false_ne_true⟩

/-- A call returns at most once. -/
theorem DeskRun.once (hrunning : A.stopped actor=false)
    (run : DeskRun A capacity (.start actor) log desk) :
    ((results log).map Prod.fst).Nodup ∧
      ∀ n∈(results log).map Prod.fst,desk.calls[n]?=some .finished := by
  refine run.invariant (motive:=fun log desk => ((results log).map Prod.fst).Nodup ∧
    ∀ n∈(results log).map Prod.fst,desk.calls[n]?=some .finished)
    ⟨List.nodup_nil,fun n hno => by cases hno⟩ ?_
  intro log before entry after earlier ih hstep
  obtain ⟨hnodup,hover⟩ := ih
  obtain ⟨event,seen⟩ := entry
  have hmove := Desk.step_move hstep
  have hkept := fun n hn => hmove.finished (DeskRun.inv hrunning earlier) (hover n hn)
  rw [results_append,List.map_append]
  cases hmove with
  | @result number result returns =>
    obtain ⟨stage,hget,hgoing,-⟩ := Desk.outcome_eq_some returns
    refine ⟨List.nodup_append.mpr ⟨hnodup,List.nodup_singleton _,?_⟩,?_⟩
    · intro n hn k hk
      rw [List.mem_singleton.mp hk]
      rintro rfl
      rw [hover n hn] at hget
      exact hgoing (Option.some.inj hget).symm
    · intro n hn
      obtain hn|hn := List.mem_append.mp hn
      · exact hkept n hn
      · rw [List.mem_singleton.mp hn]
        exact List.getElem?_set_self (List.getElem?_eq_some_iff.mp hget).1
  | _ =>
    rw [show (results [_]).map Prod.fst=([] : List ℕ) from rfl,List.append_nil]
    exact ⟨hnodup,hkept⟩

/-- What the log tells of the calls that are under way. -/
structure Told (A : Actor σ ι ω μ ρ) (log : List (DeskEntry ι ω μ ρ)) (desk : Desk σ μ ρ) :
    Prop where
  /-- A message that is not taken is that of a call that began. -/
  line : ∀ waiting∈desk.mailbox++desk.waiting,
    ((.call waiting.1 waiting.2,.nothing) : DeskEntry ι ω μ ρ)∈log
  /-- A reply that is there was sent. -/
  answered : ∀ number reply,desk.calls[number]?=some (.answered reply) →
    ∃ later,AnsweredIn A log number reply later
  /-- A message that is said to be in the mailbox went there. -/
  delivered : ∀ number,desk.calls[number]?=some .delivered → ∃ later,DeliveredIn A log number later

/-- The log tells of the calls that are under way. -/
theorem DeskRun.told (hrunning : A.stopped actor=false)
    (run : DeskRun A capacity (.start actor) log desk) : Told A log desk := by
  refine run.invariant (motive:=Told A) ?_ ?_
  · exact ⟨(fun _ hno => by cases hno),(fun _ _ hno => by cases hno),fun _ hno => by cases hno⟩
  · intro log before entry after earlier told hstep
    obtain ⟨event,seen⟩ := entry
    have hmove := Desk.step_move hstep
    have inv := DeskRun.inv hrunning earlier
    constructor
    case line =>
      intro waiting hw
      obtain hw|⟨rfl,rfl⟩ := hmove.line hw
      · exact List.mem_append_left _ (told.line waiting hw)
      · exact List.mem_append_right _ List.mem_cons_self
    case answered =>
      intro n r hn
      obtain hn|⟨message,own,outputs,rfl,rfl,hserves,hmem⟩ := move_answered hmove inv hn
      · obtain ⟨later,h⟩ := told.answered n r hn
        exact ⟨_,h.append _⟩
      · exact ⟨[],message,own,outputs,log,hserves,rfl,
          told.line (n,message) (List.mem_append_left _ hmem)⟩
    case delivered =>
      intro n hn
      obtain hn|⟨message,rfl,rfl,hasks,hmem⟩ := move_delivered hmove hn
      · obtain ⟨later,h⟩ := told.delivered n hn
        exact ⟨_,h.append _⟩
      · exact ⟨[],message,log,hasks,rfl,told.line (n,message) (List.mem_append_right _ hmem)⟩

/-- What goes into the mailbox is the message of a call that began. -/
theorem DeskRun.handed_called (hrunning : A.stopped actor=false)
    (run : DeskRun A capacity (.start actor) log desk) {message : μ} (h : message∈handed log) :
    ∃ number,(.call number message,.nothing)∈log := by
  refine run.invariant (motive:=fun log _ => message∈handed log →
    ∃ number,(.call number message,.nothing)∈log) (fun hno => by cases hno) ?_ h
  intro log before entry after earlier ih hstep hmem
  rw [handed_append] at hmem
  obtain hmem|hmem := List.mem_append.mp hmem
  · obtain ⟨number,hcall⟩ := ih hmem
    exact ⟨number,List.mem_append_left _ hcall⟩
  · obtain ⟨event,seen⟩ := entry
    cases Desk.step_move hstep with
    | @handOver number _ running room =>
      rw [List.mem_singleton.mp hmem]
      exact ⟨number,List.mem_append_left _ ((DeskRun.told hrunning earlier).line _
        (List.mem_append_right _ (List.mem_of_mem_take room)))⟩
    | _ => cases hmem

/-- A reply that a call returns was sent between its beginning and its return, by the event that
took its message. -/
theorem DeskRun.between (hrunning : A.stopped actor=false)
    (run : DeskRun A capacity (.start actor) log desk) (number : ℕ) (reply : ρ)
    (h : (.result number,.returns (.answer reply))∈log) : ∃ later,
      AnsweredIn A log number reply later ∧ (.result number,.returns (.answer reply))∈later := by
  refine run.invariant (motive:=fun log _ => (.result number,.returns (.answer reply))∈log →
    ∃ later,AnsweredIn A log number reply later ∧
      (.result number,.returns (.answer reply))∈later) (fun hno => by cases hno) ?_ h
  intro log before entry after earlier ih hstep hmem
  obtain hmem|hmem := List.mem_append.mp hmem
  · obtain ⟨later,h,hlater⟩ := ih hmem
    exact ⟨_,h.append entry,List.mem_append_left _ hlater⟩
  · obtain rfl := List.mem_singleton.mp hmem
    cases Desk.step_move hstep with
    | result returns =>
      obtain ⟨stage,hget,-,hstage,-⟩ := Desk.outcome_eq_some returns
      rw [hstage.1 reply rfl] at hget
      obtain ⟨later,h⟩ := (DeskRun.told hrunning earlier).answered number reply hget
      exact ⟨_,h.append _,List.mem_append_right _ List.mem_cons_self⟩

/-- The message of a call that returns no reply went into the mailbox between its beginning and
its return. -/
theorem DeskRun.delivered (hrunning : A.stopped actor=false)
    (run : DeskRun A capacity (.start actor) log desk) (number : ℕ)
    (h : (.result number,.returns .delivered)∈log) : ∃ later,
      DeliveredIn A log number later ∧ (.result number,.returns .delivered)∈later := by
  refine run.invariant (motive:=fun log _ => (.result number,.returns .delivered)∈log →
    ∃ later,DeliveredIn A log number later ∧ (.result number,.returns .delivered)∈later)
    (fun hno => by cases hno) ?_ h
  intro log before entry after earlier ih hstep hmem
  obtain hmem|hmem := List.mem_append.mp hmem
  · obtain ⟨later,h,hlater⟩ := ih hmem
    exact ⟨_,h.append entry,List.mem_append_left _ hlater⟩
  · obtain rfl := List.mem_singleton.mp hmem
    cases Desk.step_move hstep with
    | result returns =>
      obtain ⟨stage,hget,-,hstage,-⟩ := Desk.outcome_eq_some returns
      rw [hstage.2 rfl] at hget
      obtain ⟨later,h⟩ := (DeskRun.told hrunning earlier).delivered number hget
      exact ⟨_,h.append _,List.mem_append_right _ List.mem_cons_self⟩

/-- A party that has stopped did so because no message was left to come, in which case its desk
is deserted, or for another reason. -/
theorem DeskRun.stopped (hrunning : A.stopped actor=false)
    (run : DeskRun A capacity (.start actor) log desk) (hstop : A.stopped desk.actor=true) :
    ∃ last∈(turns log).getLast?,A.takes last.1=some none → Deserted desk := by
  refine run.invariant (motive:=fun log desk => A.stopped desk.actor=true →
    ∃ last∈(turns log).getLast?,A.takes last.1=some none → Deserted desk)
    (fun hno => absurd (hrunning.symm.trans hno) Bool.false_ne_true) ?_ hstop
  intro log before entry after earlier ih hstep hstop
  obtain ⟨event,seen⟩ := entry
  have hmove := Desk.step_move hstep
  rw [turns_append]
  cases hwas : A.stopped before.actor with
  | true =>
    obtain ⟨last,hmem,hlast⟩ := ih hwas
    rw [(move_stopped hmove hwas).2,List.append_nil]
    exact ⟨last,hmem,fun h => move_deserted hmove hwas (hlast h)⟩
  | false =>
    have hlast : ∀ {own : ι} {outputs : ω},(own,outputs)∈
        (turns log++turns [((.turn own,.sends outputs) : DeskEntry ι ω μ ρ)]).getLast? :=
      List.getLast?_concat
    cases hmove with
    | closes takes empty handles step =>
      refine ⟨_,hlast,fun _ => ⟨handles,fun stage hmem => ?_⟩⟩
      by_contra hgoing
      have hheld := (DeskRun.inv hrunning earlier).held ⟨stage,hmem,hgoing⟩
      exact absurd hheld (Nat.not_lt.mpr (Nat.le_of_eq handles))
    | other away takes step | takes free takes next silent step
    | replies free takes next asks step sent =>
      refine ⟨_,hlast,fun hno => ?_⟩
      rw [takes] at hno
      cases hno
    | _ => exact absurd (hwas.symm.trans hstop) Bool.false_ne_true

/-- That the party has stopped is true when a call returns it, and the party has not stopped for
want of handles. -/
theorem DeskRun.closed (hrunning : A.stopped actor=false)
    (run : DeskRun A capacity (.start actor) log desk) (number : ℕ)
    (h : (.result number,.returns .closed)∈log) : A.stopped desk.actor=true ∧
      ∃ last∈(turns log).getLast?,A.takes last.1≠some none := by
  refine run.invariant (motive:=fun log desk => (.result number,.returns .closed)∈log →
    A.stopped desk.actor=true ∧ ∃ last∈(turns log).getLast?,A.takes last.1≠some none)
    (fun hno => by cases hno) ?_ h
  intro log before entry after earlier ih hstep hmem
  obtain ⟨event,seen⟩ := entry
  have hmove := Desk.step_move hstep
  have hwas : A.stopped before.actor=true ∧
      ∃ last∈(turns log).getLast?,A.takes last.1≠some none := by
    obtain hmem|hmem := List.mem_append.mp hmem
    · exact ih hmem
    · obtain ⟨rfl,rfl⟩ := Prod.mk.inj (List.mem_singleton.mp hmem)
      cases hmove with
      | result returns =>
        obtain ⟨stage,hget,hgoing,-,hstop⟩ := Desk.outcome_eq_some returns
        obtain ⟨last,hlast,hwhy⟩ := DeskRun.stopped hrunning earlier (hstop rfl)
        exact ⟨hstop rfl,last,hlast,fun hno =>
          hgoing ((hwhy hno).2 stage (List.mem_of_getElem? hget))⟩
  obtain ⟨hactor,hnone⟩ := move_stopped hmove hwas.1
  rw [hactor,turns_append,hnone,List.append_nil]
  exact hwas

/-- Over every run, calls behave as if each happened at one moment between its beginning and its
return. -/
theorem DeskRun.linearizable (hrunning : A.stopped actor=false)
    (run : DeskRun A capacity (.start actor) log desk) : Linearizable A actor log desk where
  alone := DeskRun.alone run
  numbered := DeskRun.numbered run
  inOrder := (DeskRun.inOrder run).1
  once := (DeskRun.once hrunning run).1
  between := DeskRun.between hrunning run
  delivered := DeskRun.delivered hrunning run
  closed := DeskRun.closed hrunning run

end Linear

section Progress

/-- An event is a step of a call's own. -/
def OwnStep (number : ℕ) : DeskEvent ι μ→Bool
  | .handOver n _ => n=number
  | .result n => n=number
  | .giveUp n => n=number
  | _ => false

/-- A call is under way. -/
def Pending (desk : Desk σ μ ρ) (number : ℕ) : Prop :=
  ∃ stage,desk.calls[number]?=some stage ∧ stage≠.finished

/-- A call that is under way can do nothing: it has nothing to return, and no room is left to it
in the mailbox. -/
structure Stuck (A : Actor σ ι ω μ ρ) (capacity : ℕ) (desk : Desk σ μ ρ) (number : ℕ) : Prop where
  /-- It is under way. -/
  pending : Pending desk number
  /-- It has nothing to return. -/
  waits : desk.outcome A number=none
  /-- It has no room. -/
  full : number∉(desk.waiting.take (capacity-desk.mailbox.length)).map Prod.fst

variable {A : Actor σ ι ω μ ρ} {capacity : ℕ} {desk before after : Desk σ μ ρ}
  {event : DeskEvent ι μ} {seen : Seen ω ρ} {number : ℕ}

/-- Who leaves does not bring anyone further back. -/
theorem idxOf_filter_le {n gone : ℕ} (hne : n≠gone) (keys : List ℕ) :
    (keys.filter fun k => k≠gone).idxOf n ≤ keys.idxOf n := by
  induction keys with
  | nil => exact Nat.le_refl _
  | cons key keys ih =>
    by_cases hkey : key=n
    · refine Nat.le_of_eq ?_
      rw [hkey,List.idxOf_cons_eq _ rfl,List.filter_cons_of_pos (by simpa using hne),
        List.idxOf_cons_eq _ rfl]
    · rw [List.idxOf_cons_ne _ hkey]
      by_cases hgone : key=gone
      · rw [List.filter_cons_of_neg (by simpa using hgone)]
        exact Nat.le_succ_of_le ih
      · rw [List.filter_cons_of_pos (by simpa using hgone),List.idxOf_cons_ne _ hkey]
        exact Nat.succ_le_succ ih

/-- Who leaves brings those behind further to the front. -/
theorem idxOf_filter_lt {n gone : ℕ} (hne : n≠gone) {front back : List ℕ} (hgone : gone∈front)
    (hn : n∉front) :
    ((front++back).filter fun k => k≠gone).idxOf n+1 ≤ (front++back).idxOf n := by
  have hshort : (front.filter fun k => k≠gone).length<front.length :=
    List.length_filter_lt_length_iff_exists.mpr ⟨gone,hgone,by simp⟩
  have hback := idxOf_filter_le hne back
  rw [List.filter_append,List.idxOf_append_of_notMem fun h => hn (List.mem_of_mem_filter h),
    List.idxOf_append_of_notMem hn]
  omega

/-- Who has room keeps it when another leaves, also to put a message in. -/
theorem mem_take_filter {n gone k : ℕ} {waiting : List (ℕ×μ)} (hne : n≠gone)
    (h : n∈(waiting.take k).map Prod.fst) :
    n∈((waiting.filter fun w => w.1≠gone).take k).map Prod.fst ∧
      (gone∈(waiting.take k).map Prod.fst →
        n∈((waiting.filter fun w => w.1≠gone).take (k-1)).map Prod.fst) := by
  obtain ⟨w,hw,rfl⟩ := List.mem_map.mp h
  have hinitial : ((waiting.take k).filter fun w => w.1≠gone)<+:
      waiting.filter fun w => w.1≠gone := (List.take_prefix k waiting).filter _
  have hmem : w∈(waiting.take k).filter fun w => w.1≠gone :=
    List.mem_filter.mpr ⟨hw,decide_eq_true hne⟩
  have hlength : (waiting.take k).length ≤ k := List.length_take_le k waiting
  have hin : ∀ {j : ℕ},((waiting.take k).filter fun w => w.1≠gone).length ≤ j →
      w.1∈((waiting.filter fun w => w.1≠gone).take j).map Prod.fst := fun hle =>
    List.mem_map_of_mem ((List.prefix_take_iff.mpr ⟨hinitial,hle⟩).subset hmem)
  refine ⟨hin (Nat.le_trans (List.length_filter_le _ _) hlength),fun hgone => hin ?_⟩
  obtain ⟨g,hg,hkey⟩ := List.mem_map.mp hgone
  have hshort : ((waiting.take k).filter fun w => w.1≠gone).length<(waiting.take k).length :=
    List.length_filter_lt_length_iff_exists.mpr ⟨g,hg,by simpa using hkey⟩
  omega

/-- Who leaves makes the line no longer for the others. -/
theorem idxOf_line_leave {number gone : ℕ} (hne : number≠gone) (desk : Desk σ μ ρ) :
    (desk.mailbox.map Prod.fst++(desk.leave gone).map Prod.fst).idxOf number ≤
      desk.line.idxOf number := by
  rw [Desk.line,List.map_append,Desk.leave_keys]
  by_cases hmem : number∈desk.mailbox.map Prod.fst
  · refine Nat.le_of_eq ?_
    rw [List.idxOf_append_of_mem hmem,List.idxOf_append_of_mem hmem]
  · rw [List.idxOf_append_of_notMem hmem,List.idxOf_append_of_notMem hmem]
    exact Nat.add_le_add_left (idxOf_filter_le hne _) _

/-- Nor does who puts a message in, for a call without room. -/
theorem idxOf_line_handOver {number other : ℕ} {message : μ}
    (hne : number≠other) (hroom : (other,message)∈
      desk.waiting.take (capacity-desk.mailbox.length))
    (hfull : number∉(desk.waiting.take (capacity-desk.mailbox.length)).map Prod.fst) :
    (desk.mailbox.map Prod.fst++[other]++(desk.leave other).map Prod.fst).idxOf number ≤
      desk.line.idxOf number := by
  rw [Desk.line,List.map_append,Desk.leave_keys,List.append_assoc]
  by_cases hmem : number∈desk.mailbox.map Prod.fst
  · refine Nat.le_of_eq ?_
    rw [List.idxOf_append_of_mem hmem,List.idxOf_append_of_mem hmem]
  · rw [List.idxOf_append_of_notMem hmem,List.idxOf_append_of_notMem hmem,List.singleton_append,
      List.idxOf_cons_ne _ fun heq => hne heq.symm]
    refine Nat.add_le_add_left ?_ _
    have hparts : desk.waiting.map Prod.fst=
        (desk.waiting.take (capacity-desk.mailbox.length)).map Prod.fst++
          (desk.waiting.drop (capacity-desk.mailbox.length)).map Prod.fst := by
      rw [←List.map_append,List.take_append_drop]
    rw [hparts]
    exact idxOf_filter_lt hne (List.mem_map_of_mem hroom) hfull

/-- What others do leaves a call as it is, or replies to it. -/
theorem move_stage (hmove : DeskMove A capacity before event seen after)
    (hown : OwnStep number event=false) {stage : Stage ρ}
    (h : before.calls[number]?=some stage) : after.calls[number]?=some stage ∨
      stage=.sent ∧ ∃ reply,after.calls[number]?=some (.answered reply) := by
  cases hmove with
  | call => exact .inl (by rw [List.getElem?_append_left (List.getElem?_eq_some_iff.mp h).1,h])
  | handOver | result | giveUp =>
    exact .inl (by rw [List.getElem?_set_ne (of_decide_eq_false hown),h])
  | @replies own actor outputs n target message rest reply free takes next asks step sent =>
    rw [List.getElem?_modify,h]
    cases stage with
    | sent =>
      split
      · exact .inr ⟨rfl,reply,rfl⟩
      · exact .inl rfl
    | _ => exact .inl (by split <;> rfl)
  | _ => exact .inl h

/-- What a call can return it can still return after what others do. -/
theorem move_outcome (hmove : DeskMove A capacity before event seen after)
    (hown : OwnStep number event=false) (h : before.outcome A number≠none) :
    after.outcome A number≠none := by
  have hstopped : A.stopped before.actor=true → A.stopped after.actor=true := by
    intro hstop
    rw [(move_stopped hmove hstop).1,hstop]
  unfold Desk.outcome at h ⊢
  cases hget : before.calls[number]? with
  | none =>
    simp only [hget] at h
    exact absurd rfl h
  | some stage =>
    cases stage with
    | sending | sent =>
      simp only [hget] at h
      split at h
      next hstop =>
        obtain hget|⟨-,reply,hget⟩ := move_stage hmove hown hget
        · simp only [hget,hstopped hstop,if_true]
          exact fun hno => by cases hno
        · simp only [hget]
          exact fun hno => by cases hno
      next => exact absurd rfl h
    | delivered | answered reply =>
      obtain hget|⟨hno,-⟩ := move_stage hmove hown hget
      · simp only [hget]
        exact fun hno => by cases hno
      · cases hno
    | finished =>
      simp only [hget] at h
      exact absurd rfl h

/-- Every call that is under way can return once the party has stopped. -/
theorem outcome_of_stopped (hpending : Pending desk number) (hstop : A.stopped desk.actor=true) :
    desk.outcome A number≠none := by
  obtain ⟨stage,hget,hgoing⟩ := hpending
  unfold Desk.outcome
  cases stage with
  | finished => exact absurd rfl hgoing
  | _ =>
    simp only [hget,hstop,if_true]
    exact fun hno => by cases hno

/-- A call that can do nothing is in the line, and the party has not stopped. -/
theorem Stuck.mem_line (h : Stuck A capacity desk number) (inv : desk.Inv A capacity) :
    number∈desk.line ∧ A.stopped desk.actor=false := by
  have hrunning : A.stopped desk.actor=false := Bool.eq_false_iff.mpr fun hstop =>
    outcome_of_stopped h.pending hstop h.waits
  refine ⟨?_,hrunning⟩
  obtain ⟨stage,hget,hgoing⟩ := h.pending
  have hwaits := h.waits
  unfold Desk.outcome at hwaits
  rw [Desk.line,List.map_append]
  cases stage with
  | sending => exact List.mem_append_right _ ((inv.sending number).mp hget)
  | sent =>
    obtain hno|⟨m,hm,-⟩ := inv.sent number hget
    · exact absurd (hrunning.symm.trans hno) Bool.false_ne_true
    · exact List.mem_append_left _ (List.mem_map_of_mem (f:=Prod.fst) hm)
  | finished => exact absurd rfl hgoing
  | _ =>
    simp only [hget] at hwaits
    cases hwaits

/-- What others do takes no room away. -/
theorem move_room (hmove : DeskMove A capacity before event seen after)
    (hown : OwnStep number event=false) (hrunning : A.stopped after.actor=false)
    (h : number∈(before.waiting.take (capacity-before.mailbox.length)).map Prod.fst) :
    number∈(after.waiting.take (capacity-after.mailbox.length)).map Prod.fst := by
  have hmore : ∀ {actor : σ} {rest : List (ℕ×μ)},A.stopped actor=false →
      rest.length ≤ before.mailbox.length → number∈(before.waiting.take
        (capacity-(if A.stopped actor then [] else rest).length)).map Prod.fst := by
    intro actor rest hactor hle
    rw [hactor,if_neg Bool.false_ne_true]
    exact ((List.take_prefix_take_left (Nat.sub_le_sub_left hle capacity)).map Prod.fst).subset h
  cases hmove with
  | call =>
    rw [List.take_append,List.map_append]
    exact List.mem_append_left _ h
  | handOver running room =>
    have hne : _≠_ := fun heq => of_decide_eq_false hown (Eq.symm heq)
    have hroom := (mem_take_filter hne h).2 (List.mem_map_of_mem (f:=Prod.fst) room)
    rw [List.length_append,List.length_singleton,←Nat.sub_sub]
    exact hroom
  | result | giveUp =>
    exact (mem_take_filter (fun heq => of_decide_eq_false hown (Eq.symm heq)) h).1
  | other => exact hmore hrunning (Nat.le_refl _)
  | closes takes empty handles step =>
    exact absurd (hrunning.symm.trans (A.stops step takes)) Bool.false_ne_true
  | takes free takes next | replies free takes next =>
    refine hmore hrunning ?_
    rw [next]
    exact Nat.le_succ _
  | _ => exact h

/-- A call that can do nothing could do nothing before what others did, and comes nearer by what
is taken. -/
theorem move_stuck (hmove : DeskMove A capacity before event seen after)
    (inv : before.Inv A capacity) (hown : OwnStep number event=false)
    (hpending : Pending before number) (h : Stuck A capacity after number) :
    Stuck A capacity before number ∧
      (taken A [((event,seen) : DeskEntry ι ω μ ρ)]).length+after.line.idxOf number ≤
        before.line.idxOf number := by
  obtain ⟨hmem,hrunning⟩ := h.mem_line (hmove.inv inv)
  have hstuck : Stuck A capacity before number :=
    ⟨hpending,by_contra fun hno => move_outcome hmove hown hno h.waits,
      fun hroom => h.full (move_room hmove hown hrunning hroom)⟩
  refine ⟨hstuck,?_⟩
  obtain ⟨hline,-⟩ := hstuck.mem_line inv
  have hleave : ∀ {gone : ℕ},number≠gone →
      0+((before.mailbox++before.leave gone).map Prod.fst).idxOf number ≤
        before.line.idxOf number := by
    intro gone hne
    rw [Nat.zero_add,List.map_append]
    exact idxOf_line_leave hne before
  have hnext : ∀ {entry : ℕ×μ} {rest : List (ℕ×μ)} {actor : σ},before.mailbox=entry::rest →
      A.stopped actor=false →
      number∈((if A.stopped actor then [] else rest)++before.waiting).map Prod.fst →
      1+(((if A.stopped actor then [] else rest)++before.waiting).map Prod.fst).idxOf number ≤
        before.line.idxOf number := by
    intro entry rest actor hmailbox hactor hmem
    rw [hactor,if_neg Bool.false_ne_true] at hmem ⊢
    have hdistinct := inv.distinct
    rw [Desk.line,hmailbox,List.cons_append,List.map_cons,List.nodup_cons] at hdistinct
    have hne : entry.1≠number := by
      rintro rfl
      exact hdistinct.1 hmem
    rw [Desk.line,hmailbox,List.cons_append,List.map_cons,List.idxOf_cons_ne _ hne]
    omega
  cases hmove with
  | call =>
    refine Nat.le_of_eq ((Nat.zero_add _).trans ?_)
    rw [Desk.line,←List.append_assoc,List.map_append]
    exact List.idxOf_append_of_mem hline
  | handOver running room =>
    have hne : _≠_ := fun heq => of_decide_eq_false hown (Eq.symm heq)
    refine Nat.le_trans (Nat.le_of_eq (Nat.zero_add _)) ?_
    have hgo := idxOf_line_handOver hne room hstuck.full
    rw [Desk.line,List.map_append,List.map_append]
    exact hgo
  | result | giveUp => exact hleave fun heq => of_decide_eq_false hown (Eq.symm heq)
  | other away takes step =>
    rw [taken_turn,takes,Desk.line,hrunning,if_neg Bool.false_ne_true]
    exact Nat.le_of_eq (Nat.zero_add _)
  | closes takes empty handles step =>
    exact absurd (hrunning.symm.trans (A.stops step takes)) Bool.false_ne_true
  | takes free takes next silent step | replies free takes next asks step sent =>
    rw [taken_turn,takes]
    exact hnext next hrunning hmem
  | clone | drop | turnAway => exact Nat.le_of_eq (Nat.zero_add _)

/-- A call that is under way stays so until a step of its own. -/
theorem move_pending (hmove : DeskMove A capacity before event seen after)
    (hown : OwnStep number event=false) (h : Pending before number) : Pending after number := by
  obtain ⟨stage,hget,hgoing⟩ := h
  obtain hget|⟨-,reply,hget⟩ := move_stage hmove hown hget
  · exact ⟨stage,hget,hgoing⟩
  · exact ⟨_,hget,fun hno => by cases hno⟩

variable [DecidableEq μ] {actor : σ} {log later : List (DeskEntry ι ω μ ρ)}

/-- Until a call has room or something to return, it is nearer by what is taken, and there is
something to do: the party is at something else and can end it, or it can take a message, or
another call has room in an empty mailbox. -/
structure Nears (A : Actor σ ι ω μ ρ) (capacity : ℕ) (desk : Desk σ μ ρ)
    (later : List (DeskEntry ι ω μ ρ)) (after : Desk σ μ ρ) (number : ℕ) : Prop where
  /-- It is nearer. -/
  nearer : (taken A later).length+after.line.idxOf number ≤ desk.line.idxOf number
  /-- The party goes on. -/
  running : A.stopped after.actor=false
  /-- There is something to do. -/
  goes : (after.away=true ∧ ∃ event,A.takes event=none ∧
      (after.step A capacity (.turn event)).isSome=true) ∨
    (∃ event,(A.takes event).join.isSome=true ∧
      (after.step A capacity (.turn event)).isSome=true) ∨
    after.mailbox=[] ∧ ∃ n message,(after.step A capacity (.handOver n message)).isSome=true

/-- Where a call can do nothing, there is something to do. -/
theorem Stuck.goes (h : Stuck A capacity desk number) (inv : desk.Inv A capacity)
    (hcapacity : 0<capacity) : (desk.away=true ∧ ∃ event,A.takes event=none ∧
        (desk.step A capacity (.turn event)).isSome=true) ∨
      (∃ event,(A.takes event).join.isSome=true ∧
        (desk.step A capacity (.turn event)).isSome=true) ∨
      desk.mailbox=[] ∧ ∃ n message,(desk.step A capacity (.handOver n message)).isSome=true := by
  obtain ⟨hline,hrunning⟩ := h.mem_line inv
  cases haway : desk.away with
  | true =>
    obtain ⟨event,htakes,hstep⟩ := A.returns hrunning
    have hadmits : desk.admits A event=true := by
      unfold Desk.admits
      rw [htakes]
      exact haway
    refine .inl ⟨rfl,event,htakes,?_⟩
    rw [Desk.step,Option.isSome_map,Desk.turn,if_pos hadmits,Option.isSome_map]
    exact hstep
  | false =>
    refine .inr ?_
    cases hmailbox : desk.mailbox with
    | nil =>
      refine .inr ⟨rfl,?_⟩
      rw [Desk.line,hmailbox,List.nil_append] at hline
      obtain ⟨⟨n,message⟩,hwaits,-⟩ := List.mem_map.mp hline
      cases hwaiting : desk.waiting with
      | nil =>
        rw [hwaiting] at hwaits
        cases hwaits
      | cons first rest =>
        have hroom : (first.1,first.2)∈desk.waiting.take (capacity-desk.mailbox.length) := by
          rw [hmailbox,hwaiting,List.length_nil,Nat.sub_zero,
            ←Nat.succ_pred_eq_of_pos hcapacity,List.take_succ_cons]
          exact List.mem_cons_self
        refine ⟨first.1,first.2,?_⟩
        rw [Desk.step,Option.isSome_map,Desk.handOver,if_pos ⟨hrunning,hroom⟩]
        rfl
    | cons first rest =>
      obtain ⟨event,htakes,hstep⟩ := A.ready hrunning first.2
      have hadmits : desk.admits A event=true := by
        unfold Desk.admits
        rw [htakes,haway,hmailbox]
        simp
      refine .inl ⟨event,by rw [htakes]; rfl,?_⟩
      rw [Desk.step,Option.isSome_map,Desk.turn,if_pos hadmits,Option.isSome_map]
      exact hstep

/-- A call that is under way and can do something can return, or put its message into the
mailbox. -/
theorem goes_of_not_stuck (hpending : Pending desk number)
    (h : ¬Stuck A capacity desk number) : (desk.step A capacity (.result number)).isSome=true ∨
      ∃ message,(desk.step A capacity (.handOver number message)).isSome=true := by
  by_cases hwaits : desk.outcome A number=none
  · by_cases hfull : number∈(desk.waiting.take (capacity-desk.mailbox.length)).map Prod.fst
    · obtain ⟨⟨n,message⟩,hroom,rfl⟩ := List.mem_map.mp hfull
      cases hstop : A.stopped desk.actor with
      | true => exact absurd hwaits (outcome_of_stopped hpending hstop)
      | false =>
        refine .inr ⟨message,?_⟩
        rw [Desk.step,Option.isSome_map,Desk.handOver,if_pos ⟨hstop,hroom⟩]
        rfl
    · exact absurd ⟨hpending,hwaits,hfull⟩ h
  · obtain ⟨result,hresult⟩ := Option.ne_none_iff_exists'.mp hwaits
    refine .inl ?_
    rw [Desk.step,Option.isSome_map,Desk.result,hresult]
    rfl

/-- In every run, a call that is under way can go on once as many messages were taken as were
ahead of its own, and there is always something to do until it can. -/
theorem DeskRun.nears (hrunning : A.stopped actor=false) (hcapacity : 0<capacity)
    (run : DeskRun A capacity (.start actor) log desk)
    (run' : DeskRun A capacity desk later after) (hpending : Pending desk number)
    (hown : ∀ entry∈later,OwnStep number entry.1=false) :
    (after.step A capacity (.result number)).isSome=true ∨
      (∃ message,(after.step A capacity (.handOver number message)).isSome=true) ∨
      Nears A capacity desk later after number := by
  have hall : (∀ entry∈later,OwnStep number entry.1=false) → after.Inv A capacity ∧
      Pending after number ∧ (Stuck A capacity after number →
        (taken A later).length+after.line.idxOf number ≤ desk.line.idxOf number) := by
    refine run'.invariant (motive:=fun later after => (∀ entry∈later,
      OwnStep number entry.1=false) → after.Inv A capacity ∧ Pending after number ∧
      (Stuck A capacity after number → (taken A later).length+after.line.idxOf number ≤
        desk.line.idxOf number)) ?_ ?_
    · exact fun _ => ⟨DeskRun.inv hrunning run,hpending,fun _ => Nat.le_of_eq (Nat.zero_add _)⟩
    · intro later middle entry after _ ih hstep hown
      have hmove := Desk.step_move hstep
      obtain ⟨inv,hpending,hnearer⟩ := ih fun e he => hown e (List.mem_append_left _ he)
      have hlast := hown entry (List.mem_append_right _ List.mem_cons_self)
      refine ⟨hmove.inv inv,move_pending hmove hlast hpending,fun hstuck => ?_⟩
      have hone : Stuck A capacity middle number ∧ (taken A [entry]).length+
          after.line.idxOf number ≤ middle.line.idxOf number :=
        move_stuck hmove inv hlast hpending hstuck
      have hbefore := hnearer hone.1
      rw [taken_append,List.length_append]
      omega
  obtain ⟨inv,hpending,hnearer⟩ := hall hown
  by_cases hstuck : Stuck A capacity after number
  · exact .inr (.inr ⟨hnearer hstuck,(hstuck.mem_line inv).2,hstuck.goes inv hcapacity⟩)
  · exact or_assoc.mp (.inl (goes_of_not_stuck hpending hstuck))

end Progress

end WispersConnect.MailboxRuns
