import WispersConnect.Runs
import Mathlib.Data.List.Basic
import Mathlib.Data.List.Nodup

/-!
# Mailboxes

A party takes messages from a bounded mailbox, one at a time, and replies to those that ask
for it. In between it does other things. Calls put the messages in: they wait for room in
the order in which they came, and then for their reply. Over every interleaving, the calls
answer as if each happened at one moment between its beginning and its return. None waits
for more than the messages ahead of its own, and none is left waiting once the party stops.
-/

namespace WispersConnect.Mailboxes

open Runs

variable {σ ι ω μ ρ : Type*}

/-- A party with a mailbox. -/
structure Actor (σ ι ω μ ρ : Type*) where
  /-- What it does at an event, if that is possible. -/
  step : σ→ι→Option (σ×ω)
  /-- What an event takes from the mailbox: nothing, or a message, or the news that none is
  left to come. -/
  takes : ι→Option (Option μ)
  /-- The replies among what it sends, with the calls they are for. -/
  replies : ω→List (ℕ×ρ)
  /-- The call that a message asks to reply to, if it does. -/
  address : μ→Option ℕ
  /-- It does nothing more. -/
  stopped : σ→Bool
  /-- Once it has stopped, nothing is possible. -/
  stays : ∀ {state},stopped state=true → ∀ event,step state event=none
  /-- It replies to the message that it takes, if that asks for it, and sends no other reply. -/
  answers : ∀ {state event after outputs},step state event=some (after,outputs) →
    (replies outputs).map Prod.fst=((takes event).join.bind address).toList
  /-- It stops at the news that no message is left to come. -/
  stops : ∀ {state event after outputs},step state event=some (after,outputs) →
    takes event=some none → stopped after=true
  /-- Until it stops it can take any message. -/
  ready : ∀ {state},stopped state=false → ∀ message,
    ∃ event,takes event=some (some message) ∧ (step state event).isSome=true
  /-- Until it stops it can come to the end of something else. -/
  returns : ∀ {state},stopped state=false →
    ∃ event,takes event=none ∧ (step state event).isSome=true

/-- What does something has not stopped. -/
theorem Actor.running_of_step (A : Actor σ ι ω μ ρ) {state after : σ} {event : ι} {outputs : ω}
    (h : A.step state event=some (after,outputs)) : A.stopped state=false := by
  cases hstop : A.stopped state with
  | true =>
    rw [A.stays hstop event] at h
    cases h
  | false => rfl

/-- How far a call is. -/
inductive Stage (ρ : Type*) where
  /-- It waits for room in the mailbox. -/
  | sending
  /-- It waits for its reply. -/
  | sent
  /-- Its message is in the mailbox and does not ask for a reply. -/
  | delivered
  /-- Its reply is there. -/
  | answered (reply : ρ)
  /-- It has returned, or was given up. -/
  | finished
  deriving DecidableEq

/-- What a call returns. -/
inductive Result (ρ : Type*) where
  /-- The reply. -/
  | answer (reply : ρ)
  /-- That the message is in the mailbox. -/
  | delivered
  /-- That the party has stopped. -/
  | closed
  deriving DecidableEq

/-- What happens at a mailbox. -/
inductive DeskEvent (ι μ : Type*) where
  /-- A call begins. -/
  | call (number : ℕ) (message : μ)
  /-- The message of a call goes into the mailbox. -/
  | handOver (number : ℕ) (message : μ)
  /-- A call returns. -/
  | result (number : ℕ)
  /-- A call is given up. -/
  | giveUp (number : ℕ)
  /-- There is a handle more. -/
  | clone
  /-- There is a handle less. -/
  | drop
  /-- The party turns to something else. -/
  | turnAway
  /-- The party has done something. -/
  | turn (event : ι)

/-- What is seen of an event. -/
inductive Seen (ω ρ : Type*) where
  /-- Nothing. -/
  | nothing
  /-- What the party sends. -/
  | sends (outputs : ω)
  /-- What a call returns. -/
  | returns (result : Result ρ)
  deriving DecidableEq

/-- A party with its mailbox, its handles and the calls that were made. -/
structure Desk (σ μ ρ : Type*) where
  /-- The party. -/
  actor : σ
  /-- It is at something else. -/
  away : Bool
  /-- How many handles there are. -/
  handles : ℕ
  /-- The mailbox, with the calls that the messages are of. -/
  mailbox : List (ℕ×μ)
  /-- The calls that wait for room, in order. -/
  waiting : List (ℕ×μ)
  /-- How far the calls are, by number. -/
  calls : List (Stage ρ)

/-- An event of a run and what is seen of it. -/
abbrev DeskEntry (ι ω μ ρ : Type*) := DeskEvent ι μ×Seen ω ρ

/-- A reply arrives at a call, if it waits for one. -/
def Stage.reply (reply : ρ) : Stage ρ→Stage ρ
  | .sent => .answered reply
  | stage => stage

/-- A call is over. -/
def Stage.isFinished : Stage ρ→Bool
  | .finished => true
  | _ => false

/-- Replies arrive. -/
def deliver (calls : List (Stage ρ)) (replies : List (ℕ×ρ)) : List (Stage ρ) :=
  replies.foldl (fun calls reply => calls.modify reply.1 (Stage.reply reply.2)) calls

namespace Desk

/-- Nobody has called, and there is one handle. -/
def start (actor : σ) : Desk σ μ ρ := ⟨actor,false,1,[],[],[]⟩

/-- A call is no longer among those that wait for room. -/
def leave (desk : Desk σ μ ρ) (number : ℕ) : List (ℕ×μ) :=
  desk.waiting.filter fun waiting => waiting.1≠number

variable (A : Actor σ ι ω μ ρ) (capacity : ℕ)

/-- A call begins: its number is the next, and its message is to be answered under it. -/
def call (desk : Desk σ μ ρ) (number : ℕ) (message : μ) : Option (Desk σ μ ρ) :=
  if 0<desk.handles ∧ number=desk.calls.length ∧
      (A.address message=none ∨ A.address message=some number) then
    some {desk with waiting := desk.waiting++[(number,message)],calls := desk.calls++[.sending]}
  else none

/-- A call puts its message into the mailbox. The room there is goes to those who have waited
longest, whichever of them comes first to use it. -/
def handOver [DecidableEq μ] (desk : Desk σ μ ρ) (number : ℕ) (message : μ) :
    Option (Desk σ μ ρ) :=
  if A.stopped desk.actor=false ∧
      (number,message)∈desk.waiting.take (capacity-desk.mailbox.length) then
    some {desk with
      mailbox := desk.mailbox++[(number,message)]
      waiting := desk.leave number
      calls := desk.calls.set number (if (A.address message).isSome then .sent else .delivered)}
  else none

/-- What a call can return. -/
def outcome (desk : Desk σ μ ρ) (number : ℕ) : Option (Result ρ) :=
  match desk.calls[number]? with
  | some .sending => if A.stopped desk.actor then some .closed else none
  | some .sent => if A.stopped desk.actor then some .closed else none
  | some .delivered => some .delivered
  | some (.answered reply) => some (.answer reply)
  | _ => none

/-- A call returns. -/
def result (desk : Desk σ μ ρ) (number : ℕ) : Option (Desk σ μ ρ×Result ρ) :=
  (desk.outcome A number).map fun result =>
    ({desk with waiting := desk.leave number,calls := desk.calls.set number .finished},result)

/-- A call is given up, also while its message is in the mailbox. -/
def giveUp (desk : Desk σ μ ρ) (number : ℕ) : Option (Desk σ μ ρ) :=
  match desk.calls[number]? with
  | none => none
  | some .finished => none
  | some _ => some
    {desk with waiting := desk.leave number,calls := desk.calls.set number .finished}

/-- A handle goes, but not the last one while a call uses it. -/
def drop (desk : Desk σ μ ρ) : Option (Desk σ μ ρ) :=
  if 1<desk.handles ∨ desk.handles=1 ∧ desk.calls.all Stage.isFinished then
    some {desk with handles := desk.handles-1}
  else none

/-- The event is one that the party can come to: it takes the next message, or learns that
none is left to come, when it is not at something else, and else ends what it is at. -/
def admits [DecidableEq μ] (desk : Desk σ μ ρ) (event : ι) : Bool :=
  match A.takes event with
  | none => desk.away
  | some none => !desk.away && desk.mailbox.isEmpty && desk.handles=0
  | some (some message) => !desk.away && (desk.mailbox.head?.map Prod.snd)=some message

/-- The messages that an event takes. -/
def takenOf (event : ι) : ℕ := if (A.takes event).join.isSome then 1 else 0

/-- The party does something. When it stops, what is in the mailbox is lost. -/
def turn [DecidableEq μ] (desk : Desk σ μ ρ) (event : ι) : Option (Desk σ μ ρ×ω) :=
  if desk.admits A event then
    (A.step desk.actor event).map fun (actor,outputs) =>
      ({desk with
        actor
        away := false
        mailbox := if A.stopped actor then [] else desk.mailbox.drop (takenOf A event)
        calls := deliver desk.calls (A.replies outputs)},outputs)
  else none

/-- The step of a desk, with what is seen of it. -/
def step [DecidableEq μ] (desk : Desk σ μ ρ) : DeskEvent ι μ→Option (Desk σ μ ρ×Seen ω ρ)
  | .call number message => (desk.call A number message).map fun after => (after,.nothing)
  | .handOver number message =>
    (desk.handOver A capacity number message).map fun after => (after,.nothing)
  | .result number => (desk.result A number).map fun (after,result) => (after,.returns result)
  | .giveUp number => (desk.giveUp number).map fun after => (after,.nothing)
  | .clone =>
    if 0<desk.handles then some ({desk with handles := desk.handles+1},.nothing) else none
  | .drop => desk.drop.map fun after => (after,.nothing)
  | .turnAway =>
    if desk.away=false ∧ A.stopped desk.actor=false then some ({desk with away := true},.nothing)
    else none
  | .turn event => (desk.turn A event).map fun (after,outputs) => (after,.sends outputs)

/-- The calls whose messages are not taken, in the order in which they are to be. -/
def line (desk : Desk σ μ ρ) : List ℕ := (desk.mailbox++desk.waiting).map Prod.fst

end Desk

/-- Everything that can happen at a desk. -/
inductive DeskMove (A : Actor σ ι ω μ ρ) (capacity : ℕ) (before : Desk σ μ ρ) :
    DeskEvent ι μ→Seen ω ρ→Desk σ μ ρ→Prop where
  /-- A call begins. -/
  | call {number : ℕ} {message : μ} (handle : 0<before.handles)
      (next : number=before.calls.length)
      (own : A.address message=none ∨ A.address message=some number) :
      DeskMove A capacity before (.call number message) .nothing {before with
        waiting := before.waiting++[(number,message)]
        calls := before.calls++[.sending]}
  /-- A message goes into the mailbox. -/
  | handOver {number : ℕ} {message : μ} (running : A.stopped before.actor=false)
      (room : (number,message)∈before.waiting.take (capacity-before.mailbox.length)) :
      DeskMove A capacity before (.handOver number message) .nothing {before with
        mailbox := before.mailbox++[(number,message)]
        waiting := before.leave number
        calls := before.calls.set number
          (if (A.address message).isSome then .sent else .delivered)}
  /-- A call returns. -/
  | result {number : ℕ} {result : Result ρ} (returns : before.outcome A number=some result) :
      DeskMove A capacity before (.result number) (.returns result) {before with
        waiting := before.leave number
        calls := before.calls.set number .finished}
  /-- A call is given up. -/
  | giveUp {number : ℕ} {stage : Stage ρ} (called : before.calls[number]?=some stage)
      (going : stage≠.finished) :
      DeskMove A capacity before (.giveUp number) .nothing {before with
        waiting := before.leave number
        calls := before.calls.set number .finished}
  /-- There is a handle more. -/
  | clone (handle : 0<before.handles) :
      DeskMove A capacity before .clone .nothing {before with handles := before.handles+1}
  /-- There is a handle less, but not the last one while a call uses it. -/
  | drop (spare : 1<before.handles ∨
        before.handles=1 ∧ ∀ stage∈before.calls,stage=.finished) :
      DeskMove A capacity before .drop .nothing {before with handles := before.handles-1}
  /-- The party turns to something else. -/
  | turnAway (free : before.away=false) (running : A.stopped before.actor=false) :
      DeskMove A capacity before .turnAway .nothing {before with away := true}
  /-- The party has done something else. -/
  | other {event : ι} {actor : σ} {outputs : ω} (away : before.away=true)
      (takes : A.takes event=none) (step : A.step before.actor event=some (actor,outputs)) :
      DeskMove A capacity before (.turn event) (.sends outputs) {before with
        actor
        away := false
        mailbox := if A.stopped actor then [] else before.mailbox}
  /-- The party learns that no message is left to come. -/
  | closes {event : ι} {actor : σ} {outputs : ω} (takes : A.takes event=some none)
      (empty : before.mailbox=[]) (handles : before.handles=0)
      (step : A.step before.actor event=some (actor,outputs)) :
      DeskMove A capacity before (.turn event) (.sends outputs) {before with
        actor
        away := false
        mailbox := []}
  /-- The party takes a message that asks for no reply. -/
  | takes {event : ι} {actor : σ} {outputs : ω} {number : ℕ} {message : μ} {rest : List (ℕ×μ)}
      (free : before.away=false) (takes : A.takes event=some (some message))
      (next : before.mailbox=(number,message)::rest) (silent : A.address message=none)
      (step : A.step before.actor event=some (actor,outputs)) :
      DeskMove A capacity before (.turn event) (.sends outputs) {before with
        actor
        away := false
        mailbox := if A.stopped actor then [] else rest}
  /-- The party takes a message and replies. -/
  | replies {event : ι} {actor : σ} {outputs : ω} {number target : ℕ} {message : μ}
      {rest : List (ℕ×μ)} {reply : ρ} (free : before.away=false)
      (takes : A.takes event=some (some message)) (next : before.mailbox=(number,message)::rest)
      (asks : A.address message=some target) (step : A.step before.actor event=some (actor,outputs))
      (sent : A.replies outputs=[(target,reply)]) :
      DeskMove A capacity before (.turn event) (.sends outputs) {before with
        actor
        away := false
        mailbox := if A.stopped actor then [] else rest
        calls := before.calls.modify target (Stage.reply reply)}

section Moves

variable [DecidableEq μ] {A : Actor σ ι ω μ ρ} {capacity : ℕ} {before after : Desk σ μ ρ}
  {event : DeskEvent ι μ} {seen : Seen ω ρ}

/-- What the party does is one of these. -/
theorem Desk.turn_move {own : ι} {outputs : ω} (h : before.turn A own=some (after,outputs)) :
    DeskMove A capacity before (.turn own) (.sends outputs) after := by
  unfold Desk.turn at h
  split at h
  next hadmits =>
    obtain ⟨⟨actor,outputs'⟩,hstep,heq⟩ := Option.map_eq_some_iff.mp h
    obtain ⟨rfl,rfl⟩ := Prod.mk.inj heq
    have hreplies := A.answers hstep
    unfold Desk.admits at hadmits
    unfold Desk.takenOf
    split at hadmits
    next htakes =>
      rw [htakes] at hreplies
      have hnone : A.replies outputs'=[] := List.map_eq_nil_iff.mp hreplies
      rw [hnone,htakes]
      exact .other hadmits htakes hstep
    next htakes =>
      rw [htakes] at hreplies
      have hnone : A.replies outputs'=[] := List.map_eq_nil_iff.mp hreplies
      simp only [Bool.and_eq_true,List.isEmpty_iff,decide_eq_true_eq] at hadmits
      rw [hnone,if_pos (A.stops hstep htakes)]
      exact .closes htakes hadmits.1.2 hadmits.2 hstep
    next message htakes =>
      rw [htakes] at hreplies
      simp only [Bool.and_eq_true,Bool.not_eq_true',decide_eq_true_eq] at hadmits
      obtain ⟨hfree,hhead⟩ := hadmits
      obtain ⟨⟨number,taken⟩,hfirst,rfl⟩ := Option.map_eq_some_iff.mp hhead
      obtain ⟨rest,hmailbox⟩ := List.head?_eq_some_iff.mp hfirst
      rw [htakes,Option.join_some,Option.isSome_some,if_pos rfl,hmailbox,List.drop_one,
        List.tail_cons]
      cases haddress : A.address taken with
      | none =>
        rw [Option.join_some,Option.bind_some,haddress] at hreplies
        have hnone : A.replies outputs'=[] := List.map_eq_nil_iff.mp hreplies
        rw [hnone]
        exact .takes hfree htakes hmailbox haddress hstep
      | some target =>
        rw [Option.join_some,Option.bind_some,haddress] at hreplies
        obtain ⟨⟨called,reply⟩,hone,hcalled⟩ := List.map_eq_singleton_iff.mp hreplies
        obtain rfl : called=target := hcalled
        rw [hone]
        exact .replies hfree htakes hmailbox haddress hstep hone
  next => cases h

/-- Every step of a desk is one of these. -/
theorem Desk.step_move (h : before.step A capacity event=some (after,seen)) :
    DeskMove A capacity before event seen after := by
  cases event with
  | call number message =>
    obtain ⟨made,hcall,heq⟩ := Option.map_eq_some_iff.mp h
    obtain ⟨rfl,rfl⟩ := Prod.mk.inj heq
    unfold Desk.call at hcall
    split at hcall
    next hcond =>
      obtain rfl := Option.some.inj hcall
      exact .call hcond.1 hcond.2.1 hcond.2.2
    next => cases hcall
  | handOver number message =>
    obtain ⟨made,hhand,heq⟩ := Option.map_eq_some_iff.mp h
    obtain ⟨rfl,rfl⟩ := Prod.mk.inj heq
    unfold Desk.handOver at hhand
    split at hhand
    next hcond =>
      obtain rfl := Option.some.inj hhand
      exact .handOver hcond.1 hcond.2
    next => cases hhand
  | result number =>
    obtain ⟨⟨made,result⟩,hresult,heq⟩ := Option.map_eq_some_iff.mp h
    obtain ⟨rfl,rfl⟩ := Prod.mk.inj heq
    obtain ⟨result',houtcome,hmade⟩ := Option.map_eq_some_iff.mp hresult
    obtain ⟨rfl,rfl⟩ := Prod.mk.inj hmade
    exact .result houtcome
  | giveUp number =>
    obtain ⟨made,hgive,heq⟩ := Option.map_eq_some_iff.mp h
    obtain ⟨rfl,rfl⟩ := Prod.mk.inj heq
    unfold Desk.giveUp at hgive
    split at hgive
    next => cases hgive
    next => cases hgive
    next stage hstage hget =>
      obtain rfl := Option.some.inj hgive
      exact .giveUp hget hstage
  | clone =>
    dsimp only [Desk.step] at h
    split at h
    next hhandle =>
      obtain ⟨rfl,rfl⟩ := Prod.mk.inj (Option.some.inj h)
      exact .clone hhandle
    next => cases h
  | drop =>
    obtain ⟨made,hdrop,heq⟩ := Option.map_eq_some_iff.mp h
    obtain ⟨rfl,rfl⟩ := Prod.mk.inj heq
    unfold Desk.drop at hdrop
    split at hdrop
    next hcond =>
      obtain rfl := Option.some.inj hdrop
      refine .drop (hcond.imp_right fun hlast => ⟨hlast.1,fun stage hmem => ?_⟩)
      have hfinished := List.all_eq_true.mp hlast.2 stage hmem
      cases stage with
      | finished => rfl
      | _ => cases hfinished
    next => cases hdrop
  | turnAway =>
    dsimp only [Desk.step] at h
    split at h
    next hcond =>
      obtain ⟨rfl,rfl⟩ := Prod.mk.inj (Option.some.inj h)
      exact .turnAway hcond.1 hcond.2
    next => cases h
  | turn own =>
    obtain ⟨⟨made,outputs⟩,hturn,heq⟩ := Option.map_eq_some_iff.mp h
    obtain ⟨rfl,rfl⟩ := Prod.mk.inj heq
    exact Desk.turn_move hturn

end Moves

section Invariant

variable {A : Actor σ ι ω μ ρ} {capacity : ℕ} {before after : Desk σ μ ρ}
  {event : DeskEvent ι μ} {seen : Seen ω ρ}

/-- What holds at a desk at all times. -/
structure Desk.Inv (A : Actor σ ι ω μ ρ) (capacity : ℕ) (desk : Desk σ μ ρ) : Prop where
  /-- Only the call that a message is of can be asked to be replied to. -/
  own : ∀ number message,(number,message)∈desk.mailbox++desk.waiting →
    A.address message=none ∨ A.address message=some number
  /-- A call has at most one message. -/
  distinct : desk.line.Nodup
  /-- It was made before. -/
  called : ∀ number∈desk.line,number<desk.calls.length
  /-- Calls that wait for room are those that are said to. -/
  sending : ∀ number,desk.calls[number]?=some .sending ↔ number∈desk.waiting.map Prod.fst
  /-- A reply is waited for only while the message is in the mailbox, or was lost. -/
  sent : ∀ number,desk.calls[number]?=some .sent →
    A.stopped desk.actor=true ∨ ∃ message,(number,message)∈desk.mailbox ∧
      (A.address message).isSome=true
  /-- Messages are lost when the party stops. -/
  lost : A.stopped desk.actor=true → desk.mailbox=[]
  /-- The mailbox is bounded. -/
  room : desk.mailbox.length ≤ capacity
  /-- Calls that are under way use a handle. -/
  held : (∃ stage∈desk.calls,stage≠.finished) → 0<desk.handles

@[simp] theorem Desk.leave_keys (desk : Desk σ μ ρ) (number : ℕ) :
    (desk.leave number).map Prod.fst=(desk.waiting.map Prod.fst).filter fun n => n≠number := by
  unfold Desk.leave
  rw [List.filter_map]
  rfl

theorem Desk.mem_leave {desk : Desk σ μ ρ} {number : ℕ} {waiting : ℕ×μ} :
    waiting∈desk.leave number ↔ waiting∈desk.waiting ∧ waiting.1≠number := by
  unfold Desk.leave
  rw [List.mem_filter,decide_eq_true_iff]

/-- What is said of a call after one call was moved on. -/
theorem getElem?_set_eq_some {calls : List (Stage ρ)} {number n : ℕ} {stage stage' : Stage ρ}
    (h : (calls.set number stage)[n]?=some stage') :
    n=number ∧ stage'=stage ∨ n≠number ∧ calls[n]?=some stage' := by
  rw [List.getElem?_set] at h
  split at h
  next heq =>
    split at h
    next => exact .inl ⟨heq.symm,(Option.some.inj h).symm⟩
    next => cases h
  next hne => exact .inr ⟨fun heq => hne heq.symm,h⟩

/-- What is said of a call after a reply arrived. -/
theorem getElem?_reply_eq_some {calls : List (Stage ρ)} {target n : ℕ} {reply : ρ}
    {stage : Stage ρ} (h : (calls.modify target (Stage.reply reply))[n]?=some stage) :
    n=target ∧ calls[n]?=some .sent ∧ stage=.answered reply ∨ calls[n]?=some stage ∧
      (stage=.sent → n≠target) := by
  rw [List.getElem?_modify] at h
  obtain ⟨stage',hget,heq⟩ := Option.map_eq_some_iff.mp h
  by_cases htarget : target=n
  · subst htarget
    rw [if_pos rfl] at heq
    cases stage' with
    | sent => exact .inl ⟨rfl,hget,heq.symm⟩
    | _ =>
      subst heq
      exact .inr ⟨hget,fun hno => by cases hno⟩
  · rw [if_neg htarget] at heq
    subst heq
    exact .inr ⟨hget,fun _ hno => htarget hno.symm⟩

/-- A reply leaves alone who waits for room. -/
theorem getElem?_reply_sending {calls : List (Stage ρ)} {target n : ℕ} {reply : ρ} :
    (calls.modify target (Stage.reply reply))[n]?=some .sending ↔ calls[n]?=some .sending := by
  constructor
  · intro h
    obtain ⟨_,_,hno⟩|⟨h,_⟩ := getElem?_reply_eq_some h
    · cases hno
    · exact h
  · intro h
    rw [List.getElem?_modify,h]
    split <;> rfl

/-- Moving a call on leaves no more calls under way. -/
theorem exists_going_of_set {calls : List (Stage ρ)} {number : ℕ} {stage : Stage ρ}
    (h : ∃ s∈calls.set number stage,s≠.finished) (hwas : stage≠.finished → ∃ s∈calls,s≠.finished) :
    ∃ s∈calls,s≠.finished := by
  obtain ⟨s,hs,hne⟩ := h
  obtain hmem|rfl := List.mem_or_eq_of_mem_set hs
  · exact ⟨s,hmem,hne⟩
  · exact hwas hne

/-- A reply leaves no more calls under way. -/
theorem exists_going_of_reply {calls : List (Stage ρ)} {target : ℕ} {reply : ρ}
    (h : ∃ s∈calls.modify target (Stage.reply reply),s≠.finished) : ∃ s∈calls,s≠.finished := by
  obtain ⟨s,hs,hne⟩ := h
  obtain ⟨n,hn⟩ := List.mem_iff_getElem?.mp hs
  obtain ⟨_,hsent,_⟩|⟨hget,_⟩ := getElem?_reply_eq_some hn
  · exact ⟨.sent,List.mem_iff_getElem?.mpr ⟨n,hsent⟩,fun hno => by cases hno⟩
  · exact ⟨s,List.mem_iff_getElem?.mpr ⟨n,hget⟩,hne⟩

/-- It holds at the start. -/
theorem Desk.Inv.start (actor : σ) (hrunning : A.stopped actor=false) :
    Desk.Inv A capacity (Desk.start actor : Desk σ μ ρ) where
  own _ _ h := by cases h
  distinct := List.nodup_nil
  called _ h := by cases h
  sending _ := Iff.intro (fun h => by cases h) (fun h => by cases h)
  sent _ h := by cases h
  lost h := absurd (hrunning.symm.trans h) Bool.false_ne_true
  room := Nat.zero_le capacity
  held := fun _ => Nat.one_pos

/-- A call that is over leaves the invariant alone. -/
theorem Desk.Inv.finish (inv : Desk.Inv A capacity before) (number : ℕ) :
    Desk.Inv A capacity {before with
      waiting := before.leave number
      calls := before.calls.set number .finished} where
  own n m h := by
    refine inv.own n m ?_
    obtain h|h := List.mem_append.mp h
    · exact List.mem_append_left _ h
    · exact List.mem_append_right _ (Desk.mem_leave.mp h).1
  distinct := by
    refine inv.distinct.sublist ?_
    exact ((List.filter_sublist (l:=before.waiting)).append_left _).map _
  called n h := by
    rw [List.length_set]
    refine inv.called n ?_
    exact (((List.filter_sublist (l:=before.waiting)).append_left _).map _).subset h
  sending n := by
    rw [Desk.leave_keys,List.mem_filter,decide_eq_true_iff,←inv.sending n]
    constructor
    · intro h
      obtain ⟨_,hno⟩|⟨hne,hget⟩ := getElem?_set_eq_some h
      · cases hno
      · exact ⟨hget,hne⟩
    · rintro ⟨hget,hne⟩
      rw [List.getElem?_set_ne fun heq => hne heq.symm]
      exact hget
  sent n h := by
    obtain ⟨_,hno⟩|⟨_,hget⟩ := getElem?_set_eq_some h
    · cases hno
    · exact inv.sent n hget
  lost := inv.lost
  room := inv.room
  held h := inv.held (exists_going_of_set h fun hno => absurd rfl hno)

/-- What the party does leaves the invariant alone, if it takes a part of the mailbox, and
whose message is gone has its reply or the party has stopped. -/
theorem Desk.Inv.turn (inv : Desk.Inv A capacity before) {actor : σ} {mailbox : List (ℕ×μ)}
    {calls : List (Stage ρ)} (hpart : mailbox.Sublist before.mailbox)
    (hlength : calls.length=before.calls.length)
    (hsending : ∀ n : ℕ,calls[n]?=some .sending ↔ before.calls[n]?=some .sending)
    (hgoing : (∃ s∈calls,s≠.finished) → ∃ s∈before.calls,s≠.finished)
    (hlost : A.stopped actor=true → mailbox=[])
    (hsent : A.stopped actor=false → ∀ n : ℕ,calls[n]?=some .sent →
      ∃ m,(n,m)∈mailbox ∧ (A.address m).isSome=true) :
    Desk.Inv A capacity ⟨actor,false,before.handles,mailbox,before.waiting,calls⟩ where
  own n m h := inv.own n m ((hpart.append_right _).subset h)
  distinct := inv.distinct.sublist ((hpart.append_right _).map _)
  called n h := by
    rw [hlength]
    exact inv.called n (((hpart.append_right _).map _).subset h)
  sending n := (hsending n).trans (inv.sending n)
  sent n h := by
    cases hstop : A.stopped actor with
    | true => exact .inl rfl
    | false => exact .inr (hsent hstop n h)
  lost := hlost
  room := Nat.le_trans hpart.length_le inv.room
  held h := inv.held (hgoing h)

/-- A message that goes into the mailbox leaves the invariant alone. -/
theorem Desk.Inv.handOver (inv : Desk.Inv A capacity before) {number : ℕ} {message : μ}
    (hrunning : A.stopped before.actor=false)
    (hroom : (number,message)∈before.waiting.take (capacity-before.mailbox.length)) :
    Desk.Inv A capacity {before with
      mailbox := before.mailbox++[(number,message)]
      waiting := before.leave number
      calls := before.calls.set number
        (if (A.address message).isSome then .sent else .delivered)} := by
  have hwaits : (number,message)∈before.waiting := List.mem_of_mem_take hroom
  have hkey : number∈before.waiting.map Prod.fst := List.mem_map_of_mem hwaits
  have hparts := inv.distinct
  rw [Desk.line,List.map_append,List.nodup_append] at hparts
  obtain ⟨hmailbox,hwaiting,hapart⟩ := hparts
  constructor
  case own =>
    intro n m h
    refine inv.own n m ?_
    obtain h|h := List.mem_append.mp h
    · obtain h|h := List.mem_append.mp h
      · exact List.mem_append_left _ h
      · rw [List.mem_singleton.mp h]
        exact List.mem_append_right _ hwaits
    · exact List.mem_append_right _ (Desk.mem_leave.mp h).1
  case distinct =>
    rw [Desk.line,List.map_append,List.map_append,Desk.leave_keys,List.nodup_append,
      List.nodup_append]
    refine ⟨⟨hmailbox,List.nodup_singleton _,?_⟩,hwaiting.filter _,?_⟩
    · intro n hn k hk
      rw [List.mem_singleton.mp hk]
      exact hapart n hn number hkey
    · intro n hn k hk
      obtain ⟨hk,hne⟩ := List.mem_filter.mp hk
      obtain hn|hn := List.mem_append.mp hn
      · exact hapart n hn k hk
      · rw [List.mem_singleton.mp hn]
        exact fun heq => of_decide_eq_true hne heq.symm
  case called =>
    intro n h
    rw [List.length_set]
    refine inv.called n ?_
    obtain ⟨waiting,hmem,rfl⟩ := List.mem_map.mp h
    refine List.mem_map_of_mem ?_
    obtain h|h := List.mem_append.mp hmem
    · obtain h|h := List.mem_append.mp h
      · exact List.mem_append_left _ h
      · rw [List.mem_singleton.mp h]
        exact List.mem_append_right _ hwaits
    · exact List.mem_append_right _ (Desk.mem_leave.mp h).1
  case sending =>
    intro n
    rw [Desk.leave_keys,List.mem_filter,decide_eq_true_iff,←inv.sending n]
    constructor
    · intro h
      obtain ⟨_,hno⟩|⟨hne,hget⟩ := getElem?_set_eq_some h
      · split at hno <;> cases hno
      · exact ⟨hget,hne⟩
    · rintro ⟨hget,hne⟩
      rw [List.getElem?_set_ne fun heq => hne heq.symm]
      exact hget
  case sent =>
    intro n h
    obtain ⟨rfl,hasks⟩|⟨_,hget⟩ := getElem?_set_eq_some h
    · refine .inr ⟨message,List.mem_append_right _ List.mem_cons_self,?_⟩
      by_contra hnot
      rw [if_neg hnot] at hasks
      cases hasks
    · exact (inv.sent n hget).imp_right fun ⟨m,hm,hasks⟩ => ⟨m,List.mem_append_left _ hm,hasks⟩
  case lost => exact fun hno => absurd (hrunning.symm.trans hno) Bool.false_ne_true
  case room =>
    have hsome : 0 < (before.waiting.take (capacity-before.mailbox.length)).length :=
      List.length_pos_of_mem hroom
    rw [List.length_take] at hsome
    rw [List.length_append,List.length_singleton]
    omega
  case held =>
    intro h
    refine inv.held (exists_going_of_set h fun _ => ?_)
    exact ⟨.sending,List.mem_iff_getElem?.mpr ⟨number,(inv.sending number).mpr hkey⟩,
      fun hno => by cases hno⟩

/-- A call that begins leaves the invariant alone. -/
theorem Desk.Inv.call (inv : Desk.Inv A capacity before) {number : ℕ} {message : μ}
    (hhandle : 0<before.handles) (hnext : number=before.calls.length)
    (hown : A.address message=none ∨ A.address message=some number) :
    Desk.Inv A capacity {before with
      waiting := before.waiting++[(number,message)]
      calls := before.calls++[.sending]} where
  own n m h := by
    rw [←List.append_assoc] at h
    obtain h|h := List.mem_append.mp h
    · exact inv.own n m h
    · obtain ⟨rfl,rfl⟩ := Prod.mk.inj (List.mem_singleton.mp h)
      exact hown
  distinct := by
    rw [Desk.line,←List.append_assoc,List.map_append,List.nodup_append]
    refine ⟨inv.distinct,List.nodup_singleton _,fun n hn k hk heq => ?_⟩
    have hlt := inv.called n hn
    rw [heq,List.mem_singleton.mp hk,hnext] at hlt
    exact absurd hlt (Nat.lt_irrefl _)
  called n h := by
    rw [Desk.line,←List.append_assoc,List.map_append] at h
    rw [List.length_append,List.length_singleton]
    obtain h|h := List.mem_append.mp h
    · exact Nat.lt_succ_of_lt (inv.called n h)
    · rw [List.mem_singleton.mp h]
      exact Nat.lt_succ_of_le (Nat.le_of_eq hnext)
  sending n := by
    rw [List.map_append,List.mem_append,←inv.sending n,hnext]
    by_cases hlt : n<before.calls.length
    · rw [List.getElem?_append_left hlt]
      constructor
      · exact .inl
      · rintro (h|h)
        · exact h
        · exact absurd (List.mem_singleton.mp h) (Nat.ne_of_lt hlt)
    · rw [List.getElem?_append_right (Nat.le_of_not_lt hlt),
        List.getElem?_eq_none (Nat.le_of_not_lt hlt)]
      constructor
      · intro h
        have hzero := (List.getElem?_eq_some_iff.mp h).1
        rw [List.length_singleton] at hzero
        exact .inr (List.mem_singleton.mpr (by dsimp only; omega))
      · rintro (h|h)
        · cases h
        · rw [show n=before.calls.length from List.mem_singleton.mp h,Nat.sub_self]
          rfl
  sent n h := by
    refine inv.sent n ?_
    by_cases hlt : n<before.calls.length
    · rw [List.getElem?_append_left hlt] at h
      exact h
    · rw [List.getElem?_append_right (Nat.le_of_not_lt hlt)] at h
      have hmem := List.mem_of_getElem? h
      cases List.mem_singleton.mp hmem
  lost := inv.lost
  room := inv.room
  held _ := hhandle

/-- The reply to a message goes to the call that it is of. -/
theorem Desk.Inv.target (inv : Desk.Inv A capacity before) {number target : ℕ} {message : μ}
    {rest : List (ℕ×μ)} (hnext : before.mailbox=(number,message)::rest)
    (hasks : A.address message=some target) : target=number := by
  have hmem : (number,message)∈before.mailbox++before.waiting := by
    rw [hnext]
    exact List.mem_append_left _ List.mem_cons_self
  obtain hnone|hsome := inv.own number message hmem
  · rw [hasks] at hnone
    cases hnone
  · rw [hasks] at hsome
    exact Option.some.inj hsome

/-- Every move leaves the invariant alone. -/
theorem DeskMove.inv (hmove : DeskMove A capacity before event seen after)
    (inv : Desk.Inv A capacity before) : Desk.Inv A capacity after := by
  have hthere : A.stopped before.actor=false → ∀ {n : ℕ},before.calls[n]?=some .sent →
      ∃ m,(n,m)∈before.mailbox ∧ (A.address m).isSome=true := fun hrunning n h =>
    (inv.sent n h).resolve_left fun hno => Bool.false_ne_true (hrunning.symm.trans hno)
  have hrest : ∀ {entry : ℕ×μ} {rest : List (ℕ×μ)},before.mailbox=entry::rest → ∀ actor : σ,
      (if A.stopped actor then [] else rest).Sublist before.mailbox := by
    intro entry rest hnext actor
    rw [hnext]
    split
    · exact List.nil_sublist _
    · exact List.sublist_cons_self _ _
  cases hmove with
  | call handle next own => exact inv.call handle next own
  | handOver running room => exact inv.handOver running room
  | result => exact inv.finish _
  | giveUp => exact inv.finish _
  | clone =>
    exact ⟨inv.own,inv.distinct,inv.called,inv.sending,inv.sent,inv.lost,inv.room,
      fun _ => Nat.succ_pos _⟩
  | drop spare =>
    refine ⟨inv.own,inv.distinct,inv.called,inv.sending,inv.sent,inv.lost,inv.room,?_⟩
    rintro ⟨stage,hmem,hgoing⟩
    obtain hspare|⟨-,hall⟩ := spare
    · exact Nat.sub_pos_of_lt hspare
    · exact absurd (hall stage hmem) hgoing
  | turnAway =>
    exact ⟨inv.own,inv.distinct,inv.called,inv.sending,inv.sent,inv.lost,inv.room,inv.held⟩
  | @other event actor outputs away takes step =>
    refine inv.turn ?_ rfl (fun n => Iff.rfl) id (fun h => if_pos h) fun hrunning n hsent => ?_
    · split
      · exact List.nil_sublist _
      · exact List.Sublist.refl _
    · rw [hrunning,if_neg Bool.false_ne_true]
      exact hthere (A.running_of_step step) hsent
  | closes takes empty handles step =>
    exact inv.turn (List.nil_sublist _) rfl (fun n => Iff.rfl) id (fun _ => rfl)
      fun hrunning => absurd (hrunning.symm.trans (A.stops step takes)) Bool.false_ne_true
  | @takes event actor outputs number message rest free takes next silent step =>
    refine inv.turn (hrest next actor) rfl (fun n => Iff.rfl) id (fun h => if_pos h)
      fun hrunning n hsent => ?_
    rw [hrunning,if_neg Bool.false_ne_true]
    obtain ⟨m,hm,hasks⟩ := hthere (A.running_of_step step) hsent
    rw [next] at hm
    obtain heq|hm := List.mem_cons.mp hm
    · obtain ⟨rfl,rfl⟩ := Prod.mk.inj heq
      rw [silent] at hasks
      cases hasks
    · exact ⟨m,hm,hasks⟩
  | @replies event actor outputs number target message rest reply free takes next asks step sent =>
    refine inv.turn (hrest next actor) (List.length_modify _ _ _)
      (fun n => getElem?_reply_sending) exists_going_of_reply (fun h => if_pos h)
      fun hrunning n hsent => ?_
    rw [hrunning,if_neg Bool.false_ne_true]
    obtain ⟨_,_,hno⟩|⟨hsent,hother⟩ := getElem?_reply_eq_some hsent
    · cases hno
    · obtain ⟨m,hm,hasks⟩ := hthere (A.running_of_step step) hsent
      rw [next] at hm
      obtain heq|hm := List.mem_cons.mp hm
      · obtain ⟨rfl,rfl⟩ := Prod.mk.inj heq
        exact absurd (inv.target next asks).symm (hother rfl)
      · exact ⟨m,hm,hasks⟩

/-- What a call returns tells how far it is. -/
theorem Desk.outcome_eq_some {desk : Desk σ μ ρ} {number : ℕ} {result : Result ρ}
    (h : desk.outcome A number=some result) : ∃ stage,desk.calls[number]?=some stage ∧
      stage≠.finished ∧ ((∀ reply,result=.answer reply → stage=.answered reply) ∧
        (result=.delivered → stage=.delivered)) ∧
      (result=.closed → A.stopped desk.actor=true) := by
  unfold Desk.outcome at h
  split at h
  next hget =>
    split at h
    next hstop =>
      obtain rfl := Option.some.inj h
      exact ⟨_,hget,(fun hno => by cases hno),⟨(fun _ hno => by cases hno),
        fun hno => by cases hno⟩,fun _ => hstop⟩
    next => cases h
  next hget =>
    split at h
    next hstop =>
      obtain rfl := Option.some.inj h
      exact ⟨_,hget,(fun hno => by cases hno),⟨(fun _ hno => by cases hno),
        fun hno => by cases hno⟩,fun _ => hstop⟩
    next => cases h
  next hget =>
    obtain rfl := Option.some.inj h
    exact ⟨_,hget,(fun hno => by cases hno),⟨(fun _ hno => by cases hno),fun _ => rfl⟩,
      fun hno => by cases hno⟩
  next reply hget =>
    obtain rfl := Option.some.inj h
    refine ⟨_,hget,(fun hno => by cases hno),⟨fun _ heq => ?_,fun hno => by cases hno⟩,
      fun hno => by cases hno⟩
    rw [Result.answer.inj heq]
  next => cases h

/-- A call that is over stays so. -/
theorem DeskMove.finished (hmove : DeskMove A capacity before event seen after)
    (inv : before.Inv A capacity) {n : ℕ} (h : before.calls[n]?=some .finished) :
    after.calls[n]?=some .finished := by
  have hlt := (List.getElem?_eq_some_iff.mp h).1
  have hset : (before.calls.set n .finished)[n]?=some .finished :=
    List.getElem?_set_self hlt
  cases hmove with
  | call => rw [List.getElem?_append_left hlt,h]
  | @handOver number message running room =>
    by_cases heq : number=n
    · have hwaits := List.mem_map_of_mem (f:=Prod.fst) (List.mem_of_mem_take room)
      rw [←heq,(inv.sending number).mpr hwaits] at h
      cases h
    · rw [List.getElem?_set_ne heq,h]
  | @result number | @giveUp number =>
    by_cases heq : number=n
    · rw [heq]
      exact hset
    · rw [List.getElem?_set_ne heq,h]
  | replies =>
    rw [List.getElem?_modify,h]
    split <;> rfl
  | _ => exact h

/-- Only a call that begins adds to those whose messages are not taken. -/
theorem DeskMove.line (hmove : DeskMove A capacity before event seen after) {waiting : ℕ×μ}
    (h : waiting∈after.mailbox++after.waiting) : waiting∈before.mailbox++before.waiting ∨
      event=.call waiting.1 waiting.2 ∧ seen=.nothing := by
  have hpart : ∀ {actor : σ} {rest : List (ℕ×μ)},rest.Sublist before.mailbox →
      waiting∈(if A.stopped actor then [] else rest)++before.waiting →
      waiting∈before.mailbox++before.waiting := by
    intro actor rest hsub h
    split at h
    · exact List.mem_append_right _ h
    · exact (hsub.append_right _).subset h
  have hleave : ∀ {number : ℕ},waiting∈before.mailbox++before.leave number →
      waiting∈before.mailbox++before.waiting :=
    fun h => (List.filter_sublist.append_left _).subset h
  cases hmove with
  | @call number message =>
    rw [←List.append_assoc] at h
    obtain h|h := List.mem_append.mp h
    · exact .inl h
    · rw [List.mem_singleton.mp h]
      exact .inr ⟨rfl,rfl⟩
  | @handOver number message running room =>
    obtain h|h := List.mem_append.mp h
    · obtain h|h := List.mem_append.mp h
      · exact .inl (List.mem_append_left _ h)
      · rw [List.mem_singleton.mp h]
        exact .inl (List.mem_append_right _ (List.mem_of_mem_take room))
    · exact .inl (List.mem_append_right _ (Desk.mem_leave.mp h).1)
  | result | giveUp => exact .inl (hleave h)
  | other => exact .inl (hpart (List.Sublist.refl _) h)
  | closes => exact .inl (List.mem_append_right _ h)
  | takes free takes next | replies free takes next =>
    refine .inl (hpart ?_ h)
    rw [next]
    exact List.sublist_cons_self _ _
  | _ => exact .inl h

end Invariant

end WispersConnect.Mailboxes
