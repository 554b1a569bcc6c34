import WispersConnect.Runs
import Mathlib.Algebra.BigOperators.Group.Finset.Basic
import Mathlib.Algebra.Order.BigOperators.Group.Finset
import Mathlib.Logic.Function.Basic

/-!
# Chains of relays

Channels of a reliable transport, with a relay between each and the next. A relay reads
what comes, writes it on, and ends its own channel at the end of the other, or where it
fails. Over every interleaving what comes out is a prefix of what went in. An end comes out
only after everything, unless a relay failed. Where none fails, everything comes out, and
after it the end.
-/

namespace WispersConnect.RelayChains

open Runs

variable {α : Type*}

/-- One way of a connection: what was read from it, what is under way on it, and whether the
writer has ended it. -/
structure Channel (α : Type*) where
  /-- What was read, in order. -/
  taken : List α
  /-- What was written and not yet read. -/
  inFlight : List α
  /-- Nothing more will be written. -/
  ended : Bool
  deriving DecidableEq

/-- A relay between a channel that it reads and a channel that it writes. -/
inductive Relay (α : Type*) where
  /-- It waits for something to read. -/
  | reading
  /-- It has this left to write. -/
  | writing (rest : List α)
  /-- It is about to end the channel that it writes. -/
  | closing
  /-- It is done. -/
  | closed
  deriving DecidableEq

namespace Channel

/-- Nothing has happened. -/
def empty : Channel α := ⟨[],[],false⟩

/-- Everything that was written. -/
def written (channel : Channel α) : List α := channel.taken++channel.inFlight

/-- More is written. -/
def write (channel : Channel α) (items : List α) : Channel α :=
  {channel with inFlight := channel.inFlight++items}

/-- The next items are read. -/
def read (channel : Channel α) (n : ℕ) : Channel α :=
  ⟨channel.taken++channel.inFlight.take n,channel.inFlight.drop n,channel.ended⟩

/-- The channel is ended. -/
def finish (channel : Channel α) : Channel α := {channel with ended := true}

@[simp] theorem written_write (channel : Channel α) (items : List α) :
    (channel.write items).written=channel.written++items :=
  (List.append_assoc channel.taken channel.inFlight items).symm

@[simp] theorem written_read (channel : Channel α) (n : ℕ) :
    (channel.read n).written=channel.written := by
  unfold written read
  rw [List.append_assoc,List.take_append_drop]

@[simp] theorem written_finish (channel : Channel α) : channel.finish.written=channel.written := rfl

@[simp] theorem taken_write (channel : Channel α) (items : List α) :
    (channel.write items).taken=channel.taken := rfl

@[simp] theorem taken_finish (channel : Channel α) : channel.finish.taken=channel.taken := rfl

@[simp] theorem ended_write (channel : Channel α) (items : List α) :
    (channel.write items).ended=channel.ended := rfl

@[simp] theorem ended_read (channel : Channel α) (n : ℕ) :
    (channel.read n).ended=channel.ended := rfl

/-- What was read was written. -/
theorem taken_prefix (channel : Channel α) : channel.taken<+:channel.written :=
  List.prefix_append _ _

end Channel

/-- What a relay has read and not yet written. -/
def Relay.inHand : Relay α→List α
  | .writing rest => rest
  | _ => []

/-- It has not stopped. -/
def Relay.Going : Relay α→Prop
  | .reading => True
  | .writing _ => True
  | _ => False

/-- What a relay does next. -/
inductive RelayEvent where
  /-- It reads so many items. -/
  | read (n : ℕ)
  /-- It reads the end. -/
  | readEnd
  /-- Reading fails. -/
  | readFailed
  /-- It writes so many items. -/
  | write (n : ℕ)
  /-- Writing fails. -/
  | writeFailed
  /-- It ends the channel that it writes. -/
  | close
  /-- That fails. -/
  | closeFailed
  /-- It is cut off, wherever it is. -/
  | cancelled
  deriving DecidableEq

/-- The step of a relay, with the size of its buffer and the most that the channel it writes
holds. -/
def relayStep (buffer capacity : ℕ) (up : Channel α) (relay : Relay α) (down : Channel α)
    (event : RelayEvent) : Option (Channel α×Relay α×Channel α) :=
  match relay,event with
  | .reading,.read n =>
    if 0<n ∧ n≤buffer ∧ n≤up.inFlight.length then
      some (up.read n,.writing (up.inFlight.take n),down)
    else none
  | .reading,.readEnd =>
    if up.inFlight.length=0 ∧ up.ended=true then some (up,.closing,down) else none
  | .reading,.readFailed => some (up,.closing,down)
  | .writing rest,.write n =>
    if 0<n ∧ n ≤ rest.length ∧ down.inFlight.length+n ≤ capacity then
      some (up,if n=rest.length then .reading else .writing (rest.drop n),
        down.write (rest.take n))
    else none
  | .writing _,.writeFailed => some (up,.closing,down)
  | .closing,.close => some (up,.closed,down.finish)
  | .closing,.closeFailed => some (up,.closed,down)
  | _,.cancelled => some (up,.closed,down)
  | _,_ => none

/-- Whether a relay fails or is cut off. -/
def RelayEvent.fails : RelayEvent→Bool
  | .readFailed => true
  | .writeFailed => true
  | .closeFailed => true
  | .cancelled => true
  | _ => false

/-- Everything that a relay can do. -/
inductive RelayMove (buffer capacity : ℕ) (up : Channel α) (down : Channel α) :
    Relay α→RelayEvent→Channel α→Relay α→Channel α→Prop where
  /-- It reads. -/
  | read {n : ℕ} (some : 0<n) (fits : n≤buffer) (there : n≤up.inFlight.length) :
      RelayMove buffer capacity up down .reading (.read n) (up.read n)
        (.writing (up.inFlight.take n)) down
  /-- It reads the end. -/
  | readEnd (nothing : up.inFlight=[]) (ended : up.ended=true) :
      RelayMove buffer capacity up down .reading .readEnd up .closing down
  /-- Reading fails. -/
  | readFailed : RelayMove buffer capacity up down .reading .readFailed up .closing down
  /-- It writes a part. -/
  | write {rest : List α} {n : ℕ} (some : 0<n) (part : n < rest.length)
      (room : down.inFlight.length+n ≤ capacity) :
      RelayMove buffer capacity up down (.writing rest) (.write n) up (.writing (rest.drop n))
        (down.write (rest.take n))
  /-- It writes the rest. -/
  | written {rest : List α} (some : 0 < rest.length)
      (room : down.inFlight.length+rest.length ≤ capacity) :
      RelayMove buffer capacity up down (.writing rest) (.write rest.length) up .reading
        (down.write rest)
  /-- Writing fails. -/
  | writeFailed {rest : List α} :
      RelayMove buffer capacity up down (.writing rest) .writeFailed up .closing down
  /-- It ends the channel that it writes. -/
  | close : RelayMove buffer capacity up down .closing .close up .closed down.finish
  /-- That fails. -/
  | closeFailed : RelayMove buffer capacity up down .closing .closeFailed up .closed down
  /-- It is cut off. -/
  | cancelled {relay : Relay α} : RelayMove buffer capacity up down relay .cancelled up .closed down

/-- Every step of a relay is one of these. -/
theorem relayStep_move {buffer capacity : ℕ} {up up' down down' : Channel α}
    {relay relay' : Relay α} {event : RelayEvent}
    (h : relayStep buffer capacity up relay down event=some (up',relay',down')) :
    RelayMove buffer capacity up down relay event up' relay' down' := by
  unfold relayStep at h
  split at h
  next n =>
    split at h
    next hread =>
      simp only [Option.some.injEq,Prod.mk.injEq] at h
      obtain ⟨rfl,rfl,rfl⟩ := h
      exact .read hread.1 hread.2.1 hread.2.2
    next => cases h
  next =>
    split at h
    next hend =>
      simp only [Option.some.injEq,Prod.mk.injEq] at h
      obtain ⟨rfl,rfl,rfl⟩ := h
      exact .readEnd (List.length_eq_zero_iff.mp hend.1) hend.2
    next => cases h
  next =>
    simp only [Option.some.injEq,Prod.mk.injEq] at h
    obtain ⟨rfl,rfl,rfl⟩ := h
    exact .readFailed
  next rest n =>
    split at h
    next hwrite =>
      simp only [Option.some.injEq,Prod.mk.injEq] at h
      obtain ⟨rfl,rfl,rfl⟩ := h
      obtain ⟨hsome,hle,hroom⟩ := hwrite
      split
      next hall =>
        subst hall
        rw [List.take_length]
        exact .written hsome hroom
      next hpart => exact .write hsome (by omega) hroom
    next => cases h
  next =>
    simp only [Option.some.injEq,Prod.mk.injEq] at h
    obtain ⟨rfl,rfl,rfl⟩ := h
    exact .writeFailed
  next =>
    simp only [Option.some.injEq,Prod.mk.injEq] at h
    obtain ⟨rfl,rfl,rfl⟩ := h
    exact .close
  next =>
    simp only [Option.some.injEq,Prod.mk.injEq] at h
    obtain ⟨rfl,rfl,rfl⟩ := h
    exact .closeFailed
  next =>
    simp only [Option.some.injEq,Prod.mk.injEq] at h
    obtain ⟨rfl,rfl,rfl⟩ := h
    exact .cancelled
  next => cases h

section Hops

/-- What holds between the channel that a relay reads and the one that it writes, by whether
it has failed. -/
structure Hop (failed : Prop) (up : Channel α) (relay : Relay α) (down : Channel α) : Prop where
  /-- What was read was written or is in hand, but for what a failure lost. -/
  passed : ∃ lost,up.taken=down.written++relay.inHand++lost ∧ (¬failed → lost=[])
  /-- A relay that failed does not go on. -/
  stops : failed → relay=.closing ∨ relay=.closed
  /-- What is in hand is not empty. -/
  hand : ∀ rest,relay=.writing rest → rest≠[]
  /-- A relay that stops without failing has read everything. -/
  complete : relay=.closing ∨ relay=.closed → ¬failed → up.inFlight=[] ∧ up.ended=true
  /-- Only a relay that is done has ended its channel. -/
  done : down.ended=true → relay=.closed
  /-- A relay that is done without failing has ended its channel. -/
  ends : relay=.closed → ¬failed → down.ended=true

variable {buffer capacity : ℕ} {failed failed' : Prop} {up up' down down' : Channel α}
  {relay relay' : Relay α} {event : RelayEvent}

/-- At the start it holds. -/
theorem Hop.start (hnot : ¬failed) :
    Hop failed Channel.empty Relay.reading (Channel.empty : Channel α) where
  passed := ⟨[],rfl,fun _ => rfl⟩
  stops := fun hfailed => absurd hfailed hnot
  hand := fun _ h => by cases h
  complete := fun h => by cases h <;> contradiction
  done := fun h => by cases h
  ends := fun h => by cases h

/-- What the writer of a channel can do to it. -/
inductive WriterMove (channel : Channel α) : Channel α→Prop where
  /-- Nothing. -/
  | none : WriterMove channel channel
  /-- Write, as long as it is not ended. -/
  | write (hopen : channel.ended=false) (items : List α) : WriterMove channel (channel.write items)
  /-- End it. -/
  | finish : WriterMove channel channel.finish

/-- What the reader of a channel can do to it. -/
inductive ReaderMove (channel : Channel α) : Channel α→Prop where
  /-- Nothing. -/
  | none : ReaderMove channel channel
  /-- Read. -/
  | read (n : ℕ) : ReaderMove channel (channel.read n)

/-- The writer of the channel that a relay reads moves. -/
theorem Hop.up_move (h : Hop failed up relay down) (hmove : WriterMove up up') :
    Hop failed up' relay down := by
  cases hmove with
  | none => exact h
  | write hopen items =>
    refine ⟨h.passed,h.stops,h.hand,?_,h.done,h.ends⟩
    intro hover hnot
    rw [(h.complete hover hnot).2] at hopen
    cases hopen
  | finish =>
    exact ⟨h.passed,h.stops,h.hand,fun hover hnot => ⟨(h.complete hover hnot).1,rfl⟩,h.done,h.ends⟩

/-- The reader of the channel that a relay writes moves. -/
theorem Hop.down_move (h : Hop failed up relay down) (hmove : ReaderMove down down') :
    Hop failed up relay down' := by
  cases hmove with
  | none => exact h
  | read n =>
    refine ⟨?_,h.stops,h.hand,h.complete,h.done,h.ends⟩
    rw [Channel.written_read]
    exact h.passed

/-- A relay is the reader of one channel. -/
theorem RelayMove.reader
    (hmove : RelayMove buffer capacity up down relay event up' relay' down') :
    ReaderMove up up' := by
  cases hmove with
  | read => exact .read _
  | _ => exact .none

/-- It is the writer of the other. -/
theorem RelayMove.writer (h : Hop failed up relay down)
    (hmove : RelayMove buffer capacity up down relay event up' relay' down') :
    WriterMove down down' := by
  have hopen : relay≠.closed → down.ended=false :=
    fun hne => Bool.eq_false_iff.mpr fun hended => hne (h.done hended)
  cases hmove with
  | write => exact .write (hopen fun hno => by cases hno) _
  | written => exact .write (hopen fun hno => by cases hno) _
  | close => exact .finish
  | _ => exact .none

/-- A relay that goes on has passed on everything but what it has in hand. -/
theorem Hop.going (h : Hop failed up relay down) (hgoing : relay.Going) :
    ¬failed ∧ up.taken=down.written++relay.inHand ∧ down.ended≠true := by
  have hnot : ¬failed := by
    intro hfailed
    obtain rfl|rfl := h.stops hfailed
    · exact hgoing
    · exact hgoing
  obtain ⟨lost,hpassed,hlost⟩ := h.passed
  rw [hlost hnot,List.append_nil] at hpassed
  refine ⟨hnot,hpassed,fun hended => ?_⟩
  rw [h.done hended] at hgoing
  exact hgoing

/-- A relay that has passed on everything but what it has in hand goes on. -/
theorem Hop.of_going (hgoing : relay.Going) (hnot : ¬failed)
    (hpassed : up.taken=down.written++relay.inHand) (hhand : ∀ rest,relay=.writing rest → rest≠[])
    (hopen : down.ended≠true) : Hop failed up relay down where
  passed := ⟨[],by rw [hpassed,List.append_nil],fun _ => rfl⟩
  stops := fun hfailed => absurd hfailed hnot
  hand := hhand
  complete := by
    rintro (rfl|rfl)
    · exact absurd hgoing id
    · exact absurd hgoing id
  done := fun hended => absurd hended hopen
  ends := by
    rintro rfl
    exact absurd hgoing id

/-- A relay that has failed, or that has passed on everything, stops. -/
theorem Hop.of_stopped {lost : List α} (hpassed : up.taken=down.written++lost)
    (hall : ¬failed → lost=[] ∧ up.inFlight=[] ∧ up.ended=true) (hopen : down.ended≠true) :
    Hop failed up .closing down where
  passed := ⟨lost,by rw [hpassed,Relay.inHand,List.append_nil]; simp,fun hnot => (hall hnot).1⟩
  stops := fun _ => .inl rfl
  hand := fun rest hno => by cases hno
  complete := fun _ hnot => (hall hnot).2
  done := fun hended => absurd hended hopen
  ends := fun hno => by cases hno

/-- The relay moves. -/
theorem Hop.move (h : Hop failed up relay down)
    (hmove : RelayMove buffer capacity up down relay event up' relay' down')
    (hfailed : failed' ↔ failed ∨ event.fails=true) : Hop failed' up' relay' down' := by
  have hsame : ¬failed' → ¬failed := fun hno hbefore => hno (hfailed.mpr (.inl hbefore))
  cases hmove with
  | @read n hsome _ hthere =>
    obtain ⟨hnot,hpassed,hopen⟩ := h.going trivial
    refine .of_going trivial (fun hno => (hfailed.mp hno).elim hnot fun hfails => by cases hfails)
      ?_ ?_ hopen
    · exact congrArg (·++up.inFlight.take n) (hpassed.trans (List.append_nil _))
    · intro rest hrest hempty
      rw [←Relay.writing.inj hrest] at hempty
      have hlength := congrArg List.length hempty
      rw [List.length_take,List.length_nil] at hlength
      omega
  | readEnd hnothing hended =>
    obtain ⟨_,hpassed,hopen⟩ := h.going trivial
    exact .of_stopped hpassed (fun _ => ⟨rfl,hnothing,hended⟩) hopen
  | readFailed =>
    obtain ⟨_,hpassed,hopen⟩ := h.going trivial
    exact .of_stopped hpassed (fun hno => absurd (hfailed.mpr (.inr rfl)) hno) hopen
  | @write rest n hsome hpart hroom =>
    obtain ⟨hnot,hpassed,hopen⟩ := h.going trivial
    refine .of_going trivial (fun hno => (hfailed.mp hno).elim hnot fun hfails => by cases hfails)
      ?_ ?_ hopen
    · rw [Channel.written_write,List.append_assoc]
      exact hpassed.trans (congrArg (down.written++·) (List.take_append_drop n rest).symm)
    · intro left hleft hempty
      rw [←Relay.writing.inj hleft] at hempty
      have hlength := congrArg List.length hempty
      rw [List.length_drop,List.length_nil] at hlength
      omega
  | @written rest hsome hroom =>
    obtain ⟨hnot,hpassed,hopen⟩ := h.going trivial
    refine .of_going trivial (fun hno => (hfailed.mp hno).elim hnot fun hfails => by cases hfails)
      ?_ (fun left hno => by cases hno) hopen
    rw [Channel.written_write]
    exact hpassed.trans (List.append_nil _).symm
  | writeFailed =>
    obtain ⟨_,hpassed,hopen⟩ := h.going trivial
    exact .of_stopped hpassed (fun hno => absurd (hfailed.mpr (.inr rfl)) hno) hopen
  | close =>
    obtain ⟨lost,hpassed,hlost⟩ := h.passed
    exact ⟨⟨lost,hpassed,fun hno => hlost (hsame hno)⟩,fun _ => .inr rfl,
      fun left hno => (by cases hno),fun _ hno => h.complete (.inl rfl) (hsame hno),fun _ => rfl,
      fun _ _ => rfl⟩
  | closeFailed =>
    have hfails : failed' := hfailed.mpr (.inr rfl)
    obtain ⟨lost,hpassed,_⟩ := h.passed
    exact ⟨⟨lost,hpassed,fun hno => absurd hfails hno⟩,fun _ => .inr rfl,
      fun left hno => (by cases hno),fun _ hno => absurd hfails hno,fun _ => rfl,
      fun _ hno => absurd hfails hno⟩
  | cancelled =>
    have hfails : failed' := hfailed.mpr (.inr rfl)
    obtain ⟨lost,hpassed,_⟩ := h.passed
    refine ⟨⟨relay.inHand++lost,?_,fun hno => absurd hfails hno⟩,fun _ => .inr rfl,
      fun left hno => (by cases hno),fun _ hno => absurd hfails hno,fun _ => rfl,
      fun _ hno => absurd hfails hno⟩
    have hnone : (Relay.closed : Relay α).inHand=[] := rfl
    rw [hpassed,hnone,List.append_nil,List.append_assoc]

end Hops

/-- Channels in a row, with a relay between each and the next, and whether the end was read
from the last. -/
structure Chain (α : Type*) where
  /-- The channels, of which the first is written and the last is read from outside. -/
  channels : ℕ→Channel α
  /-- The relay that reads a channel and writes the next. -/
  relays : ℕ→Relay α
  /-- The end was read from the last. -/
  finished : Bool

/-- What happens on a chain. -/
inductive ChainEvent (α : Type*) where
  /-- Something is written to the first channel. -/
  | send (items : List α)
  /-- The first channel is ended. -/
  | sendEnd
  /-- A relay moves. -/
  | relay (i : ℕ) (event : RelayEvent)
  /-- So many items are read from the last channel. -/
  | receive (n : ℕ)
  /-- The end is read from it. -/
  | receiveEnd

/-- How a chain is built. -/
structure Setup where
  /-- The number of relays. -/
  size : ℕ
  /-- The most that a relay reads at once. -/
  buffer : ℕ
  /-- The most that a channel holds. -/
  capacity : ℕ→ℕ

/-- Nothing has happened. -/
def Chain.start : Chain α := ⟨fun _ => .empty,fun _ => .reading,false⟩

/-- A step of a chain, if it is possible. -/
def Setup.step (setup : Setup) (chain : Chain α) : ChainEvent α→Option (Chain α)
  | .send items =>
    if (chain.channels 0).ended=false ∧
        (chain.channels 0).inFlight.length+items.length ≤ setup.capacity 0 then
      some {chain with channels :=
        Function.update chain.channels 0 ((chain.channels 0).write items)}
    else none
  | .sendEnd =>
    some {chain with channels := Function.update chain.channels 0 (chain.channels 0).finish}
  | .relay i event =>
    if i < setup.size then
      (relayStep setup.buffer (setup.capacity (i+1)) (chain.channels i) (chain.relays i)
        (chain.channels (i+1)) event).map fun next =>
          ⟨Function.update (Function.update chain.channels i next.1) (i+1) next.2.2,
            Function.update chain.relays i next.2.1,chain.finished⟩
    else none
  | .receive n =>
    if 0<n ∧ n≤(chain.channels setup.size).inFlight.length then
      some {chain with channels :=
        Function.update chain.channels setup.size ((chain.channels setup.size).read n)}
    else none
  | .receiveEnd =>
    if chain.finished=false ∧ (chain.channels setup.size).inFlight.length=0 ∧
        (chain.channels setup.size).ended=true then
      some {chain with finished := true}
    else none

/-- The runs of a chain. -/
abbrev ChainRun (setup : Setup) : List (ChainEvent α)→Chain α→Prop :=
  Run (fun _ before event after => setup.step before event=some after) Chain.start

/-- What was written to the first channel. -/
def sent (log : List (ChainEvent α)) : List α :=
  log.flatMap fun event => match event with
    | .send items => items
    | _ => []

/-- What was read from the last. -/
def Setup.received (setup : Setup) (chain : Chain α) : List α := (chain.channels setup.size).taken

/-- The relay that an event is a failure of. -/
def failing : ChainEvent α→Option ℕ
  | .relay i event => if event.fails=true then some i else none
  | _ => none

/-- The relays that failed. -/
def failures (log : List (ChainEvent α)) : List ℕ := log.filterMap failing

section Safety

variable {setup : Setup}

/-- What holds of a chain after a run. -/
structure ChainInvariant (setup : Setup) (log : List (ChainEvent α)) (chain : Chain α) : Prop where
  /-- What was sent was written to the first channel. -/
  sent : (chain.channels 0).written=sent log
  /-- Every relay stands between its channels. -/
  hops : ∀ i,i < setup.size → Hop (i∈failures log) (chain.channels i) (chain.relays i)
    (chain.channels (i+1))
  /-- After the end nothing is left. -/
  complete : chain.finished=true →
    (chain.channels setup.size).inFlight=[] ∧ (chain.channels setup.size).ended=true

/-- An event that is no failure changes nothing about who failed. -/
theorem failures_append_of_none {log : List (ChainEvent α)} {event : ChainEvent α}
    (h : failing event=none) : failures (log++[event])=failures log := by
  unfold failures
  rw [List.filterMap_append,List.filterMap_cons_none h,List.filterMap_nil,List.append_nil]

/-- Who failed after a move of a relay. -/
theorem mem_failures_relay {log : List (ChainEvent α)} {i j : ℕ} {event : RelayEvent} :
    j∈failures (log++[.relay i event]) ↔ j∈failures log ∨ (j=i ∧ event.fails=true) := by
  unfold failures
  rw [List.filterMap_append,List.mem_append]
  refine or_congr Iff.rfl ?_
  cases hfails : event.fails with
  | true =>
    have hfailing : failing (.relay i event : ChainEvent α)=some i := if_pos hfails
    rw [List.filterMap_cons_some hfailing,List.filterMap_nil,List.mem_singleton,
      and_iff_left rfl]
  | false =>
    have hfailing : failing (.relay i event : ChainEvent α)=none :=
      if_neg (Bool.eq_false_iff.mp hfails)
    rw [List.filterMap_cons_none hfailing,List.filterMap_nil]
    exact ⟨fun h => absurd h List.not_mem_nil,fun h => by cases h.2⟩

/-- What is sent by an event more. -/
theorem sent_append (log : List (ChainEvent α)) (event : ChainEvent α) :
    sent (log++[event])=sent log++sent [event] := List.flatMap_append

/-- The invariant holds at the start. -/
theorem ChainInvariant.start : ChainInvariant setup [] (Chain.start : Chain α) where
  sent := rfl
  hops := fun _ _ => .start List.not_mem_nil
  complete := fun h => by cases h

/-- The writer of the first channel moves. -/
theorem ChainInvariant.first_write {log log' : List (ChainEvent α)} {chain : Chain α}
    {channel : Channel α} (inv : ChainInvariant setup log chain)
    (hmove : WriterMove (chain.channels 0) channel) (hfailures : failures log'=failures log)
    (hsent : channel.written=RelayChains.sent log') :
    ChainInvariant setup log'
      {chain with channels := Function.update chain.channels 0 channel} where
  sent := by
    dsimp only
    rw [Function.update_self]
    exact hsent
  hops := by
    intro i hi
    dsimp only
    rw [hfailures,Function.update_of_ne (Nat.succ_ne_zero i)]
    by_cases hzero : i=0
    · subst hzero
      rw [Function.update_self]
      exact (inv.hops 0 hi).up_move hmove
    · rw [Function.update_of_ne hzero]
      exact inv.hops i hi
  complete := by
    intro hfinished
    obtain ⟨hnothing,hended⟩ := inv.complete hfinished
    by_cases hzero : setup.size=0
    · rw [hzero] at hnothing hended ⊢
      dsimp only
      rw [Function.update_self]
      cases hmove with
      | none => exact ⟨hnothing,hended⟩
      | write hopen items =>
        rw [hended] at hopen
        cases hopen
      | finish => exact ⟨hnothing,rfl⟩
    · dsimp only
      rw [Function.update_of_ne hzero]
      exact ⟨hnothing,hended⟩

/-- A relay moves. -/
theorem ChainInvariant.relayed {log : List (ChainEvent α)} {chain : Chain α} {i : ℕ}
    {event : RelayEvent} {up down : Channel α} {relay : Relay α}
    (inv : ChainInvariant setup log chain) (hi : i < setup.size)
    (hmove : RelayMove setup.buffer (setup.capacity (i+1)) (chain.channels i)
      (chain.channels (i+1)) (chain.relays i) event up relay down) :
    ChainInvariant setup (log++[.relay i event])
      ⟨Function.update (Function.update chain.channels i up) (i+1) down,
        Function.update chain.relays i relay,chain.finished⟩ where
  sent := by
    have hwritten : up.written=(chain.channels i).written := by
      cases hmove.reader with
      | none => rfl
      | read n => exact Channel.written_read _ n
    have hnone : RelayChains.sent [(.relay i event : ChainEvent α)]=[] := rfl
    dsimp only
    rw [sent_append,hnone,List.append_nil,←inv.sent,Function.update_of_ne (Nat.succ_ne_zero i).symm]
    by_cases hzero : i=0
    · subst hzero
      rw [Function.update_self]
      exact hwritten
    · rw [Function.update_of_ne (Ne.symm hzero)]
  hops := by
    intro j hj
    have hown := inv.hops i hi
    by_cases hsame : j=i
    · subst hsame
      dsimp only
      rw [Function.update_self,Function.update_self,Function.update_of_ne (Nat.succ_ne_self j).symm,
        Function.update_self]
      refine hown.move hmove ?_
      rw [mem_failures_relay,eq_self,true_and]
    · have hother : j∈failures (log++[.relay i event]) ↔ j∈failures log := by
        rw [mem_failures_relay]
        exact or_iff_left fun hno => hsame hno.1
      dsimp only
      rw [hother,Function.update_of_ne hsame]
      by_cases hnext : j=i+1
      · subst hnext
        rw [Function.update_self,Function.update_of_ne (Nat.succ_ne_self _),
          Function.update_of_ne (by omega)]
        exact (inv.hops (i+1) hj).up_move (hmove.writer hown)
      · rw [Function.update_of_ne hnext,Function.update_of_ne hsame,
          Function.update_of_ne (by omega)]
        by_cases hbefore : j+1=i
        · subst hbefore
          rw [Function.update_self]
          exact (inv.hops j hj).down_move hmove.reader
        · rw [Function.update_of_ne hbefore]
          exact inv.hops j hj
  complete := by
    intro hfinished
    obtain ⟨hnothing,hended⟩ := inv.complete hfinished
    by_cases hlast : setup.size=i+1
    · rw [hlast] at hended
      have hclosed := (inv.hops i hi).done hended
      rw [hclosed] at hmove
      cases hmove with
      | cancelled =>
        dsimp only
        rw [hlast] at hnothing ⊢
        rw [Function.update_self]
        exact ⟨hnothing,hended⟩
    · dsimp only
      rw [Function.update_of_ne hlast,Function.update_of_ne (by omega)]
      exact ⟨hnothing,hended⟩

/-- The reader of the last channel moves. -/
theorem ChainInvariant.last_read {log log' : List (ChainEvent α)} {chain : Chain α} {n : ℕ}
    (inv : ChainInvariant setup log chain) (hsome : 0<n)
    (hthere : n≤(chain.channels setup.size).inFlight.length)
    (hfailures : failures log'=failures log) (hsent : RelayChains.sent log'=RelayChains.sent log) :
    ChainInvariant setup log' ⟨Function.update chain.channels setup.size
      ((chain.channels setup.size).read n),chain.relays,chain.finished⟩ where
  sent := by
    dsimp only
    rw [hsent,←inv.sent]
    by_cases hzero : setup.size=0
    · rw [hzero,Function.update_self]
      exact Channel.written_read _ n
    · rw [Function.update_of_ne (Ne.symm hzero)]
  hops := by
    intro i hi
    dsimp only
    rw [hfailures,Function.update_of_ne (Nat.ne_of_lt hi)]
    by_cases hlast : i+1=setup.size
    · rw [hlast,Function.update_self,←hlast]
      exact (inv.hops i hi).down_move (.read n)
    · rw [Function.update_of_ne hlast]
      exact inv.hops i hi
  complete := by
    intro hfinished
    rw [(inv.complete hfinished).1,List.length_nil] at hthere
    omega

/-- Every step keeps the invariant. -/
theorem ChainInvariant.step {log : List (ChainEvent α)} {before after : Chain α}
    {event : ChainEvent α} (inv : ChainInvariant setup log before)
    (h : setup.step before event=some after) : ChainInvariant setup (log++[event]) after := by
  unfold Setup.step at h
  cases event with
  | send items =>
    dsimp only at h
    split at h
    next hsend =>
      rw [←Option.some.inj h]
      refine inv.first_write (.write hsend.1 items) (failures_append_of_none rfl) ?_
      rw [sent_append,Channel.written_write,inv.sent]
      simp [RelayChains.sent]
    next => cases h
  | sendEnd =>
    rw [←Option.some.inj h]
    refine inv.first_write .finish (failures_append_of_none rfl) ?_
    rw [sent_append,Channel.written_finish,inv.sent]
    exact (List.append_nil _).symm
  | relay i event =>
    dsimp only at h
    split at h
    next hi =>
      obtain ⟨⟨up,relay,down⟩,hstep,hafter⟩ := Option.map_eq_some_iff.mp h
      rw [←hafter]
      exact inv.relayed hi (relayStep_move hstep)
    next => cases h
  | receive n =>
    dsimp only at h
    split at h
    next hreceive =>
      rw [←Option.some.inj h]
      refine inv.last_read hreceive.1 hreceive.2 (failures_append_of_none rfl) ?_
      rw [sent_append]
      exact List.append_nil _
    next => cases h
  | receiveEnd =>
    dsimp only at h
    split at h
    next hend =>
      rw [←Option.some.inj h]
      refine ⟨?_,?_,fun _ => ⟨List.length_eq_zero_iff.mp hend.2.1,hend.2.2⟩⟩
      · rw [sent_append]
        exact inv.sent.trans (List.append_nil _).symm
      · rw [failures_append_of_none rfl]
        exact inv.hops
    next => cases h

/-- It holds of every run. -/
theorem ChainRun.invariant {log : List (ChainEvent α)} {chain : Chain α}
    (run : ChainRun setup log chain) : ChainInvariant setup log chain :=
  Run.invariant .start (fun _ _ _ _ _ inv h => inv.step h) run

/-- What was written to a channel is a prefix of what was sent. -/
theorem ChainInvariant.written_prefix {log : List (ChainEvent α)} {chain : Chain α}
    (inv : ChainInvariant setup log chain) {i : ℕ} (hi : i ≤ setup.size) :
    (chain.channels i).written<+:RelayChains.sent log := by
  induction i with
  | zero => exact inv.sent ▸ List.prefix_rfl
  | succ i ih =>
    obtain ⟨lost,hpassed,_⟩ := (inv.hops i hi).passed
    have hwritten : (chain.channels (i+1)).written<+:(chain.channels i).taken := by
      rw [hpassed,List.append_assoc]
      exact List.prefix_append _ _
    exact hwritten.trans ((Channel.taken_prefix _).trans (ih (Nat.le_of_succ_le hi)))

/-- What was written to a channel that ended is all that was sent, where no relay failed. -/
theorem ChainInvariant.written_all {log : List (ChainEvent α)} {chain : Chain α}
    (inv : ChainInvariant setup log chain) (hnone : failures log=[]) {i : ℕ} (hi : i ≤ setup.size)
    (hended : (chain.channels i).ended=true) :
    (chain.channels i).written=RelayChains.sent log := by
  induction i with
  | zero => exact inv.sent
  | succ i ih =>
    have hop := inv.hops i hi
    rw [hnone] at hop
    have hclosed := hop.done hended
    obtain ⟨hnothing,hbefore⟩ := hop.complete (.inr hclosed) List.not_mem_nil
    obtain ⟨lost,hpassed,hlost⟩ := hop.passed
    rw [hclosed,hlost List.not_mem_nil,List.append_nil] at hpassed
    have hall : (chain.channels i).taken=(chain.channels (i+1)).written :=
      hpassed.trans (List.append_nil _)
    rw [←hall,←ih (Nat.le_of_succ_le hi) hbefore,Channel.written,hnothing,List.append_nil]

/-- Where a channel ended and no relay failed, the relays before it are done. -/
theorem ChainInvariant.all_closed {log : List (ChainEvent α)} {chain : Chain α}
    (inv : ChainInvariant setup log chain) (hnone : failures log=[]) {i : ℕ} (hi : i ≤ setup.size)
    (hended : (chain.channels i).ended=true) : ∀ j,j < i → chain.relays j=.closed := by
  induction i with
  | zero => exact fun j hj => absurd hj (Nat.not_lt_zero j)
  | succ i ih =>
    have hop := inv.hops i hi
    rw [hnone] at hop
    have hclosed := hop.done hended
    intro j hj
    obtain hbefore|rfl := Nat.lt_succ_iff_lt_or_eq.mp hj
    · exact ih (Nat.le_of_succ_le hi) (hop.complete (.inr hclosed) List.not_mem_nil).2 j hbefore
    · exact hclosed

/-- Over every interleaving, what is received is a prefix of what was sent. Once the end is
received it is everything, unless a relay failed. -/
theorem ChainRun.delivered {log : List (ChainEvent α)} {chain : Chain α}
    (run : ChainRun setup log chain) :
    setup.received chain<+:RelayChains.sent log ∧
      (chain.finished=true → failures log=[] → setup.received chain=RelayChains.sent log) := by
  have inv := run.invariant
  refine ⟨(Channel.taken_prefix _).trans (inv.written_prefix (Nat.le_refl _)),?_⟩
  intro hfinished hnone
  obtain ⟨hnothing,hended⟩ := inv.complete hfinished
  rw [←inv.written_all hnone (Nat.le_refl _) hended,Channel.written,hnothing,List.append_nil]
  rfl

end Safety

section Progress

variable {setup : Setup}

/-- Whether an event is a step of the chain itself, with no failure. -/
def works : ChainEvent α→Bool
  | .send _ => false
  | .sendEnd => false
  | .relay _ event => !event.fails
  | .receive _ => true
  | .receiveEnd => true

/-- A chain can go on without a failure. -/
def Setup.GoesOn (setup : Setup) (chain : Chain α) : Prop :=
  ∃ event after,setup.step chain event=some after ∧ works event=true

/-- A chain can go on where a relay can. -/
theorem goesOn_of_relay {chain : Chain α} {i : ℕ} {e : RelayEvent}
    (hi : i < setup.size) (hworks : e.fails=false)
    (h : ∃ next,relayStep setup.buffer (setup.capacity (i+1)) (chain.channels i) (chain.relays i)
      (chain.channels (i+1)) e=some next) : setup.GoesOn chain := by
  obtain ⟨next,h⟩ := h
  refine ⟨.relay i e,_,(if_pos hi).trans (congrArg (Option.map _) h),?_⟩
  exact congrArg Bool.not hworks

/-- Where something is under way, the chain can go on. -/
theorem goesOn_of_inFlight {log : List (ChainEvent α)} {chain : Chain α}
    (inv : ChainInvariant setup log chain) (hnone : failures log=[]) (hbuffer : 0<setup.buffer)
    (hroom : ∀ i,0<setup.capacity i) {i : ℕ} (hi : i ≤ setup.size)
    (hthere : (chain.channels i).inFlight≠[]) : setup.GoesOn chain := by
  have hpos := List.length_pos_iff.mpr hthere
  obtain ⟨d,hd⟩ : ∃ d,d=setup.size-i := ⟨_,rfl⟩
  induction d generalizing i with
  | zero =>
    obtain rfl : i=setup.size := by omega
    exact ⟨.receive 1,_,if_pos ⟨Nat.one_pos,hpos⟩,rfl⟩
  | succ d ih =>
    have hlt : i < setup.size := by omega
    have hop := inv.hops i hlt
    rw [hnone] at hop
    cases hrelay : chain.relays i with
    | reading =>
      refine goesOn_of_relay (e:=.read 1) hlt rfl ?_
      rw [hrelay]
      exact ⟨_,if_pos ⟨Nat.one_pos,hbuffer,hpos⟩⟩
    | writing rest =>
      by_cases hfull : (chain.channels (i+1)).inFlight.length<setup.capacity (i+1)
      · refine goesOn_of_relay (e:=.write 1) hlt rfl ?_
        rw [hrelay]
        exact ⟨_,if_pos ⟨Nat.one_pos,List.length_pos_iff.mpr (hop.hand rest hrelay),hfull⟩⟩
      · have hcapacity := hroom (i+1)
        have hnext : 0<(chain.channels (i+1)).inFlight.length := by omega
        exact ih hlt (List.length_pos_iff.mp hnext) hnext (by omega)
    | closing => exact absurd (hop.complete (.inl hrelay) List.not_mem_nil).1 hthere
    | closed => exact absurd (hop.complete (.inr hrelay) List.not_mem_nil).1 hthere

/-- Where a channel has ended and the end was not received, the chain can go on. -/
theorem goesOn_of_ended {log : List (ChainEvent α)} {chain : Chain α}
    (inv : ChainInvariant setup log chain) (hnone : failures log=[]) (hbuffer : 0<setup.buffer)
    (hroom : ∀ i,0<setup.capacity i) (hopen : chain.finished=false) {i : ℕ} (hi : i ≤ setup.size)
    (hended : (chain.channels i).ended=true) : setup.GoesOn chain := by
  obtain ⟨d,hd⟩ : ∃ d,d=setup.size-i := ⟨_,rfl⟩
  induction d generalizing i with
  | zero =>
    obtain rfl : i=setup.size := by omega
    by_cases hnothing : (chain.channels setup.size).inFlight=[]
    · exact ⟨.receiveEnd,_,if_pos ⟨hopen,List.length_eq_zero_iff.mpr hnothing,hended⟩,rfl⟩
    · exact goesOn_of_inFlight inv hnone hbuffer hroom (Nat.le_refl _) hnothing
  | succ d ih =>
    have hlt : i < setup.size := by omega
    have hop := inv.hops i hlt
    rw [hnone] at hop
    cases hrelay : chain.relays i with
    | reading =>
      by_cases hnothing : (chain.channels i).inFlight=[]
      · refine goesOn_of_relay (e:=.readEnd) hlt rfl ?_
        rw [hrelay]
        exact ⟨_,if_pos ⟨List.length_eq_zero_iff.mpr hnothing,hended⟩⟩
      · exact goesOn_of_inFlight inv hnone hbuffer hroom hi hnothing
    | writing rest =>
      by_cases hfull : (chain.channels (i+1)).inFlight.length<setup.capacity (i+1)
      · refine goesOn_of_relay (e:=.write 1) hlt rfl ?_
        rw [hrelay]
        exact ⟨_,if_pos ⟨Nat.one_pos,List.length_pos_iff.mpr (hop.hand rest hrelay),hfull⟩⟩
      · have hcapacity := hroom (i+1)
        have hnext : 0<(chain.channels (i+1)).inFlight.length := by omega
        exact goesOn_of_inFlight inv hnone hbuffer hroom hlt (List.length_pos_iff.mp hnext)
    | closing =>
      refine goesOn_of_relay (e:=.close) hlt rfl ?_
      rw [hrelay]
      exact ⟨_,rfl⟩
    | closed => exact ih hlt (hop.ends hrelay List.not_mem_nil) (by omega)

/-- What a relay still has to do. -/
def Relay.weight : Relay α→ℕ
  | .reading => 2
  | .writing _ => 2
  | .closing => 1
  | .closed => 0

/-- What is still to be done with what is in a channel and in the hand of its reader, with so
many channels to go. -/
def hopWeight (left : ℕ) (channel : Channel α) (relay : Relay α) : ℕ :=
  (2*left+1)*channel.inFlight.length+2*left*relay.inHand.length+relay.weight

/-- What is still to be done on a chain. -/
def Setup.weight (setup : Setup) (chain : Chain α) : ℕ :=
  ∑ i∈Finset.range (setup.size+1),
    hopWeight (setup.size-i) (chain.channels i) (chain.relays i)+if chain.finished then 0 else 1

/-- A sum is less where two neighbours are less together and the rest is the same. -/
theorem sum_lt_of_neighbours {f g : ℕ→ℕ} {m i : ℕ} (hi : i+1 < m)
    (hlt : f i+f (i+1)<g i+g (i+1)) (hother : ∀ j,j≠i → j≠i+1 → f j=g j) :
    ∑ j∈Finset.range m,f j<∑ j∈Finset.range m,g j := by
  have hfirst : i∈Finset.range m := Finset.mem_range.mpr (by omega)
  have hsecond : i+1∈(Finset.range m).erase i :=
    Finset.mem_erase.mpr ⟨Nat.succ_ne_self i,Finset.mem_range.mpr hi⟩
  have hrest : ∑ j∈((Finset.range m).erase i).erase (i+1),f j=
      ∑ j∈((Finset.range m).erase i).erase (i+1),g j := by
    refine Finset.sum_congr rfl fun j hj => ?_
    obtain ⟨hnext,hj⟩ := Finset.mem_erase.mp hj
    exact hother j (Finset.mem_erase.mp hj).1 hnext
  rw [←Finset.add_sum_erase _ f hfirst,←Finset.add_sum_erase _ g hfirst,
    ←Finset.add_sum_erase _ f hsecond,←Finset.add_sum_erase _ g hsecond,hrest]
  omega

/-- A relay that works leaves less to be done. -/
theorem RelayMove.weight_lt {buffer capacity : ℕ} {up up' down down' : Channel α}
    {relay relay' : Relay α} {event : RelayEvent}
    (hmove : RelayMove buffer capacity up down relay event up' relay' down')
    (hworks : event.fails=false) (left : ℕ) (next : Relay α) :
    hopWeight (left+1) up' relay'+hopWeight left down' next<
      hopWeight (left+1) up relay+hopWeight left down next := by
  unfold hopWeight
  generalize next.inHand.length=hand
  generalize next.weight=weight
  cases hmove with
  | @read n hsome _ hthere =>
    obtain ⟨r,hr⟩ : ∃ r,up.inFlight.length=n+r := ⟨up.inFlight.length-n,by omega⟩
    have hleft : (up.read n).inFlight.length=r := by
      rw [Channel.read,List.length_drop,hr]
      omega
    have hhand : (Relay.writing (up.inFlight.take n)).inHand.length=n := by
      rw [Relay.inHand,List.length_take]
      omega
    rw [hleft,hhand,hr]
    simp only [Relay.inHand,Relay.weight,List.length_nil,Nat.mul_zero,Nat.mul_add,Nat.add_mul,
      Nat.one_mul]
    omega
  | readEnd =>
    simp only [Relay.inHand,Relay.weight]
    omega
  | readFailed => cases hworks
  | @write rest n hsome hpart _ =>
    obtain ⟨r,hr⟩ : ∃ r,rest.length=n+r := ⟨rest.length-n,by omega⟩
    have hhand : (Relay.writing (rest.drop n)).inHand.length=r := by
      rw [Relay.inHand,List.length_drop,hr]
      omega
    have hhand' : (Relay.writing rest).inHand.length=n+r := hr
    have hdown : (down.write (rest.take n)).inFlight.length=down.inFlight.length+n := by
      rw [Channel.write,List.length_append,List.length_take]
      omega
    rw [hhand,hhand',hdown]
    simp only [Relay.weight,Nat.mul_add,Nat.add_mul,Nat.one_mul]
    omega
  | @written rest hsome _ =>
    have hdown : (down.write rest).inFlight.length=down.inFlight.length+rest.length := by
      rw [Channel.write,List.length_append]
    have hhand : (Relay.writing rest).inHand.length=rest.length := rfl
    rw [hhand,hdown]
    simp only [Relay.inHand,Relay.weight,List.length_nil,Nat.mul_zero,Nat.mul_add,Nat.add_mul,
      Nat.one_mul]
    omega
  | writeFailed => cases hworks
  | close =>
    simp only [Relay.inHand,Relay.weight,Channel.finish]
    omega
  | closeFailed => cases hworks
  | cancelled => cases hworks

/-- A chain that works leaves less to be done. -/
theorem weight_step {before after : Chain α} {event : ChainEvent α}
    (h : setup.step before event=some after) (hworks : works event=true) :
    setup.weight after<setup.weight before := by
  unfold Setup.step at h
  cases event with
  | send items => cases hworks
  | sendEnd => cases hworks
  | relay i event =>
    dsimp only at h
    split at h
    next hi =>
      obtain ⟨⟨up,relay,down⟩,hstep,hafter⟩ := Option.map_eq_some_iff.mp h
      have hlt := (relayStep_move hstep).weight_lt (by simpa [works] using hworks)
        (setup.size-(i+1)) (before.relays (i+1))
      rw [←hafter]
      refine Nat.add_lt_add_right (sum_lt_of_neighbours (i:=i) (by omega) ?_ ?_) _
      · dsimp only
        rw [Function.update_of_ne (Nat.succ_ne_self i).symm,Function.update_self,
          Function.update_self,Function.update_self,Function.update_of_ne (Nat.succ_ne_self i)]
        have hleft : setup.size-i=setup.size-(i+1)+1 := by omega
        rw [hleft]
        exact hlt
      · intro j hj hnext
        dsimp only
        rw [Function.update_of_ne hnext,Function.update_of_ne hj,Function.update_of_ne hj]
    next => cases h
  | receive n =>
    dsimp only at h
    split at h
    next hreceive =>
      rw [←Option.some.inj h]
      refine Nat.add_lt_add_right (Finset.sum_lt_sum (fun j hj => ?_)
        ⟨setup.size,Finset.mem_range.mpr (by omega),?_⟩) _
      · by_cases hlast : j=setup.size
        · subst hlast
          dsimp only
          rw [Function.update_self]
          unfold hopWeight
          rw [Channel.read,List.length_drop]
          exact Nat.add_le_add_right (Nat.add_le_add_right
            (Nat.mul_le_mul_left _ (Nat.sub_le _ _)) _) _
        · dsimp only
          rw [Function.update_of_ne hlast]
      · dsimp only
        rw [Function.update_self]
        unfold hopWeight
        rw [Channel.read,List.length_drop,Nat.sub_self]
        omega
    next => cases h
  | receiveEnd =>
    dsimp only at h
    split at h
    next hend =>
      rw [←Option.some.inj h]
      refine Nat.add_lt_add_left ?_ _
      rw [hend.1]
      exact Nat.one_pos
    next => cases h

/-- A channel that ended stays so. -/
theorem step_ended {before after : Chain α} {event : ChainEvent α}
    (h : setup.step before event=some after) (hended : (before.channels 0).ended=true) :
    (after.channels 0).ended=true := by
  unfold Setup.step at h
  cases event with
  | send items =>
    dsimp only at h
    split at h
    next hsend =>
      rw [hsend.1] at hended
      cases hended
    next => cases h
  | sendEnd =>
    rw [←Option.some.inj h]
    dsimp only
    rw [Function.update_self]
    rfl
  | relay i event =>
    dsimp only at h
    split at h
    next hi =>
      obtain ⟨⟨up,relay,down⟩,hstep,hafter⟩ := Option.map_eq_some_iff.mp h
      rw [←hafter]
      dsimp only
      rw [Function.update_of_ne (Nat.succ_ne_zero i).symm]
      by_cases hzero : i=0
      · subst hzero
        rw [Function.update_self]
        cases (relayStep_move hstep).reader with
        | none => exact hended
        | read n => exact hended
      · rw [Function.update_of_ne (Ne.symm hzero)]
        exact hended
    next => cases h
  | receive n =>
    dsimp only at h
    split at h
    next =>
      rw [←Option.some.inj h]
      dsimp only
      by_cases hzero : setup.size=0
      · rw [hzero,Function.update_self]
        exact hended
      · rw [Function.update_of_ne (Ne.symm hzero)]
        exact hended
    next => cases h
  | receiveEnd =>
    dsimp only at h
    split at h
    next =>
      rw [←Option.some.inj h]
      exact hended
    next => cases h

/-- A chain that works sends nothing and does not fail. -/
theorem works_frame {later : List (ChainEvent α)} (h : ∀ event∈later,works event=true) :
    sent later=[] ∧ failures later=[] := by
  constructor
  · refine List.flatMap_eq_nil_iff.mpr fun event hevent => ?_
    have hworks := h event hevent
    cases event with
    | send items => cases hworks
    | _ => rfl
  · refine List.filterMap_eq_nil_iff.mpr fun event hevent => ?_
    have hworks := h event hevent
    cases event with
    | relay i event =>
      have hnot : event.fails=false := by simpa [works] using hworks
      exact if_neg (Bool.eq_false_iff.mp hnot)
    | _ => rfl

/-- Once the sender has ended, and as long as no relay fails, a chain stops after a bounded
number of steps, and not before everything that was sent has been received with its end. -/
theorem ChainRun.delivers {log later : List (ChainEvent α)} {chain after : Chain α}
    (run : ChainRun setup log chain) (hended : (chain.channels 0).ended=true)
    (hnone : failures log=[]) (hbuffer : 0<setup.buffer) (hroom : ∀ i,0<setup.capacity i)
    (run' : Run (fun _ before event after => setup.step before event=some after) chain later after)
    (hworks : ∀ event∈later,works event=true) :
    later.length ≤ setup.weight chain ∧
      (setup.GoesOn after ∨ after.finished=true ∧ setup.received after=sent log) := by
  have hall : (∀ event∈later,works event=true) → (after.channels 0).ended=true ∧
      setup.weight after+later.length ≤ setup.weight chain := by
    refine run'.invariant (motive:=fun later after => (∀ event∈later,works event=true) →
      (after.channels 0).ended=true ∧ setup.weight after+later.length ≤ setup.weight chain) ?_ ?_
    · exact fun _ => ⟨hended,Nat.le_refl _⟩
    · intro later before event after _ ih hstep hworks
      obtain ⟨hbefore,hle⟩ := ih fun e he => hworks e (List.mem_append_left _ he)
      have hlt := weight_step hstep (hworks event (List.mem_append_right _ List.mem_cons_self))
      rw [List.length_append,List.length_singleton]
      exact ⟨step_ended hstep hbefore,by omega⟩
  obtain ⟨hstill,hle⟩ := hall hworks
  refine ⟨by omega,?_⟩
  obtain ⟨hsent,hnot⟩ := works_frame hworks
  have hfull : ChainRun setup (log++later) after :=
    Run.follow (fun _ _ _ _ _ hstep => hstep) run run'
  have hfailures : failures (log++later)=[] := by
    unfold failures at hnone hnot ⊢
    rw [List.filterMap_append,hnone,hnot,List.append_nil]
  have hsame : sent (log++later)=sent log := by
    have happend : sent (log++later)=sent log++sent later := List.flatMap_append
    rw [happend,hsent,List.append_nil]
  cases hfinished : after.finished with
  | false =>
    exact .inl (goesOn_of_ended hfull.invariant hfailures hbuffer hroom hfinished
      (Nat.zero_le _) hstill)
  | true => exact .inr ⟨rfl,(hfull.delivered.2 hfinished hfailures).trans hsame⟩

end Progress

end WispersConnect.RelayChains
