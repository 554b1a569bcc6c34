import Mathlib.Data.Fintype.Basic
import WispersConnect.StreamHandles

/-!
# What becomes of dropped streams

The drop of a handle queues its stream with the halves that are not finished, and
the next call that opens or accepts a stream shuts these down. The flags that tell
which halves are finished are set where quiche says so: the queue holds the truth
about every stream in it, and no stream in it has a handle.
-/

namespace WispersConnect.StreamDrains

open Messages QuicConnection ConnectionSteps DriverExit StreamBooks StreamHandles Runs

variable {σ ρ ω ι : Type}

/-- The halves that a drain shuts down of a dropped stream, in their order. -/
def openHalves : ℕ×Bool×Bool→List (ℕ×Half)
  | (id,sentFin,recvFin) =>
    (if recvFin then [] else [(id,.read)])++if sentFin then [] else [(id,.write)]

/-- A queued stream tells of a half whether it was finished. -/
def toldFinished (entry : ℕ×Bool×Bool) : Half→Bool
  | .read => entry.2.2
  | .write => entry.2.1

/-- The halves that a drain shuts down. -/
def shuts (pendingShutdown : List (ℕ×Bool×Bool)) : List (ℕ×Half) :=
  pendingShutdown.flatMap openHalves

/-- A drain shuts down these halves, one after the other. -/
theorem drainPendingShutdown_shuts (Q : Quiche σ ρ) (shared : Shared σ ω) :
    (drainPendingShutdown Q shared).conn=
      (shuts shared.pendingShutdown).foldl (fun conn half => Q.streamShutdown conn half.1 half.2)
        shared.conn := by
  have hone : ∀ conn entry,shutdownHalves Q conn entry=
      (openHalves entry).foldl (fun conn half => Q.streamShutdown conn half.1 half.2) conn := by
    rintro conn ⟨id,sentFin,recvFin⟩
    cases sentFin <;> cases recvFin <;> rfl
  change shared.pendingShutdown.foldl (shutdownHalves Q) shared.conn=_
  rw [shuts,List.foldl_flatMap]
  congr 1
  funext conn entry
  exact hone conn entry

/-- A connection with what it handed out, the halves that were finished and the dropped
streams that were drained. -/
structure Ledger (σ ρ ω ι : Type) where
  /-- The connection, and what it handed out. -/
  tracked : Tracked σ ρ ω ι
  /-- The halves whose end quiche took for sending or delivered. -/
  finished : List (ℕ×Half)
  /-- The dropped streams drained so far. -/
  drained : List ℕ

/-- The connection of a ledger. -/
abbrev Ledger.state (ledger : Ledger σ ρ ω ι) : State σ ρ ω ι := ledger.tracked.state

/-- What the parties of a ledger share. -/
abbrev Ledger.shared (ledger : Ledger σ ρ ω ι) : Shared σ ω := ledger.tracked.state.shared

/-- The stream was returned to somebody. -/
def Handed (tracked : Tracked σ ρ ω ι) (id : ℕ) : Prop :=
  id∈tracked.opened ∨ id∈tracked.accepted

/-- The stream of an operation that does not wait. -/
def touchStream : Touch→Option ℕ
  | .write id _ | .finish id | .shutdown id | .dropped id => some id
  | .flush => none

/-- The stream that somebody starts to work on. -/
def labelUses : Label ρ ι→Option ℕ
  | .start _ op => uses (op.caller : Caller Unit)
  | .touch touch => touchStream touch
  | _ => none

/-- The dropped streams that a step drains. -/
def drainsNow (before : State σ ρ ω ι) (label : Label ρ ι) : List ℕ :=
  if labelDrains before label then before.shared.pendingShutdown.map Prod.fst else []

variable [DecidableEq ω] [DecidableEq ι]

/-- A step of the connection. Work is done through handles, and a handle is not dropped while
work is done through it. There is one handle for each stream, and quiche reports streams of this
side as readable only once they are opened. -/
structure LedgerStep (Q : Quiche σ ρ) (role : QuicRole) (waker : ι→ω) (before : Ledger σ ρ ω ι)
    (label : Label ρ ι) (after : Ledger σ ρ ω ι) : Prop where
  /-- The connection takes the step. -/
  now : TrackedStep Q role waker before.tracked label after.tracked
  /-- What is finished by it. -/
  finished : after.finished=(labelEnds Q before.state label).toList++before.finished
  /-- What is drained by it. -/
  drained : after.drained=drainsNow before.state label++before.drained
  /-- There is a handle of the stream that is worked on. -/
  held : ∀ id,labelUses label=some id → id∈before.tracked.alive
  /-- A handle that is dropped is not in use. -/
  unused : ∀ id,label=.touch (.dropped id) → ∀ i,uses (before.state.callers i)≠some id
  /-- A stream that is handed out has no handle yet, and never had one. -/
  oneHandle : ∀ id,id∈opensNow before.state after.state label++
    acceptsNow before.state after.state label → ¬Handed before.tracked id
  /-- A stream of this side that is accepted has been allotted. -/
  existing : ∀ id∈acceptsNow before.state after.state label,Own role id →
    Allotted role before.shared.nextStreamIndex id

/-- The runs of a connection with its ledger. -/
abbrev LedgerRun (Q : Quiche σ ρ) (role : QuicRole) (waker : ι→ω) (start : Ledger σ ρ ω ι) :
    List (Label ρ ι)→Ledger σ ρ ω ι→Prop :=
  Run (fun _ before label after => LedgerStep Q role waker before label after) start

/-- What is known of the books, of the streams handed out, of their handles, and of the halves
finished. -/
structure Sound (b : Books) (handed : ℕ→Prop) (alive : List ℕ) (finished : List (ℕ×Half))
    (drained : List ℕ) : Prop where
  /-- A handle is of a stream that was handed out. -/
  aliveHanded : ∀ id∈alive,handed id
  /-- There is one handle of a stream. -/
  aliveOnce : alive.Nodup
  /-- A half that was finished is of a stream that was handed out. -/
  finishedHanded : ∀ half∈finished,handed half.1
  /-- The flag of a handle tells whether its writing half was finished. -/
  sent : ∀ id∈alive,(b.sentFin id=true ↔ (id,.write)∈finished)
  /-- The other one tells of the reading half. -/
  recv : ∀ id∈alive,(b.recvFin id=true ↔ (id,.read)∈finished)
  /-- A stream in the queue has no handle. -/
  pendingDead : ∀ entry∈b.pendingShutdown,entry.1∉alive ∧ handed entry.1
  /-- The queue tells whether its writing half was finished. -/
  pendingSent : ∀ entry∈b.pendingShutdown,(entry.2.1=true ↔ (entry.1,.write)∈finished)
  /-- And the reading half. -/
  pendingRecv : ∀ entry∈b.pendingShutdown,(entry.2.2=true ↔ (entry.1,.read)∈finished)
  /-- A stream that was drained has no handle. -/
  drainedDead : ∀ id∈drained,id∉alive ∧ handed id
  /-- A stream is dropped and drained once. -/
  once : (b.pendingShutdown.map Prod.fst++drained).Nodup

section Flags

variable {b : Books}

/-- Finishing a half sets the flags of its stream only. -/
theorem finish_flags {id stream : ℕ} (half : Half) (h : stream≠id) :
    (b.finish id half).sentFin stream=b.sentFin stream ∧
      (b.finish id half).recvFin stream=b.recvFin stream := by
  cases half with
  | read => exact ⟨rfl,Function.update_of_ne h _ _⟩
  | write => exact ⟨Function.update_of_ne h _ _,rfl⟩

/-- A new handle touches the flags of its stream only. -/
theorem handle_flags {id stream : ℕ} (h : stream≠id) :
    (b.handle id).sentFin stream=b.sentFin stream ∧
      (b.handle id).recvFin stream=b.recvFin stream :=
  ⟨Function.update_of_ne h _ _,Function.update_of_ne h _ _⟩

/-- It resets these. -/
theorem handle_reset (id : ℕ) :
    (b.handle id).sentFin id=false ∧ (b.handle id).recvFin id=false :=
  ⟨Function.update_self _ _ _,Function.update_self _ _ _⟩

/-- The drop of a stream touches the queue only. -/
theorem dropped_flags (id : ℕ) : (b.dropped id).sentFin=b.sentFin ∧
    (b.dropped id).recvFin=b.recvFin ∧ (b.dropped id).nextStreamIndex=b.nextStreamIndex := by
  unfold Books.dropped
  split_ifs <;> exact ⟨rfl,rfl,rfl⟩

end Flags

section Sound

variable {b : Books} {handed : ℕ→Prop} {alive : List ℕ} {finished : List (ℕ×Half)}
  {drained : List ℕ}

/-- A half of a stream with a handle is finished. -/
theorem Sound.finish (h : Sound b handed alive finished drained) {id : ℕ} (half : Half)
    (hid : id∈alive) : Sound (b.finish id half) handed alive ((id,half)::finished) drained := by
  have hother : ∀ entry∈b.pendingShutdown,entry.1≠id := by
    rintro entry hentry rfl
    exact (h.pendingDead entry hentry).1 hid
  have hpending : (b.finish id half).pendingShutdown=b.pendingShutdown := by cases half <;> rfl
  refine ⟨h.aliveHanded,h.aliveOnce,?_,?_,?_,?_,?_,?_,h.drainedDead,?_⟩
  · intro found hfound
    rcases List.mem_cons.mp hfound with rfl|hfound
    · exact h.aliveHanded id hid
    · exact h.finishedHanded found hfound
  · intro stream hstream
    have hsent := h.sent stream hstream
    cases half with
    | read => simpa [Books.finish] using hsent
    | write =>
      by_cases hsame : stream=id
      · simp [Books.finish,hsame]
      · simpa [Books.finish,Function.update_of_ne hsame,hsame] using hsent
  · intro stream hstream
    have hrecv := h.recv stream hstream
    cases half with
    | write => simpa [Books.finish] using hrecv
    | read =>
      by_cases hsame : stream=id
      · simp [Books.finish,hsame]
      · simpa [Books.finish,Function.update_of_ne hsame,hsame] using hrecv
  · rw [hpending]
    exact h.pendingDead
  · rw [hpending]
    intro entry hentry
    simpa [hother entry hentry] using h.pendingSent entry hentry
  · rw [hpending]
    intro entry hentry
    simpa [hother entry hentry] using h.pendingRecv entry hentry
  · rw [hpending]
    exact h.once

/-- The handle of a stream is dropped. -/
theorem Sound.dropped (h : Sound b handed alive finished drained) {id : ℕ} (hid : id∈alive) :
    Sound (b.dropped id) handed (alive.erase id) finished drained := by
  have hstill : ∀ stream∈alive.erase id,stream∈alive := fun stream => List.mem_of_mem_erase
  have hgone : id∉alive.erase id := h.aliveOnce.not_mem_erase
  have hflags := @dropped_flags b id
  have hentries : ∀ entry∈(b.dropped id).pendingShutdown,
      entry∈b.pendingShutdown ∨ entry=(id,b.sentFin id,b.recvFin id) := by
    unfold Books.dropped
    split_ifs
    · exact fun entry h => .inl h
    · intro entry h
      rcases List.mem_append.mp h with h|h
      · exact .inl h
      · exact .inr (List.mem_singleton.mp h)
  refine ⟨?_,h.aliveOnce.erase id,h.finishedHanded,?_,?_,?_,?_,?_,?_,?_⟩
  · exact fun stream hstream => h.aliveHanded stream (hstill stream hstream)
  · rw [hflags.1]
    exact fun stream hstream => h.sent stream (hstill stream hstream)
  · rw [hflags.2.1]
    exact fun stream hstream => h.recv stream (hstill stream hstream)
  · intro entry hmem
    rcases hentries entry hmem with hold|rfl
    · obtain ⟨hdead,hhanded⟩ := h.pendingDead entry hold
      exact ⟨fun halive => hdead (hstill _ halive),hhanded⟩
    · exact ⟨hgone,h.aliveHanded id hid⟩
  · intro entry hmem
    rcases hentries entry hmem with hold|rfl
    · exact h.pendingSent entry hold
    · exact h.sent id hid
  · intro entry hmem
    rcases hentries entry hmem with hold|rfl
    · exact h.pendingRecv entry hold
    · exact h.recv id hid
  · intro stream hstream
    obtain ⟨hdead,hhanded⟩ := h.drainedDead stream hstream
    exact ⟨fun halive => hdead (hstill _ halive),hhanded⟩
  · have hfresh : id∉b.pendingShutdown.map Prod.fst++drained := by
      intro hmem
      rcases List.mem_append.mp hmem with hmem|hmem
      · obtain ⟨entry,hentry,rfl⟩ := List.mem_map.mp hmem
        exact (h.pendingDead entry hentry).1 hid
      · exact (h.drainedDead id hmem).1 hid
    unfold Books.dropped
    split_ifs
    · exact h.once
    · rw [List.map_append,List.append_assoc]
      exact List.nodup_middle.mpr (List.nodup_cons.mpr ⟨hfresh,h.once⟩)

/-- The queue is drained. -/
theorem Sound.drain (h : Sound b handed alive finished drained) :
    Sound b.drain handed alive finished (b.pendingShutdown.map Prod.fst++drained) := by
  refine ⟨h.aliveHanded,h.aliveOnce,h.finishedHanded,h.sent,h.recv,nofun,nofun,nofun,?_,h.once⟩
  intro stream hstream
  rcases List.mem_append.mp hstream with hmem|hmem
  · obtain ⟨entry,hentry,rfl⟩ := List.mem_map.mp hmem
    exact h.pendingDead entry hentry
  · exact h.drainedDead stream hmem

/-- The flags of a stream without a handle are reset. -/
theorem Sound.handle (h : Sound b handed alive finished drained) {id : ℕ} (hid : id∉alive) :
    Sound (b.handle id) handed alive finished drained := by
  have hother : ∀ stream∈alive,stream≠id := by
    rintro stream hstream rfl
    exact hid hstream
  refine ⟨h.aliveHanded,h.aliveOnce,h.finishedHanded,?_,?_,h.pendingDead,h.pendingSent,h.pendingRecv,
    h.drainedDead,h.once⟩
  · intro stream hstream
    change Function.update b.sentFin id false stream=true ↔ _
    rw [Function.update_of_ne (hother stream hstream)]
    exact h.sent stream hstream
  · intro stream hstream
    change Function.update b.recvFin id false stream=true ↔ _
    rw [Function.update_of_ne (hother stream hstream)]
    exact h.recv stream hstream

/-- A stream is handed out whose flags are reset. -/
theorem Sound.handOut (h : Sound b handed alive finished drained) {id : ℕ} (hnew : ¬handed id)
    (hsent : b.sentFin id=false) (hrecv : b.recvFin id=false) {handed' : ℕ→Prop}
    (hhanded : ∀ stream,handed' stream ↔ stream=id ∨ handed stream) :
    Sound b handed' (id::alive) finished drained := by
  have hgrows : ∀ {stream},handed stream → handed' stream :=
    fun {stream} hstream => (hhanded stream).mpr (.inr hstream)
  have hunfinished : ∀ half,(id,half)∉finished := fun half hmem => hnew (h.finishedHanded _ hmem)
  refine ⟨?_,?_,fun half hmem => hgrows (h.finishedHanded half hmem),?_,?_,?_,h.pendingSent,
    h.pendingRecv,?_,h.once⟩
  · intro stream hstream
    rcases List.mem_cons.mp hstream with rfl|hstream
    · exact (hhanded stream).mpr (.inl rfl)
    · exact hgrows (h.aliveHanded stream hstream)
  · exact List.nodup_cons.mpr ⟨fun hmem => hnew (h.aliveHanded id hmem),h.aliveOnce⟩
  · intro stream hstream
    rcases List.mem_cons.mp hstream with rfl|hstream
    · simp [hsent,hunfinished]
    · exact h.sent stream hstream
  · intro stream hstream
    rcases List.mem_cons.mp hstream with rfl|hstream
    · simp [hrecv,hunfinished]
    · exact h.recv stream hstream
  · intro entry hentry
    obtain ⟨hdead,hold⟩ := h.pendingDead entry hentry
    refine ⟨fun hmem => ?_,hgrows hold⟩
    rcases List.mem_cons.mp hmem with hsame|hmem
    · exact hnew (hsame ▸ hold)
    · exact hdead hmem
  · intro stream hstream
    obtain ⟨hdead,hold⟩ := h.drainedDead stream hstream
    refine ⟨fun hmem => ?_,hgrows hold⟩
    rcases List.mem_cons.mp hmem with hsame|hmem
    · exact hnew (hsame ▸ hold)
    · exact hdead hmem

/-- The counter and the accepted streams say nothing of the halves. -/
theorem Sound.counted (h : Sound b handed alive finished drained) (next : ℕ)
    (accepted : Finset ℕ) :
    Sound {b with nextStreamIndex := next,acceptedStreams := accepted} handed alive finished drained :=
  ⟨h.aliveHanded,h.aliveOnce,h.finishedHanded,h.sent,h.recv,h.pendingDead,h.pendingSent,
    h.pendingRecv,h.drainedDead,h.once⟩

end Sound

variable {Q : Quiche σ ρ} {role : QuicRole} {waker : ι→ω}

/-- What is known of a connection with its ledger. -/
structure LedgerInvariant (role : QuicRole) (ledger : Ledger σ ρ ω ι) : Prop where
  /-- What was opened stays apart. -/
  apart : Apart role ledger.tracked
  /-- The books and the queue tell the truth. -/
  sound : Sound (books ledger.shared) (Handed ledger.tracked) ledger.tracked.alive ledger.finished
    ledger.drained
  /-- Work is done through handles. -/
  worked : ∀ i id,uses (ledger.state.callers i)=some id → id∈ledger.tracked.alive
  /-- The flags of a stream about to be returned are not set. -/
  reset : ∀ i id,opening (ledger.state.callers i)=some id → ¬Handed ledger.tracked id →
    ledger.shared.sentFin id=false ∧ ledger.shared.recvFin id=false
  /-- Accepted streams of this side were allotted. -/
  own : ∀ id∈ledger.tracked.accepted,Own role id →
    Allotted role ledger.shared.nextStreamIndex id

/-- A new connection with an empty ledger. -/
structure Blank (start : Ledger σ ρ ω ι) : Prop where
  /-- Nothing was handed out. -/
  untouched : Untouched start.tracked
  /-- Nothing was dropped. -/
  pendingShutdown : start.shared.pendingShutdown=[]
  /-- Nothing was finished. -/
  finished : start.finished=[]
  /-- Nothing was drained. -/
  drained : start.drained=[]

omit [DecidableEq ω] [DecidableEq ι] in
/-- A new connection. -/
theorem Blank.invariant {start : Ledger σ ρ ω ι} (h : Blank start) :
    LedgerInvariant role start := by
  have hcaller := h.untouched.fresh.callers
  have halive := h.untouched.alive
  have hpending : (books start.shared).pendingShutdown=[] := h.pendingShutdown
  refine ⟨h.untouched.apart,?_,fun i id hi => ?_,fun i id hi => ?_,?_⟩
  · refine ⟨?_,?_,?_,?_,?_,?_,?_,?_,?_,?_⟩
    · simp [halive]
    · simp [halive]
    · simp [h.finished]
    · simp [halive]
    · simp [halive]
    · simp [hpending]
    · simp [hpending]
    · simp [hpending]
    · simp [h.drained]
    · simp [hpending,h.drained]
  · rw [hcaller] at hi
    cases hi
  · rw [hcaller] at hi
    cases hi
  · simp [h.untouched.accepted]

omit [DecidableEq ω] [DecidableEq ι] in
/-- The id that is allotted next was not handed out. -/
theorem LedgerInvariant.nextId_not_handed {ledger : Ledger σ ρ ω ι}
    (inv : LedgerInvariant role ledger) : ¬Handed ledger.tracked (nextId role (books ledger.shared)) := by
  have hnew := @nextId_not_allotted role (books ledger.shared)
  have hown : Own role (nextId role (books ledger.shared)) :=
    Allotted.own ⟨(books ledger.shared).nextStreamIndex,Nat.lt_succ_self _,rfl⟩
  rintro (hopened|haccepted)
  · exact hnew (inv.apart.openedForm _ hopened)
  · exact hnew (inv.own _ haccepted hown)

omit [DecidableEq ω] [DecidableEq ι] in
/-- Who starts an operation is counted in whatever the wakers are. -/
theorem labelUses_start {i : ι} {op : Op} {id : ℕ} (h : uses (op.caller : Caller ω)=some id) :
    labelUses (.start i op : Label ρ ι)=some id := by
  cases op <;> exact h

/-- Work is done through handles after every step too. -/
theorem LedgerInvariant.worked_step {before after : Ledger σ ρ ω ι} {label : Label ρ ι}
    (inv : LedgerInvariant role before) (h : LedgerStep Q role waker before label after) :
    ∀ i id,uses (after.state.callers i)=some id → id∈after.tracked.alive := by
  intro i id hafter
  have hheld : id∈before.tracked.alive := by
    rcases uses_step (step_move h.now.now) hafter with hbefore|⟨op,rfl,hop⟩
    · exact inv.worked i id hbefore
    · exact h.held id (labelUses_start hop)
  have hleft : id∈leftAlive before.tracked.alive label := by
    unfold leftAlive
    split
    next dropped =>
      rcases uses_step (step_move h.now.now) hafter with hbefore|⟨op,hlabel,hop⟩
      · have hother : id≠dropped := by
          rintro rfl
          exact h.unused id rfl i hbefore
        exact (List.mem_erase_of_ne hother).mpr hheld
      · cases hlabel
    · exact hheld
  rw [h.now.alive]
  exact List.mem_append_right _ (List.mem_append_right _ hleft)

/-- What a step that is not one of a call does to the books of a ledger. -/
theorem LedgerInvariant.sound_other {before after : Ledger σ ρ ω ι} {label : Label ρ ι} {b : Books}
    (inv : LedgerInvariant role before) (h : LedgerStep Q role waker before label after)
    (moves : OtherBooks Q before.state label b) :
    Sound b (Handed before.tracked) (leftAlive before.tracked.alive label) after.finished
        before.drained ∧
      b.nextStreamIndex=before.shared.nextStreamIndex ∧
      ∀ id,¬Handed before.tracked id →
        b.sentFin id=before.shared.sentFin id ∧ b.recvFin id=before.shared.recvFin id := by
  have hfinished := h.finished
  have hleft : (∀ id,label≠.touch (.dropped id)) →
      leftAlive before.tracked.alive label=before.tracked.alive := by
    intro hdropped
    unfold leftAlive
    split
    next id => exact absurd rfl (hdropped id)
    · rfl
  cases moves with
  | quiet unended undropped =>
    rw [unended] at hfinished
    rw [hleft undropped,hfinished]
    exact ⟨inv.sound,rfl,fun _ _ => ⟨rfl,rfl⟩⟩
  | ended id half ends =>
    have halive : id∈before.tracked.alive := by
      cases label with
      | caller i turn => exact inv.worked i id (uses_of_callerEnds ends)
      | touch touch =>
        cases touch with
        | finish stream =>
          unfold labelEnds at ends
          dsimp only at ends
          split_ifs at ends
          obtain ⟨rfl,_⟩ := Prod.mk.inj (Option.some.inj ends)
          exact h.held _ rfl
        | write | shutdown | dropped | flush => cases ends
      | driver | start | abandon | dropConnection | abort | cancel => cases ends
    have hundropped : ∀ stream,label≠.touch (.dropped stream) := by
      rintro stream rfl
      cases ends
    rw [ends] at hfinished
    rw [hleft hundropped,hfinished]
    refine ⟨inv.sound.finish half halive,?_,fun stream hstream => finish_flags half ?_⟩
    · cases half <;> rfl
    · rintro rfl
      exact hstream (inv.sound.aliveHanded _ halive)
  | dropped id =>
    obtain ⟨hsent,hrecv,hnext⟩ := @dropped_flags (books before.shared) id
    rw [hfinished]
    refine ⟨inv.sound.dropped (h.held id rfl),hnext,fun stream _ => ?_⟩
    rw [hsent,hrecv]
    exact ⟨rfl,rfl⟩

/-- A step that is not one of a call keeps the invariant. -/
theorem LedgerInvariant.step_other {before after : Ledger σ ρ ω ι} {label : Label ρ ι}
    (inv : LedgerInvariant role before) (h : LedgerStep Q role waker before label after)
    (moves : OtherBooks Q before.state label (books after.shared))
    (undrained : labelDrains before.state label=false)
    (uncalled : ∀ i turn,label=.caller i turn → ∀ call pc fired,
      before.state.callers i≠.call call pc fired)
    (kept : ∀ j,opening (after.state.callers j)=opening (before.state.callers j) ∨
      opening (after.state.callers j)=none) : LedgerInvariant role after := by
  have hnone := @handsNothing_of_uncalled σ ρ ω ι before.state after.state label uncalled
  have hopened := h.now.opened
  have haccepted := h.now.accepted
  have halive := h.now.alive
  have hdrained := h.drained
  rw [hnone.1,List.nil_append] at hopened halive
  rw [hnone.2,List.nil_append] at haccepted halive
  rw [drainsNow,undrained] at hdrained
  have hhanded : Handed after.tracked=Handed before.tracked := by
    funext id
    unfold Handed
    rw [hopened,haccepted]
  obtain ⟨hsound,hnext,hflags⟩ := inv.sound_other h moves
  refine ⟨inv.apart.step h.now,?_,inv.worked_step h,fun i id hi hnew => ?_,?_⟩
  · rw [hhanded,halive,hdrained]
    exact hsound
  · rw [hhanded] at hnew
    have hsame := hflags id hnew
    have hbefore : opening (before.state.callers i)=some id := by
      rcases kept i with hkept|hlost
      · exact hkept.symm.trans hi
      · cases hlost.symm.trans hi
    have hreset := inv.reset i id hbefore hnew
    exact ⟨hsame.1.trans hreset.1,hsame.2.trans hreset.2⟩
  · have hnext' : after.shared.nextStreamIndex=before.shared.nextStreamIndex := hnext
    rw [haccepted,hnext']
    exact inv.own

/-- What was handed out before a step is handed out after it. -/
theorem LedgerStep.handed_mono {before after : Ledger σ ρ ω ι} {label : Label ρ ι}
    (h : LedgerStep Q role waker before label after) (id : ℕ) (hid : Handed before.tracked id) :
    Handed after.tracked id := by
  unfold Handed
  rw [h.now.opened,h.now.accepted]
  exact hid.imp (List.mem_append_right _) (List.mem_append_right _)

/-- The flags of a stream that a caller has in hand are still reset after a step of another caller,
and after one of its own that leaves them alone. -/
theorem LedgerInvariant.carried {before after : Ledger σ ρ ω ι} {i : ι} {turn : Turn ρ}
    (inv : LedgerInvariant role before)
    (h : LedgerStep Q role waker before (.caller i turn) after)
    (others : ∀ j,j≠i → after.state.callers j=before.state.callers j)
    (kept : ∀ id,opening (after.state.callers i)=some id →
      opening (before.state.callers i)=some id)
    (flags : ∀ id,¬Handed after.tracked id → after.shared.sentFin id=before.shared.sentFin id ∧
      after.shared.recvFin id=before.shared.recvFin id) :
    ∀ j id,opening (after.state.callers j)=some id → ¬Handed after.tracked id →
      after.shared.sentFin id=false ∧ after.shared.recvFin id=false := by
  intro j id hj hnew
  have hbefore : opening (before.state.callers j)=some id := by
    by_cases hji : j=i
    · rw [hji] at hj ⊢
      exact kept id hj
    · rwa [others j hji] at hj
  have hreset := inv.reset j id hbefore fun hid => hnew (h.handed_mono id hid)
  have hsame := flags id hnew
  exact ⟨hsame.1.trans hreset.1,hsame.2.trans hreset.2⟩

/-- A step of a call that returns no stream keeps the invariant, if it does with the books. -/
theorem LedgerInvariant.step_ungiven {before after : Ledger σ ρ ω ι} {i : ι} {turn : Turn ρ}
    (inv : LedgerInvariant role before)
    (h : LedgerStep Q role waker before (.caller i turn) after)
    (ungiven : givenStream (after.state.callers i)=none)
    (next : before.shared.nextStreamIndex≤after.shared.nextStreamIndex)
    (sound : Sound (books after.shared) (Handed before.tracked) before.tracked.alive after.finished
      after.drained)
    (reset : ∀ j id,opening (after.state.callers j)=some id → ¬Handed after.tracked id →
      after.shared.sentFin id=false ∧ after.shared.recvFin id=false) :
    LedgerInvariant role after := by
  have hopened := h.now.opened
  have haccepted := h.now.accepted
  have halive := h.now.alive
  obtain ⟨hopens,haccepts⟩ := @handsNothing σ ρ ω ι before.state after.state i turn ungiven
  rw [hopens] at hopened halive
  rw [haccepts] at haccepted halive
  have hhanded : Handed after.tracked=Handed before.tracked := by
    funext id
    unfold Handed
    rw [hopened,haccepted]
    rfl
  have hleft : after.tracked.alive=before.tracked.alive := halive
  refine ⟨inv.apart.step h.now,?_,inv.worked_step h,reset,?_⟩
  · rw [hhanded,hleft]
    exact sound
  · rw [haccepted]
    exact fun id hid hown => (inv.own id hid hown).mono next

/-- A step that returns an opened stream keeps the invariant. -/
theorem LedgerInvariant.step_returned {before after : Ledger σ ρ ω ι} {i : ι} {turn : Turn ρ}
    {call : Call} {pc : Pc} {fired : Bool} {id : ℕ} (inv : LedgerInvariant role before)
    (h : LedgerStep Q role waker before (.caller i turn) after)
    (under : before.state.callers i=.call call pc fired)
    (returns : after.state.callers i=.returned (.ok (.stream id)))
    (same : books after.shared=books before.shared)
    (undrained : drains (.call call pc fired : Caller ω)=false)
    (unended : ∀ contended,callerEnds Q before.shared contended (.call call pc fired)=none)
    (opened : opening (.call call pc fired : Caller ω)=some id)
    (others : ∀ j,j≠i → after.state.callers j=before.state.callers j) :
    LedgerInvariant role after := by
  obtain rfl : call=.openStream := opening_openStream opened
  have hgiven := @handsOpened σ ρ ω ι before.state after.state i turn pc fired id under returns
  have hopened := h.now.opened
  have haccepted := h.now.accepted
  have halive := h.now.alive
  have hfinished := h.finished
  have hdrained := h.drained
  have hnew := h.oneHandle id
  rw [hgiven.1] at hopened halive hnew
  rw [hgiven.2] at haccepted halive hnew
  rw [labelEnds,under,unended] at hfinished
  rw [drainsNow,labelDrains,under,undrained] at hdrained
  have hclosed : ∀ stream,opening (after.state.callers i)=some stream →
      opening (before.state.callers i)=some stream := by
    intro stream hstream
    rw [returns] at hstream
    cases hstream
  have hunhanded : ¬Handed before.tracked id := hnew (List.mem_singleton_self id)
  have hreset := inv.reset i id (under ▸ opened) hunhanded
  have hnext : after.shared.nextStreamIndex=before.shared.nextStreamIndex :=
    congrArg Books.nextStreamIndex same
  refine ⟨inv.apart.step h.now,?_,inv.worked_step h,
    inv.carried h others hclosed fun stream _ => ?_,?_⟩
  · rw [same,halive,hfinished,hdrained]
    refine inv.sound.handOut hunhanded hreset.1 hreset.2 fun stream => ?_
    unfold Handed
    rw [hopened,haccepted]
    exact ⟨fun hid => by simpa [or_assoc] using hid,fun hid => by simpa [or_assoc] using hid⟩
  · exact ⟨congrFun (congrArg Books.sentFin same) stream,
      congrFun (congrArg Books.recvFin same) stream⟩
  · rw [haccepted,hnext]
    exact inv.own

/-- A step that returns an accepted stream keeps the invariant. -/
theorem LedgerInvariant.step_accepted {before after : Ledger σ ρ ω ι} {i : ι} {turn : Turn ρ}
    {fired : Bool} {id : ℕ} (inv : LedgerInvariant role before)
    (h : LedgerStep Q role waker before (.caller i turn) after)
    (under : before.state.callers i=.call .acceptStream .check fired)
    (returns : after.state.callers i=.returned (.ok (.stream id)))
    (written : books after.shared=(books before.shared).drain.accept id)
    (others : ∀ j,j≠i → after.state.callers j=before.state.callers j) :
    LedgerInvariant role after := by
  have hgiven := @handsAccepted σ ρ ω ι before.state after.state i turn .check fired id under returns
  have hopened := h.now.opened
  have haccepted := h.now.accepted
  have halive := h.now.alive
  have hfinished := h.finished
  have hdrained := h.drained
  have hnew := h.oneHandle id
  have hexisting := h.existing id
  rw [hgiven.1] at hopened halive hnew
  rw [hgiven.2] at haccepted halive hnew hexisting
  rw [labelEnds,under] at hfinished
  rw [drainsNow,labelDrains,under] at hdrained
  have hclosed : ∀ stream,opening (after.state.callers i)=some stream →
      opening (before.state.callers i)=some stream := by
    intro stream hstream
    rw [returns] at hstream
    cases hstream
  have hunhanded : ¬Handed before.tracked id := hnew (List.mem_singleton_self id)
  have halone : id∉before.tracked.alive := fun hid => hunhanded (inv.sound.aliveHanded id hid)
  have hsent : after.shared.sentFin=_ := congrArg Books.sentFin written
  have hrecv : after.shared.recvFin=_ := congrArg Books.recvFin written
  have hnext : after.shared.nextStreamIndex=before.shared.nextStreamIndex :=
    congrArg Books.nextStreamIndex written
  refine ⟨inv.apart.step h.now,?_,inv.worked_step h,
    inv.carried h others hclosed fun stream hstream => ?_,?_⟩
  · rw [written,halive,hfinished,hdrained]
    have hreset := @handle_reset (books before.shared).drain id
    have hcounted := (inv.sound.drain.handle halone).counted before.shared.nextStreamIndex
      (insert id before.shared.acceptedStreams)
    refine hcounted.handOut hunhanded hreset.1 hreset.2 fun stream => ?_
    unfold Handed
    rw [hopened,haccepted]
    exact ⟨fun hid => by simpa [or_left_comm] using hid,
      fun hid => by simpa [or_left_comm] using hid⟩
  · have hother : stream≠id := by
      rintro rfl
      refine hstream (.inr ?_)
      rw [haccepted]
      exact List.mem_cons_self
    rw [hsent,hrecv]
    exact @handle_flags (books before.shared).drain id stream hother
  · rw [haccepted,hnext]
    intro stream hstream hown
    rcases List.mem_cons.mp hstream with rfl|hold
    · exact hexisting (List.mem_singleton_self _) hown
    · exact inv.own stream hold hown

/-- A step that allots a stream keeps the invariant. -/
theorem LedgerInvariant.step_allotted {before after : Ledger σ ρ ω ι} {i : ι} {turn : Turn ρ}
    {fired : Bool} (inv : LedgerInvariant role before)
    (h : LedgerStep Q role waker before (.caller i turn) after)
    (under : before.state.callers i=.call .openStream .check fired)
    (written : books after.shared=(books before.shared).drain.allot role)
    (next : opening (after.state.callers i)=none ∨
      opening (after.state.callers i)=some (nextId role (books before.shared)))
    (ungiven : givenStream (after.state.callers i)=none)
    (others : ∀ j,j≠i → after.state.callers j=before.state.callers j) :
    LedgerInvariant role after := by
  have hfinished := h.finished
  have hdrained := h.drained
  rw [labelEnds,under] at hfinished
  rw [drainsNow,labelDrains,under] at hdrained
  have hnext : after.shared.nextStreamIndex=before.shared.nextStreamIndex+1 :=
    congrArg Books.nextStreamIndex written
  have hsent : after.shared.sentFin=_ := congrArg Books.sentFin written
  have hrecv : after.shared.recvFin=_ := congrArg Books.recvFin written
  have hnextAlive : nextId role (books before.shared)∉before.tracked.alive :=
    fun hid => inv.nextId_not_handed (inv.sound.aliveHanded _ hid)
  refine inv.step_ungiven h ungiven (by omega) ?_ fun j id hj hnew => ?_
  · rw [written,hfinished,hdrained]
    exact (inv.sound.drain.handle hnextAlive).counted _ _
  · rw [hsent,hrecv]
    by_cases hji : j=i
    · rw [hji] at hj
      rcases next with hnone|hsome
      · cases hnone.symm.trans hj
      · obtain rfl := Option.some.inj (hsome.symm.trans hj)
        exact @handle_reset (books before.shared).drain _
    · rw [others j hji] at hj
      have hother : id≠nextId role (books before.shared) := by
        rintro rfl
        exact nextId_not_allotted (books before.shared) (inv.apart.openingForm j _ hj).1
      have hsame := @handle_flags (books before.shared).drain _ id hother
      have hreset := inv.reset j id hj fun hid => hnew (h.handed_mono id hid)
      exact ⟨hsame.1.trans hreset.1,hsame.2.trans hreset.2⟩

/-- A step of a call keeps the invariant. -/
theorem LedgerInvariant.step_call {before after : Ledger σ ρ ω ι} {i : ι} {turn : Turn ρ}
    {call : Call} {pc : Pc} {fired : Bool} (inv : LedgerInvariant role before)
    (h : LedgerStep Q role waker before (.caller i turn) after)
    (under : before.state.callers i=.call call pc fired)
    (moves : CallBooks Q role before.shared turn.scanned (.call call pc fired) after.shared
      (after.state.callers i))
    (others : ∀ j,j≠i → after.state.callers j=before.state.callers j) :
    LedgerInvariant role after := by
  have hfinished := h.finished
  have hdrained := h.drained
  rw [labelEnds,under] at hfinished
  rw [drainsNow,labelDrains,under] at hdrained
  generalize hcaller : after.state.callers i=caller at moves
  cases moves with
  | quiet same undrained unended kept ungiven =>
    rw [unended] at hfinished
    rw [undrained] at hdrained
    refine inv.step_ungiven h (hcaller ▸ ungiven) (congrArg Books.nextStreamIndex same).ge ?_
      (inv.carried h others ?_ fun id _ => ?_)
    · rw [same,hfinished,hdrained]
      exact inv.sound
    · intro id hid
      rw [hcaller] at hid
      rw [under]
      rcases kept with hkept|hlost
      · exact hkept.symm.trans hid
      · cases hlost.symm.trans hid
    · exact ⟨congrFun (congrArg Books.sentFin same) id,congrFun (congrArg Books.recvFin same) id⟩
  | ended id undrained ends written unopened ungiven =>
    have hid : id∈before.tracked.alive :=
      inv.worked i id (under ▸ uses_of_callerEnds (ends false))
    rw [ends] at hfinished
    rw [undrained] at hdrained
    refine inv.step_ungiven h (hcaller ▸ ungiven) (congrArg Books.nextStreamIndex written).ge ?_
      (inv.carried h others ?_ ?_)
    · rw [written,hfinished,hdrained]
      exact inv.sound.finish .read hid
    · intro stream hstream
      rw [hcaller] at hstream
      cases unopened.symm.trans hstream
    · intro stream hnew
      have hother : stream≠id := by
        rintro rfl
        exact hnew (h.handed_mono _ (inv.sound.aliveHanded _ hid))
      have hflags := @finish_flags (books before.shared) id stream .read hother
      rw [←written] at hflags
      exact hflags
  | drained draining written unopened ungiven exhausted =>
    have hunended : callerEnds Q before.shared turn.contended (.call call pc fired)=none :=
      callerEnds_of_drains draining
    rw [hunended] at hfinished
    rw [draining] at hdrained
    refine inv.step_ungiven h (hcaller ▸ ungiven) (congrArg Books.nextStreamIndex written).ge ?_
      (inv.carried h others ?_ fun id _ => ?_)
    · rw [written,hfinished,hdrained]
      exact inv.sound.drain
    · intro id hid
      rw [hcaller] at hid
      cases unopened.symm.trans hid
    · exact ⟨congrFun (congrArg Books.sentFin written) id,
        congrFun (congrArg Books.recvFin written) id⟩
  | allotted opens written next ungiven =>
    obtain ⟨_,hcall⟩ := opens
    exact inv.step_allotted h (under.trans hcall) written (hcaller ▸ next) (hcaller ▸ ungiven) others
  | returned id same undrained unended opened =>
    exact inv.step_returned h under hcaller same undrained unended opened others
  | accepted id accept found fresh passed written =>
    obtain ⟨_,hcall⟩ := accept
    exact inv.step_accepted h (under.trans hcall) hcaller written others

/-- Every step keeps the invariant. -/
theorem LedgerInvariant.step {before after : Ledger σ ρ ω ι} {label : Label ρ ι}
    (inv : LedgerInvariant role before) (h : LedgerStep Q role waker before label after) :
    LedgerInvariant role after := by
  cases step_books h.now.now inv.apart.returns with
  | call i turn under moves others => exact inv.step_call h under moves others
  | other moves undrained uncalled kept => exact inv.step_other h moves undrained uncalled kept

/-- Every run keeps it. -/
theorem LedgerRun.invariant {start ledger : Ledger σ ρ ω ι} {log : List (Label ρ ι)}
    (hstart : LedgerInvariant role start) (run : LedgerRun Q role waker start log ledger) :
    LedgerInvariant role ledger := by
  refine Run.invariant (motive := fun _ ledger => LedgerInvariant role ledger) hstart ?_ run
  intro log before label after _ ih h
  exact ih.step h

section Drains

/-- A step that drains the queue shuts these halves down, and goes on as if the queue were empty. -/
theorem step_drains {before : State σ ρ ω ι} {label : Label ρ ι}
    (h : labelDrains before label=true) :
    step Q role waker before label=
      step Q role waker {before with shared := drainPendingShutdown Q before.shared} label := by
  cases label with
  | caller i turn =>
    change drains (before.callers i)=true at h
    change callerStep Q role waker before i turn=callerStep Q role waker _ i turn
    unfold callerStep
    dsimp only
    generalize before.callers i=caller at h
    unfold drains at h
    split at h
    · rfl
    · rfl
    · cases h
  | driver | start | abandon | touch | dropConnection | abort | cancel => cases h

omit [DecidableEq ω] [DecidableEq ι] in
/-- A half of a queued stream is shut down where the queue does not tell that it was finished. -/
theorem mem_openHalves {entry : ℕ×Bool×Bool} {id : ℕ} {half : Half} :
    (id,half)∈openHalves entry ↔ entry.1=id ∧ toldFinished entry half=false := by
  obtain ⟨stream,sentFin,recvFin⟩ := entry
  cases half <;> cases sentFin <;> cases recvFin <;> simp [openHalves,toldFinished,eq_comm]

omit [DecidableEq ω] [DecidableEq ι] in
/-- What is queued and shut down was not finished, and has no handle. -/
theorem Sound.shuts {b : Books} {handed : ℕ→Prop} {alive : List ℕ} {finished : List (ℕ×Half)}
    {drained : List ℕ} (h : Sound b handed alive finished drained) {half : ℕ×Half}
    (hhalf : half∈shuts b.pendingShutdown) : half∉finished ∧ half.1∉alive := by
  obtain ⟨id,half⟩ := half
  obtain ⟨entry,hentry,hopen⟩ := List.mem_flatMap.mp hhalf
  obtain ⟨rfl,hflag⟩ := mem_openHalves.mp hopen
  refine ⟨fun hfinished => ?_,(h.pendingDead entry hentry).1⟩
  cases half with
  | read => exact absurd ((h.pendingRecv entry hentry).mpr hfinished) (Bool.eq_false_iff.mp hflag)
  | write => exact absurd ((h.pendingSent entry hentry).mpr hfinished) (Bool.eq_false_iff.mp hflag)

omit [DecidableEq ω] [DecidableEq ι] in
/-- The halves that were not finished when a handle is dropped are queued. -/
theorem Sound.queued {b : Books} {handed : ℕ→Prop} {alive : List ℕ} {finished : List (ℕ×Half)}
    {drained : List ℕ} (h : Sound b handed alive finished drained) {id : ℕ} (hid : id∈alive)
    {half : Half} (hhalf : (id,half)∉finished) :
    (id,half)∈StreamDrains.shuts (b.dropped id).pendingShutdown := by
  have hflag : toldFinished (id,b.sentFin id,b.recvFin id) half=false := by
    cases half with
    | read => exact Bool.eq_false_iff.mpr fun hset => hhalf ((h.recv id hid).mp hset)
    | write => exact Bool.eq_false_iff.mpr fun hset => hhalf ((h.sent id hid).mp hset)
  have hqueued : (b.dropped id).pendingShutdown=
      b.pendingShutdown++[(id,b.sentFin id,b.recvFin id)] := by
    have hopen : ¬(b.sentFin id && b.recvFin id)=true := by
      intro hboth
      obtain ⟨hsent,hrecv⟩ := Bool.and_eq_true_iff.mp hboth
      cases half with
      | read => exact absurd hrecv (Bool.eq_false_iff.mp hflag)
      | write => exact absurd hsent (Bool.eq_false_iff.mp hflag)
    rw [Books.dropped,if_neg hopen]
  rw [hqueued]
  have hlast : (id,b.sentFin id,b.recvFin id)∈b.pendingShutdown++[(id,b.sentFin id,b.recvFin id)] :=
    List.mem_append_right _ (List.mem_singleton_self _)
  exact List.mem_flatMap.mpr ⟨_,hlast,mem_openHalves.mpr ⟨rfl,hflag⟩⟩

/-- A step that does not drain the queue leaves what is in it there. -/
theorem pending_kept {before after : State σ ρ ω ι} {label : Label ρ ι}
    (h : Step Q role waker before label after) (hreturns : ∀ i,ReturnsOpened (before.callers i))
    (hdrains : labelDrains before label=false) :
    ∀ entry∈before.shared.pendingShutdown,entry∈after.shared.pendingShutdown := by
  have hbooks : ∀ {b : Books},books after.shared=b →
      (∀ entry∈before.shared.pendingShutdown,entry∈b.pendingShutdown) →
      ∀ entry∈before.shared.pendingShutdown,entry∈after.shared.pendingShutdown := by
    rintro b rfl hb
    exact hb
  cases step_books h hreturns with
  | other moves undrained uncalled kept =>
    generalize hafter : books after.shared=b at moves
    refine hbooks hafter ?_
    cases moves with
    | quiet => exact fun entry hentry => hentry
    | ended id half ends => cases half <;> exact fun entry hentry => hentry
    | dropped id =>
      unfold Books.dropped
      split_ifs
      · exact fun entry hentry => hentry
      · exact fun entry hentry => List.mem_append_left _ hentry
  | call i turn under moves others =>
    rw [labelDrains,under] at hdrains
    generalize after.callers i=caller at moves
    cases moves with
    | quiet same => exact hbooks same fun entry hentry => hentry
    | returned id same => exact hbooks same fun entry hentry => hentry
    | ended id undrained ends written => exact hbooks written fun entry hentry => hentry
    | drained draining => cases hdrains.symm.trans draining
    | allotted opens =>
      obtain ⟨_,hcall⟩ := opens
      rw [hcall] at hdrains
      cases hdrains
    | accepted id accept =>
      obtain ⟨_,hcall⟩ := accept
      rw [hcall] at hdrains
      cases hdrains

/-- A run of such steps keeps what is pending. -/
theorem LedgerRun.pending_kept {start ledger : Ledger σ ρ ω ι} {log : List (Label ρ ι)}
    (hstart : LedgerInvariant role start) (run : LedgerRun Q role waker start log ledger)
    (hdrains : EveryStep (fun _ before label after => LedgerStep Q role waker before label after)
      start (fun before label => labelDrains before.state label=false) log) :
    ∀ entry∈start.shared.pendingShutdown,entry∈ledger.shared.pendingShutdown := by
  induction run with
  | start => exact fun entry hentry => hentry
  | @next log before after label earlier now ih =>
    obtain ⟨hearlier,hlast⟩ := everyStep_concat.mp hdrains
    intro entry hentry
    exact StreamDrains.pending_kept now.now.now (LedgerRun.invariant hstart earlier).apart.returns
      (hlast before earlier) entry (ih hearlier entry hentry)

end Drains

/-- Dropped streams are reclaimed, and no finished half is cut off. -/
structure Reclaims (Q : Quiche σ ρ) (role : QuicRole) (waker : ι→ω) (ledger : Ledger σ ρ ω ι) :
    Prop where
  /-- A step that drains the queue shuts down the open halves of the streams in it, and goes on as
  if the queue were empty. -/
  drains : ∀ label,labelDrains ledger.state label=true →
    step Q role waker ledger.state label=step Q role waker
      {ledger.state with
        shared := {ledger.shared with
          conn := (shuts ledger.shared.pendingShutdown).foldl
            (fun conn half => Q.streamShutdown conn half.1 half.2) ledger.shared.conn
          pendingShutdown := []}} label
  /-- None of these halves was finished, and none is of a stream with a handle. -/
  spared : ∀ half∈shuts ledger.shared.pendingShutdown,
    half∉ledger.finished ∧ half.1∉ledger.tracked.alive
  /-- When a handle is dropped, its halves that were not finished are among them the next time that
  the queue is drained. -/
  reclaimed : ∀ (id : ℕ) (dropped drain : Ledger σ ρ ω ι) (log : List (Label ρ ι)),
    LedgerStep Q role waker ledger (.touch (.dropped id)) dropped →
    LedgerRun Q role waker dropped log drain →
    EveryStep (fun _ before label after => LedgerStep Q role waker before label after) dropped
      (fun before label => labelDrains before.state label=false) log →
    ∀ half,(id,half)∉ledger.finished → (id,half)∈shuts drain.shared.pendingShutdown
  /-- No stream is drained twice. -/
  once : (ledger.shared.pendingShutdown.map Prod.fst++ledger.drained).Nodup

/-- In every run of a new connection, dropped streams are reclaimed and no finished half is cut
off. -/
theorem dropped_streams_reclaimed (Q : Quiche σ ρ) (role : QuicRole) (waker : ι→ω)
    (start ledger : Ledger σ ρ ω ι) (hstart : Blank start) (log : List (Label ρ ι))
    (run : LedgerRun Q role waker start log ledger) : Reclaims Q role waker ledger := by
  have inv : LedgerInvariant role ledger := LedgerRun.invariant hstart.invariant run
  refine ⟨fun label hdrains => ?_,fun half hhalf => inv.sound.shuts hhalf,?_,inv.sound.once⟩
  · rw [←drainPendingShutdown_shuts]
    exact step_drains hdrains
  · intro id dropped drain log' drop later hdrains half hhalf
    have hqueued := inv.sound.queued (drop.held id rfl) hhalf
    have hafter := Option.some.inj drop.now.now.now
    have hbooks : books dropped.shared=(books ledger.shared).dropped id := by
      rw [←touchStep_dropped,Ledger.shared,←hafter]
    rw [←hbooks] at hqueued
    obtain ⟨entry,hentry,hopen⟩ := List.mem_flatMap.mp hqueued
    exact List.mem_flatMap.mpr ⟨entry,LedgerRun.pending_kept (inv.step drop) later hdrains entry hentry,hopen⟩

/-- The stream whose handle a step drops. -/
def droppedBy : Label ρ ι→Option ℕ
  | .touch (.dropped id) => some id
  | _ => none

/-- A step with its ledger, where no stream is accepted and the connection is not dropped. -/
def ledgerNext (Q : Quiche σ ρ) (role : QuicRole) (waker : ι→ω) [Fintype ι] (before : Ledger σ ρ ω ι)
    (label : Label ρ ι) : Option (Ledger σ ρ ω ι) :=
  match label with
  | .dropConnection => none
  | label =>
    (step Q role waker before.state label).bind fun after =>
      let opens := opensNow before.state after label
      if (∀ id∈(labelUses label).toList,id∈before.tracked.alive) ∧
          (∀ id∈(droppedBy label).toList,∀ i,uses (before.state.callers i)≠some id) ∧
          acceptsNow before.state after label=[] ∧
          ∀ id∈opens,id∉before.tracked.opened ∧ id∉before.tracked.accepted then
        some ⟨⟨after,opens++before.tracked.opened,before.tracked.accepted,
            opens++leftAlive before.tracked.alive label⟩,
          (labelEnds Q before.state label).toList++before.finished,
          drainsNow before.state label++before.drained⟩
      else none

/-- It is a step. -/
theorem ledgerNext_step [Fintype ι] {before after : Ledger σ ρ ω ι} {label : Label ρ ι}
    (h : ledgerNext Q role waker before label=some after) :
    LedgerStep Q role waker before label after := by
  unfold ledgerNext at h
  split at h
  · cases h
  next hconnection =>
    obtain ⟨state,hstep,hnext⟩ := Option.bind_eq_some_iff.mp h
    dsimp only at hnext
    split_ifs at hnext with hchecks
    obtain ⟨hheld,hunused,haccepts,hopens⟩ := hchecks
    cases hnext
    have hworked : ∀ id,labelUses label=some id → id∈before.tracked.alive := by
      intro id hid
      exact hheld id (by simp [hid])
    refine ⟨⟨⟨hstep,fun hlabel => absurd hlabel hconnection⟩,rfl,?_,?_,?_⟩,rfl,rfl,hworked,?_,?_,?_⟩
    · rw [haccepts]
      rfl
    · rw [haccepts]
      rfl
    · rintro id rfl
      exact hworked id rfl
    · rintro id rfl
      exact hunused id (by simp [droppedBy])
    · intro id hid
      rw [haccepts,List.append_nil] at hid
      exact not_or.mpr (hopens id hid)
    · intro id hid
      rw [haccepts] at hid
      cases hid

/-- A stream is opened, finished and dropped. -/
def openFinishDrop : List (Label ℕ Unit) :=
  .start () .openStream::(List.replicate 4 (.caller () (arriving 0))++
    [.touch (.finish 0),.touch (.dropped 0)])

/-- The next call shuts down its reading half only. -/
theorem dropped_streams_reclaimed_finished :
    ∃ ledger : Ledger (List ℕ) ℕ Unit Unit,ledger.finished=[(0,.write)] ∧
      shuts ledger.shared.pendingShutdown=[(0,.read)] ∧
      Reclaims replyingQuiche .client id ledger := by
  have hrun : (openFinishDrop.foldlM (ledgerNext replyingQuiche .client id)
      ⟨replyingStart,[],[]⟩).map (fun ledger => (ledger.finished,shuts ledger.shared.pendingShutdown))=
        some ([(0,.write)],[(0,.read)]) := by decide +kernel
  obtain ⟨ledger,hfold,htold⟩ := Option.map_eq_some_iff.mp hrun
  obtain ⟨hfinished,hshuts⟩ := Prod.mk.inj htold
  have run : LedgerRun replyingQuiche .client id ⟨replyingStart,[],[]⟩ openFinishDrop ledger :=
    Run.start.extend (fun _ _ _ _ => ledgerNext_step) hfold
  exact ⟨ledger,hfinished,hshuts,dropped_streams_reclaimed replyingQuiche .client id _ ledger
    ⟨replyingStart_untouched,rfl,rfl,rfl⟩ _ run⟩

end WispersConnect.StreamDrains