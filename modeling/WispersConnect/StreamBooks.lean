import WispersConnect.DriverExit

/-!
# What a step does to the streams of a connection

The books of the streams are the counter of opened streams, the set of accepted
ones, the queue of dropped ones and the two flags of each handle. A step leaves
them alone, allots a stream, accepts one, drains the queue, finishes a half or
queues a dropped stream, and the label and the caller's place tell which.
-/

namespace WispersConnect.StreamBooks

open Messages QuicConnection ConnectionSteps DriverExit

variable {σ ρ ω ι : Type} {Q : Quiche σ ρ} {role : QuicRole} {waker : ι→ω}

/-- What the parties know about the streams. -/
structure Books where
  /-- The index of the next stream to open. -/
  nextStreamIndex : ℕ
  /-- The streams accepted so far. -/
  acceptedStreams : Finset ℕ
  /-- Dropped streams: id, and whether each half was finished. -/
  pendingShutdown : List (ℕ×Bool×Bool)
  /-- `recv_fin` of each stream's handle. -/
  recvFin : ℕ→Bool
  /-- `sent_fin` of each stream's handle. -/
  sentFin : ℕ→Bool

/-- The books among what the parties share. -/
def books (shared : Shared σ ω) : Books :=
  ⟨shared.nextStreamIndex,shared.acceptedStreams,shared.pendingShutdown,shared.recvFin,
    shared.sentFin⟩

/-- The queue is empty. -/
def Books.drain (b : Books) : Books := {b with pendingShutdown := []}

/-- A stream has a new handle. -/
def Books.handle (b : Books) (id : ℕ) : Books :=
  {b with
    recvFin := Function.update b.recvFin id false
    sentFin := Function.update b.sentFin id false}

/-- The id that `open_stream` allots next. -/
def nextId (role : QuicRole) (b : Books) : ℕ := role.base+4*b.nextStreamIndex

/-- That id is allotted. -/
def Books.allot (role : QuicRole) (b : Books) : Books :=
  {b.handle (nextId role b) with nextStreamIndex := b.nextStreamIndex+1}

/-- A stream is accepted. -/
def Books.accept (b : Books) (id : ℕ) : Books :=
  {b.handle id with acceptedStreams := insert id b.acceptedStreams}

/-- A half of a stream is finished. -/
def Books.finish (b : Books) (id : ℕ) : Half→Books
  | .read => {b with recvFin := Function.update b.recvFin id true}
  | .write => {b with sentFin := Function.update b.sentFin id true}

/-- A stream is dropped. -/
def Books.dropped (b : Books) (id : ℕ) : Books :=
  if b.sentFin id && b.recvFin id then b
  else {b with pendingShutdown := b.pendingShutdown++[(id,b.sentFin id,b.recvFin id)]}

/-- The books are kept when only the connection changes. -/
@[simp] theorem books_conn (shared : Shared σ ω) (conn : σ) :
    books {shared with conn := conn}=books shared := rfl

/-- A read of a stream finds its end. -/
def EndsRead (Q : Quiche σ ρ) (conn : σ) (stream cap : ℕ) : Bool :=
  match Q.streamRecv conn stream cap with
  | (.ok (_,fin),_) => fin
  | (.error .done,conn) => Q.streamFinished conn stream
  | (.error _,_) => false

/-- The end of a stream is queued for sending. -/
def QueuesFin (Q : Quiche σ ρ) (conn : σ) (stream : ℕ) : Bool :=
  match Q.streamSend conn stream [] true with
  | (.ok _,_) => true
  | (.error .done,_) => true
  | (.error _,_) => false

/-- The books after a half is finished, or not. -/
def Books.finishIf (b : Books) (ended : Bool) (id : ℕ) (half : Half) : Books :=
  if ended then b.finish id half else b

section Checks

/-- A read writes the end it finds into the books, and returns no stream. -/
theorem readCheck_books (shared : Shared σ ω) (stream cap : ℕ) :
    books (readCheck Q stream cap shared).2=
      (books shared).finishIf (EndsRead Q shared.conn stream cap) stream .read ∧
    ∀ id,(readCheck Q stream cap shared).1≠some (.ok (.stream id)) := by
  unfold readCheck EndsRead Books.finishIf
  rcases hrecv : Q.streamRecv shared.conn stream cap with ⟨⟨_|code⟩|⟨n,fin⟩,conn⟩
  · dsimp only
    by_cases hfinished : Q.streamFinished conn stream=true
    · simp only [if_pos hfinished]
      exact ⟨rfl,nofun⟩
    · simp only [if_neg hfinished]
      split_ifs
      · exact ⟨rfl,nofun⟩
      · exact ⟨rfl,nofun⟩
  · exact ⟨rfl,nofun⟩
  · cases fin with
    | true => exact ⟨rfl,nofun⟩
    | false => exact ⟨rfl,nofun⟩

/-- A read of a poll function finishes the reading half where it ends it. -/
theorem pollReadCheck_books (shared : Shared σ ω) (stream cap : ℕ) :
    books (pollReadCheck Q stream cap shared).2=
      (books shared).finishIf (EndsRead Q shared.conn stream cap) stream .read := by
  unfold pollReadCheck EndsRead Books.finishIf
  rcases hrecv : Q.streamRecv shared.conn stream cap with ⟨⟨_|code⟩|⟨n,fin⟩,conn⟩
  · dsimp only
    by_cases hfinished : Q.streamFinished conn stream=true
    · simp only [if_pos hfinished]
      rfl
    · simp only [if_neg hfinished]
      split_ifs <;> rfl
  · rfl
  · cases fin with
    | true =>
      dsimp only
      split_ifs <;> rfl
    | false =>
      dsimp only
      split_ifs <;> rfl

/-- Finishing a stream writes it into the books once the end is queued. -/
theorem finishStream_books (shared : Shared σ ω) (stream : ℕ) :
    books (finishStream Q stream shared).2=
      (books shared).finishIf (QueuesFin Q shared.conn stream) stream .write := by
  unfold finishStream QueuesFin Books.finishIf
  rcases hsend : Q.streamSend shared.conn stream [] true with ⟨⟨_|code⟩|n,conn⟩ <;> rfl

/-- A write leaves the books alone. -/
theorem pollWriteCheck_books {shared shared' : Shared σ ω} {stream : ℕ} {data : Bytes}
    {ready : List Ready} {reply : Option (Except IoError ℕ)}
    (h : pollWriteCheck Q stream data ready shared=some (reply,shared')) :
    books shared'=books shared := by
  have hblocked : ∀ conn,(if shared.driverExited then
      (some (.error .connectionAborted),{shared with conn := conn})
      else (none,{shared with conn := conn}))=(reply,shared') → books shared'=books shared := by
    intro conn hresult
    split_ifs at hresult
    · cases hresult
      rfl
    · cases hresult
      rfl
  unfold pollWriteCheck at h
  dsimp only at h
  split at h
  · exact hblocked _ (Option.some.inj h)
  · exact hblocked _ (Option.some.inj h)
  · split at h
    · cases h
    · cases h
      rfl
    · cases h
      rfl
  · cases h
    rfl

/-- A shutdown of a poll function finishes the stream. -/
theorem pollShutdownCheck_books {shared shared' : Shared σ ω} {stream : ℕ} {ready : List Ready}
    {reply : Except IoError ℕ}
    (h : pollShutdownCheck Q stream ready shared=some (reply,shared')) :
    books shared'=(books shared).finishIf (QueuesFin Q shared.conn stream) stream .write := by
  rw [←finishStream_books]
  unfold pollShutdownCheck at h
  split at h
  next e finished hresult =>
    cases h
    rw [hresult]
  next finished hresult =>
    rw [hresult]
    split at h
    · cases h
    · cases h
      rfl

/-- Opening a stream drains the queue, and allots a stream before it can fail to open it. -/
theorem openCheck_books (shared : Shared σ ω) :
    (books (openCheck Q role shared).2=(books shared).drain ∧
      ∀ id,(openCheck Q role shared).1≠.ok (some id)) ∨
    (books (openCheck Q role shared).2=(books shared).drain.allot role ∧
      ∀ id,(openCheck Q role shared).1=.ok (some id) → id=nextId role (books shared)) := by
  unfold openCheck
  dsimp only
  split_ifs
  · exact .inl ⟨rfl,nofun⟩
  · exact .inl ⟨rfl,nofun⟩
  · exact .inl ⟨rfl,nofun⟩
  · right
    split
    · refine ⟨rfl,fun id hid => ?_⟩
      exact (Option.some.inj (Except.ok.inj hid)).symm
    · refine ⟨rfl,fun id hid => ?_⟩
      exact (Option.some.inj (Except.ok.inj hid)).symm
    · exact ⟨rfl,nofun⟩

end Checks

section Scans

/-- The connection after quiche was asked for a readable stream a number of times. -/
def asked (Q : Quiche σ ρ) (conn : σ) : ℕ→σ
  | 0 => conn
  | k+1 => (Q.streamReadableNext (asked Q conn k)).2

/-- The readable stream that quiche reports when asked for the `k`-th time. -/
def reported (Q : Quiche σ ρ) (conn : σ) (k : ℕ) : Option ℕ :=
  (Q.streamReadableNext (asked Q conn k)).1

/-- Asking once, and then on. -/
theorem asked_succ (conn : σ) (k : ℕ) :
    asked Q conn (k+1)=asked Q (Q.streamReadableNext conn).2 k := by
  induction k with
  | zero => rfl
  | succ k ih => rw [asked,ih,asked]

/-- The reports after the first one. -/
theorem reported_succ (conn : σ) (k : ℕ) :
    reported Q conn (k+1)=reported Q (Q.streamReadableNext conn).2 k := by
  rw [reported,reported,asked_succ]

/-- A scan that ends passed accepted streams only, and ends at a stream that is not
accepted or at the end of the reports. -/
theorem scanReadable_reported {accepted : Finset ℕ} {scanned : ℕ} {conn conn' : σ}
    {found : Option ℕ} (h : scanReadable Q accepted scanned conn=some (found,conn')) :
    reported Q conn scanned=found ∧ (∀ id,found=some id → id∉accepted) ∧
      ∀ j,j<scanned → ∃ seen∈accepted,reported Q conn j=some seen := by
  induction scanned generalizing conn with
  | zero =>
    unfold scanReadable at h
    rcases hnext : Q.streamReadableNext conn with ⟨_|id,next⟩
    · simp only [hnext] at h
      cases h
      exact ⟨congrArg Prod.fst hnext,nofun,fun j hj => absurd hj (by omega)⟩
    · simp only [hnext] at h
      by_cases hmem : id∈accepted
      · rw [if_pos hmem] at h
        cases h
      · rw [if_neg hmem,if_pos trivial] at h
        cases h
        refine ⟨congrArg Prod.fst hnext,fun found hfound => ?_,fun j hj => absurd hj (by omega)⟩
        obtain rfl := Option.some.inj hfound
        exact hmem
  | succ scanned ih =>
    unfold scanReadable at h
    rcases hnext : Q.streamReadableNext conn with ⟨_|id,next⟩
    · simp only [hnext] at h
      rw [if_neg (by omega)] at h
      cases h
    · simp only [hnext] at h
      by_cases hmem : id∈accepted
      · rw [if_pos hmem] at h
        obtain ⟨hfound,hnew,hseen⟩ := ih h
        have hsucc : ∀ k,reported Q conn (k+1)=reported Q next k := by
          intro k
          rw [reported_succ,hnext]
        refine ⟨(hsucc scanned).trans hfound,hnew,fun j hj => ?_⟩
        cases j with
        | zero => exact ⟨id,hmem,congrArg Prod.fst hnext⟩
        | succ j =>
          obtain ⟨seen,hseenMem,hreport⟩ := hseen j (by omega)
          exact ⟨seen,hseenMem,(hsucc j).trans hreport⟩
      · rw [if_neg hmem,if_neg (by omega)] at h
        cases h

/-- Accepting a stream drains the queue, and writes the stream that it returns into the books. -/
theorem acceptCheck_books {shared shared' : Shared σ ω} {scanned : ℕ}
    {reply : Option (Except QuicError Value)}
    (h : acceptCheck Q scanned shared=some (reply,shared')) :
    ∃ found,reported Q (drainPendingShutdown Q shared).conn scanned=found ∧
      (∀ id,found=some id → id∉shared.acceptedStreams) ∧
      (∀ j,j<scanned → ∃ seen∈shared.acceptedStreams,
        reported Q (drainPendingShutdown Q shared).conn j=some seen) ∧
      ((∃ id,found=some id ∧ reply=some (.ok (.stream id)) ∧
          books shared'=(books shared).drain.accept id) ∨
        (found=none ∧ books shared'=(books shared).drain ∧
          ∀ id,reply≠some (.ok (.stream id)))) := by
  unfold acceptCheck at h
  dsimp only at h
  split at h
  next hscan => cases h
  next id conn hscan =>
    cases h
    obtain ⟨hfound,hnew,hseen⟩ := scanReadable_reported hscan
    exact ⟨_,hfound,hnew,hseen,.inl ⟨id,rfl,rfl,rfl⟩⟩
  next conn hscan =>
    obtain ⟨hfound,hnew,hseen⟩ := scanReadable_reported hscan
    refine ⟨_,hfound,hnew,hseen,.inr ?_⟩
    split_ifs at h
    · cases h
      exact ⟨rfl,rfl,nofun⟩
    · cases h
      exact ⟨rfl,rfl,nofun⟩

end Scans

section Callers

/-- The stream that a call at some place has opened and is about to return. -/
def openingAt : Call→Pc→Option ℕ
  | .openStream,.flush (.return (.stream id)) => some id
  | _,_ => none

/-- The stream that a caller has opened and is about to return. -/
def opening : Caller ω→Option ℕ
  | .call call pc _ => openingAt call pc
  | _ => none

/-- Only `open_stream` opens a stream. -/
theorem opening_openStream {call : Call} {pc : Pc} {fired : Bool} {id : ℕ}
    (h : opening (.call call pc fired : Caller ω)=some id) : call=.openStream := by
  cases call with
  | openStream => rfl
  | handshake | ping | acceptStream | read | writeAll => cases h

/-- The stream that a call returned. -/
def givenStream : Caller ω→Option ℕ
  | .returned (.ok (.stream id)) => some id
  | _ => none

/-- The stream that a call is about. -/
def callStream : Call→Option ℕ
  | .read id _ => some id
  | .writeAll id _ _ => some id
  | _ => none

/-- The stream that a poll function is about. -/
def pollStream : PollCall→ℕ
  | .read id _ => id
  | .write id _ => id
  | .shutdown id => id

/-- The stream that a caller is at work on. -/
def uses : Caller ω→Option ℕ
  | .call call _ _ => callStream call
  | .poll call _ _ => some (pollStream call)
  | _ => none

/-- The caller is about to drain the queue of dropped streams. -/
def drains : Caller ω→Bool
  | .call .openStream .check _ | .call .acceptStream .check _ => true
  | _ => false

/-- The half that a caller's next step finds finished or finishes. -/
def callerEnds (Q : Quiche σ ρ) (shared : Shared σ ω) (contended : Bool) :
    Caller ω→Option (ℕ×Half)
  | .call (.read id cap) .check _ => if EndsRead Q shared.conn id cap then some (id,.read) else none
  | .poll (.read id cap) .tryLock _ =>
    if !contended && EndsRead Q shared.conn id cap then some (id,.read) else none
  | .poll (.shutdown id) .tryLock _ =>
    if !contended && QueuesFin Q shared.conn id then some (id,.write) else none
  | _ => none

/-- What drains the queue finishes nothing. -/
theorem callerEnds_of_drains {shared : Shared σ ω} {contended : Bool} {caller : Caller ω}
    (h : drains caller=true) : callerEnds Q shared contended caller=none := by
  unfold drains at h
  split at h
  · rfl
  · rfl
  · cases h

/-- Only `open_stream` flushes before it returns a stream. -/
def ReturnsOpened : Caller ω→Prop
  | .call call (.flush (.return _)) _ => call=.openStream
  | _ => True

/-- What a step of a call does to the books, and to what the caller has in hand. -/
inductive CallBooks (Q : Quiche σ ρ) (role : QuicRole) (shared : Shared σ ω) (scanned : ℕ)
    (before : Caller ω) : Shared σ ω→Caller ω→Prop where
  /-- Nothing. -/
  | quiet {shared' : Shared σ ω} {after : Caller ω} (same : books shared'=books shared)
      (undrained : drains before=false)
      (unended : ∀ contended,callerEnds Q shared contended before=none)
      (kept : opening after=opening before ∨ opening after=none) (ungiven : givenStream after=none) :
      CallBooks Q role shared scanned before shared' after
  /-- An opened stream is returned. -/
  | returned {shared' : Shared σ ω} (id : ℕ) (same : books shared'=books shared)
      (undrained : drains before=false)
      (unended : ∀ contended,callerEnds Q shared contended before=none)
      (opened : opening before=some id) :
      CallBooks Q role shared scanned before shared' (.returned (.ok (.stream id)))
  /-- The end of a read. -/
  | ended {shared' : Shared σ ω} {after : Caller ω} (id : ℕ) (undrained : drains before=false)
      (ends : ∀ contended,callerEnds Q shared contended before=some (id,.read))
      (written : books shared'=(books shared).finish id .read)
      (unopened : opening after=none) (ungiven : givenStream after=none) :
      CallBooks Q role shared scanned before shared' after
  /-- The queue is drained, and no stream is opened or accepted. -/
  | drained {shared' : Shared σ ω} {after : Caller ω} (draining : drains before=true)
      (written : books shared'=(books shared).drain)
      (unopened : opening after=none) (ungiven : givenStream after=none)
      (exhausted : (∃ fired,before=.call .acceptStream .check fired) →
        reported Q (drainPendingShutdown Q shared).conn scanned=none ∧
        ∀ j,j<scanned → ∃ seen∈shared.acceptedStreams,
          reported Q (drainPendingShutdown Q shared).conn j=some seen) :
      CallBooks Q role shared scanned before shared' after
  /-- A stream is allotted, and returned after a flush unless it cannot be opened. -/
  | allotted {shared' : Shared σ ω} {after : Caller ω}
      (opens : ∃ fired,before=.call .openStream .check fired)
      (written : books shared'=(books shared).drain.allot role)
      (next : opening after=none ∨ opening after=some (nextId role (books shared)))
      (ungiven : givenStream after=none) :
      CallBooks Q role shared scanned before shared' after
  /-- A stream is accepted and returned. -/
  | accepted {shared' : Shared σ ω} (id : ℕ)
      (accept : ∃ fired,before=.call .acceptStream .check fired)
      (found : reported Q (drainPendingShutdown Q shared).conn scanned=some id)
      (fresh : id∉shared.acceptedStreams)
      (passed : ∀ j,j<scanned → ∃ seen∈shared.acceptedStreams,
        reported Q (drainPendingShutdown Q shared).conn j=some seen)
      (written : books shared'=(books shared).drain.accept id) :
      CallBooks Q role shared scanned before shared' (.returned (.ok (.stream id)))

/-- What a call does before its loop leaves the books alone. -/
theorem enterStep_books (shared : Shared σ ω) (fired : Bool) (call : Call) (scanned : ℕ) :
    CallBooks Q role shared scanned (.call call .enter fired) (enterStep Q shared fired call).1
      (enterStep Q shared fired call).2 := by
  cases call with
  | ping before =>
    unfold enterStep
    dsimp only
    split
    · exact .quiet rfl rfl (fun _ => rfl) (.inr rfl) rfl
    · exact .quiet rfl rfl (fun _ => rfl) (.inr rfl) rfl
  | read stream cap =>
    unfold enterStep
    dsimp only
    split_ifs
    · exact .quiet rfl rfl (fun _ => rfl) (.inr rfl) rfl
    · exact .quiet rfl rfl (fun _ => rfl) (.inr rfl) rfl
  | handshake | openStream | acceptStream | writeAll => exact .quiet rfl rfl (fun _ => rfl) (.inr rfl) rfl

/-- What the head of the loop of a call does to the books is one of these. -/
theorem armStep_books (shared : Shared σ ω) (fired : Bool) (call : Call) (scanned : ℕ) :
    CallBooks Q role shared scanned (.call call .arm fired) shared (armStep call) := by
  cases call with
  | writeAll stream data offset =>
    unfold armStep
    dsimp only
    split_ifs
    · exact .quiet rfl rfl (fun _ => rfl) (.inr rfl) rfl
    · exact .quiet rfl rfl (fun _ => rfl) (.inr rfl) rfl
  | handshake | ping | openStream | acceptStream | read => exact .quiet rfl rfl (fun _ => rfl) (.inr rfl) rfl

/-- A call under the lock opens, accepts, drains or finds an end, as its kind is. -/
theorem checkStep_books {shared shared' : Shared σ ω} {fired : Bool} {scanned : ℕ} {call : Call}
    {caller : Caller ω} (h : checkStep Q role shared fired scanned call=some (shared',caller)) :
    CallBooks Q role shared scanned (.call call .check fired) shared' caller := by
  cases call with
  | handshake =>
    cases h
    unfold handshakeCheck
    split_ifs
    · exact .quiet rfl rfl (fun _ => rfl) (.inr rfl) rfl
    · exact .quiet rfl rfl (fun _ => rfl) (.inr rfl) rfl
    · exact .quiet rfl rfl (fun _ => rfl) (.inr rfl) rfl
  | ping acked =>
    cases h
    unfold pingCheck
    split_ifs
    · exact .quiet rfl rfl (fun _ => rfl) (.inr rfl) rfl
    · exact .quiet rfl rfl (fun _ => rfl) (.inr rfl) rfl
    · exact .quiet rfl rfl (fun _ => rfl) (.inr rfl) rfl
  | openStream =>
    have hbooks := @openCheck_books σ ρ ω Q role shared
    unfold checkStep at h
    dsimp only at h
    rcases hopen : openCheck Q role shared with ⟨e|_|id,opened⟩
    · rw [hopen] at h hbooks
      cases h
      rcases hbooks with ⟨hwritten,_⟩|⟨hwritten,_⟩
      · exact .drained rfl hwritten rfl rfl nofun
      · exact .allotted ⟨fired,rfl⟩ hwritten (.inl rfl) rfl
    · rw [hopen] at h hbooks
      cases h
      rcases hbooks with ⟨hwritten,_⟩|⟨hwritten,_⟩
      · exact .drained rfl hwritten rfl rfl nofun
      · exact .allotted ⟨fired,rfl⟩ hwritten (.inl rfl) rfl
    · rw [hopen] at h hbooks
      cases h
      rcases hbooks with ⟨_,hnone⟩|⟨hwritten,hnext⟩
      · exact absurd rfl (hnone id)
      · exact .allotted ⟨fired,rfl⟩ hwritten (.inr (congrArg some (hnext id rfl))) rfl
  | acceptStream =>
    obtain ⟨⟨reply,checked⟩,haccept,hresult⟩ := Option.map_eq_some_iff.mp h
    cases hresult
    obtain ⟨found,hfound,hfresh,hpassed,⟨id,rfl,rfl,hwritten⟩|⟨rfl,hwritten,hnone⟩⟩ :=
      acceptCheck_books haccept
    · exact .accepted id ⟨fired,rfl⟩ hfound (hfresh id rfl) hpassed hwritten
    · refine .drained rfl hwritten ?_ ?_ fun _ => ⟨hfound,hpassed⟩
      · cases reply <;> rfl
      · rcases reply with _|e|value
        · rfl
        · rfl
        · cases value with
          | stream id => exact absurd rfl (hnone id)
          | unit | bytes => rfl
  | read stream cap =>
    obtain ⟨hbooks,hnone⟩ := @readCheck_books σ ρ ω Q shared stream cap
    cases h
    have hgiven : givenStream (afterCheck (.read stream cap) fired
        (readCheck Q stream cap shared).1 : Caller ω)=none := by
      rcases hreply : (readCheck Q stream cap shared).1 with _|e|value
      · rfl
      · rfl
      · cases value with
        | stream id => exact absurd hreply (hnone id)
        | unit | bytes => rfl
    have hopening : opening (afterCheck (.read stream cap) fired
        (readCheck Q stream cap shared).1 : Caller ω)=none := by
      cases (readCheck Q stream cap shared).1 <;> rfl
    by_cases hends : EndsRead Q shared.conn stream cap=true
    · rw [Books.finishIf,if_pos hends] at hbooks
      exact .ended stream rfl (fun _ => if_pos hends) hbooks hopening hgiven
    · rw [Books.finishIf,if_neg hends] at hbooks
      exact .quiet hbooks rfl (fun _ => if_neg hends) (.inr hopening) hgiven
  | writeAll stream data offset =>
    unfold checkStep at h
    dsimp only at h
    split at h
    · cases h
      exact .quiet rfl rfl (fun _ => rfl) (.inr rfl) rfl
    · cases h
      split_ifs
      · exact .quiet rfl rfl (fun _ => rfl) (.inr rfl) rfl
      · exact .quiet rfl rfl (fun _ => rfl) (.inr rfl) rfl

/-- Every step of a call is one of these. -/
theorem callStep_books {shared shared' : Shared σ ω} {call : Call} {fired : Bool} {turn : Turn ρ}
    {pc : Pc} {caller : Caller ω} (hreturns : ReturnsOpened (.call call pc fired : Caller ω))
    (h : callStep Q role shared call fired turn pc=some (shared',caller)) :
    CallBooks Q role shared turn.scanned (.call call pc fired) shared' caller := by
  cases pc with
  | enter =>
    have henter : enterStep Q shared fired call=(shared',caller) := Option.some.inj h
    have hbooks := @enterStep_books σ ρ ω Q role shared fired call turn.scanned
    rw [henter] at hbooks
    exact hbooks
  | arm =>
    cases h
    exact armStep_books shared fired call turn.scanned
  | check => exact checkStep_books h
  | exitCheck =>
    cases h
    have hends : ∀ contended,callerEnds Q shared contended (.call call .exitCheck fired)=none := by
      intro contended
      cases call <;> rfl
    have hdrains : drains (.call call .exitCheck fired : Caller ω)=false := by cases call <;> rfl
    unfold exitCheckStep
    split_ifs with hexited haccept
    · exact .quiet rfl hdrains hends (.inr rfl) rfl
    · rw [haccept]
      exact .quiet rfl rfl (fun _ => rfl) (.inr rfl) rfl
    · refine .quiet rfl hdrains hends (.inr ?_) rfl
      cases call <;> rfl
  | flush next =>
    have hends : ∀ contended,callerEnds Q shared contended (.call call (.flush next) fired)=none := by
      intro contended
      cases call <;> rfl
    have hdrains : drains (.call call (.flush next) fired : Caller ω)=false := by cases call <;> rfl
    unfold callStep at h
    dsimp only at h
    split at h
    · cases h
      exact .quiet rfl hdrains hends (.inl rfl) rfl
    · cases h
      cases next with
      | loop =>
        refine .quiet rfl hdrains hends (.inr ?_) rfl
        cases call <;> rfl
      | await =>
        refine .quiet rfl hdrains hends (.inr ?_) rfl
        cases call <;> rfl
      | «return» value =>
        cases value with
        | stream id =>
          obtain rfl : call=.openStream := hreturns
          exact .returned id rfl rfl (fun _ => rfl) rfl
        | unit | bytes => exact .quiet rfl hdrains hends (.inr rfl) rfl
    · cases h
      exact .quiet rfl hdrains hends (.inr rfl) rfl
  | await =>
    cases fired with
    | false => cases h
    | true =>
      cases h
      refine .quiet rfl ?_ ?_ (.inr ?_) rfl
      · cases call <;> rfl
      · intro contended
        cases call <;> rfl
      · cases call <;> rfl

end Callers

section Steps

/-- The half that a step finds finished or finishes. -/
def labelEnds (Q : Quiche σ ρ) (before : State σ ρ ω ι) : Label ρ ι→Option (ℕ×Half)
  | .caller i turn => callerEnds Q before.shared turn.contended (before.callers i)
  | .touch (.finish id) => if QueuesFin Q before.shared.conn id then some (id,.write) else none
  | _ => none

/-- The step drains the queue of dropped streams. -/
def labelDrains (before : State σ ρ ω ι) : Label ρ ι→Bool
  | .caller i _ => drains (before.callers i)
  | _ => false

/-- What a step that is not one of a call does to the books. -/
inductive OtherBooks (Q : Quiche σ ρ) (before : State σ ρ ω ι) : Label ρ ι→Books→Prop where
  /-- Nothing. -/
  | quiet {label : Label ρ ι} (unended : labelEnds Q before label=none)
      (undropped : ∀ id,label≠.touch (.dropped id)) : OtherBooks Q before label (books before.shared)
  /-- A half is finished. -/
  | ended {label : Label ρ ι} (id : ℕ) (half : Half) (ends : labelEnds Q before label=some (id,half)) :
      OtherBooks Q before label ((books before.shared).finish id half)
  /-- A stream is dropped. -/
  | dropped (id : ℕ) : OtherBooks Q before (.touch (.dropped id)) ((books before.shared).dropped id)

/-- A half is finished or not. -/
theorem otherBooks_finishIf {before : State σ ρ ω ι} {label : Label ρ ι} {ended : Bool} {id : ℕ}
    {half : Half} (hends : labelEnds Q before label=if ended then some (id,half) else none)
    (hdropped : ∀ id,label≠.touch (.dropped id)) :
    OtherBooks Q before label ((books before.shared).finishIf ended id half) := by
  cases ended with
  | true => exact .ended id half hends
  | false => exact .quiet hends hdropped

/-- The drop of a stream. -/
theorem touchStep_dropped (shared : Shared σ ω) (stream : ℕ) :
    books (touchStep Q shared (.dropped stream))=(books shared).dropped stream := by
  by_cases hclean : (shared.sentFin stream && shared.recvFin stream)=true
  · rw [touchStep,if_pos hclean,Books.dropped,books,if_pos hclean]
  · rw [touchStep,if_neg hclean,Books.dropped,books,books,if_neg hclean]

/-- The operations that do not wait. -/
theorem touchStep_books (before : State σ ρ ω ι) (touch : Touch) :
    OtherBooks Q before (.touch touch) (books (touchStep Q before.shared touch)) := by
  cases touch with
  | write stream data => exact .quiet rfl nofun
  | finish stream =>
    have hbooks := @finishStream_books σ ρ ω Q before.shared stream
    change OtherBooks Q before _ (books (finishStream Q stream before.shared).2)
    rw [hbooks]
    exact otherBooks_finishIf rfl nofun
  | shutdown stream => exact .quiet rfl nofun
  | dropped stream =>
    rw [touchStep_dropped]
    exact .dropped stream
  | flush => exact .quiet rfl nofun

/-- A poll function under the lock. -/
theorem pollCheck_books {before : State σ ρ ω ι} {i : ι} {turn : Turn ρ} {call : PollCall}
    {woken : Bool} {shared : Shared σ ω} {caller : Caller ω}
    (under : before.callers i=.poll call .tryLock woken) (huncontended : turn.contended=false)
    (h : pollCheck Q before.shared woken turn.ready call=some (shared,caller)) :
    OtherBooks Q before (.caller i turn) (books shared) := by
  have hends : labelEnds Q before (.caller i turn)=
      callerEnds Q before.shared false (.poll call .tryLock woken) := by
    rw [labelEnds,under,huncontended]
  cases call with
  | read stream cap =>
    have hbooks := @pollReadCheck_books σ ρ ω Q before.shared stream cap
    unfold pollCheck at h
    dsimp only at h
    cases h
    rw [hbooks]
    exact otherBooks_finishIf hends nofun
  | write stream data =>
    obtain ⟨⟨reply,checked⟩,hcheck,hresult⟩ := Option.map_eq_some_iff.mp h
    cases hresult
    rw [pollWriteCheck_books hcheck]
    exact .quiet hends nofun
  | shutdown stream =>
    obtain ⟨⟨reply,checked⟩,hcheck,hresult⟩ := Option.map_eq_some_iff.mp h
    cases hresult
    rw [pollShutdownCheck_books hcheck]
    exact otherBooks_finishIf hends nofun

variable [DecidableEq ω]

/-- Registering a waker leaves the books alone. -/
theorem pollEnter_books (w : ω) (shared : Shared σ ω) (call : PollCall) :
    books (pollEnter w shared call).1=books shared := by
  have hregister : books (registerPollWaker w shared)=books shared := by
    unfold registerPollWaker
    split_ifs <;> rfl
  cases call with
  | read stream cap =>
    unfold pollEnter
    dsimp only
    split_ifs
    · rfl
    · exact hregister
  | write stream data => exact hregister
  | shutdown stream => rfl

/-- Notifying leaves the books alone. -/
theorem notifyStep_books {before state : State σ ρ ω ι} {pc : NotifyPc ω}
    {next : Option (NotifyPc ω)} (h : notifyStep waker before pc=(next,state)) :
    books state.shared=books before.shared := by
  cases pc with
  | waiters | take =>
    cases h
    rfl
  | wake taken =>
    cases taken with
    | nil | cons =>
      cases h
      rfl

/-- The driver leaves the books as they are. -/
theorem driverMove_books {before after : State σ ρ ω ι} (h : DriverMove waker before after) :
    books after.shared=books before.shared := by
  cases h with
  | moved | resumed | exits => rfl
  | notified pc next under now =>
    have hbooks := notifyStep_books now
    exact hbooks

variable [DecidableEq ι]

/-- And a close. -/
theorem closeMove_books {before after : State σ ρ ω ι} {i : ι} {pc : ClosePc ω}
    (h : CloseMove waker before i pc after) : books after.shared=books before.shared := by
  cases h with
  | moved | stored | returned => rfl
  | notified pc now =>
    have hbooks := notifyStep_books now
    exact hbooks

/-- A step is one of a call, which leaves the other callers where they are, or one of another
kind, which opens and returns no stream. -/
inductive StepBooks (Q : Quiche σ ρ) (role : QuicRole) (before : State σ ρ ω ι) :
    Label ρ ι→State σ ρ ω ι→Prop where
  /-- A step of a call. -/
  | call (i : ι) (turn : Turn ρ) {call : Call} {pc : Pc} {fired : Bool} {after : State σ ρ ω ι}
      (under : before.callers i=.call call pc fired)
      (moves : CallBooks Q role before.shared turn.scanned (.call call pc fired) after.shared
        (after.callers i))
      (others : ∀ j,j≠i → after.callers j=before.callers j) :
      StepBooks Q role before (.caller i turn) after
  /-- Another step. -/
  | other {label : Label ρ ι} {after : State σ ρ ω ι}
      (moves : OtherBooks Q before label (books after.shared))
      (undrained : labelDrains before label=false)
      (uncalled : ∀ i turn,label=.caller i turn → ∀ call pc fired,
        before.callers i≠.call call pc fired)
      (kept : ∀ j,opening (after.callers j)=opening (before.callers j) ∨
        opening (after.callers j)=none) :
      StepBooks Q role before label after

omit [DecidableEq ω] [DecidableEq ι] in
/-- A nudge keeps the stream that a call has opened, or loses it. -/
theorem opening_nudged {before after : Caller ω} (h : Nudged before after) :
    opening after=opening before ∨ opening after=none := by
  cases h with
  | same => exact .inl rfl
  | fired => cases before <;> exact .inl rfl
  | woken => cases before <;> exact .inl rfl
  | idle => exact .inr rfl

/-- What is not in a call has opened no stream after its step, and no step of another changes
what a call has opened. -/
theorem opening_kept {before after : State σ ρ ω ι} {label : Label ρ ι} {j : ι}
    (h : Move Q waker before label after)
    (huncalled : ∀ i turn,label=.caller i turn → ∀ call pc fired,
      before.callers i≠.call call pc fired) :
    opening (after.callers j)=opening (before.callers j) ∨ opening (after.callers j)=none := by
  by_cases hown : (∃ turn,label=.caller j turn) ∨ ∃ op,label=.start j op
  · have hself : ∀ (state : State σ ρ ω ι) (caller : Caller ω),opening caller=none →
        opening ((state.setCaller j caller).callers j)=none := by
      intro state caller hnone
      change opening (Function.update state.callers j caller j)=none
      rw [Function.update_self]
      exact hnone
    right
    rcases hown with ⟨turn,rfl⟩|⟨op,rfl⟩
    · cases h with
      | call _ _ under frame move => exact absurd under (huncalled j turn rfl _ _ _)
      | close _ _ under move =>
        cases move with
        | moved conn caller none goes =>
          refine hself _ _ ?_
          rcases goes with rfl|rfl|⟨reply,rfl⟩
          · rfl
          · rfl
          · rfl
        | stored | returned | notified => exact hself _ _ rfl
      | polled _ _ under entered =>
        refine hself _ _ ?_
        cases entered with
        | ready | registered | unregistered => rfl
      | @contended _ _ call woken under taken =>
        have hset := hself before (.poll call .pending woken) rfl
        have hwoken : opening (((before.setCaller j (.poll call .pending woken)).callers j).wake)=none := by
          cases hcaller : (before.setCaller j (.poll call .pending woken)).callers j with
          | call found pc fired =>
            rw [hcaller] at hset
            exact hset
          | idle | closing | poll | returned | ready => rfl
        change opening (if waker j=waker j
          then ((before.setCaller j (.poll call .pending woken)).callers j).wake
          else (before.setCaller j (.poll call .pending woken)).callers j)=none
        rw [if_pos rfl]
        exact hwoken
      | ready | pending | again => exact hself _ _ rfl
    · cases h with
      | started _ _ settled held =>
        refine hself _ _ ?_
        cases op <;> rfl
  · refine opening_nudged (foreign_nudges h ?_ ?_)
    · intro turn hlabel
      exact hown (.inl ⟨turn,hlabel⟩)
    · intro op hlabel
      exact hown (.inr ⟨op,hlabel⟩)

/-- Every step is one of these. -/
theorem step_books {before after : State σ ρ ω ι} {label : Label ρ ι}
    (h : Step Q role waker before label after) (hreturns : ∀ i,ReturnsOpened (before.callers i)) :
    StepBooks Q role before label after := by
  have hmove := step_move h
  have hother : (∀ i turn,label=.caller i turn → ∀ call pc fired,
      before.callers i≠.call call pc fired) → OtherBooks Q before label (books after.shared) →
      StepBooks Q role before label after := by
    intro huncalled hbooks
    refine .other hbooks ?_ huncalled fun j => opening_kept hmove huncalled
    cases label with
    | caller i turn =>
      cases hcaller : before.callers i with
      | call call pc fired => exact absurd hcaller (huncalled i turn rfl call pc fired)
      | idle | closing | poll | returned | ready =>
        rw [labelDrains,hcaller]
        rfl
    | driver | start | abandon | touch | dropConnection | abort | cancel => rfl
  cases label with
  | caller i turn =>
    cases hcaller : before.callers i with
    | call call pc fired =>
      have hnow := h.now
      unfold step callerStep at hnow
      simp only [hcaller] at hnow
      obtain ⟨⟨shared,caller⟩,hstep,rfl⟩ := Option.map_eq_some_iff.mp hnow
      have hbooks := callStep_books (hcaller ▸ hreturns i) hstep
      refine .call i turn hcaller ?_ fun j hj => Function.update_of_ne hj _ _
      have hself : (before.after i (shared,caller)).callers i=caller := Function.update_self _ _ _
      rw [hself]
      exact hbooks
    | closing pc =>
      refine hother (fun j turn' hlabel call pc' fired hcall => ?_) ?_
      · obtain ⟨rfl,_⟩ := Label.caller.inj hlabel
        cases hcaller.symm.trans hcall
      · cases hmove with
        | close _ _ under move =>
          rw [closeMove_books move]
          refine .quiet ?_ nofun
          rw [labelEnds,hcaller]
          rfl
        | call _ _ under | polled _ _ under | contended _ _ under | ready _ _ _ under
        | pending _ _ _ _ under | again _ _ under => cases hcaller.symm.trans under
    | poll call pc woken =>
      refine hother (fun j turn' hlabel call' pc' fired hcall => ?_) ?_
      · obtain ⟨rfl,_⟩ := Label.caller.inj hlabel
        cases hcaller.symm.trans hcall
      · have hnow := h.now
        unfold step callerStep at hnow
        simp only [hcaller] at hnow
        cases pc with
        | enter =>
          obtain rfl := Option.some.inj hnow
          have hbooks := pollEnter_books (waker i) before.shared call
          have hends : labelEnds Q before (.caller i turn)=none := by
            rw [labelEnds,hcaller]
            cases call <;> rfl
          change OtherBooks Q before _ (books (pollEnter (waker i) before.shared call).1)
          rw [hbooks]
          exact .quiet hends nofun
        | pending =>
          obtain rfl := Option.some.inj hnow
          refine .quiet ?_ nofun
          rw [labelEnds,hcaller]
          cases call <;> rfl
        | tryLock =>
          unfold pollStep at hnow
          dsimp only at hnow
          cases hcontended : turn.contended with
          | true =>
            rw [if_pos hcontended] at hnow
            obtain rfl := Option.some.inj hnow
            refine .quiet ?_ nofun
            rw [labelEnds,hcaller,hcontended]
            cases call <;> rfl
          | false =>
            rw [if_neg (by simp [hcontended])] at hnow
            obtain ⟨⟨shared,caller⟩,hcheck,rfl⟩ := Option.map_eq_some_iff.mp hnow
            exact pollCheck_books hcaller hcontended hcheck
    | idle | returned | ready =>
      have hnow := h.now
      unfold step callerStep at hnow
      simp only [hcaller] at hnow
      cases hnow
  | driver turn =>
    cases hmove with
    | driver _ move =>
      refine hother nofun ?_
      rw [driverMove_books move]
      exact .quiet rfl nofun
  | start i op =>
    cases hmove with
    | started => exact hother nofun (.quiet rfl nofun)
  | abandon i =>
    cases hmove with
    | abandoned => exact hother nofun (.quiet rfl nofun)
  | touch touch =>
    obtain rfl := Option.some.inj h.now
    exact hother nofun (touchStep_books before touch)
  | dropConnection =>
    cases hmove with
    | dropped => exact hother nofun (.quiet rfl nofun)
  | abort =>
    cases hmove with
    | aborted => exact hother nofun (.quiet rfl nofun)
  | cancel =>
    cases hmove with
    | cancelled => exact hother nofun (.quiet rfl nofun)

/-- Only `open_stream` flushes before it returns a stream, after every step too. -/
theorem returnsOpened_step {before after : State σ ρ ω ι} {label : Label ρ ι}
    (h : Step Q role waker before label after) (hreturns : ∀ i,ReturnsOpened (before.callers i))
    (j : ι) : ReturnsOpened (after.callers j) := by
  refine callers_rule (step_move h) ?_ (fun call pc fired hcall => ?_) ?_ ?_ hreturns j
  · intro caller hout
    cases caller with
    | call => cases hout
    | idle | closing | poll | returned | ready => trivial
  · cases pc with
    | flush next => cases next <;> exact hcall
    | enter | arm | check | exitCheck | await => trivial
  · intro op
    cases op <;> trivial
  · intro i turn call pc fired caller hlabel hunder hmove
    have hcaller := hreturns i
    rw [hunder] at hcaller
    cases hmove with
    | more next => cases next <;> exact hcaller
    | returned | entered | pinged | armed | looked | opened | uncredited | wrote | blocked | passed
    | flushing | looped | waits | woken => trivial

omit [DecidableEq ω] [DecidableEq ι] in
/-- A nudge gives a caller no other stream to work on. -/
theorem uses_nudged {before after : Caller ω} {id : ℕ} (h : Nudged before after)
    (hafter : uses after=some id) : uses before=some id := by
  cases h with
  | same => exact hafter
  | fired => cases before <;> exact hafter
  | woken => cases before <;> exact hafter
  | idle => cases hafter

omit [DecidableEq ω] [DecidableEq ι] in
/-- A call stays with its stream. -/
theorem uses_callMove {shared : Shared σ ω} {call : Call} {pc : Pc} {fired : Bool} {id : ℕ}
    {caller : Caller ω} (h : CallMove Q shared call pc fired caller)
    (hafter : uses caller=some id) : callStream call=some id := by
  cases h with
  | returned | opened | uncredited => cases hafter
  | entered | pinged | armed | looked | wrote | blocked | passed | flushing | more | looped | waits
  | woken => exact hafter

/-- A caller that works on a stream did so before, or starts to. -/
theorem uses_step {before after : State σ ρ ω ι} {label : Label ρ ι} {j : ι} {id : ℕ}
    (h : Move Q waker before label after) (hafter : uses (after.callers j)=some id) :
    uses (before.callers j)=some id ∨
      ∃ op : Op,label=.start j op ∧ uses (op.caller : Caller ω)=some id := by
  by_cases hown : (∃ turn,label=.caller j turn) ∨ ∃ op,label=.start j op
  · have hself : ∀ (state : State σ ρ ω ι) (caller : Caller ω),
        uses ((state.setCaller j caller).callers j)=some id → uses caller=some id := by
      intro state caller hstate
      change uses (Function.update state.callers j caller j)=some id at hstate
      rwa [Function.update_self] at hstate
    rcases hown with ⟨turn,rfl⟩|⟨op,rfl⟩
    · left
      cases h with
      | call _ _ under frame move =>
        rw [under]
        exact uses_callMove move (hself {before with shared := _} _ hafter)
      | close _ _ under move =>
        cases move with
        | moved conn caller none goes =>
          have hcaller := hself (before.setConn conn) caller hafter
          rcases goes with rfl|rfl|⟨reply,rfl⟩
          · cases hcaller
          · cases hcaller
          · cases hcaller
        | stored => cases hself {before with shared := _} _ hafter
        | notified pc now => cases hself _ _ hafter
        | returned => cases hself before _ hafter
      | polled _ _ under entered =>
        have hcaller := hself {before with shared := _} _ hafter
        rw [under]
        cases entered with
        | ready => cases hcaller
        | registered | unregistered => exact hcaller
      | @contended _ _ call woken under taken =>
        change uses (if waker j=waker j
          then ((before.setCaller j (.poll call .pending woken)).callers j).wake
          else (before.setCaller j (.poll call .pending woken)).callers j)=some id at hafter
        rw [if_pos rfl] at hafter
        rw [under]
        exact hself before (.poll call .pending woken) (uses_nudged .woken hafter)
      | ready _ _ reply under frame => cases hself {before with shared := _} _ hafter
      | pending _ _ uncontended registers under frame waits =>
        have hcaller := hself {before with shared := _} _ hafter
        rw [under]
        exact hcaller
      | again _ _ under =>
        have hcaller := hself before _ hafter
        rw [under]
        exact hcaller
    · cases h with
      | started _ _ settled held => exact .inr ⟨op,rfl,hself before _ hafter⟩
  · refine .inl (uses_nudged (foreign_nudges h ?_ ?_) hafter)
    · intro turn hlabel
      exact hown (.inl ⟨turn,hlabel⟩)
    · intro op hlabel
      exact hown (.inr ⟨op,hlabel⟩)

omit [DecidableEq ω] [DecidableEq ι] in
/-- A caller finishes a half of the stream that it works on. -/
theorem uses_of_callerEnds {shared : Shared σ ω} {contended : Bool} {caller : Caller ω} {id : ℕ}
    {half : Half} (h : callerEnds Q shared contended caller=some (id,half)) :
    uses caller=some id := by
  unfold callerEnds at h
  split at h
  · split_ifs at h
    obtain ⟨rfl,_⟩ := Prod.mk.inj (Option.some.inj h)
    rfl
  · split_ifs at h
    obtain ⟨rfl,_⟩ := Prod.mk.inj (Option.some.inj h)
    rfl
  · split_ifs at h
    obtain ⟨rfl,_⟩ := Prod.mk.inj (Option.some.inj h)
    rfl
  · cases h

end Steps

end WispersConnect.StreamBooks
