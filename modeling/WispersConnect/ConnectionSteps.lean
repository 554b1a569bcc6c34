import WispersConnect.QuicConnection

/-!
# What a step of a connection can do

Each step of a call, of a poll function and of the driver is taken apart once:
where the party goes on, under which conditions, and which of the shared flags
and wakers stay as they were.
-/

namespace WispersConnect.ConnectionSteps

open Messages QuicConnection

variable {σ ρ ω ι : Type} {Q : Quiche σ ρ} {role : QuicRole} {waker : ι→ω}

/-- The flags and the wakers stay as they were. -/
structure Frame (before after : Shared σ ω) : Prop where
  /-- The exit flag. -/
  driverExited : after.driverExited=before.driverExited
  /-- The shutdown flag. -/
  shutdown : after.shutdown=before.shutdown
  /-- The wakers. -/
  pollWakers : after.pollWakers=before.pollWakers

/-- Another connection, with the rest as it was. -/
theorem frame_conn (shared : Shared σ ω) (conn : σ) : Frame shared {shared with conn := conn} :=
  ⟨rfl,rfl,rfl⟩

/-- What nothing happened to. -/
theorem Frame.refl (shared : Shared σ ω) : Frame shared shared := ⟨rfl,rfl,rfl⟩

/-- One change after another. -/
theorem Frame.trans {a b c : Shared σ ω} (h : Frame a b) (h' : Frame b c) : Frame a c :=
  ⟨h'.driverExited.trans h.driverExited,h'.shutdown.trans h.shutdown,
    h'.pollWakers.trans h.pollWakers⟩

/-- Draining dropped streams. -/
theorem drainPendingShutdown_frame (shared : Shared σ ω) :
    Frame shared (drainPendingShutdown Q shared) := ⟨rfl,rfl,rfl⟩

/-- Opening a stream, which fails once the driver is gone. -/
theorem openCheck_frame (shared : Shared σ ω) :
    Frame shared (openCheck Q role shared).2 ∧
      ((openCheck Q role shared).1=.ok none → shared.driverExited=false) := by
  unfold openCheck
  dsimp only
  split_ifs with hclosed hexited hcredit
  · exact ⟨drainPendingShutdown_frame shared,fun h => by cases h⟩
  · exact ⟨drainPendingShutdown_frame shared,fun h => by cases h⟩
  · exact ⟨drainPendingShutdown_frame shared,fun _ => eq_false_of_ne_true hexited⟩
  · split
    · exact ⟨⟨rfl,rfl,rfl⟩,fun h => by cases h⟩
    · exact ⟨⟨rfl,rfl,rfl⟩,fun h => by cases h⟩
    · exact ⟨⟨rfl,rfl,rfl⟩,fun h => by cases h⟩

/-- Accepting a stream. -/
theorem acceptCheck_frame {shared shared' : Shared σ ω} {scanned : ℕ}
    {reply : Option (Except QuicError Value)}
    (h : acceptCheck Q scanned shared=some (reply,shared')) : Frame shared shared' := by
  unfold acceptCheck at h
  dsimp only at h
  split at h
  · cases h
  · cases h
    exact ⟨rfl,rfl,rfl⟩
  · split_ifs at h
    · cases h
      exact ⟨rfl,rfl,rfl⟩
    · cases h
      exact ⟨rfl,rfl,rfl⟩

/-- Reading from a stream. -/
theorem readCheck_frame (shared : Shared σ ω) (stream cap : ℕ) :
    Frame shared (readCheck Q stream cap shared).2 := by
  unfold readCheck
  dsimp only
  split
  · split_ifs
    · exact ⟨rfl,rfl,rfl⟩
    · exact ⟨rfl,rfl,rfl⟩
  · split_ifs
    · exact ⟨rfl,rfl,rfl⟩
    · exact ⟨rfl,rfl,rfl⟩
    · exact ⟨rfl,rfl,rfl⟩
  · exact ⟨rfl,rfl,rfl⟩

/-- Finishing a stream. -/
theorem finishStream_frame (shared : Shared σ ω) (stream : ℕ) :
    Frame shared (finishStream Q stream shared).2 := by
  unfold finishStream
  dsimp only
  split
  · exact ⟨rfl,rfl,rfl⟩
  · exact ⟨rfl,rfl,rfl⟩
  · exact ⟨rfl,rfl,rfl⟩

/-- The operations that do not wait. -/
theorem touchStep_frame (shared : Shared σ ω) (touch : Touch) :
    Frame shared (touchStep Q shared touch) := by
  cases touch with
  | write stream data => exact ⟨rfl,rfl,rfl⟩
  | finish stream => exact finishStream_frame shared stream
  | shutdown stream => exact ⟨rfl,rfl,rfl⟩
  | dropped stream =>
    unfold touchStep
    dsimp only
    split_ifs
    · exact ⟨rfl,rfl,rfl⟩
    · exact ⟨rfl,rfl,rfl⟩
  | flush => exact ⟨rfl,rfl,rfl⟩

section Calls

/-- A `write_all` that has data left, while it is at its send. -/
def Within : Call→Prop
  | .writeAll _ data offset => offset<data.length
  | _ => True

/-- Where a step takes a call, given the shared state it finds. -/
inductive CallMove (Q : Quiche σ ρ) (shared : Shared σ ω) : Call→Pc→Bool→Caller ω→Prop where
  /-- It returns. -/
  | returned {call : Call} {pc : Pc} {fired : Bool} (reply : Except QuicError Value)
      (running : pc≠.await) : CallMove Q shared call pc fired
        (.returned reply)
  /-- It enters its loop. -/
  | entered {call : Call} {fired : Bool} : CallMove Q shared call .enter fired (.call call .arm fired)
  /-- A ping is sent. -/
  | pinged {before acked : ℕ} {fired : Bool} :
      CallMove Q shared (.ping before) .enter fired (.call (.ping acked) (.flush .loop) fired)
  /-- It arms the notification. -/
  | armed {call : Call} {fired : Bool} (within : Within call) :
      CallMove Q shared call .arm fired (.call call .check false)
  /-- It did not find what it waits for. -/
  | looked {call : Call} {fired : Bool} :
      CallMove Q shared call .check fired (.call call .exitCheck fired)
  /-- A stream is opened. -/
  | opened {fired : Bool} (id : ℕ) :
      CallMove Q shared .openStream .check fired
        (.call .openStream (.flush (.return (.stream id))) fired)
  /-- There is no credit to open a stream, and the driver is there. -/
  | uncredited {fired : Bool} (alive : shared.driverExited=false) :
      CallMove Q shared .openStream .check fired (.call .openStream (.flush .await) fired)
  /-- Some data is taken. -/
  | wrote {stream offset n : ℕ} {data : Bytes} {fired : Bool} (some : 0<n) :
      CallMove Q shared (.writeAll stream data offset) .check fired
        (.call (.writeAll stream data (offset+n)) (.flush .loop) fired)
  /-- No data is taken. -/
  | blocked {stream offset : ℕ} {data : Bytes} {fired : Bool}
      (full : (writeAllSend Q stream data offset shared.conn).1=.ok 0) :
      CallMove Q shared (.writeAll stream data offset) .check fired
        (.call (.writeAll stream data offset) .await fired)
  /-- It goes on to wait, since the driver is there. -/
  | passed {call : Call} {fired : Bool} (alive : shared.driverExited=false) :
      CallMove Q shared call .exitCheck fired (.call call .await fired)
  /-- It flushes before it waits, since the driver is there. -/
  | flushing {call : Call} {fired : Bool} (alive : shared.driverExited=false) :
      CallMove Q shared call .exitCheck fired (.call call (.flush .await) fired)
  /-- It goes on flushing. -/
  | more {call : Call} {fired : Bool} (next : AfterFlush) :
      CallMove Q shared call (.flush next) fired (.call call (.flush next) fired)
  /-- It flushed and turns its loop. -/
  | looped {call : Call} {fired : Bool} :
      CallMove Q shared call (.flush .loop) fired (.call call .arm fired)
  /-- It flushed and waits. -/
  | waits {call : Call} {fired : Bool} :
      CallMove Q shared call (.flush .await) fired (.call call .await fired)
  /-- The notification it waits for has fired. -/
  | woken {call : Call} : CallMove Q shared call .await true (.call call .arm true)

/-- What a call does before its loop. -/
theorem enterStep_moves (shared : Shared σ ω) (fired : Bool) (call : Call) :
    Frame shared (enterStep Q shared fired call).1 ∧
      CallMove Q shared call .enter fired (enterStep Q shared fired call).2 := by
  cases call with
  | ping before =>
    unfold enterStep
    dsimp only
    split
    · exact ⟨frame_conn shared _,.returned _ Pc.noConfusion⟩
    · exact ⟨frame_conn shared _,.pinged⟩
  | read stream cap =>
    unfold enterStep
    dsimp only
    split_ifs
    · exact ⟨Frame.refl shared,.returned _ Pc.noConfusion⟩
    · exact ⟨Frame.refl shared,.entered⟩
  | handshake | openStream | acceptStream | writeAll => exact ⟨Frame.refl shared,.entered⟩

/-- What a call does at the head of its loop. -/
theorem armStep_moves (shared : Shared σ ω) (fired : Bool) (call : Call) :
    CallMove Q shared call .arm fired (armStep call) := by
  cases call with
  | writeAll stream data offset =>
    unfold armStep
    dsimp only
    split_ifs with hwithin
    · exact .armed hwithin
    · exact .returned _ Pc.noConfusion
  | handshake | ping | openStream | acceptStream | read => exact .armed trivial

/-- A call returns what it found, or looks at the exit flag. -/
theorem afterCheck_moves (shared : Shared σ ω) (call : Call) (fired : Bool)
    (reply : Option (Except QuicError Value)) :
    CallMove Q shared call .check fired (afterCheck call fired reply) := by
  cases reply with
  | none => exact .looked
  | some reply => exact .returned reply Pc.noConfusion

/-- What a call does under the lock. -/
theorem checkStep_moves {shared shared' : Shared σ ω} {fired : Bool} {scanned : ℕ} {call : Call}
    {caller : Caller ω} (h : checkStep Q role shared fired scanned call=some (shared',caller)) :
    Frame shared shared' ∧ CallMove Q shared call .check fired caller := by
  cases call with
  | handshake | ping =>
    cases h
    exact ⟨Frame.refl shared,afterCheck_moves shared _ fired _⟩
  | openStream =>
    obtain ⟨hframe,halive⟩ := @openCheck_frame σ ρ ω Q role shared
    unfold checkStep at h
    dsimp only at h
    split at h
    next e opened hopen =>
      cases h
      rw [hopen] at hframe
      exact ⟨hframe,.returned _ Pc.noConfusion⟩
    next id opened hopen =>
      cases h
      rw [hopen] at hframe
      exact ⟨hframe,.opened id⟩
    next opened hopen =>
      cases h
      rw [hopen] at hframe halive
      exact ⟨hframe,.uncredited (halive rfl)⟩
  | acceptStream =>
    obtain ⟨⟨reply,accepted⟩,haccept,hresult⟩ := Option.map_eq_some_iff.mp h
    cases hresult
    exact ⟨acceptCheck_frame haccept,afterCheck_moves shared _ fired reply⟩
  | read stream cap =>
    cases h
    exact ⟨readCheck_frame shared stream cap,afterCheck_moves shared _ fired _⟩
  | writeAll stream data offset =>
    unfold checkStep at h
    dsimp only at h
    split at h
    next e conn hsend =>
      cases h
      exact ⟨frame_conn shared conn,.returned _ Pc.noConfusion⟩
    next n conn hsend =>
      cases h
      refine ⟨frame_conn shared conn,?_⟩
      by_cases hn : 0<n
      · rw [if_pos hn]
        exact .wrote hn
      · rw [if_neg hn]
        refine .blocked ?_
        rw [hsend,Nat.eq_zero_of_not_pos hn]

/-- What a call does at the exit flag. -/
theorem exitCheckStep_moves (shared : Shared σ ω) (fired : Bool) (call : Call) :
    CallMove Q shared call .exitCheck fired (exitCheckStep shared fired call) := by
  unfold exitCheckStep
  split_ifs with hexited haccept
  · exact .returned _ Pc.noConfusion
  · exact .flushing (by simpa using hexited)
  · exact .passed (by simpa using hexited)

/-- Every step of a call is one of these moves, and leaves flags and wakers alone. -/
theorem callStep_moves {shared shared' : Shared σ ω} {call : Call} {fired : Bool} {turn : Turn ρ}
    {pc : Pc} {caller : Caller ω} (h : callStep Q role shared call fired turn pc=some (shared',caller)) :
    Frame shared shared' ∧ CallMove Q shared call pc fired caller := by
  cases pc with
  | enter =>
    have henter : enterStep Q shared fired call=(shared',caller) := Option.some.inj h
    have hmoves := @enterStep_moves σ ρ ω Q shared fired call
    rw [henter] at hmoves
    exact hmoves
  | arm =>
    cases h
    exact ⟨Frame.refl shared,armStep_moves shared fired call⟩
  | check => exact checkStep_moves h
  | exitCheck =>
    cases h
    exact ⟨Frame.refl shared,exitCheckStep_moves shared fired call⟩
  | flush next =>
    unfold callStep at h
    dsimp only at h
    split at h
    next conn hflush =>
      cases h
      exact ⟨frame_conn shared conn,.more next⟩
    next conn hflush =>
      cases h
      refine ⟨frame_conn shared conn,?_⟩
      cases next with
      | loop => exact .looped
      | await => exact .waits
      | «return» value => exact .returned _ Pc.noConfusion
    next e conn hflush =>
      cases h
      exact ⟨frame_conn shared conn,.returned _ Pc.noConfusion⟩
  | await =>
    cases fired with
    | false => cases h
    | true =>
      cases h
      exact ⟨Frame.refl shared,.woken⟩

/-- A call whose loop over readable streams ends can always take a step, unless
it waits for a notification that has not fired. -/
theorem callStep_enabled (hscan : ∀ accepted conn,∃ scanned,
      (scanReadable Q accepted scanned conn).isSome=true) (shared : Shared σ ω) (call : Call)
    (fired : Bool) (pc : Pc) (turn : Turn ρ) (hwait : pc=.await → fired=true) :
    ∃ scanned,(callStep Q role shared call fired {turn with scanned := scanned} pc).isSome=true := by
  cases pc with
  | enter => exact ⟨0,rfl⟩
  | arm => exact ⟨0,rfl⟩
  | check =>
    cases call with
    | acceptStream =>
      obtain ⟨scanned,hsome⟩ := hscan (drainPendingShutdown Q shared).acceptedStreams
        (drainPendingShutdown Q shared).conn
      refine ⟨scanned,?_⟩
      obtain ⟨⟨found,conn⟩,hfound⟩ := Option.isSome_iff_exists.mp hsome
      simp only [callStep,checkStep,Option.isSome_map,acceptCheck,hfound]
      cases found with
      | some id => rfl
      | none =>
        dsimp only
        split_ifs
        · rfl
        · rfl
    | openStream =>
      refine ⟨0,?_⟩
      simp only [callStep,checkStep]
      split
      · rfl
      · rfl
      · rfl
    | writeAll stream data offset =>
      refine ⟨0,?_⟩
      simp only [callStep,checkStep]
      split
      · rfl
      · rfl
    | handshake | ping | read => exact ⟨0,rfl⟩
  | exitCheck => exact ⟨0,rfl⟩
  | flush next =>
    refine ⟨0,?_⟩
    simp only [callStep]
    split
    · rfl
    · rfl
    · rfl
  | await =>
    rw [hwait rfl]
    exact ⟨0,rfl⟩

end Calls

section Polls

/-- The poll functions that wait for their waker. -/
def Registers : PollCall→Prop
  | .shutdown _ => False
  | _ => True

/-- A `poll_read` that gets nothing, although there is no error and no end. -/
def EmptyRead (Q : Quiche σ ρ) (shared : Shared σ ω) : PollCall→Prop
  | .read stream cap => (Q.streamRecv shared.conn stream cap).1=.ok (0,false)
  | _ => False

/-- What a poll function does before it tries the lock. -/
inductive PollEntered (waker : ω) (shared : Shared σ ω) (call : PollCall) :
    Shared σ ω×Caller ω→Prop where
  /-- It has nothing left to read. -/
  | ready (reply : Except IoError ℕ) : PollEntered waker shared call (shared,.ready reply)
  /-- Its waker is registered. -/
  | registered (wakers : List ω) (mem : ∀ v,v∈wakers ↔ v∈shared.pollWakers ∨ v=waker) :
      PollEntered waker shared call
        ({shared with pollWakers := wakers},.poll call .tryLock false)
  /-- It does not register. -/
  | unregistered (none : ¬Registers call) :
      PollEntered waker shared call (shared,.poll call .tryLock false)

variable [DecidableEq ω]

/-- Registering a waker adds it, once. -/
theorem registerPollWaker_mem (w : ω) (shared : Shared σ ω) :
    ∃ wakers,registerPollWaker w shared={shared with pollWakers := wakers} ∧
      ∀ v,v∈wakers ↔ v∈shared.pollWakers ∨ v=w := by
  by_cases hmem : w∈shared.pollWakers
  · refine ⟨shared.pollWakers,if_pos hmem,fun v => ⟨Or.inl,?_⟩⟩
    rintro (hv|rfl)
    · exact hv
    · exact hmem
  · refine ⟨shared.pollWakers++[w],if_neg hmem,fun v => ?_⟩
    rw [List.mem_append,List.mem_singleton]

/-- A poll function is ready, or registers its waker if it will wait. -/
theorem pollEnter_entered (w : ω) (shared : Shared σ ω) (call : PollCall) :
    PollEntered w shared call (pollEnter w shared call) := by
  obtain ⟨wakers,hregister,hmem⟩ := registerPollWaker_mem w shared
  cases call with
  | read stream cap =>
    unfold pollEnter
    dsimp only
    split_ifs
    · exact .ready _
    · rw [hregister]
      exact .registered wakers hmem
  | write stream data =>
    unfold pollEnter
    dsimp only
    rw [hregister]
    exact .registered wakers hmem
  | shutdown stream => exact .unregistered id

omit [DecidableEq ω]

/-- `poll_read` under the lock, which waits only while the driver is there, or on an empty read. -/
theorem pollReadCheck_cases (shared : Shared σ ω) (stream cap : ℕ) :
    Frame shared (pollReadCheck Q stream cap shared).2 ∧
      ((pollReadCheck Q stream cap shared).1=none →
        shared.driverExited=false ∨ EmptyRead Q shared (.read stream cap)) := by
  unfold pollReadCheck EmptyRead
  dsimp only
  split
  next n fin conn hrecv =>
    split_ifs with hempty hfin
    · exact absurd hfin (ne_true_of_eq_false hempty.2)
    · refine ⟨⟨rfl,rfl,rfl⟩,fun _ => .inr ?_⟩
      rw [hrecv,hempty.1,hempty.2]
    · exact ⟨⟨rfl,rfl,rfl⟩,fun h => by cases h⟩
    · exact ⟨⟨rfl,rfl,rfl⟩,fun h => by cases h⟩
  next conn hrecv =>
    split_ifs with hfinished hgone
    · exact ⟨⟨rfl,rfl,rfl⟩,fun h => by cases h⟩
    · exact ⟨⟨rfl,rfl,rfl⟩,fun h => by cases h⟩
    · exact ⟨⟨rfl,rfl,rfl⟩,fun _ => .inl (Bool.or_eq_false_iff.mp (eq_false_of_ne_true hgone)).2⟩
  next e conn hrecv => exact ⟨⟨rfl,rfl,rfl⟩,fun h => by cases h⟩

/-- `poll_write` under the lock, which waits only while the driver is there. -/
theorem pollWriteCheck_cases {shared shared' : Shared σ ω} {stream : ℕ} {data : Bytes}
    {ready : List Ready} {reply : Option (Except IoError ℕ)}
    (h : pollWriteCheck Q stream data ready shared=some (reply,shared')) :
    Frame shared shared' ∧ (reply=none → shared.driverExited=false) := by
  have hblocked : ∀ conn,(if shared.driverExited then
      (some (.error .connectionAborted),{shared with conn := conn})
      else (none,{shared with conn := conn}))=(reply,shared') →
      Frame shared shared' ∧ (reply=none → shared.driverExited=false) := by
    intro conn hresult
    split_ifs at hresult with hexited
    · cases hresult
      exact ⟨⟨rfl,rfl,rfl⟩,fun h => by cases h⟩
    · cases hresult
      exact ⟨⟨rfl,rfl,rfl⟩,fun _ => eq_false_of_ne_true hexited⟩
  unfold pollWriteCheck at h
  dsimp only at h
  split at h
  · exact hblocked _ (Option.some.inj h)
  · exact hblocked _ (Option.some.inj h)
  · split at h
    · cases h
    · cases h
      exact ⟨⟨rfl,rfl,rfl⟩,fun h => by cases h⟩
    · cases h
      exact ⟨⟨rfl,rfl,rfl⟩,fun h => by cases h⟩
  · cases h
    exact ⟨⟨rfl,rfl,rfl⟩,fun h => by cases h⟩

/-- `poll_shutdown` under the lock. -/
theorem pollShutdownCheck_frame {shared shared' : Shared σ ω} {stream : ℕ} {ready : List Ready}
    {reply : Except IoError ℕ}
    (h : pollShutdownCheck Q stream ready shared=some (reply,shared')) : Frame shared shared' := by
  have hfinish := @finishStream_frame σ ρ ω Q shared stream
  unfold pollShutdownCheck at h
  split at h
  next e finished hresult =>
    cases h
    rw [hresult] at hfinish
    exact hfinish
  next finished hresult =>
    rw [hresult] at hfinish
    split at h
    · cases h
    · cases h
      exact hfinish.trans (frame_conn finished _)

/-- A poll function under the lock is ready or pending; the latter only while
the driver is there, or on an empty read. -/
theorem pollCheck_cases {shared shared' : Shared σ ω} {woken : Bool} {ready : List Ready}
    {call : PollCall} {caller : Caller ω}
    (h : pollCheck Q shared woken ready call=some (shared',caller)) :
    Frame shared shared' ∧ ((∃ reply,caller=.ready reply) ∨
      (Registers call ∧ caller=.poll call .pending woken ∧
        (shared.driverExited=false ∨ EmptyRead Q shared call))) := by
  cases call with
  | read stream cap =>
    obtain ⟨hframe,hpending⟩ := @pollReadCheck_cases σ ρ ω Q shared stream cap
    cases hcheck : pollReadCheck Q stream cap shared with
    | mk reply checked =>
      rw [hcheck] at hframe hpending
      simp only [pollCheck,hcheck,Option.some.injEq] at h
      cases h
      refine ⟨hframe,?_⟩
      cases reply with
      | none => exact .inr ⟨trivial,rfl,hpending rfl⟩
      | some reply => exact .inl ⟨reply,rfl⟩
  | write stream data =>
    obtain ⟨⟨reply,checked⟩,hcheck,hresult⟩ := Option.map_eq_some_iff.mp h
    cases hresult
    obtain ⟨hframe,hpending⟩ := pollWriteCheck_cases hcheck
    refine ⟨hframe,?_⟩
    cases reply with
    | none => exact .inr ⟨trivial,rfl,.inl (hpending rfl)⟩
    | some reply => exact .inl ⟨reply,rfl⟩
  | shutdown stream =>
    obtain ⟨⟨reply,checked⟩,hcheck,hresult⟩ := Option.map_eq_some_iff.mp h
    cases hresult
    exact ⟨pollShutdownCheck_frame hcheck,.inl ⟨reply,rfl⟩⟩

/-- Some course of the packets ends a flush without waiting. -/
theorem flushReady_enabled (conn : σ) : ∃ ready,(flushReady Q ready conn).isSome=true := by
  cases hsend : Q.send conn with
  | mk result sent =>
    cases result with
    | ok packet =>
      refine ⟨[.paced],?_⟩
      unfold flushReady
      rw [hsend]
      rfl
    | error e =>
      refine ⟨[],?_⟩
      cases e with
      | done | other =>
        unfold flushReady
        rw [hsend]
        rfl

/-- A poll function that gets the lock goes on. -/
theorem pollCheck_enabled (shared : Shared σ ω) (woken : Bool) (call : PollCall) :
    ∃ ready,(pollCheck Q shared woken ready call).isSome=true := by
  cases call with
  | read stream cap => exact ⟨[],rfl⟩
  | write stream data =>
    obtain ⟨ready,hready⟩ := @flushReady_enabled σ ρ Q (Q.streamSend shared.conn stream data false).2
    refine ⟨ready,?_⟩
    obtain ⟨⟨flushed,conn⟩,hflush⟩ := Option.isSome_iff_exists.mp hready
    simp only [pollCheck,Option.isSome_map]
    unfold pollWriteCheck
    dsimp only
    split
    · rfl
    · rfl
    next n conn' hpositive hsend =>
      rw [hsend] at hflush
      dsimp only at hflush
      rw [hflush]
      cases flushed with
      | ok | error => rfl
    · rfl
  | shutdown stream =>
    obtain ⟨ready,hready⟩ := @flushReady_enabled σ ρ Q (finishStream Q stream shared).2.conn
    refine ⟨ready,?_⟩
    obtain ⟨flushed,hflush⟩ := Option.isSome_iff_exists.mp hready
    simp only [pollCheck,Option.isSome_map]
    unfold pollShutdownCheck
    split
    · rfl
    next finished hfinish =>
      rw [hfinish] at hflush
      dsimp only at hflush
      rw [hflush]
      rfl

end Polls

section Moves

/-- The driver is past the exit flag. -/
def exiting : DriverPc ρ ω→Bool
  | .notify _ .finish => true
  | .finished => true
  | _ => false

/-- The wakers that the driver has taken and not woken yet. -/
def driverTaken : DriverPc ρ ω→List ω
  | .notify (.wake taken) _ => taken
  | _ => []

/-- The wakers that a caller has taken and not woken yet. -/
def callerTaken : Caller ω→List ω
  | .closing (.notify (.wake taken)) => taken
  | _ => []

variable [DecidableEq ω]

/-- What a step of the driver does. -/
inductive DriverMove (waker : ι→ω) (before : State σ ρ ω ι) : State σ ρ ω ι→Prop where
  /-- It uses the connection and goes on. -/
  | moved (conn : σ) (driver : DriverPc ρ ω) (running : exiting before.driver=false)
      (running' : exiting driver=false) (none : driverTaken before.driver=[])
      (none' : driverTaken driver=[]) (uncut : driver≠.cancelled) :
      DriverMove waker before ((before.setConn conn).goto driver)
  /-- It notifies. -/
  | notified (pc : NotifyPc ω) (next : AfterNotify) {pc' : NotifyPc ω} {state : State σ ρ ω ι}
      (under : before.driver=.notify pc next)
      (now : notifyStep waker before pc=(some pc',state)) :
      DriverMove waker before (state.goto (.notify pc' next))
  /-- It is through with notifying. -/
  | resumed (next : AfterNotify) (under : before.driver=.notify (.wake []) next) :
      DriverMove waker before (before.goto next.driver)
  /-- It sets the exit flag. -/
  | exits (under : before.driver=.exit) :
      DriverMove waker before
        ({before with shared := {before.shared with driverExited := true}}.goto
          (.notify .waiters .finish))

/-- Every step of the driver is one of these. -/
theorem driverStep_moves {before after : State σ ρ ω ι} {turn : Turn ρ}
    (h : driverStep Q waker before turn=some after) : DriverMove waker before after := by
  have hmoved : ∀ conn driver,exiting before.driver=false → exiting driver=false →
      driverTaken before.driver=[] → driverTaken driver=[] → driver≠.cancelled →
      (before.setConn conn).goto driver=after → DriverMove waker before after := by
    rintro conn driver hrunning hrunning' hnone hnone' huncut rfl
    exact .moved conn driver hrunning hrunning' hnone hnone' huncut
  unfold driverStep at h
  cases hdriver : before.driver with
  | spawned =>
    rw [hdriver] at h hmoved
    exact hmoved before.shared.conn .head rfl rfl rfl rfl nofun (Option.some.inj h)
  | head =>
    rw [hdriver] at h hmoved
    refine hmoved before.shared.conn _ rfl ?_ rfl ?_ ?_ (Option.some.inj h)
    · split_ifs <;> rfl
    · split_ifs <;> rfl
    · split_ifs <;> exact nofun
  | flush keepalive =>
    rw [hdriver] at h hmoved
    dsimp only at h
    split at h
    next conn hflush =>
      have hsame : (before.setConn conn).goto (.flush keepalive)=before.setConn conn := by
        rw [←hdriver]
        rfl
      exact hmoved conn (.flush keepalive) rfl rfl rfl rfl nofun (hsame.trans (Option.some.inj h))
    next conn hflush =>
      refine hmoved conn _ rfl ?_ rfl ?_ ?_ (Option.some.inj h)
      · split_ifs <;> rfl
      · split_ifs <;> rfl
      · split_ifs <;> exact nofun
    next e conn hflush => exact hmoved conn .exit rfl rfl rfl rfl nofun (Option.some.inj h)
  | closedCheck =>
    rw [hdriver] at h hmoved
    refine hmoved before.shared.conn _ rfl ?_ rfl ?_ ?_ (Option.some.inj h)
    · split_ifs <;> rfl
    · split_ifs <;> rfl
    · split_ifs <;> exact nofun
  | timeout =>
    rw [hdriver] at h hmoved
    exact hmoved before.shared.conn .select rfl rfl rfl rfl nofun (Option.some.inj h)
  | select =>
    rw [hdriver] at h hmoved
    dsimp only at h
    split at h
    · exact hmoved before.shared.conn (.packet _) rfl rfl rfl rfl nofun (Option.some.inj h)
    · exact hmoved before.shared.conn .exit rfl rfl rfl rfl nofun (Option.some.inj h)
    · exact hmoved before.shared.conn .expired rfl rfl rfl rfl nofun (Option.some.inj h)
    · exact hmoved before.shared.conn .keepalive rfl rfl rfl rfl nofun (Option.some.inj h)
  | packet packet =>
    rw [hdriver] at h hmoved
    dsimp only at h
    split at h
    · exact hmoved _ (.notify .waiters .loop) rfl rfl rfl rfl nofun (Option.some.inj h)
    · exact hmoved _ (.notify .waiters .loop) rfl rfl rfl rfl nofun (Option.some.inj h)
    · exact hmoved _ .exit rfl rfl rfl rfl nofun (Option.some.inj h)
  | expired =>
    rw [hdriver] at h hmoved
    exact hmoved _ (.notify .waiters .loop) rfl rfl rfl rfl nofun (Option.some.inj h)
  | keepalive =>
    rw [hdriver] at h hmoved
    dsimp only at h
    split_ifs at h with hestablished
    · split at h
      · exact hmoved _ (.flush true) rfl rfl rfl rfl nofun (Option.some.inj h)
      · exact hmoved _ .exit rfl rfl rfl rfl nofun (Option.some.inj h)
    · exact hmoved before.shared.conn (.flush true) rfl rfl rfl rfl nofun (Option.some.inj h)
  | notify pc next =>
    rw [hdriver] at h
    dsimp only at h
    split at h
    next pc' state hnotify =>
      obtain rfl := Option.some.inj h
      exact .notified pc next hdriver hnotify
    next state hnotify =>
      obtain rfl := Option.some.inj h
      cases pc with
      | waiters | take => cases hnotify
      | wake taken =>
        cases taken with
        | nil =>
          cases hnotify
          exact .resumed next hdriver
        | cons w rest => cases hnotify
  | exit =>
    rw [hdriver] at h
    obtain rfl := Option.some.inj h
    exact .exits hdriver
  | finished | cancelled =>
    rw [hdriver] at h
    cases h

variable [DecidableEq ι]

/-- Where a close goes while it does not notify. -/
def Closes (caller : Caller ω) : Prop :=
  caller=.closing .flush ∨ caller=.closing .store ∨ ∃ reply,caller=.returned reply

/-- What a step of `close_with_error` does. -/
inductive CloseMove (waker : ι→ω) (before : State σ ρ ω ι) (i : ι) :
    ClosePc ω→State σ ρ ω ι→Prop where
  /-- It uses the connection and goes on. -/
  | moved {pc : ClosePc ω} (conn : σ) (caller : Caller ω) (none : callerTaken (.closing pc)=[])
      (goes : Closes caller) : CloseMove waker before i pc ((before.setConn conn).setCaller i caller)
  /-- It sets the shutdown flag. -/
  | stored : CloseMove waker before i .store
      ({before with shared := {before.shared with shutdown := true}}.setCaller i
        (.closing (.notify .waiters)))
  /-- It notifies. -/
  | notified (pc : NotifyPc ω) {pc' : NotifyPc ω} {state : State σ ρ ω ι}
      (now : notifyStep waker before pc=(some pc',state)) :
      CloseMove waker before i (.notify pc) (state.setCaller i (.closing (.notify pc')))
  /-- It is through with notifying. -/
  | returned : CloseMove waker before i (.notify (.wake []))
      (before.setCaller i (.returned (.ok .unit)))

/-- Every step of `close_with_error` is one of these. -/
theorem closeStep_moves {before : State σ ρ ω ι} {i : ι} {pc : ClosePc ω} (turn : Turn ρ)
    (under : before.callers i=.closing pc) :
    CloseMove waker before i pc (closeStep Q waker before i turn pc) := by
  cases pc with
  | enter errorCode reason =>
    unfold closeStep
    dsimp only
    split_ifs
    · exact .moved before.shared.conn _ rfl (.inr (.inr ⟨_,rfl⟩))
    · exact .moved _ _ rfl (.inl rfl)
  | flush =>
    unfold closeStep
    dsimp only
    split
    next conn hflush =>
      have hsame : (before.setConn conn).setCaller i (.closing .flush)=before.setConn conn := by
        rw [←under]
        exact congrArg (fun callers => {before.setConn conn with callers := callers})
          (Function.update_eq_self i before.callers)
      rw [←hsame]
      exact .moved conn _ rfl (.inl rfl)
    next conn hflush => exact .moved conn _ rfl (.inr (.inl rfl))
    next e conn hflush => exact .moved conn _ rfl (.inr (.inr ⟨_,rfl⟩))
  | store => exact .stored
  | notify pc =>
    unfold closeStep
    dsimp only
    split
    next pc' state hnotify => exact .notified pc hnotify
    next state hnotify =>
      cases pc with
      | waiters | take => cases hnotify
      | wake taken =>
        cases taken with
        | nil =>
          cases hnotify
          exact .returned
        | cons w rest => cases hnotify

/-- What can happen to a connection, and what comes of it. -/
inductive Move (Q : Quiche σ ρ) (waker : ι→ω) (before : State σ ρ ω ι) :
    Label ρ ι→State σ ρ ω ι→Prop where
  /-- The driver takes a step. -/
  | driver (turn : Turn ρ) {after : State σ ρ ω ι} (move : DriverMove waker before after) :
      Move Q waker before (.driver turn) after
  /-- A call takes a step. -/
  | call (i : ι) (turn : Turn ρ) {call : Call} {pc : Pc} {fired : Bool} {shared : Shared σ ω}
      {caller : Caller ω} (under : before.callers i=.call call pc fired)
      (frame : Frame before.shared shared)
      (move : CallMove Q before.shared call pc fired caller) :
      Move Q waker before (.caller i turn) (before.after i (shared,caller))
  /-- A close takes a step. -/
  | close (i : ι) (turn : Turn ρ) {pc : ClosePc ω} {after : State σ ρ ω ι}
      (under : before.callers i=.closing pc) (move : CloseMove waker before i pc after) :
      Move Q waker before (.caller i turn) after
  /-- A poll function starts. -/
  | polled (i : ι) (turn : Turn ρ) {call : PollCall} {woken : Bool}
      {result : Shared σ ω×Caller ω} (under : before.callers i=.poll call .enter woken)
      (entered : PollEntered (waker i) before.shared call result) :
      Move Q waker before (.caller i turn) (before.after i result)
  /-- A poll function finds the lock taken. -/
  | contended (i : ι) (turn : Turn ρ) {call : PollCall} {woken : Bool}
      (under : before.callers i=.poll call .tryLock woken) (taken : turn.contended=true) :
      Move Q waker before (.caller i turn)
        ((before.setCaller i (.poll call .pending woken)).wakeWaker waker (waker i))
  /-- A poll function is ready. -/
  | ready (i : ι) (turn : Turn ρ) {call : PollCall} {woken : Bool} {shared : Shared σ ω}
      (reply : Except IoError ℕ) (under : before.callers i=.poll call .tryLock woken)
      (frame : Frame before.shared shared) :
      Move Q waker before (.caller i turn) (before.after i (shared,.ready reply))
  /-- A poll function is pending. -/
  | pending (i : ι) (turn : Turn ρ) {call : PollCall} {woken : Bool} {shared : Shared σ ω}
      (uncontended : turn.contended=false) (registers : Registers call)
      (under : before.callers i=.poll call .tryLock woken) (frame : Frame before.shared shared)
      (waits : before.shared.driverExited=false ∨ EmptyRead Q before.shared call) :
      Move Q waker before (.caller i turn) (before.after i (shared,.poll call .pending woken))
  /-- A pending poll function is called again. -/
  | again (i : ι) (turn : Turn ρ) {call : PollCall} {woken : Bool}
      (under : before.callers i=.poll call .pending woken) :
      Move Q waker before (.caller i turn) (before.setCaller i (.poll call .enter woken))
  /-- A caller starts an operation. -/
  | started (i : ι) (op : Op) (settled : (before.callers i).settled=true)
      (held : (op.caller : Caller ω).borrows=true → before.handle=.held) :
      Move Q waker before (.start i op) (before.setCaller i op.caller)
  /-- A caller gives up. -/
  | abandoned (i : ι) (abandonable : (before.callers i).abandonable=true) :
      Move Q waker before (.abandon i) (before.setCaller i .idle)
  /-- An operation that does not wait. -/
  | touched (touch : Touch) {shared : Shared σ ω} (frame : Frame before.shared shared) :
      Move Q waker before (.touch touch) {before with shared := shared}
  /-- The connection is dropped. -/
  | dropped (held : before.handle=.held) (unborrowed : ∀ i,(before.callers i).borrows=false) :
      Move Q waker before .dropConnection
        {before with shared := {before.shared with shutdown := true},handle := .dropping}
  /-- The driver is aborted. -/
  | aborted (dropping : before.handle=.dropping) :
      Move Q waker before .abort {before with handle := .dropped}
  /-- The abort takes effect. -/
  | cancelled (gone : before.handle=.dropped) (awaits : before.driver.awaits=true) :
      Move Q waker before .cancel (before.goto .cancelled)

/-- Every step of a connection is one of these moves. -/
theorem step_move {before after : State σ ρ ω ι} {label : Label ρ ι}
    (h : Step Q role waker before label after) : Move Q waker before label after := by
  obtain ⟨hnow,hunborrowed⟩ := h
  cases label with
  | driver turn => exact .driver turn (driverStep_moves hnow)
  | caller i turn =>
    unfold step callerStep at hnow
    dsimp only at hnow
    split at hnow
    next call pc fired under =>
      obtain ⟨⟨shared,caller⟩,hstep,rfl⟩ := Option.map_eq_some_iff.mp hnow
      obtain ⟨hframe,hmove⟩ := callStep_moves hstep
      exact .call i turn under hframe hmove
    next pc under =>
      obtain rfl := Option.some.inj hnow
      exact .close i turn under (closeStep_moves turn under)
    next call pc woken under =>
      cases pc with
      | enter =>
        obtain rfl := Option.some.inj hnow
        exact .polled i turn under (pollEnter_entered _ _ _)
      | tryLock =>
        unfold pollStep at hnow
        dsimp only at hnow
        split_ifs at hnow with hcontended
        · obtain rfl := Option.some.inj hnow
          exact .contended i turn under hcontended
        · obtain ⟨⟨shared,caller⟩,hcheck,rfl⟩ := Option.map_eq_some_iff.mp hnow
          obtain ⟨hframe,⟨reply,rfl⟩|⟨hregisters,rfl,hwaits⟩⟩ := pollCheck_cases hcheck
          · exact .ready i turn reply under hframe
          · exact .pending i turn (eq_false_of_ne_true hcontended) hregisters under hframe hwaits
      | pending =>
        obtain rfl := Option.some.inj hnow
        exact .again i turn under
    next => cases hnow
  | start i op =>
    unfold step at hnow
    dsimp only at hnow
    split_ifs at hnow with hstart
    obtain rfl := Option.some.inj hnow
    exact .started i op hstart.1 hstart.2
  | abandon i =>
    unfold step at hnow
    dsimp only at hnow
    split_ifs at hnow with habandonable
    obtain rfl := Option.some.inj hnow
    exact .abandoned i habandonable
  | touch touch =>
    obtain rfl := Option.some.inj hnow
    exact .touched touch (touchStep_frame _ _)
  | dropConnection =>
    unfold step at hnow
    dsimp only at hnow
    split_ifs at hnow with hheld
    obtain rfl := Option.some.inj hnow
    exact .dropped hheld (hunborrowed rfl)
  | abort =>
    unfold step at hnow
    dsimp only at hnow
    split_ifs at hnow with hdropping
    obtain rfl := Option.some.inj hnow
    exact .aborted hdropping
  | cancel =>
    unfold step at hnow
    dsimp only at hnow
    split_ifs at hnow with hcancel
    obtain rfl := Option.some.inj hnow
    exact .cancelled hcancel.1 hcancel.2

end Moves

end WispersConnect.ConnectionSteps
