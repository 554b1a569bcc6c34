import WispersConnect.QuicConnection

/-!
# What a flush without waiting does with a datagram it cannot send

`flush_ready` takes a datagram out of quiche before it looks whether the datagram
is due and whether the transport has room. Where it stops for one of the two, the
datagram it holds goes with its buffer: it is neither sent nor left for the
driver's flush.
-/

namespace WispersConnect.ReadyFlush

open QuicConnection

/-- A datagram that quiche has ready, and when it is to be sent. -/
structure Datagram (ρ : Type) where
  /-- What is sent. -/
  packet : ρ
  /-- `send_info.at`, in nanoseconds. -/
  sendAt : ℕ

/-- One millisecond. -/
def pacingSlack : ℕ := 1000000

/-- A call of `flush_ready`, over the datagrams it goes through. -/
structure FlushReport (ρ : Type) where
  /-- What it returns. -/
  result : Except QuicError Unit
  /-- The datagrams that `conn.send` returned. -/
  taken : List (Datagram ρ)
  /-- The datagrams that the transport took. -/
  accepted : List (Datagram ρ)
  /-- The datagrams that quiche still has. -/
  left : List (Datagram ρ)

/-- The surroundings of a call, by the number of datagrams sent before. -/
structure FlushTurns where
  /-- `Instant::now`. -/
  now : ℕ→ℕ
  /-- What the transport does. -/
  transport : ℕ→Transport
  /-- What `conn.send` returns once nothing is ready. -/
  idle : QuicheError

/-- The datagram may be sent now. -/
def Due (now : ℕ) {ρ : Type} (datagram : Datagram ρ) : Prop := datagram.sendAt ≤ now+pacingSlack

instance (now : ℕ) {ρ : Type} (datagram : Datagram ρ) : Decidable (Due now datagram) :=
  inferInstanceAs (Decidable (_ ≤ _))

section Flush

variable {ρ : Type} (turns : FlushTurns)

/-- `flush_ready` from its turn `k` on. -/
def flushReady : ℕ→List (Datagram ρ)→FlushReport ρ
  | _,[] =>
    match turns.idle with
    | .done => ⟨.ok (),[],[],[]⟩
    | e => ⟨.error (.quic e),[],[],[]⟩
  | k,datagram::queue =>
    if Due (turns.now k) datagram then
      match turns.transport k with
      | .sent =>
        let rest := flushReady (k+1) queue
        {rest with taken := datagram::rest.taken,accepted := datagram::rest.accepted}
      | .full => ⟨.ok (),[datagram],[],queue⟩
      | .failed => ⟨.error .ice,[datagram],[],queue⟩
    else ⟨.ok (),[datagram],[],queue⟩

/-- What the call meets at each datagram it takes. -/
def meets : ℕ→List (Datagram ρ)→List Ready
  | _,[] => []
  | k,datagram::queue =>
    if Due (turns.now k) datagram then
      match turns.transport k with
      | .sent => .offered .sent::meets (k+1) queue
      | transport => [.offered transport]
    else [.paced]

/-- From turn `n` on, the call gets to datagram `k`: all before are due, and the transport
takes them. -/
def Reaches (n : ℕ) (queue : List (Datagram ρ)) (k : ℕ) : Prop :=
  ∀ j datagram,j<k → queue[j]?=some datagram →
    Due (turns.now (n+j)) datagram ∧ turns.transport (n+j)=.sent

/-- No datagram that the call gets to is paced for later or refused for want of room. -/
def NoneHeldBack (n : ℕ) (queue : List (Datagram ρ)) : Prop :=
  ∀ k datagram,queue[k]?=some datagram → Reaches turns n queue k →
    Due (turns.now (n+k)) datagram ∧ turns.transport (n+k)≠.full

/-- Every datagram taken was sent, and the others are left in their order. -/
structure LosesNothing (queue : List (Datagram ρ)) (report : FlushReport ρ) : Prop where
  /-- What was taken was sent. -/
  sent : report.taken=report.accepted
  /-- The rest is left. -/
  kept : queue=report.accepted++report.left

/-- Getting past a datagram, and then on. -/
theorem reaches_cons {n k : ℕ} {datagram : Datagram ρ} {queue : List (Datagram ρ)} :
    Reaches turns n (datagram::queue) (k+1) ↔
      (Due (turns.now n) datagram ∧ turns.transport n=.sent) ∧ Reaches turns (n+1) queue k := by
  constructor
  · intro h
    refine ⟨h 0 datagram (by omega) rfl,fun j found hj hfound => ?_⟩
    have hnext := h (j+1) found (by omega) hfound
    rwa [show n+(j+1)=n+1+j by omega] at hnext
  · rintro ⟨hfirst,hrest⟩ j found hj hfound
    cases j with
    | zero =>
      obtain rfl := Option.some.inj hfound
      exact hfirst
    | succ j =>
      rw [show n+(j+1)=n+1+j by omega]
      exact hrest j found (by omega) hfound

/-- Nothing is held back of a queue when its first datagram is not, and then of its rest. -/
theorem noneHeldBack_cons {n : ℕ} {datagram : Datagram ρ} {queue : List (Datagram ρ)} :
    NoneHeldBack turns n (datagram::queue) ↔
      Due (turns.now n) datagram ∧ turns.transport n≠.full ∧
        (turns.transport n=.sent → NoneHeldBack turns (n+1) queue) := by
  constructor
  · intro h
    have hfirst := h 0 datagram rfl (fun j _ hj => absurd hj (by omega))
    refine ⟨hfirst.1,hfirst.2,fun hsent k found hfound hreach => ?_⟩
    have hnext := h (k+1) found hfound ((reaches_cons turns).mpr ⟨⟨hfirst.1,hsent⟩,hreach⟩)
    rwa [show n+(k+1)=n+1+k by omega] at hnext
  · rintro ⟨hdue,hroom,hrest⟩ k found hfound hreach
    cases k with
    | zero =>
      obtain rfl := Option.some.inj hfound
      exact ⟨hdue,hroom⟩
    | succ k =>
      obtain ⟨⟨_,hsent⟩,hnext⟩ := (reaches_cons turns).mp hreach
      rw [show n+(k+1)=n+1+k by omega]
      exact hrest hsent k found hfound hnext

/-- A call of `flush_ready` that returns without an error loses nothing if and only if no
datagram that it gets to is held back. -/
theorem flushReady_losesNothing (n : ℕ) (queue : List (Datagram ρ)) :
    ((flushReady turns n queue).result=.ok () → LosesNothing queue (flushReady turns n queue)) ↔
      NoneHeldBack turns n queue := by
  induction queue generalizing n with
  | nil =>
    have hlost : LosesNothing [] (flushReady turns n ([] : List (Datagram ρ))) := by
      unfold flushReady
      split <;> exact ⟨rfl,rfl⟩
    exact iff_of_true (fun _ => hlost) (fun k found hfound => by cases hfound)
  | cons datagram queue ih =>
    rw [noneHeldBack_cons,flushReady]
    by_cases hdue : Due (turns.now n) datagram
    · rw [if_pos hdue]
      cases htransport : turns.transport n with
      | sent =>
        simp only [hdue,ne_eq,reduceCtorEq,not_false_eq_true,true_and,forall_const,←ih (n+1)]
        refine forall_congr' fun _ => ⟨fun h => ?_,fun h => ?_⟩
        · exact ⟨(List.cons.inj h.sent).2,(List.cons.inj h.kept).2⟩
        · exact ⟨congrArg (datagram::·) h.sent,congrArg (datagram::·) h.kept⟩
      | full =>
        refine iff_of_false (fun h => ?_) (fun h => absurd rfl h.2.1)
        cases (h rfl).sent
      | failed =>
        refine iff_of_true (fun h => by cases h) ⟨hdue,by simp,fun h => by cases h⟩
    · rw [if_neg hdue]
      refine iff_of_false (fun h => ?_) (fun h => hdue h.1)
      cases (h rfl).sent

/-- A quiche connection that holds a queue of datagrams: `send` removes the first and returns
its packet, and returns an error of its own once the queue is empty. -/
structure SendsQueue {σ : Type} (Q : Quiche σ ρ) (queue : σ→List (Datagram ρ))
    (idle : QuicheError) : Prop where
  /-- Nothing is ready. -/
  empty : ∀ conn,queue conn=[] → ∃ conn',Q.send conn=(.error idle,conn') ∧ queue conn'=[]
  /-- A datagram is ready. -/
  next : ∀ conn datagram rest,queue conn=datagram::rest →
    ∃ conn',Q.send conn=(.ok datagram.packet,conn') ∧ queue conn'=rest

/-- Over the queue of a quiche connection, the call returns what it returns over quiche itself,
and leaves there what it leaves in the queue. -/
theorem flushReady_refines {σ : Type} {Q : Quiche σ ρ} {queue : σ→List (Datagram ρ)}
    (hqueue : SendsQueue Q queue turns.idle) (n : ℕ) (conn : σ) :
    ∃ conn',QuicConnection.flushReady Q (meets turns n (queue conn)) conn=
        some ((flushReady turns n (queue conn)).result,conn') ∧
      queue conn'=(flushReady turns n (queue conn)).left := by
  generalize hready : queue conn=ready
  induction ready generalizing n conn with
  | nil =>
    obtain ⟨conn',hsend,hleft⟩ := hqueue.empty conn hready
    unfold QuicConnection.flushReady flushReady
    rw [hsend,meets]
    cases turns.idle with
    | done => exact ⟨conn',rfl,hleft⟩
    | other code => exact ⟨conn',rfl,hleft⟩
  | cons datagram rest ih =>
    obtain ⟨conn',hsend,hleft⟩ := hqueue.next conn datagram rest hready
    unfold QuicConnection.flushReady flushReady
    rw [hsend,meets]
    by_cases hdue : Due (turns.now n) datagram
    · rw [if_pos hdue,if_pos hdue]
      cases turns.transport n with
      | sent => exact ih (n+1) conn' hleft
      | full => exact ⟨conn',rfl,hleft⟩
      | failed => exact ⟨conn',rfl,hleft⟩
    · rw [if_neg hdue,if_neg hdue]
      exact ⟨conn',rfl,hleft⟩

end Flush

/-- A datagram paced two milliseconds ahead, behind one that is due, is taken and lost. -/
theorem flushReady_loses_paced :
    let turns : FlushTurns := ⟨fun _ => 0,fun _ => .sent,.done⟩
    let queue : List (Datagram ℕ) := [⟨1,0⟩,⟨2,2000000⟩]
    (flushReady turns 0 queue).result=.ok () ∧ ¬LosesNothing queue (flushReady turns 0 queue) := by
  refine ⟨rfl,fun h => ?_⟩
  have hlengths := congrArg List.length h.sent
  cases hlengths

end WispersConnect.ReadyFlush
