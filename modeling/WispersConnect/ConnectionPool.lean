import WispersConnect.PartialMaps
import WispersConnect.Runs

/-!
# The proxy's connection pool

A pooled connection sits in a cell that its entry and the calls of `open_stream`
share; the streams that these calls return do not hold it. A sweep removes the
entries that no call has asked for within the idle timeout, whether their streams
are still relayed or not, and the last holder to go drops the connection. A sweep
does no harm exactly when the node of every connection in use was asked for lately.
-/

namespace WispersConnect.ConnectionPool

open PartialMaps Runs

/-- Nanoseconds of a monotonic clock. -/
abbrev Instant := ℕ

/-- `IDLE_TIMEOUT`. -/
def idleTimeout : Instant := 60*1000000000

/-- A `OnceCell` for a connection. -/
inductive Cell where
  /-- Nothing is there yet. -/
  | empty
  /-- A task has the permit to fill it. -/
  | connecting (task : ℕ)
  /-- It has its connection. -/
  | full (conn : ℕ)

/-- A pool entry: its cell, and when it was last asked for. -/
structure PooledEntry where
  /-- The shared cell. -/
  cell : ℕ
  /-- When `open_stream` last looked it up. -/
  lastUsed : Instant

/-- Where a task of the proxy stands. -/
inductive Task where
  /-- It has no stream and asks for none. -/
  | idle
  /-- At the pool's lock, with so many attempts left after this one. -/
  | locking (node : Int32) (left : ℕ)
  /-- It has the cell and waits for it. -/
  | waiting (node : Int32) (left cell : ℕ)
  /-- It has the cell's permit and connects. -/
  | connecting (node : Int32) (left cell : ℕ)
  /-- It has the connection and opens a stream. -/
  | opening (node : Int32) (left cell conn : ℕ)
  /-- Opening failed, and the entry is to be evicted. -/
  | evicting (node : Int32) (left cell conn : ℕ)
  /-- It got a stream and relays it. -/
  | relaying (conn : ℕ)

/-- The pool, the cells, the tasks and the clock. -/
structure PoolState where
  /-- The current time. -/
  now : Instant
  /-- The entries by node. -/
  connections : Int32→Option PooledEntry
  /-- The cells. -/
  cells : ℕ→Cell
  /-- The next new cell. -/
  nextCell : ℕ
  /-- The next new connection. -/
  nextConn : ℕ
  /-- The tasks. -/
  tasks : ℕ→Task
  /-- The connections that a sweep has closed as idle. -/
  swept : ℕ→Prop

/-- `ConnectionPool::new`. -/
def new : PoolState := ⟨0,fun _ => none,fun _ => .empty,0,0,fun _ => .idle,fun _ => False⟩

/-- What happens to the pool. -/
inductive PoolEvent where
  /-- A task calls `open_stream` for a node. -/
  | call (task : ℕ) (node : Int32)
  /-- It looks up the entry under the lock. -/
  | lock (task : ℕ)
  /-- It finds the cell filled, or takes the permit to fill it. -/
  | await (task : ℕ)
  /-- `connect_quic` succeeds. -/
  | connected (task : ℕ)
  /-- The connection opens a stream, which is returned. -/
  | opened (task : ℕ)
  /-- The connection fails to open a stream. -/
  | openFailed (task : ℕ)
  /-- The dead connection is evicted. -/
  | evict (task : ℕ)
  /-- A call fails to connect or is given up, or a relay ends. -/
  | leave (task : ℕ)
  /-- Time passes. -/
  | tick (elapsed : ℕ)
  /-- `cleanup_idle` runs. -/
  | sweep

section Model

variable (state : PoolState)

/-- The state with one task moved on. -/
def PoolState.move (task : ℕ) (pc : Task) : PoolState :=
  {state with tasks := Function.update state.tasks task pc}

/-- The state with one cell changed. -/
def PoolState.setCell (cell : ℕ) (value : Cell) : PoolState :=
  {state with cells := Function.update state.cells cell value}

/-- The locked part of `open_stream`: the entry is found or made, and its time renewed. -/
def lockEntry (task : ℕ) (node : Int32) (left : ℕ) : PoolState :=
  match state.connections node with
  | some entry =>
    {state.move task (.waiting node left entry.cell) with
      connections := Function.update state.connections node (some ⟨entry.cell,state.now⟩)}
  | none =>
    {state.move task (.waiting node left state.nextCell) with
      connections := Function.update state.connections node (some ⟨state.nextCell,state.now⟩)
      nextCell := state.nextCell+1}

/-- The eviction of a connection that failed to open a stream, unless its entry was replaced. -/
def evictEntry (node : Int32) (cell : ℕ) : PoolState :=
  match state.connections node with
  | some entry =>
    if entry.cell=cell then
      {state with connections := Function.update state.connections node none}
    else state
  | none => state

/-- Whether `cleanup_idle` retains an entry: it was used lately, or is still initialising. -/
def retained (entry : PooledEntry) : Bool :=
  decide (state.now-entry.lastUsed < idleTimeout) ||
    match state.cells entry.cell with
    | .full _ => false
    | .empty | .connecting _ => true

/-- `cleanup_idle`. -/
def cleanupIdle : PoolState :=
  {state with
    connections := fun node => (state.connections node).filter (retained state)
    swept := fun conn => state.swept conn ∨ ∃ node entry,state.connections node=some entry ∧
      retained state entry=false ∧ state.cells entry.cell=.full conn}

/-- A task ends; if it was connecting, the permit is free again. -/
def leaveTask (task : ℕ) : PoolState :=
  match state.tasks task with
  | .connecting _ _ cell => (state.setCell cell .empty).move task .idle
  | _ => state.move task .idle

/-- One step of the pool. -/
def step : PoolEvent→Option PoolState
  | .call task node =>
    match state.tasks task with
    | .idle => some (state.move task (.locking node 1))
    | _ => none
  | .lock task =>
    match state.tasks task with
    | .locking node left => some (lockEntry state task node left)
    | _ => none
  | .await task =>
    match state.tasks task with
    | .waiting node left cell =>
      match state.cells cell with
      | .full conn => some (state.move task (.opening node left cell conn))
      | .empty =>
        some ((state.setCell cell (.connecting task)).move task (.connecting node left cell))
      | .connecting _ => none
    | _ => none
  | .connected task =>
    match state.tasks task with
    | .connecting node left cell =>
      some {(state.setCell cell (.full state.nextConn)).move task
        (.opening node left cell state.nextConn) with nextConn := state.nextConn+1}
    | _ => none
  | .opened task =>
    match state.tasks task with
    | .opening _ _ _ conn => some (state.move task (.relaying conn))
    | _ => none
  | .openFailed task =>
    match state.tasks task with
    | .opening node left cell conn => some (state.move task (.evicting node left cell conn))
    | _ => none
  | .evict task =>
    match state.tasks task with
    | .evicting node left cell _ =>
      match left with
      | 0 => some ((evictEntry state node cell).move task .idle)
      | left+1 => some ((evictEntry state node cell).move task (.locking node left))
    | _ => none
  | .leave task => some (leaveTask state task)
  | .tick elapsed => some {state with now := state.now+elapsed}
  | .sweep => some (cleanupIdle state)

/-- Whether a task has a reference to a connection. -/
def Task.Holds (cells : ℕ→Cell) (conn : ℕ) : Task→Prop
  | .waiting _ _ cell => cells cell=.full conn
  | .connecting _ _ cell => cells cell=.full conn
  | .opening _ _ _ held => held=conn
  | .evicting _ _ _ held => held=conn
  | .idle | .locking _ _ | .relaying _ => False

/-- A connection is not dropped: a task holds it, or an entry's cell does. -/
def Held (conn : ℕ) : Prop :=
  (∃ task,(state.tasks task).Holds state.cells conn) ∨
    ∃ node entry,state.connections node=some entry ∧ state.cells entry.cell=.full conn

/-- No connection that a sweep has closed is dropped while a stream from it is relayed. -/
def Kept : Prop :=
  ∀ task conn,state.tasks task=.relaying conn → state.swept conn → Held state conn

/-- Whether a task waits to open a stream from a cell's connection. -/
def Task.Awaits (cell : ℕ) : Task→Prop
  | .waiting _ _ awaited => awaited=cell
  | .opening _ _ awaited _ => awaited=cell
  | .idle | .locking _ _ | .connecting _ _ _ | .evicting _ _ _ _ | .relaying _ => False

/-- A stream from a cell's connection is relayed, or about to be opened. -/
def InUse (cell conn : ℕ) : Prop :=
  ∃ task,state.tasks task=.relaying conn ∨ (state.tasks task).Awaits cell

/-- The node of each connection in use was asked for within the idle timeout. -/
def Quiet : Prop :=
  ∀ node entry conn,state.connections node=some entry → state.cells entry.cell=.full conn →
    InUse state entry.cell conn → state.now-entry.lastUsed < idleTimeout

/-- A sweep finds no connection in use that was not asked for lately. -/
def Spared : PoolEvent→Prop
  | .sweep => Quiet state
  | _ => True

end Model

/-- The runs of the pool. -/
abbrev PoolRun : PoolState→List PoolEvent→PoolState→Prop :=
  Run fun _ before event after => step before event=some after

/-- The runs of the pool in which every sweep spares the connections in use. -/
abbrev SparedRun : PoolState→List PoolEvent→PoolState→Prop :=
  Run fun _ before event after => step before event=some after ∧ Spared before event

section Soundness

/-- A task's cell is what the task takes it for. -/
def TaskSound (state : PoolState) (task : ℕ) : Task→Prop
  | .waiting _ _ cell => cell<state.nextCell
  | .connecting _ _ cell => state.cells cell=.connecting task
  | .opening _ _ cell conn => state.cells cell=.full conn
  | .idle | .locking _ _ | .evicting _ _ _ _ | .relaying _ => True

/-- Cells and connections are shared as intended. -/
structure Sound (state : PoolState) : Prop where
  /-- Each task's cell is what it takes it for. -/
  tasks : ∀ task,TaskSound state task (state.tasks task)
  /-- The entries' cells are made. -/
  made : ∀ node entry,state.connections node=some entry → entry.cell<state.nextCell
  /-- Each cell is in one entry only. -/
  owner : ∀ node node' entry entry',state.connections node=some entry →
    state.connections node'=some entry' → entry.cell=entry'.cell → node=node'
  /-- A cell that is not made is empty. -/
  unused : ∀ cell,state.nextCell ≤ cell → state.cells cell=.empty
  /-- The connections in cells are made. -/
  known : ∀ cell conn,state.cells cell=.full conn → conn<state.nextConn
  /-- Each connection is in one cell only. -/
  distinct : ∀ cell cell' conn,state.cells cell=.full conn → state.cells cell'=.full conn →
    cell=cell'

variable {state : PoolState}

/-- A cell that is not empty is made. -/
theorem Sound.cell_lt (h : Sound state) {cell : ℕ} (hcell : state.cells cell≠.empty) :
    cell<state.nextCell := by
  by_contra hle
  exact hcell (h.unused cell (Nat.le_of_not_lt hle))

/-- The pool starts sound. -/
theorem new_sound : Sound new where
  tasks := fun _ => trivial
  made := fun _ _ h => by cases h
  owner := fun _ _ _ _ h => by cases h
  unused := fun _ _ => rfl
  known := fun _ _ h => by cases h
  distinct := fun _ _ _ h => by cases h

/-- A task may move to where its cell is what it takes it for. -/
theorem Sound.move (h : Sound state) {task : ℕ} {pc : Task} (hpc : TaskSound state task pc) :
    Sound (state.move task pc) where
  tasks := by
    intro other
    show TaskSound state other (Function.update state.tasks task pc other)
    by_cases heq : other=task
    · subst heq
      rw [Function.update_self]
      exact hpc
    · rw [Function.update_of_ne heq]
      exact h.tasks other
  made := h.made
  owner := h.owner
  unused := h.unused
  known := h.known
  distinct := h.distinct

/-- A cell that is not full and that no task is filling may get what is not in another cell. -/
theorem Sound.setCell (h : Sound state) {cell nextConn : ℕ} {value : Cell}
    (hcell : cell<state.nextCell) (hempty : ∀ conn,state.cells cell≠.full conn)
    (hfree : ∀ task node left,state.tasks task≠.connecting node left cell)
    (hmore : state.nextConn ≤ nextConn)
    (hvalue : ∀ conn,value=.full conn → state.nextConn ≤ conn ∧ conn<nextConn) :
    Sound {state.setCell cell value with nextConn := nextConn} where
  tasks := by
    intro task
    have hold := h.tasks task
    cases hpc : state.tasks task with
    | connecting node left other =>
      rw [hpc] at hold
      have hne : other≠cell := fun heq => hfree task node left (heq▸hpc)
      show TaskSound _ task (state.tasks task)
      rw [hpc]
      exact (Function.update_of_ne hne _ _).trans hold
    | opening node left other conn =>
      rw [hpc] at hold
      have hne : other≠cell := fun heq => hempty conn (heq▸hold)
      show TaskSound _ task (state.tasks task)
      rw [hpc]
      exact (Function.update_of_ne hne _ _).trans hold
    | waiting node left other =>
      show TaskSound _ task (state.tasks task)
      rw [hpc] at hold ⊢
      exact hold
    | idle | locking | evicting | relaying =>
      show TaskSound _ task (state.tasks task)
      rw [hpc]
      trivial
  made := h.made
  owner := h.owner
  unused := by
    intro other hother
    exact (Function.update_of_ne (Nat.ne_of_gt (Nat.lt_of_lt_of_le hcell hother)) _ _).trans
      (h.unused other hother)
  known := by
    intro other conn hfull
    by_cases heq : other=cell
    · subst heq
      exact (hvalue conn ((Function.update_self _ _ _).symm.trans hfull)).2
    · have hold := (Function.update_of_ne heq _ _).symm.trans hfull
      exact Nat.lt_of_lt_of_le (h.known other conn hold) hmore
  distinct := by
    have hother : ∀ other conn,other≠cell →
        Function.update state.cells cell value other=.full conn → conn<state.nextConn :=
      fun other conn hne hfull => h.known other conn ((Function.update_of_ne hne _ _).symm.trans hfull)
    have hnew : ∀ conn,Function.update state.cells cell value cell=.full conn →
        state.nextConn ≤ conn :=
      fun conn hfull => (hvalue conn ((Function.update_self _ _ _).symm.trans hfull)).1
    intro a b conn ha hb
    by_cases hac : a=cell
    · by_cases hbc : b=cell
      · exact hac.trans hbc.symm
      · subst hac
        exact absurd (hother b conn hbc hb) (Nat.not_lt.mpr (hnew conn ha))
    · by_cases hbc : b=cell
      · subst hbc
        exact absurd (hother a conn hac ha) (Nat.not_lt.mpr (hnew conn hb))
      · exact h.distinct a b conn ((Function.update_of_ne hac _ _).symm.trans ha)
          ((Function.update_of_ne hbc _ _).symm.trans hb)

/-- Entries may go. -/
theorem Sound.fewer (h : Sound state) {connections : Int32→Option PooledEntry}
    (hfewer : ∀ node entry,connections node=some entry → state.connections node=some entry)
    (swept : ℕ→Prop) : Sound {state with connections := connections,swept := swept} where
  tasks := h.tasks
  made := fun node entry hentry => h.made node entry (hfewer node entry hentry)
  owner := fun _ _ _ _ hentry hentry' =>
    h.owner _ _ _ _ (hfewer _ _ hentry) (hfewer _ _ hentry')
  unused := h.unused
  known := h.known
  distinct := h.distinct

/-- An entry may be renewed. -/
theorem Sound.renew (h : Sound state) {node : Int32} {entry : PooledEntry}
    (hentry : state.connections node=some entry) (time : Instant) :
    Sound {state with
      connections := Function.update state.connections node (some ⟨entry.cell,time⟩)} := by
  have hcell : ∀ other found,
      Function.update state.connections node (some ⟨entry.cell,time⟩) other=some found →
      ∃ earlier,state.connections other=some earlier ∧ earlier.cell=found.cell := by
    intro other found hfound
    rcases update_some_eq_some.mp hfound with ⟨rfl,rfl⟩|⟨_,hold⟩
    · exact ⟨entry,hentry,rfl⟩
    · exact ⟨found,hold,rfl⟩
  refine ⟨h.tasks,?_,?_,h.unused,h.known,h.distinct⟩
  · intro other found hfound
    obtain ⟨earlier,hearlier,hsame⟩ := hcell other found hfound
    exact hsame▸h.made other earlier hearlier
  · intro a b found found' hfound hfound' hsame
    obtain ⟨earlier,hearlier,he⟩ := hcell a found hfound
    obtain ⟨earlier',hearlier',he'⟩ := hcell b found' hfound'
    exact h.owner a b earlier earlier' hearlier hearlier' (he.trans (hsame.trans he'.symm))

/-- An entry may be made, with a new cell. -/
theorem Sound.insert (h : Sound state) (node : Int32) (time : Instant) :
    Sound {state with
      connections := Function.update state.connections node (some ⟨state.nextCell,time⟩),
      nextCell := state.nextCell+1} := by
  have hcell : ∀ other found,
      Function.update state.connections node (some ⟨state.nextCell,time⟩) other=some found →
      other=node ∧ found.cell=state.nextCell ∨ state.connections other=some found := by
    intro other found hfound
    rcases update_some_eq_some.mp hfound with ⟨rfl,rfl⟩|⟨_,hold⟩
    · exact .inl ⟨rfl,rfl⟩
    · exact .inr hold
  refine ⟨?_,?_,?_,fun cell hle => h.unused cell (Nat.le_of_succ_le hle),h.known,h.distinct⟩
  · intro task
    have hold := h.tasks task
    show TaskSound _ task (state.tasks task)
    cases hpc : state.tasks task with
    | waiting node left cell =>
      rw [hpc] at hold
      exact Nat.lt_succ_of_lt hold
    | connecting | opening =>
      rw [hpc] at hold
      exact hold
    | idle | locking | evicting | relaying => trivial
  · intro other found hfound
    rcases hcell other found hfound with ⟨_,hnew⟩|hold
    · exact hnew▸Nat.lt_succ_self _
    · exact Nat.lt_succ_of_lt (h.made other found hold)
  · intro a b found found' hfound hfound' hsame
    rcases hcell a found hfound with ⟨ha,hnew⟩|hold
    · rcases hcell b found' hfound' with ⟨hb,_⟩|hold'
      · exact ha.trans hb.symm
      · have hlt := h.made b found' hold'
        omega
    · rcases hcell b found' hfound' with ⟨hb,hnew'⟩|hold'
      · have hlt := h.made a found hold
        omega
      · exact h.owner a b found found' hold hold' hsame

/-- What an event does to the pool. -/
inductive Effect (before : PoolState) : PoolEvent→PoolState→Prop where
  /-- A task moves on, and what it now takes its cell for is so. -/
  | moves {event : PoolEvent} {task : ℕ} {pc : Task} (sound : TaskSound before task pc)
      (awaits : ∀ cell,pc.Awaits cell → (before.tasks task).Awaits cell)
      (relays : ∀ conn,pc=.relaying conn → ∃ node left cell,
        before.tasks task=.opening node left cell conn) : Effect before event (before.move task pc)
  /-- A task finds its entry. -/
  | finds {task : ℕ} {node : Int32} {left : ℕ} {entry : PooledEntry}
      (present : before.connections node=some entry) : Effect before (.lock task)
        {before.move task (.waiting node left entry.cell) with
          connections := Function.update before.connections node (some ⟨entry.cell,before.now⟩)}
  /-- A task makes its entry. -/
  | makes {task : ℕ} {node : Int32} {left : ℕ} : Effect before (.lock task)
      {before.move task (.waiting node left before.nextCell) with
        connections := Function.update before.connections node (some ⟨before.nextCell,before.now⟩)
        nextCell := before.nextCell+1}
  /-- A task takes a permit. -/
  | takes {task : ℕ} {node : Int32} {left cell : ℕ} (at_cell : before.tasks task=.waiting node left cell)
      (empty : before.cells cell=.empty) : Effect before (.await task)
        ((before.setCell cell (.connecting task)).move task (.connecting node left cell))
  /-- A task fills its cell. -/
  | fills {task : ℕ} {node : Int32} {left cell : ℕ}
      (at_cell : before.tasks task=.connecting node left cell) : Effect before (.connected task)
        {(before.setCell cell (.full before.nextConn)).move task
          (.opening node left cell before.nextConn) with nextConn := before.nextConn+1}
  /-- A task gives its permit back. -/
  | leaves {task : ℕ} {node : Int32} {left cell : ℕ}
      (at_cell : before.tasks task=.connecting node left cell) : Effect before (.leave task)
        ((before.setCell cell .empty).move task .idle)
  /-- A task evicts its cell's entry, and moves on without a cell. -/
  | evicts {task : ℕ} {node : Int32} {cell : ℕ} {pc : Task} (bare : pc=.idle ∨ ∃ left,pc=.locking node left) :
      Effect before (.evict task) ((evictEntry before node cell).move task pc)
  /-- Time passes. -/
  | ticks {elapsed : ℕ} : Effect before (.tick elapsed) {before with now := before.now+elapsed}
  /-- The idle entries go. -/
  | sweeps : Effect before .sweep (cleanupIdle before)

/-- Each step has one of these effects. -/
theorem step_effect {event : PoolEvent} {after : PoolState}
    (hstep : step state event=some after) : Effect state event after := by
  cases event with
  | call task node =>
    dsimp only [step] at hstep
    cases hpc : state.tasks task with
    | idle =>
      rw [hpc] at hstep
      obtain rfl := Option.some.inj hstep
      exact .moves trivial (fun _ hawaits => hawaits.elim) (fun _ hrelays => by cases hrelays)
    | locking | waiting | connecting | opening | evicting | relaying =>
      rw [hpc] at hstep
      cases hstep
  | lock task =>
    dsimp only [step] at hstep
    cases hpc : state.tasks task with
    | locking node left =>
      rw [hpc] at hstep
      obtain rfl := Option.some.inj hstep
      unfold lockEntry
      cases hentry : state.connections node with
      | some entry => exact .finds hentry
      | none => exact .makes
    | idle | waiting | connecting | opening | evicting | relaying =>
      rw [hpc] at hstep
      cases hstep
  | await task =>
    dsimp only [step] at hstep
    cases hpc : state.tasks task with
    | waiting node left cell =>
      rw [hpc] at hstep
      dsimp only at hstep
      cases hcell : state.cells cell with
      | full conn =>
        rw [hcell] at hstep
        obtain rfl := Option.some.inj hstep
        refine .moves hcell (fun other hawaits => ?_) (fun _ hrelays => by cases hrelays)
        rw [hpc]
        exact hawaits
      | empty =>
        rw [hcell] at hstep
        obtain rfl := Option.some.inj hstep
        exact .takes hpc hcell
      | connecting other =>
        rw [hcell] at hstep
        cases hstep
    | idle | locking | connecting | opening | evicting | relaying =>
      rw [hpc] at hstep
      cases hstep
  | connected task =>
    dsimp only [step] at hstep
    cases hpc : state.tasks task with
    | connecting node left cell =>
      rw [hpc] at hstep
      obtain rfl := Option.some.inj hstep
      exact .fills hpc
    | idle | locking | waiting | opening | evicting | relaying =>
      rw [hpc] at hstep
      cases hstep
  | opened task =>
    dsimp only [step] at hstep
    cases hpc : state.tasks task with
    | opening node left cell conn =>
      rw [hpc] at hstep
      obtain rfl := Option.some.inj hstep
      refine .moves trivial (fun _ hawaits => hawaits.elim) (fun other hrelays => ?_)
      obtain rfl := Task.relaying.inj hrelays
      exact ⟨node,left,cell,hpc⟩
    | idle | locking | waiting | connecting | evicting | relaying =>
      rw [hpc] at hstep
      cases hstep
  | openFailed task =>
    dsimp only [step] at hstep
    cases hpc : state.tasks task with
    | opening node left cell conn =>
      rw [hpc] at hstep
      obtain rfl := Option.some.inj hstep
      exact .moves trivial (fun _ hawaits => hawaits.elim) (fun _ hrelays => by cases hrelays)
    | idle | locking | waiting | connecting | evicting | relaying =>
      rw [hpc] at hstep
      cases hstep
  | evict task =>
    dsimp only [step] at hstep
    cases hpc : state.tasks task with
    | evicting node left cell conn =>
      rw [hpc] at hstep
      dsimp only at hstep
      cases left with
      | zero =>
        obtain rfl := Option.some.inj hstep
        exact .evicts (.inl rfl)
      | succ left =>
        obtain rfl := Option.some.inj hstep
        exact .evicts (.inr ⟨left,rfl⟩)
    | idle | locking | waiting | connecting | opening | relaying =>
      rw [hpc] at hstep
      cases hstep
  | leave task =>
    obtain rfl := Option.some.inj hstep
    unfold leaveTask
    cases hpc : state.tasks task with
    | connecting node left cell => exact .leaves hpc
    | idle | locking | waiting | opening | evicting | relaying =>
      exact .moves trivial (fun _ hawaits => hawaits.elim) (fun _ hrelays => by cases hrelays)
  | tick elapsed =>
    obtain rfl := Option.some.inj hstep
    exact .ticks
  | sweep =>
    obtain rfl := Option.some.inj hstep
    exact .sweeps

/-- What an eviction leaves was there. -/
theorem evictEntry_connections {node : Int32} {cell : ℕ} {other : Int32} {entry : PooledEntry}
    (h : (evictEntry state node cell).connections other=some entry) :
    state.connections other=some entry := by
  unfold evictEntry at h
  cases hfound : state.connections node with
  | none =>
    rw [hfound] at h
    exact h
  | some found =>
    rw [hfound] at h
    dsimp only at h
    split at h
    · exact (update_none_eq_some.mp h).2
    · exact h

/-- An eviction changes entries only. -/
theorem evictEntry_eq (state : PoolState) (node : Int32) (cell : ℕ) :
    evictEntry state node cell=
      {state with connections := (evictEntry state node cell).connections} := by
  unfold evictEntry
  cases state.connections node with
  | none => rfl
  | some entry =>
    dsimp only
    split <;> rfl

/-- What a sweep leaves was there, and is retained. -/
theorem cleanupIdle_connections {node : Int32} {entry : PooledEntry} :
    (cleanupIdle state).connections node=some entry ↔
      state.connections node=some entry ∧ retained state entry=true :=
  Option.filter_eq_some_iff

/-- A task that gives up its permit is nowhere. -/
theorem Sound.free (h : Sound state) {task cell : ℕ}
    (hcell : state.cells cell=.empty ∨ state.cells cell=.connecting task) (other : ℕ)
    (node : Int32) (left : ℕ) :
    (state.move task .idle).tasks other≠.connecting node left cell := by
  intro hother
  by_cases heq : other=task
  · subst heq
    have hidle : (state.move other .idle).tasks other=.idle := Function.update_self _ _ _
    rw [hidle] at hother
    cases hother
  · have hsame : (state.move task .idle).tasks other=state.tasks other :=
      Function.update_of_ne heq _ _
    have hold := h.tasks other
    rw [←hsame,hother] at hold
    rcases hcell with hcell|hcell
    · cases hcell.symm.trans hold
    · exact heq (Cell.connecting.inj (hcell.symm.trans hold)).symm

/-- A task may change a cell that is empty or whose permit it has. -/
theorem Sound.exchange (h : Sound state) {task cell nextConn : ℕ} {value : Cell} {pc : Task}
    (hcell : state.cells cell=.empty ∨ state.cells cell=.connecting task)
    (hlt : cell<state.nextCell) (hmore : state.nextConn ≤ nextConn)
    (hvalue : ∀ conn,value=.full conn → state.nextConn ≤ conn ∧ conn<nextConn)
    (hpc : TaskSound {state.setCell cell value with nextConn := nextConn} task pc) :
    Sound {(state.setCell cell value).move task pc with nextConn := nextConn} := by
  have hidle : Sound (state.move task .idle) := h.move trivial
  have hempty : ∀ conn,(state.move task .idle).cells cell≠.full conn := by
    intro conn hfull
    rcases hcell with hcell|hcell
    · cases hcell.symm.trans hfull
    · cases hcell.symm.trans hfull
  have hset := hidle.setCell hlt hempty (h.free hcell) hmore hvalue
  have hmoved := @Sound.move _ hset task pc (by cases pc <;> exact hpc)
  have htasks : Function.update (Function.update state.tasks task .idle) task pc=
      Function.update state.tasks task pc := Function.update_idem _ _ _
  rw [PoolState.move] at hmoved
  dsimp only [PoolState.move,PoolState.setCell] at hmoved ⊢
  rw [htasks] at hmoved
  exact hmoved

/-- A cell whose permit a task has is not empty. -/
theorem Sound.permit (h : Sound state) {task : ℕ} {node : Int32} {left cell : ℕ}
    (hpc : state.tasks task=.connecting node left cell) :
    state.cells cell=.connecting task ∧ cell<state.nextCell := by
  have hcell := h.tasks task
  rw [hpc] at hcell
  refine ⟨hcell,h.cell_lt fun hempty => ?_⟩
  cases hempty.symm.trans hcell

/-- Every step keeps the pool sound. -/
theorem Sound.step (h : Sound state) {event : PoolEvent} {after : PoolState}
    (heffect : Effect state event after) : Sound after := by
  cases heffect with
  | moves sound awaits relays => exact h.move sound
  | @finds task node left entry present =>
    exact (h.renew present state.now).move (h.made node entry present)
  | @makes task node left => exact (h.insert node state.now).move (Nat.lt_succ_self _)
  | @takes task node left cell at_cell empty =>
    have hlt := h.tasks task
    rw [at_cell] at hlt
    exact h.exchange (.inl empty) hlt (Nat.le_refl _) (fun _ hfull => by cases hfull)
      (Function.update_self _ _ _)
  | @fills task node left cell at_cell =>
    obtain ⟨hcell,hlt⟩ := h.permit at_cell
    refine h.exchange (.inr hcell) hlt (Nat.le_succ _) (fun conn hfull => ?_)
      (Function.update_self _ _ _)
    obtain rfl := Cell.full.inj hfull
    exact ⟨Nat.le_refl _,Nat.lt_succ_self _⟩
  | @leaves task node left cell at_cell =>
    obtain ⟨hcell,hlt⟩ := h.permit at_cell
    exact h.exchange (.inr hcell) hlt (Nat.le_refl _) (fun _ hfull => by cases hfull) trivial
  | @evicts task node cell pc bare =>
    have hfewer := h.fewer (fun _ _ => @evictEntry_connections state node cell _ _) state.swept
    rw [evictEntry_eq]
    refine hfewer.move ?_
    rcases bare with rfl|⟨left,rfl⟩ <;> trivial
  | ticks => exact ⟨h.tasks,h.made,h.owner,h.unused,h.known,h.distinct⟩
  | sweeps => exact h.fewer (fun _ _ hentry => (cleanupIdle_connections.mp hentry).1) _

end Soundness

section Sweeps

/-- A task has nothing of a connection that was swept, and will not get it. -/
def TaskGone (state : PoolState) (pc : Task) : Prop :=
  ∀ conn,state.swept conn →
    pc≠.relaying conn ∧ ∀ cell,state.cells cell=.full conn → ¬pc.Awaits cell

/-- Nobody has anything of the connections that were swept. -/
structure Gone (state : PoolState) : Prop where
  /-- They were made. -/
  known : ∀ conn,state.swept conn → conn<state.nextConn
  /-- No task uses them. -/
  tasks : ∀ task,TaskGone state (state.tasks task)
  /-- No entry has them. -/
  entries : ∀ node entry conn,state.connections node=some entry → state.swept conn →
    state.cells entry.cell≠.full conn

variable {before after : PoolState}

/-- A change that no sweep makes leaves the swept connections gone, where a task that moves gets
none of them, and no cell or entry that has one is new. -/
theorem Gone.change (h : Gone before) (hswept : after.swept=before.swept)
    (hmore : before.nextConn ≤ after.nextConn)
    (hcells : ∀ cell conn,before.swept conn → after.cells cell=.full conn →
      before.cells cell=.full conn)
    (htasks : ∀ task,after.tasks task=before.tasks task ∨ TaskGone after (after.tasks task))
    (hentries : ∀ node entry,after.connections node=some entry →
      after.cells entry.cell=.empty ∨
        ∃ earlier,before.connections node=some earlier ∧ earlier.cell=entry.cell) :
    Gone after where
  known := by
    intro conn hgone
    rw [hswept] at hgone
    exact Nat.lt_of_lt_of_le (h.known conn hgone) hmore
  tasks := by
    intro task
    rcases htasks task with hsame|hgone
    · intro conn hconn
      rw [hswept] at hconn
      rw [hsame]
      obtain ⟨hrelays,hawaits⟩ := h.tasks task conn hconn
      exact ⟨hrelays,fun cell hcell => hawaits cell (hcells cell conn hconn hcell)⟩
    · exact hgone
  entries := by
    intro node entry conn hentry hconn hfull
    rw [hswept] at hconn
    rcases hentries node entry hentry with hempty|⟨earlier,hearlier,hcell⟩
    · cases hempty.symm.trans hfull
    · have hold := hcells _ _ hconn hfull
      rw [←hcell] at hold
      exact h.entries node earlier conn hearlier hconn hold

/-- The pool starts with nothing swept. -/
theorem new_gone : Gone new where
  known := fun _ h => h.elim
  tasks := fun _ _ h => h.elim
  entries := fun _ _ _ h => by cases h

/-- A task that moved, and the tasks that did not. -/
theorem moved_tasks {tasks : ℕ→Task} {task : ℕ} {pc : Task} {P : Task→Prop} (hpc : P pc)
    (other : ℕ) :
    Function.update tasks task pc other=tasks other ∨ P (Function.update tasks task pc other) := by
  by_cases heq : other=task
  · subst heq
    rw [Function.update_self]
    exact .inr hpc
  · exact .inl (Function.update_of_ne heq _ _)

/-- A task without a cell or a stream uses no connection. -/
theorem taskGone_bare {state : PoolState} {pc : Task} (hawaits : ∀ cell,¬pc.Awaits cell)
    (hrelays : ∀ conn,pc≠.relaying conn) : TaskGone state pc :=
  fun conn _ => ⟨hrelays conn,fun cell _ => hawaits cell⟩

/-- A cell that gets none of the swept connections has none that it did not have. -/
theorem setCell_swept {cell : ℕ} {value : Cell}
    (hvalue : ∀ conn,before.swept conn → value≠.full conn) (other conn : ℕ)
    (hconn : before.swept conn) (hfull : Function.update before.cells cell value other=.full conn) :
    before.cells other=.full conn := by
  by_cases heq : other=cell
  · subst heq
    rw [Function.update_self] at hfull
    exact absurd hfull (hvalue conn hconn)
  · rw [Function.update_of_ne heq] at hfull
    exact hfull

/-- A sweep of idle connections that nobody uses leaves them gone. -/
theorem Gone.sweep (h : Gone before) (sound : Sound before) (quiet : Quiet before) :
    Gone (cleanupIdle before) := by
  have hunused : ∀ node entry conn,before.connections node=some entry →
      retained before entry=false → before.cells entry.cell=.full conn →
      ¬InUse before entry.cell conn := by
    intro node entry conn hentry hretained hfull huse
    have hidle := quiet node entry conn hentry hfull huse
    rw [retained,decide_eq_true hidle,Bool.true_or] at hretained
    cases hretained
  refine ⟨?_,?_,?_⟩
  · rintro conn (hold|⟨node,entry,hentry,hretained,hfull⟩)
    · exact h.known conn hold
    · exact sound.known entry.cell conn hfull
  · rintro task conn (hold|⟨node,entry,hentry,hretained,hfull⟩)
    · exact h.tasks task conn hold
    · have hnobody := hunused node entry conn hentry hretained hfull
      refine ⟨fun hrelays => hnobody ⟨task,.inl hrelays⟩,fun cell hcell hawaits => ?_⟩
      obtain rfl := sound.distinct cell entry.cell conn hcell hfull
      exact hnobody ⟨task,.inr hawaits⟩
  · rintro node entry conn hentry (hold|⟨node',entry',hentry',hretained,hfull⟩) hcell
    · exact h.entries node entry conn (cleanupIdle_connections.mp hentry).1 hold hcell
    · obtain ⟨hpresent,hkept⟩ := cleanupIdle_connections.mp hentry
      have hsame := sound.distinct entry.cell entry'.cell conn hcell hfull
      obtain rfl := sound.owner node node' entry entry' hpresent hentry' hsame
      obtain rfl := Option.some.inj (hpresent.symm.trans hentry')
      rw [hretained] at hkept
      cases hkept

/-- Every step that spares the connections in use leaves the swept ones gone. -/
theorem Gone.step (h : Gone before) (sound : Sound before) {event : PoolEvent}
    (heffect : Effect before event after) (spared : Spared before event) : Gone after := by
  have hsame : ∀ node entry,before.connections node=some entry →
      after.cells entry.cell=.empty ∨
        ∃ earlier,before.connections node=some earlier ∧ earlier.cell=entry.cell :=
    fun node entry hentry => .inr ⟨entry,hentry,rfl⟩
  cases heffect with
  | @moves _ task pc hpc awaits relays =>
    have hgone : TaskGone before pc := by
      intro conn hconn
      have hold := h.tasks task conn hconn
      refine ⟨fun hrelays => ?_,fun cell hcell hawaits => hold.2 cell hcell (awaits cell hawaits)⟩
      obtain ⟨node,left,cell,hopening⟩ := relays conn hrelays
      have hcell := sound.tasks task
      rw [hopening] at hcell
      rw [hopening] at hold
      exact hold.2 cell hcell rfl
    exact h.change rfl (Nat.le_refl _) (fun _ _ _ hfull => hfull) (moved_tasks hgone) hsame
  | @finds task node left entry present =>
    refine h.change rfl (Nat.le_refl _) (fun _ _ _ hfull => hfull) (moved_tasks ?_) ?_
    · rintro conn hconn
      refine ⟨(by rintro ⟨⟩),fun cell hcell hawaits => ?_⟩
      obtain rfl : entry.cell=cell := hawaits
      exact h.entries node entry conn present hconn hcell
    · intro other found hfound
      rcases update_some_eq_some.mp hfound with ⟨rfl,rfl⟩|⟨_,hold⟩
      · exact .inr ⟨entry,present,rfl⟩
      · exact hsame other found hold
  | @makes task node left =>
    have hempty := sound.unused before.nextCell (Nat.le_refl _)
    refine h.change rfl (Nat.le_refl _) (fun _ _ _ hfull => hfull) (moved_tasks ?_) ?_
    · rintro conn hconn
      refine ⟨(by rintro ⟨⟩),fun cell hcell hawaits => ?_⟩
      obtain rfl : before.nextCell=cell := hawaits
      cases hempty.symm.trans hcell
    · intro other found hfound
      rcases update_some_eq_some.mp hfound with ⟨rfl,rfl⟩|⟨_,hold⟩
      · exact .inl hempty
      · exact hsame other found hold
  | @takes task node left cell at_cell empty =>
    refine h.change rfl (Nat.le_refl _) (setCell_swept fun _ _ hfull => by cases hfull)
      (moved_tasks (taskGone_bare (fun _ hawaits => hawaits) (by rintro _ ⟨⟩))) fun _ entry hentry => ?_
    exact .inr ⟨entry,hentry,rfl⟩
  | @fills task node left cell at_cell =>
    have hnew : ∀ conn,before.swept conn → before.nextConn≠conn :=
      fun conn hconn => Nat.ne_of_gt (h.known conn hconn)
    refine h.change rfl (Nat.le_succ _)
      (setCell_swept fun conn hconn hfull => hnew conn hconn (Cell.full.inj hfull))
      (moved_tasks ?_) fun _ entry hentry => .inr ⟨entry,hentry,rfl⟩
    intro conn hconn
    refine ⟨(by rintro ⟨⟩),fun other hother hawaits => ?_⟩
    obtain rfl : cell=other := hawaits
    have hfull : Cell.full before.nextConn=.full conn :=
      (Function.update_self _ _ _).symm.trans hother
    exact hnew conn hconn (Cell.full.inj hfull)
  | @leaves task node left cell at_cell =>
    refine h.change rfl (Nat.le_refl _) (setCell_swept fun _ _ hfull => by cases hfull)
      (moved_tasks (taskGone_bare (fun _ hawaits => hawaits) (by rintro _ ⟨⟩))) fun _ entry hentry => ?_
    exact .inr ⟨entry,hentry,rfl⟩
  | @evicts task node cell pc bare =>
    have hgone : TaskGone before pc := by
      rcases bare with rfl|⟨left,rfl⟩
      · exact taskGone_bare (fun _ hawaits => hawaits) (by rintro _ ⟨⟩)
      · exact taskGone_bare (fun _ hawaits => hawaits) (by rintro _ ⟨⟩)
    rw [evictEntry_eq]
    refine h.change rfl (Nat.le_refl _) (fun _ _ _ hfull => hfull) (moved_tasks hgone) ?_
    exact fun other found hfound => .inr ⟨found,evictEntry_connections hfound,rfl⟩
  | ticks => exact ⟨h.known,h.tasks,h.entries⟩
  | sweeps => exact h.sweep sound spared

/-- In a run whose sweeps spare the connections in use, the swept connections stay gone. -/
theorem SparedRun.gone {start state : PoolState} {log : List PoolEvent} (sound : Sound start)
    (gone : Gone start) (run : SparedRun start log state) : Sound state ∧ Gone state := by
  refine run.invariant (motive:=fun _ state => Sound state ∧ Gone state) ⟨sound,gone⟩ ?_
  rintro _ before event after _ ⟨hsound,hgone⟩ ⟨hstep,hspared⟩
  have heffect := step_effect hstep
  exact ⟨hsound.step heffect,hgone.step hsound heffect hspared⟩

/-- Where swept connections are gone, no stream is relayed from them. -/
theorem Gone.kept {state : PoolState} (h : Gone state) : Kept state :=
  fun task conn hrelays hconn => absurd hrelays (h.tasks task conn hconn).1

end Sweeps

section Harm

/-- Each step moves one task at most. -/
theorem Effect.tasks {before after : PoolState} {event : PoolEvent} (h : Effect before event after) :
    ∃ task pc,after.tasks=Function.update before.tasks task pc := by
  cases h with
  | @moves _ task pc | @finds task | @makes task | @takes task | @fills task | @leaves task =>
    exact ⟨_,_,rfl⟩
  | evicts =>
    rw [evictEntry_eq]
    exact ⟨_,_,rfl⟩
  | ticks => exact ⟨0,before.tasks 0,(Function.update_eq_self _ _).symm⟩
  | sweeps => exact ⟨0,before.tasks 0,(Function.update_eq_self _ _).symm⟩

/-- Only so many tasks have started. -/
def Bounded (state : PoolState) : Prop :=
  ∃ n,∀ task,n ≤ task → state.tasks task=.idle

/-- Every run has started so many tasks only. -/
theorem SparedRun.bounded {state : PoolState} {log : List PoolEvent}
    (run : SparedRun new log state) : Bounded state := by
  refine run.invariant (motive:=fun _ state => Bounded state) ⟨0,fun _ _ => rfl⟩ ?_
  rintro _ before event after _ ⟨n,hn⟩ ⟨hstep,_⟩
  obtain ⟨task,pc,htasks⟩ := (step_effect hstep).tasks
  refine ⟨max n (task+1),fun other hle => ?_⟩
  rw [htasks,Function.update_of_ne (by omega)]
  exact hn other (by omega)

/-- What the end of a task changes. -/
theorem leaveTask_facts {state : PoolState} (h : Sound state) (task : ℕ) :
    (leaveTask state task).connections=state.connections ∧
      (leaveTask state task).swept=state.swept ∧
      (leaveTask state task).tasks=Function.update state.tasks task .idle ∧
      ∀ cell conn,state.cells cell=.full conn → (leaveTask state task).cells cell=.full conn := by
  unfold leaveTask
  cases hpc : state.tasks task with
  | connecting node left cell =>
    refine ⟨rfl,rfl,rfl,fun other conn hfull => ?_⟩
    have hne : other≠cell := by
      rintro rfl
      cases (h.permit hpc).1.symm.trans hfull
    exact (Function.update_of_ne hne _ _).trans hfull
  | idle | locking | waiting | opening | evicting | relaying =>
    exact ⟨rfl,rfl,rfl,fun _ _ hfull => hfull⟩

/-- All tasks below a bound but one may end, and nothing else changes. -/
theorem others_leave {state : PoolState} (h : Sound state) (keep n : ℕ) :
    ∃ log after,SparedRun state log after ∧ Sound after ∧
      after.connections=state.connections ∧ after.swept=state.swept ∧
      (∀ task,after.tasks task=
        if task<n ∧ task≠keep then .idle else state.tasks task) ∧
      ∀ cell conn,state.cells cell=.full conn → after.cells cell=.full conn := by
  induction n with
  | zero =>
    refine ⟨[],state,.start,h,rfl,rfl,fun task => ?_,fun _ _ hfull => hfull⟩
    rw [if_neg (by omega)]
  | succ n ih =>
    obtain ⟨log,after,run,hsound,hconnections,hswept,htasks,hfull⟩ := ih
    by_cases hkeep : n=keep
    · refine ⟨log,after,run,hsound,hconnections,hswept,fun task => ?_,hfull⟩
      rw [htasks]
      by_cases hlt : task<n ∧ task≠keep
      · rw [if_pos hlt,if_pos (by omega)]
      · rw [if_neg hlt,if_neg (by omega)]
    · obtain ⟨hc,hs,ht,hf⟩ := leaveTask_facts hsound n
      have hstep : step after (.leave n)=some (leaveTask after n) := rfl
      refine ⟨_,_,run.next ⟨hstep,trivial⟩,hsound.step (step_effect hstep),hc.trans hconnections,
        hs.trans hswept,fun task => ?_,fun cell conn h => hf cell conn (hfull cell conn h)⟩
      rw [ht]
      by_cases heq : task=n
      · subst heq
        rw [Function.update_self,if_pos (by omega)]
      · rw [Function.update_of_ne heq,htasks]
        by_cases hlt : task<n ∧ task≠keep
        · rw [if_pos hlt,if_pos (by omega)]
        · rw [if_neg hlt,if_neg (by omega)]

/-- A swept connection that only a relay still uses is dropped. -/
theorem not_kept_of_alone {state : PoolState} {keep conn : ℕ} (hswept : state.swept conn)
    (hrelays : state.tasks keep=.relaying conn)
    (halone : ∀ task,task≠keep → state.tasks task=.idle)
    (hentries : ∀ node entry,state.connections node=some entry →
      state.cells entry.cell≠.full conn) : ¬Kept state := by
  intro hkept
  rcases hkept keep conn hrelays hswept with ⟨task,hholds⟩|⟨node,entry,hentry,hfull⟩
  · by_cases heq : task=keep
    · subst heq
      rw [hrelays] at hholds
      exact hholds
    · rw [halone task heq] at hholds
      exact hholds
  · exact hentries node entry hentry hfull

/-- A task that still uses a swept connection goes on to relay a stream from it when it is
dropped. -/
theorem alone_harmed {state : PoolState} {keep cell conn : ℕ} (sound : Sound state)
    (hswept : state.swept conn) (hfull : state.cells cell=.full conn)
    (huses : state.tasks keep=.relaying conn ∨ (state.tasks keep).Awaits cell)
    (halone : ∀ task,task≠keep → state.tasks task=.idle)
    (hentries : ∀ node entry,state.connections node=some entry →
      state.cells entry.cell≠.full conn) :
    ∃ log after,SparedRun state log after ∧ ¬Kept after := by
  have hmoved : ∀ {pc : Task} (task : ℕ),task≠keep → (state.move keep pc).tasks task=.idle :=
    fun task hne => (Function.update_of_ne hne _ _).trans (halone task hne)
  have hrelayed : ∀ pc : Task,(state.move keep pc).move keep (.relaying conn)=
      state.move keep (.relaying conn) := by
    intro pc
    unfold PoolState.move
    rw [Function.update_idem]
  have hdropped : ¬Kept (state.move keep (.relaying conn)) :=
    not_kept_of_alone hswept (Function.update_self _ _ _) hmoved hentries
  cases hpc : state.tasks keep with
  | relaying other =>
    refine ⟨[],state,.start,not_kept_of_alone hswept ?_ halone hentries⟩
    rcases huses with hrelays|hawaits
    · exact hrelays
    · rw [hpc] at hawaits
      exact hawaits.elim
  | waiting node left awaited =>
    rw [hpc] at huses
    rcases huses with hrelays|rfl
    · cases hrelays
    · have hawait : step state (.await keep)=
          some (state.move keep (.opening node left awaited conn)) := by
        simp only [step,hpc,hfull]
      have hopen : step (state.move keep (.opening node left awaited conn)) (.opened keep)=
          some ((state.move keep (.opening node left awaited conn)).move keep (.relaying conn)) := by
        have hat : (state.move keep (.opening node left awaited conn)).tasks keep=
            .opening node left awaited conn := Function.update_self _ _ _
        simp only [step,hat]
      rw [hrelayed] at hopen
      exact ⟨_,_,.next (.next .start ⟨hawait,trivial⟩) ⟨hopen,trivial⟩,hdropped⟩
  | opening node left awaited held =>
    rw [hpc] at huses
    rcases huses with hrelays|rfl
    · cases hrelays
    · have hheld := sound.tasks keep
      rw [hpc] at hheld
      obtain rfl := Cell.full.inj (hheld.symm.trans hfull)
      have hopen : step state (.opened keep)=some (state.move keep (.relaying held)) := by
        simp only [step,hpc]
      exact ⟨_,_,.next .start ⟨hopen,trivial⟩,hdropped⟩
  | idle | locking | connecting | evicting =>
    rw [hpc] at huses
    rcases huses with hrelays|hawaits
    · cases hrelays
    · exact hawaits.elim

/-- After a sweep that closes a connection in use, a stream from it may be relayed when it is
dropped. -/
theorem sweep_harms {state : PoolState} (sound : Sound state) (bounded : Bounded state)
    (h : ¬Quiet state) :
    ∃ log after,SparedRun (cleanupIdle state) log after ∧ ¬Kept after := by
  simp only [Quiet,not_forall] at h
  obtain ⟨node,entry,conn,hentry,hfull,⟨keep,huses⟩,hidle⟩ := h
  obtain ⟨n,hn⟩ := bounded
  have hretained : retained state entry=false := by
    rw [retained,decide_eq_false hidle,hfull]
    rfl
  have hsound : Sound (cleanupIdle state) := sound.step (.sweeps)
  have hswept : (cleanupIdle state).swept conn := .inr ⟨node,entry,hentry,hretained,hfull⟩
  obtain ⟨log,after,run,hafter,hconnections,hsame,htasks,hcells⟩ := others_leave hsound keep n
  have hkeep : after.tasks keep=state.tasks keep := by
    rw [htasks,if_neg (by omega)]
    rfl
  have halone : ∀ task,task≠keep → after.tasks task=.idle := by
    intro task hne
    rw [htasks]
    by_cases hlt : task<n
    · rw [if_pos ⟨hlt,hne⟩]
    · rw [if_neg (by omega)]
      exact hn task (Nat.le_of_not_lt hlt)
  have hentries : ∀ node' found,after.connections node'=some found →
      after.cells found.cell≠.full conn := by
    intro node' found hfound hcell
    rw [hconnections] at hfound
    obtain ⟨hpresent,hkept⟩ := cleanupIdle_connections.mp hfound
    have hcellEq := hafter.distinct found.cell entry.cell conn hcell (hcells _ _ hfull)
    obtain rfl := sound.owner node' node found entry hpresent hentry hcellEq
    obtain rfl := Option.some.inj (hpresent.symm.trans hentry)
    rw [hretained] at hkept
    cases hkept
  rw [←hkeep] at huses
  obtain ⟨log',after',run',hharm⟩ := alone_harmed hafter (by rw [hsame]; exact hswept)
    (hcells _ _ hfull) huses halone hentries
  exact ⟨_,_,run.follow (fun _ _ _ _ _ h => h) run',hharm⟩

end Harm

/-- In a run whose sweeps find no connection in use that was not asked for lately, no sweep
closes a connection whose streams are relayed; and only such sweeps never lead to one. -/
theorem sweeps_keep_iff {log : List PoolEvent} {state : PoolState}
    (run : SparedRun new log state) :
    Kept state ∧ (Quiet state ↔
      ∀ later after,SparedRun (cleanupIdle state) later after → Kept after) := by
  obtain ⟨hsound,hgone⟩ := run.gone new_sound new_gone
  refine ⟨hgone.kept,fun hquiet later after run' => ?_,fun hall => ?_⟩
  · have hswept := hgone.sweep hsound hquiet
    exact (SparedRun.gone (hsound.step .sweeps) hswept run').2.kept
  · by_contra hquiet
    obtain ⟨later,after,run',hharm⟩ := sweep_harms hsound run.bounded hquiet
    exact hharm (hall later after run')

/-- A task opens a stream to node 7 and relays it. -/
def opensStream : List PoolEvent := [.call 0 7,.lock 0,.await 0,.connected 0,.opened 0]

/-- The pool while the stream is relayed, some time after it was asked for. -/
def whileRelaying (time : Instant) : PoolState :=
  {((opensStream.foldlM step new).getD new) with now := time}

/-- Only that task has started. -/
theorem whileRelaying_tasks (time : Instant) (task : ℕ) :
    (whileRelaying time).tasks task=if task=0 then .relaying 0 else .idle := by
  by_cases heq : task=0
  · subst heq
    rfl
  · rw [if_neg heq]
    simp only [whileRelaying,opensStream,List.foldlM,step,new,lockEntry,PoolState.move,
      PoolState.setCell,Function.update_self,Option.bind_eq_bind,Option.bind_some,
      Function.update_of_ne heq,Option.pure_def,Option.getD_some]

/-- The pool has the entry that the task made. -/
theorem whileRelaying_connections {time : Instant} {node : Int32} {entry : PooledEntry}
    (h : (whileRelaying time).connections node=some entry) : entry=⟨0,0⟩ := by
  have hupdate : Function.update (fun _ => none) 7 (some ⟨0,0⟩) node=some entry := h
  rcases update_some_eq_some.mp hupdate with ⟨_,hnew⟩|⟨_,hold⟩
  · exact hnew
  · cases hold

/-- A sweep within the idle timeout of the only call keeps its connection. -/
theorem sweeps_keep_early : ∃ state,
    SparedRun new (opensStream++[.tick 59999999999,.sweep]) state ∧
      state.tasks 0=.relaying 0 ∧ Kept state := by
  have hquiet : Quiet (whileRelaying 59999999999) := by
    intro node entry conn hentry _ _
    rw [whileRelaying_connections hentry]
    decide
  have hrun : SparedRun new (opensStream++[.tick 59999999999,.sweep])
      (cleanupIdle (whileRelaying 59999999999)) := by
    have hcalls : SparedRun new opensStream (whileRelaying 0) :=
      .next (.next (.next (.next (.next .start ⟨rfl,trivial⟩) ⟨rfl,trivial⟩) ⟨rfl,trivial⟩)
        ⟨rfl,trivial⟩) ⟨rfl,trivial⟩
    have htick : SparedRun new (opensStream++[.tick 59999999999]) (whileRelaying 59999999999) :=
      hcalls.next ⟨rfl,trivial⟩
    exact htick.next ⟨rfl,hquiet⟩
  exact ⟨_,hrun,rfl,(sweeps_keep_iff hrun).1⟩

/-- A sweep one idle timeout after the only call drops the connection whose stream is relayed. -/
theorem relayed_stream_swept : ∃ state,
    PoolRun new (opensStream++[.tick idleTimeout,.sweep]) state ∧
      state.tasks 0=.relaying 0 ∧ Held (whileRelaying idleTimeout) 0 ∧
      state=cleanupIdle (whileRelaying idleTimeout) ∧ ¬Held state 0 ∧ ¬Kept state := by
  have hcalls : PoolRun new opensStream (whileRelaying 0) :=
    .next (.next (.next (.next (.next .start rfl) rfl) rfl) rfl) rfl
  have htick : PoolRun new (opensStream++[.tick idleTimeout]) (whileRelaying idleTimeout) :=
    hcalls.next rfl
  have hentries : ∀ node entry,(cleanupIdle (whileRelaying idleTimeout)).connections node=some entry →
      False := by
    intro node entry hentry
    obtain ⟨hpresent,hretained⟩ := cleanupIdle_connections.mp hentry
    rw [whileRelaying_connections hpresent] at hretained
    cases hretained
  have hdropped : ¬Held (cleanupIdle (whileRelaying idleTimeout)) 0 := by
    rintro (⟨task,hholds⟩|⟨node,entry,hentry,_⟩)
    · have htask : (cleanupIdle (whileRelaying idleTimeout)).tasks task=
          if task=0 then .relaying 0 else .idle := whileRelaying_tasks idleTimeout task
      rw [htask] at hholds
      split at hholds <;> exact hholds
    · exact hentries node entry hentry
  have hswept : (cleanupIdle (whileRelaying idleTimeout)).swept 0 :=
    .inr ⟨7,⟨0,0⟩,rfl,rfl,rfl⟩
  refine ⟨_,htick.next rfl,rfl,.inr ⟨7,⟨0,0⟩,rfl,rfl⟩,rfl,hdropped,fun hkept => ?_⟩
  exact hdropped (hkept 0 0 rfl hswept)

end WispersConnect.ConnectionPool
