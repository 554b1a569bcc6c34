import WispersConnect.ConnectionPool

/-!
# Which connections the pool starts and evicts

A cell that is not filled stays in the pool, so all tasks that want its node share
it, and the permit of the cell makes them take turns. What is evicted is the entry
of the cell on whose connection the task failed: a cell that is filled keeps its
connection, so a newer connection of the node is in another cell.
-/

namespace WispersConnect.PoolConnects

open PartialMaps Runs ConnectionPool

section Moves

/-- What each event does to the pool. -/
inductive PoolMove (before : PoolState) : PoolEvent→PoolState→Prop where
  /-- A call starts. -/
  | calls {task : ℕ} {node : Int32} (at_task : before.tasks task=.idle) :
      PoolMove before (.call task node) (before.move task (.locking node 1))
  /-- It finds the entry of its node. -/
  | finds {task : ℕ} {node : Int32} {left : ℕ} {entry : PooledEntry}
      (at_task : before.tasks task=.locking node left) (present : before.connections node=some entry) :
      PoolMove before (.lock task)
        {before.move task (.waiting node left entry.cell) with
          connections := Function.update before.connections node (some ⟨entry.cell,before.now⟩)}
  /-- It makes the entry of its node. -/
  | makes {task : ℕ} {node : Int32} {left : ℕ} (at_task : before.tasks task=.locking node left)
      (absent : before.connections node=none) : PoolMove before (.lock task)
        {before.move task (.waiting node left before.nextCell) with
          connections := Function.update before.connections node
            (some ⟨before.nextCell,before.now⟩)
          nextCell := before.nextCell+1}
  /-- It gets the connection in its cell. -/
  | joins {task : ℕ} {node : Int32} {left cell conn : ℕ}
      (at_task : before.tasks task=.waiting node left cell) (full : before.cells cell=.full conn) :
      PoolMove before (.await task) (before.move task (.opening node left cell conn))
  /-- It takes the permit of its cell. -/
  | takes {task : ℕ} {node : Int32} {left cell : ℕ}
      (at_task : before.tasks task=.waiting node left cell) (empty : before.cells cell=.empty) :
      PoolMove before (.await task)
        ((before.setCell cell (.connecting task)).move task (.connecting node left cell))
  /-- It fills its cell. -/
  | fills {task : ℕ} {node : Int32} {left cell : ℕ}
      (at_task : before.tasks task=.connecting node left cell) : PoolMove before (.connected task)
        {(before.setCell cell (.full before.nextConn)).move task
          (.opening node left cell before.nextConn) with nextConn := before.nextConn+1}
  /-- It opens a stream. -/
  | opens {task : ℕ} {node : Int32} {left cell conn : ℕ}
      (at_task : before.tasks task=.opening node left cell conn) :
      PoolMove before (.opened task) (before.move task (.relaying conn))
  /-- It fails to. -/
  | fails {task : ℕ} {node : Int32} {left cell conn : ℕ}
      (at_task : before.tasks task=.opening node left cell conn) :
      PoolMove before (.openFailed task) (before.move task (.evicting node left cell conn))
  /-- It evicts the connection, and tries again or gives up. -/
  | evicts {task : ℕ} {node : Int32} {left cell conn : ℕ} {pc : Task}
      (at_task : before.tasks task=.evicting node left cell conn)
      (next : left=0 ∧ pc=.idle ∨ ∃ fewer,left=fewer+1 ∧ pc=.locking node fewer) :
      PoolMove before (.evict task) ((evictEntry before node cell).move task pc)
  /-- It gives its permit back. -/
  | yields {task : ℕ} {node : Int32} {left cell : ℕ}
      (at_task : before.tasks task=.connecting node left cell) :
      PoolMove before (.leave task) ((before.setCell cell .empty).move task .idle)
  /-- It ends without one. -/
  | leaves {task : ℕ} (at_task : ∀ node left cell,before.tasks task≠.connecting node left cell) :
      PoolMove before (.leave task) (before.move task .idle)
  /-- Time passes. -/
  | ticks {elapsed : ℕ} : PoolMove before (.tick elapsed) {before with now := before.now+elapsed}
  /-- The idle entries go. -/
  | sweeps : PoolMove before .sweep (cleanupIdle before)

/-- Every step is one of these. -/
theorem step_move {before after : PoolState} {event : PoolEvent}
    (hstep : step before event=some after) : PoolMove before event after := by
  cases event with
  | call task node =>
    dsimp only [step] at hstep
    cases hpc : before.tasks task with
    | idle =>
      rw [hpc] at hstep
      obtain rfl := Option.some.inj hstep
      exact .calls hpc
    | locking | waiting | connecting | opening | evicting | relaying =>
      rw [hpc] at hstep
      cases hstep
  | lock task =>
    dsimp only [step] at hstep
    cases hpc : before.tasks task with
    | locking node left =>
      rw [hpc] at hstep
      obtain rfl := Option.some.inj hstep
      unfold lockEntry
      cases hentry : before.connections node with
      | some entry => exact .finds hpc hentry
      | none => exact .makes hpc hentry
    | idle | waiting | connecting | opening | evicting | relaying =>
      rw [hpc] at hstep
      cases hstep
  | await task =>
    dsimp only [step] at hstep
    cases hpc : before.tasks task with
    | waiting node left cell =>
      rw [hpc] at hstep
      dsimp only at hstep
      cases hcell : before.cells cell with
      | full conn =>
        rw [hcell] at hstep
        obtain rfl := Option.some.inj hstep
        exact .joins hpc hcell
      | empty =>
        rw [hcell] at hstep
        obtain rfl := Option.some.inj hstep
        exact .takes hpc hcell
      | connecting other =>
        rw [hcell] at hstep
        cases hstep
    | idle | locking | connecting | opening | evicting | relaying =>
      rw [hpc] at hstep
      cases hstep
  | connected task =>
    dsimp only [step] at hstep
    cases hpc : before.tasks task with
    | connecting node left cell =>
      rw [hpc] at hstep
      obtain rfl := Option.some.inj hstep
      exact .fills hpc
    | idle | locking | waiting | opening | evicting | relaying =>
      rw [hpc] at hstep
      cases hstep
  | opened task =>
    dsimp only [step] at hstep
    cases hpc : before.tasks task with
    | opening node left cell conn =>
      rw [hpc] at hstep
      obtain rfl := Option.some.inj hstep
      exact .opens hpc
    | idle | locking | waiting | connecting | evicting | relaying =>
      rw [hpc] at hstep
      cases hstep
  | openFailed task =>
    dsimp only [step] at hstep
    cases hpc : before.tasks task with
    | opening node left cell conn =>
      rw [hpc] at hstep
      obtain rfl := Option.some.inj hstep
      exact .fails hpc
    | idle | locking | waiting | connecting | evicting | relaying =>
      rw [hpc] at hstep
      cases hstep
  | evict task =>
    dsimp only [step] at hstep
    cases hpc : before.tasks task with
    | evicting node left cell conn =>
      rw [hpc] at hstep
      dsimp only at hstep
      cases left with
      | zero =>
        obtain rfl := Option.some.inj hstep
        exact .evicts hpc (.inl ⟨rfl,rfl⟩)
      | succ left =>
        obtain rfl := Option.some.inj hstep
        exact .evicts hpc (.inr ⟨left,rfl,rfl⟩)
    | idle | locking | waiting | connecting | opening | relaying =>
      rw [hpc] at hstep
      cases hstep
  | leave task =>
    obtain rfl := Option.some.inj hstep
    unfold leaveTask
    cases hpc : before.tasks task with
    | connecting node left cell => exact .yields hpc
    | idle | locking | waiting | opening | evicting | relaying =>
      refine .leaves fun node left cell hconnecting => ?_
      cases hpc.symm.trans hconnecting
  | tick elapsed =>
    obtain rfl := Option.some.inj hstep
    exact .ticks
  | sweep =>
    obtain rfl := Option.some.inj hstep
    exact .sweeps

end Moves

section Watching

/-- The pool, with what each task's call has done so far. -/
structure Watched where
  /-- The pool. -/
  pool : PoolState
  /-- How many connects the task's last call has started. -/
  connects : ℕ→ℕ
  /-- The connection on which that call last failed to open a stream. -/
  failed : ℕ→Option ℕ

/-- The connect that an event starts is the task's own. -/
def startsConnect (before : PoolState) : PoolEvent→Option ℕ
  | .await task =>
    match before.tasks task with
    | .waiting _ _ cell =>
      match before.cells cell with
      | .empty => some task
      | .connecting _ | .full _ => none
    | _ => none
  | _ => none

/-- The connects started by each task's last call. -/
def connectsAfter (before : Watched) (event : PoolEvent) : ℕ→ℕ :=
  match event with
  | .call task _ => Function.update before.connects task 0
  | event =>
    match startsConnect before.pool event with
    | some task => Function.update before.connects task (before.connects task+1)
    | none => before.connects

/-- The connection on which each task's last call last failed to open a stream. -/
def failedAfter (before : Watched) : PoolEvent→ℕ→Option ℕ
  | .call task _ => Function.update before.failed task none
  | .openFailed task =>
    match before.pool.tasks task with
    | .opening _ _ _ conn => Function.update before.failed task (some conn)
    | _ => before.failed
  | _ => before.failed

/-- A step of the pool that is watched. -/
structure WatchedStep (before : Watched) (event : PoolEvent) (after : Watched) : Prop where
  /-- The pool takes the step. -/
  now : step before.pool event=some after.pool
  /-- The connects are counted. -/
  connects : after.connects=connectsAfter before event
  /-- Failures are noted. -/
  failed : after.failed=failedAfter before event

/-- The runs of the pool from its start that are watched. -/
abbrev WatchedRun : List PoolEvent→Watched→Prop :=
  Run (fun _ before event after => WatchedStep before event after)
    ⟨new,fun _ => 0,fun _ => none⟩

/-- How many connects a call may still start. -/
def connectsLeft : Task→ℕ
  | .locking _ left | .waiting _ left _ => left+1
  | .connecting _ left _ | .opening _ left _ _ | .evicting _ left _ _ => left
  | .idle | .relaying _ => 0

/-- A cell has its connection. -/
def Filled (state : PoolState) (cell : ℕ) : Prop := ∃ conn,state.cells cell=.full conn

/-- The node has an entry with a cell. -/
def Pooled (state : PoolState) (node : Int32) (cell : ℕ) : Prop :=
  ∃ entry,state.connections node=some entry ∧ entry.cell=cell

/-- A cell that a task waits for or fills is filled or in the pool, and a connection that failed
is in its cell. -/
def TaskPooled (state : PoolState) (failed : Option ℕ) : Task→Prop
  | .waiting node _ cell | .connecting node _ cell => Filled state cell ∨ Pooled state node cell
  | .evicting _ _ cell conn => state.cells cell=.full conn ∧ failed=some conn
  | .idle | .locking _ _ | .opening _ _ _ _ | .relaying _ => True

/-- What is known of every task of a watched pool. -/
structure WatchedInvariant (watched : Watched) : Prop where
  /-- Cells and connections are shared as intended. -/
  sound : Sound watched.pool
  /-- No cell that is not filled is lost. -/
  pooled : ∀ task,TaskPooled watched.pool (watched.failed task) (watched.pool.tasks task)
  /-- No call starts more than two connects. -/
  rationed : ∀ task,watched.connects task+connectsLeft (watched.pool.tasks task)≤2

end Watching

section Steps

variable {before after : PoolState} {event : PoolEvent}

/-- A cell that has its connection keeps it. -/
theorem PoolMove.full_kept (sound : Sound before) (h : PoolMove before event after) (cell conn : ℕ)
    (hfull : before.cells cell=.full conn) : after.cells cell=.full conn := by
  have hset : ∀ {changed : ℕ} {value : Cell},(∀ conn,before.cells changed≠.full conn) →
      (before.setCell changed value).cells cell=.full conn := by
    intro changed value hempty
    have hne : cell≠changed := by
      rintro rfl
      exact hempty conn hfull
    exact (Function.update_of_ne hne _ _).trans hfull
  cases h with
  | calls | finds | makes | joins | opens | fails | leaves | ticks | sweeps => exact hfull
  | takes at_task empty => exact hset fun other hother => by cases empty.symm.trans hother
  | fills at_task =>
    have hcell := (sound.permit at_task).1
    exact hset fun other hother => by cases hcell.symm.trans hother
  | yields at_task =>
    have hcell := (sound.permit at_task).1
    exact hset fun other hother => by cases hcell.symm.trans hother
  | evicts =>
    rw [evictEntry_eq]
    exact hfull

/-- An eviction removes the entry of its cell only. -/
theorem evictEntry_pooled {node other : Int32} {cell found : ℕ} (h : Pooled before other found) :
    found=cell ∨ Pooled (evictEntry before node cell) other found := by
  obtain ⟨entry,hentry,rfl⟩ := h
  by_cases hcell : entry.cell=cell
  · exact .inl hcell
  · refine .inr ⟨entry,?_,rfl⟩
    unfold evictEntry
    cases hnode : before.connections node with
    | none => exact hentry
    | some present =>
      dsimp only
      split_ifs with hsame
      · have hne : other≠node := by
          rintro rfl
          obtain rfl := Option.some.inj (hnode.symm.trans hentry)
          exact hcell hsame
        exact (Function.update_of_ne hne _ _).trans hentry
      · exact hentry

/-- An entry keeps its cell until a sweep removes it or a task evicts its cell. -/
theorem PoolMove.entry_kept (h : PoolMove before event after) {node : Int32} {entry : PooledEntry}
    (hentry : before.connections node=some entry) :
    Pooled after node entry.cell ∨ (event=.sweep ∧ retained before entry=false) ∨
      ∃ task target left conn,event=.evict task ∧
        before.tasks task=.evicting target left entry.cell conn := by
  cases h with
  | calls | joins | takes | fills | opens | fails | yields | leaves | ticks =>
    exact .inl ⟨entry,hentry,rfl⟩
  | @finds task target left present at_task hpresent =>
    left
    by_cases hnode : node=target
    · subst hnode
      obtain rfl := Option.some.inj (hentry.symm.trans hpresent)
      exact ⟨_,Function.update_self _ _ _,rfl⟩
    · exact ⟨entry,(Function.update_of_ne hnode _ _).trans hentry,rfl⟩
  | @makes task target left at_task absent =>
    have hnode : node≠target := by
      rintro rfl
      cases hentry.symm.trans absent
    exact .inl ⟨entry,(Function.update_of_ne hnode _ _).trans hentry,rfl⟩
  | @evicts task target left cell conn pc at_task next =>
    rcases @evictEntry_pooled before target node cell entry.cell ⟨entry,hentry,rfl⟩ with rfl|hkept
    · exact .inr (.inr ⟨task,target,left,conn,rfl,at_task⟩)
    · exact .inl hkept
  | sweeps =>
    cases hretained : retained before entry with
    | true => exact .inl ⟨entry,cleanupIdle_connections.mpr ⟨hentry,hretained⟩,rfl⟩
    | false => exact .inr (.inl ⟨rfl,rfl⟩)

/-- What a sweep does not retain is filled. -/
theorem filled_of_not_retained {state : PoolState} {entry : PooledEntry}
    (h : retained state entry=false) : Filled state entry.cell := by
  unfold retained at h
  cases hcell : state.cells entry.cell with
  | full conn => exact ⟨conn,hcell⟩
  | empty | connecting =>
    rw [hcell,Bool.or_true] at h
    cases h

/-- A cell in the pool stays there until it is filled. -/
theorem PoolMove.pooled_kept (sound : Sound before) (h : PoolMove before event after)
    (hevicts : ∀ task node left cell conn,before.tasks task=.evicting node left cell conn →
      Filled before cell) (node : Int32) (cell : ℕ) (hpooled : Pooled before node cell) :
    Filled after cell ∨ Pooled after node cell := by
  obtain ⟨entry,hentry,rfl⟩ := hpooled
  have hfilled : Filled before entry.cell → Filled after entry.cell :=
    fun ⟨conn,hconn⟩ => ⟨conn,h.full_kept sound entry.cell conn hconn⟩
  rcases h.entry_kept hentry with hkept|⟨_,hretained⟩|⟨task,target,left,conn,_,hpc⟩
  · exact .inr hkept
  · exact .inl (hfilled (filled_of_not_retained hretained))
  · exact .inl (hfilled (hevicts task target left entry.cell conn hpc))

/-- What is known of a task stays so while it does not move. -/
theorem TaskPooled.mono {failed : Option ℕ} {pc : Task} (h : TaskPooled before failed pc)
    (hfull : ∀ cell conn,before.cells cell=.full conn → after.cells cell=.full conn)
    (hpooled : ∀ node cell,Pooled before node cell → Filled after cell ∨ Pooled after node cell) :
    TaskPooled after failed pc := by
  cases pc with
  | waiting node left cell | connecting node left cell =>
    rcases h with ⟨conn,hconn⟩|hin
    · exact .inl ⟨conn,hfull cell conn hconn⟩
    · exact hpooled node cell hin
  | evicting node left cell conn => exact ⟨hfull cell conn h.1,h.2⟩
  | idle | locking | opening | relaying => trivial

/-- A step keeps the invariant where each task that it moves is as known at its new place. -/
theorem WatchedInvariant.changed {before after : Watched} (inv : WatchedInvariant before)
    (h : WatchedStep before event after)
    (htasks : ∀ task,(after.pool.tasks task=before.pool.tasks task ∧
        after.failed task=before.failed task ∧ after.connects task=before.connects task) ∨
      (TaskPooled after.pool (after.failed task) (after.pool.tasks task) ∧
        after.connects task+connectsLeft (after.pool.tasks task)≤2)) : WatchedInvariant after := by
  have hmove := step_move h.now
  have hevicts : ∀ task node left cell conn,before.pool.tasks task=.evicting node left cell conn →
      Filled before.pool cell := by
    intro task node left cell conn hpc
    have hin := inv.pooled task
    rw [hpc] at hin
    exact ⟨conn,hin.1⟩
  refine ⟨inv.sound.step (step_effect h.now),fun task => ?_,fun task => ?_⟩
  · rcases htasks task with ⟨hpc,hfailed,_⟩|⟨hpooled,_⟩
    · rw [hpc,hfailed]
      exact (inv.pooled task).mono (hmove.full_kept inv.sound) (hmove.pooled_kept inv.sound hevicts)
    · exact hpooled
  · rcases htasks task with ⟨hpc,_,hconnects⟩|⟨_,hration⟩
    · rw [hpc,hconnects]
      exact inv.rationed task
    · exact hration

/-- A step that moves one task keeps it where that task is as known at its new place. -/
theorem WatchedInvariant.moved {before after : Watched} {task : ℕ} {pc : Task}
    (inv : WatchedInvariant before) (h : WatchedStep before event after)
    (htasks : after.pool.tasks=Function.update before.pool.tasks task pc)
    (hothers : ∀ other,other≠task → after.failed other=before.failed other ∧
      after.connects other=before.connects other)
    (hpooled : TaskPooled after.pool (after.failed task) pc)
    (hration : after.connects task+connectsLeft pc≤2) : WatchedInvariant after := by
  refine inv.changed h fun other => ?_
  by_cases heq : other=task
  · right
    rw [heq,htasks,Function.update_self]
    exact ⟨hpooled,hration⟩
  · left
    rw [htasks,Function.update_of_ne heq]
    exact ⟨rfl,hothers other heq⟩

/-- Every step keeps the invariant. -/
theorem WatchedInvariant.step {before after : Watched} {event : PoolEvent}
    (inv : WatchedInvariant before) (h : WatchedStep before event after) : WatchedInvariant after := by
  have hmove := step_move h.now
  have hconnects := h.connects
  have hfailed := h.failed
  have hmoved := @WatchedInvariant.moved event before after
  have hchanged := @WatchedInvariant.changed event before after inv h
  generalize after.pool=pool at hmove hmoved hchanged
  have hothers : ∀ {task : ℕ} {count : ℕ} {failure : Option ℕ},
      after.connects=Function.update before.connects task count →
      after.failed=Function.update before.failed task failure →
      ∀ other,other≠task → after.failed other=before.failed other ∧
        after.connects other=before.connects other := by
    intro task count failure hc hf other hne
    rw [hc,hf,Function.update_of_ne hne,Function.update_of_ne hne]
    exact ⟨rfl,rfl⟩
  have hsame : after.connects=before.connects → after.failed=before.failed →
      ∀ {task : ℕ} (other : ℕ),other≠task → after.failed other=before.failed other ∧
        after.connects other=before.connects other := by
    intro hc hf task other _
    rw [hc,hf]
    exact ⟨rfl,rfl⟩
  cases hmove with
  | @calls task node at_task =>
    have hc : after.connects=Function.update before.connects task 0 := hconnects
    have hf : after.failed=Function.update before.failed task none := hfailed
    refine hmoved inv h rfl (hothers hc hf) trivial ?_
    rw [hc,Function.update_self]
    exact Nat.le_refl _
  | @finds task node left entry at_task present =>
    have hration := inv.rationed task
    rw [at_task] at hration
    refine hmoved inv h rfl (hsame hconnects hfailed) ?_ ?_
    · exact .inr ⟨_,Function.update_self _ _ _,rfl⟩
    · rw [hconnects]
      exact hration
  | @makes task node left at_task absent =>
    have hration := inv.rationed task
    rw [at_task] at hration
    refine hmoved inv h rfl (hsame hconnects hfailed) ?_ ?_
    · exact .inr ⟨_,Function.update_self _ _ _,rfl⟩
    · rw [hconnects]
      exact hration
  | @joins task node left cell conn at_task full =>
    have hration := inv.rationed task
    rw [at_task] at hration
    have hc : after.connects=before.connects := by
      rw [hconnects]
      simp [connectsAfter,startsConnect,at_task,full]
    refine hmoved inv h rfl (hsame hc hfailed) trivial ?_
    rw [hc]
    exact Nat.le_trans (Nat.le_succ _) hration
  | @takes task node left cell at_task empty =>
    have hration := inv.rationed task
    have hpooled := inv.pooled task
    rw [at_task] at hration hpooled
    have hc : after.connects=Function.update before.connects task (before.connects task+1) := by
      rw [hconnects]
      simp [connectsAfter,startsConnect,at_task,empty]
    have hf : after.failed=Function.update before.failed task (before.failed task) := by
      rw [Function.update_eq_self]
      exact hfailed
    refine hmoved inv h rfl (hothers hc hf) ?_ ?_
    · rcases hpooled with ⟨conn,hfull⟩|hin
      · cases empty.symm.trans hfull
      · exact .inr hin
    · rw [hc,Function.update_self]
      simp only [connectsLeft] at hration ⊢
      omega
  | @fills task node left cell at_task =>
    have hration := inv.rationed task
    rw [at_task] at hration
    refine hmoved inv h rfl (hsame hconnects hfailed) trivial ?_
    rw [hconnects]
    exact hration
  | @opens task node left cell conn at_task =>
    have hration := inv.rationed task
    refine hmoved inv h rfl (hsame hconnects hfailed) trivial ?_
    rw [hconnects]
    exact Nat.le_trans (Nat.le_add_right _ _) hration
  | @fails task node left cell conn at_task =>
    have hration := inv.rationed task
    have hcell := inv.sound.tasks task
    rw [at_task] at hration hcell
    have hf : after.failed=Function.update before.failed task (some conn) := by
      rw [hfailed]
      simp [failedAfter,at_task]
    have hc : after.connects=Function.update before.connects task (before.connects task) := by
      rw [Function.update_eq_self]
      exact hconnects
    refine hmoved inv h rfl (hothers hc hf) ⟨hcell,?_⟩ ?_
    · rw [hf,Function.update_self]
    · rw [hc,Function.update_self]
      exact hration
  | @evicts task node left cell conn pc at_task next =>
    have hration := inv.rationed task
    rw [at_task] at hration
    refine hmoved inv h (by rw [evictEntry_eq]; rfl) (hsame hconnects hfailed) ?_ ?_
    · rcases next with ⟨_,rfl⟩|⟨fewer,_,rfl⟩
      · trivial
      · trivial
    · rw [hconnects]
      rcases next with ⟨_,rfl⟩|⟨fewer,rfl,rfl⟩
      · exact Nat.le_trans (Nat.le_add_right _ _) hration
      · exact hration
  | @yields task node left cell at_task =>
    refine hmoved inv h rfl (hsame hconnects hfailed) trivial ?_
    rw [hconnects]
    exact Nat.le_trans (Nat.le_add_right _ _) (inv.rationed task)
  | @leaves task at_task =>
    refine hmoved inv h rfl (hsame hconnects hfailed) trivial ?_
    rw [hconnects]
    exact Nat.le_trans (Nat.le_add_right _ _) (inv.rationed task)
  | ticks => exact hchanged fun task => .inl ⟨rfl,congrFun hfailed task,congrFun hconnects task⟩
  | sweeps => exact hchanged fun task => .inl ⟨rfl,congrFun hfailed task,congrFun hconnects task⟩

/-- A pool starts so. -/
theorem new_invariant : WatchedInvariant ⟨new,fun _ => 0,fun _ => none⟩ :=
  ⟨new_sound,fun _ => trivial,fun _ => Nat.zero_le _⟩

/-- Every run keeps the invariant. -/
theorem WatchedRun.invariant {log : List PoolEvent} {watched : Watched}
    (run : WatchedRun log watched) : WatchedInvariant watched := by
  refine Run.invariant (motive := fun _ watched => WatchedInvariant watched) new_invariant ?_ run
  intro log before event after _ ih h
  exact ih.step h

end Steps

/-- The pool connects to each node once at a time, and evicts only what failed. -/
structure Careful (watched : Watched) : Prop where
  /-- No two tasks connect to the same node. -/
  singleFlight : ∀ task task' node left left' cell cell',
    watched.pool.tasks task=.connecting node left cell →
    watched.pool.tasks task'=.connecting node left' cell' → task=task'
  /-- But for a sweep, an event removes an entry only where it evicts the connection in it, on
  which the task's call last failed to open a stream. -/
  evictsFailed : ∀ event after,WatchedStep watched event after → event≠.sweep →
    ∀ node entry,watched.pool.connections node=some entry →
      Pooled after.pool node entry.cell ∨ ∃ task conn,event=.evict task ∧
        watched.failed task=some conn ∧ watched.pool.cells entry.cell=.full conn
  /-- A sweep leaves every entry whose cell has no connection yet. -/
  sweepsFilled : ∀ node entry,watched.pool.connections node=some entry →
    ¬Filled watched.pool entry.cell → (cleanupIdle watched.pool).connections node=some entry
  /-- A call starts two connects at most. -/
  twoConnects : ∀ task,watched.connects task≤2

/-- In every run of the pool, it connects to each node once at a time and evicts only what failed. -/
theorem pool_careful (log : List PoolEvent) (watched : Watched) (run : WatchedRun log watched) :
    Careful watched := by
  have inv := WatchedRun.invariant run
  refine ⟨?_,?_,?_,?_⟩
  · intro task task' node left left' cell cell' htask htask'
    have hcell := (inv.sound.permit htask).1
    have hcell' := (inv.sound.permit htask').1
    have hpooled := inv.pooled task
    have hpooled' := inv.pooled task'
    rw [htask] at hpooled
    rw [htask'] at hpooled'
    have hentry : Pooled watched.pool node cell := by
      refine hpooled.resolve_left ?_
      rintro ⟨conn,hfull⟩
      cases hcell.symm.trans hfull
    have hentry' : Pooled watched.pool node cell' := by
      refine hpooled'.resolve_left ?_
      rintro ⟨conn,hfull⟩
      cases hcell'.symm.trans hfull
    obtain ⟨entry,hpresent,rfl⟩ := hentry
    obtain ⟨entry',hpresent',rfl⟩ := hentry'
    obtain rfl := Option.some.inj (hpresent.symm.trans hpresent')
    exact Cell.connecting.inj (hcell.symm.trans hcell')
  · intro event after h hsweep node entry hentry
    rcases (step_move h.now).entry_kept hentry with hkept|⟨hevent,_⟩|⟨task,target,left,conn,hevent,hpc⟩
    · exact .inl hkept
    · exact absurd hevent hsweep
    · have hpooled := inv.pooled task
      rw [hpc] at hpooled
      exact .inr ⟨task,conn,hevent,hpooled.2,hpooled.1⟩
  · intro node entry hentry hempty
    refine cleanupIdle_connections.mpr ⟨hentry,?_⟩
    cases hretained : retained watched.pool entry with
    | true => rfl
    | false => exact absurd (filled_of_not_retained hretained) hempty
  · intro task
    exact Nat.le_trans (Nat.le_add_right _ _) (inv.rationed task)

/-- A watched step of the pool. -/
def watchedNext (before : Watched) (event : PoolEvent) : Option Watched :=
  (step before.pool event).map fun pool =>
    ⟨pool,connectsAfter before event,failedAfter before event⟩

/-- It is a step. -/
theorem watchedNext_step {before after : Watched} {event : PoolEvent}
    (h : watchedNext before event=some after) : WatchedStep before event after := by
  obtain ⟨pool,hstep,rfl⟩ := Option.map_eq_some_iff.mp h
  exact ⟨hstep,rfl,rfl⟩

/-- A call connects, fails to open a stream, evicts the connection, and connects again while
another call waits for the same node. -/
def reconnects : List PoolEvent :=
  [.call 0 7,.lock 0,.await 0,.connected 0,.openFailed 0,.evict 0,.lock 0,.call 1 7,.lock 1,.await 0]

/-- The second call starts no connect. -/
theorem pool_careful_reconnects :
    ∃ watched,watched.connects 0=2 ∧ watched.connects 1=0 ∧ Careful watched := by
  have hrun : (reconnects.foldlM watchedNext ⟨new,fun _ => 0,fun _ => none⟩).map
      (fun watched => (watched.connects 0,watched.connects 1))=some (2,0) := by decide +kernel
  obtain ⟨watched,hfold,hconnects⟩ := Option.map_eq_some_iff.mp hrun
  obtain ⟨hfirst,hsecond⟩ := Prod.mk.inj hconnects
  have run : WatchedRun reconnects watched :=
    Run.start.extend (fun _ _ _ _ => watchedNext_step) hfold
  exact ⟨watched,hfirst,hsecond,pool_careful reconnects watched run⟩

end WispersConnect.PoolConnects
