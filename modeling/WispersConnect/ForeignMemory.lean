import WispersConnect.ForeignBoxes

/-!
# What is done to boxes

Over every run, no box is done away with twice and none is taken for what it is not. Every
box that is there is accounted for. A box that has gone is read in no run in which a handle
is given back only while no other call is in the middle of using it, and giving one back
at another moment is the start of a run in which it is.
-/

namespace WispersConnect.ForeignMemory

open ListEntries PartialMaps Runs ForeignCalls ForeignSlots ForeignBoxes

variable {ρ : Type} {pointers count number : ℕ} {bridge after : Bridge ρ} {call call' : Call ρ}
  {event : Event ρ} {log : List (Event ρ)}

/-- A call that took no box over is about to call its function or is in one that returns once it
is done, or its task is in the box. -/
def Touching (call : Call ρ) : Prop :=
  call.function.takesOver=false ∧ (call.phase=.checked ∨ call.phase=.registered ∨
    call.function.access=.borrows ∧ call.task=.running)

/-- A handle is given back only while no call on it is touching its box. -/
def Careful (bridge : Bridge ρ) (event : Event ρ) : Prop :=
  ∀ h function,event=.start h function → function.takesOver=true →
    ∀ (n : ℕ) (call : Call ρ),bridge.calls[n]?=some call → call.handle=h → ¬Touching call

/-- A step of a careful program. -/
def CarefulStep (pointers : ℕ) (_ : List (Event ρ)) (before : Bridge ρ) (event : Event ρ)
    (after : Bridge ρ) : Prop := before.step pointers event=some after ∧ Careful before event

/-- The runs of careful programs. -/
abbrev CarefulRun (pointers : ℕ) : List (Event ρ)→Bridge ρ→Prop :=
  Run (CarefulStep pointers) .initial

/-- Nothing was made in the beginning. -/
theorem initial_boxes : BoxInv (fun _ => .handle 0) (Bridge.initial : Bridge ρ) where
  behind h := by cases h
  based h := by cases h
  taken h := by cases h
  live h := by cases h
  answered h := by cases h
  made h := by cases h
  housed h := by cases h

/-- Over a run with fewer slots than pointers, the pointers to boxes stay apart. -/
theorem run_boxes (run : BridgeRun pointers log bridge) (hroom : registrations log<pointers)
    (hpointers : pointers≤2^64) : ∃ home,BoxInv home bridge := by
  induction run with
  | start => exact ⟨_,initial_boxes⟩
  | @next log before after event earlier now ih =>
    rw [registrations_concat] at hroom
    obtain ⟨home,inv⟩ := ih (by omega)
    exact inv.step (run_slots earlier (by omega) hpointers) now (by omega)

/-- A step does away with the box that a call holds. -/
theorem releases_held (hstep : bridge.step pointers event=some after) {p : ℕ} {kind : Kind}
    (h : bridge.releases event=some (p,kind)) :
    ∃ (n : ℕ) (call : Call ρ),bridge.calls[n]?=some call ∧ Holds call ∧ call.pointer=p ∧
      call.function.kind=kind := by
  cases step_move hstep with
  | storageNew => cases h
  | start => cases h
  | register => cases h
  | @done number call hcall hphase hkind =>
    simp only [Bridge.releases,hcall,Option.bind_eq_bind,Option.bind_some,Bool.true_and] at h
    split at h
    next hconsumes =>
      obtain ⟨rfl,rfl⟩ := Prod.mk.inj (Option.some.inj h)
      refine ⟨number,call,hcall,(holds_iff (.inl hphase)).mpr ?_,rfl,rfl⟩
      exact takesOver_iff.mpr (.inl (of_decide_eq_true hconsumes))
    next => cases h
  | @refusedNow number call hcall =>
    simp only [Bridge.releases,hcall,Option.bind_eq_bind,Option.bind_some,Bool.false_and] at h
    cases h
  | @spawned number call hcall hphase hkind =>
    simp only [Bridge.releases,hcall,Option.bind_eq_bind,Option.bind_some,Bool.true_and] at h
    split at h
    next hconsumes =>
      obtain ⟨rfl,rfl⟩ := Prod.mk.inj (Option.some.inj h)
      refine ⟨number,call,hcall,(holds_iff (.inr (.inl hphase))).mpr ?_,rfl,rfl⟩
      exact takesOver_iff.mpr (.inl (of_decide_eq_true hconsumes))
    next => cases h
  | @refused number call hcall =>
    simp only [Bridge.releases,hcall,Option.bind_eq_bind,Option.bind_some,Bool.false_and] at h
    cases h
  | run => cases h
  | @complete number call payload success kinds answer hcall htask =>
    simp only [Bridge.releases,hcall,Option.bind_eq_bind,Option.bind_some] at h
    split at h
    next hkeeps =>
      obtain ⟨rfl,rfl⟩ := Prod.mk.inj (Option.some.inj h)
      exact ⟨number,call,hcall,⟨takesOver_iff.mpr (.inr hkeeps),.inr (.inr (.inr ⟨hkeeps,htask⟩))⟩,
        rfl,rfl⟩
    next => cases h
  | @finishRefused number call hcall hphase =>
    simp only [Bridge.releases,hcall,Option.bind_eq_bind,Option.bind_some,hphase] at h
    split at h
    next htakes =>
      obtain ⟨rfl,rfl⟩ := Prod.mk.inj (Option.some.inj h)
      exact ⟨number,call,hcall,(holds_iff (.inr (.inr hphase))).mpr htakes,rfl,rfl⟩
    next => cases h
  | @finishAnswered number call answer hcall hphase =>
    simp only [Bridge.releases,hcall,Option.bind_eq_bind,Option.bind_some,hphase] at h
    cases h
  | cancel => cases h

/-- What only looks into a box does not take it over. -/
theorem takesOver_of_clones {function : Exported} (h : function.access=.clones) :
    function.takesOver=false := by
  rw [Exported.takesOver,h]
  rfl

/-- Nor does what borrows it. -/
theorem takesOver_of_borrows {function : Exported} (h : function.access=.borrows) :
    function.takesOver=false := by
  rw [Exported.takesOver,h]
  rfl

/-- Nor does what refuses what it finds there. -/
theorem takesOver_of_read {function : Exported} (h : function.refusal=.read) :
    function.takesOver=false := by
  cases function <;> first | rfl | (simp only [Exported.refusal] at h; cases h)

/-- A call that looks into a box before it returns touches it. -/
theorem touching_of_looks {accepts : Bool}
    (h : (accepts && decide (call.function.access=.clones) ||
      !accepts && decide (call.function.refusal=.read))=true)
    (hphase : call.phase=.checked ∨ call.phase=.registered) : Touching call := by
  refine ⟨?_,hphase.imp_right .inl⟩
  rw [Bool.or_eq_true,Bool.and_eq_true,Bool.and_eq_true] at h
  obtain ⟨_,h⟩|⟨_,h⟩ := h
  · exact takesOver_of_clones (of_decide_eq_true h)
  · exact takesOver_of_read (of_decide_eq_true h)

/-- A function that stays in a box does not take it over. -/
theorem takesOver_of_lingers {function : Exported} (h : function.lingers=true) :
    function.takesOver=false := by
  rw [Exported.lingers,Bool.and_eq_true,decide_eq_true_iff] at h
  exact takesOver_of_clones h.2

/-- A step reads the box that a call holds or touches. -/
theorem reads_touched (hstep : bridge.step pointers event=some after) {p : ℕ} {kind : Kind}
    (h : bridge.reads event=some (p,kind)) :
    ∃ (n : ℕ) (call : Call ρ),bridge.calls[n]?=some call ∧ (Holds call ∨ Touching call) ∧
      call.pointer=p ∧ call.function.kind=kind := by
  have hlook : ∀ {number : ℕ} {accepts : Bool} {call : Call ρ},
      bridge.calls[number]?=some call → (call.phase=.checked ∨ call.phase=.registered) →
      bridge.reads (.enter number accepts)=some (p,kind) →
      ∃ (n : ℕ) (call : Call ρ),bridge.calls[n]?=some call ∧ (Holds call ∨ Touching call) ∧
        call.pointer=p ∧ call.function.kind=kind := by
    intro number accepts call hcall hphase h
    simp only [Bridge.reads,hcall,Option.bind_eq_bind,Option.bind_some] at h
    split at h
    next hlooks =>
      obtain ⟨rfl,rfl⟩ := Prod.mk.inj (Option.some.inj h)
      exact ⟨number,call,hcall,.inr (touching_of_looks hlooks hphase),rfl,rfl⟩
    next => cases h
  cases step_move hstep with
  | storageNew => cases h
  | start => cases h
  | register => cases h
  | done hcall hphase => exact hlook hcall (.inl hphase) h
  | refusedNow hcall hphase => exact hlook hcall (.inl hphase) h
  | spawned hcall hphase => exact hlook hcall (.inr hphase) h
  | refused hcall hphase => exact hlook hcall (.inr hphase) h
  | @run number call hcall hgoes =>
    simp only [Bridge.reads,hcall,Option.bind_eq_bind,Option.bind_some] at h
    split at h
    next htask =>
      split at h
      next hruns =>
        obtain ⟨rfl,rfl⟩ := Prod.mk.inj (Option.some.inj h)
        refine ⟨number,call,hcall,?_,rfl,rfl⟩
        rw [Bool.or_eq_true,decide_eq_true_iff,decide_eq_true_iff] at hruns
        obtain hborrows|hkeeps := hruns
        · exact .inr ⟨takesOver_of_borrows hborrows,.inr (.inr ⟨hborrows,htask⟩)⟩
        · exact .inl ⟨takesOver_iff.mpr (.inr hkeeps),.inr (.inr (.inr ⟨hkeeps,htask⟩))⟩
      next => cases h
    next hidle =>
      obtain ⟨rfl,rfl⟩ := Prod.mk.inj (Option.some.inj h)
      obtain ⟨hphase,hlingers⟩ := hgoes.resolve_left hidle
      exact ⟨number,call,hcall,.inr ⟨takesOver_of_lingers hlingers,.inl hphase⟩,rfl,rfl⟩
  | @complete number call payload success kinds answer hcall htask =>
    simp only [Bridge.reads,hcall,Option.bind_eq_bind,Option.bind_some] at h
    split at h
    next hborrows =>
      obtain ⟨rfl,rfl⟩ := Prod.mk.inj (Option.some.inj h)
      exact ⟨number,call,hcall,.inr ⟨takesOver_of_borrows hborrows,.inr (.inr ⟨hborrows,htask⟩)⟩,
        rfl,rfl⟩
    next => cases h
  | finishRefused => cases h
  | finishAnswered => cases h
  | cancel => cases h

/-- A call that touches a box has the pointer of an open handle or of one that is closed. -/
theorem Touching.begun (h : Touching call) (hvalid : Valid call) :
    call.phase≠.returned .closed := by
  rintro hphase
  obtain ⟨_,hp|hp|⟨_,htask⟩⟩ := h
  · exact absurd (hphase.symm.trans hp) (fun h => by cases h)
  · exact absurd (hphase.symm.trans hp) (fun h => by cases h)
  · simp only [Valid,hphase] at hvalid
    exact absurd (hvalid.2.1.symm.trans htask) (fun h => by cases h)

/-- A box that has gone stays so while others go. -/
theorem releaseIf_gone {applies : Bool} {pointer p : ℕ} {kind : Kind}
    (h : bridge.boxes[p]?=some ⟨kind,false⟩) :
    (bridge.releaseIf applies pointer).boxes[p]?=some ⟨kind,false⟩ := by
  cases applies with
  | false => exact h
  | true =>
    rw [Bridge.releaseIf,if_pos rfl,release_boxes,h,Option.map_some]
    split <;> rfl

/-- A box that is done away with has gone. -/
theorem releaseIf_now {p : ℕ} {kind : Kind} {live : Bool}
    (h : bridge.boxes[p]?=some ⟨kind,live⟩) :
    (bridge.releaseIf true p).boxes[p]?=some ⟨kind,false⟩ := by
  rw [Bridge.releaseIf,if_pos rfl,release_boxes,h,Option.map_some,if_pos rfl]

/-- The boxes are not changed by what goes through the slots. -/
theorem resolve_boxes {context : ℕ} {answer : Answer ρ} :
    (bridge.resolve context answer).boxes=bridge.boxes := by
  unfold Bridge.resolve
  split <;> rfl

/-- What was gone before a step is so afterwards. -/
theorem gone_step (hstep : bridge.step pointers event=some after) {p : ℕ} {kind : Kind}
    (h : bridge.boxes[p]?=some ⟨kind,false⟩) : after.boxes[p]?=some ⟨kind,false⟩ := by
  have hlt := (List.getElem?_eq_some_iff.mp h).1
  cases step_move hstep with
  | storageNew => exact (allocate_boxes hlt).trans h
  | start => exact h
  | register => exact h
  | done => exact releaseIf_gone h
  | refusedNow => exact h
  | spawned => exact releaseIf_gone h
  | refused => exact h
  | run => exact h
  | @complete number call payload success kinds answer hcall htask =>
    rw [resolve_boxes]
    have hgone := @releaseIf_gone _ _ (decide (call.function.access=.keeps)) call.pointer _ _ h
    exact (allocate_boxes (List.getElem?_eq_some_iff.mp hgone).1).trans hgone
  | finishRefused => exact releaseIf_gone h
  | finishAnswered => exact h
  | cancel => exact h

/-- What a step does away with is gone afterwards. -/
theorem gone_of_released (hstep : bridge.step pointers event=some after) {p : ℕ} {kind : Kind}
    {live : Bool} (hbox : bridge.boxes[p]?=some ⟨kind,live⟩)
    (h : bridge.releases event=some (p,kind)) : after.boxes[p]?=some ⟨kind,false⟩ := by
  cases step_move hstep with
  | storageNew => cases h
  | start => cases h
  | register => cases h
  | @done number call hcall =>
    simp only [Bridge.releases,hcall,Option.bind_eq_bind,Option.bind_some,Bool.true_and] at h
    split at h
    next hconsumes =>
      obtain ⟨rfl,_⟩ := Prod.mk.inj (Option.some.inj h)
      rw [hconsumes]
      exact releaseIf_now hbox
    next => cases h
  | @refusedNow number call hcall =>
    simp only [Bridge.releases,hcall,Option.bind_eq_bind,Option.bind_some,Bool.false_and] at h
    cases h
  | @spawned number call hcall =>
    simp only [Bridge.releases,hcall,Option.bind_eq_bind,Option.bind_some,Bool.true_and] at h
    split at h
    next hconsumes =>
      obtain ⟨rfl,_⟩ := Prod.mk.inj (Option.some.inj h)
      rw [hconsumes]
      exact releaseIf_now hbox
    next => cases h
  | @refused number call hcall =>
    simp only [Bridge.releases,hcall,Option.bind_eq_bind,Option.bind_some,Bool.false_and] at h
    cases h
  | run => cases h
  | @complete number call payload success kinds answer hcall =>
    simp only [Bridge.releases,hcall,Option.bind_eq_bind,Option.bind_some] at h
    split at h
    next hkeeps =>
      obtain ⟨rfl,_⟩ := Prod.mk.inj (Option.some.inj h)
      have hgone := releaseIf_now hbox
      rw [resolve_boxes,decide_eq_true hkeeps]
      exact (allocate_boxes (List.getElem?_eq_some_iff.mp hgone).1).trans hgone
    next => cases h
  | @finishRefused number call hcall hphase =>
    simp only [Bridge.releases,hcall,Option.bind_eq_bind,Option.bind_some,hphase] at h
    split at h
    next htakes =>
      obtain ⟨rfl,_⟩ := Prod.mk.inj (Option.some.inj h)
      rw [htakes]
      exact releaseIf_now hbox
    next => cases h
  | @finishAnswered number call answer hcall hphase =>
    simp only [Bridge.releases,hcall,Option.bind_eq_bind,Option.bind_some,hphase] at h
    cases h
  | cancel => cases h

/-- What a step does away with is there, and holds what is expected. -/
theorem released_live {home : ℕ→Home} (inv : BoxInv home bridge) (slots : SlotInv count bridge)
    (hstep : bridge.step pointers event=some after) {p : ℕ} {kind : Kind}
    (h : bridge.releases event=some (p,kind)) : bridge.boxes[p]?=some ⟨kind,true⟩ := by
  obtain ⟨n,call,hcall,hholds,rfl,rfl⟩ := releases_held hstep h
  exact inv.held hcall (slots.valid hcall) hholds

/-- A session is there and its handle is open. -/
def sessionKept : Bridge ℕ :=
  ⟨[⟨.servingSession,true⟩],[⟨.servingSession,0,false⟩],[],0,fun _ => none⟩

/-- In Kotlin a session that is closed and run then is done away with twice. -/
theorem boxes_freed_once_slipped :
    (sessionKept.bindingStep .kotlin (2^64) (.own (.start 0 (.free .servingSession)))).bind
        (fun bridge => (bridge.bindingStep .kotlin (2^64) (.own (.enter 0 true))).bind
          fun bridge => (bridge.bindingStep .kotlin (2^64) (.slip 0 .servingSessionRun)).bind
            fun bridge => (bridge.bindingStep .kotlin (2^64) (.own (.register 1))).map
              fun bridge => (bridge.releases (.enter 1 true),bridge.boxes[0]?))=
      some (some (0,.servingSession),some ⟨.servingSession,false⟩) := by
  decide

/-- And conversely. -/
theorem unclaimed_of_phase {answer : Answer ρ} (h : call.task=.ended answer)
    (hphase : call.phase=.waiting ∨ call.phase=.returned .cancelled) : Unclaimed call answer := by
  refine ⟨h,fun other hreturned => ?_⟩
  obtain hphase|hphase := hphase <;>
    exact absurd (hphase.symm.trans hreturned) (fun h => by cases h)

/-- A call that was cancelled, and whose task has ended, stays as it is. -/
theorem cancelled_stays (hcall : bridge.calls[number]?=some call)
    (hphase : call.phase=.returned .cancelled) {answer : Answer ρ}
    (hended : call.task=.ended answer) (slots : SlotInv count bridge) (hroom : count<pointers)
    (hstep : bridge.step pointers event=some after) : after.calls[number]?=some call := by
  have hset : ∀ {n : ℕ} {other other' : Call ρ},bridge.calls[n]?=some other →
      (other.phase≠.returned .cancelled ∨ other.task=.running) →
      (bridge.calls.set n other')[number]?=some call := by
    intro n other other' hother hne
    refine (getElem?_set_iff hother).mpr (.inr ⟨?_,hcall⟩)
    rintro rfl
    obtain rfl := Option.some.inj (hcall.symm.trans hother)
    obtain hne|hrunning := hne
    · exact hne hphase
    · exact absurd (hrunning.symm.trans hended) (fun h => by cases h)
  cases step_move hstep with
  | storageNew => exact hcall
  | start => exact getElem?_concat_iff.mpr (.inl hcall)
  | register hother hp => exact hset hother (.inl (hp ▸ fun h => by cases h))
  | done hother hp =>
    rw [releaseIf_setCall_calls]
    exact hset hother (.inl (hp ▸ fun h => by cases h))
  | refusedNow hother hp => exact hset hother (.inl (hp ▸ fun h => by cases h))
  | spawned hother hp =>
    rw [releaseIf_setCall_calls]
    exact hset hother (.inl (hp ▸ fun h => by cases h))
  | refused hother hp => exact hset hother (.inl (hp ▸ fun h => by cases h))
  | run => exact hcall
  | @complete n other payload success kinds answer hother htask =>
    rw [slots.resolve hroom hother htask ((bridge.releaseIf (other.function.access=.keeps)
      other.pointer).allocate kinds) releaseIf_calls releaseIf_pending]
    exact hset hother (.inr htask)
  | @finishRefused n other hother hp =>
    show ((bridge.releaseIf _ _).setCall n _).calls[number]?=_
    rw [releaseIf_setCall_calls]
    exact hset hother (.inl (hp ▸ fun h => by cases h))
  | finishAnswered hother hp => exact hset hother (.inl (hp ▸ fun h => by cases h))
  | cancel hother hp => exact hset hother (.inl (hp ▸ fun h => by cases h))

/-- The boxes that come for a call which was cancelled stay, and no handle ever has them. -/
theorem cancelled_boxes_lost {log later : List (Event ρ)} (run : BridgeRun pointers log bridge)
    (rest : Run (fun _ before event after => before.step pointers event=some after) bridge later
      after)
    (hroom : registrations log+registrations later<pointers) (hpointers : pointers≤2^64)
    (hcall : bridge.calls[number]?=some call) (hphase : call.phase=.returned .cancelled)
    {answer : Answer ρ} (hended : call.task=.ended answer) {p : ℕ} (hmem : p∈answer.boxes) :
    (∃ kind,after.boxes[p]?=some ⟨kind,true⟩) ∧
      ∀ (h : ℕ) (handle : Handle),after.handles[h]?=some handle → handle.pointer≠p := by
  have hstays : ∀ {later : List (Event ρ)} {after : Bridge ρ},
      Run (fun _ before event after => before.step pointers event=some after) bridge later after →
      registrations log+registrations later<pointers → after.calls[number]?=some call := by
    intro later after rest
    induction rest with
    | start => exact fun _ => hcall
    | @next later before after event earlier now ih =>
      intro hroom
      rw [registrations_concat] at hroom
      have hbefore := run.follow (fun _ _ _ _ _ h => h) earlier
      have hcount : registrations (log++later)=registrations log+registrations later :=
        List.countP_append
      exact cancelled_stays (ih (by omega)) hphase hended
        (run_slots hbefore (by omega) hpointers) (by omega) now
  have hrun := run.follow (fun _ _ _ _ _ h => h) rest
  have hcount : registrations (log++later)=registrations log+registrations later :=
    List.countP_append
  obtain ⟨home,inv⟩ := run_boxes hrun (by omega) hpointers
  obtain ⟨i,hi⟩ := List.mem_iff_getElem?.mp hmem
  have hafter := hstays rest hroom
  have hclaim := unclaimed_of_phase hended (.inr hphase)
  obtain ⟨kind,_,hlive⟩ := inv.answer_box hafter hclaim hi
  refine ⟨⟨kind,hlive⟩,?_⟩
  rintro h handle hhandle rfl
  exact absurd ((inv.answered hafter hclaim hi).symm.trans (inv.behind hhandle).1)
    (fun h => by cases h)

/-- The restoring of a node is cancelled before it is through. -/
def abandoning : List (Event ℕ) :=
  [.storageNew,.start 0 .storageRestoreOrInit,.register 0,.enter 0 true,.cancel 0,
    .complete 0 7 true]

/-- What there is afterwards. -/
def abandoned : Bridge ℕ := (abandoning.foldlM (Bridge.step (2^64)) .initial).getD .initial

/-- The abandoning is a run. -/
theorem abandoning_run : BridgeRun (2^64) abandoning abandoned :=
  Run.extend (fun _ _ _ _ h => h) .start (show abandoning.foldlM _ _=some abandoned from rfl)

/-- The node that was restored for it stays, and nobody has it. -/
theorem cancelled_boxes_lost_abandoned : (∃ kind,abandoned.boxes[1]?=some ⟨kind,true⟩) ∧
    ∀ (h : ℕ) (handle : Handle),abandoned.handles[h]?=some handle → handle.pointer≠1 :=
  cancelled_boxes_lost abandoning_run .start (by decide) (Nat.le_refl _)
    (show abandoned.calls[0]?=some _ from rfl) rfl rfl (List.mem_singleton_self 1)

/-- Whoever touches a box found its handle open, and it still is. -/
def CareInv (bridge : Bridge ρ) : Prop :=
  ∀ (n : ℕ) (call : Call ρ) (handle : Handle),bridge.calls[n]?=some call → Touching call →
    bridge.handles[call.handle]?=some handle → handle.closed=false

/-- A call may change that touches its box no more than before. -/
theorem CareInv.change (care : CareInv bridge) (hcall : bridge.calls[number]?=some call)
    (hcalls : after.calls=bridge.calls.set number call')
    (hhandles : after.handles=bridge.handles) (hhandle : call'.handle=call.handle)
    (htouch : Touching call' → Touching call) : CareInv after := by
  intro n c handle hget hc hh
  rw [hcalls] at hget
  rw [hhandles] at hh
  obtain ⟨_,rfl⟩|⟨_,hg⟩ := (getElem?_set_iff hcall).mp hget
  · exact care _ _ _ hcall (htouch hc) (hhandle ▸ hh)
  · exact care _ _ _ hg hc hh

/-- A call that has returned or was refused, and whose task does not run, touches nothing. -/
theorem not_touching (h : call.phase≠.checked) (h' : call.phase≠.registered)
    (htask : call.task≠.running) : ¬Touching call := by
  rintro ⟨_,hp|hp|⟨_,hrunning⟩⟩
  · exact h hp
  · exact h' hp
  · exact htask hrunning

/-- A careful step keeps the handles open that are used. -/
theorem CareInv.step {home : ℕ→Home} (care : CareInv bridge) (inv : BoxInv home bridge)
    (slots : SlotInv count bridge) (hroom : count<pointers)
    (hstep : CarefulStep pointers log bridge event after) : CareInv after := by
  obtain ⟨hstep,hcareful⟩ := hstep
  cases step_move hstep with
  | storageNew =>
    intro n c handle hget hc hh
    obtain hh|⟨heq,_⟩ := getElem?_concat_iff.mp hh
    · exact care _ _ _ hget hc hh
    · obtain ⟨own,hown,_⟩ := inv.based hget (hc.begun (slots.valid hget))
      exact absurd (List.getElem?_eq_some_iff.mp hown).1 (Nat.not_lt.mpr (Nat.le_of_eq heq.symm))
  | @start number function handle hhandle hkind =>
    intro n c found hget hc hh
    replace hh : (if function.takesOver then bridge.handles.set number {handle with closed := true}
      else bridge.handles)[c.handle]?=some found := hh
    obtain hget|⟨_,rfl⟩ := getElem?_concat_iff.mp hget
    · split at hh
      next htakes =>
        obtain ⟨heq,_⟩|⟨_,hh⟩ := (getElem?_set_iff hhandle).mp hh
        · exact absurd hc (hcareful number function rfl htakes n c hget heq)
        · exact care _ _ _ hget hc hh
      next => exact care _ _ _ hget hc hh
    · have hnot : function.takesOver=false := hc.1
      rw [hnot] at hh
      obtain rfl := Option.some.inj (hhandle.symm.trans hh)
      cases hclosed : handle.closed with
      | false => rfl
      | true =>
        rw [Handle.begin,hclosed] at hc
        exact absurd hc (not_touching (fun h => by cases h) (fun h => by cases h)
          (fun h => by cases h))
  | @register number call hcall hphase hkind =>
    exact care.change hcall rfl rfl rfl fun h => ⟨h.1,.inl hphase⟩
  | @done number call hcall hphase hkind =>
    refine care.change hcall releaseIf_setCall_calls releaseIf_handles rfl fun h => ?_
    exact ⟨h.1,.inl hphase⟩
  | @refusedNow number call hcall hphase hkind hrefusal =>
    exact care.change hcall rfl rfl rfl fun h => ⟨h.1,.inl hphase⟩
  | @spawned number call hcall hphase hkind =>
    exact care.change hcall releaseIf_setCall_calls releaseIf_handles rfl
      fun h => ⟨h.1,.inr (.inl hphase)⟩
  | @refused number call hcall hphase hkind hrefusal =>
    exact care.change hcall rfl rfl rfl fun h => ⟨h.1,.inr (.inl hphase)⟩
  | run => exact care
  | @complete number call payload success kinds answer hcall htask =>
    rw [slots.resolve hroom hcall htask ((bridge.releaseIf (call.function.access=.keeps)
      call.pointer).allocate kinds) releaseIf_calls releaseIf_pending]
    obtain ⟨_,hphase⟩ := (slots.valid hcall).of_running htask
    refine care.change hcall rfl releaseIf_handles rfl (absurd · (not_touching ?_ ?_ ?_))
    · obtain ⟨hp,_⟩|hp := hphase <;> exact fun h => absurd (hp.symm.trans h) (fun h => by cases h)
    · obtain ⟨hp,_⟩|hp := hphase <;> exact fun h => absurd (hp.symm.trans h) (fun h => by cases h)
    · exact fun h => by cases h
  | @finishRefused number call hcall hphase =>
    have hvalid := slots.valid hcall
    simp only [Valid,hphase] at hvalid
    refine care.change hcall releaseIf_setCall_calls releaseIf_handles rfl
      (absurd · (not_touching (fun h => by cases h) (fun h => by cases h) ?_))
    exact fun h => absurd (hvalid.2.1.symm.trans h) (fun h => by cases h)
  | @finishAnswered number call answer hcall hphase hslot =>
    have hvalid := slots.valid hcall
    simp only [Valid,hphase] at hvalid
    have hended : ∃ answer,call.task=.ended answer := by
      obtain ⟨_,⟨_,hnone⟩|⟨answer,hended,_⟩⟩ := hvalid
      · exact absurd (hnone.symm.trans hslot) (fun h => by cases h)
      · exact ⟨answer,hended⟩
    obtain ⟨_,hended⟩ := hended
    intro n c handle hget hc hh
    obtain ⟨_,rfl⟩|⟨_,hg⟩ := (getElem?_set_iff hcall).mp hget
    · exact absurd hc (not_touching (fun h => by cases h) (fun h => by cases h)
        fun h => absurd (hended.symm.trans h) (fun h => by cases h))
    · obtain ⟨own,hown,_⟩ := inv.based hg (hc.begun (slots.valid hg))
      obtain hh|⟨i,_,_,heq,_⟩ := getElem?_handles.mp hh
      · exact care _ _ _ hg hc hh
      · have hlt := (List.getElem?_eq_some_iff.mp hown).1
        omega
  | @cancel number call hcall hphase =>
    refine care.change hcall rfl rfl rfl fun h => ⟨h.1,?_⟩
    obtain hp|hp|hruns := h.2
    · cases hp
    · cases hp
    · exact .inr (.inr hruns)

/-- A careful run is a run. -/
theorem bridgeRun_of_careful (run : CarefulRun pointers log bridge) :
    BridgeRun pointers log bridge := run.mono fun _ _ _ _ h => h.1

/-- Over a careful run, whoever touches a box found its handle open, and it still is. -/
theorem run_care (run : CarefulRun pointers log bridge) (hroom : registrations log<pointers)
    (hpointers : pointers≤2^64) : CareInv bridge := by
  induction run with
  | start => exact fun n call handle h => by cases h
  | @next log before after event earlier now ih =>
    rw [registrations_concat] at hroom
    have hrun := bridgeRun_of_careful earlier
    obtain ⟨home,inv⟩ := run_boxes hrun (by omega) hpointers
    exact (ih (by omega)).step inv (run_slots hrun (by omega) hpointers) (by omega) now

/-- After a careful run, what a step reads is there. -/
theorem careful_reads (run : CarefulRun pointers log bridge) (hroom : registrations log<pointers)
    (hpointers : pointers≤2^64) (hstep : bridge.step pointers event=some after) {p : ℕ}
    {kind : Kind} (h : bridge.reads event=some (p,kind)) :
    bridge.boxes[p]?=some ⟨kind,true⟩ := by
  have slots := run_slots (bridgeRun_of_careful run) hroom hpointers
  obtain ⟨home,inv⟩ := run_boxes (bridgeRun_of_careful run) hroom hpointers
  obtain ⟨n,call,hcall,huse,rfl,rfl⟩ := reads_touched hstep h
  have hvalid := slots.valid hcall
  obtain hholds|htouch := huse
  · exact inv.held hcall hvalid hholds
  · obtain ⟨handle,hhandle,hpointer,hkind,_⟩ := inv.based hcall (htouch.begun hvalid)
    have hopen := run_care run hroom hpointers _ _ _ hcall htouch hhandle
    obtain ⟨_,live,hbox⟩ := inv.behind hhandle
    obtain rfl := (inv.live hhandle hbox).mpr (.inl hopen)
    rw [←hpointer,←hkind]
    exact hbox

/-- A call can get a slot. -/
theorem register_possible (pointers : ℕ) (hcall : bridge.calls[number]?=some call)
    (hphase : call.phase=.checked) (hkind : call.function.synchronous=false) :
    ∃ after id,bridge.step pointers (.register number)=some after ∧
      after.calls=bridge.calls.set number {call with id := id, phase := .registered} ∧
      after.handles=bridge.handles := by
  have hstep : bridge.step pointers (.register number)=
      some {bridge.setCall number {call with id := addId bridge.nextId, phase := .registered} with
        nextId := addId bridge.nextId
        pending := Function.update bridge.pending (addId bridge.nextId) (some number)} := by
    simp only [Bridge.step,hcall,Option.bind_eq_bind,Option.bind_some,hphase,hkind]
  exact ⟨_,_,hstep,rfl,rfl⟩

/-- A synchronous function can be called. -/
theorem done_possible (pointers : ℕ) (hcall : bridge.calls[number]?=some call)
    (hphase : call.phase=.checked) (hkind : call.function.synchronous=true) :
    bridge.step pointers (.enter number true)=
      some ((bridge.releaseIf (call.function.access=.consumes) call.pointer).setCall number
        {call with phase := .returned .done}) := by
  simp only [Bridge.step,hcall,Option.bind_eq_bind,Option.bind_some,hphase,hkind]

/-- A task can be started. -/
theorem spawn_possible (pointers : ℕ) (hcall : bridge.calls[number]?=some call)
    (hphase : call.phase=.registered) (hkind : call.function.synchronous=false) :
    ∃ after,bridge.step pointers (.enter number true)=some after ∧
      after.calls[number]?=some {call with phase := .waiting, task := .running} := by
  have hstep : bridge.step pointers (.enter number true)=
      some ((bridge.releaseIf (call.function.access=.consumes) call.pointer).setCall number
        {call with phase := .waiting, task := .running}) := by
    simp only [Bridge.step,hcall,Option.bind_eq_bind,Option.bind_some,hphase,hkind]
  refine ⟨_,hstep,?_⟩
  rw [releaseIf_setCall_calls]
  exact List.getElem?_set_self (List.getElem?_eq_some_iff.mp hcall).1

/-- A task can end. -/
theorem complete_possible (pointers : ℕ) (payload : ρ) (hcall : bridge.calls[number]?=some call)
    (htask : call.task=.running) :
    ∃ after,bridge.step pointers (.complete number payload false)=some after := by
  simp only [Bridge.step,hcall,Option.bind_eq_bind,Option.bind_some,htask]
  exact ⟨_,rfl⟩

/-- From a state on, without giving back what is in use and with few new slots, a box can be
read that has gone. -/
def Faults (pointers budget : ℕ) (bridge : Bridge ρ) : Prop :=
  ∃ later after event next p kind,Run (CarefulStep pointers) bridge later after ∧
    registrations later≤budget ∧ after.step pointers event=some next ∧
    after.reads event=some (p,kind) ∧ after.boxes[p]?≠some ⟨kind,true⟩

/-- What is no start gives nothing back. -/
theorem careful_of_call (h : ∀ number function,event≠.start number function) :
    Careful bridge event := fun number function heq => absurd heq (h number function)

/-- A step may come before the others. -/
theorem Faults.before {budget : ℕ} (h : Faults pointers budget after)
    (hstep : bridge.step pointers event=some after)
    (hevent : ∀ number function,event≠.start number function) :
    Faults pointers (budget+if isRegister event then 1 else 0) bridge := by
  obtain ⟨later,last,event',next,p,kind,run,hbudget,hnext,hreads,hgone⟩ := h
  have hfirst : Run (CarefulStep pointers) bridge [event] after :=
    Run.next .start ⟨hstep,careful_of_call hevent⟩
  refine ⟨_,last,event',next,p,kind,hfirst.follow (fun _ _ _ _ _ h => h) run,?_,hnext,hreads,hgone⟩
  rw [registrations,List.countP_append,List.countP_singleton,←registrations]
  omega

/-- More slots may be had. -/
theorem Faults.mono {budget budget' : ℕ} (h : Faults pointers budget bridge)
    (hle : budget≤budget') : Faults pointers budget' bridge := by
  obtain ⟨later,last,event,next,p,kind,run,hbudget,hrest⟩ := h
  exact ⟨later,last,event,next,p,kind,run,Nat.le_trans hbudget hle,hrest⟩

/-- What does not take a box over looks into it at once or borrows it. -/
theorem access_of_untaken {function : Exported} (htakes : function.takesOver=false) :
    function.access=.clones ∨ function.access=.borrows := by
  cases haccess : function.access with
  | clones => exact .inl rfl
  | borrows => exact .inr rfl
  | consumes => exact absurd (takesOver_iff.mpr (.inl haccess)) (htakes ▸ fun h => by cases h)
  | keeps => exact absurd (takesOver_iff.mpr (.inr haccess)) (htakes ▸ fun h => by cases h)

/-- A synchronous function does not borrow. -/
theorem synchronous_of_borrows {function : Exported} (h : function.access=.borrows) :
    function.synchronous=false := by
  cases function <;> first | rfl | (simp only [Exported.access] at h; cases h)

/-- A call that touches a box which has gone can read it. -/
theorem faults_of_touching (hcall : bridge.calls[number]?=some call) (hvalid : Valid call)
    (htouch : Touching call) {kind : Kind} (hgone : bridge.boxes[call.pointer]?=some ⟨kind,false⟩) :
    Faults pointers 1 bridge := by
  obtain ⟨htakes,hstate⟩ := htouch
  have hruns : ∀ {b : Bridge ρ} {c : Call ρ},b.calls[number]?=some c → c.task=.running →
      c.function.access=.borrows → b.boxes[c.pointer]?=some ⟨kind,false⟩ →
      Faults pointers 0 b := by
    intro b c hc htask hborrows hgone
    refine ⟨[],b,.run number,b,c.pointer,c.function.kind,.start,Nat.le_refl _,?_,?_,?_⟩
    · simp only [Bridge.step,hc,Option.bind_eq_bind,Option.bind_some,htask]
    · simp only [Bridge.reads,hc,Option.bind_eq_bind,Option.bind_some,htask,hborrows,decide_true,
        Bool.true_or,if_true]
    · rw [hgone]
      exact fun h => by cases h
  have hlooks : ∀ {b : Bridge ρ} {c : Call ρ} {next : Bridge ρ},b.calls[number]?=some c →
      b.step pointers (.enter number true)=some next → c.function.access=.clones →
      b.boxes[c.pointer]?=some ⟨kind,false⟩ → Faults pointers 0 b := by
    intro b c next hc hstep hclones hgone
    refine ⟨[],b,.enter number true,next,c.pointer,c.function.kind,.start,Nat.le_refl _,hstep,?_,
      ?_⟩
    · simp only [Bridge.reads,hc,Option.bind_eq_bind,Option.bind_some,hclones,decide_true,
        Bool.true_and,Bool.true_or,if_true]
    · rw [hgone]
      exact fun h => by cases h
  have hregistered : ∀ {b : Bridge ρ} {c : Call ρ},b.calls[number]?=some c →
      c.phase=.registered → c.function.synchronous=false → c.function.takesOver=false →
      b.boxes[c.pointer]?=some ⟨kind,false⟩ → Faults pointers 0 b := by
    intro b c hc hphase hkind htakes hgone
    obtain ⟨after,hstep,hafter⟩ := spawn_possible pointers hc hphase hkind
    obtain hclones|hborrows := access_of_untaken htakes
    · exact hlooks hc hstep hclones hgone
    · exact (hruns hafter rfl hborrows (gone_step hstep hgone)).before hstep
        (fun _ _ h => by cases h)
  obtain hphase|hphase|⟨hborrows,htask⟩ := hstate
  · cases hkind : call.function.synchronous with
    | true =>
      have hclones := (access_of_untaken htakes).resolve_right fun hborrows =>
        absurd (hkind.symm.trans (synchronous_of_borrows hborrows)) (fun h => by cases h)
      exact (hlooks hcall (done_possible pointers hcall hphase hkind) hclones hgone).mono
        (Nat.zero_le _)
    | false =>
      obtain ⟨after,id,hstep,hcalls,_⟩ := register_possible pointers hcall hphase hkind
      have hlt := (List.getElem?_eq_some_iff.mp hcall).1
      have hafter : after.calls[number]?=some {call with id := id, phase := .registered} := by
        rw [hcalls]
        exact List.getElem?_set_self hlt
      exact (hregistered hafter rfl hkind htakes (gone_step hstep hgone)).before hstep
        (fun _ _ h => by cases h)
  · simp only [Valid,hphase] at hvalid
    exact (hregistered hcall hphase hvalid.2.2.2 htakes hgone).mono (Nat.zero_le _)
  · exact (hruns hcall htask hborrows hgone).mono (Nat.zero_le _)

/-- The call that an event is about. -/
def callOf : Event ρ→Option ℕ
  | .storageNew | .start _ _ => none
  | .register number | .enter number _ | .run number | .complete number _ _ | .finish number
  | .cancel number => some number

/-- A step about one call leaves the others as they are. -/
theorem others_stay (slots : SlotInv count bridge) (hroom : count<pointers)
    (hstep : bridge.step pointers event=some after) {n : ℕ}
    (hcall : bridge.calls[n]?=some call) (hevent : callOf event≠some n) :
    after.calls[n]?=some call := by
  have hset : ∀ {number : ℕ} {other other' : Call ρ},bridge.calls[number]?=some other →
      n≠number → (bridge.calls.set number other')[n]?=some call :=
    fun hother hne => (getElem?_set_iff hother).mpr (.inr ⟨hne,hcall⟩)
  cases step_move hstep with
  | storageNew => exact hcall
  | start => exact getElem?_concat_iff.mpr (.inl hcall)
  | register hother => exact hset hother fun heq => hevent (congrArg some heq.symm)
  | done hother =>
    rw [releaseIf_setCall_calls]
    exact hset hother fun heq => hevent (congrArg some heq.symm)
  | refusedNow hother => exact hset hother fun heq => hevent (congrArg some heq.symm)
  | spawned hother =>
    rw [releaseIf_setCall_calls]
    exact hset hother fun heq => hevent (congrArg some heq.symm)
  | refused hother => exact hset hother fun heq => hevent (congrArg some heq.symm)
  | run => exact hcall
  | @complete number other payload success kinds answer hother htask =>
    rw [slots.resolve hroom hother htask ((bridge.releaseIf (other.function.access=.keeps)
      other.pointer).allocate kinds) releaseIf_calls releaseIf_pending]
    exact hset hother fun heq => hevent (congrArg some heq.symm)
  | @finishRefused number other hother =>
    show ((bridge.releaseIf _ _).setCall number _).calls[n]?=_
    rw [releaseIf_setCall_calls]
    exact hset hother fun heq => hevent (congrArg some heq.symm)
  | finishAnswered hother => exact hset hother fun heq => hevent (congrArg some heq.symm)
  | cancel hother => exact hset hother fun heq => hevent (congrArg some heq.symm)

/-- A call that takes a box over can do away with it, and then another can read it that
touches it. -/
theorem faults_of_taken [Inhabited ρ] {taker : Call ρ} {m : ℕ}
    (run : BridgeRun pointers log bridge) (hroom : registrations log+1<pointers)
    (hpointers : pointers≤2^64) (htaker : bridge.calls[number]?=some taker)
    (hphase : taker.phase=.checked) (htakes : taker.function.takesOver=true)
    (hcall : bridge.calls[m]?=some call) (htouch : Touching call)
    (hpointer : call.pointer=taker.pointer) : Faults pointers 2 bridge := by
  have hne : m≠number := by
    rintro rfl
    obtain rfl := Option.some.inj (hcall.symm.trans htaker)
    exact absurd (htouch.1.symm.trans htakes) (fun h => by cases h)
  have hlast : ∀ {log' : List (Event ρ)} {b next : Bridge ρ} {event : Event ρ} {kind : Kind},
      BridgeRun pointers log' b → registrations log'<pointers → isRegister event=false →
      callOf event=some number → b.step pointers event=some next →
      b.releases event=some (call.pointer,kind) → b.calls[m]?=some call →
      Faults pointers 1 b := by
    intro log' b next event kind run' hroom' hregister hof hstep hreleases hm
    have slots := run_slots run' hroom' hpointers
    obtain ⟨home,inv⟩ := run_boxes run' hroom' hpointers
    have hgone := gone_of_released hstep (released_live inv slots hstep hreleases) hreleases
    have hstays := others_stay slots hroom' hstep hm
      (hof ▸ fun heq => hne (Option.some.inj heq).symm)
    have hfaults := (faults_of_touching hstays (slots.valid hm) htouch hgone).before hstep
      fun _ _ h => by rw [h] at hof; cases hof
    rw [hregister] at hfaults
    exact hfaults
  have slots := run_slots run (by omega) hpointers
  cases hkind : taker.function.synchronous with
  | true =>
    have hconsumes := (takesOver_iff.mp htakes).resolve_right fun hkeeps =>
      absurd (hkind.symm.trans (synchronous_of_keeps hkeeps)) (fun h => by cases h)
    have hstep := done_possible pointers htaker hphase hkind
    have hreleases : bridge.releases (.enter number true)=
        some (call.pointer,taker.function.kind) := by
      simp only [Bridge.releases,htaker,Option.bind_eq_bind,Option.bind_some,hconsumes,decide_true,
        Bool.true_and,if_true,hpointer]
    exact (hlast run (by omega) rfl rfl hstep hreleases hcall).mono (by omega)
  | false =>
    obtain ⟨b,id,hstep,hcalls,_⟩ := register_possible pointers htaker hphase hkind
    have hrun := run.next hstep
    have hcount : registrations (log++[.register number])=registrations log+1 := by
      rw [registrations_concat]
      rfl
    have hregistered : b.calls[number]?=some {taker with id := id, phase := .registered} := by
      rw [hcalls]
      exact List.getElem?_set_self (List.getElem?_eq_some_iff.mp htaker).1
    have hm := others_stay slots (by omega) hstep hcall (fun heq => hne (Option.some.inj heq).symm)
    obtain ⟨c,hspawn,hrunning⟩ := spawn_possible pointers hregistered rfl hkind
    have hfaults : Faults pointers 1 b := by
      obtain hconsumes|hkeeps := takesOver_iff.mp htakes
      · have hreleases : b.releases (.enter number true)=
            some (call.pointer,taker.function.kind) := by
          simp only [Bridge.releases,hregistered,Option.bind_eq_bind,Option.bind_some,hconsumes,
            decide_true,Bool.true_and,if_true,hpointer]
        exact hlast hrun (by omega) rfl rfl hspawn hreleases hm
      · have hrun' := hrun.next hspawn
        have hcount' : registrations (log++[.register number]++[.enter number true])=
            registrations log+1 := by
          rw [registrations_concat,hcount]
          rfl
        have hm' := others_stay (run_slots hrun (by omega) hpointers) (by omega) hspawn hm
          (fun heq => hne (Option.some.inj heq).symm)
        obtain ⟨next,hcomplete⟩ := complete_possible pointers default hrunning rfl
        have hreleases : c.releases (.complete number default false)=
            some (call.pointer,taker.function.kind) := by
          simp only [Bridge.releases,hrunning,Option.bind_eq_bind,Option.bind_some,hkeeps,if_true,
            hpointer]
        exact (hlast hrun' (by omega) rfl rfl hcomplete hreleases hm').before hspawn
          (fun _ _ h => by cases h)
    exact hfaults.before hstep (fun _ _ h => by cases h)

/-- After a careful run, a handle is given back. A box that has gone can be read from there
on, without giving back what is in use, if and only if a call on that handle is about to
call its function, is in one that returns once it is done, or has its task in the box. -/
theorem giving_back_faults_iff [Inhabited ρ] {log : List (Event ρ)} {begun : Bridge ρ} {h : ℕ}
    {handle : Handle} {function : Exported} {budget : ℕ} (run : CarefulRun pointers log bridge)
    (hhandle : bridge.handles[h]?=some handle) (hopen : handle.closed=false)
    (htakes : function.takesOver=true)
    (hstep : bridge.step pointers (.start h function)=some begun) (hbudget : 2≤budget)
    (hroom : registrations log+budget<pointers) (hpointers : pointers≤2^64) :
    Faults pointers budget begun ↔ ∃ (n : ℕ) (call : Call ρ),bridge.calls[n]?=some call ∧
      call.handle=h ∧ Touching call := by
  have hcount : registrations (log++[.start h function])=registrations log := by
    rw [registrations_concat]
    rfl
  constructor
  · rintro ⟨later,after,event,next,p,kind,hlater,hfew,hnext,hreads,hgone⟩
    by_contra hnone
    have hcareful : Careful bridge (.start h function) := by
      intro h' function' heq _ n call hcall hon htouch
      obtain ⟨rfl,rfl⟩ := Event.start.inj heq
      exact hnone ⟨n,call,hcall,hon,htouch⟩
    have hrun := (run.next ⟨hstep,hcareful⟩).follow (fun _ _ _ _ _ h => h) hlater
    have htotal : registrations (log++[.start h function]++later)=
        registrations log+registrations later := by
      rw [registrations,List.countP_append,←registrations,hcount,←registrations]
    exact hgone (careful_reads hrun (by omega) hpointers hnext hreads)
  · rintro ⟨n,call,hcall,rfl,htouch⟩
    have hrun := bridgeRun_of_careful run
    have slots := run_slots hrun (by omega) hpointers
    obtain ⟨home,inv⟩ := run_boxes hrun (by omega) hpointers
    obtain ⟨own,hown,hpointer,_⟩ := inv.based hcall (htouch.begun (slots.valid hcall))
    obtain rfl := Option.some.inj (hhandle.symm.trans hown)
    have hbegun := hrun.next hstep
    have hstays := others_stay slots (by omega) hstep hcall (fun heq => by cases heq)
    cases step_move hstep with
    | start hfound _ =>
      obtain rfl := Option.some.inj (hhandle.symm.trans hfound)
      refine (faults_of_taken hbegun (by omega) hpointers
        (getElem?_concat_iff.mpr (.inr ⟨rfl,rfl⟩)) ?_ htakes hstays htouch
        hpointer.symm).mono hbudget
      rw [Handle.begin,hopen]
      rfl

/-- A storage is there, and a node is about to be restored from it. -/
def racing : Bridge ℕ :=
  ⟨[⟨.nodeStorage,true⟩],[⟨.nodeStorage,0,false⟩],
    [⟨.storageRestoreOrInit,0,0,0,.checked,.unspawned,none⟩],0,fun _ => none⟩

/-- The storage is closed at that moment. -/
theorem giving_back_faults_racing : ∃ begun,
    racing.step (2^64) (.start 0 (.free .nodeStorage))=some begun ∧ Faults (2^64) 2 begun := by
  have hcareful : ∀ before : Bridge ℕ,Careful before (.start 0 .storageRestoreOrInit) := by
    intro before h function heq htakes
    obtain ⟨_,rfl⟩ := Event.start.inj heq
    cases htakes
  have run : CarefulRun (2^64) ([]++[.storageNew]++[.start 0 .storageRestoreOrInit]) racing :=
    (Run.start.next ⟨rfl,careful_of_call fun _ _ h => by cases h⟩).next ⟨rfl,hcareful _⟩
  have hstep : racing.step (2^64) (.start 0 (.free .nodeStorage))=some _ := rfl
  have htouch : Touching (⟨.storageRestoreOrInit,0,0,0,.checked,.unspawned,none⟩ : Call ℕ) :=
    ⟨rfl,.inl rfl⟩
  exact ⟨_,hstep,(giving_back_faults_iff run rfl rfl rfl hstep (Nat.le_refl _) (by decide)
    (Nat.le_refl _)).mpr ⟨0,_,rfl,rfl,htouch⟩⟩

end WispersConnect.ForeignMemory
