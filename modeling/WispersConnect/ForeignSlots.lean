import WispersConnect.ForeignCalls

/-!
# Slots of pending calls

An answer finds its call by a number that was cast to a pointer. As long as there were
fewer calls than there are pointers, each answer goes to the call whose task it is from. It
gets there unless that call was cancelled, and the table holds the calls that may still
get one, and no others.
-/

namespace WispersConnect.ForeignSlots

open ListEntries PartialMaps Runs ForeignCalls

variable {ρ : Type} {pointers count number : ℕ} {bridge after : Bridge ρ} {call call' : Call ρ}
  {event : Event ρ} {log : List (Event ρ)}

/-- The event is that of a call which gets a slot. -/
def isRegister : Event ρ→Bool
  | .register _ => true
  | _ => false

/-- How many calls got a slot. -/
def registrations (log : List (Event ρ)) : ℕ := log.countP isRegister

/-- The call has a slot, in which nothing has come yet, and has not left it. -/
def Open (call : Call ρ) : Prop :=
  0<call.id ∧ call.slot=none ∧
    (call.phase=.registered ∨ call.phase=.refused ∨ call.phase=.waiting)

/-- What slot, task and answer of a call look like, by how far it is. -/
def Valid (call : Call ρ) : Prop :=
  match call.phase with
  | .checked | .returned .closed | .returned .done =>
    call.id=0 ∧ call.task=.unspawned ∧ call.slot=none
  | .registered => 0<call.id ∧ call.task=.unspawned ∧ call.slot=none ∧
    call.function.synchronous=false
  | .refused => 0<call.id ∧ call.task=.unspawned ∧ call.slot=none
  | .returned .refused => call.task=.unspawned ∧ call.slot=none
  | .waiting => 0<call.id ∧
    (call.task=.running ∧ call.slot=none ∨
      ∃ answer,call.task=.ended answer ∧ call.slot=some answer)
  | .returned (.answered answer) => call.task=.ended answer ∧ call.slot=some answer
  | .returned .cancelled => 0<call.id ∧ call.task≠.unspawned

/-- A call whose task has ended. -/
def ended (call : Call ρ) (answer : Answer ρ) : Call ρ :=
  {call with
    task := .ended answer
    slot := match call.phase with
      | .waiting => some answer
      | _ => call.slot}

/-- The numbers of slots are apart, and the table holds the open calls. -/
structure SlotInv (count : ℕ) (bridge : Bridge ρ) : Prop where
  /-- The counter. -/
  counted : bridge.nextId=count
  /-- The numbers that were given out. -/
  bounded : ∀ {n : ℕ} {call : Call ρ},bridge.calls[n]?=some call → call.id ≤ count
  /-- No two calls have the same. -/
  apart : ∀ {n m : ℕ} {call other : Call ρ},bridge.calls[n]?=some call →
    bridge.calls[m]?=some other → call.id=other.id → 0<call.id → n=m
  /-- What is in the table. -/
  pending : ∀ {id n : ℕ},bridge.pending id=some n ↔
    ∃ call,bridge.calls[n]?=some call ∧ call.id=id ∧ Open call
  /-- How the calls are. -/
  valid : ∀ {n : ℕ} {call : Call ρ},bridge.calls[n]?=some call → Valid call

/-- A call may change, unless it gets another number, with the table as it is or without it. -/
theorem SlotInv.change (inv : SlotInv count bridge) (hcall : bridge.calls[number]?=some call)
    (hcalls : after.calls=bridge.calls.set number call') (hnext : after.nextId=bridge.nextId)
    (hpending : (after.pending=bridge.pending ∧ (Open call' ↔ Open call)) ∨
      (after.pending=Function.update bridge.pending call.id none ∧ ¬Open call'))
    (hid : call'.id=call.id) (hvalid : Valid call') : SlotInv count after where
  counted := hnext.trans inv.counted
  bounded {n found} hfound := by
    rw [hcalls] at hfound
    obtain ⟨_,rfl⟩|⟨_,hf⟩ := (getElem?_set_iff hcall).mp hfound
    · exact Nat.le_trans (Nat.le_of_eq hid) (inv.bounded hcall)
    · exact inv.bounded hf
  apart {n m found other} hfound hother hsame hpos := by
    rw [hcalls] at hfound hother
    obtain ⟨rfl,rfl⟩|⟨_,hf⟩ := (getElem?_set_iff hcall).mp hfound
    · obtain ⟨rfl,_⟩|⟨_,ho⟩ := (getElem?_set_iff hcall).mp hother
      · rfl
      · exact inv.apart hcall ho (hid.symm.trans hsame) (hid ▸ hpos)
    · obtain ⟨rfl,rfl⟩|⟨_,ho⟩ := (getElem?_set_iff hcall).mp hother
      · exact inv.apart hf hcall (hsame.trans hid) hpos
      · exact inv.apart hf ho hsame hpos
  pending {id n} := by
    rw [hcalls]
    obtain ⟨hpending,hopen⟩|⟨hpending,hopen⟩ := hpending
    · rw [hpending,inv.pending]
      constructor
      · rintro ⟨found,hfound,rfl,hfoundOpen⟩
        by_cases hn : n=number
        · subst hn
          obtain rfl := Option.some.inj (hcall.symm.trans hfound)
          exact ⟨call',(getElem?_set_iff hcall).mpr (.inl ⟨rfl,rfl⟩),hid,hopen.mpr hfoundOpen⟩
        · exact ⟨found,(getElem?_set_iff hcall).mpr (.inr ⟨hn,hfound⟩),rfl,hfoundOpen⟩
      · rintro ⟨found,hfound,rfl,hfoundOpen⟩
        obtain ⟨rfl,rfl⟩|⟨_,hf⟩ := (getElem?_set_iff hcall).mp hfound
        · exact ⟨call,hcall,hid.symm,hopen.mp hfoundOpen⟩
        · exact ⟨found,hf,rfl,hfoundOpen⟩
    · rw [hpending,update_none_eq_some,inv.pending]
      constructor
      · rintro ⟨hne,found,hfound,rfl,hfoundOpen⟩
        refine ⟨found,(getElem?_set_iff hcall).mpr (.inr ⟨?_,hfound⟩),rfl,hfoundOpen⟩
        rintro rfl
        obtain rfl := Option.some.inj (hcall.symm.trans hfound)
        exact hne rfl
      · rintro ⟨found,hfound,rfl,hfoundOpen⟩
        obtain ⟨rfl,rfl⟩|⟨hn,hf⟩ := (getElem?_set_iff hcall).mp hfound
        · exact absurd hfoundOpen hopen
        · exact ⟨fun hsame => hn (inv.apart hf hcall hsame hfoundOpen.1),found,hf,rfl,
            hfoundOpen⟩
  valid {n found} hfound := by
    rw [hcalls] at hfound
    obtain ⟨_,rfl⟩|⟨_,hf⟩ := (getElem?_set_iff hcall).mp hfound
    · exact hvalid
    · exact inv.valid hf

/-- A call that begins has no slot. -/
theorem SlotInv.begin (inv : SlotInv count bridge) (hcalls : after.calls=bridge.calls++[call])
    (hnext : after.nextId=bridge.nextId) (hpending : after.pending=bridge.pending)
    (hid : call.id=0) (hvalid : Valid call) : SlotInv count after where
  counted := hnext.trans inv.counted
  bounded {n found} hfound := by
    rw [hcalls] at hfound
    obtain hf|⟨_,rfl⟩ := getElem?_concat_iff.mp hfound
    · exact inv.bounded hf
    · exact Nat.le_trans (Nat.le_of_eq hid) (Nat.zero_le _)
  apart {n m found other} hfound hother hsame hpos := by
    rw [hcalls] at hfound hother
    obtain hf|⟨_,rfl⟩ := getElem?_concat_iff.mp hfound
    · obtain ho|⟨_,rfl⟩ := getElem?_concat_iff.mp hother
      · exact inv.apart hf ho hsame hpos
      · omega
    · omega
  pending {id n} := by
    rw [hcalls,hpending,inv.pending]
    constructor
    · rintro ⟨found,hfound,hrest⟩
      exact ⟨found,getElem?_concat_iff.mpr (.inl hfound),hrest⟩
    · rintro ⟨found,hfound,hsame,hopen⟩
      obtain hf|⟨_,rfl⟩ := getElem?_concat_iff.mp hfound
      · exact ⟨found,hf,hsame,hopen⟩
      · exact absurd hid (Nat.ne_of_gt hopen.1)
  valid {n found} hfound := by
    rw [hcalls] at hfound
    obtain hf|⟨_,rfl⟩ := getElem?_concat_iff.mp hfound
    · exact inv.valid hf
    · exact hvalid

/-- A call gets the next number, which no other has. -/
theorem SlotInv.register (inv : SlotInv count bridge) (hcall : bridge.calls[number]?=some call)
    (hphase : call.phase=.checked) (hkind : call.function.synchronous=false)
    (hcalls : after.calls=bridge.calls.set number {call with id := count+1, phase := .registered})
    (hnext : after.nextId=count+1)
    (hpending : after.pending=Function.update bridge.pending (count+1) (some number)) :
    SlotInv (count+1) after where
  counted := hnext
  bounded {n found} hfound := by
    rw [hcalls] at hfound
    obtain ⟨_,rfl⟩|⟨_,hf⟩ := (getElem?_set_iff hcall).mp hfound
    · exact Nat.le_refl _
    · exact Nat.le_succ_of_le (inv.bounded hf)
  apart {n m found other} hfound hother hsame hpos := by
    rw [hcalls] at hfound hother
    obtain ⟨rfl,rfl⟩|⟨_,hf⟩ := (getElem?_set_iff hcall).mp hfound
    · obtain ⟨rfl,_⟩|⟨_,ho⟩ := (getElem?_set_iff hcall).mp hother
      · rfl
      · exact absurd (Nat.le_trans (Nat.le_of_eq hsame) (inv.bounded ho)) (Nat.not_succ_le_self _)
    · obtain ⟨rfl,rfl⟩|⟨_,ho⟩ := (getElem?_set_iff hcall).mp hother
      · exact absurd (Nat.le_trans (Nat.le_of_eq hsame.symm) (inv.bounded hf))
          (Nat.not_succ_le_self _)
      · exact inv.apart hf ho hsame hpos
  pending {id n} := by
    have hvalid := inv.valid hcall
    rw [Valid,hphase] at hvalid
    obtain ⟨hid,_,hslot⟩ := hvalid
    rw [hcalls,hpending,update_some_eq_some,inv.pending]
    constructor
    · rintro (⟨rfl,rfl⟩|⟨hne,found,hfound,rfl,hopen⟩)
      · exact ⟨_,(getElem?_set_iff hcall).mpr (.inl ⟨rfl,rfl⟩),rfl,Nat.succ_pos _,hslot,.inl rfl⟩
      · refine ⟨found,(getElem?_set_iff hcall).mpr (.inr ⟨?_,hfound⟩),rfl,hopen⟩
        rintro rfl
        obtain rfl := Option.some.inj (hcall.symm.trans hfound)
        exact absurd hid (Nat.ne_of_gt hopen.1)
    · rintro ⟨found,hfound,rfl,hopen⟩
      obtain ⟨rfl,rfl⟩|⟨hn,hf⟩ := (getElem?_set_iff hcall).mp hfound
      · exact .inl ⟨rfl,rfl⟩
      · exact .inr ⟨fun hsame => absurd (Nat.le_trans (Nat.le_of_eq hsame.symm) (inv.bounded hf))
          (Nat.not_succ_le_self _),found,hf,rfl,hopen⟩
  valid {n found} hfound := by
    have hvalid := inv.valid hcall
    rw [Valid,hphase] at hvalid
    rw [hcalls] at hfound
    obtain ⟨_,rfl⟩|⟨_,hf⟩ := (getElem?_set_iff hcall).mp hfound
    · exact ⟨Nat.succ_pos _,hvalid.2.1,hvalid.2.2,hkind⟩
    · exact inv.valid hf

/-- A call that runs has a slot, with nothing in it as long as it waits. -/
theorem Valid.of_running (h : Valid call) (htask : call.task=.running) :
    0<call.id ∧ ((call.phase=.waiting ∧ Open call) ∨ call.phase=.returned .cancelled) := by
  unfold Valid at h
  split at h
  next => exact absurd (htask.symm.trans h.2.1) (fun h => by cases h)
  next => exact absurd (htask.symm.trans h.2.1) (fun h => by cases h)
  next => exact absurd (htask.symm.trans h.2.1) (fun h => by cases h)
  next => exact absurd (htask.symm.trans h.2.1) (fun h => by cases h)
  next => exact absurd (htask.symm.trans h.2.1) (fun h => by cases h)
  next => exact absurd (htask.symm.trans h.1) (fun h => by cases h)
  next hphase =>
    obtain ⟨hpos,⟨_,hslot⟩|⟨answer,hended,_⟩⟩ := h
    · exact ⟨hpos,.inl ⟨hphase,hpos,hslot,.inr (.inr hphase)⟩⟩
    · exact absurd (htask.symm.trans hended) (fun h => by cases h)
  next => exact absurd (htask.symm.trans h.1) (fun h => by cases h)
  next hphase => exact ⟨h.1,.inr hphase⟩

/-- A call that waits gets the answer. -/
theorem ended_of_waiting {answer : Answer ρ} (h : call.phase=.waiting) :
    ended call answer={call with task := .ended answer, slot := some answer} := by
  rw [ended,h]

/-- A call that was cancelled does not. -/
theorem ended_of_cancelled {answer : Answer ρ} (h : call.phase=.returned .cancelled) :
    ended call answer={call with task := .ended answer} := by
  rw [ended,h]

/-- A call whose task has ended is not open any more. -/
theorem Valid.ended (h : Valid call) (htask : call.task=.running) (answer : Answer ρ) :
    Valid (ended call answer) ∧ ¬Open (ended call answer) := by
  obtain ⟨hpos,⟨hphase,_⟩|hphase⟩ := h.of_running htask
  · rw [ended_of_waiting hphase]
    refine ⟨?_,fun hopen => by cases hopen.2.1⟩
    simp only [Valid,hphase]
    exact ⟨hpos,.inr ⟨answer,rfl,rfl⟩⟩
  · rw [ended_of_cancelled hphase]
    refine ⟨?_,fun hopen => ?_⟩
    · simp only [Valid,hphase]
      exact ⟨hpos,fun h => by cases h⟩
    · obtain ⟨_,_,h|h|h⟩ := hopen <;> exact absurd (hphase.symm.trans h) (fun h => by cases h)

/-- The answer of a task goes to its own call, if that waits for it. -/
theorem SlotInv.resolve (inv : SlotInv count bridge) (hroom : count<pointers)
    (hcall : bridge.calls[number]?=some call) (htask : call.task=.running)
    (middle : Bridge ρ) (hcalls : middle.calls=bridge.calls)
    (hpending : middle.pending=bridge.pending) (answer : Answer ρ) :
    (middle.setCall number {call with task := .ended answer}).resolve
        (contextOf pointers call.id) answer=
      {middle with
        calls := bridge.calls.set number (ended call answer)
        pending := Function.update bridge.pending call.id none} := by
  have hcontext : contextOf pointers call.id=call.id :=
    Nat.mod_eq_of_lt (Nat.lt_of_le_of_lt (inv.bounded hcall) hroom)
  have hlt := (List.getElem?_eq_some_iff.mp hcall).1
  obtain ⟨hpos,⟨hphase,hopen⟩|hphase⟩ := (inv.valid hcall).of_running htask
  · have hfound : (middle.setCall number {call with task := .ended answer}).pending call.id=
        some number := by
      rw [Bridge.setCall,hpending]
      exact inv.pending.mpr ⟨call,hcall,rfl,hopen⟩
    rw [hcontext,Bridge.resolve,hfound,ended_of_waiting hphase]
    simp only [Bridge.setCall,hcalls,hpending,modify_set]
  · have hfound : (middle.setCall number {call with task := .ended answer}).pending call.id=
        none := by
      rw [Bridge.setCall,hpending]
      cases hother : bridge.pending call.id with
      | none => rfl
      | some other =>
        obtain ⟨found,hget,hid,hopen⟩ := inv.pending.mp hother
        obtain rfl := inv.apart hcall hget hid.symm hpos
        obtain rfl := Option.some.inj (hcall.symm.trans hget)
        obtain ⟨_,_,h|h|h⟩ := hopen <;> exact absurd (hphase.symm.trans h) (fun h => by cases h)
    have hnone : Function.update bridge.pending call.id none=bridge.pending := by
      refine Function.update_eq_self_iff.mpr ?_
      rw [←hpending]
      exact hfound.symm
    rw [hcontext,Bridge.resolve,hfound,ended_of_cancelled hphase,hnone]
    simp only [Bridge.setCall,hcalls,hpending]

/-- A call that has returned is not open. -/
theorem not_open_of_returned {result : Returned ρ} (h : call.phase=.returned result) :
    ¬Open call := by
  rintro ⟨_,_,hphase|hphase|hphase⟩ <;>
    exact absurd (h.symm.trans hphase) (fun h => by cases h)

/-- A call without a slot is not open. -/
theorem not_open_of_unregistered (h : call.id=0) : ¬Open call :=
  fun hopen => absurd h (Nat.ne_of_gt hopen.1)

/-- A step keeps the numbers of slots apart. -/
theorem SlotInv.step (inv : SlotInv count bridge) (hstep : bridge.step pointers event=some after)
    (hroom : count<pointers) (hcounter : isRegister event=true → count+1<2^64) :
    SlotInv (count+if isRegister event then 1 else 0) after := by
  cases step_move hstep with
  | storageNew => exact ⟨inv.counted,inv.bounded,inv.apart,inv.pending,inv.valid⟩
  | @start number function handle hhandle hkind =>
    refine inv.begin rfl rfl rfl rfl ?_
    rw [Handle.begin]
    cases handle.closed with
    | true => exact ⟨rfl,rfl,rfl⟩
    | false => exact ⟨rfl,rfl,rfl⟩
  | @register number call hcall hphase hkind =>
    have hid : addId bridge.nextId=count+1 := by
      rw [inv.counted,addId_eq (hcounter rfl)]
    exact inv.register hcall hphase hkind (by rw [←hid]; rfl) hid (by rw [←hid])
  | @done number call hcall hphase hkind =>
    have hvalid := inv.valid hcall
    simp only [Valid,hphase] at hvalid
    refine inv.change hcall releaseIf_setCall_calls releaseIf_nextId
      (.inl ⟨releaseIf_pending,?_⟩) rfl hvalid
    exact iff_of_false (not_open_of_returned rfl) (not_open_of_unregistered hvalid.1)
  | @refusedNow number call hcall hphase hkind =>
    have hvalid := inv.valid hcall
    simp only [Valid,hphase] at hvalid
    refine inv.change hcall rfl rfl (.inl ⟨rfl,?_⟩) rfl hvalid.2
    exact iff_of_false (not_open_of_returned rfl) (not_open_of_unregistered hvalid.1)
  | @spawned number call hcall hphase hkind =>
    have hvalid := inv.valid hcall
    simp only [Valid,hphase] at hvalid
    obtain ⟨hpos,_,hslot,_⟩ := hvalid
    refine inv.change hcall releaseIf_setCall_calls releaseIf_nextId
      (.inl ⟨releaseIf_pending,?_⟩) rfl ⟨hpos,.inl ⟨rfl,hslot⟩⟩
    exact iff_of_true ⟨hpos,hslot,.inr (.inr rfl)⟩ ⟨hpos,hslot,.inl hphase⟩
  | @refused number call hcall hphase hkind =>
    have hvalid := inv.valid hcall
    simp only [Valid,hphase] at hvalid
    obtain ⟨hpos,htask,hslot,_⟩ := hvalid
    refine inv.change hcall rfl rfl (.inl ⟨rfl,?_⟩) rfl ⟨hpos,htask,hslot⟩
    exact iff_of_true ⟨hpos,hslot,.inr (.inl rfl)⟩ ⟨hpos,hslot,.inl hphase⟩
  | run => exact inv
  | @complete number call payload success kinds answer hcall htask =>
    obtain ⟨hvalid,hopen⟩ := (inv.valid hcall).ended htask answer
    rw [inv.resolve hroom hcall htask ((bridge.releaseIf (call.function.access=.keeps)
      call.pointer).allocate kinds) releaseIf_calls releaseIf_pending]
    exact inv.change hcall rfl releaseIf_nextId (.inr ⟨rfl,hopen⟩) rfl hvalid
  | @finishRefused number call hcall hphase =>
    have hvalid := inv.valid hcall
    simp only [Valid,hphase] at hvalid
    exact inv.change hcall releaseIf_setCall_calls releaseIf_nextId
      (.inr ⟨rfl,not_open_of_returned rfl⟩) rfl hvalid.2
  | @finishAnswered number call answer hcall hphase hslot =>
    have hvalid := inv.valid hcall
    simp only [Valid,hphase] at hvalid
    obtain ⟨_,⟨_,hnone⟩|⟨answer',hended,hslot'⟩⟩ := hvalid
    · exact absurd (hnone.symm.trans hslot) (fun h => by cases h)
    · obtain rfl := Option.some.inj (hslot.symm.trans hslot')
      exact inv.change hcall rfl rfl (.inr ⟨rfl,not_open_of_returned rfl⟩) rfl ⟨hended,hslot⟩
  | @cancel number call hcall hphase =>
    have hvalid := inv.valid hcall
    simp only [Valid,hphase] at hvalid
    refine inv.change hcall rfl rfl (.inr ⟨rfl,not_open_of_returned rfl⟩) rfl ⟨hvalid.1,?_⟩
    obtain ⟨_,⟨hrunning,_⟩|⟨answer,hended,_⟩⟩ := hvalid
    · exact fun h => absurd (hrunning.symm.trans h) (fun h => by cases h)
    · exact fun h => absurd (hended.symm.trans h) (fun h => by cases h)

/-- What was registered with the last event. -/
theorem registrations_concat : registrations (log++[event])=
    registrations log+if isRegister event then 1 else 0 := by
  rw [registrations,List.countP_append,List.countP_singleton]
  rfl

/-- Over a run with fewer slots than pointers, the numbers of slots stay apart. -/
theorem run_slots (run : BridgeRun pointers log bridge) (hroom : registrations log<pointers)
    (hpointers : pointers≤2^64) : SlotInv (registrations log) bridge := by
  induction run with
  | start =>
    refine ⟨rfl,fun h => ?_,fun h => ?_,fun {id n} => ?_,fun h => ?_⟩
    · cases h
    · cases h
    · constructor
      · exact fun h => by cases h
      · rintro ⟨call,hcall,_⟩
        cases hcall
    · cases h
  | @next log before after event earlier now ih =>
    rw [registrations_concat] at hroom ⊢
    refine (ih (by omega)).step now (by omega) fun hregister => ?_
    rw [if_pos hregister] at hroom
    omega

/-- What the task of a call has reported. -/
def reported : Option (Call ρ)→List ρ
  | none => []
  | some call =>
    match call.task with
    | .ended answer => [answer.payload]
    | _ => []

end WispersConnect.ForeignSlots
