import WispersConnect.ForeignSlots

/-!
# Boxes behind handles

Each box is behind one handle, or its pointer lies in an answer that no handle was made of
yet. So a box is done away with at most once, whatever calls race, and never taken for
what it is not. A box that has gone may still be read: by a call that had its pointer when
another gave the handle back. Which calls those are is told exactly.
-/

namespace WispersConnect.ForeignBoxes

open ListEntries PartialMaps Runs ForeignCalls ForeignSlots

variable {ρ : Type} {pointers count number : ℕ} {bridge after : Bridge ρ} {call call' : Call ρ}
  {event : Event ρ} {log : List (Event ρ)}

/-- Where the pointer to a box is. -/
inductive Home where
  /-- In a handle. -/
  | handle (number : ℕ)
  /-- In the answer to a call. -/
  | answer (call index : ℕ)
  deriving DecidableEq

/-- The call has taken a box over that was not done away with. -/
def Holds (call : Call ρ) : Prop :=
  call.function.takesOver=true ∧ (call.phase=.checked ∨ call.phase=.registered ∨
    call.phase=.refused ∨ call.function.access=.keeps ∧ call.task=.running)

/-- The task of a call has ended with an answer that the call has not returned. -/
def Unclaimed (call : Call ρ) (answer : Answer ρ) : Prop :=
  call.task=.ended answer ∧ ∀ answer',call.phase≠.returned (.answered answer')

/-- The boxes, and where the pointers to them are. -/
structure BoxInv (home : ℕ→Home) (bridge : Bridge ρ) : Prop where
  /-- A handle has a pointer of its own, to a box of its kind. -/
  behind : ∀ {h : ℕ} {handle : Handle},bridge.handles[h]?=some handle →
    home handle.pointer=.handle h ∧
      ∃ live,bridge.boxes[handle.pointer]?=some ⟨handle.kind,live⟩
  /-- A call has the pointer of its handle, which is closed if the call takes the box over. -/
  based : ∀ {n : ℕ} {call : Call ρ},bridge.calls[n]?=some call → call.phase≠.returned .closed →
    ∃ handle,bridge.handles[call.handle]?=some handle ∧ handle.pointer=call.pointer ∧
      handle.kind=call.function.kind ∧ (call.function.takesOver=true → handle.closed=true)
  /-- Only one call takes the box of a handle over. -/
  taken : ∀ {n m : ℕ} {call other : Call ρ},bridge.calls[n]?=some call →
    bridge.calls[m]?=some other → call.handle=other.handle →
    call.function.takesOver=true → other.function.takesOver=true →
    call.phase≠.returned .closed → other.phase≠.returned .closed → n=m
  /-- A box behind a handle is there until the handle is closed and the call is through that
  took the box over. -/
  live : ∀ {h : ℕ} {handle : Handle} {live : Bool},bridge.handles[h]?=some handle →
    bridge.boxes[handle.pointer]?=some ⟨handle.kind,live⟩ →
    (live=true ↔ handle.closed=false ∨
      ∃ (n : ℕ) (call : Call ρ),bridge.calls[n]?=some call ∧ call.handle=h ∧ Holds call)
  /-- The pointers in an unclaimed answer are in no other place. -/
  answered : ∀ {n i p : ℕ} {call : Call ρ} {answer : Answer ρ},bridge.calls[n]?=some call →
    Unclaimed call answer → answer.boxes[i]?=some p → home p=.answer n i
  /-- The boxes that come with an unclaimed answer are there, and hold what the call expects. -/
  made : ∀ {n : ℕ} {call : Call ρ} {answer : Answer ρ},bridge.calls[n]?=some call →
    Unclaimed call answer → answer.boxes=[] ∨ answer.boxes.length=call.function.makes.length ∧
      ∀ {i : ℕ} {kind : Kind} {p : ℕ},call.function.makes[i]?=some kind →
        answer.boxes[i]?=some p → bridge.boxes[p]?=some ⟨kind,true⟩
  /-- The pointer to each box is in a handle or in an unclaimed answer. -/
  housed : ∀ {p : ℕ} {box : Box},bridge.boxes[p]?=some box →
    (∃ (h : ℕ) (handle : Handle),bridge.handles[h]?=some handle ∧ handle.pointer=p) ∨
      ∃ (n : ℕ) (call : Call ρ) (answer : Answer ρ),bridge.calls[n]?=some call ∧
        Unclaimed call answer ∧ p∈answer.boxes

/-- A call that holds a box found its handle open. -/
theorem Holds.begun (h : Holds call) (hvalid : Valid call) : call.phase≠.returned .closed := by
  rintro hphase
  obtain ⟨_,hp|hp|hp|⟨_,htask⟩⟩ := h
  · exact absurd (hphase.symm.trans hp) (fun h => by cases h)
  · exact absurd (hphase.symm.trans hp) (fun h => by cases h)
  · exact absurd (hphase.symm.trans hp) (fun h => by cases h)
  · simp only [Valid,hphase] at hvalid
    exact absurd (hvalid.2.1.symm.trans htask) (fun h => by cases h)

/-- A box that a call holds is there. -/
theorem BoxInv.held {home : ℕ→Home} (inv : BoxInv home bridge)
    (hcall : bridge.calls[number]?=some call) (hvalid : Valid call) (h : Holds call) :
    bridge.boxes[call.pointer]?=some ⟨call.function.kind,true⟩ := by
  obtain ⟨handle,hhandle,hpointer,hkind,_⟩ := inv.based hcall (h.begun hvalid)
  obtain ⟨_,live,hbox⟩ := inv.behind hhandle
  have hlive := (inv.live hhandle hbox).mpr (.inr ⟨number,call,hcall,rfl,h⟩)
  rw [←hpointer,hbox,hkind,hlive]

/-- Two handles have different pointers. -/
theorem BoxInv.pointer_inj {home : ℕ→Home} (inv : BoxInv home bridge) {h h' : ℕ}
    {handle handle' : Handle} (hh : bridge.handles[h]?=some handle)
    (hh' : bridge.handles[h']?=some handle') (heq : handle.pointer=handle'.pointer) : h=h' := by
  have hhome := (inv.behind hh).1
  rw [heq,(inv.behind hh').1] at hhome
  exact (Home.handle.inj hhome).symm

/-- The box of a pointer after one was done away with. -/
theorem release_boxes {pointer p : ℕ} : (bridge.release pointer).boxes[p]?=
    bridge.boxes[p]?.map fun box => if p=pointer then {box with live := false} else box := by
  rw [Bridge.release,List.getElem?_modify]
  simp only [Option.map_eq_map,eq_comm (a := pointer)]

/-- Who holds the box of a handle is not changed by a call on another, or one that holds it
as before. -/
theorem holders_set (hcall : bridge.calls[number]?=some call)
    (hhandle : call'.handle=call.handle) {h : ℕ}
    (hh : h≠call.handle ∨ (Holds call' ↔ Holds call)) :
    (∃ (n : ℕ) (c : Call ρ),(bridge.calls.set number call')[n]?=some c ∧ c.handle=h ∧ Holds c) ↔
      ∃ (n : ℕ) (c : Call ρ),bridge.calls[n]?=some c ∧ c.handle=h ∧ Holds c := by
  constructor
  · rintro ⟨n,c,hget,hon,hholds⟩
    obtain ⟨rfl,rfl⟩|⟨_,hget⟩ := (getElem?_set_iff hcall).mp hget
    · obtain hne|hiff := hh
      · exact absurd (hon.symm.trans hhandle) hne
      · exact ⟨_,call,hcall,hhandle.symm.trans hon,hiff.mp hholds⟩
    · exact ⟨n,c,hget,hon,hholds⟩
  · rintro ⟨n,c,hget,hon,hholds⟩
    by_cases hn : n=number
    · subst hn
      obtain rfl := Option.some.inj (hcall.symm.trans hget)
      obtain hne|hiff := hh
      · exact absurd hon.symm hne
      · exact ⟨_,call',(getElem?_set_iff hcall).mpr (.inl ⟨rfl,rfl⟩),hhandle.trans hon,
          hiff.mpr hholds⟩
    · exact ⟨n,c,(getElem?_set_iff hcall).mpr (.inr ⟨hn,hget⟩),hon,hholds⟩

/-- Which answers are unclaimed is not changed by a call whose answer is not. -/
theorem unclaimed_set (hcall : bridge.calls[number]?=some call)
    (hfunction : call'.function=call.function)
    (hclaim : ∀ answer,Unclaimed call' answer ↔ Unclaimed call answer) {n : ℕ} {c : Call ρ}
    {answer : Answer ρ} (hget : (bridge.calls.set number call')[n]?=some c)
    (h : Unclaimed c answer) :
    ∃ c',bridge.calls[n]?=some c' ∧ c'.function=c.function ∧ Unclaimed c' answer := by
  obtain ⟨rfl,rfl⟩|⟨_,hget⟩ := (getElem?_set_iff hcall).mp hget
  · exact ⟨call,hcall,hfunction.symm,(hclaim answer).mp h⟩
  · exact ⟨c,hget,rfl,h⟩

/-- A call that changes keeps its handle and its pointer. -/
theorem BoxInv.based_set {home : ℕ→Home} (inv : BoxInv home bridge)
    (hcall : bridge.calls[number]?=some call)
    (hcalls : after.calls=bridge.calls.set number call')
    (hhandles : after.handles=bridge.handles) (hfunction : call'.function=call.function)
    (hhandle : call'.handle=call.handle) (hpointer : call'.pointer=call.pointer)
    (hphase : call.phase≠.returned .closed) {n : ℕ} {c : Call ρ} (hget : after.calls[n]?=some c)
    (hc : c.phase≠.returned .closed) :
    ∃ handle,after.handles[c.handle]?=some handle ∧ handle.pointer=c.pointer ∧
      handle.kind=c.function.kind ∧ (c.function.takesOver=true → handle.closed=true) := by
  rw [hcalls] at hget
  rw [hhandles]
  obtain ⟨rfl,rfl⟩|⟨_,hg⟩ := (getElem?_set_iff hcall).mp hget
  · rw [hhandle,hpointer,hfunction]
    exact inv.based hcall hphase
  · exact inv.based hg hc

/-- A call that changes keeps its function and its handle. -/
theorem BoxInv.taken_set {home : ℕ→Home} (inv : BoxInv home bridge)
    (hcall : bridge.calls[number]?=some call)
    (hcalls : after.calls=bridge.calls.set number call')
    (hfunction : call'.function=call.function) (hhandle : call'.handle=call.handle)
    (hphase : call.phase≠.returned .closed) {n m : ℕ} {c other : Call ρ}
    (hget : after.calls[n]?=some c) (hother : after.calls[m]?=some other)
    (hsame : c.handle=other.handle) (htakes : c.function.takesOver=true)
    (htakes' : other.function.takesOver=true) (hc : c.phase≠.returned .closed)
    (ho : other.phase≠.returned .closed) : n=m := by
  rw [hcalls] at hget hother
  obtain ⟨rfl,rfl⟩|⟨_,hg⟩ := (getElem?_set_iff hcall).mp hget
  · obtain ⟨rfl,_⟩|⟨_,ho'⟩ := (getElem?_set_iff hcall).mp hother
    · rfl
    · exact inv.taken hcall ho' (hhandle.symm.trans hsame) (hfunction ▸ htakes) htakes' hphase ho
  · obtain ⟨rfl,rfl⟩|⟨_,ho'⟩ := (getElem?_set_iff hcall).mp hother
    · exact inv.taken hg hcall (hsame.trans hhandle) htakes (hfunction ▸ htakes') hc hphase
    · exact inv.taken hg ho' hsame htakes htakes' hc ho

/-- A box that comes with an unclaimed answer is there, and holds what the call expects. -/
theorem BoxInv.answer_box {home : ℕ→Home} (inv : BoxInv home bridge) {answer : Answer ρ}
    {i p : ℕ} (hcall : bridge.calls[number]?=some call) (hc : Unclaimed call answer)
    (hi : answer.boxes[i]?=some p) :
    ∃ kind,call.function.makes[i]?=some kind ∧ bridge.boxes[p]?=some ⟨kind,true⟩ := by
  obtain hnil|⟨hlength,hmade⟩ := inv.made hcall hc
  · rw [hnil] at hi
    cases hi
  · have hlt := (List.getElem?_eq_some_iff.mp hi).1
    rw [hlength] at hlt
    have hkind := List.getElem?_eq_getElem hlt
    exact ⟨_,hkind,hmade hkind hi⟩

/-- A call may change and do away with the box that it holds, or with none. -/
theorem BoxInv.change {home : ℕ→Home} (inv : BoxInv home bridge) (slots : SlotInv count bridge)
    (hcall : bridge.calls[number]?=some call)
    (hcalls : after.calls=bridge.calls.set number call')
    (hhandles : after.handles=bridge.handles)
    (hboxes : (after.boxes=bridge.boxes ∧ (Holds call' ↔ Holds call)) ∨
      (after.boxes=(bridge.release call.pointer).boxes ∧ Holds call ∧ ¬Holds call'))
    (hfunction : call'.function=call.function) (hhandle : call'.handle=call.handle)
    (hpointer : call'.pointer=call.pointer) (hphase : call.phase≠.returned .closed)
    (hphase' : call'.phase≠.returned .closed)
    (hclaim : ∀ answer,Unclaimed call' answer ↔ Unclaimed call answer) : BoxInv home after := by
  obtain ⟨own,hown,hownPointer,hownKind,hownClosed⟩ := inv.based hcall hphase
  have hother : ∀ {p : ℕ},p≠call.pointer → after.boxes[p]?=bridge.boxes[p]? := by
    intro p hne
    obtain ⟨hsame,_⟩|⟨hrelease,_⟩ := hboxes
    · rw [hsame]
    · rw [hrelease,release_boxes]
      simp only [if_neg hne,Option.map_id']
  have hunclaimed : ∀ {n i p : ℕ} {c : Call ρ} {answer : Answer ρ},bridge.calls[n]?=some c →
      Unclaimed c answer → answer.boxes[i]?=some p → p≠call.pointer := by
    rintro n i p c answer hget hc hi rfl
    have hhome := (inv.behind hown).1
    rw [hownPointer,inv.answered hget hc hi] at hhome
    cases hhome
  refine ⟨?behind,?based,?taken,?live,?answered,?made,?housed⟩
  case behind =>
    intro h handle hh
    rw [hhandles] at hh
    obtain ⟨hhome,live,hbox⟩ := inv.behind hh
    refine ⟨hhome,?_⟩
    obtain ⟨hsame,_⟩|⟨hrelease,_⟩ := hboxes
    · exact ⟨live,hsame ▸ hbox⟩
    · rw [hrelease,release_boxes,hbox]
      by_cases hp : handle.pointer=call.pointer
      · exact ⟨false,by rw [Option.map_some,if_pos hp]⟩
      · exact ⟨live,by rw [Option.map_some,if_neg hp]⟩
  case based => exact inv.based_set hcall hcalls hhandles hfunction hhandle hpointer hphase
  case taken => exact inv.taken_set hcall hcalls hfunction hhandle hphase
  case live =>
    intro h handle live hh hbox
    rw [hhandles] at hh
    rw [hcalls]
    obtain ⟨hsame,hiff⟩|⟨hrelease,hholds,hdone⟩ := hboxes
    · rw [hsame] at hbox
      rw [holders_set hcall hhandle (.inr hiff)]
      exact inv.live hh hbox
    · by_cases hp : h=call.handle
      · subst hp
        obtain rfl := Option.some.inj (hown.symm.trans hh)
        obtain ⟨_,_,hwas⟩ := inv.behind hown
        rw [hrelease,release_boxes,hwas,Option.map_some,if_pos hownPointer] at hbox
        obtain rfl := (Box.mk.inj (Option.some.inj hbox)).2
        refine iff_of_false (fun h => by cases h) ?_
        rintro (hopen|⟨n,c,hget,hon,hc⟩)
        · exact absurd (hopen.symm.trans (hownClosed hholds.1)) (fun h => by cases h)
        · obtain ⟨rfl,rfl⟩|⟨hn,hg⟩ := (getElem?_set_iff hcall).mp hget
          · exact hdone hc
          · exact hn (inv.taken hg hcall hon hc.1 hholds.1 (hc.begun (slots.valid hg)) hphase)
      · have hne : handle.pointer≠call.pointer :=
          fun heq => hp (inv.pointer_inj hh hown (heq.trans hownPointer.symm))
        rw [hother hne] at hbox
        rw [holders_set hcall hhandle (.inl hp)]
        exact inv.live hh hbox
  case answered =>
    intro n i p c answer hget hc hi
    rw [hcalls] at hget
    obtain ⟨c',hget,_,hc⟩ := unclaimed_set hcall hfunction hclaim hget hc
    exact inv.answered hget hc hi
  case made =>
    intro n c answer hget hc
    rw [hcalls] at hget
    obtain ⟨c',hget,hsame,hc⟩ := unclaimed_set hcall hfunction hclaim hget hc
    obtain hnil|⟨hlength,hmade⟩ := inv.made hget hc
    · exact .inl hnil
    · rw [←hsame]
      refine .inr ⟨hlength,fun hkind hi => ?_⟩
      rw [hother (hunclaimed hget hc hi)]
      exact hmade hkind hi
  case housed =>
    intro p box hbox
    have hwas : ∃ box,bridge.boxes[p]?=some box := by
      obtain ⟨hsame,_⟩|⟨hrelease,_⟩ := hboxes
      · exact ⟨box,hsame ▸ hbox⟩
      · rw [hrelease,release_boxes,Option.map_eq_some_iff] at hbox
        obtain ⟨was,hwas,_⟩ := hbox
        exact ⟨was,hwas⟩
    obtain ⟨_,hwas⟩ := hwas
    obtain ⟨h,handle,hh,hp⟩|⟨n,c,answer,hget,hc,hp⟩ := inv.housed hwas
    · exact .inl ⟨h,handle,hhandles ▸ hh,hp⟩
    · rw [hcalls]
      by_cases hn : n=number
      · subst hn
        obtain rfl := Option.some.inj (hcall.symm.trans hget)
        exact .inr ⟨_,call',answer,(getElem?_set_iff hcall).mpr (.inl ⟨rfl,rfl⟩),
          (hclaim answer).mpr hc,hp⟩
      · exact .inr ⟨n,c,answer,(getElem?_set_iff hcall).mpr (.inr ⟨hn,hget⟩),hc,hp⟩

/-- The boxes that were there stay as they are while others are made. -/
theorem allocate_boxes {kinds : List Kind} {p : ℕ} (h : p<bridge.boxes.length) :
    (bridge.allocate kinds).boxes[p]?=bridge.boxes[p]? := List.getElem?_append_left h

/-- The boxes that are made. -/
theorem allocate_new {kinds : List Kind} {i : ℕ} :
    (bridge.allocate kinds).boxes[bridge.boxes.length+i]?=kinds[i]?.map (Box.mk · true) := by
  rw [Bridge.allocate,List.getElem?_append_right (Nat.le_add_right _ _),Nat.add_sub_cancel_left,
    List.getElem?_map]

/-- Where the pointers are once a task has ended. -/
def answerHome (home : ℕ→Home) (bound number : ℕ) (p : ℕ) : Home :=
  if p<bound then home p else .answer number (p-bound)

/-- A task ends, and new boxes come with its answer. -/
theorem BoxInv.allocate {home : ℕ→Home} (inv : BoxInv home bridge)
    (hcall : bridge.calls[number]?=some call) {kinds : List Kind} {answer : Answer ρ}
    (hcalls : after.calls=bridge.calls.set number call')
    (hhandles : after.handles=bridge.handles)
    (hboxes : after.boxes=(bridge.allocate kinds).boxes)
    (hkinds : kinds=[] ∨ kinds=call.function.makes)
    (hanswer : answer.boxes=bridge.newBoxes kinds)
    (hholds : ¬Holds call) (hholds' : ¬Holds call')
    (hclaim : ∀ answer,¬Unclaimed call answer) (hclaim' : call'.task=.ended answer)
    (hfunction : call'.function=call.function) (hhandle : call'.handle=call.handle)
    (hpointer : call'.pointer=call.pointer) (hphase : call.phase≠.returned .closed)
    (hphase' : call'.phase≠.returned .closed)
    (hunreturned : ∀ answer,call'.phase≠.returned (.answered answer)) :
    BoxInv (answerHome home bridge.boxes.length number) after := by
  have hbound : ∀ {p : ℕ} {box : Box},bridge.boxes[p]?=some box → p<bridge.boxes.length :=
    fun h => (List.getElem?_eq_some_iff.mp h).1
  have hold : ∀ {p : ℕ} {box : Box},bridge.boxes[p]?=some box → after.boxes[p]?=some box := by
    intro p box h
    rw [hboxes,allocate_boxes (hbound h),h]
  have hnew : ∀ {i p : ℕ},answer.boxes[i]?=some p → p=bridge.boxes.length+i ∧ i<kinds.length := by
    intro i p h
    rw [hanswer,Bridge.newBoxes] at h
    have hi := (List.getElem?_eq_some_iff.mp h).1
    rw [List.length_range'] at hi
    rw [List.getElem?_range' hi] at h
    have := Option.some.inj h
    exact ⟨by omega,hi⟩
  have hstill : ∀ {n : ℕ} {c : Call ρ} {a : Answer ρ},after.calls[n]?=some c → Unclaimed c a →
      (n=number ∧ c=call' ∧ a=answer) ∨ (n≠number ∧ bridge.calls[n]?=some c) := by
    intro n c a hget hc
    rw [hcalls] at hget
    obtain ⟨rfl,rfl⟩|⟨hn,hget⟩ := (getElem?_set_iff hcall).mp hget
    · exact .inl ⟨rfl,rfl,Task.ended.inj (hc.1.symm.trans hclaim')⟩
    · exact .inr ⟨hn,hget⟩
  refine ⟨?behind,?based,?taken,?live,?answered,?made,?housed⟩
  case behind =>
    intro h handle hh
    rw [hhandles] at hh
    obtain ⟨hhome,live,hbox⟩ := inv.behind hh
    rw [answerHome,if_pos (hbound hbox)]
    exact ⟨hhome,live,hold hbox⟩
  case based => exact inv.based_set hcall hcalls hhandles hfunction hhandle hpointer hphase
  case taken => exact inv.taken_set hcall hcalls hfunction hhandle hphase
  case live =>
    intro h handle live hh hbox
    rw [hhandles] at hh
    obtain ⟨_,_,hwas⟩ := inv.behind hh
    obtain rfl := (Box.mk.inj (Option.some.inj ((hold hwas).symm.trans hbox))).2
    rw [hcalls,holders_set hcall hhandle (.inr (iff_of_false hholds' hholds))]
    exact inv.live hh hwas
  case answered =>
    intro n i p c a hget hc hi
    obtain ⟨rfl,rfl,rfl⟩|⟨hn,hget⟩ := hstill hget hc
    · obtain ⟨rfl,_⟩ := hnew hi
      rw [answerHome,if_neg (Nat.not_lt.mpr (Nat.le_add_right _ _)),Nat.add_sub_cancel_left]
    · obtain ⟨kind,_,hbox⟩ := inv.answer_box hget hc hi
      rw [answerHome,if_pos (hbound hbox)]
      exact inv.answered hget hc hi
  case made =>
    intro n c a hget hc
    obtain ⟨rfl,rfl,rfl⟩|⟨hn,hget⟩ := hstill hget hc
    · obtain hnil|hkinds := hkinds
      · rw [hanswer,hnil]
        exact .inl rfl
      · refine .inr ⟨?_,fun {i kind p} hkind hi => ?_⟩
        · rw [hanswer,Bridge.newBoxes,List.length_range',hkinds,hfunction]
        · obtain ⟨rfl,_⟩ := hnew hi
          rw [hboxes,allocate_new,hkinds,←hfunction,hkind]
          rfl
    · obtain hnil|⟨hlength,hmade⟩ := inv.made hget hc
      · exact .inl hnil
      · exact .inr ⟨hlength,fun hkind hi => hold (hmade hkind hi)⟩
  case housed =>
    intro p box hbox
    by_cases hp : p<bridge.boxes.length
    · rw [hboxes,allocate_boxes hp] at hbox
      obtain ⟨h,handle,hh,hat⟩|⟨n,c,a,hget,hc,hmem⟩ := inv.housed hbox
      · exact .inl ⟨h,handle,hhandles ▸ hh,hat⟩
      · refine .inr ⟨n,c,a,?_,hc,hmem⟩
        rw [hcalls]
        refine (getElem?_set_iff hcall).mpr (.inr ⟨?_,hget⟩)
        rintro rfl
        obtain rfl := Option.some.inj (hcall.symm.trans hget)
        exact hclaim a hc
    · obtain ⟨i,rfl⟩ := Nat.exists_eq_add_of_le (Nat.not_lt.mp hp)
      rw [hboxes,allocate_new,Option.map_eq_some_iff] at hbox
      obtain ⟨kind,hkind,_⟩ := hbox
      refine .inr ⟨number,call',answer,?_,⟨hclaim',hunreturned⟩,?_⟩
      · rw [hcalls]
        exact (getElem?_set_iff hcall).mpr (.inl ⟨rfl,rfl⟩)
      · rw [hanswer,Bridge.newBoxes,List.mem_range'_1]
        exact ⟨Nat.le_add_right _ _,Nat.add_lt_add_left (List.getElem?_eq_some_iff.mp hkind).1 _⟩

/-- Where the pointers are once handles were made of an answer. -/
def claimHome (home : ℕ→Home) (bound number : ℕ) (p : ℕ) : Home :=
  match home p with
  | .answer n i => if n=number then .handle (bound+i) else .answer n i
  | .handle h => .handle h

/-- The handles once some were made of the pointers in an answer. -/
theorem getElem?_handles {handles : List Handle} {kinds : List Kind} {boxes : List ℕ} {h : ℕ}
    {handle : Handle} : (handles++List.zipWith (fun kind pointer => ⟨kind,pointer,false⟩) kinds
      boxes)[h]?=some handle ↔ handles[h]?=some handle ∨ ∃ i kind p,h=handles.length+i ∧
        kinds[i]?=some kind ∧ boxes[i]?=some p ∧ handle=⟨kind,p,false⟩ := by
  by_cases hlt : h<handles.length
  · rw [List.getElem?_append_left hlt]
    constructor
    · exact .inl
    · rintro (h|⟨i,_,_,rfl,_⟩)
      · exact h
      · omega
  · obtain ⟨i,rfl⟩ := Nat.exists_eq_add_of_le (Nat.not_lt.mp hlt)
    rw [List.getElem?_append_right (Nat.le_add_right _ _),Nat.add_sub_cancel_left,
      List.getElem?_zipWith_eq_some]
    constructor
    · rintro ⟨kind,p,hkind,hp,rfl⟩
      exact .inr ⟨i,kind,p,rfl,hkind,hp,rfl⟩
    · rintro (h|⟨j,kind,p,hj,hkind,hp,rfl⟩)
      · exact absurd (List.getElem?_eq_some_iff.mp h).1 hlt
      · obtain rfl := Nat.add_left_cancel hj
        exact ⟨kind,p,hkind,hp,rfl⟩

/-- A call returns its answer, and handles are made of the pointers in it. -/
theorem BoxInv.claim {home : ℕ→Home} (inv : BoxInv home bridge)
    (hcall : bridge.calls[number]?=some call) {answer : Answer ρ}
    (hphase : call.phase=.waiting) (hclaim : Unclaimed call answer)
    (hcalls : after.calls=
      bridge.calls.set number {call with phase := .returned (.answered answer)})
    (hhandles : after.handles=bridge.handles++List.zipWith
      (fun kind pointer => ⟨kind,pointer,false⟩) call.function.makes answer.boxes)
    (hboxes : after.boxes=bridge.boxes) :
    BoxInv (claimHome home bridge.handles.length number) after := by
  have hbegun : call.phase≠.returned .closed := by
    rw [hphase]
    exact fun h => by cases h
  have hopen : ¬Holds call := by
    rintro ⟨_,hp|hp|hp|⟨_,htask⟩⟩
    · exact absurd (hphase.symm.trans hp) (fun h => by cases h)
    · exact absurd (hphase.symm.trans hp) (fun h => by cases h)
    · exact absurd (hphase.symm.trans hp) (fun h => by cases h)
    · exact absurd (hclaim.1.symm.trans htask) (fun h => by cases h)
  have hdone : ¬Holds {call with phase := .returned (.answered answer)} := by
    rintro ⟨_,hp|hp|hp|⟨_,htask⟩⟩
    · cases hp
    · cases hp
    · cases hp
    · exact absurd (hclaim.1.symm.trans htask) (fun h => by cases h)
  have hstill : ∀ {n : ℕ} {c : Call ρ} {a : Answer ρ},after.calls[n]?=some c → Unclaimed c a →
      n≠number ∧ bridge.calls[n]?=some c := by
    intro n c a hget hc
    rw [hcalls] at hget
    obtain ⟨_,rfl⟩|hget := (getElem?_set_iff hcall).mp hget
    · exact absurd rfl (hc.2 answer)
    · exact hget
  refine ⟨?behind,?based,?taken,?live,?answered,?made,?housed⟩
  case behind =>
    intro h handle hh
    rw [hhandles] at hh
    rw [hboxes,claimHome]
    obtain hh|⟨i,kind,p,rfl,hkind,hp,rfl⟩ := getElem?_handles.mp hh
    · obtain ⟨hhome,live,hbox⟩ := inv.behind hh
      rw [hhome]
      exact ⟨rfl,live,hbox⟩
    · obtain ⟨kind',hkind',hbox⟩ := inv.answer_box hcall hclaim hp
      obtain rfl := Option.some.inj (hkind.symm.trans hkind')
      rw [inv.answered hcall hclaim hp]
      exact ⟨if_pos rfl,true,hbox⟩
  case based =>
    intro n c hget hc
    have hbased : ∃ handle,bridge.handles[c.handle]?=some handle ∧ handle.pointer=c.pointer ∧
        handle.kind=c.function.kind ∧ (c.function.takesOver=true → handle.closed=true) := by
      rw [hcalls] at hget
      obtain ⟨_,rfl⟩|⟨_,hg⟩ := (getElem?_set_iff hcall).mp hget
      · have hown := inv.based hcall hbegun
        exact hown
      · exact inv.based hg hc
    obtain ⟨handle,hh,hrest⟩ := hbased
    rw [hhandles]
    exact ⟨handle,getElem?_handles.mpr (.inl hh),hrest⟩
  case taken => exact inv.taken_set hcall hcalls rfl rfl hbegun
  case live =>
    intro h handle live hh hbox
    rw [hhandles] at hh
    rw [hboxes] at hbox
    rw [hcalls]
    obtain hh|⟨i,kind,p,rfl,_,hp,rfl⟩ := getElem?_handles.mp hh
    · rw [holders_set hcall (by rfl) (.inr (iff_of_false hdone hopen))]
      exact inv.live hh hbox
    · obtain ⟨_,_,hlive⟩ := inv.answer_box hcall hclaim hp
      obtain rfl := (Box.mk.inj (Option.some.inj (hlive.symm.trans hbox))).2
      exact iff_of_true rfl (.inl rfl)
  case answered =>
    intro n i p c a hget hc hi
    obtain ⟨hn,hget⟩ := hstill hget hc
    rw [claimHome,inv.answered hget hc hi]
    exact if_neg hn
  case made =>
    intro n c a hget hc
    obtain ⟨_,hget⟩ := hstill hget hc
    rw [hboxes]
    exact inv.made hget hc
  case housed =>
    intro p box hbox
    rw [hboxes] at hbox
    rw [hhandles]
    obtain ⟨h,handle,hh,hat⟩|⟨n,c,a,hget,hc,hmem⟩ := inv.housed hbox
    · exact .inl ⟨h,handle,getElem?_handles.mpr (.inl hh),hat⟩
    · by_cases hn : n=number
      · subst hn
        obtain rfl := Option.some.inj (hcall.symm.trans hget)
        obtain rfl := Task.ended.inj (hc.1.symm.trans hclaim.1)
        obtain ⟨i,hi⟩ := List.mem_iff_getElem?.mp hmem
        obtain ⟨kind,hkind,_⟩ := inv.answer_box hcall hclaim hi
        exact .inl ⟨_,_,getElem?_handles.mpr (.inr ⟨i,kind,p,rfl,hkind,hi,rfl⟩),rfl⟩
      · rw [hcalls]
        exact .inr ⟨n,c,a,(getElem?_set_iff hcall).mpr (.inr ⟨hn,hget⟩),hc,hmem⟩

/-- A storage is made. -/
theorem BoxInv.storageNew {home : ℕ→Home} (inv : BoxInv home bridge)
    (hcalls : after.calls=bridge.calls)
    (hhandles : after.handles=bridge.handles++[⟨.nodeStorage,bridge.boxes.length,false⟩])
    (hboxes : after.boxes=(bridge.allocate [.nodeStorage]).boxes) :
    BoxInv (fun p => if p<bridge.boxes.length then home p else .handle bridge.handles.length)
      after := by
  have hbound : ∀ {p : ℕ} {box : Box},bridge.boxes[p]?=some box → p<bridge.boxes.length :=
    fun h => (List.getElem?_eq_some_iff.mp h).1
  have hold : ∀ {p : ℕ} {box : Box},bridge.boxes[p]?=some box → after.boxes[p]?=some box := by
    intro p box h
    rw [hboxes,allocate_boxes (hbound h),h]
  have hlast : after.boxes[bridge.boxes.length]?=some ⟨.nodeStorage,true⟩ := by
    rw [hboxes]
    exact allocate_new (i := 0)
  refine ⟨?behind,?based,?taken,?live,?answered,?made,?housed⟩
  case behind =>
    intro h handle hh
    rw [hhandles] at hh
    obtain hh|⟨rfl,rfl⟩ := getElem?_concat_iff.mp hh
    · obtain ⟨hhome,live,hbox⟩ := inv.behind hh
      exact ⟨(if_pos (hbound hbox)).trans hhome,live,hold hbox⟩
    · exact ⟨if_neg (Nat.lt_irrefl _),true,hlast⟩
  case based =>
    intro n c hget hc
    rw [hcalls] at hget
    obtain ⟨handle,hh,hrest⟩ := inv.based hget hc
    rw [hhandles]
    exact ⟨handle,getElem?_concat_iff.mpr (.inl hh),hrest⟩
  case taken =>
    intro n m c other hget hother
    rw [hcalls] at hget hother
    exact inv.taken hget hother
  case live =>
    intro h handle live hh hbox
    rw [hhandles] at hh
    obtain hh|⟨rfl,rfl⟩ := getElem?_concat_iff.mp hh
    · obtain ⟨_,_,hwas⟩ := inv.behind hh
      obtain rfl := (Box.mk.inj (Option.some.inj ((hold hwas).symm.trans hbox))).2
      rw [hcalls]
      exact inv.live hh hwas
    · obtain rfl := (Box.mk.inj (Option.some.inj (hlast.symm.trans hbox))).2
      exact iff_of_true rfl (.inl rfl)
  case answered =>
    intro n i p c a hget hc hi
    rw [hcalls] at hget
    obtain ⟨kind,_,hbox⟩ := inv.answer_box hget hc hi
    exact (if_pos (hbound hbox)).trans (inv.answered hget hc hi)
  case made =>
    intro n c a hget hc
    rw [hcalls] at hget
    obtain hnil|⟨hlength,hmade⟩ := inv.made hget hc
    · exact .inl hnil
    · exact .inr ⟨hlength,fun hkind hi => hold (hmade hkind hi)⟩
  case housed =>
    intro p box hbox
    rw [hhandles,hcalls]
    rw [hboxes,Bridge.allocate] at hbox
    obtain hbox|⟨rfl,_⟩ := getElem?_concat_iff.mp hbox
    · obtain ⟨h,handle,hh,hat⟩|hclaimed := inv.housed hbox
      · exact .inl ⟨h,handle,getElem?_concat_iff.mpr (.inl hh),hat⟩
      · exact .inr hclaimed
    · exact .inl ⟨_,_,getElem?_concat_iff.mpr (.inr ⟨rfl,rfl⟩),rfl⟩

/-- A call begins on a handle. -/
theorem BoxInv.start {home : ℕ→Home} (inv : BoxInv home bridge) {function : Exported}
    {handle : Handle} (hhandle : bridge.handles[number]?=some handle)
    (hkind : handle.kind=function.kind)
    (hcalls : after.calls=bridge.calls++[handle.begin number function])
    (hhandles : after.handles=if function.takesOver
      then bridge.handles.set number {handle with closed := true} else bridge.handles)
    (hboxes : after.boxes=bridge.boxes) : BoxInv home after := by
  have hgone : ∀ {h : ℕ} {found : Handle},after.handles[h]?=some found →
      ∃ was,bridge.handles[h]?=some was ∧ was.kind=found.kind ∧ was.pointer=found.pointer ∧
        (found.closed=was.closed ∨ h=number ∧ function.takesOver=true ∧ found.closed=true) := by
    intro h found hh
    rw [hhandles] at hh
    split at hh
    next htakes =>
      obtain ⟨rfl,rfl⟩|⟨_,hh⟩ := (getElem?_set_iff hhandle).mp hh
      · exact ⟨handle,hhandle,rfl,rfl,.inr ⟨rfl,htakes,rfl⟩⟩
      · exact ⟨found,hh,rfl,rfl,.inl rfl⟩
    next => exact ⟨found,hh,rfl,rfl,.inl rfl⟩
  have hcome : ∀ {h : ℕ} {was : Handle},bridge.handles[h]?=some was →
      ∃ found,after.handles[h]?=some found ∧ was.kind=found.kind ∧ was.pointer=found.pointer ∧
        (was.closed=true ∨ h=number ∧ function.takesOver=true → found.closed=true) := by
    intro h was hh
    rw [hhandles]
    split
    next htakes =>
      by_cases hn : h=number
      · subst hn
        obtain rfl := Option.some.inj (hhandle.symm.trans hh)
        exact ⟨_,(getElem?_set_iff hhandle).mpr (.inl ⟨rfl,rfl⟩),rfl,rfl,fun _ => rfl⟩
      · refine ⟨was,(getElem?_set_iff hhandle).mpr (.inr ⟨hn,hh⟩),rfl,rfl,?_⟩
        rintro (hclosed|⟨heq,_⟩)
        · exact hclosed
        · exact absurd heq hn
    next htakes =>
      refine ⟨was,hh,rfl,rfl,?_⟩
      rintro (hclosed|⟨_,htakes'⟩)
      · exact hclosed
      · exact absurd htakes' htakes
  have hbegun : ∀ {phase : Phase ρ},(handle.begin number function : Call ρ).phase=phase →
      phase≠.returned .closed → handle.closed=false := by
    rintro phase rfl hne
    cases hclosed : handle.closed with
    | false => rfl
    | true => exact absurd (by rw [Handle.begin,hclosed]; rfl) hne
  have hnew : ∀ {a : Answer ρ},¬Unclaimed (handle.begin number function) a :=
    fun h => by cases h.1
  refine ⟨?behind,?based,?taken,?live,?answered,?made,?housed⟩
  case behind =>
    intro h found hh
    obtain ⟨was,hwas,hk,hp,_⟩ := hgone hh
    rw [hboxes,←hk,←hp]
    exact inv.behind hwas
  case based =>
    intro n c hget hc
    rw [hcalls] at hget
    obtain hget|⟨_,rfl⟩ := getElem?_concat_iff.mp hget
    · obtain ⟨was,hwas,hp,hk,hclosed⟩ := inv.based hget hc
      obtain ⟨found,hfound,hk',hp',hclosed'⟩ := hcome hwas
      exact ⟨found,hfound,hp'.symm.trans hp,hk'.symm.trans hk,
        fun htakes => hclosed' (.inl (hclosed htakes))⟩
    · obtain ⟨found,hfound,hk',hp',hclosed'⟩ := hcome hhandle
      exact ⟨found,hfound,hp'.symm,hk'.symm.trans hkind,
        fun htakes => hclosed' (.inr ⟨rfl,htakes⟩)⟩
  case taken =>
    have hfirst : ∀ {n : ℕ} {c : Call ρ},bridge.calls[n]?=some c → c.handle=number →
        c.function.takesOver=true → c.phase≠.returned .closed → handle.closed=true := by
      rintro n c hget rfl htakes hc
      obtain ⟨was,hwas,_,_,hclosed⟩ := inv.based hget hc
      obtain rfl := Option.some.inj (hhandle.symm.trans hwas)
      exact hclosed htakes
    intro n m c other hget hother hsame htakes htakes' hc ho
    rw [hcalls] at hget hother
    obtain hg|⟨rfl,rfl⟩ := getElem?_concat_iff.mp hget
    · obtain ho'|⟨rfl,rfl⟩ := getElem?_concat_iff.mp hother
      · exact inv.taken hg ho' hsame htakes htakes' hc ho
      · exact absurd ((hbegun rfl ho).symm.trans (hfirst hg hsame htakes hc))
          (fun h => by cases h)
    · obtain ho'|⟨rfl,_⟩ := getElem?_concat_iff.mp hother
      · exact absurd ((hbegun rfl hc).symm.trans (hfirst ho' hsame.symm htakes' ho))
          (fun h => by cases h)
      · rfl
  case live =>
    intro h found live hh hbox
    obtain ⟨was,hwas,hk,hp,hclosed⟩ := hgone hh
    rw [hboxes,←hk,←hp] at hbox
    rw [inv.live hwas hbox,hcalls]
    constructor
    · rintro (hopen|⟨n,c,hget,hon,hc⟩)
      · obtain hsame|⟨rfl,htakes,_⟩ := hclosed
        · exact .inl (hsame.trans hopen)
        · obtain rfl := Option.some.inj (hhandle.symm.trans hwas)
          refine .inr ⟨_,_,getElem?_concat_iff.mpr (.inr ⟨rfl,rfl⟩),rfl,htakes,.inl ?_⟩
          rw [Handle.begin,hopen]
          rfl
      · exact .inr ⟨n,c,getElem?_concat_iff.mpr (.inl hget),hon,hc⟩
    · rintro (hopen|⟨n,c,hget,hon,hc⟩)
      · obtain hsame|⟨_,_,htrue⟩ := hclosed
        · exact .inl (hsame.symm.trans hopen)
        · exact absurd (htrue.symm.trans hopen) (fun h => by cases h)
      · obtain hget|⟨_,rfl⟩ := getElem?_concat_iff.mp hget
        · exact .inr ⟨n,c,hget,hon,hc⟩
        · obtain rfl := hon
          obtain rfl := Option.some.inj (hhandle.symm.trans hwas)
          refine .inl (hbegun rfl fun hphase => ?_)
          obtain ⟨_,hp|hp|hp|⟨_,htask⟩⟩ := hc
          · exact absurd (hphase.symm.trans hp) (fun h => by cases h)
          · exact absurd (hphase.symm.trans hp) (fun h => by cases h)
          · exact absurd (hphase.symm.trans hp) (fun h => by cases h)
          · cases htask
  case answered =>
    intro n i p c a hget hc
    rw [hcalls] at hget
    obtain hget|⟨_,rfl⟩ := getElem?_concat_iff.mp hget
    · exact inv.answered hget hc
    · exact absurd hc hnew
  case made =>
    intro n c a hget hc
    rw [hcalls] at hget
    rw [hboxes]
    obtain hget|⟨_,rfl⟩ := getElem?_concat_iff.mp hget
    · exact inv.made hget hc
    · exact absurd hc hnew
  case housed =>
    intro p box hbox
    rw [hboxes] at hbox
    rw [hcalls]
    obtain ⟨h,was,hwas,hat⟩|⟨n,c,a,hget,hc⟩ := inv.housed hbox
    · obtain ⟨found,hfound,_,hp,_⟩ := hcome hwas
      exact .inl ⟨h,found,hfound,hp.symm.trans hat⟩
    · exact .inr ⟨n,c,a,getElem?_concat_iff.mpr (.inl hget),hc⟩

/-- What takes a box over does so at once or when its task ends. -/
theorem takesOver_iff {function : Exported} : function.takesOver=true ↔
    function.access=.consumes ∨ function.access=.keeps := by
  rw [Exported.takesOver,Bool.or_eq_true,decide_eq_true_iff,decide_eq_true_iff]

/-- Only a function with a task keeps a box. -/
theorem synchronous_of_keeps {function : Exported} (h : function.access=.keeps) :
    function.synchronous=false := by
  cases function <;> first | rfl | (simp only [Exported.access] at h; cases h)

/-- What keeps a box makes none. -/
theorem makes_of_keeps {function : Exported} (h : function.access=.keeps) :
    function.makes=[] := by
  cases function <;> first | rfl | (simp only [Exported.access] at h; cases h)

/-- A synchronous function that can refuse does not take a box over. -/
theorem takesOver_of_refusal {function : Exported} (h : function.synchronous=true)
    (hrefusal : function.refusal≠.never) : function.takesOver=false := by
  cases function <;>
    first | rfl | exact absurd rfl hrefusal | (simp only [Exported.synchronous] at h; cases h)

/-- Before its function is called, and after a refusal, a call holds what it takes over. -/
theorem holds_iff (h : call.phase=.checked ∨ call.phase=.registered ∨ call.phase=.refused) :
    Holds call ↔ call.function.takesOver=true := by
  refine ⟨And.left,fun htakes => ⟨htakes,?_⟩⟩
  obtain h|h|h := h
  · exact .inl h
  · exact .inr (.inl h)
  · exact .inr (.inr (.inl h))

/-- Afterwards it holds what its task keeps. -/
theorem holds_iff_keeps (h : call.phase≠.checked) (h' : call.phase≠.registered)
    (h'' : call.phase≠.refused) :
    Holds call ↔ call.function.access=.keeps ∧ call.task=.running := by
  constructor
  · rintro ⟨_,hp|hp|hp|hkeeps⟩
    · exact absurd hp h
    · exact absurd hp h'
    · exact absurd hp h''
    · exact hkeeps
  · exact fun hkeeps => ⟨takesOver_iff.mpr (.inr hkeeps.1),.inr (.inr (.inr hkeeps))⟩

/-- A call whose task has not ended has no answer. -/
theorem not_unclaimed (h : ∀ answer,call.task≠.ended answer) (answer : Answer ρ) :
    ¬Unclaimed call answer := fun hc => h answer hc.1

/-- Nor has it one afterwards, if its task has not ended then. -/
theorem unclaimed_iff (h : ∀ answer,call.task≠.ended answer)
    (h' : ∀ answer,call'.task≠.ended answer) (answer : Answer ρ) :
    Unclaimed call' answer ↔ Unclaimed call answer :=
  iff_of_false (not_unclaimed h' answer) (not_unclaimed h answer)

/-- The task of a call that has none has not ended. -/
theorem unended_of_unspawned (h : call.task=.unspawned) (answer : Answer ρ) :
    call.task≠.ended answer :=
  fun hended => absurd (h.symm.trans hended) (fun h => by cases h)

/-- The task of a call that runs has not ended. -/
theorem unended_of_running (h : call.task=.running) (answer : Answer ρ) :
    call.task≠.ended answer :=
  fun hended => absurd (h.symm.trans hended) (fun h => by cases h)

/-- The task of a call ends: a box that it kept is done away with, others are made. -/
theorem BoxInv.complete {home : ℕ→Home} (inv : BoxInv home bridge) (slots : SlotInv count bridge)
    (hcall : bridge.calls[number]?=some call) (htask : call.task=.running) {kinds : List Kind}
    {answer : Answer ρ} (hkinds : kinds=[] ∨ kinds=call.function.makes)
    (hanswer : answer.boxes=bridge.newBoxes kinds)
    (hcalls : after.calls=bridge.calls.set number (ended call answer))
    (hhandles : after.handles=bridge.handles)
    (hboxes : after.boxes=((bridge.releaseIf (call.function.access=.keeps)
      call.pointer).allocate kinds).boxes) : ∃ home',BoxInv home' after := by
  have hvalid := slots.valid hcall
  obtain ⟨_,hphase⟩ := hvalid.of_running htask
  have hphase' : call.phase=.waiting ∨ call.phase=.returned .cancelled :=
    hphase.imp_left And.left
  have hbegun : call.phase≠.returned .closed := by
    obtain h|h := hphase' <;> rw [h] <;> exact fun h => by cases h
  have hunreturned : ∀ a,call.phase≠.returned (.answered a) := by
    obtain h|h := hphase' <;> rw [h] <;> exact fun _ h => by cases h
  obtain ⟨hch,hre,hrf⟩ : call.phase≠.checked ∧ call.phase≠.registered ∧ call.phase≠.refused := by
    obtain h|h := hphase' <;> rw [h] <;>
      exact ⟨(fun h => by cases h),(fun h => by cases h),(fun h => by cases h)⟩
  have hholds := holds_iff_keeps hch hre hrf
  have hdone : ¬Holds (ended call answer) := by
    rw [@holds_iff_keeps ρ (ended call answer) hch hre hrf]
    exact fun h => by cases h.2
  by_cases hkeeps : call.function.access=.keeps
  · have hnil : kinds=[] := by
      rw [makes_of_keeps hkeeps] at hkinds
      exact hkinds.elim id id
    rw [decide_eq_true hkeeps] at hboxes
    have hlt := (List.getElem?_eq_some_iff.mp hcall).1
    have hmid : ¬Holds {call with phase := .returned .refused, task := .unspawned} := by
      rw [holds_iff_keeps (fun h => by cases h) (fun h => by cases h) (fun h => by cases h)]
      exact fun h => by cases h.2
    have hinv : BoxInv home ((bridge.release call.pointer).setCall number
        {call with phase := .returned .refused, task := .unspawned}) :=
      inv.change slots hcall rfl rfl (.inr ⟨rfl,hholds.mpr ⟨hkeeps,htask⟩,hmid⟩) rfl rfl rfl hbegun
        (fun h => by cases h)
        (unclaimed_iff (unended_of_running htask) fun _ h => by cases h)
    refine ⟨_,hinv.allocate (List.getElem?_set_self hlt) (hcalls.trans (List.set_set _).symm)
      hhandles hboxes (.inl hnil) ?_ hmid hdone (not_unclaimed fun _ h => by cases h) rfl rfl rfl rfl
      (fun h => by cases h) hbegun hunreturned⟩
    rw [hanswer,hnil]
    rfl
  · rw [decide_eq_false hkeeps] at hboxes
    exact ⟨_,inv.allocate hcall hcalls hhandles hboxes hkinds hanswer
      (fun h => hkeeps (hholds.mp h).1) hdone (not_unclaimed (unended_of_running htask)) rfl rfl rfl
      rfl hbegun hbegun hunreturned⟩

/-- A step keeps the pointers apart. -/
theorem BoxInv.step {home : ℕ→Home} (inv : BoxInv home bridge) (slots : SlotInv count bridge)
    (hstep : bridge.step pointers event=some after) (hroom : count<pointers) :
    ∃ home',BoxInv home' after := by
  cases step_move hstep with
  | storageNew => exact ⟨_,inv.storageNew rfl rfl rfl⟩
  | @start number function handle hhandle hkind => exact ⟨home,inv.start hhandle hkind rfl rfl rfl⟩
  | @register number call hcall hphase hkind =>
    have hvalid := slots.valid hcall
    simp only [Valid,hphase] at hvalid
    have htask := unended_of_unspawned hvalid.2.1
    refine ⟨home,inv.change slots hcall rfl rfl (.inl ⟨rfl,?_⟩) rfl rfl rfl ?_ ?_
      (unclaimed_iff htask htask)⟩
    · rw [holds_iff (.inl hphase),holds_iff (.inr (.inl rfl))]
    · rw [hphase]
      exact fun h => by cases h
    · exact fun h => by cases h
  | @done number call hcall hphase hkind =>
    have hvalid := slots.valid hcall
    simp only [Valid,hphase] at hvalid
    have htask := unended_of_unspawned hvalid.2.1
    have hdone : ¬Holds {call with phase := .returned .done} := by
      rw [holds_iff_keeps (fun h => by cases h) (fun h => by cases h) (fun h => by cases h)]
      exact fun h => absurd (hvalid.2.1.symm.trans h.2) (fun h => by cases h)
    refine ⟨home,inv.change slots hcall releaseIf_setCall_calls releaseIf_handles ?_ rfl rfl rfl
      ?_ ?_ (unclaimed_iff htask htask)⟩
    · by_cases hconsumes : call.function.access=.consumes
      · rw [decide_eq_true hconsumes]
        exact .inr ⟨rfl,(holds_iff (.inl hphase)).mpr (takesOver_iff.mpr (.inl hconsumes)),hdone⟩
      · rw [decide_eq_false hconsumes]
        refine .inl ⟨rfl,iff_of_false hdone ?_⟩
        rw [holds_iff (.inl hphase),takesOver_iff]
        rintro (h|h)
        · exact hconsumes h
        · exact absurd (hkind.symm.trans (synchronous_of_keeps h)) (fun h => by cases h)
    · rw [hphase]
      exact fun h => by cases h
    · exact fun h => by cases h
  | @refusedNow number call hcall hphase hkind hrefusal =>
    have hvalid := slots.valid hcall
    simp only [Valid,hphase] at hvalid
    have htask := unended_of_unspawned hvalid.2.1
    have hnone : call.function.takesOver≠true :=
      fun h => absurd (h.symm.trans (takesOver_of_refusal hkind hrefusal)) (fun h => by cases h)
    refine ⟨home,inv.change slots hcall rfl rfl (.inl ⟨rfl,?_⟩) rfl rfl rfl ?_ ?_
      (unclaimed_iff htask htask)⟩
    · exact iff_of_false (fun h => hnone h.1) (fun h => hnone h.1)
    · rw [hphase]
      exact fun h => by cases h
    · exact fun h => by cases h
  | @spawned number call hcall hphase hkind =>
    have hvalid := slots.valid hcall
    simp only [Valid,hphase] at hvalid
    have htask := unended_of_unspawned hvalid.2.1
    refine ⟨home,inv.change slots hcall releaseIf_setCall_calls releaseIf_handles ?_ rfl rfl rfl
      ?_ ?_ (unclaimed_iff htask fun answer h => by cases h)⟩
    · rw [holds_iff (.inr (.inl hphase)),holds_iff_keeps (fun h => by cases h)
        (fun h => by cases h) (fun h => by cases h),takesOver_iff]
      by_cases hconsumes : call.function.access=.consumes
      · rw [decide_eq_true hconsumes]
        exact .inr ⟨rfl,.inl hconsumes,
          fun h => absurd (hconsumes.symm.trans h.1) (fun h => by cases h)⟩
      · rw [decide_eq_false hconsumes]
        exact .inl ⟨rfl,fun h => .inr h.1,fun h => ⟨h.resolve_left hconsumes,rfl⟩⟩
    · rw [hphase]
      exact fun h => by cases h
    · exact fun h => by cases h
  | @refused number call hcall hphase hkind hrefusal =>
    have hvalid := slots.valid hcall
    simp only [Valid,hphase] at hvalid
    have htask := unended_of_unspawned hvalid.2.1
    refine ⟨home,inv.change slots hcall rfl rfl (.inl ⟨rfl,?_⟩) rfl rfl rfl ?_ ?_
      (unclaimed_iff htask htask)⟩
    · rw [holds_iff (.inr (.inl hphase)),holds_iff (.inr (.inr rfl))]
    · rw [hphase]
      exact fun h => by cases h
    · exact fun h => by cases h
  | run => exact ⟨home,inv⟩
  | @complete number call payload success kinds answer hcall htask hkinds hanswer =>
    rw [slots.resolve hroom hcall htask ((bridge.releaseIf (call.function.access=.keeps)
      call.pointer).allocate kinds) releaseIf_calls releaseIf_pending]
    refine inv.complete slots hcall htask ?_ (by rw [hanswer]) rfl releaseIf_handles rfl
    cases success with
    | true => exact .inr hkinds
    | false => exact .inl hkinds
  | @finishRefused number call hcall hphase =>
    have hvalid := slots.valid hcall
    simp only [Valid,hphase] at hvalid
    have htask := unended_of_unspawned hvalid.2.1
    have hdone : ¬Holds {call with phase := .returned .refused} := by
      rw [holds_iff_keeps (fun h => by cases h) (fun h => by cases h) (fun h => by cases h)]
      exact fun h => absurd (hvalid.2.1.symm.trans h.2) (fun h => by cases h)
    refine ⟨home,inv.change slots hcall releaseIf_setCall_calls releaseIf_handles ?_ rfl rfl rfl
      ?_ ?_ (unclaimed_iff htask htask)⟩
    · rw [holds_iff (.inr (.inr hphase))]
      cases htakes : call.function.takesOver with
      | true => exact .inr ⟨rfl,rfl,hdone⟩
      | false => exact .inl ⟨rfl,iff_of_false hdone (fun h => by cases h)⟩
    · rw [hphase]
      exact fun h => by cases h
    · exact fun h => by cases h
  | @finishAnswered number call answer hcall hphase hslot =>
    have hvalid := slots.valid hcall
    simp only [Valid,hphase] at hvalid
    obtain ⟨_,⟨_,hnone⟩|⟨answer',hended,hsome⟩⟩ := hvalid
    · exact absurd (hnone.symm.trans hslot) (fun h => by cases h)
    · obtain rfl := Option.some.inj (hslot.symm.trans hsome)
      refine ⟨_,inv.claim hcall hphase ⟨hended,fun a h => ?_⟩ rfl rfl rfl⟩
      exact absurd (hphase.symm.trans h) (fun h => by cases h)
  | @cancel number call hcall hphase =>
    refine ⟨home,inv.change slots hcall rfl rfl (.inl ⟨rfl,?_⟩) rfl rfl rfl ?_ ?_ fun answer => ?_⟩
    · rw [holds_iff_keeps (fun h => by cases h) (fun h => by cases h) (fun h => by cases h),
        holds_iff_keeps (hphase ▸ fun h => by cases h) (hphase ▸ fun h => by cases h)
          (hphase ▸ fun h => by cases h)]
    · rw [hphase]
      exact fun h => by cases h
    · exact fun h => by cases h
    · refine and_congr Iff.rfl (iff_of_true (fun _ h => by cases h) fun _ => ?_)
      rw [hphase]
      exact fun h => by cases h

end WispersConnect.ForeignBoxes
