import WispersConnect.StreamBooks

/-!
# Which handles exist for the streams of a connection

`open_stream` counts its ids up, `accept_stream` remembers what it returned. What
neither looks at is who opened a readable stream: quiche reports a stream as
readable whichever side opened it, and a reply on a stream of this side that is
reported before any new stream of the peer is handed out as one of the peer's.
-/

namespace WispersConnect.StreamHandles

open Messages QuicConnection ConnectionSteps DriverExit StreamBooks Runs

variable {σ ρ ω ι : Type}

/-- A stream that this role opens: the lowest bit of its id tells. -/
def Own (role : QuicRole) (id : ℕ) : Prop := id%2=role.base

instance (role : QuicRole) (id : ℕ) : Decidable (Own role id) :=
  inferInstanceAs (Decidable (_=_))

/-- One of the first ids that `open_stream` allots. -/
def Allotted (role : QuicRole) (next id : ℕ) : Prop := ∃ k,k<next ∧ id=role.base+4*k

/-- A connection, and the streams handed out by it. -/
structure Tracked (σ ρ ω ι : Type) where
  /-- The connection. -/
  state : State σ ρ ω ι
  /-- What `open_stream` returned, the latest first. -/
  opened : List ℕ
  /-- What `accept_stream` returned. -/
  accepted : List ℕ
  /-- The streams of the handles that were not dropped. -/
  alive : List ℕ

/-- The stream that `open_stream` returns in a step. -/
def opensNow (before after : State σ ρ ω ι) : Label ρ ι→List ℕ
  | .caller i _ =>
    match before.callers i with
    | .call .openStream _ _ => (givenStream (after.callers i)).toList
    | _ => []
  | _ => []

/-- The stream that `accept_stream` returns in a step. -/
def acceptsNow (before after : State σ ρ ω ι) : Label ρ ι→List ℕ
  | .caller i _ =>
    match before.callers i with
    | .call .acceptStream _ _ => (givenStream (after.callers i)).toList
    | _ => []
  | _ => []

/-- The handles left after a step that may drop one. -/
def leftAlive (alive : List ℕ) : Label ρ ι→List ℕ
  | .touch (.dropped id) => alive.erase id
  | _ => alive

variable [DecidableEq ω] [DecidableEq ι]

/-- A step of the connection, with what it hands out. A handle is dropped where there is one. -/
structure TrackedStep (Q : Quiche σ ρ) (role : QuicRole) (waker : ι→ω) (before : Tracked σ ρ ω ι)
    (label : Label ρ ι) (after : Tracked σ ρ ω ι) : Prop where
  /-- The connection takes the step. -/
  now : Step Q role waker before.state label after.state
  /-- What is opened. -/
  opened : after.opened=opensNow before.state after.state label++before.opened
  /-- What is accepted. -/
  accepted : after.accepted=acceptsNow before.state after.state label++before.accepted
  /-- The handles. -/
  alive : after.alive=opensNow before.state after.state label++
    (acceptsNow before.state after.state label++leftAlive before.alive label)
  /-- What is dropped is a handle. -/
  held : ∀ id,label=.touch (.dropped id) → id∈before.alive

/-- The runs of a connection with what they hand out. -/
abbrev TrackedRun (Q : Quiche σ ρ) (role : QuicRole) (waker : ι→ω) (start : Tracked σ ρ ω ι) :
    List (Label ρ ι)→Tracked σ ρ ω ι→Prop :=
  Run (fun _ before label after => TrackedStep Q role waker before label after) start

/-- A new connection that has handed out nothing. -/
structure Untouched (start : Tracked σ ρ ω ι) : Prop where
  /-- It is new. -/
  fresh : Fresh start.state
  /-- Nothing was opened. -/
  opened : start.opened=[]
  /-- Nothing was accepted. -/
  accepted : start.accepted=[]
  /-- No handle exists. -/
  alive : start.alive=[]

variable {Q : Quiche σ ρ} {role : QuicRole} {waker : ι→ω}

/-- What a step does to the handles. -/
inductive HandleMove (role : QuicRole) (before : Tracked σ ρ ω ι) (label : Label ρ ι)
    (after : Tracked σ ρ ω ι) : Prop where
  /-- No stream is allotted or handed out. -/
  | kept (next : after.state.shared.nextStreamIndex=before.state.shared.nextStreamIndex)
      (known : after.state.shared.acceptedStreams=before.state.shared.acceptedStreams)
      (opened : after.opened=before.opened) (accepted : after.accepted=before.accepted)
      (alive : ∀ id,after.alive.count id≤before.alive.count id)
      (opening : ∀ j,StreamBooks.opening (after.state.callers j)=
        StreamBooks.opening (before.state.callers j) ∨
        StreamBooks.opening (after.state.callers j)=none)
  /-- A stream is allotted to a call of `open_stream`. -/
  | allotted (i : ι)
      (next : after.state.shared.nextStreamIndex=before.state.shared.nextStreamIndex+1)
      (known : after.state.shared.acceptedStreams=before.state.shared.acceptedStreams)
      (opened : after.opened=before.opened) (accepted : after.accepted=before.accepted)
      (alive : after.alive=before.alive)
      (own : StreamBooks.opening (after.state.callers i)=none ∨
        StreamBooks.opening (after.state.callers i)=some (nextId role (books before.state.shared)))
      (others : ∀ j,j≠i → after.state.callers j=before.state.callers j)
  /-- A stream is returned by `open_stream`. -/
  | opened (i : ι) (id : ℕ)
      (next : after.state.shared.nextStreamIndex=before.state.shared.nextStreamIndex)
      (known : after.state.shared.acceptedStreams=before.state.shared.acceptedStreams)
      (was : StreamBooks.opening (before.state.callers i)=some id)
      (own : StreamBooks.opening (after.state.callers i)=none)
      (others : ∀ j,j≠i → after.state.callers j=before.state.callers j)
      (opened : after.opened=id::before.opened) (accepted : after.accepted=before.accepted)
      (alive : after.alive=id::before.alive)
  /-- A stream is returned by `accept_stream`. -/
  | accepted (i : ι) (id : ℕ)
      (scan : ∃ turn fired,label=.caller i turn ∧
        before.state.callers i=.call .acceptStream .check fired)
      (next : after.state.shared.nextStreamIndex=before.state.shared.nextStreamIndex)
      (known : after.state.shared.acceptedStreams=insert id before.state.shared.acceptedStreams)
      (fresh : id∉before.state.shared.acceptedStreams)
      (own : StreamBooks.opening (after.state.callers i)=none)
      (others : ∀ j,j≠i → after.state.callers j=before.state.callers j)
      (opened : after.opened=before.opened) (accepted : after.accepted=id::before.accepted)
      (alive : after.alive=id::before.alive)

omit [DecidableEq ω] [DecidableEq ι] in
/-- A step of a call that returns no stream hands out none. -/
theorem handsNothing {before after : State σ ρ ω ι} {i : ι} {turn : Turn ρ}
    (h : givenStream (after.callers i)=none) :
    opensNow before after (.caller i turn)=[] ∧ acceptsNow before after (.caller i turn)=[] := by
  unfold opensNow acceptsNow
  dsimp only
  rw [h]
  constructor
  · split <;> rfl
  · split <;> rfl

omit [DecidableEq ω] [DecidableEq ι] in
/-- Neither does a step that is not one of a call. -/
theorem handsNothing_of_uncalled {before after : State σ ρ ω ι} {label : Label ρ ι}
    (h : ∀ i turn,label=.caller i turn → ∀ call pc fired,before.callers i≠.call call pc fired) :
    opensNow before after label=[] ∧ acceptsNow before after label=[] := by
  cases label with
  | caller i turn =>
    cases hcaller : before.callers i with
    | call call pc fired => exact absurd hcaller (h i turn rfl call pc fired)
    | idle | closing | poll | returned | ready => simp [opensNow,acceptsNow,hcaller]
  | driver | start | abandon | touch | dropConnection | abort | cancel => exact ⟨rfl,rfl⟩

omit [DecidableEq ω] [DecidableEq ι] in
/-- A step in which `open_stream` returns a stream hands out that stream. -/
theorem handsOpened {before after : State σ ρ ω ι} {i : ι} {turn : Turn ρ} {pc : Pc} {fired : Bool}
    {id : ℕ} (under : before.callers i=.call .openStream pc fired)
    (h : after.callers i=.returned (.ok (.stream id))) :
    opensNow before after (.caller i turn)=[id] ∧ acceptsNow before after (.caller i turn)=[] := by
  simp [opensNow,acceptsNow,under,h,givenStream]

omit [DecidableEq ω] [DecidableEq ι] in
/-- A step in which `accept_stream` returns a stream hands out that stream. -/
theorem handsAccepted {before after : State σ ρ ω ι} {i : ι} {turn : Turn ρ} {pc : Pc} {fired : Bool}
    {id : ℕ} (under : before.callers i=.call .acceptStream pc fired)
    (h : after.callers i=.returned (.ok (.stream id))) :
    opensNow before after (.caller i turn)=[] ∧ acceptsNow before after (.caller i turn)=[id] := by
  simp [opensNow,acceptsNow,under,h,givenStream]

/-- Every step does one of these. -/
theorem trackedStep_moves {before after : Tracked σ ρ ω ι} {label : Label ρ ι}
    (h : TrackedStep Q role waker before label after)
    (hreturns : ∀ i,ReturnsOpened (before.state.callers i)) :
    HandleMove role before label after := by
  have hopened := h.opened
  have haccepted := h.accepted
  have halive := h.alive
  cases step_books h.now hreturns with
  | other moves undrained uncalled kept =>
    have hnone := @handsNothing_of_uncalled σ ρ ω ι before.state after.state label uncalled
    rw [hnone.1,List.nil_append] at hopened halive
    rw [hnone.2,List.nil_append] at haccepted halive
    have hleft : ∀ id,after.alive.count id≤before.alive.count id := by
      intro id
      rw [halive]
      unfold leftAlive
      split
      · exact List.erase_sublist.count_le id
      · exact le_refl _
    have hbooks : after.state.shared.nextStreamIndex=before.state.shared.nextStreamIndex ∧
        after.state.shared.acceptedStreams=before.state.shared.acceptedStreams := by
      generalize hafter : books after.state.shared=b at moves
      have hnext := congrArg Books.nextStreamIndex hafter
      have hknown := congrArg Books.acceptedStreams hafter
      cases moves with
      | quiet => exact ⟨hnext,hknown⟩
      | ended id half ends => cases half <;> exact ⟨hnext,hknown⟩
      | dropped id =>
        unfold Books.dropped at hnext hknown
        split_ifs at hnext hknown <;> exact ⟨hnext,hknown⟩
    exact .kept hbooks.1 hbooks.2 hopened haccepted hleft kept
  | @call i turn call pc fired _ under moves others =>
    have hleft : leftAlive before.alive (.caller i turn)=before.alive := rfl
    rw [hleft] at halive
    have hnothing : givenStream (after.state.callers i)=none → after.opened=before.opened ∧
        after.accepted=before.accepted ∧ after.alive=before.alive := by
      intro hungiven
      obtain ⟨hopens,haccepts⟩ := @handsNothing σ ρ ω ι before.state after.state i turn hungiven
      rw [hopens] at hopened halive
      rw [haccepts] at haccepted halive
      exact ⟨hopened,haccepted,halive⟩
    have hkept : ∀ j,j≠i → StreamBooks.opening (after.state.callers j)=
        StreamBooks.opening (before.state.callers j) := fun j hj => congrArg _ (others j hj)
    have hopening : (StreamBooks.opening (after.state.callers i)=
          StreamBooks.opening (before.state.callers i) ∨
        StreamBooks.opening (after.state.callers i)=none) →
        ∀ j,StreamBooks.opening (after.state.callers j)=
          StreamBooks.opening (before.state.callers j) ∨
        StreamBooks.opening (after.state.callers j)=none := by
      intro hi j
      by_cases hj : j=i
      · rw [hj]
        exact hi
      · exact .inl (hkept j hj)
    generalize hcaller : after.state.callers i=caller at moves
    generalize hbefore : (Caller.call call pc fired : Caller ω)=called at moves
    rw [hcaller] at hnothing hopening
    cases moves with
    | quiet same undrained unended kept ungiven =>
      obtain ⟨ho,ha,hl⟩ := hnothing ungiven
      refine .kept (congrArg Books.nextStreamIndex same) (congrArg Books.acceptedStreams same) ho ha
        (fun id => by rw [hl]) (hopening ?_)
      rw [under,hbefore]
      exact kept
    | ended id undrained ends written unopened ungiven =>
      obtain ⟨ho,ha,hl⟩ := hnothing ungiven
      exact .kept (congrArg Books.nextStreamIndex written) (congrArg Books.acceptedStreams written)
        ho ha (fun id => by rw [hl]) (hopening (.inr unopened))
    | drained draining written unopened ungiven exhausted =>
      obtain ⟨ho,ha,hl⟩ := hnothing ungiven
      exact .kept (congrArg Books.nextStreamIndex written) (congrArg Books.acceptedStreams written)
        ho ha (fun id => by rw [hl]) (hopening (.inr unopened))
    | allotted opens written next ungiven =>
      obtain ⟨ho,ha,hl⟩ := hnothing ungiven
      refine .allotted i (congrArg Books.nextStreamIndex written)
        (congrArg Books.acceptedStreams written) ho ha hl ?_ others
      rw [hcaller]
      exact next
    | returned id same undrained unended opened =>
      have hcall : call=.openStream := opening_openStream (hbefore ▸ opened)
      subst hcall
      have hopens := @handsOpened σ ρ ω ι before.state after.state i turn pc fired id under hcaller
      rw [hopens.1] at hopened halive
      rw [hopens.2] at haccepted halive
      refine .opened i id (congrArg Books.nextStreamIndex same)
        (congrArg Books.acceptedStreams same) ?_ ?_ others hopened haccepted halive
      · rw [under,hbefore]
        exact opened
      · rw [hcaller]
        rfl
    | accepted id accept found fresh passed written =>
      obtain ⟨fired',hcall⟩ := accept
      rw [hcall] at hbefore
      rw [hbefore] at under
      have haccepts := @handsAccepted σ ρ ω ι before.state after.state i turn .check fired' id under
        hcaller
      rw [haccepts.1] at hopened halive
      rw [haccepts.2] at haccepted halive
      refine .accepted i id ⟨turn,fired',rfl,under⟩ (congrArg Books.nextStreamIndex written)
        (congrArg Books.acceptedStreams written) fresh ?_ others hopened haccepted halive
      rw [hcaller]
      rfl

/-- What was handed out, and what is about to be. -/
structure Apart (role : QuicRole) (tracked : Tracked σ ρ ω ι) : Prop where
  /-- Only `open_stream` flushes before it returns a stream. -/
  returns : ∀ i,ReturnsOpened (tracked.state.callers i)
  /-- What was opened was allotted. -/
  openedForm : ∀ id∈tracked.opened,Allotted role tracked.state.shared.nextStreamIndex id
  /-- A stream that is about to be opened was allotted, too, and is not opened yet. -/
  openingForm : ∀ i id,opening (tracked.state.callers i)=some id →
    Allotted role tracked.state.shared.nextStreamIndex id ∧ id∉tracked.opened
  /-- No two calls are about to return the same stream. -/
  openingApart : ∀ i j id,opening (tracked.state.callers i)=some id →
    opening (tracked.state.callers j)=some id → i=j
  /-- A stream is opened once. -/
  openedOnce : tracked.opened.Nodup
  /-- A stream is accepted once. -/
  acceptedOnce : tracked.accepted.Nodup
  /-- What was accepted is remembered. -/
  acceptedKnown : ∀ id∈tracked.accepted,id∈tracked.state.shared.acceptedStreams
  /-- Every handle was handed out. -/
  alive : ∀ id,tracked.alive.count id≤tracked.opened.count id+tracked.accepted.count id

omit [DecidableEq ω] [DecidableEq ι] in
/-- What was allotted stays so. -/
theorem Allotted.mono {next next' id : ℕ} (h : Allotted role next id) (hnext : next≤next') :
    Allotted role next' id := by
  obtain ⟨k,hk,hid⟩ := h
  exact ⟨k,by omega,hid⟩

omit [DecidableEq ω] [DecidableEq ι] in
/-- The id allotted next was not allotted. -/
theorem nextId_not_allotted (b : Books) : ¬Allotted role b.nextStreamIndex (nextId role b) := by
  rintro ⟨k,hk,hid⟩
  unfold nextId at hid
  omega

omit [DecidableEq ω] [DecidableEq ι] in
/-- What is allotted is of this side. -/
theorem Allotted.own {next id : ℕ} (h : Allotted role next id) : Own role id := by
  obtain ⟨k,_,rfl⟩ := h
  unfold Own
  cases role with
  | client => simp only [QuicRole.base]; omega
  | server => simp only [QuicRole.base]; omega

omit [DecidableEq ω] [DecidableEq ι] in
/-- A new connection. -/
theorem Untouched.apart {start : Tracked σ ρ ω ι} (h : Untouched start) : Apart role start := by
  have hcaller := h.fresh.callers
  refine ⟨fun i => ?_,?_,fun i id hi => ?_,fun i j id hi => ?_,?_,?_,?_,fun id => ?_⟩
  · rw [hcaller]
    trivial
  · simp [h.opened]
  · rw [hcaller] at hi
    cases hi
  · rw [hcaller] at hi
    cases hi
  · simp [h.opened]
  · simp [h.accepted]
  · simp [h.accepted]
  · simp [h.alive]

/-- Every step keeps what was handed out apart. -/
theorem Apart.step {before after : Tracked σ ρ ω ι} {label : Label ρ ι}
    (inv : Apart role before) (h : TrackedStep Q role waker before label after) :
    Apart role after := by
  have hreturns : ∀ i,ReturnsOpened (after.state.callers i) := returnsOpened_step h.now inv.returns
  cases trackedStep_moves h inv.returns with
  | kept next known opened accepted alive opening =>
    have hbefore : ∀ {j id},StreamBooks.opening (after.state.callers j)=some id →
        StreamBooks.opening (before.state.callers j)=some id := by
      intro j id hj
      rcases opening j with hsame|hnone
      · exact hsame.symm.trans hj
      · cases hnone.symm.trans hj
    refine ⟨hreturns,?_,fun i id hi => ?_,fun i j id hi hj => ?_,?_,?_,?_,fun id => ?_⟩
    · rw [opened,next]
      exact inv.openedForm
    · rw [opened,next]
      exact inv.openingForm i id (hbefore hi)
    · exact inv.openingApart i j id (hbefore hi) (hbefore hj)
    · rw [opened]
      exact inv.openedOnce
    · rw [accepted]
      exact inv.acceptedOnce
    · rw [accepted,known]
      exact inv.acceptedKnown
    · rw [opened,accepted]
      exact (alive id).trans (inv.alive id)
  | allotted i next known opened accepted alive own others =>
    have hnew := @nextId_not_allotted role (books before.state.shared)
    have hgrows : before.state.shared.nextStreamIndex≤after.state.shared.nextStreamIndex := by omega
    have hcases : ∀ {j id},StreamBooks.opening (after.state.callers j)=some id →
        (j=i ∧ id=nextId role (books before.state.shared)) ∨
          StreamBooks.opening (before.state.callers j)=some id := by
      intro j id hj
      by_cases hji : j=i
      · subst hji
        rcases own with hnone|hsome
        · cases hnone.symm.trans hj
        · exact .inl ⟨rfl,(Option.some.inj (hsome.symm.trans hj)).symm⟩
      · rw [others j hji] at hj
        exact .inr hj
    refine ⟨hreturns,?_,fun j id hj => ?_,fun j j' id hj hj' => ?_,?_,?_,?_,fun id => ?_⟩
    · rw [opened]
      exact fun id hid => (inv.openedForm id hid).mono hgrows
    · rw [opened]
      rcases hcases hj with ⟨_,rfl⟩|hold
      · exact ⟨⟨before.state.shared.nextStreamIndex,by omega,rfl⟩,
          fun hid => hnew (inv.openedForm _ hid)⟩
      · obtain ⟨hform,hfresh⟩ := inv.openingForm j id hold
        exact ⟨hform.mono hgrows,hfresh⟩
    · rcases hcases hj with ⟨rfl,rfl⟩|hold
      · rcases hcases hj' with ⟨rfl,_⟩|hold'
        · rfl
        · exact absurd (inv.openingForm j' _ hold').1 hnew
      · rcases hcases hj' with ⟨rfl,rfl⟩|hold'
        · exact absurd (inv.openingForm j _ hold).1 hnew
        · exact inv.openingApart j j' id hold hold'
    · rw [opened]
      exact inv.openedOnce
    · rw [accepted]
      exact inv.acceptedOnce
    · rw [accepted,known]
      exact inv.acceptedKnown
    · rw [alive,opened,accepted]
      exact inv.alive id
  | opened i id next known was own others opened accepted alive =>
    obtain ⟨hform,hfresh⟩ := inv.openingForm i id was
    have hcases : ∀ {j found},StreamBooks.opening (after.state.callers j)=some found →
        j≠i ∧ StreamBooks.opening (before.state.callers j)=some found := by
      intro j found hj
      have hji : j≠i := by
        rintro rfl
        cases own.symm.trans hj
      rw [others j hji] at hj
      exact ⟨hji,hj⟩
    refine ⟨hreturns,?_,fun j found hj => ?_,fun j j' found hj hj' => ?_,?_,?_,?_,fun found => ?_⟩
    · rw [opened,next]
      intro found hfound
      rcases List.mem_cons.mp hfound with rfl|hfound
      · exact hform
      · exact inv.openedForm found hfound
    · obtain ⟨hji,hold⟩ := hcases hj
      obtain ⟨hform',hfresh'⟩ := inv.openingForm j found hold
      rw [opened,next]
      refine ⟨hform',fun hfound => ?_⟩
      rcases List.mem_cons.mp hfound with rfl|hfound
      · exact hji (inv.openingApart j i found hold was)
      · exact hfresh' hfound
    · exact inv.openingApart j j' found (hcases hj).2 (hcases hj').2
    · rw [opened]
      exact List.nodup_cons.mpr ⟨hfresh,inv.openedOnce⟩
    · rw [accepted]
      exact inv.acceptedOnce
    · rw [accepted,known]
      exact inv.acceptedKnown
    · have hcount := inv.alive found
      rw [opened,accepted,alive,List.count_cons,List.count_cons]
      omega
  | accepted i id scan next known fresh own others opened accepted alive =>
    have hcases : ∀ {j found},StreamBooks.opening (after.state.callers j)=some found →
        StreamBooks.opening (before.state.callers j)=some found := by
      intro j found hj
      have hji : j≠i := by
        rintro rfl
        cases own.symm.trans hj
      rwa [others j hji] at hj
    refine ⟨hreturns,?_,fun j found hj => ?_,fun j j' found hj hj' => ?_,?_,?_,?_,fun found => ?_⟩
    · rw [opened,next]
      exact inv.openedForm
    · rw [opened,next]
      exact inv.openingForm j found (hcases hj)
    · exact inv.openingApart j j' found (hcases hj) (hcases hj')
    · rw [opened]
      exact inv.openedOnce
    · rw [accepted]
      exact List.nodup_cons.mpr ⟨fun hid => fresh (inv.acceptedKnown id hid),inv.acceptedOnce⟩
    · rw [accepted,known]
      intro found hfound
      rcases List.mem_cons.mp hfound with rfl|hfound
      · exact Finset.mem_insert_self _ _
      · exact Finset.mem_insert_of_mem (inv.acceptedKnown found hfound)
    · have hcount := inv.alive found
      rw [opened,accepted,alive,List.count_cons,List.count_cons]
      omega

/-- Every run keeps what was handed out apart. -/
theorem TrackedRun.apart {start tracked : Tracked σ ρ ω ι} {log : List (Label ρ ι)}
    (hstart : Untouched start) (run : TrackedRun Q role waker start log tracked) :
    Apart role tracked := by
  refine Run.invariant (motive := fun _ tracked => Apart role tracked) hstart.apart ?_ run
  intro log before label after _ ih h
  exact ih.step h

/-- Every stream accepted is one that the peer opens. -/
def FromPeer (role : QuicRole) (tracked : Tracked σ ρ ω ι) : Prop :=
  ∀ id∈tracked.accepted,¬Own role id

/-- No stream of this side that was not accepted before is readable ahead of every such stream
of the peer: where quiche reports one, it reported a new stream of the peer before. -/
def PeerFirst (Q : Quiche σ ρ) (role : QuicRole) (shared : Shared σ ω) : Prop :=
  ∀ k id,(∀ j,j<k → ∃ seen,reported Q (drainPendingShutdown Q shared).conn j=some seen) →
    reported Q (drainPendingShutdown Q shared).conn k=some id → Own role id →
    id∉shared.acceptedStreams →
    ∃ j other,j<k ∧ reported Q (drainPendingShutdown Q shared).conn j=some other ∧
      ¬Own role other ∧ other∉shared.acceptedStreams

/-- A step that scans the readable streams finds the peer's first. -/
def ScansPeerFirst (Q : Quiche σ ρ) (role : QuicRole) (before : Tracked σ ρ ω ι)
    (label : Label ρ ι) : Prop :=
  ∀ i turn fired,label=.caller i turn →
    before.state.callers i=.call .acceptStream .check fired → PeerFirst Q role before.state.shared

omit [DecidableEq ω] [DecidableEq ι] in
/-- A step that accepts no stream keeps the accepted ones from the peer. -/
theorem fromPeer_of_accepted_eq {before after : Tracked σ ρ ω ι}
    (h : after.accepted=before.accepted) : FromPeer role after ↔ FromPeer role before := by
  unfold FromPeer
  rw [h]

/-- A step that scans for a stream to accept leaves the accepted ones the peer's exactly when
they were and the peer's come first. -/
theorem fromPeer_scan {before after : Tracked σ ρ ω ι} {i : ι} {turn : Turn ρ} {fired : Bool}
    (inv : Apart role before) (h : TrackedStep Q role waker before (.caller i turn) after)
    (hcaller : before.state.callers i=.call .acceptStream .check fired) :
    FromPeer role after ↔ FromPeer role before ∧ PeerFirst Q role before.state.shared := by
  have haccepted := h.accepted
  cases step_books h.now inv.returns with
  | other moves undrained uncalled kept => exact absurd hcaller (uncalled i turn rfl _ _ _)
  | @call _ _ call pc fired' _ under moves others =>
    rw [←under,hcaller] at moves
    generalize hafter : after.state.callers i=caller at moves
    cases moves with
    | quiet same undrained => cases undrained
    | ended id undrained => cases undrained
    | returned id same undrained => cases undrained
    | allotted opens =>
      obtain ⟨_,hcall⟩ := opens
      cases hcall
    | drained draining written unopened ungiven exhausted =>
      obtain ⟨hnone,hpassed⟩ := exhausted ⟨fired,rfl⟩
      rw [←hafter] at ungiven
      rw [(handsNothing ungiven).2,List.nil_append] at haccepted
      rw [fromPeer_of_accepted_eq haccepted]
      refine (and_iff_left ?_).symm
      intro k id hseen hk _ hnew
      rcases Nat.lt_trichotomy k turn.scanned with hlt|rfl|hgt
      · obtain ⟨seen,hmem,hreport⟩ := hpassed k hlt
        obtain rfl := Option.some.inj (hk.symm.trans hreport)
        exact absurd hmem hnew
      · cases hk.symm.trans hnone
      · obtain ⟨seen,hreport⟩ := hseen _ hgt
        cases hreport.symm.trans hnone
    | accepted id accept found fresh passed written =>
      rw [(handsAccepted hcaller hafter).2] at haccepted
      have hall : FromPeer role after ↔ FromPeer role before ∧ ¬Own role id := by
        unfold FromPeer
        rw [haccepted]
        simp only [List.cons_append,List.nil_append,List.forall_mem_cons]
        exact and_comm
      rw [hall]
      refine and_congr_right fun _ => ⟨fun hpeer => ?_,fun hfirst hown => ?_⟩
      · intro k stream _ hk hown hnew
        rcases Nat.lt_trichotomy k turn.scanned with hlt|rfl|hgt
        · obtain ⟨seen,hmem,hreport⟩ := passed k hlt
          obtain rfl := Option.some.inj (hk.symm.trans hreport)
          exact absurd hmem hnew
        · obtain rfl := Option.some.inj (hk.symm.trans found)
          exact absurd hown hpeer
        · exact ⟨turn.scanned,id,hgt,found,hpeer,fresh⟩
      · obtain ⟨j,other,hj,hreport,_,hnew⟩ := hfirst turn.scanned id
          (fun j hj => (passed j hj).imp fun seen h => h.2) found hown fresh
        obtain ⟨seen,hmem,hseen⟩ := passed j hj
        obtain rfl := Option.some.inj (hreport.symm.trans hseen)
        exact hnew hmem

/-- Any other step accepts no stream. -/
theorem accepted_eq_of_not_scan {before after : Tracked σ ρ ω ι} {label : Label ρ ι}
    (inv : Apart role before) (h : TrackedStep Q role waker before label after)
    (hscan : ∀ i turn fired,label=.caller i turn →
      before.state.callers i≠.call .acceptStream .check fired) :
    after.accepted=before.accepted := by
  cases trackedStep_moves h inv.returns with
  | kept next known opened accepted alive opening => exact accepted
  | allotted i next known opened accepted alive own others => exact accepted
  | opened i id next known was own others opened accepted alive => exact accepted
  | accepted i id scan next known fresh own others opened accepted alive =>
    obtain ⟨turn,fired,hlabel,hcaller⟩ := scan
    exact absurd hcaller (hscan i turn fired hlabel)

/-- A step leaves the accepted streams the peer's exactly when they were, and when it finds the
peer's streams first if it scans. -/
theorem fromPeer_step {before after : Tracked σ ρ ω ι} {label : Label ρ ι}
    (inv : Apart role before) (h : TrackedStep Q role waker before label after) :
    FromPeer role after ↔ FromPeer role before ∧ ScansPeerFirst Q role before label := by
  by_cases hscan : ∃ i turn fired,label=.caller i turn ∧
      before.state.callers i=.call .acceptStream .check fired
  · obtain ⟨i,turn,fired,rfl,hcaller⟩ := hscan
    rw [fromPeer_scan inv h hcaller]
    refine and_congr_right fun _ => ⟨fun hfirst j turn' fired' hlabel _ => hfirst,fun hfirst => ?_⟩
    exact hfirst i turn fired rfl hcaller
  · have hnever : ∀ i turn fired,label=.caller i turn →
        before.state.callers i≠.call .acceptStream .check fired :=
      fun i turn fired hlabel hcaller => hscan ⟨i,turn,fired,hlabel,hcaller⟩
    rw [fromPeer_of_accepted_eq (accepted_eq_of_not_scan inv h hnever)]
    refine (and_iff_left ?_).symm
    intro i turn fired hlabel hcaller
    exact absurd hcaller (hnever i turn fired hlabel)

/-- A step determines what comes of it. -/
theorem TrackedStep.functional {before after after' : Tracked σ ρ ω ι} {label : Label ρ ι}
    (h : TrackedStep Q role waker before label after)
    (h' : TrackedStep Q role waker before label after') : after=after' := by
  have hstate : after.state=after'.state := Option.some.inj (h.now.now.symm.trans h'.now.now)
  have hopened := h.opened
  have haccepted := h.accepted
  have halive := h.alive
  rw [hstate,←h'.opened] at hopened
  rw [hstate,←h'.accepted] at haccepted
  rw [hstate,←h'.alive] at halive
  obtain ⟨state,opened,accepted,alive⟩ := after
  dsimp only at hstate hopened haccepted halive
  subst hstate hopened haccepted halive
  rfl

/-- The streams handed out by `open_stream` and `accept_stream` are unique and disjoint. -/
structure HandlesApart (role : QuicRole) (tracked : Tracked σ ρ ω ι) : Prop where
  /-- `open_stream` never returns a stream twice. -/
  openedOnce : tracked.opened.Nodup
  /-- `accept_stream` returns only streams that the peer opens. -/
  fromPeer : FromPeer role tracked
  /-- It returns none of them twice. -/
  acceptedOnce : tracked.accepted.Nodup
  /-- At most one handle exists for a stream. -/
  oneHandle : tracked.alive.Nodup

omit [DecidableEq ω] [DecidableEq ι] in
/-- Where only the peer's streams are accepted, everything handed out is unique. -/
theorem Apart.handlesApart {tracked : Tracked σ ρ ω ι} (inv : Apart role tracked)
    (hpeer : FromPeer role tracked) : HandlesApart role tracked := by
  refine ⟨inv.openedOnce,hpeer,inv.acceptedOnce,List.nodup_iff_count_le_one.mpr fun id => ?_⟩
  have hcount := inv.alive id
  have hopened := List.nodup_iff_count_le_one.mp inv.openedOnce id
  have haccepted := List.nodup_iff_count_le_one.mp inv.acceptedOnce id
  by_cases hid : id∈tracked.opened
  · have hnone : id∉tracked.accepted := fun h => hpeer id h (inv.openedForm id hid).own
    rw [List.count_eq_zero_of_not_mem hnone] at hcount
    omega
  · rw [List.count_eq_zero_of_not_mem hid] at hcount
    omega

/-- In every run of a new connection the streams handed out are unique and disjoint, if and only
if at every scan of `accept_stream` each readable stream of this side that was not accepted
comes after a readable stream of the peer that was not. -/
theorem streams_handed_out_apart (Q : Quiche σ ρ) (role : QuicRole) (waker : ι→ω)
    (start tracked : Tracked σ ρ ω ι) (hstart : Untouched start) (log : List (Label ρ ι))
    (run : TrackedRun Q role waker start log tracked) :
    HandlesApart role tracked ↔
      EveryStep (fun _ before label after => TrackedStep Q role waker before label after) start
        (ScansPeerFirst Q role) log := by
  have hiff : FromPeer role tracked ↔
      EveryStep (fun _ before label after => TrackedStep Q role waker before label after) start
        (ScansPeerFirst Q role) log := by
    induction run with
    | start =>
      refine iff_of_true ?_ fun earlier before label later hlog => ?_
      · simp [FromPeer,hstart.accepted]
      · cases earlier <;> cases hlog
    | @next log before after label earlier now ih =>
      rw [fromPeer_step (TrackedRun.apart hstart earlier) now,ih,everyStep_concat]
      refine and_congr_right fun _ => ⟨fun h reached hreached => ?_,fun h => h before earlier⟩
      have hsame : before=reached := @Run.functional _ _
        (fun _ before label after => TrackedStep Q role waker before label after) start
        (fun _ _ _ _ _ h h' => h.functional h') log before reached earlier hreached
      rwa [←hsame]
  exact ⟨fun h => hiff.mp h.fromPeer,fun h => (TrackedRun.apart hstart run).handlesApart (hiff.mpr h)⟩

/-- A step with what it hands out, where the connection is not dropped. -/
def trackedNext (Q : Quiche σ ρ) (role : QuicRole) (waker : ι→ω) (before : Tracked σ ρ ω ι)
    (label : Label ρ ι) : Option (Tracked σ ρ ω ι) :=
  match label with
  | .dropConnection => none
  | .touch (.dropped _) => none
  | _ => (step Q role waker before.state label).map fun after =>
    ⟨after,opensNow before.state after label++before.opened,
      acceptsNow before.state after label++before.accepted,
      opensNow before.state after label++(acceptsNow before.state after label++before.alive)⟩

/-- It is a step. -/
theorem trackedNext_step {before after : Tracked σ ρ ω ι} {label : Label ρ ι}
    (h : trackedNext Q role waker before label=some after) :
    TrackedStep Q role waker before label after := by
  unfold trackedNext at h
  split at h
  · cases h
  · cases h
  next hdrop hdropped =>
    obtain ⟨state,hstep,rfl⟩ := Option.map_eq_some_iff.mp h
    refine ⟨⟨hstep,fun hlabel => absurd hlabel hdrop⟩,rfl,rfl,?_,fun id hlabel => ?_⟩
    · cases label with
      | touch touch =>
        cases touch with
        | dropped id => exact absurd rfl (hdropped id)
        | write | finish | shutdown | flush => rfl
      | driver | caller | start | abandon | dropConnection | abort | cancel => rfl
    · exact absurd hlabel (hdropped id)

/-- An established connection on which every packet is data on the stream it names. -/
def replyingQuiche : Quiche (List ℕ) ℕ where
  isEstablished := fun _ => true
  isClosed := fun _ => false
  isDraining := fun _ => false
  ackedBytes := fun _ => 0
  peerStreamsLeftBidi := fun _ => 1
  streamFinished := fun _ _ => false
  send := fun conn => (.error .done,conn)
  recv := fun conn packet => (.ok (),conn++[packet])
  onTimeout := id
  sendAckEliciting := fun conn => (.ok (),conn)
  close := fun conn _ _ => conn
  streamSend := fun conn _ data _ => (.ok data.length,conn)
  streamRecv := fun conn _ _ => (.error .done,conn)
  streamReadableNext := fun conn => (conn.head?,conn.tail)
  streamShutdown := fun conn _ _ => conn

/-- A new connection with one caller. -/
def replyingStart : Tracked (List ℕ) ℕ Unit Unit :=
  ⟨⟨⟨[],false,∅,0,[],[],false,fun _ => false,fun _ => false⟩,.spawned,.held,fun _ => .idle⟩,[],[],[]⟩

/-- It is new and has handed out nothing. -/
theorem replyingStart_untouched : Untouched replyingStart :=
  ⟨⟨rfl,rfl,rfl,rfl,rfl,fun _ => rfl⟩,rfl,rfl,rfl⟩

/-- A turn in which a packet comes in. -/
def arriving (packet : ℕ) : Turn ℕ := ⟨.sent,0,false,[],.packet packet⟩

/-- A stream is opened, data comes in on the given stream, and a stream is accepted. -/
def openingThenAccepting (packet : ℕ) : List (Label ℕ Unit) :=
  .start () .openStream::(List.replicate 4 (.caller () (arriving packet))++
    (List.replicate 7 (.driver (arriving packet))++
      .start () .acceptStream::List.replicate 3 (.caller () (arriving packet))))

/-- What such a run hands out. -/
theorem openingThenAccepting_run {packet : ℕ} {opened accepted alive : List ℕ}
    (h : ((openingThenAccepting packet).foldlM (trackedNext replyingQuiche .client id)
      replyingStart).map (fun tracked => (tracked.opened,tracked.accepted,tracked.alive))=
        some (opened,accepted,alive)) :
    ∃ tracked,TrackedRun replyingQuiche .client id replyingStart (openingThenAccepting packet)
      tracked ∧ tracked.opened=opened ∧ tracked.accepted=accepted ∧ tracked.alive=alive := by
  obtain ⟨tracked,hrun,hhanded⟩ := Option.map_eq_some_iff.mp h
  obtain ⟨hopened,hrest⟩ := Prod.mk.inj hhanded
  obtain ⟨haccepted,halive⟩ := Prod.mk.inj hrest
  exact ⟨tracked,Run.start.extend (fun _ _ _ _ => trackedNext_step) hrun,hopened,haccepted,halive⟩

/-- The client opens stream 0 and accepts stream 1 of the server. -/
theorem streams_handed_out_apart_request :
    ∃ tracked : Tracked (List ℕ) ℕ Unit Unit,tracked.opened=[0] ∧ tracked.accepted=[1] ∧
      EveryStep (fun _ before label after => TrackedStep replyingQuiche .client id before label after)
        replyingStart (ScansPeerFirst replyingQuiche .client) (openingThenAccepting 1) := by
  obtain ⟨tracked,run,hopened,haccepted,halive⟩ := @openingThenAccepting_run 1 [0] [1] [1,0]
    (by decide +kernel)
  refine ⟨tracked,hopened,haccepted,(streams_handed_out_apart replyingQuiche .client id replyingStart
    tracked replyingStart_untouched _ run).mp ?_⟩
  refine ⟨?_,?_,?_,?_⟩
  · simp [hopened]
  · intro stream hstream
    rw [haccepted,List.mem_singleton] at hstream
    rw [hstream]
    decide
  · simp [haccepted]
  · simp [halive]

/-- The client opens stream 0, the server answers on it, and `accept_stream` returns stream 0:
two handles of one stream exist. -/
theorem accept_stream_returns_opened :
    Untouched replyingStart ∧ ∃ tracked : Tracked (List ℕ) ℕ Unit Unit,
      TrackedRun replyingQuiche .client id replyingStart (openingThenAccepting 0) tracked ∧
      tracked.opened=[0] ∧ tracked.accepted=[0] ∧ tracked.alive=[0,0] ∧
      ¬HandlesApart .client tracked := by
  obtain ⟨tracked,run,hopened,haccepted,halive⟩ := @openingThenAccepting_run 0 [0] [0] [0,0]
    (by decide +kernel)
  refine ⟨replyingStart_untouched,tracked,run,hopened,haccepted,halive,fun h => ?_⟩
  have hnodup := h.oneHandle
  rw [halive] at hnodup
  simp at hnodup

end WispersConnect.StreamHandles
