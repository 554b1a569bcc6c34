import WispersConnect.SaveCrashes

/-!
# Agreement of the three stores

The stores are compared over whole sequences of calls. The one in memory and the one
in files reply as a single stored value does. The one over callbacks keeps a
registration as its bytes, where no bytes stand for none: it agrees with the others
exactly when no load comes while a registration with default values only is stored.
-/

namespace WispersConnect.StoreAgreement

open Messages NodeLifecycle RosterEncoding NodeStores SaveCrashes

/-- A call of a store. -/
inductive StoreCall where
  /-- `load` -/
  | load
  /-- `save` -/
  | save (state : PersistedNodeState)
  /-- `delete` -/
  | delete

/-- What a call returns. -/
inductive StoreReply where
  /-- A load's state, if there is one. -/
  | loaded (state : Option PersistedNodeState)
  /-- A save or a deletion is done. -/
  | done
  /-- The call failed. -/
  | failed (error : StorageError)
  /-- The call does not return. -/
  | endless
  deriving DecidableEq

section Calls

variable {σ : Type}

/-- What a store replies to a call. -/
def reply (store : NodeStateStore σ) (state : σ) : StoreCall→StoreReply×σ
  | .load =>
    match store.load state with
    | some (.ok stored,after) => (.loaded stored,after)
    | some (.error e,after) => (.failed e,after)
    | none => (.endless,state)
  | .save value =>
    match store.save value state with
    | some (.ok (),after) => (.done,after)
    | some (.error e,after) => (.failed e,after)
    | none => (.endless,state)
  | .delete =>
    match store.delete state with
    | some (.ok (),after) => (.done,after)
    | some (.error e,after) => (.failed e,after)
    | none => (.endless,state)

/-- What a store replies to calls one after another. -/
def replies (store : NodeStateStore σ) : List StoreCall→σ→List StoreReply
  | [],_ => []
  | call::calls,state => (reply store state call).1::replies store calls (reply store state call).2

/-- The replies of a store that keeps one value and shows it in some way. -/
def repliesOf (view : Option PersistedNodeState→Option PersistedNodeState) :
    Option PersistedNodeState→List StoreCall→List StoreReply
  | _,[] => []
  | stored,.load::calls => .loaded (view stored)::repliesOf view stored calls
  | _,.save state::calls => .done::repliesOf view (some state) calls
  | _,.delete::calls => .done::repliesOf view none calls

/-- The replies of a map: each load returns what was saved last and not deleted. -/
abbrev expected (calls : List StoreCall) : List StoreReply :=
  repliesOf (fun stored => stored) none calls

/-- No load comes while a registration with default values only is stored. -/
def NoEmptyLoads : Option PersistedNodeState→List StoreCall→Prop
  | _,[] => True
  | stored,.load::calls =>
    stored.bind PersistedNodeState.registration≠some emptyRegistration ∧ NoEmptyLoads stored calls
  | _,.save state::calls => NoEmptyLoads (some state) calls
  | _,.delete::calls => NoEmptyLoads none calls

/-- The root keys that are saved have their 32 bytes. -/
def KeysSized (calls : List StoreCall) : Prop :=
  ∀ state,.save state∈calls → state.rootKey.length=32

/-- A store keeps one value, whatever it keeps it in, and shows it in some way. -/
structure Implements (store : NodeStateStore σ) (keeps : σ→Option PersistedNodeState→Prop)
    (view : Option PersistedNodeState→Option PersistedNodeState) : Prop where
  /-- A load shows the value. -/
  load : ∀ state stored,keeps state stored →
    ∃ after,store.load state=some (.ok (view stored),after) ∧ keeps after stored
  /-- A save replaces it. -/
  save : ∀ state stored value,keeps state stored → value.rootKey.length=32 →
    ∃ after,store.save value state=some (.ok (),after) ∧ keeps after (some value)
  /-- A deletion removes it. -/
  delete : ∀ state stored,keeps state stored →
    ∃ after,store.delete state=some (.ok (),after) ∧ keeps after none

/-- A store that implements one kept in memory replies to any calls as that does, up to the view. -/
theorem Implements.replies_eq {store : NodeStateStore σ}
    {keeps : σ→Option PersistedNodeState→Prop}
    {view : Option PersistedNodeState→Option PersistedNodeState} (h : Implements store keeps view)
    {calls : List StoreCall} (hsized : KeysSized calls) {state : σ}
    {stored : Option PersistedNodeState} (hkeeps : keeps state stored) :
    replies store calls state=repliesOf view stored calls := by
  induction calls generalizing state stored with
  | nil => rfl
  | cons call calls ih =>
    have hrest : KeysSized calls := fun value hvalue => hsized value (List.mem_cons_of_mem _ hvalue)
    cases call with
    | load =>
      obtain ⟨after,hload,hafter⟩ := h.load state stored hkeeps
      have hreply : reply store state .load=(.loaded (view stored),after) := by
        simp only [reply,hload]
      rw [replies,repliesOf,hreply,ih hrest hafter]
    | save value =>
      obtain ⟨after,hsave,hafter⟩ := h.save state stored value hkeeps
        (hsized value List.mem_cons_self)
      have hreply : reply store state (.save value)=(.done,after) := by
        simp only [reply,hsave]
      rw [replies,repliesOf,hreply,ih hrest hafter]
    | delete =>
      obtain ⟨after,hdelete,hafter⟩ := h.delete state stored hkeeps
      have hreply : reply store state .delete=(.done,after) := by
        simp only [reply,hdelete]
      rw [replies,repliesOf,hreply,ih hrest hafter]

/-- The store in memory keeps the value itself. -/
theorem inMemory_implements :
    Implements inMemoryStore (fun state stored => state=stored) fun stored => stored where
  load := fun state stored h => ⟨state,by rw [h]; rfl,h⟩
  save := fun _ _ value _ _ => ⟨some value,rfl,rfl⟩
  delete := fun _ _ _ => ⟨none,rfl,rfl⟩

end Calls

section Files

variable {fs : FileSystem} {stored : Option PersistedNodeState}

/-- Another file does not matter to what is stored. -/
theorem Stores.legacy {after : FileSystem} {content : Option Bytes} (h : Stores fs stored)
    (hwrote : Wrote .legacyRegistration content fs after) : Stores after stored := by
  have hkey := hwrote.others .rootKey (by decide)
  have hregistration := hwrote.others .registration (by decide)
  cases stored with
  | none => exact hkey.trans h
  | some state => exact ⟨hkey.trans h.1,h.2.1,hregistration.trans h.2.2⟩

/-- A load changes nothing that is stored. -/
theorem load_stores (h : Stores fs stored) : Stores (loadFiles fs).2 stored := by
  unfold loadFiles
  split
  · exact h
  next rootKey hkey =>
    have hpresent : fs.isSome=true := by
      cases fs with
      | none => cases hkey
      | some dir => rfl
    split
    · exact h
    · split
      · exact h
      · dsimp only
        split
        · exact Stores.legacy h (wrote_remove hpresent .legacyRegistration)
        · exact h

/-- The registration is written, or its file is gone. -/
theorem wrote_registration (h : fs.isSome=true) (registration : Option NodeRegistration) :
    Wrote .registration (registration.map serializeRegistration) fs
      (applyOps fs (registrationOps (contents fs .registration) registration)) := by
  cases registration with
  | some registration => exact wrote_all h .registration (serializeRegistration registration)
  | none =>
    cases hfile : contents fs .registration with
    | none => exact ⟨h,hfile,fun _ _ => rfl⟩
    | some bytes => exact wrote_remove h .registration

/-- What is saved is stored. -/
theorem save_stores (fs : FileSystem) {state : PersistedNodeState} (hkey : state.rootKey.length=32) :
    Stores (applyOps fs (saveOps fs state)) (some state) := by
  have hsame := cut_prepare (cut_end (prepareOps fs) fs) .registration
  have hroot := wrote_all (prepared fs) .rootKey state.rootKey
  have hunchanged := (hroot.others .registration (by decide)).trans hsame
  have hregistration := wrote_registration hroot.present state.registration
  rw [hunchanged] at hregistration
  rw [saveOps,applyOps_append,applyOps_append]
  exact ⟨(hregistration.others .rootKey (by decide)).trans hroot.content,hkey,hregistration.content⟩

/-- After a deletion nothing is stored. -/
theorem delete_stores (h : Stores fs stored) :
    Stores (applyOps fs (deleteOps fs (presentFiles fs))) none := by
  by_cases hpresent : fs.isSome=true
  · obtain ⟨dir,hdir⟩ := Option.isSome_iff_exists.mp
      (contents_removed hpresent (presentFiles fs) .rootKey).1
    rw [deleteOps,if_pos hpresent,applyOps_append,hdir]
    rfl
  · obtain rfl : fs=none := Option.not_isSome_iff_eq_none.mp hpresent
    rfl

/-- The store in files keeps the value in them. -/
theorem files_implement : Implements fileStore Stores fun stored => stored where
  load := fun fs _ h =>
    ⟨(loadFiles fs).2,congrArg some (Prod.ext (Stores.loads h) rfl),load_stores h⟩
  save := fun fs _ _ _ hkey => ⟨_,rfl,save_stores fs hkey⟩
  delete := fun _ _ h => ⟨_,rfl,delete_stores h⟩

end Files

section Callbacks

variable {σ : Type}

/-- The host kept what it had. -/
def Unchanged (rootKey registration : σ→Option Bytes) (before after : σ) : Prop :=
  rootKey after=rootKey before ∧ registration after=registration before

/-- The callbacks store and return bytes faithfully. -/
structure Faithful (C : Callbacks σ) (rootKey registration : σ→Option Bytes) : Prop where
  /-- A stored root key that fills the buffer is returned. -/
  loadsRootKey : ∀ host bytes,rootKey host=some bytes → bytes.length=32 → ∃ after,
    C.loadRootKey host 32=(.success,bytes,after) ∧ Unchanged rootKey registration host after
  /-- No root key is found where none is stored. -/
  missesRootKey : ∀ host,rootKey host=none → ∃ written after,
    C.loadRootKey host 32=(.notFound,written,after) ∧ Unchanged rootKey registration host after
  /-- A root key is stored. -/
  savesRootKey : ∀ host bytes,∃ after,C.saveRootKey host bytes=(.success,after) ∧
    rootKey after=some bytes ∧ registration after=registration host
  /-- A root key is deleted. -/
  deletesRootKey : ∀ host,∃ status after,C.deleteRootKey host=(status,after) ∧
    (status=.success ∨ status=.notFound) ∧ rootKey after=none ∧
      registration after=registration host
  /-- A stored registration that fits the buffer is returned with its length. -/
  loadsRegistration : ∀ host bytes length required,registration host=some bytes →
    bytes.length≤length → ∃ after,
      C.loadRegistration host length required=(.success,bytes,bytes.length,after) ∧
        Unchanged rootKey registration host after
  /-- For one that does not fit, the length that it needs is returned. -/
  needsRoom : ∀ host bytes length required,registration host=some bytes →
    length<bytes.length → ∃ written after,
      C.loadRegistration host length required=(.bufferTooSmall,written,bytes.length,after) ∧
        Unchanged rootKey registration host after
  /-- No registration is found where none is stored. -/
  missesRegistration : ∀ host length required,registration host=none → ∃ written length' after,
    C.loadRegistration host length required=(.notFound,written,length',after) ∧
      Unchanged rootKey registration host after
  /-- A registration is stored. -/
  savesRegistration : ∀ host bytes,∃ after,C.saveRegistration host bytes=(.success,after) ∧
    registration after=some bytes ∧ rootKey after=rootKey host
  /-- A registration is deleted. -/
  deletesRegistration : ∀ host,∃ status after,C.deleteRegistration host=(status,after) ∧
    (status=.success ∨ status=.notFound) ∧ registration after=none ∧ rootKey after=rootKey host

/-- What is left of a registration that takes no bytes. -/
def shownRegistration (registration : Option NodeRegistration) : Option NodeRegistration :=
  if registration=some emptyRegistration then none else registration

/-- How the store over callbacks shows the stored state. -/
def shown (stored : Option PersistedNodeState) : Option PersistedNodeState :=
  stored.map fun state => ⟨state.rootKey,shownRegistration state.registration⟩

/-- The host keeps the stored state. -/
structure Keeps (rootKey registration : σ→Option Bytes) (host : σ)
    (stored : Option PersistedNodeState) : Prop where
  /-- Its root key. -/
  rootKey : rootKey host=stored.map PersistedNodeState.rootKey
  /-- It has the length of one. -/
  sized : ∀ state,stored=some state → state.rootKey.length=32
  /-- Its registration. -/
  registration : registration host=
    stored.map fun state => serializeRegistrationOpt state.registration

variable {C : Callbacks σ} {rootKey registration : σ→Option Bytes}

/-- What is unchanged is still kept. -/
theorem Keeps.unchanged {host after : σ} {stored : Option PersistedNodeState}
    (h : Keeps rootKey registration host stored)
    (hsame : Unchanged rootKey registration host after) :
    Keeps rootKey registration after stored :=
  ⟨hsame.1.trans h.rootKey,h.sized,hsame.2.trans h.registration⟩

/-- Serialized registrations are read back, unless they take no bytes. -/
theorem deserializeRegistrationOpt_serialize (registration : Option NodeRegistration) :
    deserializeRegistrationOpt (serializeRegistrationOpt registration)=
      some (shownRegistration registration) := by
  unfold deserializeRegistrationOpt shownRegistration
  cases registration with
  | none => rfl
  | some registration =>
    change (if serializeRegistration registration=[] then _ else _)=_
    by_cases hempty : registration=emptyRegistration
    · subst hempty
      rw [if_pos (serializeRegistration_eq_nil.mpr rfl),if_pos rfl]
    · have hne : ¬some registration=some emptyRegistration := fun h => hempty (Option.some.inj h)
      rw [if_neg (fun hnil => hempty (serializeRegistration_eq_nil.mp hnil)),if_neg hne]
      change (deserializeRegistration (serializeRegistration registration)).map some=_
      rw [deserializeRegistration_serialize]
      rfl

/-- A buffer that is written to and cut to length is what was written. -/
theorem overwrite_take (buffer bytes : Bytes) : (overwrite buffer bytes).take bytes.length=bytes :=
  List.take_left

/-- A resized buffer has the length it was given. -/
theorem length_resize (buffer : Bytes) (n : ℕ) : (resize buffer n).length=n := by
  rw [resize,List.length_append,List.length_take,List.length_replicate]
  omega

/-- A buffer that is long enough gets the registration. -/
theorem loop_fits (faithful : Faithful C rootKey registration) {host : σ} {buffer : Bytes}
    {stored : Option NodeRegistration}
    (hstored : registration host=some (serializeRegistrationOpt stored))
    (hfits : (serializeRegistrationOpt stored).length≤buffer.length) (turns required : ℕ) :
    ∃ after,loadRegistrationLoop C (turns+1) host buffer required=
      some (.ok (shownRegistration stored),after) ∧ Unchanged rootKey registration host after := by
  obtain ⟨after,hload,hsame⟩ := faithful.loadsRegistration host _ buffer.length required hstored hfits
  refine ⟨after,?_,hsame⟩
  rw [loadRegistrationLoop,hload]
  dsimp only
  rw [overwrite_take,deserializeRegistrationOpt_serialize]

/-- Two turns are enough for a stored registration. -/
theorem callLoadRegistration_eq (faithful : Faithful C rootKey registration) {host : σ}
    {stored : Option NodeRegistration}
    (hstored : registration host=some (serializeRegistrationOpt stored)) {turns : ℕ}
    (hturns : 2≤turns) :
    ∃ after,callLoadRegistration C turns host=some (.ok (shownRegistration stored),after) ∧
      Unchanged rootKey registration host after := by
  obtain ⟨turns,rfl⟩ : ∃ n,turns=n+2 := ⟨turns-2,by omega⟩
  unfold callLoadRegistration
  by_cases hfits : (serializeRegistrationOpt stored).length≤(List.replicate 256 (0 : UInt8)).length
  · exact loop_fits faithful hstored hfits (turns+1) 0
  · obtain ⟨written,between,hload,hsame⟩ :=
      faithful.needsRoom host _ (List.replicate 256 (0 : UInt8)).length 0 hstored (by omega)
    have hpositive : (serializeRegistrationOpt stored).length≠0 := by omega
    obtain ⟨after,hloop,hsame'⟩ := loop_fits faithful (hsame.2.trans hstored)
      (Nat.le_of_eq (length_resize (overwrite (List.replicate 256 0) written) _).symm) turns
      (serializeRegistrationOpt stored).length
    refine ⟨after,?_,hsame'.1.trans hsame.1,hsame'.2.trans hsame.2⟩
    rw [loadRegistrationLoop,hload]
    dsimp only
    rw [if_neg hpositive]
    exact hloop

/-- The store over callbacks keeps the value with the host, and shows what is left of it. -/
theorem foreign_implements (faithful : Faithful C rootKey registration) {turns : ℕ}
    (hturns : 2≤turns) :
    Implements (foreignStore C turns) (Keeps rootKey registration) shown where
  load := by
    intro host stored hkeeps
    cases stored with
    | none =>
      obtain ⟨written,after,hload,hsame⟩ := faithful.missesRootKey host hkeeps.rootKey
      refine ⟨after,?_,hkeeps.unchanged hsame⟩
      simp only [foreignStore,callLoadRootKey,hload]
      rfl
    | some state =>
      have hsized := hkeeps.sized state rfl
      obtain ⟨between,hload,hsame⟩ := faithful.loadsRootKey host _ hkeeps.rootKey hsized
      have hbetween := hkeeps.unchanged hsame
      obtain ⟨after,hregistration,hsame'⟩ :=
        callLoadRegistration_eq faithful hbetween.registration hturns
      refine ⟨after,?_,hbetween.unchanged hsame'⟩
      have hbuffer : overwrite (List.replicate 32 0) state.rootKey=state.rootKey := by
        rw [overwrite,hsized]
        exact List.append_nil _
      simp only [foreignStore,callLoadRootKey,hload,hbuffer,hregistration]
      rfl
  save := by
    intro host stored value hkeeps hsized
    obtain ⟨between,hkey,hroot,hsame⟩ := faithful.savesRootKey host value.rootKey
    obtain ⟨after,hregistration,hstored,hroot'⟩ :=
      faithful.savesRegistration between (serializeRegistrationOpt value.registration)
    refine ⟨after,?_,hroot'.trans hroot,?_,hstored⟩
    · simp only [foreignStore,callSaveRootKey,callSaveRegistration,savedReply,hkey,hregistration]
    · rintro state ⟨⟩
      exact hsized
  delete := by
    intro host stored hkeeps
    obtain ⟨status,between,hkey,hstatus,hroot,hsame⟩ := faithful.deletesRootKey host
    obtain ⟨status',after,hregistration,hstatus',hnone,hroot'⟩ :=
      faithful.deletesRegistration between
    have hdeleted : ∀ {status : WispersStatus} (host : σ),(status=.success ∨ status=.notFound) →
        deletedReply (status,host)=(.ok (),host) := by
      rintro status host (rfl|rfl) <;> rfl
    refine ⟨after,?_,hroot'.trans hroot,(fun _ hnone => by cases hnone),hnone⟩
    simp only [foreignStore,callDeleteRootKey,callDeleteRegistration,hkey,hregistration,
      hdeleted _ hstatus,hdeleted _ hstatus']

end Callbacks

/-- A state is shown as it is unless it has a registration with default values only. -/
theorem shown_eq_iff {stored : Option PersistedNodeState} :
    shown stored=stored ↔ stored.bind PersistedNodeState.registration≠some emptyRegistration := by
  cases stored with
  | none => exact ⟨fun _ h => (by cases h),fun _ => rfl⟩
  | some state =>
    obtain ⟨rootKey,registration⟩ := state
    change some (PersistedNodeState.mk rootKey (shownRegistration registration))=_ ↔
      registration≠some emptyRegistration
    unfold shownRegistration
    by_cases hempty : registration=some emptyRegistration
    · rw [if_pos hempty,hempty]
      exact ⟨fun h => (by cases h),fun hne => absurd rfl hne⟩
    · rw [if_neg hempty]
      exact ⟨fun _ => hempty,fun _ => rfl⟩

/-- Calls get the same replies when each state that is loaded is shown as it is. -/
theorem repliesOf_shown_iff {stored : Option PersistedNodeState} {calls : List StoreCall} :
    repliesOf shown stored calls=repliesOf (fun stored => stored) stored calls ↔
      NoEmptyLoads stored calls := by
  induction calls generalizing stored with
  | nil => exact ⟨fun _ => trivial,fun _ => rfl⟩
  | cons call calls ih =>
    cases call with
    | load =>
      rw [repliesOf,repliesOf,NoEmptyLoads,List.cons.injEq,StoreReply.loaded.injEq]
      exact and_congr shown_eq_iff ih
    | save value =>
      rw [repliesOf,repliesOf,NoEmptyLoads]
      exact (List.cons_inj_right _).trans ih
    | delete =>
      rw [repliesOf,repliesOf,NoEmptyLoads]
      exact (List.cons_inj_right _).trans ih

/-- All three stores reply as a map does, the one over callbacks exactly when no load comes while
a registration with default values only is stored. -/
theorem stores_agree_iff {σ : Type} {C : Callbacks σ} {rootKey registration : σ→Option Bytes}
    (faithful : Faithful C rootKey registration) {turns : ℕ} (hturns : 2≤turns) {fs : FileSystem}
    (hfs : Stores fs none) {host : σ} (hroot : rootKey host=none)
    (hregistration : registration host=none) {calls : List StoreCall} (hsized : KeysSized calls) :
    replies inMemoryStore calls none=expected calls ∧ replies fileStore calls fs=expected calls ∧
      (replies (foreignStore C turns) calls host=expected calls ↔ NoEmptyLoads none calls) := by
  have hkeeps : Keeps rootKey registration host none :=
    ⟨hroot,(fun _ h => by cases h),hregistration⟩
  refine ⟨inMemory_implements.replies_eq hsized rfl,files_implement.replies_eq hsized hfs,?_⟩
  rw [(foreign_implements faithful hturns).replies_eq hsized hkeeps]
  exact repliesOf_shown_iff

/-- A host that keeps two byte strings. -/
def plainHost : Callbacks (Option Bytes×Option Bytes) where
  loadRootKey := fun host _ =>
    match host.1 with
    | some bytes => (.success,bytes,host)
    | none => (.notFound,[],host)
  saveRootKey := fun host bytes => (.success,some bytes,host.2)
  deleteRootKey := fun host => (.success,none,host.2)
  loadRegistration := fun host length required =>
    match host.2 with
    | some bytes =>
      if bytes.length≤length then (.success,bytes,bytes.length,host)
      else (.bufferTooSmall,[],bytes.length,host)
    | none => (.notFound,[],required,host)
  saveRegistration := fun host bytes => (.success,host.1,some bytes)
  deleteRegistration := fun host => (.notFound,host.1,none)

/-- It is faithful. -/
theorem plainHost_faithful : Faithful plainHost Prod.fst Prod.snd where
  loadsRootKey := by
    rintro ⟨_,registration⟩ bytes ⟨⟩ _
    exact ⟨_,rfl,rfl,rfl⟩
  missesRootKey := by
    rintro ⟨_,registration⟩ ⟨⟩
    exact ⟨_,_,rfl,rfl,rfl⟩
  savesRootKey := fun _ _ => ⟨_,rfl,rfl,rfl⟩
  deletesRootKey := fun _ => ⟨_,_,rfl,.inl rfl,rfl,rfl⟩
  loadsRegistration := by
    rintro ⟨rootKey,_⟩ bytes length required ⟨⟩ hfits
    exact ⟨_,if_pos hfits,rfl,rfl⟩
  needsRoom := by
    rintro ⟨rootKey,_⟩ bytes length required ⟨⟩ hlong
    exact ⟨_,_,if_neg (Nat.not_le.mpr hlong),rfl,rfl⟩
  missesRegistration := by
    rintro ⟨rootKey,_⟩ length required ⟨⟩
    exact ⟨_,_,_,rfl,rfl,rfl⟩
  savesRegistration := fun _ _ => ⟨_,rfl,rfl,rfl⟩
  deletesRegistration := fun _ => ⟨_,_,rfl,.inr rfl,rfl,rfl⟩

/-- A registered node is saved, then one without a registration, and deleted. -/
def plainCalls : List StoreCall :=
  [.save storedNode,.load,.save ⟨List.replicate 32 1,none⟩,.load,.delete,.load]

/-- All three stores reply to these calls as a map does. -/
theorem stores_agree_iff_plain :
    replies inMemoryStore plainCalls none=expected plainCalls ∧
      replies fileStore plainCalls none=expected plainCalls ∧
      replies (foreignStore plainHost 2) plainCalls (none,none)=expected plainCalls := by
  have hsized : KeysSized plainCalls := by
    intro state hstate
    simp only [plainCalls,List.mem_cons,StoreCall.save.injEq,List.not_mem_nil,reduceCtorEq,
      or_false,false_or] at hstate
    rcases hstate with rfl|rfl
    · rfl
    · rfl
  obtain ⟨hmemory,hfiles,hforeign⟩ := @stores_agree_iff _ _ _ _ plainHost_faithful 2
    (Nat.le_refl _) none rfl (none,none) rfl rfl plainCalls hsized
  exact ⟨hmemory,hfiles,hforeign.mpr ⟨by decide,by decide,by decide,trivial⟩⟩

/-- A registration with default values only is saved and loaded. -/
def emptyCalls : List StoreCall :=
  [.save ⟨List.replicate 32 0,some emptyRegistration⟩,.load]

/-- The store over callbacks loses it, and the others do not. -/
theorem empty_registration_lost :
    replies inMemoryStore emptyCalls none=
      [.done,.loaded (some ⟨List.replicate 32 0,some emptyRegistration⟩)] ∧
    replies fileStore emptyCalls none=replies inMemoryStore emptyCalls none ∧
    replies (foreignStore plainHost 2) emptyCalls (none,none)=
      [.done,.loaded (some ⟨List.replicate 32 0,none⟩)] ∧
    replies (foreignStore plainHost 2) emptyCalls (none,none)≠
      replies inMemoryStore emptyCalls none := by
  refine ⟨rfl,?_,?_,?_⟩
  · decide +kernel
  · decide +kernel
  · decide +kernel

end WispersConnect.StoreAgreement
