import WispersConnect.NodeStores

/-!
# Saving and deleting files that is cut short

A save writes the root key and then the registration, each by truncating its file
and writing it again; a deletion removes the files one after another. What a load
finds after the last operation that was carried out is determined here for every
such operation: besides the old and the new state, a root key that is cut short, the
new root key with the registration that the file holds, with none, or with the first
fields of the new one, and the old root key without its registration. The file can hold
one where no state is stored, which a deletion that was cut short has left behind.
-/

namespace WispersConnect.SaveCrashes

open Messages NodeLifecycle WireFormat WireDecoding RosterEncoding PeerEncoding NodeStores

/-- The operations were cut short after some of them. -/
def Cut (ops : List FileOp) (before after : FileSystem) : Prop :=
  ∃ n,after=applyOps before (ops.take n)

/-- A save that was cut short. -/
def SaveCut (before : FileSystem) (state : PersistedNodeState) (after : FileSystem) : Prop :=
  Cut (saveOps before state) before after

/-- A deletion that was cut short, with the files in any order. -/
def DeleteCut (before after : FileSystem) : Prop :=
  ∃ order : List StateFile,order.Perm (presentFiles before) ∧ Cut (deleteOps before order) before after

/-- The registration with only so many of its leading fields. -/
def leading (n : ℕ) (registration : NodeRegistration) : NodeRegistration :=
  match n with
  | 0 => emptyRegistration
  | 1 => ⟨registration.connectivityGroupId,0,"",""⟩
  | 2 => ⟨registration.connectivityGroupId,registration.nodeNumber,"",""⟩
  | 3 => ⟨registration.connectivityGroupId,registration.nodeNumber,registration.authToken,""⟩
  | _ => registration

/-- The registration in its file, which is there without a root key where a deletion was cut
short. -/
def registrationLeft (fs : FileSystem) : Option NodeRegistration :=
  (contents fs .registration).bind deserializeRegistration

/-- What a load finds after a save that was cut short, where a registration was left. -/
def SaveOutcome (left : Option NodeRegistration) (old : Option PersistedNodeState)
    (new : PersistedNodeState) (found : Except StorageError (Option PersistedNodeState)) : Prop :=
  found=.ok old ∨ found=.ok (some new) ∨ found=.error .invalidRootKey ∨
    found=.ok (some ⟨new.rootKey,left⟩) ∨
    ∃ registration,new.registration=some registration ∧
      ((registration≠emptyRegistration ∧ found=.ok (some ⟨new.rootKey,none⟩)) ∨
        ∃ n,n<4 ∧ found=.ok (some ⟨new.rootKey,some (leading n registration)⟩))

/-- What a load finds after a deletion that was cut short. -/
def DeleteOutcome (old : Option PersistedNodeState)
    (found : Except StorageError (Option PersistedNodeState)) : Prop :=
  found=.ok old ∨ found=.ok none ∨ ∃ state,old=some state ∧ found=.ok (some ⟨state.rootKey,none⟩)

/-- What a load makes of the bytes of the two files. -/
def loadedFrom (rootKey registration : Option Bytes) :
    Except StorageError (Option PersistedNodeState) :=
  match rootKey with
  | none => .ok none
  | some rootKey =>
    if rootKey.length≠32 then .error .invalidRootKey
    else .ok (some ⟨rootKey,registration.bind deserializeRegistration⟩)

section Operations

variable {fs : FileSystem}

/-- Operations one after another. -/
theorem applyOps_append (fs : FileSystem) (xs ys : List FileOp) :
    applyOps fs (xs++ys)=applyOps (applyOps fs xs) ys := List.foldl_append

/-- A cut is in the first operations or in those after them. -/
theorem cut_append {xs ys : List FileOp} {before after : FileSystem} :
    Cut (xs++ys) before after ↔ Cut xs before after ∨ Cut ys (applyOps before xs) after := by
  constructor
  · rintro ⟨n,rfl⟩
    by_cases hn : n≤xs.length
    · exact .inl ⟨n,by rw [List.take_append_of_le_length hn]⟩
    · refine .inr ⟨n-xs.length,?_⟩
      rw [List.take_append,List.take_of_length_le (by omega),applyOps_append]
  · rintro (⟨n,rfl⟩|⟨n,rfl⟩)
    · refine ⟨min n xs.length,?_⟩
      rw [List.take_append_of_le_length (Nat.min_le_right _ _),←List.take_eq_take_min]
    · refine ⟨xs.length+n,?_⟩
      rw [List.take_length_add_append,applyOps_append]

/-- A cut before the first operation. -/
theorem cut_start (ops : List FileOp) (before : FileSystem) : Cut ops before before := ⟨0,rfl⟩

/-- A cut after the last operation. -/
theorem cut_end (ops : List FileOp) (before : FileSystem) : Cut ops before (applyOps before ops) :=
  ⟨ops.length,by rw [List.take_length]⟩

/-- What a load finds depends on the two files only. -/
theorem loadFiles_fst (fs : FileSystem) :
    (loadFiles fs).1=loadedFrom (contents fs .rootKey) (contents fs .registration) := by
  unfold loadFiles loadedFrom
  cases contents fs .rootKey with
  | none => rfl
  | some rootKey =>
    dsimp only
    split
    · rfl
    · cases contents fs .registration with
      | none | some => rfl

/-- A root key and a registration that was serialized are loaded. -/
theorem loadedFrom_serialized {rootKey : Bytes} (h : rootKey.length=32)
    (registration : Option NodeRegistration) :
    loadedFrom (some rootKey) (registration.map serializeRegistration)=
      .ok (some ⟨rootKey,registration⟩) := by
  have hread : (registration.map serializeRegistration).bind deserializeRegistration=
      registration := by
    cases registration with
    | none => rfl
    | some registration => exact deserializeRegistration_serialize registration
  rw [loadedFrom,if_neg (fun hne => hne h),hread]

/-- What is stored is loaded. -/
theorem Stores.loads {stored : Option PersistedNodeState} (h : Stores fs stored) :
    (loadFiles fs).1=.ok stored := by
  rw [loadFiles_fst]
  cases stored with
  | none =>
    rw [show contents fs .rootKey=none from h]
    rfl
  | some state =>
    obtain ⟨hkey,hlength,hregistration⟩ := h
    rw [hkey,hregistration,loadedFrom_serialized hlength]

/-- One file has new content, and the others have what they had. -/
structure Wrote (file : StateFile) (bytes : Option Bytes) (before after : FileSystem) : Prop where
  /-- The directory is there. -/
  present : after.isSome=true
  /-- The new content. -/
  content : contents after file=bytes
  /-- The other files. -/
  others : ∀ other,other≠file → contents after other=contents before other

/-- A file is replaced. -/
theorem wrote_set (dir : Directory) (file : StateFile) (content : Option File) :
    Wrote file (content.map File.bytes) (some dir) (some (dir.set file content)) := by
  refine ⟨rfl,?_,fun other hne => ?_⟩
  · exact congrArg (Option.map File.bytes) (Function.update_self _ _ _)
  · exact congrArg (Option.map File.bytes) (Function.update_of_ne hne _ _)

/-- Of two writes to a file the second counts. -/
theorem Wrote.trans {file : StateFile} {first second : Option Bytes} {before between after : FileSystem}
    (h : Wrote file first before between) (h' : Wrote file second between after) :
    Wrote file second before after :=
  ⟨h'.present,h'.content,fun other hne => (h'.others other hne).trans (h.others other hne)⟩

/-- A file is truncated. -/
theorem wrote_create (h : fs.isSome=true) (file : StateFile) :
    Wrote file (some []) fs (applyOp fs (.create file)) := by
  obtain ⟨dir,rfl⟩ := Option.isSome_iff_exists.mp h
  exact wrote_set dir file (some ⟨[],_⟩)

/-- A file is removed. -/
theorem wrote_remove (h : fs.isSome=true) (file : StateFile) :
    Wrote file none fs (applyOp fs (.remove file)) := by
  obtain ⟨dir,rfl⟩ := Option.isSome_iff_exists.mp h
  exact wrote_set dir file none

/-- A file's mode is set. -/
theorem wrote_setPermissions (h : fs.isSome=true) (file : StateFile) :
    Wrote file (contents fs file) fs (applyOp fs (.setPermissions file)) := by
  obtain ⟨dir,rfl⟩ := Option.isSome_iff_exists.mp h
  have hset := wrote_set dir file ((dir.files file).map fun old => {old with ownerOnly := true})
  rw [Option.map_map] at hset
  exact hset

/-- A byte is appended to a file. -/
theorem wrote_append (h : fs.isSome=true) {file : StateFile} {bytes : Bytes}
    (hold : contents fs file=some bytes) (byte : UInt8) :
    Wrote file (some (bytes++[byte])) fs (applyOp fs (.append file byte)) := by
  obtain ⟨dir,rfl⟩ := Option.isSome_iff_exists.mp h
  obtain ⟨old,hfile,rfl⟩ := Option.map_eq_some_iff.mp hold
  have hset := wrote_set dir file ((dir.files file).map fun old => {old with bytes := old.bytes++[byte]})
  rw [hfile] at hset
  have happly : applyOp (some dir) (.append file byte)=
      some (dir.set file ((dir.files file).map fun old => {old with bytes := old.bytes++[byte]})) :=
    rfl
  rw [happly,hfile]
  exact hset

/-- Bytes are appended to a file. -/
theorem wrote_appends (h : fs.isSome=true) {file : StateFile} {bytes : Bytes}
    (hold : contents fs file=some bytes) (data : Bytes) :
    Wrote file (some (bytes++data)) fs (applyOps fs (data.map (.append file))) := by
  induction data generalizing fs bytes with
  | nil =>
    rw [List.append_nil]
    exact ⟨h,hold,fun _ _ => rfl⟩
  | cons byte data ih =>
    have hbyte := wrote_append h hold byte
    have hrest := ih hbyte.present hbyte.content
    rw [List.append_assoc,List.singleton_append] at hrest
    exact hbyte.trans hrest

/-- A write that was cut short after so many bytes. -/
theorem wrote_part (h : fs.isSome=true) (file : StateFile) (data : Bytes) {n : ℕ}
    (hn : n≤data.length) :
    Wrote file (some (data.take n)) fs (applyOps fs ((writePrivate file data).take (n+1))) := by
  have hcreate := wrote_create h file
  have happends := wrote_appends hcreate.present hcreate.content (data.take n)
  have hops : (writePrivate file data).take (n+1)=
      .create file::(data.take n).map (.append file) := by
    rw [writePrivate,List.take_succ_cons,List.take_append_of_le_length,List.map_take]
    rw [List.length_map]
    exact hn
  rw [hops]
  exact hcreate.trans happends

/-- A whole write. -/
theorem wrote_all (h : fs.isSome=true) (file : StateFile) (data : Bytes) :
    Wrote file (some data) fs (applyOps fs (writePrivate file data)) := by
  have hcreate := wrote_create h file
  have happends := wrote_appends hcreate.present hcreate.content data
  have hmode := wrote_setPermissions happends.present file
  rw [happends.content] at hmode
  have hall := (hcreate.trans happends).trans hmode
  have hops : applyOps fs (writePrivate file data)=
      applyOp (applyOps (applyOp fs (.create file)) (data.map (.append file)))
        (.setPermissions file) := by
    rw [writePrivate]
    exact applyOps_append (applyOp fs (.create file)) (data.map (.append file)) [.setPermissions file]
  rw [hops]
  exact hall

/-- A write that was cut short had not begun, or has written the front of its data. -/
theorem cut_write (h : fs.isSome=true) {file : StateFile} {data : Bytes} {after : FileSystem}
    (hcut : Cut (writePrivate file data) fs after) :
    after=fs ∨ ∃ n,n≤data.length ∧ Wrote file (some (data.take n)) fs after := by
  obtain ⟨n,rfl⟩ := hcut
  cases n with
  | zero => exact .inl rfl
  | succ n =>
    by_cases hn : n≤data.length
    · exact .inr ⟨n,hn,wrote_part h file data hn⟩
    · refine .inr ⟨data.length,Nat.le_refl _,?_⟩
      have hlength : (writePrivate file data).length=data.length+2 := by
        rw [writePrivate,List.length_cons,List.length_append,List.length_map,List.length_singleton]
      rw [List.take_length,List.take_of_length_le (by omega)]
      exact wrote_all h file data

end Operations

section Prefixes

/-- A field takes two bytes at least. -/
theorem two_le_encodeField (field : Field) : 2≤(encodeField field).length := by
  have hpos : ∀ n,1≤(encodeVarint n).length :=
    fun n => List.length_pos_iff.mpr (encodeVarint_ne_nil n)
  obtain ⟨tag,value⟩ := field
  cases value with
  | varint value =>
    have hkey := hpos (tag*8)
    have hvalue := hpos value
    change 2≤(encodeVarint (tag*8)++encodeVarint value).length
    rw [List.length_append]
    omega
  | bytes value =>
    have hkey := hpos (tag*8+2)
    have hlength := hpos value.length
    change 2≤(encodeVarint (tag*8+2)++(encodeVarint value.length++value)).length
    rw [List.length_append,List.length_append]
    omega

/-- Of parts with one field at most, the first fields are the first parts. -/
theorem take_flatten {parts : List (List Field)} (h : ∀ part∈parts,part.length≤1) (k : ℕ) :
    ∃ n,n≤parts.length ∧ parts.flatten.take k=(parts.take n).flatten := by
  induction parts generalizing k with
  | nil => exact ⟨0,Nat.le_refl _,List.take_nil⟩
  | cons part parts ih =>
    have hpart := h part List.mem_cons_self
    have hrest := ih fun other hother => h other (List.mem_cons_of_mem _ hother)
    by_cases hk : k<part.length
    · have hzero : k=0 := by omega
      subst hzero
      exact ⟨0,Nat.zero_le _,rfl⟩
    · obtain ⟨n,hn,htake⟩ := hrest (k-part.length)
      refine ⟨n+1,Nat.succ_le_succ hn,?_⟩
      rw [List.flatten_cons,List.take_append,List.take_of_length_le (by omega),htake,
        List.take_succ_cons,List.flatten_cons]

/-- The registration's fields, each with its default left out. -/
def registrationParts (registration : NodeRegistration) : List (List Field) :=
  [fieldsOf 1 (bytesValues (textBytes registration.connectivityGroupId)),
    fieldsOf 2 (varintValues (int32Varint registration.nodeNumber)),
    fieldsOf 3 (bytesValues (textBytes registration.authToken)),
    fieldsOf 4 (bytesValues (textBytes registration.attestationJwt))]

/-- Each part has one field at most. -/
theorem registrationParts_length (registration : NodeRegistration) :
    ∀ part∈registrationParts registration,part.length≤1 := by
  have hbytes : ∀ tag value,(fieldsOf tag (bytesValues value)).length≤1 := by
    intro tag value
    rw [fieldsOf,List.length_map,bytesValues]
    split
    · exact Nat.zero_le _
    · exact Nat.le_refl _
  have hvarint : ∀ tag value,(fieldsOf tag (varintValues value)).length≤1 := by
    intro tag value
    rw [fieldsOf,List.length_map,varintValues]
    split
    · exact Nat.zero_le _
    · exact Nat.le_refl _
  intro part hpart
  simp only [registrationParts,List.mem_cons,List.not_mem_nil,or_false] at hpart
  rcases hpart with rfl|rfl|rfl|rfl
  · exact hbytes 1 _
  · exact hvarint 2 _
  · exact hbytes 3 _
  · exact hbytes 4 _

/-- The first parts are those of the leading fields. -/
theorem registrationParts_take (registration : NodeRegistration) {n : ℕ} (hn : n≤4) :
    ((registrationParts registration).take n).flatten=registrationFields (leading n registration) := by
  have hempty : bytesValues (textBytes "")=[] := rfl
  have hzero : varintValues (int32Varint 0)=[] := rfl
  match n,hn with
  | 0,_ | 1,_ | 2,_ | 3,_ | 4,_ =>
    simp [registrationParts,registrationFields,leading,emptyRegistration,hempty,hzero,fieldsOf]

/-- The parts make up the fields. -/
theorem registrationParts_flatten (registration : NodeRegistration) :
    (registrationParts registration).flatten=registrationFields registration := by
  simp [registrationFields,registrationParts]

/-- The front of a serialized registration has its leading fields, or is not read at all. -/
theorem deserializeRegistration_take (registration : NodeRegistration) {n : ℕ}
    (hn : n≤(serializeRegistration registration).length) :
    deserializeRegistration ((serializeRegistration registration).take n)=none ∨
      ∃ k,k≤4 ∧ deserializeRegistration ((serializeRegistration registration).take n)=
        some (leading k registration) := by
  rcases decodeMessage_take hn with hnone|⟨k,hsome,_⟩
  · exact .inl (by rw [deserializeRegistration,serializeRegistration,hnone,Option.bind_none])
  · obtain ⟨m,hm,htake⟩ := take_flatten (registrationParts_length registration) k
    refine .inr ⟨m,hm,?_⟩
    rw [deserializeRegistration,serializeRegistration,hsome,Option.bind_some,
      ←registrationParts_flatten,htake,registrationParts_take registration hm,
      readRegistration_fields]

/-- The leading fields of a registration are read from some front of its bytes. -/
theorem leading_read (registration : NodeRegistration) {k : ℕ} (hk : k≤4) :
    ∃ n,n≤(serializeRegistration registration).length ∧
      deserializeRegistration ((serializeRegistration registration).take n)=
        some (leading k registration) := by
  have hparts : registrationFields registration=registrationFields (leading k registration)++
      ((registrationParts registration).drop k).flatten := by
    rw [←registrationParts_take registration hk,←List.flatten_append,List.take_append_drop,
      registrationParts_flatten]
  have hsplit : serializeRegistration registration=serializeRegistration (leading k registration)++
      encodeMessage ((registrationParts registration).drop k).flatten := by
    rw [serializeRegistration,hparts,encodeMessage,List.flatMap_append]
    rfl
  refine ⟨(serializeRegistration (leading k registration)).length,?_,?_⟩
  · rw [hsplit,List.length_append]
    exact Nat.le_add_right _ _
  · rw [hsplit,List.take_left,deserializeRegistration_serialize]

/-- A registration that takes bytes is not read when it is cut after the first. -/
theorem cut_unread {registration : NodeRegistration} (h : registration≠emptyRegistration) :
    1≤(serializeRegistration registration).length ∧
      deserializeRegistration ((serializeRegistration registration).take 1)=none := by
  have hne : serializeRegistration registration≠[] := fun hnil =>
    h (serializeRegistration_eq_nil.mp hnil)
  have hone : 1≤(serializeRegistration registration).length := List.length_pos_iff.mpr hne
  refine ⟨hone,?_⟩
  rcases decodeMessage_take hone with hnone|⟨k,_,hk⟩
  · rw [deserializeRegistration,serializeRegistration,hnone,Option.bind_none]
  · cases hfields : (registrationFields registration).take k with
    | nil =>
      rw [hfields] at hk
      cases hk
    | cons field fields =>
      have htwo := two_le_encodeField field
      rw [hfields,encodeMessage,List.flatMap_cons,List.length_append] at hk
      omega

end Prefixes

section Outcomes

variable {fs : FileSystem} {old : Option PersistedNodeState} {new : PersistedNodeState}

/-- What is loaded besides a root key that is whole is the registration that was left. -/
theorem loadedFrom_left {rootKey : Bytes} (h : rootKey.length=32) (fs : FileSystem) :
    loadedFrom (some rootKey) (contents fs .registration)=
      .ok (some ⟨rootKey,registrationLeft fs⟩) := by
  rw [loadedFrom,if_neg (fun hne => hne h)]
  rfl

/-- What was loaded has the registration that was left. -/
theorem left_of_loaded {state : PersistedNodeState} (h : (loadFiles fs).1=.ok (some state)) :
    contents fs .rootKey=some state.rootKey ∧ state.rootKey.length=32 ∧
      state.registration=registrationLeft fs := by
  rw [loadFiles_fst] at h
  cases hroot : contents fs .rootKey with
  | none =>
    rw [hroot] at h
    cases h
  | some rootKey =>
    rw [hroot] at h
    by_cases hlength : rootKey.length=32
    · rw [loadedFrom_left hlength] at h
      obtain rfl := Option.some.inj (Except.ok.inj h)
      exact ⟨rfl,hlength,rfl⟩
    · rw [loadedFrom,if_pos hlength] at h
      cases h

/-- Nothing was loaded because there is no root key. -/
theorem root_of_unloaded (h : (loadFiles fs).1=.ok none) : contents fs .rootKey=none := by
  rw [loadFiles_fst] at h
  cases hroot : contents fs .rootKey with
  | none => rfl
  | some rootKey =>
    rw [hroot,loadedFrom] at h
    split at h
    next => cases h
    next => cases h

/-- The making of the directory changes no file, wherever it is cut. -/
theorem cut_prepare {after : FileSystem} (h : Cut (prepareOps fs) fs after) (file : StateFile) :
    contents after file=contents fs file := by
  obtain ⟨n,rfl⟩ := h
  cases fs with
  | some dir =>
    have hnone : (prepareOps (some dir)).take n=[] := List.take_nil
    rw [hnone]
    rfl
  | none =>
    match n with
    | 0 | 1 => rfl
    | n+2 =>
      have hall : (prepareOps none).take (n+2)=[.createDir,.setDirPermissions] :=
        List.take_of_length_le (Nat.le_add_left _ _)
      rw [hall]
      rfl

/-- The directory is there once it was prepared. -/
theorem prepared (fs : FileSystem) : (applyOps fs (prepareOps fs)).isSome=true := by
  cases fs with
  | none | some => rfl

/-- What a load finds once only the registration's file has changed. -/
theorem Wrote.loads {rootKey : Bytes} (hkey : rootKey.length=32)
    (hroot : contents fs .rootKey=some rootKey) {after : FileSystem} {bytes : Option Bytes}
    (h : Wrote .registration bytes fs after) :
    (loadFiles after).1=.ok (some ⟨rootKey,bytes.bind deserializeRegistration⟩) := by
  rw [loadFiles_fst,h.content,h.others .rootKey (by decide),hroot,loadedFrom,
    if_neg (fun hne => hne hkey)]

/-- What a load finds when the removal of the registration was cut short. -/
theorem removal_outcomes (h : fs.isSome=true) {rootKey : Bytes} (hkey : rootKey.length=32)
    (hroot : contents fs .rootKey=some rootKey)
    (found : Except StorageError (Option PersistedNodeState)) :
    (∃ after,Cut (registrationOps (contents fs .registration) none) fs after ∧
      (loadFiles after).1=found) ↔
      found=.ok (some ⟨rootKey,registrationLeft fs⟩) ∨ found=.ok (some ⟨rootKey,none⟩) := by
  have hstart : (loadFiles fs).1=.ok (some ⟨rootKey,registrationLeft fs⟩) := by
    rw [loadFiles_fst,hroot,loadedFrom_left hkey]
  have hremoved := (wrote_remove h .registration).loads hkey hroot
  cases hstored : contents fs .registration with
  | none =>
    have hleft : registrationLeft fs=none := by
      rw [registrationLeft,hstored]
      rfl
    have hnone : ∀ n,(registrationOps none none).take n=[] := fun _ => List.take_nil
    rw [hleft] at hstart ⊢
    constructor
    · rintro ⟨after,⟨n,rfl⟩,rfl⟩
      rw [hnone]
      exact .inl hstart
    · rintro (rfl|rfl)
      · exact ⟨fs,cut_start _ _,hstart⟩
      · exact ⟨fs,cut_start _ _,hstart⟩
  | some stored =>
    have hops : registrationOps (some stored) none=[.remove .registration] := rfl
    rw [hops]
    constructor
    · rintro ⟨after,⟨n,rfl⟩,rfl⟩
      cases n with
      | zero => exact .inl hstart
      | succ n =>
        rw [List.take_succ_cons,List.take_nil]
        exact .inr hremoved
    · rintro (rfl|rfl)
      · exact ⟨fs,cut_start _ _,hstart⟩
      · exact ⟨_,cut_end _ _,hremoved⟩

/-- What a load finds when the writing of a registration was cut short. -/
theorem writing_outcomes (h : fs.isSome=true) {rootKey : Bytes} (hkey : rootKey.length=32)
    (hroot : contents fs .rootKey=some rootKey) (registration : NodeRegistration)
    (found : Except StorageError (Option PersistedNodeState)) :
    (∃ after,Cut (writePrivate .registration (serializeRegistration registration)) fs after ∧
      (loadFiles after).1=found) ↔
      found=.ok (some ⟨rootKey,registrationLeft fs⟩) ∨
        found=.ok (some ⟨rootKey,some registration⟩) ∨
        (registration≠emptyRegistration ∧ found=.ok (some ⟨rootKey,none⟩)) ∨
          ∃ n,n<4 ∧ found=.ok (some ⟨rootKey,some (leading n registration)⟩) := by
  have hstart : (loadFiles fs).1=.ok (some ⟨rootKey,registrationLeft fs⟩) := by
    rw [loadFiles_fst,hroot,loadedFrom_left hkey]
  constructor
  · rintro ⟨after,hcut,rfl⟩
    rcases cut_write h hcut with rfl|⟨n,hn,hpart⟩
    · exact .inl hstart
    · rw [hpart.loads hkey hroot,Option.bind_some]
      rcases deserializeRegistration_take registration hn with hnone|⟨k,hk,hsome⟩
      · rw [hnone]
        refine .inr (.inr (.inl ⟨fun hempty => ?_,rfl⟩))
        have hnil : serializeRegistration registration=[] := serializeRegistration_eq_nil.mpr hempty
        have hread := deserializeRegistration_serialize registration
        rw [hnil] at hnone hread
        rw [List.take_nil,hread] at hnone
        cases hnone
      · rw [hsome]
        by_cases hfour : k<4
        · exact .inr (.inr (.inr ⟨k,hfour,rfl⟩))
        · have hall : k=4 := by omega
          subst hall
          exact .inr (.inl rfl)
  · have hpart : ∀ {n : ℕ},n≤(serializeRegistration registration).length → ∃ after,
        Cut (writePrivate .registration (serializeRegistration registration)) fs after ∧
          (loadFiles after).1=.ok (some ⟨rootKey,
            deserializeRegistration ((serializeRegistration registration).take n)⟩) :=
      fun hn => ⟨_,⟨_,rfl⟩,(wrote_part h _ _ hn).loads hkey hroot⟩
    rintro (rfl|rfl|⟨hne,rfl⟩|⟨k,hk,rfl⟩)
    · exact ⟨fs,cut_start _ _,hstart⟩
    · refine ⟨_,cut_end _ _,((wrote_all h _ _).loads hkey hroot).trans ?_⟩
      rw [Option.bind_some,deserializeRegistration_serialize]
    · obtain ⟨hone,hnone⟩ := cut_unread hne
      obtain ⟨after,hcut,hload⟩ := hpart hone
      rw [hnone] at hload
      exact ⟨after,hcut,hload⟩
    · obtain ⟨n,hn,hsome⟩ := leading_read registration (Nat.le_of_lt hk)
      obtain ⟨after,hcut,hload⟩ := hpart hn
      rw [hsome] at hload
      exact ⟨after,hcut,hload⟩

/-- What a load finds when the save was cut short while it wrote the registration. -/
theorem registration_outcomes (h : fs.isSome=true) (hkey : new.rootKey.length=32)
    (hroot : contents fs .rootKey=some new.rootKey)
    (found : Except StorageError (Option PersistedNodeState)) :
    (∃ after,Cut (registrationOps (contents fs .registration) new.registration) fs after ∧
      (loadFiles after).1=found) ↔
      found=.ok (some ⟨new.rootKey,registrationLeft fs⟩) ∨ found=.ok (some new) ∨
        ∃ registration,new.registration=some registration ∧
          ((registration≠emptyRegistration ∧ found=.ok (some ⟨new.rootKey,none⟩)) ∨
            ∃ n,n<4 ∧ found=.ok (some ⟨new.rootKey,some (leading n registration)⟩)) := by
  obtain ⟨rootKey,registration⟩ := new
  cases registration with
  | none =>
    refine (removal_outcomes h hkey hroot found).trans (or_congr_right ?_)
    refine ⟨.inl,?_⟩
    rintro (hnew|⟨_,hsome,_⟩)
    · exact hnew
    · cases hsome
  | some registration =>
    refine (writing_outcomes h hkey hroot registration found).trans
      (or_congr_right (or_congr_right ?_))
    constructor
    · exact fun hpart => ⟨registration,rfl,hpart⟩
    · rintro ⟨_,hsome,hpart⟩
      obtain rfl := Option.some.inj hsome
      exact hpart

/-- What a load finds when the save was cut short while it wrote the root key. -/
theorem key_outcomes (h : fs.isSome=true) (hkey : new.rootKey.length=32)
    (hold : (loadFiles fs).1=.ok old)
    (found : Except StorageError (Option PersistedNodeState)) :
    (∃ after,Cut (writePrivate .rootKey new.rootKey) fs after ∧ (loadFiles after).1=found) ↔
      found=.ok old ∨ found=.error .invalidRootKey ∨
        found=.ok (some ⟨new.rootKey,registrationLeft fs⟩) := by
  have hpart : ∀ {after : FileSystem} {n : ℕ},Wrote .rootKey (some (new.rootKey.take n)) fs after →
      (loadFiles after).1=
        loadedFrom (some (new.rootKey.take n)) (contents fs .registration) := by
    intro after n hwrote
    rw [loadFiles_fst,hwrote.content,hwrote.others .registration (by decide)]
  have hshort : ∀ {n : ℕ},n<32 →
      loadedFrom (some (new.rootKey.take n)) (contents fs .registration)=
        .error .invalidRootKey := by
    intro n hn
    have hlength : (new.rootKey.take n).length≠32 := by
      rw [List.length_take]
      omega
    rw [loadedFrom,if_pos hlength]
  constructor
  · rintro ⟨after,hcut,rfl⟩
    rcases cut_write h hcut with rfl|⟨n,hn,hwrote⟩
    · exact .inl hold
    · rw [hpart hwrote]
      by_cases hall : n<32
      · exact .inr (.inl (hshort hall))
      · rw [List.take_of_length_le (by omega),loadedFrom_left hkey]
        exact .inr (.inr rfl)
  · rintro (rfl|rfl|rfl)
    · exact ⟨fs,cut_start _ _,hold⟩
    · refine ⟨_,⟨1,rfl⟩,(hpart (wrote_part h .rootKey new.rootKey (Nat.zero_le _))).trans ?_⟩
      exact hshort (by decide)
    · have hwrote := wrote_part h .rootKey new.rootKey (Nat.le_refl _)
      refine ⟨_,⟨_,rfl⟩,(hpart hwrote).trans ?_⟩
      rw [List.take_length,loadedFrom_left hkey]

/-- What a load finds after a save was cut short is what is said of it. -/
theorem save_outcomes (h : (loadFiles fs).1=.ok old) (hkey : new.rootKey.length=32)
    (found : Except StorageError (Option PersistedNodeState)) :
    (∃ after,SaveCut fs new after ∧ (loadFiles after).1=found) ↔
      SaveOutcome (registrationLeft fs) old new found := by
  have hpresent := prepared fs
  have hsame : ∀ file,contents (applyOps fs (prepareOps fs)) file=contents fs file :=
    cut_prepare (cut_end _ _)
  have hprepared : ∀ {after : FileSystem},Cut (prepareOps fs) fs after →
      (loadFiles after).1=.ok old := by
    intro after hcut
    rw [loadFiles_fst,cut_prepare hcut,cut_prepare hcut,←loadFiles_fst]
    exact h
  have hwritten := wrote_all hpresent .rootKey new.rootKey
  have hunchanged := hwritten.others .registration (by decide)
  have hleft : registrationLeft (applyOps fs (prepareOps fs))=registrationLeft fs := by
    rw [registrationLeft,hsame .registration]
    rfl
  have hleft' : registrationLeft (applyOps (applyOps fs (prepareOps fs))
      (writePrivate .rootKey new.rootKey))=registrationLeft fs := by
    rw [registrationLeft,hunchanged,hsame .registration]
    rfl
  have hkeys := key_outcomes hpresent hkey (hprepared (cut_end _ _)) found
  have hregistrations := registration_outcomes hwritten.present hkey hwritten.content found
  rw [hleft] at hkeys
  rw [hleft',hunchanged,hsame .registration] at hregistrations
  have hsplit : ∀ after,SaveCut fs new after ↔ Cut (prepareOps fs) fs after ∨
      Cut (writePrivate .rootKey new.rootKey) (applyOps fs (prepareOps fs)) after ∨
        Cut (registrationOps (contents fs .registration) new.registration)
          (applyOps (applyOps fs (prepareOps fs)) (writePrivate .rootKey new.rootKey)) after := by
    intro after
    unfold SaveCut saveOps
    rw [cut_append,cut_append]
  constructor
  · rintro ⟨after,hcut,hfound⟩
    rcases (hsplit after).mp hcut with hcut|hcut|hcut
    · exact .inl (hfound.symm.trans (hprepared hcut))
    · rcases hkeys.mp ⟨after,hcut,hfound⟩ with hold|hshort|hmixed
      · exact .inl hold
      · exact .inr (.inr (.inl hshort))
      · exact .inr (.inr (.inr (.inl hmixed)))
    · rcases hregistrations.mp ⟨after,hcut,hfound⟩ with hmixed|hnew|hpart
      · exact .inr (.inr (.inr (.inl hmixed)))
      · exact .inr (.inl hnew)
      · exact .inr (.inr (.inr (.inr hpart)))
  · have hfromKeys : (∃ after,Cut (writePrivate .rootKey new.rootKey)
        (applyOps fs (prepareOps fs)) after ∧ (loadFiles after).1=found) →
        ∃ after,SaveCut fs new after ∧ (loadFiles after).1=found := by
      rintro ⟨after,hcut,hfound⟩
      exact ⟨after,(hsplit after).mpr (.inr (.inl hcut)),hfound⟩
    have hfromRegistrations : (∃ after,Cut
        (registrationOps (contents fs .registration) new.registration)
          (applyOps (applyOps fs (prepareOps fs)) (writePrivate .rootKey new.rootKey)) after ∧
            (loadFiles after).1=found) → ∃ after,SaveCut fs new after ∧ (loadFiles after).1=found := by
      rintro ⟨after,hcut,hfound⟩
      exact ⟨after,(hsplit after).mpr (.inr (.inr hcut)),hfound⟩
    rintro (hold|hnew|hshort|hmixed|hpart)
    · exact hfromKeys (hkeys.mpr (.inl hold))
    · exact hfromRegistrations (hregistrations.mpr (.inr (.inl hnew)))
    · exact hfromKeys (hkeys.mpr (.inr (.inl hshort)))
    · exact hfromKeys (hkeys.mpr (.inr (.inr hmixed)))
    · exact hfromRegistrations (hregistrations.mpr (.inr (.inr hpart)))

end Outcomes

section Deletions

variable {fs : FileSystem}

/-- Files that are removed are gone, and the others are as they were. -/
theorem contents_removed (h : fs.isSome=true) (files : List StateFile) (file : StateFile) :
    (applyOps fs (files.map .remove)).isSome=true ∧
      contents (applyOps fs (files.map .remove)) file=
        if file∈files then none else contents fs file := by
  induction files generalizing fs with
  | nil => exact ⟨h,rfl⟩
  | cons first files ih =>
    have hfirst := wrote_remove h first
    obtain ⟨hpresent,hcontents⟩ := ih hfirst.present
    refine ⟨hpresent,hcontents.trans ?_⟩
    by_cases hfile : file∈files
    · rw [if_pos hfile,if_pos (List.mem_cons_of_mem _ hfile)]
    · rw [if_neg hfile]
      by_cases heq : file=first
      · subst heq
        rw [if_pos List.mem_cons_self]
        exact hfirst.content
      · rw [if_neg (by rw [List.mem_cons]; exact not_or.mpr ⟨heq,hfile⟩)]
        exact hfirst.others file heq

/-- What a load finds when some files are removed. -/
theorem removed_loads {old : Option PersistedNodeState} (h : (loadFiles fs).1=.ok old)
    (hpresent : fs.isSome=true) (files : List StateFile) :
    (loadFiles (applyOps fs (files.map .remove))).1=
      if .rootKey∈files then .ok none
      else if .registration∈files then .ok (old.map fun state => ⟨state.rootKey,none⟩)
      else .ok old := by
  have hcontents := fun file => (contents_removed hpresent files file).2
  rw [loadFiles_fst,hcontents,hcontents]
  by_cases hkey : .rootKey∈files
  · rw [if_pos hkey,if_pos hkey]
    rfl
  · rw [if_neg hkey,if_neg hkey]
    by_cases hregistration : .registration∈files
    · rw [if_pos hregistration,if_pos hregistration]
      cases old with
      | none =>
        rw [root_of_unloaded h]
        rfl
      | some state =>
        obtain ⟨hroot,hlength,_⟩ := left_of_loaded h
        rw [hroot]
        exact loadedFrom_serialized hlength none
    · rw [if_neg hregistration,if_neg hregistration,←loadFiles_fst]
      exact h

/-- What a load finds when some files are removed is among the outcomes. -/
theorem removed_outcome {old : Option PersistedNodeState} (h : (loadFiles fs).1=.ok old)
    (hpresent : fs.isSome=true) (files : List StateFile) :
    DeleteOutcome old (loadFiles (applyOps fs (files.map .remove))).1 := by
  rw [removed_loads h hpresent]
  split
  · exact .inr (.inl rfl)
  · split
    · cases old with
      | none => exact .inl rfl
      | some state => exact .inr (.inr ⟨state,rfl,rfl⟩)
    · exact .inl rfl

/-- Without the directory nothing is found. -/
theorem removeDir_loads (h : fs.isSome=true) :
    (loadFiles (applyOps fs [.removeDir])).1=.ok none := by
  obtain ⟨dir,rfl⟩ := Option.isSome_iff_exists.mp h
  rfl

/-- A deletion begins with the old state. -/
theorem delete_start (fs : FileSystem) : DeleteCut fs fs :=
  ⟨presentFiles fs,.refl _,cut_start _ _⟩

/-- A stored registration has its file among those that are removed. -/
theorem registration_present {state : PersistedNodeState}
    (h : (loadFiles fs).1=.ok (some state)) {registration : NodeRegistration}
    (hregistration : state.registration=some registration) : .registration∈presentFiles fs := by
  have hleft := (left_of_loaded h).2.2
  rw [hregistration,registrationLeft] at hleft
  obtain ⟨bytes,hbytes,_⟩ := Option.bind_eq_some_iff.mp hleft.symm
  refine List.mem_filter.mpr ⟨by decide,?_⟩
  rw [hbytes]
  rfl

/-- What a load finds when the deletion of a directory was cut short. -/
theorem delete_present {old : Option PersistedNodeState} (h : (loadFiles fs).1=.ok old)
    (hpresent : fs.isSome=true) (found : Except StorageError (Option PersistedNodeState)) :
    (∃ after,DeleteCut fs after ∧ (loadFiles after).1=found) ↔ DeleteOutcome old found := by
  have hops : ∀ order,deleteOps fs order=order.map .remove++[.removeDir] :=
    fun _ => if_pos hpresent
  constructor
  · rintro ⟨after,⟨order,_,hcut⟩,rfl⟩
    rw [hops,cut_append] at hcut
    rcases hcut with ⟨n,rfl⟩|⟨n,rfl⟩
    · rw [←List.map_take]
      exact removed_outcome h hpresent (order.take n)
    · cases n with
      | zero => exact removed_outcome h hpresent order
      | succ n =>
        rw [List.take_succ_cons,List.take_nil]
        exact .inr (.inl (removeDir_loads (contents_removed hpresent order .rootKey).1))
  · rintro (rfl|rfl|⟨state,rfl,rfl⟩)
    · exact ⟨fs,delete_start fs,h⟩
    · refine ⟨_,⟨presentFiles fs,.refl _,cut_end _ _⟩,?_⟩
      rw [hops,applyOps_append]
      exact removeDir_loads (contents_removed hpresent (presentFiles fs) .rootKey).1
    · cases hregistration : state.registration with
      | none =>
        refine ⟨fs,delete_start fs,h.trans ?_⟩
        rw [←hregistration]
      | some registration =>
        have hfile := registration_present h hregistration
        refine ⟨_,⟨_,(List.perm_cons_erase hfile).symm,⟨1,rfl⟩⟩,?_⟩
        rw [hops]
        exact removed_loads h hpresent [.registration]

/-- What a load finds after a deletion was cut short is what is said of it. -/
theorem delete_outcomes {old : Option PersistedNodeState} (h : (loadFiles fs).1=.ok old)
    (found : Except StorageError (Option PersistedNodeState)) :
    (∃ after,DeleteCut fs after ∧ (loadFiles after).1=found) ↔ DeleteOutcome old found := by
  by_cases hpresent : fs.isSome=true
  · exact delete_present h hpresent found
  · obtain rfl : fs=none := Option.not_isSome_iff_eq_none.mp hpresent
    cases old with
    | some state => cases h
    | none =>
      constructor
      · rintro ⟨after,⟨order,_,n,rfl⟩,rfl⟩
        have hnone : (deleteOps none order).take n=[] := List.take_nil
        rw [hnone]
        exact .inl rfl
      · rintro (rfl|rfl|⟨state,hstate,_⟩)
        · exact ⟨none,delete_start none,rfl⟩
        · exact ⟨none,delete_start none,rfl⟩
        · cases hstate

end Deletions

/-- A load after a save or a deletion that was cut short finds exactly what is said of them,
whatever files there are, as long as a load finds a state or none before. -/
theorem crash_outcomes_iff {fs : FileSystem} {old : Option PersistedNodeState}
    (h : (loadFiles fs).1=.ok old) {new : PersistedNodeState} (hkey : new.rootKey.length=32)
    (found : Except StorageError (Option PersistedNodeState)) :
    ((∃ after,SaveCut fs new after ∧ (loadFiles after).1=found) ↔
        SaveOutcome (registrationLeft fs) old new found) ∧
      ((∃ after,DeleteCut fs after ∧ (loadFiles after).1=found) ↔ DeleteOutcome old found) :=
  ⟨save_outcomes h hkey found,delete_outcomes h found⟩

/-- A registered node. -/
def storedNode : PersistedNodeState := ⟨List.replicate 32 0,some ⟨"g",1,"t",""⟩⟩

/-- The node after it was set up again. -/
def nextNode : PersistedNodeState := ⟨List.replicate 32 1,some ⟨"h",2,"u",""⟩⟩

/-- The file system that stores it. -/
def storedFiles : FileSystem := applyOps none (saveOps none storedNode)

/-- The files after a deletion that was cut short when the root key was gone. -/
def remainingFiles : FileSystem := applyOps storedFiles [.remove .rootKey]

/-- A first save there, of a node without a registration, may leave the new root key with the
registration that was deleted. -/
theorem crash_outcomes_remaining :
    DeleteCut storedFiles remainingFiles ∧ (loadFiles remainingFiles).1=.ok none ∧
      ∃ after,SaveCut remainingFiles ⟨nextNode.rootKey,none⟩ after ∧
        (loadFiles after).1=.ok (some ⟨nextNode.rootKey,storedNode.registration⟩) := by
  have hnone : (loadFiles remainingFiles).1=.ok none := by decide +kernel
  have hleft : registrationLeft remainingFiles=storedNode.registration := by decide +kernel
  refine ⟨⟨[.rootKey,.registration],by decide +kernel,1,rfl⟩,hnone,?_⟩
  refine ((@crash_outcomes_iff remainingFiles none hnone ⟨nextNode.rootKey,none⟩ rfl _).1).mpr ?_
  rw [hleft]
  exact .inr (.inr (.inr (.inl rfl)))

/-- A save that is cut short between its two files leaves the new root key with the old
registration, and one operation later with an empty one; and a deletion may leave the root key
alone. Neither is the old or the new state. -/
theorem crash_mixes_states :
    Stores storedFiles (some storedNode) ∧
    (∃ after,SaveCut storedFiles nextNode after ∧
      (loadFiles after).1=.ok (some ⟨nextNode.rootKey,storedNode.registration⟩)) ∧
    (∃ after,SaveCut storedFiles nextNode after ∧
      (loadFiles after).1=.ok (some ⟨nextNode.rootKey,some emptyRegistration⟩)) ∧
    (∃ after,DeleteCut storedFiles after ∧
      (loadFiles after).1=.ok (some ⟨storedNode.rootKey,none⟩)) ∧
    (¬∀ after,SaveCut storedFiles nextNode after →
      (loadFiles after).1=.ok (some storedNode) ∨ (loadFiles after).1=.ok (some nextNode)) ∧
    ¬∀ after,DeleteCut storedFiles after →
      (loadFiles after).1=.ok (some storedNode) ∨ (loadFiles after).1=.ok none := by
  have hstored : Stores storedFiles (some storedNode) := ⟨by decide +kernel,rfl,by decide +kernel⟩
  have hmixed : (loadFiles (applyOps storedFiles ((saveOps storedFiles nextNode).take 34))).1=
      .ok (some ⟨nextNode.rootKey,storedNode.registration⟩) := by
    decide +kernel
  have hempty : (loadFiles (applyOps storedFiles ((saveOps storedFiles nextNode).take 35))).1=
      .ok (some ⟨nextNode.rootKey,some emptyRegistration⟩) := by
    decide +kernel
  have hdelete : DeleteCut storedFiles (applyOps storedFiles [.remove .registration]) :=
    ⟨[.registration,.rootKey],by decide +kernel,1,rfl⟩
  have halone : (loadFiles (applyOps storedFiles [.remove .registration])).1=
      .ok (some ⟨storedNode.rootKey,none⟩) := by
    decide +kernel
  refine ⟨hstored,⟨_,⟨34,rfl⟩,hmixed⟩,⟨_,⟨35,rfl⟩,hempty⟩,⟨_,hdelete,halone⟩,fun hall => ?_,
    fun hall => ?_⟩
  · rcases hall _ ⟨34,rfl⟩ with hold|hnew
    · exact absurd (hmixed.symm.trans hold) (by decide)
    · exact absurd (hmixed.symm.trans hnew) (by decide)
  · rcases hall _ hdelete with hold|hnone
    · exact absurd (halone.symm.trans hold) (by decide)
    · exact absurd (halone.symm.trans hnone) (by decide)

end WispersConnect.SaveCrashes
