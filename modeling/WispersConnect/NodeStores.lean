import WispersConnect.NodeLifecycle
import WispersConnect.PeerEncoding

/-!
# The three stores of node state

The node's root key and registration are kept in memory, in two files of a
directory, or by callbacks of the host application. The registration goes through
its protobuf encoding, which leaves default values out. Saving and deleting files
are lists of single file operations, so that each may be the last one.
-/

namespace WispersConnect.NodeStores

open Messages OutcomeMonad NodeLifecycle WireFormat WireDecoding RosterEncoding PeerEncoding

section Codec

/-- `storage::NodeRegistration`. -/
def registrationFields (registration : NodeRegistration) : List Field :=
  fieldsOf 1 (bytesValues (textBytes registration.connectivityGroupId))++
    fieldsOf 2 (varintValues (int32Varint registration.nodeNumber))++
    fieldsOf 3 (bytesValues (textBytes registration.authToken))++
    fieldsOf 4 (bytesValues (textBytes registration.attestationJwt))

/-- A registration from its fields. -/
def readRegistration (fields : List Field) : Option NodeRegistration := do
  let connectivityGroupId ← textOf 1 fields
  let nodeNumber ← int32Of 2 fields
  let authToken ← textOf 3 fields
  let attestationJwt ← textOf 4 fields
  some ⟨connectivityGroupId,nodeNumber,authToken,attestationJwt⟩

/-- `serialize_registration`. -/
def serializeRegistration (registration : NodeRegistration) : Bytes :=
  encodeMessage (registrationFields registration)

/-- `deserialize_registration`; no caller looks at the error. -/
def deserializeRegistration (bytes : Bytes) : Option NodeRegistration :=
  (decodeMessage bytes).bind readRegistration

/-- The registration with default values only. -/
def emptyRegistration : NodeRegistration := ⟨"",0,"",""⟩

/-- The fields of a registration are read back. -/
theorem readRegistration_fields (registration : NodeRegistration) :
    readRegistration (registrationFields registration)=some registration := by
  simp [readRegistration,registrationFields,textOf,int32Of,lastBytes_values,
    lastVarint_values,decodeText_textBytes,decodeInt32_varint]

/-- A serialized registration is deserialized again. -/
theorem deserializeRegistration_serialize (registration : NodeRegistration) :
    deserializeRegistration (serializeRegistration registration)=some registration := by
  rw [deserializeRegistration,serializeRegistration,decodeMessage_encode,Option.bind_some,
    readRegistration_fields]

/-- Only the registration with default values takes no bytes. -/
theorem serializeRegistration_eq_nil {registration : NodeRegistration} :
    serializeRegistration registration=[] ↔ registration=emptyRegistration := by
  constructor
  · intro h
    have hread := deserializeRegistration_serialize registration
    have hempty := deserializeRegistration_serialize emptyRegistration
    have hnil : serializeRegistration emptyRegistration=[] := rfl
    rw [h] at hread
    rw [hnil] at hempty
    exact Option.some.inj (hread.symm.trans hempty)
  · rintro rfl
    rfl

end Codec

section Files

/-- The files in the store's directory that it looks at. -/
inductive StateFile where
  /-- `root_key.bin` -/
  | rootKey
  /-- `registration.pb` -/
  | registration
  /-- `registration.json`, from before. -/
  | legacyRegistration
  deriving DecidableEq

/-- A file: its bytes, and whether its mode is `0o600`. -/
structure File where
  /-- What it contains. -/
  bytes : Bytes
  /-- Only its owner may read it. -/
  ownerOnly : Bool

/-- The store's directory. -/
structure Directory where
  /-- Its files. -/
  files : StateFile→Option File
  /-- Its mode is `0o700`. -/
  ownerOnly : Bool

/-- The file system, as far as the store uses it: its directory, if that exists. -/
abbrev FileSystem := Option Directory

/-- One operation on the file system. -/
inductive FileOp where
  /-- The directory is made, as the last step of `create_dir_all`. -/
  | createDir
  /-- Its mode is set. -/
  | setDirPermissions
  /-- A file is made, or truncated. -/
  | create (file : StateFile)
  /-- One byte is written at the end of a file. -/
  | append (file : StateFile) (byte : UInt8)
  /-- A file's mode is set. -/
  | setPermissions (file : StateFile)
  /-- A file is removed. -/
  | remove (file : StateFile)
  /-- The directory is removed. -/
  | removeDir

/-- The directory with one file replaced. -/
def Directory.set (dir : Directory) (file : StateFile) (content : Option File) : Directory :=
  {dir with files := Function.update dir.files file content}

/-- What one operation does to the directory it is in. -/
def applyInDir (dir : Directory) : FileOp→FileSystem
  | .createDir => some dir
  | .setDirPermissions => some {dir with ownerOnly := true}
  | .create file => some (dir.set file (some ⟨[],((dir.files file).map File.ownerOnly).getD false⟩))
  | .append file byte =>
    some (dir.set file ((dir.files file).map fun old => {old with bytes := old.bytes++[byte]}))
  | .setPermissions file =>
    some (dir.set file ((dir.files file).map fun old => {old with ownerOnly := true}))
  | .remove file => some (dir.set file none)
  | .removeDir => none

/-- What one operation does. -/
def applyOp (fs : FileSystem) (op : FileOp) : FileSystem :=
  match fs,op with
  | some dir,op => applyInDir dir op
  | none,.createDir => some ⟨fun _ => none,false⟩
  | none,_ => none

/-- What operations do one after another. -/
def applyOps (fs : FileSystem) (ops : List FileOp) : FileSystem := ops.foldl applyOp fs

/-- A file's bytes, if it exists. -/
def contents (fs : FileSystem) (file : StateFile) : Option Bytes :=
  fs.bind fun dir => (dir.files file).map File.bytes

/-- `write_private`. -/
def writePrivate (file : StateFile) (data : Bytes) : List FileOp :=
  .create file::(data.map (.append file)++[.setPermissions file])

/-- `FileNodeStateStore::load`. -/
def loadFiles (fs : FileSystem) : Except StorageError (Option PersistedNodeState)×FileSystem :=
  match contents fs .rootKey with
  | none => (.ok none,fs)
  | some rootKeyBytes =>
    if rootKeyBytes.length≠32 then (.error .invalidRootKey,fs)
    else
      match contents fs .registration with
      | some bytes => (.ok (some ⟨rootKeyBytes,deserializeRegistration bytes⟩),fs)
      | none =>
        (.ok (some ⟨rootKeyBytes,none⟩),
          if (contents fs .legacyRegistration).isSome then applyOp fs (.remove .legacyRegistration)
          else fs)

/-- The directory is made, unless it exists. -/
def prepareOps (fs : FileSystem) : List FileOp :=
  if fs.isSome then [] else [.createDir,.setDirPermissions]

/-- The registration is written, or its file removed, if there is one. -/
def registrationOps (stored : Option Bytes) (registration : Option NodeRegistration) : List FileOp :=
  match registration with
  | some registration => writePrivate .registration (serializeRegistration registration)
  | none => if stored.isSome then [.remove .registration] else []

/-- The operations of `FileNodeStateStore::save`. -/
def saveOps (fs : FileSystem) (state : PersistedNodeState) : List FileOp :=
  prepareOps fs++(writePrivate .rootKey state.rootKey++
    registrationOps (contents fs .registration) state.registration)

/-- The files that exist. -/
def presentFiles (fs : FileSystem) : List StateFile :=
  [.rootKey,.registration,.legacyRegistration].filter fun file => (contents fs file).isSome

/-- The operations of `FileNodeStateStore::delete`, with the files in the order that
`remove_dir_all` finds them in. -/
def deleteOps (fs : FileSystem) (order : List StateFile) : List FileOp :=
  if fs.isSome then order.map .remove++[.removeDir] else []

/-- The file system holds what the store has stored. Without a root key nothing is stored,
whatever else is there. -/
def Stores (fs : FileSystem) : Option PersistedNodeState→Prop
  | none => contents fs .rootKey=none
  | some state => contents fs .rootKey=some state.rootKey ∧ state.rootKey.length=32 ∧
    contents fs .registration=state.registration.map serializeRegistration

end Files

section Foreign

/-- `WispersStatus`. -/
inductive WispersStatus where
  /-- 0 -/
  | success
  /-- 1 -/
  | nullPointer
  /-- 2 -/
  | invalidUtf8
  /-- 3 -/
  | storeError
  /-- 4 -/
  | alreadyRegistered
  /-- 5 -/
  | notRegistered
  /-- 6 -/
  | notFound
  /-- 7 -/
  | bufferTooSmall
  /-- 8 -/
  | missingCallback
  /-- 9 -/
  | invalidActivationCode
  /-- 10 -/
  | activationFailed
  /-- 11 -/
  | hubError
  /-- 12 -/
  | connectionFailed
  /-- 13 -/
  | timeout
  /-- 14 -/
  | invalidState
  /-- 15 -/
  | unauthenticated
  /-- 16 -/
  | peerRejected
  /-- 17 -/
  | peerUnavailable
  /-- 18 -/
  | revoked

/-- The number of a status. -/
def WispersStatus.code (status : WispersStatus) : ℕ := status.ctorIdx

/-- `WispersNodeStorageCallbacks`, all of them present. -/
structure Callbacks (σ : Type) where
  /-- For a buffer of some length: the status, and what was written to its front. -/
  loadRootKey : σ→ℕ→WispersStatus×Bytes×σ
  /-- The root key to keep. -/
  saveRootKey : σ→Bytes→WispersStatus×σ
  /-- The root key is given up. -/
  deleteRootKey : σ→WispersStatus×σ
  /-- For a buffer of some length and what `out_len` holds: the status, what was written to the
  front of the buffer, and what `out_len` holds then. -/
  loadRegistration : σ→ℕ→ℕ→WispersStatus×Bytes×ℕ×σ
  /-- The registration to keep. -/
  saveRegistration : σ→Bytes→WispersStatus×σ
  /-- The registration is given up. -/
  deleteRegistration : σ→WispersStatus×σ

variable {σ : Type} (C : Callbacks σ)

/-- A buffer with something written to its front. -/
def overwrite (buffer written : Bytes) : Bytes := written++buffer.drop written.length

/-- `Vec::resize` with zeros. -/
def resize (buffer : Bytes) (length : ℕ) : Bytes :=
  buffer.take length++List.replicate (length-buffer.length) 0

/-- `call_load_root_key`. -/
def callLoadRootKey (host : σ) : Except StorageError (Option Bytes)×σ :=
  let (status,written,host) := C.loadRootKey host 32
  match status with
  | .success => (.ok (some (overwrite (List.replicate 32 0) written)),host)
  | .notFound => (.ok none,host)
  | other => (.error (.foreignStatus other.code),host)

/-- What is made of the status of a save. -/
def savedReply (reply : WispersStatus×σ) : Except StorageError Unit×σ :=
  match reply.1 with
  | .success => (.ok (),reply.2)
  | other => (.error (.foreignStatus other.code),reply.2)

/-- What is made of the status of a deletion. -/
def deletedReply (reply : WispersStatus×σ) : Except StorageError Unit×σ :=
  match reply.1 with
  | .success | .notFound => (.ok (),reply.2)
  | other => (.error (.foreignStatus other.code),reply.2)

/-- `call_save_root_key`. -/
def callSaveRootKey (host : σ) (rootKey : Bytes) : Except StorageError Unit×σ :=
  savedReply (C.saveRootKey host rootKey)

/-- `call_delete_root_key`. -/
def callDeleteRootKey (host : σ) : Except StorageError Unit×σ := deletedReply (C.deleteRootKey host)

/-- `call_delete_registration`. -/
def callDeleteRegistration (host : σ) : Except StorageError Unit×σ :=
  deletedReply (C.deleteRegistration host)

/-- `serialize_registration_opt`. -/
def serializeRegistrationOpt : Option NodeRegistration→Bytes
  | some registration => serializeRegistration registration
  | none => []

/-- `deserialize_registration_opt`, `none` for an error. -/
def deserializeRegistrationOpt (bytes : Bytes) : Option (Option NodeRegistration) :=
  if bytes=[] then some none else (deserializeRegistration bytes).map some

/-- `call_save_registration`. -/
def callSaveRegistration (host : σ) (registration : Option NodeRegistration) :
    Except StorageError Unit×σ :=
  savedReply (C.saveRegistration host (serializeRegistrationOpt registration))

/-- The loop of `call_load_registration`; `none` when it takes more turns than given. -/
def loadRegistrationLoop : ℕ→σ→Bytes→ℕ→Option (Except StorageError (Option NodeRegistration)×σ)
  | 0,_,_,_ => none
  | turns+1,host,buffer,required =>
    let (status,written,required,host) := C.loadRegistration host buffer.length required
    let buffer := overwrite buffer written
    match status with
    | .success =>
      match deserializeRegistrationOpt (buffer.take required) with
      | some registration => some (.ok registration,host)
      | none => some (.ok none,(callDeleteRegistration C host).2)
    | .notFound => some (.ok none,host)
    | .bufferTooSmall =>
      if required=0 then some (.error (.foreignStatus WispersStatus.bufferTooSmall.code),host)
      else loadRegistrationLoop turns host (resize buffer required) required
    | other => some (.error (.foreignStatus other.code),host)

/-- `call_load_registration`. -/
def callLoadRegistration (turns : ℕ) (host : σ) :
    Option (Except StorageError (Option NodeRegistration)×σ) :=
  loadRegistrationLoop C turns host (List.replicate 256 0) 0

end Foreign

section Stores

/-- What `NodeStateStore` offers, over what an implementation keeps; `none` when a call does not
return. -/
structure NodeStateStore (σ : Type) where
  /-- `load` -/
  load : σ→Option (Except StorageError (Option PersistedNodeState)×σ)
  /-- `save` -/
  save : PersistedNodeState→σ→Option (Except StorageError Unit×σ)
  /-- `delete` -/
  delete : σ→Option (Except StorageError Unit×σ)

/-- `InMemoryNodeStateStore`; no holder of its lock panics. -/
def inMemoryStore : NodeStateStore (Option PersistedNodeState) where
  load := fun stored => some (.ok stored,stored)
  save := fun state _ => some (.ok (),some state)
  delete := fun _ => some (.ok (),none)

/-- `FileNodeStateStore`, where no file operation fails. -/
def fileStore : NodeStateStore FileSystem where
  load := fun fs => some (loadFiles fs)
  save := fun state fs => some (.ok (),applyOps fs (saveOps fs state))
  delete := fun fs => some (.ok (),applyOps fs (deleteOps fs (presentFiles fs)))

/-- `ForeignNodeStateStore`. -/
def foreignStore {σ : Type} (C : Callbacks σ) (turns : ℕ) : NodeStateStore σ where
  load := fun host =>
    match callLoadRootKey C host with
    | (.error e,host) => some (.error e,host)
    | (.ok none,host) => some (.ok none,host)
    | (.ok (some rootKey),host) => (callLoadRegistration C turns host).map fun
      | (.error e,host) => (.error e,host)
      | (.ok registration,host) => (.ok (some ⟨rootKey,registration⟩),host)
  save := fun state host =>
    match callSaveRootKey C host state.rootKey with
    | (.error e,host) => some (.error e,host)
    | (.ok (),host) => some (callSaveRegistration C host state.registration)
  delete := fun host =>
    match callDeleteRootKey C host with
    | (.error e,host) => some (.error e,host)
    | (.ok (),host) => some (callDeleteRegistration C host)

end Stores

end WispersConnect.NodeStores
