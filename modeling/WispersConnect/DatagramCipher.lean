import WispersConnect.Cryptography
import WispersConnect.MachineIntegers
import WispersConnect.Runs

/-!
# The datagram channel between two nodes

Each side encrypts under a key of its own direction, with a nonce made of a derived
prefix and a sequence number that concurrent calls take from an atomic counter. The
packet carries the number, from which the other side rebuilds the nonce; it keeps no
record of the numbers it has seen. HKDF and AES-GCM are parameters; where they are
ideal, inputs determine keys and a ciphertext decrypts under its own key only.
-/

namespace WispersConnect.DatagramCipher

open Messages Cryptography MachineIntegers Runs

/-- HKDF-SHA256 and AES-256-GCM. -/
structure DatagramCrypto where
  /-- A key of 32 bytes. -/
  Key : Type
  /-- HKDF of salt, secret and info, expanded to a key. -/
  expandKey : Bytes→Bytes→Bytes→Option Key
  /-- HKDF of salt, secret and info, expanded to so many bytes. -/
  expandBytes : Bytes→Bytes→Bytes→ℕ→Option Bytes
  /-- The ciphertext with its tag, for key, nonce, associated data and plaintext. -/
  aeadEncrypt : Key→Bytes→Bytes→Bytes→Option Bytes
  /-- The plaintext, for key, nonce, associated data and ciphertext. -/
  aeadDecrypt : Key→Bytes→Bytes→Bytes→Option Bytes

/-- `EncryptionError`. -/
inductive EncryptionError where
  /-- HKDF expand failed. -/
  | hkdf
  /-- Encryption failed. -/
  | encrypt
  /-- Decryption failed. -/
  | decrypt
  /-- The packet is too short. -/
  | packetTooShort
  deriving DecidableEq

/-- `PRK_INFO_CALLER_TO_ANSWERER`. -/
def prkInfoCallerToAnswerer : Bytes := literalBytes "wispers-p2p-v1|c2a"

/-- `PRK_INFO_ANSWERER_TO_CALLER`. -/
def prkInfoAnswererToCaller : Bytes := literalBytes "wispers-p2p-v1|a2c"

/-- `NONCE_PREFIX_INFO`. -/
def noncePrefixInfo : Bytes := literalBytes "wispers-p2p-v1|np"

/-- `AAD_PREFIX`. -/
def aadPrefix : Bytes := literalBytes "wispers-p2p-v1|a"

/-- `build_nonce`. -/
def buildNonce (noncePrefix : Bytes) (seqno : UInt64) : Bytes := noncePrefix++u64LeBytes seqno

/-- `build_aad`. -/
def buildAad (seqno : UInt64) : Bytes := aadPrefix++u64LeBytes seqno

/-- `Encrypter`. -/
structure Encrypter (C : DatagramCrypto) where
  /-- The key of its direction. -/
  aeadKey : C.Key
  /-- The front of its nonces. -/
  noncePrefix : Bytes
  /-- The next sequence number. -/
  seqno : UInt64

/-- `Decrypter`. -/
structure Decrypter (C : DatagramCrypto) where
  /-- The key of the other direction. -/
  aeadKey : C.Key
  /-- The front of its nonces. -/
  noncePrefix : Bytes

/-- `P2pCipher`. -/
structure P2pCipher (C : DatagramCrypto) where
  /-- For what is sent. -/
  encrypter : Encrypter C
  /-- For what is received. -/
  decrypter : Decrypter C

section Ciphers

/-- `map_err` on a call of one of the two. -/
def orError {α : Type} (result : Option α) (error : EncryptionError) : Except EncryptionError α :=
  match result with
  | some value => .ok value
  | none => .error error

variable {C : DatagramCrypto}

/-- The atomic `fetch_add` of `Encrypter::encrypt`, which wraps. -/
def Encrypter.fetchSeqno (encrypter : Encrypter C) : UInt64×Encrypter C :=
  (encrypter.seqno,{encrypter with seqno := encrypter.seqno+1})

/-- `Encrypter::encrypt` once it has its sequence number. -/
def Encrypter.sealPacket (encrypter : Encrypter C) (seqno : UInt64) (plaintext : Bytes) :
    Except EncryptionError Bytes :=
  (orError (C.aeadEncrypt encrypter.aeadKey (buildNonce encrypter.noncePrefix seqno)
    (buildAad seqno) plaintext) .encrypt).map fun ciphertext => u64LeBytes seqno++ciphertext

/-- `Decrypter::decrypt`. -/
def Decrypter.decrypt (decrypter : Decrypter C) (packet : Bytes) : Except EncryptionError Bytes :=
  if packet.length<8 then .error .packetTooShort
  else
    let seqno := u64FromLeBytes (packet.take 8)
    orError (C.aeadDecrypt decrypter.aeadKey (buildNonce decrypter.noncePrefix seqno)
      (buildAad seqno) (packet.drop 8)) .decrypt

variable (C)

/-- `derive_direction_keys`. -/
def deriveDirectionKeys (sharedSecret connectionId directionInfo : Bytes) :
    Except EncryptionError (C.Key×Bytes) := do
  let aeadKey ← orError (C.expandKey connectionId sharedSecret directionInfo) .hkdf
  let noncePrefix ← orError (C.expandBytes connectionId sharedSecret
    (noncePrefixInfo++directionInfo) 4) .hkdf
  .ok (aeadKey,noncePrefix)

/-- The cipher that sends under one direction's keys and receives under the other's. -/
def directedCipher (sharedSecret : Bytes) (connectionId : Int64) (sendInfo recvInfo : Bytes) :
    Except EncryptionError (P2pCipher C) := do
  let send ← deriveDirectionKeys C sharedSecret (i64LeBytes connectionId) sendInfo
  let recv ← deriveDirectionKeys C sharedSecret (i64LeBytes connectionId) recvInfo
  .ok ⟨⟨send.1,send.2,0⟩,⟨recv.1,recv.2⟩⟩

/-- `P2pCipher::new_caller`. -/
def newCaller (sharedSecret : Bytes) (connectionId : Int64) :
    Except EncryptionError (P2pCipher C) :=
  directedCipher C sharedSecret connectionId prkInfoCallerToAnswerer prkInfoAnswererToCaller

/-- `P2pCipher::new_answerer`. -/
def newAnswerer (sharedSecret : Bytes) (connectionId : Int64) :
    Except EncryptionError (P2pCipher C) :=
  directedCipher C sharedSecret connectionId prkInfoAnswererToCaller prkInfoCallerToAnswerer

/-- HKDF gives independent keys, and AES-GCM decrypts what it encrypted and nothing else. -/
structure Ideal : Prop where
  /-- A key can always be derived. -/
  expandsKey : ∀ salt secret info,∃ key,C.expandKey salt secret info=some key
  /-- Four bytes can be expanded from any secret. -/
  expandsBytes : ∀ salt secret info,∃ bytes,C.expandBytes salt secret info 4=some bytes ∧
    bytes.length=4
  /-- Keys from different secrets or labels, or different salts of eight bytes, differ. -/
  independent : ∀ salt salt' secret secret' info info' key,salt.length=8 → salt'.length=8 →
    C.expandKey salt secret info=some key → C.expandKey salt' secret' info'=some key →
      salt=salt' ∧ secret=secret' ∧ info=info'
  /-- What was encrypted is decrypted again. -/
  decrypts : ∀ key nonce aad plaintext ciphertext,
    C.aeadEncrypt key nonce aad plaintext=some ciphertext →
      C.aeadDecrypt key nonce aad ciphertext=some plaintext
  /-- It is not decrypted under another key. -/
  authentic : ∀ key key' nonce nonce' aad aad' plaintext plaintext' ciphertext,
    C.aeadEncrypt key nonce aad plaintext=some ciphertext →
      C.aeadDecrypt key' nonce' aad' ciphertext=some plaintext' → key'=key

end Ciphers

section Channel

/-- The two sides. -/
inductive Side where
  /-- The caller. -/
  | caller
  /-- The answerer. -/
  | answerer
  deriving DecidableEq

/-- The other side. -/
def Side.other : Side→Side
  | .caller => .answerer
  | .answerer => .caller

/-- A call of `encrypt` that has its sequence number. -/
structure Encrypting where
  /-- The side it was made on. -/
  side : Side
  /-- Its sequence number. -/
  seqno : UInt64
  /-- What it encrypts. -/
  plaintext : Bytes

/-- The two ciphers, and the calls under way. -/
structure Channel (C : DatagramCrypto) where
  /-- The cipher of each side. -/
  ciphers : Side→P2pCipher C
  /-- The tasks inside `encrypt`. -/
  tasks : ℕ→Option Encrypting

/-- What happens on the channel. -/
inductive ChannelEvent where
  /-- A call of `encrypt` takes a sequence number. -/
  | called (side : Side) (seqno : UInt64)
  /-- A call returns. -/
  | returned (side : Side) (seqno : UInt64) (plaintext : Bytes) (result : Except EncryptionError Bytes)
  /-- The network delivers a packet, and `decrypt` returns. -/
  | delivered (side : Side) (packet : Bytes) (result : Except EncryptionError Bytes)

variable {C : DatagramCrypto}

/-- The channel with one side's sequence number taken. -/
def Channel.fetch (channel : Channel C) (side : Side) : Side→P2pCipher C :=
  Function.update channel.ciphers side
    {channel.ciphers side with encrypter := ((channel.ciphers side).encrypter.fetchSeqno).2}

/-- One step of a task or of the network, which may deliver anything. -/
inductive ChannelStep (before : Channel C) : ChannelEvent→Channel C→Prop where
  /-- A task calls `encrypt`. -/
  | called {side : Side} {task : ℕ} {plaintext : Bytes} (idle : before.tasks task=none) :
      ChannelStep before (.called side ((before.ciphers side).encrypter.fetchSeqno).1)
        ⟨before.fetch side,Function.update before.tasks task
          (some ⟨side,((before.ciphers side).encrypter.fetchSeqno).1,plaintext⟩)⟩
  /-- The call returns. -/
  | returned {task : ℕ} {call : Encrypting} (under : before.tasks task=some call) :
      ChannelStep before (.returned call.side call.seqno call.plaintext
          ((before.ciphers call.side).encrypter.sealPacket call.seqno call.plaintext))
        {before with tasks := Function.update before.tasks task none}
  /-- A packet arrives. -/
  | delivered {side : Side} {packet : Bytes} :
      ChannelStep before (.delivered side packet ((before.ciphers side).decrypter.decrypt packet))
        before

/-- The channel before anything is sent. -/
def opened (caller answerer : P2pCipher C) : Channel C :=
  ⟨fun
    | .caller => caller
    | .answerer => answerer,fun _ => none⟩

/-- The runs of a channel. -/
abbrev ChannelRun (start : Channel C) : List ChannelEvent→Channel C→Prop :=
  Run (fun _ before event after => ChannelStep before event after) start

/-- Whether an event is a call on a side. -/
def isCall (side : Side) : ChannelEvent→Bool
  | .called side' _ => side'=side
  | _ => false

/-- The calls of `encrypt` on a side. -/
def calls (side : Side) (log : List ChannelEvent) : ℕ := log.countP (isCall side)

end Channel

end WispersConnect.DatagramCipher
