import WispersConnect.DatagramCipher
import WispersConnect.PartialMaps
import WispersConnect.WireDecoding

/-!
# Delivery of datagrams

The sequence numbers that the calls of one side take are all different until the
counter wraps, so no nonce is used twice under a key. The two sides hold each
other's keys, and other secrets and connections have other keys: a packet decrypts
at the other side only, in whatever order packets arrive. It does so as often as it
arrives, since the receiver keeps no record.
-/

namespace WispersConnect.DatagramDelivery

open Messages Cryptography MachineIntegers PartialMaps Runs WireFormat WireDecoding DatagramCipher

section Ciphers

variable {C : DatagramCrypto}

/-- A result that is there. -/
theorem orError_eq_ok {α : Type} {result : Option α} {error : EncryptionError} {value : α} :
    orError result error=.ok value ↔ result=some value := by
  cases result with
  | none => exact ⟨fun h => (by cases h),fun h => (by cases h)⟩
  | some found =>
    exact ⟨fun h => congrArg some (Except.ok.inj h),fun h => congrArg Except.ok (Option.some.inj h)⟩

/-- A packet is the sequence number and the ciphertext. -/
theorem sealPacket_eq_ok {encrypter : Encrypter C} {seqno : UInt64} {plaintext packet : Bytes} :
    encrypter.sealPacket seqno plaintext=.ok packet ↔
      ∃ ciphertext,C.aeadEncrypt encrypter.aeadKey (buildNonce encrypter.noncePrefix seqno)
        (buildAad seqno) plaintext=some ciphertext ∧ packet=u64LeBytes seqno++ciphertext := by
  unfold Encrypter.sealPacket
  cases hencrypt : C.aeadEncrypt encrypter.aeadKey (buildNonce encrypter.noncePrefix seqno)
      (buildAad seqno) plaintext with
  | none => exact ⟨fun h => (by cases h),fun ⟨_,h,_⟩ => (by cases h)⟩
  | some ciphertext =>
    constructor
    · intro h
      exact ⟨ciphertext,rfl,(Except.ok.inj h).symm⟩
    · rintro ⟨_,⟨⟩,rfl⟩
      rfl

/-- A packet's parts are found in it again. -/
theorem decrypt_packet (decrypter : Decrypter C) (seqno : UInt64) (ciphertext : Bytes) :
    decrypter.decrypt (u64LeBytes seqno++ciphertext)=
      orError (C.aeadDecrypt decrypter.aeadKey (buildNonce decrypter.noncePrefix seqno)
        (buildAad seqno) ciphertext) .decrypt := by
  have hlength : (u64LeBytes seqno).length=8 := length_leBytes 8 seqno.toNat
  have htake : (u64LeBytes seqno++ciphertext).take 8=u64LeBytes seqno := List.take_left' hlength
  have hdrop : (u64LeBytes seqno++ciphertext).drop 8=ciphertext := List.drop_left' hlength
  have hlong : ¬(u64LeBytes seqno++ciphertext).length<8 := by
    rw [List.length_append,hlength]
    omega
  unfold Decrypter.decrypt
  rw [if_neg hlong,htake,hdrop,u64FromLeBytes_u64LeBytes]

/-- What is decrypted under the keys it was encrypted with is the plaintext. -/
theorem decrypt_sealPacket (ideal : Ideal C) {encrypter : Encrypter C} {decrypter : Decrypter C}
    (hkey : decrypter.aeadKey=encrypter.aeadKey)
    (hnonce : decrypter.noncePrefix=encrypter.noncePrefix) {seqno : UInt64}
    {plaintext packet : Bytes} (h : encrypter.sealPacket seqno plaintext=.ok packet) :
    decrypter.decrypt packet=.ok plaintext := by
  obtain ⟨ciphertext,hencrypt,rfl⟩ := sealPacket_eq_ok.mp h
  have hdecrypt := ideal.decrypts _ _ _ _ _ hencrypt
  rw [decrypt_packet,hkey,hnonce]
  exact orError_eq_ok.mpr hdecrypt

/-- Under another key nothing is decrypted. -/
theorem decrypt_other_key (ideal : Ideal C) {encrypter : Encrypter C} {decrypter : Decrypter C}
    (hkey : decrypter.aeadKey≠encrypter.aeadKey) {seqno : UInt64} {plaintext packet : Bytes}
    (h : encrypter.sealPacket seqno plaintext=.ok packet) :
    decrypter.decrypt packet=.error .decrypt := by
  obtain ⟨ciphertext,hencrypt,rfl⟩ := sealPacket_eq_ok.mp h
  rw [decrypt_packet]
  cases hdecrypt : C.aeadDecrypt decrypter.aeadKey (buildNonce decrypter.noncePrefix seqno)
      (buildAad seqno) ciphertext with
  | none => rfl
  | some other => exact absurd (ideal.authentic _ _ _ _ _ _ _ _ _ hencrypt hdecrypt) hkey

/-- Where the keys of a direction come from. -/
theorem deriveDirectionKeys_eq_ok {sharedSecret connectionId directionInfo : Bytes}
    {keys : C.Key×Bytes} :
    deriveDirectionKeys C sharedSecret connectionId directionInfo=.ok keys ↔
      C.expandKey connectionId sharedSecret directionInfo=some keys.1 ∧
        C.expandBytes connectionId sharedSecret (noncePrefixInfo++directionInfo) 4=some keys.2 := by
  unfold deriveDirectionKeys
  cases hkey : C.expandKey connectionId sharedSecret directionInfo with
  | none => exact ⟨fun h => (by cases h),fun h => (by cases h.1)⟩
  | some key =>
    cases hbytes : C.expandBytes connectionId sharedSecret (noncePrefixInfo++directionInfo) 4 with
    | none => exact ⟨fun h => (by cases h),fun h => (by cases h.2)⟩
    | some bytes =>
      constructor
      · intro h
        obtain rfl := Except.ok.inj h
        exact ⟨rfl,rfl⟩
      · rintro ⟨h,h'⟩
        obtain rfl := Option.some.inj h
        obtain rfl := Option.some.inj h'
        rfl

/-- Where the keys of a cipher come from. -/
structure Directed (C : DatagramCrypto) (sharedSecret : Bytes) (connectionId : Int64)
    (sendInfo recvInfo : Bytes) (cipher : P2pCipher C) : Prop where
  /-- The key for sending. -/
  sendKey : C.expandKey (i64LeBytes connectionId) sharedSecret sendInfo=
    some cipher.encrypter.aeadKey
  /-- The front of the nonces for sending. -/
  sendPrefix : C.expandBytes (i64LeBytes connectionId) sharedSecret (noncePrefixInfo++sendInfo) 4=
    some cipher.encrypter.noncePrefix
  /-- The key for receiving. -/
  recvKey : C.expandKey (i64LeBytes connectionId) sharedSecret recvInfo=
    some cipher.decrypter.aeadKey
  /-- The front of the nonces for receiving. -/
  recvPrefix : C.expandBytes (i64LeBytes connectionId) sharedSecret (noncePrefixInfo++recvInfo) 4=
    some cipher.decrypter.noncePrefix
  /-- Sequence numbers start at zero. -/
  seqno : cipher.encrypter.seqno=0

/-- A cipher is made of derived keys. -/
theorem directedCipher_eq_ok {sharedSecret : Bytes} {connectionId : Int64}
    {sendInfo recvInfo : Bytes} {cipher : P2pCipher C}
    (h : directedCipher C sharedSecret connectionId sendInfo recvInfo=.ok cipher) :
    Directed C sharedSecret connectionId sendInfo recvInfo cipher := by
  unfold directedCipher at h
  cases hsend : deriveDirectionKeys C sharedSecret (i64LeBytes connectionId) sendInfo with
  | error e =>
    rw [hsend] at h
    cases h
  | ok send =>
    cases hrecv : deriveDirectionKeys C sharedSecret (i64LeBytes connectionId) recvInfo with
    | error e =>
      rw [hsend,hrecv] at h
      cases h
    | ok recv =>
      rw [hsend,hrecv] at h
      obtain rfl := Except.ok.inj h
      obtain ⟨hsendKey,hsendPrefix⟩ := deriveDirectionKeys_eq_ok.mp hsend
      obtain ⟨hrecvKey,hrecvPrefix⟩ := deriveDirectionKeys_eq_ok.mp hrecv
      exact ⟨hsendKey,hsendPrefix,hrecvKey,hrecvPrefix,rfl⟩

/-- The two directions have different labels. -/
theorem directions_differ : prkInfoCallerToAnswerer≠prkInfoAnswererToCaller := by decide

/-- Keys of different derivations differ. -/
theorem keys_differ (ideal : Ideal C) {secret secret' info info' : Bytes} {id id' : Int64}
    {key key' : C.Key} (h : C.expandKey (i64LeBytes id) secret info=some key)
    (h' : C.expandKey (i64LeBytes id') secret' info'=some key')
    (hne : ¬(id=id' ∧ secret=secret' ∧ info=info')) : key≠key' := by
  rintro rfl
  have hlength : ∀ id : Int64,(i64LeBytes id).length=8 := fun id => length_leBytes 8 _
  obtain ⟨hsalt,hsecret,hinfo⟩ :=
    ideal.independent _ _ _ _ _ _ _ (hlength id) (hlength id') h h'
  exact hne ⟨i64LeBytes_inj.mp hsalt,hsecret,hinfo⟩

end Ciphers

section Counters

variable {C : DatagramCrypto} {start state : Channel C} {log : List ChannelEvent}

/-- A side's key and nonce prefix for sending, and all it has for receiving, stay as they are. -/
structure SameKeys (start state : Channel C) : Prop where
  /-- The key for sending. -/
  sendKey : ∀ side,(state.ciphers side).encrypter.aeadKey=(start.ciphers side).encrypter.aeadKey
  /-- The front of the nonces for sending. -/
  sendPrefix : ∀ side,
    (state.ciphers side).encrypter.noncePrefix=(start.ciphers side).encrypter.noncePrefix
  /-- The other direction. -/
  decrypter : ∀ side,(state.ciphers side).decrypter=(start.ciphers side).decrypter

/-- What a side's cipher is after a sequence number was taken. -/
theorem fetch_ciphers (channel : Channel C) (taker side : Side) :
    ((channel.fetch taker) side).encrypter.aeadKey=(channel.ciphers side).encrypter.aeadKey ∧
      ((channel.fetch taker) side).encrypter.noncePrefix=
        (channel.ciphers side).encrypter.noncePrefix ∧
      ((channel.fetch taker) side).decrypter=(channel.ciphers side).decrypter ∧
      ((channel.fetch taker) side).encrypter.seqno=
        if side=taker then (channel.ciphers side).encrypter.seqno+1
        else (channel.ciphers side).encrypter.seqno := by
  unfold Channel.fetch
  by_cases hside : side=taker
  · subst hside
    rw [Function.update_self,if_pos rfl]
    exact ⟨rfl,rfl,rfl,rfl⟩
  · rw [Function.update_of_ne hside,if_neg hside]
    exact ⟨rfl,rfl,rfl,rfl⟩

/-- No step changes a key. -/
theorem ChannelRun.sameKeys (run : ChannelRun start log state) : SameKeys start state := by
  refine run.invariant (motive:=fun _ state => SameKeys start state)
    ⟨fun _ => rfl,fun _ => rfl,fun _ => rfl⟩ ?_
  rintro _ before event after _ ⟨hsend,hnonce,hrecv⟩ hstep
  cases hstep with
  | @called taker task plaintext idle =>
    refine ⟨fun side => ?_,fun side => ?_,fun side => ?_⟩
    · exact (fetch_ciphers before taker side).1.trans (hsend side)
    · exact (fetch_ciphers before taker side).2.1.trans (hnonce side)
    · exact (fetch_ciphers before taker side).2.2.1.trans (hrecv side)
  | returned | delivered => exact ⟨hsend,hnonce,hrecv⟩

/-- A sequence number was taken by one of so many calls. -/
def Taken (n : ℕ) (seqno : UInt64) : Prop := ∃ k,k<n ∧ seqno=UInt64.ofNat k

/-- What was taken by so many calls was taken by more. -/
theorem Taken.mono {m n : ℕ} {seqno : UInt64} (h : Taken m seqno) (hle : m≤n) :
    Taken n seqno := by
  obtain ⟨k,hk,rfl⟩ := h
  exact ⟨k,Nat.lt_of_lt_of_le hk hle,rfl⟩

/-- The next sequence number was not taken before, until the counter wraps. -/
theorem not_taken {n : ℕ} (hfew : n<UInt64.size) : ¬Taken n (UInt64.ofNat n) := by
  rintro ⟨k,hk,heq⟩
  have htoNat := congrArg UInt64.toNat heq
  rw [UInt64.toNat_ofNat_of_lt' hfew,UInt64.toNat_ofNat_of_lt' (Nat.lt_trans hk hfew)] at htoNat
  omega

/-- A call returned with this sequence number. -/
def Returned (log : List ChannelEvent) (side : Side) (seqno : UInt64) : Prop :=
  ∃ plaintext result,.returned side seqno plaintext result∈log

/-- The sequence numbers in use are those that were taken, each by one call. -/
structure Counted (log : List ChannelEvent) (state : Channel C) : Prop where
  /-- The counter has been moved by every call. -/
  counter : ∀ side,(state.ciphers side).encrypter.seqno=UInt64.ofNat (calls side log)
  /-- Calls under way have theirs from it. -/
  under : ∀ task call,state.tasks task=some call → Taken (calls call.side log) call.seqno
  /-- The calls that returned have taken their sequence numbers. -/
  finished : ∀ side seqno,Returned log side seqno → Taken (calls side log) seqno
  /-- Calls under way have different ones. -/
  apart : ∀ task task' call call',state.tasks task=some call → state.tasks task'=some call' →
    call.side=call'.side → call.seqno=call'.seqno → task=task'
  /-- They are not those of calls that returned. -/
  unreturned : ∀ task call,state.tasks task=some call → ¬Returned log call.side call.seqno

/-- A call is counted on its side. -/
theorem calls_called (side taker : Side) (log : List ChannelEvent) (seqno : UInt64) :
    calls side (log++[.called taker seqno])=calls side log+if side=taker then 1 else 0 := by
  unfold calls
  rw [List.countP_append,List.countP_singleton]
  by_cases hside : side=taker
  · have hcall : isCall side (.called taker seqno)=true := decide_eq_true hside.symm
    rw [if_pos hside,if_pos hcall]
  · have hother : ¬isCall side (.called taker seqno)=true :=
      fun heq => hside (of_decide_eq_true heq).symm
    rw [if_neg hside,if_neg hother]

/-- Other events are not counted. -/
theorem calls_other {side : Side} {event : ChannelEvent} (h : isCall side event=false)
    (log : List ChannelEvent) : calls side (log++[event])=calls side log := by
  unfold calls
  rw [List.countP_append,List.countP_singleton,h]
  rfl

/-- What returned, before an event or with it. -/
theorem returned_concat {event : ChannelEvent} {side : Side} {seqno : UInt64} :
    Returned (log++[event]) side seqno ↔ Returned log side seqno ∨
      ∃ plaintext result,event=.returned side seqno plaintext result := by
  constructor
  · rintro ⟨plaintext,result,hmem⟩
    rcases List.mem_append.mp hmem with hold|hnew
    · exact .inl ⟨plaintext,result,hold⟩
    · exact .inr ⟨plaintext,result,(List.mem_singleton.mp hnew).symm⟩
  · rintro (⟨plaintext,result,hold⟩|⟨plaintext,result,rfl⟩)
    · exact ⟨plaintext,result,List.mem_append_left _ hold⟩
    · exact ⟨plaintext,result,List.mem_append_right _ List.mem_cons_self⟩

/-- An event that is no return returns nothing. -/
theorem returned_other {event : ChannelEvent} {side : Side} {seqno : UInt64}
    (hother : ∀ plaintext result,event≠.returned side seqno plaintext result)
    (h : Returned (log++[event]) side seqno) : Returned log side seqno := by
  rcases returned_concat.mp h with hold|⟨plaintext,result,hnew⟩
  · exact hold
  · exact absurd hnew (hother plaintext result)

/-- No event takes a call back. -/
theorem calls_le (side : Side) (log : List ChannelEvent) (event : ChannelEvent) :
    calls side log≤calls side (log++[event]) :=
  List.Sublist.countP_le (List.sublist_append_left log [event])

/-- A call takes a number that no other has, until the counter wraps. -/
theorem Counted.called {before : Channel C} (h : Counted log before) {taker : Side}
    (hfew : calls taker log<UInt64.size) (task : ℕ) (plaintext : Bytes) :
    Counted (log++[.called taker ((before.ciphers taker).encrypter.fetchSeqno).1])
      ⟨before.fetch taker,Function.update before.tasks task
        (some ⟨taker,((before.ciphers taker).encrypter.fetchSeqno).1,plaintext⟩)⟩ := by
  have hnext : ((before.ciphers taker).encrypter.fetchSeqno).1=
      UInt64.ofNat (calls taker log) := h.counter taker
  have hfresh : ¬Taken (calls taker log) ((before.ciphers taker).encrypter.fetchSeqno).1 := by
    rw [hnext]
    exact not_taken hfew
  have hreturned : ∀ {side seqno},Returned
      (log++[.called taker ((before.ciphers taker).encrypter.fetchSeqno).1]) side seqno →
        Returned log side seqno := fun hret => returned_other (fun _ _ heq => by cases heq) hret
  refine ⟨fun side => ?_,fun other call hother => ?_,fun side seqno hret => ?_,
    fun other other' call call' hother hother' hside hseqno => ?_,fun other call hother hret => ?_⟩
  · refine (fetch_ciphers before taker side).2.2.2.trans ?_
    rw [calls_called,h.counter]
    by_cases hside : side=taker
    · rw [if_pos hside,if_pos hside,UInt64.ofNat_add]
      rfl
    · rw [if_neg hside,if_neg hside,Nat.add_zero]
  · rcases update_some_eq_some.mp hother with ⟨rfl,rfl⟩|⟨_,hold⟩
    · refine ⟨calls taker log,?_,hnext⟩
      rw [calls_called,if_pos rfl]
      exact Nat.lt_succ_self _
    · exact (h.under other call hold).mono (calls_le _ _ _)
  · exact (h.finished side seqno (hreturned hret)).mono (calls_le _ _ _)
  · rcases update_some_eq_some.mp hother with ⟨rfl,rfl⟩|⟨_,hold⟩
    · rcases update_some_eq_some.mp hother' with ⟨rfl,rfl⟩|⟨_,hold'⟩
      · rfl
      · have htaken := h.under other' call' hold'
        rw [←hside,←hseqno] at htaken
        exact absurd htaken hfresh
    · rcases update_some_eq_some.mp hother' with ⟨rfl,rfl⟩|⟨_,hold'⟩
      · have htaken := h.under other call hold
        rw [hside,hseqno] at htaken
        exact absurd htaken hfresh
      · exact h.apart other other' call call' hold hold' hside hseqno
  · rcases update_some_eq_some.mp hother with ⟨rfl,rfl⟩|⟨_,hold⟩
    · exact hfresh (h.finished _ _ (hreturned hret))
    · exact h.unreturned other call hold (hreturned hret)

/-- A call returns with the number that it took. -/
theorem Counted.returned {before : Channel C} (h : Counted log before) {task : ℕ}
    {call : Encrypting} (under : before.tasks task=some call)
    (result : Except EncryptionError Bytes) :
    Counted (log++[.returned call.side call.seqno call.plaintext result])
      {before with tasks := Function.update before.tasks task none} := by
  have hcalls : ∀ side,calls side
      (log++[.returned call.side call.seqno call.plaintext result])=calls side log :=
    fun _ => calls_other rfl log
  refine ⟨fun side => ?_,fun other call' hother => ?_,fun side seqno hret => ?_,
    fun other other' call' call'' hother hother' => ?_,fun other call' hother hret => ?_⟩
  · rw [hcalls]
    exact h.counter side
  · rw [hcalls]
    exact h.under other call' (update_none_eq_some.mp hother).2
  · rw [hcalls]
    rcases returned_concat.mp hret with hold|⟨_,_,hnew⟩
    · exact h.finished side seqno hold
    · obtain ⟨rfl,rfl,_,_⟩ := ChannelEvent.returned.inj hnew
      exact h.under task call under
  · exact h.apart other other' call' call'' (update_none_eq_some.mp hother).2 (update_none_eq_some.mp hother').2
  · obtain ⟨hne,hold⟩ := update_none_eq_some.mp hother
    rcases returned_concat.mp hret with hret|⟨_,_,hnew⟩
    · exact h.unreturned other call' hold hret
    · obtain ⟨hside,hseqno,_,_⟩ := ChannelEvent.returned.inj hnew
      exact hne (h.apart other task call' call hold under hside.symm hseqno.symm)

/-- A delivery changes nothing. -/
theorem Counted.delivered {before : Channel C} (h : Counted log before) (side : Side)
    (packet : Bytes) (result : Except EncryptionError Bytes) :
    Counted (log++[.delivered side packet result]) before := by
  have hcalls : ∀ side',calls side' (log++[.delivered side packet result])=calls side' log :=
    fun _ => calls_other rfl log
  have hreturned : ∀ {side' seqno},Returned (log++[.delivered side packet result]) side' seqno →
      Returned log side' seqno := fun hret => returned_other (fun _ _ heq => by cases heq) hret
  refine ⟨fun side' => ?_,fun task call hcall => ?_,fun side' seqno hret => ?_,h.apart,
    fun task call hcall hret => h.unreturned task call hcall (hreturned hret)⟩
  · rw [hcalls]
    exact h.counter side'
  · rw [hcalls]
    exact h.under task call hcall
  · rw [hcalls]
    exact h.finished side' seqno (hreturned hret)

/-- Each step keeps the sequence numbers counted, until the counter wraps. -/
theorem Counted.step {before after : Channel C} {event : ChannelEvent} (h : Counted log before)
    (hfew : ∀ side,calls side log<UInt64.size) (hstep : ChannelStep before event after) :
    Counted (log++[event]) after := by
  cases hstep with
  | @called taker task plaintext idle => exact h.called (hfew taker) task plaintext
  | @returned task call under => exact h.returned under _
  | @delivered side packet => exact h.delivered side packet _

/-- Every run keeps the sequence numbers counted, until a counter wraps. -/
theorem ChannelRun.counted {caller answerer : P2pCipher C} (hcaller : caller.encrypter.seqno=0)
    (hanswerer : answerer.encrypter.seqno=0)
    (run : ChannelRun (opened caller answerer) log state)
    (hfew : ∀ side,calls side log<UInt64.size) : Counted log state := by
  refine run.invariant (motive:=fun log state =>
    (∀ side,calls side log<UInt64.size) → Counted log state) ?_ ?_ hfew
  · intro _
    refine ⟨fun side => ?_,fun _ _ h => (by cases h),fun _ _ h => ?_,fun _ _ _ _ h => (by cases h),
      fun _ _ h => (by cases h)⟩
    · cases side with
      | caller => exact hcaller
      | answerer => exact hanswerer
    · obtain ⟨_,_,hmem⟩ := h
      cases hmem
  · intro log before event after _ ih hstep hall
    have hbefore : ∀ side,calls side log<UInt64.size := fun side =>
      Nat.lt_of_le_of_lt (calls_le side log event) (hall side)
    exact (ih hbefore).step hbefore hstep

/-- Sealing depends on the key and the front of the nonces. -/
theorem sealPacket_congr {encrypter encrypter' : Encrypter C}
    (hkey : encrypter.aeadKey=encrypter'.aeadKey)
    (hnonce : encrypter.noncePrefix=encrypter'.noncePrefix) (seqno : UInt64) (plaintext : Bytes) :
    encrypter.sealPacket seqno plaintext=encrypter'.sealPacket seqno plaintext := by
  unfold Encrypter.sealPacket
  rw [hkey,hnonce]

/-- What a call returned is what its side's cipher makes of its sequence number. -/
theorem ChannelRun.returned_eq (run : ChannelRun start log state) {i : ℕ} {side : Side}
    {seqno : UInt64} {plaintext : Bytes} {result : Except EncryptionError Bytes}
    (h : log[i]?=some (.returned side seqno plaintext result)) :
    (start.ciphers side).encrypter.sealPacket seqno plaintext=result := by
  obtain ⟨before,after,hbefore,hstep,_⟩ := run.at h
  have hsame := ChannelRun.sameKeys hbefore
  cases hstep with
  | @returned task call under =>
    exact (sealPacket_congr (hsame.sendKey call.side) (hsame.sendPrefix call.side) _ _).symm

/-- What became of a packet is what its receiver's cipher makes of it. -/
theorem ChannelRun.delivered_eq (run : ChannelRun start log state) {i : ℕ} {side : Side}
    {packet : Bytes} {result : Except EncryptionError Bytes}
    (h : log[i]?=some (.delivered side packet result)) :
    (start.ciphers side).decrypter.decrypt packet=result := by
  obtain ⟨before,after,hbefore,hstep,_⟩ := run.at h
  have hsame := ChannelRun.sameKeys hbefore
  cases hstep with
  | delivered => rw [hsame.decrypter side]

/-- No two calls of a side return with the same sequence number. -/
theorem ChannelRun.returned_once {caller answerer : P2pCipher C}
    (hcaller : caller.encrypter.seqno=0) (hanswerer : answerer.encrypter.seqno=0)
    (run : ChannelRun (opened caller answerer) log state)
    (hfew : ∀ side,calls side log<UInt64.size) {i j : ℕ} {side : Side} {seqno : UInt64}
    {plaintext plaintext' : Bytes} {result result' : Except EncryptionError Bytes}
    (hi : log[i]?=some (.returned side seqno plaintext result))
    (hj : log[j]?=some (.returned side seqno plaintext' result')) : i=j := by
  have hbefore : ∀ {i j : ℕ} {plaintext plaintext' result result'},
      log[i]?=some (.returned side seqno plaintext result) →
        log[j]?=some (.returned side seqno plaintext' result') → ¬i<j := by
    intro i j plaintext plaintext' result result' hi hj hlt
    obtain ⟨before,after,hrun,hstep,_⟩ := run.at hj
    have hmem : Returned (log.take j) side seqno := ⟨_,_,mem_take_iff.mpr ⟨i,hlt,hi⟩⟩
    have hcounted := ChannelRun.counted hcaller hanswerer hrun fun side =>
      Nat.lt_of_le_of_lt (List.Sublist.countP_le (List.take_sublist j log)) (hfew side)
    cases hstep with
    | @returned task call under => exact hcounted.unreturned task call under hmem
  have hleft := hbefore hi hj
  have hright := hbefore hj hi
  omega

end Counters

section Delivery

variable {C : DatagramCrypto}

/-- A packet that one side returned is decrypted to its plaintext at the other. -/
def Delivers (log : List ChannelEvent) : Prop :=
  ∀ (i j : ℕ) (side : Side) (seqno : UInt64) (plaintext packet : Bytes)
    (result : Except EncryptionError Bytes),
    log[i]?=some (.returned side seqno plaintext (.ok packet)) →
      log[j]?=some (.delivered side.other packet result) → result=.ok plaintext

/-- No two calls encrypt with the same key and nonce. -/
def NoncesOnce (start : Channel C) (log : List ChannelEvent) : Prop :=
  ∀ (i j : ℕ) (side side' : Side) (seqno seqno' : UInt64) (plaintext plaintext' : Bytes)
    (result result' : Except EncryptionError Bytes),
    log[i]?=some (.returned side seqno plaintext result) →
      log[j]?=some (.returned side' seqno' plaintext' result') →
        (start.ciphers side).encrypter.aeadKey=(start.ciphers side').encrypter.aeadKey →
          buildNonce (start.ciphers side).encrypter.noncePrefix seqno=
            buildNonce (start.ciphers side').encrypter.noncePrefix seqno' → i=j

/-- A packet is not decrypted at the side that returned it. -/
def NotReflected (log : List ChannelEvent) : Prop :=
  ∀ (i j : ℕ) (side : Side) (seqno : UInt64) (plaintext packet : Bytes)
    (result : Except EncryptionError Bytes),
    log[i]?=some (.returned side seqno plaintext (.ok packet)) →
      log[j]?=some (.delivered side packet result) → result=.error .decrypt

/-- Nor under the cipher of another secret or connection. -/
def NotElsewhere (C : DatagramCrypto) (secret : Bytes) (connectionId : Int64)
    (log : List ChannelEvent) : Prop :=
  ∀ (i : ℕ) (side : Side) (seqno : UInt64) (plaintext packet secret' : Bytes)
    (connectionId' : Int64) (cipher : P2pCipher C),
    log[i]?=some (.returned side seqno plaintext (.ok packet)) →
      (newCaller C secret' connectionId'=.ok cipher ∨
        newAnswerer C secret' connectionId'=.ok cipher) →
      (secret'≠secret ∨ connectionId'≠connectionId) →
        cipher.decrypter.decrypt packet=.error .decrypt

/-- A side's label for sending. -/
def Side.info : Side→Bytes
  | .caller => prkInfoCallerToAnswerer
  | .answerer => prkInfoAnswererToCaller

/-- The labels of the two sides differ. -/
theorem info_other (side : Side) : Side.info side.other≠Side.info side := by
  cases side with
  | caller => exact directions_differ.symm
  | answerer => exact directions_differ

/-- Where the keys of both sides of a channel come from. -/
theorem opened_directed {secret : Bytes} {connectionId : Int64} {caller answerer : P2pCipher C}
    (hcaller : newCaller C secret connectionId=.ok caller)
    (hanswerer : newAnswerer C secret connectionId=.ok answerer) (side : Side) :
    Directed C secret connectionId (Side.info side) (Side.info side.other)
      ((opened caller answerer).ciphers side) := by
  cases side with
  | caller => exact directedCipher_eq_ok hcaller
  | answerer => exact directedCipher_eq_ok hanswerer

/-- A cipher receives under the keys of one of the two labels. -/
theorem recvKey_derived {secret : Bytes} {connectionId : Int64} {cipher : P2pCipher C}
    (h : newCaller C secret connectionId=.ok cipher ∨
      newAnswerer C secret connectionId=.ok cipher) :
    ∃ info,C.expandKey (i64LeBytes connectionId) secret info=some cipher.decrypter.aeadKey := by
  rcases h with h|h
  · exact ⟨_,(directedCipher_eq_ok h).recvKey⟩
  · exact ⟨_,(directedCipher_eq_ok h).recvKey⟩

/-- Every delivery of a packet is accepted. -/
theorem packet_delivers (ideal : Ideal C) {secret : Bytes} {connectionId : Int64}
    {caller answerer : P2pCipher C} (hcaller : newCaller C secret connectionId=.ok caller)
    (hanswerer : newAnswerer C secret connectionId=.ok answerer) {log : List ChannelEvent}
    {state : Channel C} (run : ChannelRun (opened caller answerer) log state) : Delivers log := by
  intro i j side seqno plaintext packet result hi hj
  have hkeys := opened_directed hcaller hanswerer
  have hseal := ChannelRun.returned_eq run hi
  rw [←ChannelRun.delivered_eq run hj]
  have hback : side.other.other=side := by
    cases side with
    | caller | answerer => rfl
  have hother := hkeys side.other
  rw [hback] at hother
  refine decrypt_sealPacket ideal ?_ ?_ hseal
  · exact Option.some.inj (hother.recvKey.symm.trans (hkeys side).sendKey)
  · exact Option.some.inj (hother.recvPrefix.symm.trans (hkeys side).sendPrefix)

/-- In every run of two ciphers of one secret and connection, whatever the order of calls and
deliveries, packets are decrypted at the other side and nowhere else, and no nonce is used twice
under a key. -/
theorem datagrams_delivered (ideal : Ideal C) {secret : Bytes} {connectionId : Int64}
    {caller answerer : P2pCipher C} (hcaller : newCaller C secret connectionId=.ok caller)
    (hanswerer : newAnswerer C secret connectionId=.ok answerer) {log : List ChannelEvent}
    {state : Channel C} (run : ChannelRun (opened caller answerer) log state)
    (hfew : ∀ side,calls side log<UInt64.size) :
    Delivers log ∧ NoncesOnce (opened caller answerer) log ∧ NotReflected log ∧
      NotElsewhere C secret connectionId log := by
  have hkeys := opened_directed hcaller hanswerer
  refine ⟨packet_delivers ideal hcaller hanswerer run,?_,?_,?_⟩
  · intro i j side side' seqno seqno' plaintext plaintext' result result' hi hj hkey hnonce
    have hside : side=side' := by
      by_contra hne
      have hother : side'=side.other := by
        cases side with
        | caller | answerer => cases side' with | caller | answerer => first | rfl | exact absurd rfl hne
      subst hother
      refine keys_differ ideal (hkeys side).sendKey (hkeys side.other).sendKey ?_ hkey
      exact fun h => info_other side h.2.2.symm
    subst hside
    have hseqno := u64LeBytes_inj.mp (List.append_cancel_left hnonce)
    subst hseqno
    exact ChannelRun.returned_once (directedCipher_eq_ok hcaller).seqno
      (directedCipher_eq_ok hanswerer).seqno run hfew hi hj
  · intro i j side seqno plaintext packet result hi hj
    rw [←ChannelRun.delivered_eq run hj]
    refine decrypt_other_key ideal ?_ (ChannelRun.returned_eq run hi)
    refine keys_differ ideal (hkeys side).recvKey (hkeys side).sendKey ?_
    exact fun h => info_other side h.2.2
  · intro i side seqno plaintext packet secret' connectionId' cipher hi hcipher hne
    obtain ⟨info,hderived⟩ := recvKey_derived hcipher
    refine decrypt_other_key ideal ?_ (ChannelRun.returned_eq run hi)
    refine keys_differ ideal hderived (hkeys side).sendKey ?_
    rintro ⟨hid,hsecret,_⟩
    rcases hne with hne|hne
    · exact hne hsecret
    · exact hne hid

/-- A side's packets are accepted at the other side once at most, and when they first come. -/
def AcceptedOnce (side : Side) (log : List ChannelEvent) : Prop :=
  ∀ (seqno : UInt64) (plaintext packet : Bytes),.returned side seqno plaintext (.ok packet)∈log →
    (∀ (i j : ℕ) (found found' : Bytes),log[i]?=some (.delivered side.other packet (.ok found)) →
      log[j]?=some (.delivered side.other packet (.ok found')) → i=j) ∧
    ∀ (i : ℕ) (result : Except EncryptionError Bytes),
      log[i]?=some (.delivered side.other packet result) →
        (∀ (j : ℕ) (result' : Except EncryptionError Bytes),j < i →
          log[j]?≠some (.delivered side.other packet result')) → ∃ found,result=.ok found

/-- The network delivers each of a side's packets once at most. -/
def DeliveredOnce (side : Side) (log : List ChannelEvent) : Prop :=
  ∀ (seqno : UInt64) (plaintext packet : Bytes),.returned side seqno plaintext (.ok packet)∈log →
    ∀ (i j : ℕ) (result result' : Except EncryptionError Bytes),
      log[i]?=some (.delivered side.other packet result) →
        log[j]?=some (.delivered side.other packet result') → i=j

/-- Packets are accepted once exactly when the network delivers them once. -/
theorem accepted_once_iff (ideal : Ideal C) {secret : Bytes} {connectionId : Int64}
    {caller answerer : P2pCipher C} (hcaller : newCaller C secret connectionId=.ok caller)
    (hanswerer : newAnswerer C secret connectionId=.ok answerer) {log : List ChannelEvent}
    {state : Channel C} (run : ChannelRun (opened caller answerer) log state) (side : Side) :
    AcceptedOnce side log ↔ DeliveredOnce side log := by
  have haccepted : ∀ {seqno : UInt64} {plaintext packet : Bytes} {i : ℕ}
      {result : Except EncryptionError Bytes},.returned side seqno plaintext (.ok packet)∈log →
        log[i]?=some (.delivered side.other packet result) → result=.ok plaintext := by
    intro seqno plaintext packet i result hmem hi
    obtain ⟨k,hk⟩ := List.mem_iff_getElem?.mp hmem
    exact packet_delivers ideal hcaller hanswerer run k i side seqno plaintext packet result hk hi
  constructor
  · intro h seqno plaintext packet hmem i j result result' hi hj
    obtain rfl := haccepted hmem hi
    obtain rfl := haccepted hmem hj
    exact (h seqno plaintext packet hmem).1 i j plaintext plaintext hi hj
  · intro h seqno plaintext packet hmem
    refine ⟨fun i j found found' hi hj => ?_,fun i result hi _ => ⟨plaintext,haccepted hmem hi⟩⟩
    exact h seqno plaintext packet hmem i j _ _ hi hj

end Delivery

section Labelled

/-- Primitives whose keys and ciphertexts name all that they are made of. -/
def labelledCrypto : DatagramCrypto where
  Key := Bytes×Bytes×Bytes
  expandKey := fun salt secret info => some (salt,secret,info)
  expandBytes := fun _ _ _ length => if length≤8160 then some (List.replicate length 0) else none
  aeadEncrypt := fun key nonce aad plaintext =>
    if plaintext.length≤68719476704 then
      some (encodeMessage [⟨1,.bytes key.1⟩,⟨2,.bytes key.2.1⟩,⟨3,.bytes key.2.2⟩,
        ⟨4,.bytes nonce⟩,⟨5,.bytes aad⟩,⟨6,.bytes plaintext⟩])
    else none
  aeadDecrypt := fun key nonce aad ciphertext =>
    match decodeMessage ciphertext with
    | some [salt,secret,info,nonce',aad',⟨6,.bytes plaintext⟩] =>
      if [salt,secret,info,nonce',aad']=[⟨1,.bytes key.1⟩,⟨2,.bytes key.2.1⟩,
        ⟨3,.bytes key.2.2⟩,⟨4,.bytes nonce⟩,⟨5,.bytes aad⟩] then some plaintext
      else none
    | _ => none

/-- They are ideal. -/
theorem labelledCrypto_ideal : Ideal labelledCrypto where
  expandsKey := fun _ _ _ => ⟨_,rfl⟩
  expandsBytes := fun _ _ _ => ⟨_,rfl,rfl⟩
  independent := by
    rintro salt salt' secret secret' info info' key _ _ h h'
    have heq := Option.some.inj (h.trans h'.symm)
    obtain ⟨hsalt,hrest⟩ := Prod.mk.inj heq
    exact ⟨hsalt,Prod.mk.inj hrest⟩
  decrypts := by
    intro key nonce aad plaintext ciphertext h
    change (if plaintext.length≤68719476704 then _ else none)=_ at h
    split at h
    · obtain rfl := Option.some.inj h
      simp only [labelledCrypto,decodeMessage_encode,if_true]
    · cases h
  authentic := by
    intro key key' nonce nonce' aad aad' plaintext plaintext' ciphertext h h'
    change (if plaintext.length≤68719476704 then _ else none)=_ at h
    split at h
    · obtain rfl := Option.some.inj h
      simp only [labelledCrypto,decodeMessage_encode] at h'
      split at h'
      next heq =>
        simp only [List.cons.injEq,Field.mk.injEq,WireValue.bytes.injEq,true_and,and_true] at heq
        exact (Prod.ext heq.1 (Prod.ext heq.2.1 heq.2.2.1)).symm
      next => cases h'
    · cases h

/-- The secret that two nodes share. -/
def labelledSecret : Bytes := List.replicate 32 0x42

/-- The caller's cipher on connection 1. -/
def labelledCaller : P2pCipher labelledCrypto :=
  ⟨⟨(i64LeBytes 1,labelledSecret,prkInfoCallerToAnswerer),List.replicate 4 0,0⟩,
    ⟨(i64LeBytes 1,labelledSecret,prkInfoAnswererToCaller),List.replicate 4 0⟩⟩

/-- The answerer's. -/
def labelledAnswerer : P2pCipher labelledCrypto :=
  ⟨⟨(i64LeBytes 1,labelledSecret,prkInfoAnswererToCaller),List.replicate 4 0,0⟩,
    ⟨(i64LeBytes 1,labelledSecret,prkInfoCallerToAnswerer),List.replicate 4 0⟩⟩

/-- The packet with a number of one byte that the caller sends. -/
def labelledPacket (seqno : UInt64) (byte : UInt8) : Bytes :=
  u64LeBytes seqno++encodeMessage [⟨1,.bytes (i64LeBytes 1)⟩,⟨2,.bytes labelledSecret⟩,
    ⟨3,.bytes prkInfoCallerToAnswerer⟩,⟨4,.bytes (buildNonce (List.replicate 4 0) seqno)⟩,
    ⟨5,.bytes (buildAad seqno)⟩,⟨6,.bytes [byte]⟩]

/-- The caller seals it so. -/
theorem labelledCaller_seals (seqno : UInt64) (byte : UInt8) :
    labelledCaller.encrypter.sealPacket seqno [byte]=.ok (labelledPacket seqno byte) := rfl

/-- The answerer decrypts it. -/
theorem labelledAnswerer_decrypts (seqno : UInt64) (byte : UInt8) :
    labelledAnswerer.decrypter.decrypt (labelledPacket seqno byte)=.ok [byte] :=
  decrypt_sealPacket labelledCrypto_ideal rfl rfl (labelledCaller_seals seqno byte)

/-- A call takes the number that is next. -/
theorem calls_numbered {C : DatagramCrypto} {before : Channel C} {side : Side} (task : ℕ)
    (plaintext : Bytes) {seqno : UInt64} (idle : before.tasks task=none)
    (h : (before.ciphers side).encrypter.seqno=seqno) :
    ChannelStep before (.called side seqno) ⟨before.fetch side,
      Function.update before.tasks task (some ⟨side,seqno,plaintext⟩)⟩ := h ▸ .called idle

/-- A call returns what is sealed. -/
theorem returns_sealed {C : DatagramCrypto} {before : Channel C} (task : ℕ) (call : Encrypting)
    {result : Except EncryptionError Bytes} (under : before.tasks task=some call)
    (h : (before.ciphers call.side).encrypter.sealPacket call.seqno call.plaintext=result) :
    ChannelStep before (.returned call.side call.seqno call.plaintext result)
      {before with tasks := Function.update before.tasks task none} := h ▸ .returned under

/-- A delivery has the result of decrypting. -/
theorem delivers_decrypted {C : DatagramCrypto} {before : Channel C} {side : Side} {packet : Bytes}
    {result : Except EncryptionError Bytes}
    (h : (before.ciphers side).decrypter.decrypt packet=result) :
    ChannelStep before (.delivered side packet result) before := h ▸ .delivered

/-- Of two calls that overlap, the second returns first, and its packet arrives alone. -/
def reorderedLog : List ChannelEvent :=
  [.called .caller 0,.called .caller 1,.returned .caller 1 [8] (.ok (labelledPacket 1 8)),
    .delivered .answerer (labelledPacket 1 8) (.ok [8]),
    .returned .caller 0 [7] (.ok (labelledPacket 0 7))]

/-- That is a run. -/
theorem reorderedLog_run :
    ∃ state,ChannelRun (opened labelledCaller labelledAnswerer) reorderedLog state := by
  have hstart : ChannelRun (opened labelledCaller labelledAnswerer) []
      (opened labelledCaller labelledAnswerer) := .start
  have hfirst := hstart.next (@calls_numbered _ _ .caller 0 [7] 0 rfl rfl)
  have hsecond := hfirst.next (@calls_numbered _ _ .caller 1 [8] 1 rfl rfl)
  have hthird := hsecond.next (@returns_sealed _ _ 1 ⟨.caller,1,[8]⟩ _ rfl
    ((sealPacket_congr rfl rfl 1 [8]).trans (labelledCaller_seals 1 8)))
  have hfourth := hthird.next (@delivers_decrypted _ _ .answerer _ _ (labelledAnswerer_decrypts 1 8))
  have hfifth := hfourth.next (@returns_sealed _ _ 0 ⟨.caller,0,[7]⟩ _ rfl
    ((sealPacket_congr rfl rfl 0 [7]).trans (labelledCaller_seals 0 7)))
  exact ⟨_,hfifth⟩

/-- In it nothing goes wrong. -/
theorem datagrams_delivered_reordered :
    Delivers reorderedLog ∧ NoncesOnce (opened labelledCaller labelledAnswerer) reorderedLog ∧
      NotReflected reorderedLog ∧ NotElsewhere labelledCrypto labelledSecret 1 reorderedLog := by
  obtain ⟨state,run⟩ := reorderedLog_run
  refine datagrams_delivered labelledCrypto_ideal rfl rfl run fun side => ?_
  cases side with
  | caller | answerer => decide

/-- The packet that arrives in it is accepted once. -/
theorem accepted_once_iff_reordered : AcceptedOnce .caller reorderedLog := by
  obtain ⟨state,run⟩ := reorderedLog_run
  refine (accepted_once_iff labelledCrypto_ideal rfl rfl run .caller).mpr ?_
  have hthird : ∀ {i : ℕ} {packet : Bytes} {result : Except EncryptionError Bytes},
      reorderedLog[i]?=some (.delivered .answerer packet result) → i=3 := by
    intro i packet result h
    match i,h with
    | 3,_ => rfl
    | _+5,h => cases h
  intro seqno plaintext packet _ i j result result' hi hj
  exact (hthird hi).trans (hthird hj).symm

/-- One packet arrives twice. -/
def duplicatedLog : List ChannelEvent :=
  [.called .caller 0,.returned .caller 0 [7] (.ok (labelledPacket 0 7)),
    .delivered .answerer (labelledPacket 0 7) (.ok [7]),
    .delivered .answerer (labelledPacket 0 7) (.ok [7])]

/-- It is accepted twice. -/
theorem duplicate_accepted :
    (∃ state,ChannelRun (opened labelledCaller labelledAnswerer) duplicatedLog state) ∧
      ¬AcceptedOnce .caller duplicatedLog := by
  refine ⟨⟨_,.next (.next (.next (.next .start (calls_numbered 0 [7] rfl rfl))
    (returns_sealed 0 ⟨.caller,0,[7]⟩ rfl
      ((sealPacket_congr rfl rfl 0 [7]).trans (labelledCaller_seals 0 7))))
    (delivers_decrypted (labelledAnswerer_decrypts 0 7)))
    (delivers_decrypted (labelledAnswerer_decrypts 0 7))⟩,fun haccepted => ?_⟩
  have hreturned : .returned .caller 0 [7] (.ok (labelledPacket 0 7))∈duplicatedLog :=
    List.mem_cons_of_mem _ List.mem_cons_self
  have hsame := (haccepted 0 [7] (labelledPacket 0 7) hreturned).1 2 3 [7] [7] rfl rfl
  cases hsame

end Labelled

end WispersConnect.DatagramDelivery
