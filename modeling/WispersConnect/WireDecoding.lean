import WispersConnect.WireFormat

/-!
# Reading tagged fields off the wire

The inverse of the encodings: a varint, a field and a message are read off the
front of a string of bytes, and what was encoded is read back. The value of a
singular field is its last one under the tag, or the default when there is none.
-/

namespace WispersConnect.WireDecoding

open WireFormat

/-- Seven bits a byte, lowest first, up to the first byte below 128. -/
def decodeVarint : List UInt8→Option (ℕ×List UInt8)
  | [] => none
  | byte::rest =>
    if byte.toNat<128 then some (byte.toNat,rest)
    else (decodeVarint rest).map fun high => (byte.toNat-128+128*high.1,high.2)

/-- A byte has the value it was made from. -/
theorem byte_toNat {n : ℕ} (h : n<256) : (UInt8.ofNat n).toNat=n := UInt8.toNat_ofNat_of_lt' h

/-- The digits of a number are read back, whatever follows them. -/
theorem decodeVarint_digits {fuel n : ℕ} (h : n<128^(fuel+1)) (rest : List UInt8) :
    decodeVarint (varintDigits (fuel+1) n++rest)=some (n,rest) := by
  induction fuel generalizing n with
  | zero =>
    have hlt : n<128 := by simpa using h
    rw [varintDigits_of_lt _ hlt,List.singleton_append,decodeVarint,byte_toNat (by omega),
      if_pos hlt]
  | succ fuel ih =>
    by_cases hlt : n<128
    · rw [varintDigits_of_lt _ hlt,List.singleton_append,decodeVarint,byte_toNat (by omega),
        if_pos hlt]
    · have hhigh : n/128<128^(fuel+1) := by
        rw [Nat.div_lt_iff_lt_mul (by omega),←Nat.pow_succ]
        exact h
      rw [varintDigits_of_not_lt _ hlt,List.cons_append,decodeVarint,
        byte_toNat (by omega),if_neg (by omega),ih hhigh,Option.map_some]
      have hsum : n%128+128-128+128*(n/128)=n := by omega
      rw [hsum]

/-- A varint is read back. -/
theorem decodeVarint_encode (n : ℕ) (rest : List UInt8) :
    decodeVarint (encodeVarint n++rest)=some (n,rest) :=
  decodeVarint_digits (lt_varint_capacity n) rest

/-- A key with its wire type, then the content. -/
def decodeField (bytes : List UInt8) : Option (Field×List UInt8) := do
  let (key,rest) ← decodeVarint bytes
  if key%8=0 then do
    let (value,rest) ← decodeVarint rest
    some (⟨key/8,.varint value⟩,rest)
  else if key%8=2 then do
    let (length,rest) ← decodeVarint rest
    if length≤rest.length then some (⟨key/8,.bytes (rest.take length)⟩,rest.drop length) else none
  else none

/-- A field is read back. -/
theorem decodeField_encode (field : Field) (rest : List UInt8) :
    decodeField (encodeField field++rest)=some (field,rest) := by
  obtain ⟨tag,value⟩ := field
  cases value with
  | varint value =>
    have hkey : tag*8%8=0 ∧ tag*8/8=tag := by omega
    simp only [encodeField,List.append_assoc,decodeField,decodeVarint_encode,
      Option.bind_eq_bind,Option.bind_some,hkey,if_true]
  | bytes value =>
    have hkey : (tag*8+2)%8=2 ∧ (tag*8+2)/8=tag := by omega
    have hfits : value.length≤(value++rest).length := by
      rw [List.length_append]
      omega
    simp only [encodeField,List.append_assoc,decodeField,decodeVarint_encode,
      Option.bind_eq_bind,Option.bind_some,hkey,if_true,if_pos hfits,List.take_left,List.drop_left]
    rfl

/-- Field by field until nothing is left. -/
def decodeFields : ℕ→List UInt8→Option (List Field)
  | 0,bytes => if bytes=[] then some [] else none
  | fuel+1,bytes =>
    if bytes=[] then some []
    else do
      let (field,rest) ← decodeField bytes
      let fields ← decodeFields fuel rest
      some (field::fields)

/-- The fields of a message: each takes at least one byte. -/
def decodeMessage (bytes : List UInt8) : Option (List Field) := decodeFields bytes.length bytes

/-- With a turn for each field, the fields are read back. -/
theorem decodeFields_encode {fields : List Field} {fuel : ℕ} (h : fields.length≤fuel) :
    decodeFields fuel (encodeMessage fields)=some fields := by
  induction fields generalizing fuel with
  | nil =>
    cases fuel with
    | zero => rfl
    | succ fuel => rfl
  | cons field fields ih =>
    cases fuel with
    | zero => exact absurd h (by simp)
    | succ fuel =>
      have hne : encodeMessage (field::fields)≠[] := by
        rw [encodeMessage,List.flatMap_cons]
        exact List.append_ne_nil_of_left_ne_nil (encodeField_ne_nil field) _
      have hsplit : encodeMessage (field::fields)=encodeField field++encodeMessage fields := by
        rw [encodeMessage,List.flatMap_cons,encodeMessage]
      rw [List.length_cons,Nat.add_le_add_iff_right] at h
      rw [decodeFields,if_neg hne,hsplit,decodeField_encode]
      simp only [Option.bind_eq_bind,Option.bind_some,ih h]

/-- A message has no more fields than bytes. -/
theorem length_le_encodeMessage (fields : List Field) :
    fields.length≤(encodeMessage fields).length := by
  induction fields with
  | nil => exact Nat.zero_le _
  | cons field fields ih =>
    have hpos : 0<(encodeField field).length := List.length_pos_iff.mpr (encodeField_ne_nil field)
    rw [encodeMessage] at ih ⊢
    rw [List.flatMap_cons,List.length_append,List.length_cons]
    omega

/-- A message is read back. -/
theorem decodeMessage_encode (fields : List Field) :
    decodeMessage (encodeMessage fields)=some fields :=
  decodeFields_encode (length_le_encodeMessage fields)

section Prefixes

/-- What is decoded off the front of a string is decoded off every longer one. -/
def Extensible {α β : Type} (decode : List β→Option (α×List β)) : Prop :=
  ∀ p q a rest,decode p=some (a,rest) → decode (p++q)=some (a,rest++q)

/-- A varint is decoded off the front of every longer string. -/
theorem decodeVarint_extensible : Extensible decodeVarint := by
  intro p q a rest h
  induction p generalizing a rest with
  | nil => cases h
  | cons byte p ih =>
    rw [decodeVarint] at h
    rw [List.cons_append,decodeVarint]
    by_cases hlast : byte.toNat<128
    · rw [if_pos hlast] at h ⊢
      obtain ⟨rfl,rfl⟩ := Prod.mk.inj (Option.some.inj h)
      rfl
    · rw [if_neg hlast] at h ⊢
      obtain ⟨⟨high,tail⟩,hhigh,heq⟩ := Option.map_eq_some_iff.mp h
      obtain ⟨rfl,rfl⟩ := Prod.mk.inj heq
      rw [ih high tail hhigh]
      rfl

/-- A field is decoded off the front of every longer string. -/
theorem decodeField_extensible : Extensible decodeField := by
  intro p q field rest h
  obtain ⟨⟨key,tail⟩,hkey,h⟩ := Option.bind_eq_some_iff.mp h
  have hkey' := decodeVarint_extensible p q key tail hkey
  simp only [decodeField,Option.bind_eq_bind,hkey',Option.bind_some]
  dsimp only at h
  by_cases hvarint : key%8=0
  · rw [if_pos hvarint] at h ⊢
    obtain ⟨⟨value,after⟩,hvalue,h⟩ := Option.bind_eq_some_iff.mp h
    obtain ⟨rfl,rfl⟩ := Prod.mk.inj (Option.some.inj h)
    rw [decodeVarint_extensible tail q value after hvalue]
    rfl
  · rw [if_neg hvarint] at h ⊢
    by_cases hbytes : key%8=2
    · rw [if_pos hbytes] at h ⊢
      obtain ⟨⟨length,after⟩,hlength,h⟩ := Option.bind_eq_some_iff.mp h
      rw [decodeVarint_extensible tail q length after hlength]
      dsimp only at h
      by_cases hfits : length≤after.length
      · rw [if_pos hfits] at h
        obtain ⟨rfl,rfl⟩ := Prod.mk.inj (Option.some.inj h)
        have hmore : length≤(after++q).length := by
          rw [List.length_append]
          omega
        dsimp only [Option.bind_some]
        rw [if_pos hmore,List.take_append_of_le_length hfits,List.drop_append_of_le_length hfits]
      · rw [if_neg hfits] at h
        cases h
    · rw [if_neg hbytes] at h
      cases h

/-- A field that is cut short is not decoded. -/
theorem decodeField_take {field : Field} {n : ℕ} (h : n<(encodeField field).length) :
    decodeField ((encodeField field).take n)=none := by
  cases hcut : decodeField ((encodeField field).take n) with
  | none => rfl
  | some found =>
    obtain ⟨other,rest⟩ := found
    have hwhole := decodeField_extensible _ ((encodeField field).drop n) other rest hcut
    have hread := decodeField_encode field []
    rw [List.append_nil] at hread
    rw [List.take_append_drop,hread] at hwhole
    have hnil := (Prod.mk.inj (Option.some.inj hwhole)).2
    have hdrop := (List.append_eq_nil_iff.mp hnil.symm).2
    have hlength := congrArg List.length hdrop
    rw [List.length_drop,List.length_nil] at hlength
    omega

/-- What is decoded from the front of a message are its first fields, when it ends with one. -/
theorem decodeFields_take {fields found : List Field} {fuel n : ℕ}
    (h : decodeFields fuel ((encodeMessage fields).take n)=some found)
    (hn : n≤(encodeMessage fields).length) :
    ∃ k,found=fields.take k ∧ n=(encodeMessage (fields.take k)).length := by
  induction fields generalizing fuel n found with
  | nil =>
    have hnil : (encodeMessage []).take n=[] := List.take_nil
    rw [hnil] at h
    have hfound : found=[] := by
      cases fuel with
      | zero | succ => exact (Option.some.inj h).symm
    exact ⟨0,hfound,Nat.le_zero.mp hn⟩
  | cons field fields ih =>
    have hsplit : encodeMessage (field::fields)=encodeField field++encodeMessage fields := by
      rw [encodeMessage,List.flatMap_cons,encodeMessage]
    have hfirst : 0<(encodeField field).length := List.length_pos_iff.mpr (encodeField_ne_nil field)
    rw [hsplit] at h hn
    rw [List.length_append] at hn
    cases n with
    | zero =>
      have hfound : found=[] := by
        cases fuel with
        | zero | succ => exact (Option.some.inj h).symm
      exact ⟨0,hfound,rfl⟩
    | succ n =>
      have hne : (encodeField field++encodeMessage fields).take (n+1)≠[] := by
        refine List.length_pos_iff.mp ?_
        rw [List.length_take,List.length_append]
        omega
      cases fuel with
      | zero =>
        rw [decodeFields,if_neg hne] at h
        cases h
      | succ fuel =>
        rw [decodeFields,if_neg hne] at h
        by_cases hcut : n+1<(encodeField field).length
        · rw [List.take_append_of_le_length (by omega),decodeField_take hcut] at h
          cases h
        · rw [List.take_append,List.take_of_length_le (by omega),decodeField_encode,
            Option.bind_eq_bind,Option.bind_some] at h
          obtain ⟨others,hothers,h⟩ := Option.bind_eq_some_iff.mp h
          obtain ⟨k,hk,hlength⟩ := ih hothers (by omega)
          refine ⟨k+1,?_,?_⟩
          · rw [List.take_succ_cons,←hk]
            exact (Option.some.inj h).symm
          · rw [List.take_succ_cons,encodeMessage,List.flatMap_cons,List.length_append]
            rw [encodeMessage] at hlength
            omega

/-- The front of a message is a message of its first fields, or none at all. -/
theorem decodeMessage_take {fields : List Field} {n : ℕ} (hn : n≤(encodeMessage fields).length) :
    decodeMessage ((encodeMessage fields).take n)=none ∨
      ∃ k,decodeMessage ((encodeMessage fields).take n)=some (fields.take k) ∧
        n=(encodeMessage (fields.take k)).length := by
  cases hfound : decodeMessage ((encodeMessage fields).take n) with
  | none => exact .inl rfl
  | some found =>
    obtain ⟨k,rfl,hk⟩ := decodeFields_take hfound hn
    exact .inr ⟨k,rfl,hk⟩

end Prefixes

/-- The last number under a tag, zero by default. -/
def lastVarint (values : List WireValue) : Option ℕ :=
  match values.getLast? with
  | none => some 0
  | some (.varint value) => some value
  | some (.bytes _) => none

/-- The last byte string under a tag, empty by default. -/
def lastBytes (values : List WireValue) : Option (List UInt8) :=
  match values.getLast? with
  | none => some []
  | some (.bytes value) => some value
  | some (.varint _) => none

/-- The last nested message under a tag, if there is one. -/
def lastMessage {α : Type} (decode : List Field→Option α) (values : List WireValue) :
    Option (Option α) :=
  match values.getLast? with
  | none => some none
  | some (.bytes value) => ((decodeMessage value).bind decode).map some
  | some (.varint _) => none

/-- A number is read back, also when it was left out. -/
theorem lastVarint_values (value : ℕ) : lastVarint (varintValues value)=some value := by
  by_cases h : value=0
  · rw [h]
    rfl
  · rw [varintValues,if_neg h]
    rfl

/-- A byte string is read back, also when it was left out. -/
theorem lastBytes_values (value : List UInt8) : lastBytes (bytesValues value)=some value := by
  by_cases h : value=[]
  · rw [h]
    rfl
  · rw [bytesValues,if_neg h]
    rfl

/-- A nested message is read back when its fields are, also when there is none. -/
theorem lastMessage_values {α : Type} {decode : List Field→Option α} {fields : α→List Field}
    (h : ∀ a,decode (fields a)=some a) (message : Option α) :
    lastMessage decode (messageValues (message.toList.map fields))=some message := by
  cases message with
  | none => rfl
  | some a =>
    have hread : (decodeMessage (encodeMessage (fields a))).bind decode=some a := by
      rw [decodeMessage_encode,Option.bind_some,h]
    exact congrArg (Option.map some) hread

end WispersConnect.WireDecoding
