import WispersConnect.PairingCodes
import WispersConnect.RadixChange

/-!
# Secrets in base 36

A secret's bytes and its text are the digits of one number in two radices. The big
integers that the code goes through come from a library: what the code relies on is
written down, and the functions of the other modules are these at one such library.
-/

namespace WispersConnect.Base36Secrets

open Messages OutcomeMonad Cryptography PairingCodes RadixChange

/-- The functions of the big-integer library. -/
structure BigUintLibrary where
  /-- `BigUint::from_bytes_be`. -/
  fromBytesBe : Bytes→ℕ
  /-- `BigUint::to_bytes_be`. -/
  toBytesBe : ℕ→Bytes
  /-- `BigUint::to_str_radix`, in base 36. -/
  toStrRadix36 : ℕ→Bytes
  /-- `BigUint::parse_bytes`, in base 36. -/
  parseBytes36 : Bytes→Option ℕ

section Code

variable (L : BigUintLibrary)

/-- `encode_base36`. -/
def encodeBase36With {ε : Type} (bytes : Bytes) : Outcome ε Bytes := do
  let profile ← Outcome.expect (TtlProfile.fromSecretLen bytes.length)
    "a secret always has a valid profile length"
  let s := L.toStrRadix36 (L.fromBytesBe bytes)
  Outcome.debugAssert (s.length≤profile.base36Len) "bytes must fit in base36 digits"
  pure (List.replicate (profile.base36Len-s.length) 48++s)

/-- `decode_base36`. -/
def decodeBase36With (text : Bytes) : Except PairingSecretError Bytes :=
  match TtlProfile.fromBase36Len text.length with
  | none => .error .invalidLength
  | some profile =>
    match L.parseBytes36 text with
    | none => .error .invalidCharacter
    | some n =>
      let raw := L.toBytesBe n
      if profile.secretLen < raw.length then .error .outOfRange
      else .ok (List.replicate (profile.secretLen-raw.length) 0++raw)

/-- `PairingSecret::from_base36`. -/
def PairingSecret.fromBase36With (text : Bytes) : Except PairingSecretError PairingSecret :=
  (decodeBase36With L text).map PairingSecret.mk

/-- `PairingSecret::to_base36`. -/
def PairingSecret.toBase36With {ε : Type} (secret : PairingSecret) : Outcome ε Bytes :=
  encodeBase36With L secret.bytes

end Code

/-- The library that the other modules go through. -/
def bigUints : BigUintLibrary := ⟨fromBytesBe,toBytesBe,toStrRadix36,parseBytes36⟩

/-- The encoder of the other modules. -/
theorem encodeBase36With_bigUints {ε : Type} (bytes : Bytes) :
    (encodeBase36With bigUints bytes : Outcome ε Bytes)=encodeBase36 bytes := rfl

/-- The decoder of the other modules. -/
theorem decodeBase36With_bigUints (text : Bytes) :
    decodeBase36With bigUints text=decodeBase36 text := rfl

section Digits

/-- `to_ascii_lowercase`. -/
def toAsciiLowercase (byte : UInt8) : UInt8 := if 65≤byte ∧ byte≤90 then byte+32 else byte

/-- `to_ascii_uppercase`. -/
def toAsciiUppercase (byte : UInt8) : UInt8 := if 97≤byte ∧ byte≤122 then byte-32 else byte

/-- A text of digits of base 36, in either case. -/
def IsBase36 (text : Bytes) : Prop := ∀ byte∈text,(base36Value byte).isSome=true

/-- The values of the digits in a text. -/
def digitValues (text : Bytes) : List ℕ := text.filterMap base36Value

/-- The number that the digits in a text stand for. -/
def numeralValue (text : Bytes) : ℕ := value 36 (digitValues text)

/-- The number that bytes stand for. -/
def bytesValue (bytes : Bytes) : ℕ := value 256 (bytes.map UInt8.toNat)

/-- The case of a digit does not matter. -/
@[simp] theorem base36Value_toAsciiLowercase (byte : UInt8) :
    base36Value (toAsciiLowercase byte)=base36Value byte := by
  unfold toAsciiLowercase base36Value
  simp only [UInt8.le_iff_toNat_le]
  split_ifs <;> simp_all [UInt8.toNat_add] <;> omega

/-- The case of a digit does not matter. -/
@[simp] theorem base36Value_toAsciiUppercase (byte : UInt8) :
    base36Value (toAsciiUppercase byte)=base36Value byte := by
  unfold toAsciiUppercase base36Value
  simp only [UInt8.le_iff_toNat_le]
  split_ifs <;> simp_all [UInt8.toNat_sub] <;> omega

/-- A digit is less than the radix. -/
theorem base36Value_lt {byte : UInt8} {d : ℕ} (h : base36Value byte=some d) : d<36 := by
  unfold base36Value at h
  simp only [UInt8.le_iff_toNat_le] at h
  split_ifs at h <;> simp_all <;> omega

/-- The value of a digit gives the digit back in lower case. -/
theorem base36Digit_base36Value {byte : UInt8} {d : ℕ} (h : base36Value byte=some d) :
    base36Digit d=toAsciiLowercase byte := by
  unfold base36Value at h
  unfold base36Digit toAsciiLowercase
  simp only [UInt8.le_iff_toNat_le] at h ⊢
  rw [←UInt8.toNat_inj]
  split_ifs at h ⊢ <;> simp_all [UInt8.toNat_add] <;> omega

/-- A zero adds nothing but a digit. -/
theorem digitValues_replicate_append (count : ℕ) (text : Bytes) :
    digitValues (List.replicate count 48++text)=List.replicate count 0++digitValues text := by
  unfold digitValues
  rw [List.filterMap_append,List.filterMap_replicate_of_some (show base36Value 48=some 0 from rfl)]

/-- Digits are less than the radix. -/
theorem digitValues_lt {text : Bytes} {d : ℕ} (h : d∈digitValues text) : d<36 := by
  obtain ⟨byte,_,hbyte⟩ := List.mem_filterMap.mp h
  exact base36Value_lt hbyte

/-- Every character of a text of digits has a value. -/
theorem map_base36Value {text : Bytes} (h : IsBase36 text) :
    text.map base36Value=(digitValues text).map some := by
  induction text with
  | nil => rfl
  | cons byte text ih =>
    obtain ⟨d,hd⟩ := Option.isSome_iff_exists.mp (h byte List.mem_cons_self)
    have hrest := ih fun b hb => h b (List.mem_cons_of_mem byte hb)
    unfold digitValues at hrest ⊢
    rw [List.filterMap_cons_some hd,List.map_cons,List.map_cons,hrest,hd]

/-- All of a text of digits counts. -/
theorem length_digitValues {text : Bytes} (h : IsBase36 text) :
    (digitValues text).length=text.length := by
  have hvalues := congrArg List.length (map_base36Value h)
  rw [List.length_map,List.length_map] at hvalues
  exact hvalues.symm

/-- The values of the digits of a text give the text back in lower case. -/
theorem map_digitValues {text : Bytes} (h : IsBase36 text) :
    (digitValues text).map base36Digit=text.map toAsciiLowercase := by
  have hvalues := congrArg (List.map fun v => base36Digit (v.getD 0)) (map_base36Value h)
  rw [List.map_map,List.map_map] at hvalues
  refine hvalues.symm.trans (List.map_congr_left fun byte hbyte => ?_)
  obtain ⟨d,hd⟩ := Option.isSome_iff_exists.mp (h byte hbyte)
  rw [Function.comp_apply,hd]
  exact base36Digit_base36Value hd

/-- Zeros are digits. -/
theorem IsBase36.pad {text : Bytes} (h : IsBase36 text) (count : ℕ) :
    IsBase36 (List.replicate count 48++text) := by
  intro byte hbyte
  obtain hzero|htext := List.mem_append.mp hbyte
  · rw [List.eq_of_mem_replicate hzero]
    rfl
  · exact h byte htext

/-- Bytes are digits. -/
theorem toNat_lt_of_mem {bytes : Bytes} {d : ℕ} (h : d∈bytes.map UInt8.toNat) : d<256 := by
  obtain ⟨byte,_,rfl⟩ := List.mem_map.mp h
  exact byte.toNat_lt

/-- How large the number of some bytes can be. -/
theorem bytesValue_lt (bytes : Bytes) : bytesValue bytes<256^bytes.length := by
  have hvalue := value_lt (by decide) fun d (hd : d∈bytes.map UInt8.toNat) => toNat_lt_of_mem hd
  rwa [List.length_map] at hvalue

/-- Zero bytes in front change nothing. -/
theorem bytesValue_replicate_append (count : ℕ) (bytes : Bytes) :
    bytesValue (List.replicate count 0++bytes)=bytesValue bytes := by
  unfold bytesValue
  rw [List.map_append,List.map_replicate]
  exact value_replicate_zero_append 256 count _

/-- As many bytes for the same number are the same. -/
theorem bytesValue_inj {s t : Bytes} (hlength : s.length=t.length)
    (h : bytesValue s=bytesValue t) : s=t := by
  refine List.map_injective_iff.mpr (fun _ _ => UInt8.toNat_inj.mp) (value_inj (by decide) ?_
    (fun _ hd => toNat_lt_of_mem hd) (fun _ hd => toNat_lt_of_mem hd) h)
  rw [List.length_map,List.length_map,hlength]

/-- How large the number of some digits can be. -/
theorem numeralValue_lt (text : Bytes) : numeralValue text<36^(digitValues text).length :=
  value_lt (by decide) fun _ hd => digitValues_lt hd

/-- The case of a text does not matter. -/
theorem digitValues_map {f : UInt8→UInt8} (hf : ∀ byte,base36Value (f byte)=base36Value byte)
    (text : Bytes) : digitValues (text.map f)=digitValues text := by
  unfold digitValues
  rw [List.filterMap_map]
  exact congrArg (fun g => text.filterMap g) (funext hf)

/-- The case of a text does not matter. -/
theorem isBase36_map {f : UInt8→UInt8} (hf : ∀ byte,base36Value (f byte)=base36Value byte)
    (text : Bytes) : IsBase36 (text.map f) ↔ IsBase36 text := by
  unfold IsBase36
  simp only [List.forall_mem_map,hf]

end Digits

section Library

/-- What the code relies on the library for: numbers keep their value, no digits are there
for nothing, and a text of digits is read. -/
structure BigUintLibrary.Lawful (L : BigUintLibrary) : Prop where
  /-- Bytes are digits of a number. -/
  fromBytesBe_value : ∀ bytes,L.fromBytesBe bytes=bytesValue bytes
  /-- The bytes of a number stand for it. -/
  toBytesBe_value : ∀ n,bytesValue (L.toBytesBe n)=n
  /-- They are not more than the number takes. -/
  toBytesBe_fits : ∀ n width,0<width → n<256^width → (L.toBytesBe n).length ≤ width
  /-- The text of a number has digits only. -/
  toStrRadix36_digits : ∀ n,IsBase36 (L.toStrRadix36 n)
  /-- They are in lower case. -/
  toStrRadix36_lower : ∀ n,(L.toStrRadix36 n).map toAsciiLowercase=L.toStrRadix36 n
  /-- They stand for the number. -/
  toStrRadix36_value : ∀ n,numeralValue (L.toStrRadix36 n)=n
  /-- They are not more than the number takes. -/
  toStrRadix36_fits : ∀ n width,0<width → n<36^width → (L.toStrRadix36 n).length ≤ width
  /-- A text of digits is read as their number. -/
  parseBytes36_digits : ∀ text,text≠[] → IsBase36 text →
    L.parseBytes36 text=some (numeralValue text)

end Library

section Writing

/-- A text of a profile's width writes a secret of the profile's length: its digits recode
the secret's bytes. -/
structure Writes (profile : TtlProfile) (text bytes : Bytes) : Prop where
  /-- The text has the profile's width. -/
  textLength : text.length=profile.base36Len
  /-- It has digits only. -/
  digits : IsBase36 text
  /-- The secret has the profile's length. -/
  bytesLength : bytes.length=profile.secretLen
  /-- Both stand for the same number. -/
  same : numeralValue text=bytesValue bytes

variable {profile profile' : TtlProfile} {text text' bytes bytes' : Bytes}

/-- A profile is known from the width of its texts. -/
theorem fromBase36Len_eq_some {len : ℕ} :
    TtlProfile.fromBase36Len len=some profile ↔ len=profile.base36Len := by
  unfold TtlProfile.fromBase36Len
  cases profile <;> simp only [TtlProfile.base36Len] <;> split_ifs <;> simp_all

/-- A profile is known from the length of its secrets. -/
theorem fromSecretLen_eq_some {len : ℕ} :
    TtlProfile.fromSecretLen len=some profile ↔ len=profile.secretLen := by
  unfold TtlProfile.fromSecretLen
  cases profile <;> simp only [TtlProfile.secretLen] <;> split_ifs <;> simp_all

/-- Every secret's number has a text of its profile's width. -/
theorem secret_fits_text (profile : TtlProfile) :
    256^profile.secretLen<36^profile.base36Len := by
  cases profile <;> decide

/-- The digits of the text recode the bytes of the secret. -/
theorem Writes.recodes (h : Writes profile text bytes) :
    Recodes 36 256 (digitValues text) (bytes.map UInt8.toNat) := by
  exact ⟨fun _ hd => digitValues_lt hd,fun _ hd => toNat_lt_of_mem hd,h.same⟩

/-- A secret is written in one way, but for the case of the digits. -/
theorem Writes.text_unique (h : Writes profile text bytes) (h' : Writes profile' text' bytes) :
    text.map toAsciiLowercase=text'.map toAsciiLowercase := by
  have hprofile : some profile=some profile' := by
    rw [←fromSecretLen_eq_some.mpr h.bytesLength,←fromSecretLen_eq_some.mpr h'.bytesLength]
  cases hprofile
  have hlength : (digitValues text).length=(digitValues text').length := by
    rw [length_digitValues h.digits,length_digitValues h'.digits,h.textLength,h'.textLength]
  rw [←map_digitValues h.digits,←map_digitValues h'.digits,
    h.recodes.left_unique (by decide) h'.recodes hlength]

/-- The case of the digits does not matter. -/
theorem writes_map {f : UInt8→UInt8} (hf : ∀ byte,base36Value (f byte)=base36Value byte) :
    Writes profile (text.map f) bytes ↔ Writes profile text bytes := by
  have hvalue : numeralValue (text.map f)=numeralValue text := by
    unfold numeralValue
    rw [digitValues_map hf]
  constructor
  · rintro ⟨hlength,hdigits,hbytes,hsame⟩
    rw [List.length_map] at hlength
    exact ⟨hlength,(isBase36_map hf text).mp hdigits,hbytes,hvalue.symm.trans hsame⟩
  · rintro ⟨hlength,hdigits,hbytes,hsame⟩
    refine ⟨?_,(isBase36_map hf text).mpr hdigits,hbytes,hvalue.trans hsame⟩
    rw [List.length_map]
    exact hlength

end Writing

section Specifications

variable {L : BigUintLibrary} {profile : TtlProfile} {text bytes : Bytes}

/-- The encoder neither panics nor fails an assertion on a secret of a profile's length: it
writes the secret in lower case. -/
theorem encodeBase36With_writes {ε : Type} (hL : L.Lawful)
    (hlength : bytes.length=profile.secretLen) :
    ∃ text,(encodeBase36With L bytes : Outcome ε Bytes)=.ok text ∧ Writes profile text bytes ∧
      text.map toAsciiLowercase=text := by
  have hbytes : bytesValue bytes<36^profile.base36Len := by
    have hvalue := bytesValue_lt bytes
    rw [hlength] at hvalue
    exact hvalue.trans (secret_fits_text profile)
  have hwidth : (L.toStrRadix36 (bytesValue bytes)).length≤profile.base36Len :=
    hL.toStrRadix36_fits _ _ (by cases profile <;> decide) hbytes
  generalize hcount : profile.base36Len-(L.toStrRadix36 (bytesValue bytes)).length=count
  refine ⟨List.replicate count 48++L.toStrRadix36 (bytesValue bytes),?_,⟨?_,?_,hlength,?_⟩,?_⟩
  · unfold encodeBase36With
    rw [fromSecretLen_eq_some.mpr hlength,hL.fromBytesBe_value]
    simp only [Outcome.expect,Outcome.debugAssert,Outcome.ok_bind]
    rw [if_pos hwidth,hcount]
    rfl
  · rw [List.length_append,List.length_replicate]
    omega
  · exact (hL.toStrRadix36_digits _).pad count
  · unfold numeralValue
    rw [digitValues_replicate_append,value_replicate_zero_append]
    exact hL.toStrRadix36_value _
  · rw [List.map_append,List.map_replicate,hL.toStrRadix36_lower]
    rfl

/-- The decoder takes a number that was read if the profile of the text's width has room for
it, and gives its bytes. -/
theorem decodeBase36With_eq_ok {n : ℕ} (hL : L.Lawful) (hread : L.parseBytes36 text=some n) :
    decodeBase36With L text=.ok bytes ↔
      ∃ profile : TtlProfile,text.length=profile.base36Len ∧ bytes.length=profile.secretLen ∧
        bytesValue bytes=n := by
  unfold decodeBase36With
  rw [hread]
  cases hprofile : TtlProfile.fromBase36Len text.length with
  | none =>
    constructor
    · intro h
      cases h
    · rintro ⟨profile,hwidth,_⟩
      rw [fromBase36Len_eq_some.mpr hwidth] at hprofile
      cases hprofile
  | some profile =>
    have hwidth := fromBase36Len_eq_some.mp hprofile
    have hpositive : 0<profile.secretLen := by cases profile <;> decide
    dsimp only
    constructor
    · intro h
      by_cases hlong : profile.secretLen<(L.toBytesBe n).length
      · rw [if_pos hlong] at h
        cases h
      · rw [if_neg hlong] at h
        refine ⟨profile,hwidth,?_,?_⟩
        · rw [←Except.ok.inj h,List.length_append,List.length_replicate]
          omega
        · rw [←Except.ok.inj h,bytesValue_replicate_append]
          exact hL.toBytesBe_value n
    · rintro ⟨profile',hwidth',hlength,rfl⟩
      have hsame : some profile=some profile' := by
        rw [←hprofile,fromBase36Len_eq_some.mpr hwidth']
      cases hsame
      have hfits : (L.toBytesBe (bytesValue bytes)).length≤profile.secretLen :=
        hL.toBytesBe_fits _ _ hpositive (hlength ▸ bytesValue_lt bytes)
      rw [if_neg (by omega)]
      refine congrArg Except.ok (bytesValue_inj ?_ ?_)
      · rw [List.length_append,List.length_replicate]
        omega
      · rw [bytesValue_replicate_append]
        exact hL.toBytesBe_value _

/-- A text of digits is decoded exactly if it writes a secret, and to that secret. -/
theorem decodeBase36With_digits (hL : L.Lawful) (hdigits : IsBase36 text) :
    decodeBase36With L text=.ok bytes ↔ ∃ profile,Writes profile text bytes := by
  cases text with
  | nil =>
    constructor
    · intro h
      cases h
    · rintro ⟨profile,hwrites⟩
      have hwidth := hwrites.textLength
      cases profile <;> cases hwidth
  | cons byte text =>
    rw [decodeBase36With_eq_ok hL (hL.parseBytes36_digits _ (List.cons_ne_nil _ _) hdigits)]
    constructor
    · rintro ⟨profile,hwidth,hlength,hvalue⟩
      exact ⟨profile,hwidth,hdigits,hlength,hvalue.symm⟩
    · rintro ⟨profile,hwidth,_,hlength,hvalue⟩
      exact ⟨profile,hwidth,hlength,hvalue.symm⟩

end Specifications

section BigUints

/-- A number is read back from its digits. -/
theorem value_digitsBe {radix : ℕ} (n : ℕ) : value radix (digitsBe radix n)=n := by
  unfold digitsBe
  split_ifs with hzero
  · simp only [value,hzero,List.foldl_cons,List.foldl_nil,Nat.zero_mul,Nat.add_zero]
  · rw [value_eq_ofDigits,List.reverse_reverse,Nat.ofDigits_digits]

/-- A number has no more digits than it takes. -/
theorem length_digitsBe_le {radix n width : ℕ} (hradix : 1 < radix) (hwidth : 0<width)
    (h : n < radix^width) : (digitsBe radix n).length ≤ width := by
  unfold digitsBe
  split_ifs
  · exact hwidth
  · rw [List.length_reverse]
    exact (Nat.digits_length_le_iff hradix n).mpr h

/-- Digits are less than the radix. -/
theorem digitsBe_lt {radix n d : ℕ} (hradix : 1 < radix) (h : d∈digitsBe radix n) : d < radix := by
  unfold digitsBe at h
  split_ifs at h
  · rw [List.mem_singleton] at h
    omega
  · exact Nat.digits_lt_base hradix (List.mem_reverse.mp h)

/-- A digit is read back from its character. -/
theorem base36Value_base36Digit {d : ℕ} (h : d<36) : base36Value (base36Digit d)=some d := by
  have hall : ∀ d<36,base36Value (base36Digit d)=some d := by decide
  exact hall d h

/-- The characters of digits are in lower case. -/
theorem toAsciiLowercase_base36Digit {d : ℕ} (h : d<36) :
    toAsciiLowercase (base36Digit d)=base36Digit d := by
  have hall : ∀ d<36,toAsciiLowercase (base36Digit d)=base36Digit d := by decide
  exact hall d h

/-- Digits are read back from their characters. -/
theorem digitValues_map_base36Digit {digits : List ℕ} (h : ∀ d∈digits,d<36) :
    digitValues (digits.map base36Digit)=digits := by
  unfold digitValues
  rw [List.filterMap_map]
  exact (List.filterMap_congr fun d hd => base36Value_base36Digit (h d hd)).trans
    (List.filterMap_some)

/-- What is left of a text after one plus. -/
def afterPlus : Bytes→Bytes
  | 43::rest => rest
  | text => text

/-- A text without a plus in front is left as it is. -/
theorem afterPlus_of_ne {text : Bytes} (h : text.head?≠some 43) : afterPlus text=text := by
  unfold afterPlus
  split
  next => exact absurd rfl h
  next => rfl

/-- A number as the library reads it: one plus may lead, then comes a digit, and then digits
and underscores. -/
structure IsNumeral (text : Bytes) : Prop where
  /-- The first is a digit. -/
  leads : ∃ byte∈(afterPlus text).head?,(base36Value byte).isSome=true
  /-- All are digits or underscores. -/
  separated : ∀ byte∈afterPlus text,(base36Value byte).isSome=true ∨ byte=95

/-- The library takes a plus and underscores, which do not count, and nothing else besides
digits. -/
structure BigUintLibrary.SkipsSeparators (L : BigUintLibrary) : Prop where
  /-- What it reads. -/
  reads : ∀ text,IsNumeral text → L.parseBytes36 text=some (numeralValue text)
  /-- What it does not read. -/
  rejects : ∀ text,¬IsNumeral text → L.parseBytes36 text=none

/-- A text of digits is a number. -/
theorem IsBase36.isNumeral {text : Bytes} (hne : text≠[]) (h : IsBase36 text) :
    IsNumeral text ∧ afterPlus text=text := by
  cases text with
  | nil => exact absurd rfl hne
  | cons byte rest =>
    have hplus : afterPlus (byte::rest)=byte::rest := by
      refine afterPlus_of_ne fun hhead => ?_
      rw [List.head?_cons,Option.some.injEq] at hhead
      subst hhead
      exact absurd (h 43 List.mem_cons_self) (by decide)
    refine ⟨⟨⟨byte,?_,h byte List.mem_cons_self⟩,fun b hb => Or.inl (h b ?_)⟩,hplus⟩
    · rw [hplus]
      rfl
    · rwa [hplus] at hb

/-- Digits are collected from a text of digits and underscores only. -/
theorem base36Values_eq_some {text : Bytes} {digits : List ℕ} :
    base36Values text=some digits ↔
      (∀ byte∈text,(base36Value byte).isSome=true ∨ byte=95) ∧ digits=digitValues text := by
  induction text generalizing digits with
  | nil =>
    constructor
    · intro h
      cases h
      exact ⟨fun _ hb => absurd hb List.not_mem_nil,rfl⟩
    · rintro ⟨_,rfl⟩
      rfl
  | cons byte rest ih =>
    by_cases hunder : byte=95
    · subst hunder
      have hskip : digitValues (95::rest)=digitValues rest := rfl
      rw [hskip,base36Values,if_pos rfl,ih]
      simp only [List.forall_mem_cons,or_true,true_and]
    · rw [base36Values,if_neg hunder]
      cases hd : base36Value byte with
      | none => simp [hunder,hd]
      | some d =>
        have htake : digitValues (byte::rest)=d::digitValues rest := List.filterMap_cons_some hd
        simp only [htake,List.forall_mem_cons,hd,Option.isSome_some,true_or,true_and,
          Option.bind_eq_bind,Option.bind_some,Option.bind_eq_some_iff,ih,Option.some.injEq]
        constructor
        · rintro ⟨ds,⟨hall,rfl⟩,rfl⟩
          exact ⟨hall,rfl⟩
        · rintro ⟨hall,rfl⟩
          exact ⟨_,⟨hall,rfl⟩,rfl⟩

/-- After a plus, a number starts with a digit and goes on with digits and underscores. -/
theorem readBody_eq_some {body : Bytes} {n : ℕ} :
    (if body=[] ∨ body.head?=some 95 then none
      else (base36Values body).map (ofDigitsBe 36))=some n ↔
      (∃ byte∈body.head?,(base36Value byte).isSome=true) ∧
        (∀ byte∈body,(base36Value byte).isSome=true ∨ byte=95) ∧ n=numeralValue body := by
  cases body with
  | nil => simp
  | cons byte rest =>
    have hunder : (base36Value 95).isSome=false := rfl
    by_cases hbyte : byte=95
    · simp [hbyte,hunder]
    · have hhead : ¬(byte::rest=[] ∨ (byte::rest).head?=some 95) := by simp [hbyte]
      rw [if_neg hhead,Option.map_eq_some_iff]
      constructor
      · rintro ⟨digits,hdigits,rfl⟩
        obtain ⟨hall,rfl⟩ := base36Values_eq_some.mp hdigits
        exact ⟨⟨byte,rfl,(hall byte List.mem_cons_self).resolve_right hbyte⟩,hall,rfl⟩
      · rintro ⟨_,hall,rfl⟩
        exact ⟨_,base36Values_eq_some.mpr ⟨hall,rfl⟩,rfl⟩

/-- What the library of the other modules reads: a number's digits. -/
theorem parseBytes36_eq_some {text : Bytes} {n : ℕ} :
    parseBytes36 text=some n ↔ IsNumeral text ∧ n=numeralValue text := by
  have hnumeral : IsNumeral text ∧ n=numeralValue text ↔
      (∃ byte∈(afterPlus text).head?,(base36Value byte).isSome=true) ∧
        (∀ byte∈afterPlus text,(base36Value byte).isSome=true ∨ byte=95) ∧ n=numeralValue text :=
    ⟨fun h => ⟨h.1.leads,h.1.separated,h.2⟩,fun h => ⟨⟨h.1,h.2.1⟩,h.2.2⟩⟩
  rw [hnumeral]
  by_cases hplus : text.head?=some 43
  · obtain ⟨rest,rfl⟩ := List.head?_eq_some_iff.mp hplus
    have hvalue : numeralValue (43::rest)=numeralValue rest := rfl
    have hrest : afterPlus (43::rest)=rest := rfl
    rw [hvalue,hrest,←readBody_eq_some]
    by_cases htwo : rest.head?=some 43
    · obtain ⟨tail,rfl⟩ := List.head?_eq_some_iff.mp htwo
      rfl
    · have hread : parseBytes36 (43::rest)=if rest=[] ∨ rest.head?=some 95 then none
          else (base36Values rest).map (ofDigitsBe 36) := by
        change (if (if rest.head?=some 43 then 43::rest else rest)=[] ∨
          (if rest.head?=some 43 then 43::rest else rest).head?=some 95 then none
          else (base36Values (if rest.head?=some 43 then 43::rest else rest)).map (ofDigitsBe 36))=_
        rw [if_neg htwo]
      rw [hread]
  · rw [afterPlus_of_ne hplus,←readBody_eq_some]
    unfold parseBytes36
    dsimp only
    split
    next => exact absurd rfl hplus
    next => rfl

/-- The library of the other modules skips separators. -/
theorem bigUints_skipsSeparators : bigUints.SkipsSeparators := by
  refine ⟨fun text h => parseBytes36_eq_some.mpr ⟨h,rfl⟩,fun text h => ?_⟩
  exact Option.eq_none_iff_forall_ne_some.mpr fun n hn => h (parseBytes36_eq_some.mp hn).1

/-- The library of the other modules is what the code relies on. -/
theorem bigUints_lawful : bigUints.Lawful where
  fromBytesBe_value _ := rfl
  toBytesBe_value n := by
    have hdigits : (toBytesBe n).map UInt8.toNat=digitsBe 256 n := by
      unfold toBytesBe
      rw [List.map_map]
      refine (List.map_congr_left fun d hd => ?_).trans (List.map_id _)
      exact UInt8.toNat_ofNat_of_lt (digitsBe_lt (by decide) hd)
    change value 256 ((toBytesBe n).map UInt8.toNat)=n
    rw [hdigits,value_digitsBe]
  toBytesBe_fits n width hwidth h := by
    change (toBytesBe n).length ≤ width
    unfold toBytesBe
    rw [List.length_map]
    exact length_digitsBe_le (by decide) hwidth h
  toStrRadix36_digits n := by
    intro byte hbyte
    obtain ⟨d,hd,rfl⟩ := List.mem_map.mp hbyte
    rw [base36Value_base36Digit (digitsBe_lt (by decide) hd)]
    rfl
  toStrRadix36_lower n := by
    change ((digitsBe 36 n).map base36Digit).map toAsciiLowercase=(digitsBe 36 n).map base36Digit
    rw [List.map_map]
    exact List.map_congr_left fun d hd => toAsciiLowercase_base36Digit (digitsBe_lt (by decide) hd)
  toStrRadix36_value n := by
    change value 36 (digitValues ((digitsBe 36 n).map base36Digit))=n
    rw [digitValues_map_base36Digit fun d hd => digitsBe_lt (by decide) hd,value_digitsBe]
  toStrRadix36_fits n width hwidth h := by
    change (toStrRadix36 n).length ≤ width
    unfold toStrRadix36
    rw [List.length_map]
    exact length_digitsBe_le (by decide) hwidth h
  parseBytes36_digits text hne hdigits :=
    bigUints_skipsSeparators.reads text (hdigits.isNumeral hne).1

end BigUints

end WispersConnect.Base36Secrets
