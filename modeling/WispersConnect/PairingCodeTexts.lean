import WispersConnect.Base36Secrets
import WispersConnect.Endorsing

/-!
# Pairing codes as texts

A code is shown as its node number, a hyphen and its secret in base 36, and is read
back from that, whatever the case of its letters. The width of the secret's text
tells the profile.
-/

namespace WispersConnect.PairingCodeTexts

open Messages OutcomeMonad Cryptography PairingCodes Endorsing RadixChange
open Base36Secrets

section Code

variable (L : BigUintLibrary)

/-- `PairingCode::format`. -/
def PairingCode.formatWith {ε : Type} (code : PairingCode) : Outcome ε Bytes := do
  let secret ← PairingSecret.toBase36With L code.secret
  pure (displayI32 code.nodeNumber++45::secret)

/-- `PairingCode::parse`. -/
def PairingCode.parseWith (text : Bytes) : Except PairingCodeError PairingCode :=
  match text.splitOn 45 with
  | [number,secret] =>
    match parseI32 number with
    | none => .error .invalidNodeNumber
    | some nodeNumber =>
      match PairingSecret.fromBase36With L secret with
      | .error e => .error (.invalidSecret e)
      | .ok secret => .ok ⟨nodeNumber,secret⟩
  | _ => .error .invalidFormat

end Code

/-- Formatting as the other modules have it. -/
theorem formatWith_bigUints {ε : Type} (code : PairingCode) :
    (PairingCode.formatWith bigUints code : Outcome ε Bytes)=PairingCode.format code := rfl

/-- Parsing as the other modules have it. -/
theorem parseWith_bigUints (text : Bytes) :
    PairingCode.parseWith bigUints text=PairingCode.parse text := rfl

section NodeNumbers

/-- The characters of decimal digits. -/
theorem decimal_digit {d : ℕ} (h : d<10) :
    48≤UInt8.ofNat (d+48) ∧ UInt8.ofNat (d+48)≤57 ∧ (UInt8.ofNat (d+48)).toNat-48=d := by
  have hall : ∀ d<10,
      48≤UInt8.ofNat (d+48) ∧ UInt8.ofNat (d+48)≤57 ∧ (UInt8.ofNat (d+48)).toNat-48=d := by decide
  exact hall d h

/-- A number is read back from its decimal digits. -/
theorem decimalValue_digits {digits : List ℕ} (h : ∀ d∈digits,d<10) :
    decimalValue (digits.map fun d => UInt8.ofNat (d+48))=some (value 10 digits) := by
  have hdigits : (digits.map fun d => UInt8.ofNat (d+48)).mapM
      (fun byte : UInt8 => if 48≤byte ∧ byte≤57 then some (byte.toNat-48) else none)=
        some digits := by
    induction digits with
    | nil => rfl
    | cons d digits ih =>
      obtain ⟨hlow,hhigh,hvalue⟩ := decimal_digit (h d List.mem_cons_self)
      have hrest := ih fun e he => h e (List.mem_cons_of_mem d he)
      rw [List.map_cons,List.mapM_cons,hrest,if_pos ⟨hlow,hhigh⟩,hvalue]
      rfl
  unfold decimalValue
  rw [hdigits]
  rfl

/-- A node number that is not negative is shown by its decimal digits. -/
theorem displayI32_eq {n : Int32} (h : 0≤n.toInt) :
    displayI32 n=(digitsBe 10 n.toInt.natAbs).map fun d => UInt8.ofNat (d+48) := by
  unfold displayI32
  rw [if_neg (by omega)]

/-- It is shown without a sign, and without letters. -/
theorem displayI32_decimal {n : Int32} (h : 0≤n.toInt) {byte : UInt8} (hbyte : byte∈displayI32 n) :
    48≤byte ∧ byte≤57 := by
  rw [displayI32_eq h] at hbyte
  obtain ⟨d,hd,rfl⟩ := List.mem_map.mp hbyte
  obtain ⟨hlow,hhigh,_⟩ := decimal_digit (digitsBe_lt (by decide) hd)
  exact ⟨hlow,hhigh⟩

/-- A number has a digit. -/
theorem digitsBe_ne_nil (radix n : ℕ) : digitsBe radix n≠[] := by
  unfold digitsBe
  split_ifs with hzero
  · exact List.cons_ne_nil 0 []
  · exact fun h => hzero (Nat.digits_eq_nil_iff_eq_zero.mp (List.reverse_eq_nil_iff.mp h))

/-- A text that starts with no sign is read as decimal digits. -/
theorem parseI32_unsigned {text : Bytes} (h : ∀ byte∈text,48≤byte ∧ byte≤57) (hne : text≠[]) :
    parseI32 text=(decimalValue text).bind fun magnitude =>
      if -2^31≤(magnitude : ℤ) ∧ (magnitude : ℤ)<2^31 then some (Int32.ofInt magnitude)
      else none := by
  unfold parseI32
  dsimp only
  split
  next rest => exact absurd (h 43 List.mem_cons_self) (by decide)
  next rest => exact absurd (h 45 List.mem_cons_self) (by decide)
  next =>
    simp only [if_neg hne,Bool.false_eq_true,if_false]
    rfl

/-- A node number that is not negative is read back. -/
theorem parseI32_displayI32 {n : Int32} (h : 0≤n.toInt) : parseI32 (displayI32 n)=some n := by
  have hne : displayI32 n≠[] := by
    rw [displayI32_eq h]
    exact fun hnil => digitsBe_ne_nil 10 _ (List.map_eq_nil_iff.mp hnil)
  have hvalue : decimalValue (displayI32 n)=some n.toInt.natAbs := by
    rw [displayI32_eq h,decimalValue_digits fun d hd => digitsBe_lt (by decide) hd,value_digitsBe]
  have habs : (n.toInt.natAbs : ℤ)=n.toInt := Int.natAbs_of_nonneg h
  have hbound := n.toInt_lt
  rw [parseI32_unsigned (fun byte => displayI32_decimal h) hne,hvalue,Option.bind_some,habs,
    if_pos ⟨by omega,hbound⟩,Int32.ofInt_toInt]

end NodeNumbers

section RoundTrip

variable {L : BigUintLibrary}

/-- A hyphen is no digit of base 36. -/
theorem hyphen_not_mem {text : Bytes} (h : IsBase36 text) : 45∉text := fun hmem =>
  absurd (h 45 hmem) (by decide)

/-- A number and a text of digits with a hyphen between are read as a code. -/
theorem parseWith_of_writes (hL : L.Lawful) {n : Int32} (hnode : 0≤n.toInt) {profile : TtlProfile}
    {text bytes : Bytes} (hwrites : Writes profile text bytes) :
    PairingCode.parseWith L (displayI32 n++45::text)=.ok ⟨n,⟨bytes⟩⟩ := by
  have hnumber : 45∉displayI32 n := fun hmem => absurd (displayI32_decimal hnode hmem) (by decide)
  have hsplit : (displayI32 n++45::text).splitOn 45=[displayI32 n,text] := by
    rw [List.splitOn_append_cons_self_of_not_mem hnumber,
      List.splitOn_eq_singleton (hyphen_not_mem hwrites.digits)]
  have hsecret : PairingSecret.fromBase36With L text=.ok ⟨bytes⟩ := by
    unfold PairingSecret.fromBase36With
    rw [(decodeBase36With_digits hL hwrites.digits).mpr ⟨profile,hwrites⟩]
    rfl
  unfold PairingCode.parseWith
  rw [hsplit]
  dsimp only
  rw [parseI32_displayI32 hnode,hsecret]

/-- Upper case leaves a shown node number as it is. -/
theorem displayI32_toAsciiUppercase {n : Int32} (h : 0≤n.toInt) :
    (displayI32 n).map toAsciiUppercase=displayI32 n := by
  refine (List.map_congr_left fun byte hbyte => ?_).trans (List.map_id _)
  obtain ⟨_,hhigh⟩ := displayI32_decimal h hbyte
  unfold toAsciiUppercase
  rw [if_neg]
  · rfl
  · simp only [UInt8.le_iff_toNat_le] at hhigh ⊢
    intro hletter
    have hlow := hletter.1
    change 97≤byte.toNat at hlow
    change byte.toNat≤57 at hhigh
    omega

/-- A number and digits stay so in upper case. -/
theorem parseWith_uppercase (hL : L.Lawful) {n : Int32} (hnode : 0≤n.toInt) {profile : TtlProfile}
    {text bytes : Bytes} (hwrites : Writes profile text bytes) :
    PairingCode.parseWith L ((displayI32 n++45::text).map toAsciiUppercase)=.ok ⟨n,⟨bytes⟩⟩ := by
  have hmap : (displayI32 n++45::text).map toAsciiUppercase=
      displayI32 n++45::text.map toAsciiUppercase := by
    rw [List.map_append,displayI32_toAsciiUppercase hnode]
    rfl
  rw [hmap]
  exact parseWith_of_writes hL hnode ((writes_map base36Value_toAsciiUppercase).mpr hwrites)

/-- What a code is shown as. -/
theorem formatWith_writes (hL : L.Lawful) {ε : Type} (code : PairingCode) {profile : TtlProfile}
    (hsecret : code.secret.bytes.length=profile.secretLen) :
    ∃ digits,(PairingSecret.toBase36With L code.secret : Outcome ε Bytes)=.ok digits ∧
      Writes profile digits code.secret.bytes ∧
      (PairingCode.formatWith L code : Outcome ε Bytes)=
        .ok (displayI32 code.nodeNumber++45::digits) := by
  obtain ⟨digits,hdigits,hwrites,_⟩ := encodeBase36With_writes hL hsecret
  refine ⟨digits,hdigits,hwrites,?_⟩
  unfold PairingCode.formatWith PairingSecret.toBase36With
  rw [hdigits]
  rfl

/-- The code of a node number that is not negative and a secret of either length is shown
with as many digits as its profile has, and is read back, in upper case as well. -/
theorem code_survives (hL : L.Lawful) {ε : Type} (code : PairingCode)
    (profile : TtlProfile) (hnode : 0 ≤ code.nodeNumber.toInt)
    (hsecret : code.secret.bytes.length=profile.secretLen) :
    ∃ number digits,(PairingCode.formatWith L code : Outcome ε Bytes)=.ok (number++45::digits) ∧
      (PairingSecret.toBase36With L code.secret : Outcome ε Bytes)=.ok digits ∧
      digits.length=profile.base36Len ∧ TtlProfile.fromBase36Len digits.length=some profile ∧
      PairingCode.parseWith L (number++45::digits)=.ok code ∧
      PairingCode.parseWith L ((number++45::digits).map toAsciiUppercase)=.ok code := by
  obtain ⟨digits,hdigits,hwrites,hformat⟩ := formatWith_writes hL code hsecret
  exact ⟨displayI32 code.nodeNumber,digits,hformat,hdigits,hwrites.textLength,
    fromBase36Len_eq_some.mpr hwrites.textLength,parseWith_of_writes hL hnode hwrites,
    parseWith_uppercase hL hnode hwrites⟩

/-- A secret with leading zeros. -/
theorem code_survives_zeros : ∃ number digits,
    (PairingCode.formatWith bigUints ⟨42,⟨[0,0,0,0,0,0,255]⟩⟩ : Outcome Empty Bytes)=
        .ok (number++45::digits) ∧
      (PairingSecret.toBase36With bigUints ⟨[0,0,0,0,0,0,255]⟩ : Outcome Empty Bytes)=.ok digits ∧
      digits.length=11 ∧ TtlProfile.fromBase36Len digits.length=some .interactive ∧
      PairingCode.parseWith bigUints (number++45::digits)=.ok ⟨42,⟨[0,0,0,0,0,0,255]⟩⟩ ∧
      PairingCode.parseWith bigUints ((number++45::digits).map toAsciiUppercase)=
        .ok ⟨42,⟨[0,0,0,0,0,0,255]⟩⟩ :=
  code_survives bigUints_lawful ⟨42,⟨[0,0,0,0,0,0,255]⟩⟩ .interactive (by decide) rfl

end RoundTrip

end WispersConnect.PairingCodeTexts
