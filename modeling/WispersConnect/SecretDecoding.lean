import WispersConnect.Base36Secrets

/-!
# What the decoder of secrets takes

Besides the texts of base 36 whose number a secret has room for, the decoder takes
texts with a plus or underscores, which the big-integer library skips. Those have
fewer digits than their width, so that their number always fits, and encoding what
was decoded does not give them back.
-/

namespace WispersConnect.SecretDecoding

open Messages OutcomeMonad Cryptography PairingCodes RadixChange Base36Secrets

/-- As many digits as a profile has, whose number its secrets have room for. -/
structure IsSecretText (profile : TtlProfile) (text : Bytes) : Prop where
  /-- The text has the profile's width. -/
  width : text.length=profile.base36Len
  /-- It has digits only. -/
  digits : IsBase36 text
  /-- Its number fits. -/
  fits : numeralValue text<256^profile.secretLen

/-- The decoder takes a text exactly if it is a secret's, and gives the bytes of its number,
which are encoded as the text in lower case. -/
structure DecodesExactly (L : BigUintLibrary) (text : Bytes) : Prop where
  /-- What it takes, and what it gives. -/
  accepts : ∀ secret,PairingSecret.fromBase36With L text=.ok secret ↔
    ∃ profile,IsSecretText profile text ∧ secret.bytes.length=profile.secretLen ∧
      bytesValue secret.bytes=numeralValue text
  /-- What it gives is encoded as the text. -/
  encodes : ∀ secret,PairingSecret.fromBase36With L text=.ok secret →
    (PairingSecret.toBase36With L secret : Outcome Empty Bytes)=.ok (text.map toAsciiLowercase)
  /-- It fails on everything else. -/
  rejects : (¬∃ profile,IsSecretText profile text) →
    ∃ e,PairingSecret.fromBase36With L text=.error e

/-- A number with a plus or underscores in it, which together with its digits are as many
characters as a profile has digits. -/
structure Separated (text : Bytes) : Prop where
  /-- The text has the width of a profile. -/
  width : text.length=11 ∨ text.length=14
  /-- It is a number. -/
  numeral : IsNumeral text
  /-- Not all of it are digits. -/
  separator : ∃ byte∈text,base36Value byte=none

variable {L : BigUintLibrary} {text bytes : Bytes}

/-- The widths of a separated text are the profiles'. -/
theorem Separated.profile (h : Separated text) :
    ∃ profile : TtlProfile,text.length=profile.base36Len := by
  obtain hwidth|hwidth := h.width
  · exact ⟨.interactive,hwidth⟩
  · exact ⟨.asynchronous,hwidth⟩

/-- A text that has not digits only has something else in it. -/
theorem not_isBase36_iff : ¬IsBase36 text ↔ ∃ byte∈text,base36Value byte=none := by
  simp only [IsBase36,not_forall,Bool.not_eq_true,Option.isSome_eq_false_iff,
    Option.isNone_iff_eq_none,exists_prop]

/-- Decoding to a secret is decoding to its bytes. -/
theorem fromBase36With_eq_ok {secret : PairingSecret} :
    PairingSecret.fromBase36With L text=.ok secret ↔ decodeBase36With L text=.ok secret.bytes := by
  unfold PairingSecret.fromBase36With
  cases decodeBase36With L text with
  | error e => simp [Except.map]
  | ok bytes =>
    constructor
    · rintro ⟨⟩
      rfl
    · rintro ⟨⟩
      rfl

/-- Every number that fits has bytes of a given length. -/
theorem exists_bytes (hL : L.Lawful) {n length : ℕ} (hlength : 0<length) (h : n<256^length) :
    ∃ bytes : Bytes,bytes.length=length ∧ bytesValue bytes=n := by
  have hfits := hL.toBytesBe_fits n length hlength h
  refine ⟨List.replicate (length-(L.toBytesBe n).length) 0++L.toBytesBe n,?_,?_⟩
  · simp only [List.length_append,List.length_replicate]
    omega
  · rw [bytesValue_replicate_append]
    exact hL.toBytesBe_value n

/-- Fewer digits than a profile has stand for a number that its secrets have room for. -/
theorem fits_of_fewer {profile : TtlProfile} (h : (digitValues text).length<profile.base36Len) :
    numeralValue text<256^profile.secretLen := by
  have hroom : 36^(profile.base36Len-1)≤256^profile.secretLen := by cases profile <;> decide
  have hpower : 36^(digitValues text).length≤36^(profile.base36Len-1) :=
    Nat.pow_le_pow_right (by decide) (by omega)
  have hvalue := numeralValue_lt text
  omega

/-- A separated text is decoded all the same. -/
theorem Separated.decoded (hL : L.Lawful) (hskips : L.SkipsSeparators) (h : Separated text) :
    ∃ bytes,decodeBase36With L text=.ok bytes := by
  obtain ⟨profile,hwidth⟩ := h.profile
  have hfewer : (digitValues text).length<text.length := by
    obtain ⟨byte,hbyte,hnone⟩ := h.separator
    exact List.length_filterMap_lt_length_iff_exists.mpr ⟨byte,hbyte,hnone⟩
  have hpositive : 0<profile.secretLen := by cases profile <;> decide
  obtain ⟨bytes,hlength,hvalue⟩ := exists_bytes hL hpositive (fits_of_fewer (hwidth ▸ hfewer))
  exact ⟨bytes,(decodeBase36With_eq_ok hL (hskips.reads text h.numeral)).mpr
    ⟨profile,hwidth,hlength,hvalue⟩⟩

/-- A text of digits is decoded as it should be. -/
theorem decodesExactly_of_isBase36 (hL : L.Lawful) (hdigits : IsBase36 text) :
    DecodesExactly L text := by
  have haccepts : ∀ secret,PairingSecret.fromBase36With L text=.ok secret ↔
      ∃ profile,Writes profile text secret.bytes := fun secret =>
    fromBase36With_eq_ok.trans (decodeBase36With_digits hL hdigits)
  have hwritten : ∀ secret : PairingSecret,(∃ profile,Writes profile text secret.bytes) ↔
      ∃ profile,IsSecretText profile text ∧ secret.bytes.length=profile.secretLen ∧
        bytesValue secret.bytes=numeralValue text := by
    intro secret
    constructor
    · rintro ⟨profile,hwidth,_,hlength,hsame⟩
      have hfits := bytesValue_lt secret.bytes
      rw [hlength,←hsame] at hfits
      exact ⟨profile,⟨hwidth,hdigits,hfits⟩,hlength,hsame.symm⟩
    · rintro ⟨profile,htext,hlength,hsame⟩
      exact ⟨profile,htext.width,hdigits,hlength,hsame.symm⟩
  refine ⟨fun secret => (haccepts secret).trans (hwritten secret),fun secret hsecret => ?_,
    fun hnone => ?_⟩
  · obtain ⟨profile,hwrites⟩ := (haccepts secret).mp hsecret
    obtain ⟨shown,hshown,hwrites',hlower⟩ := encodeBase36With_writes hL hwrites.bytesLength
    rw [hwrites.text_unique hwrites',hlower]
    exact hshown
  · cases hresult : PairingSecret.fromBase36With L text with
    | error e => exact ⟨e,rfl⟩
    | ok secret =>
      obtain ⟨profile,htext,_⟩ := (hwritten secret).mp ((haccepts secret).mp hresult)
      exact absurd ⟨profile,htext⟩ hnone

/-- A text that is neither of digits nor separated is not decoded. -/
theorem decodeBase36With_ne_ok (hskips : L.SkipsSeparators)
    (hseparator : ∃ byte∈text,base36Value byte=none) (h : ¬Separated text) :
    decodeBase36With L text≠.ok bytes := by
  unfold decodeBase36With
  cases hprofile : TtlProfile.fromBase36Len text.length with
  | none => simp
  | some profile =>
    have hwidth : text.length=11 ∨ text.length=14 := by
      have hlength := fromBase36Len_eq_some.mp hprofile
      cases profile with
      | interactive => exact .inl hlength
      | asynchronous => exact .inr hlength
    have hnumeral : ¬IsNumeral text := fun hnumeral => h ⟨hwidth,hnumeral,hseparator⟩
    dsimp only
    rw [hskips.rejects text hnumeral]
    simp

/-- The decoder does as it should on every text but the separated ones. -/
theorem decodes_exactly_iff (hL : L.Lawful) (hskips : L.SkipsSeparators) (text : Bytes) :
    DecodesExactly L text ↔ ¬Separated text := by
  constructor
  · intro hexact hseparated
    obtain ⟨bytes,hbytes⟩ := hseparated.decoded hL hskips
    obtain ⟨profile,htext,_⟩ := (hexact.accepts ⟨bytes⟩).mp (fromBase36With_eq_ok.mpr hbytes)
    exact not_isBase36_iff.mpr hseparated.separator htext.digits
  · intro hseparated
    by_cases hdigits : IsBase36 text
    · exact decodesExactly_of_isBase36 hL hdigits
    · have hseparator := not_isBase36_iff.mp hdigits
      have hfails : ∀ secret,PairingSecret.fromBase36With L text≠.ok secret := fun secret hsecret =>
        decodeBase36With_ne_ok hskips hseparator hseparated (fromBase36With_eq_ok.mp hsecret)
      refine ⟨fun secret => ⟨fun h => absurd h (hfails secret),?_⟩,
        fun secret h => absurd h (hfails secret),fun _ => ?_⟩
      · rintro ⟨profile,htext,_⟩
        exact absurd htext.digits hdigits
      · cases hresult : PairingSecret.fromBase36With L text with
        | error e => exact ⟨e,rfl⟩
        | ok secret => exact absurd hresult (hfails secret)

/-- `00123456789`: eleven digits. -/
def digitsText : Bytes := [48,48,49,50,51,52,53,54,55,56,57]

/-- `+0123456789`: a plus in the place of the first. -/
def plusText : Bytes := [43,48,49,50,51,52,53,54,55,56,57]

/-- Eleven digits are decoded as they should be. -/
theorem decodes_exactly_iff_digits : DecodesExactly bigUints digitsText := by
  have hdigits : IsBase36 digitsText := List.all_eq_true.mp (by decide)
  exact (decodes_exactly_iff bigUints_lawful bigUints_skipsSeparators digitsText).mpr
    fun hseparated => not_isBase36_iff.mpr hseparated.separator hdigits

/-- A plus in the place of a digit is taken: the text is decoded to a secret that is encoded
in another way. -/
theorem plus_decoded :
    PairingSecret.fromBase36With bigUints plusText=.ok ⟨[0,2,182,233,41,207,25]⟩ ∧
      (PairingSecret.toBase36With bigUints ⟨[0,2,182,233,41,207,25]⟩ : Outcome Empty Bytes)=
        .ok digitsText ∧ ¬DecodesExactly bigUints plusText := by
  have hdecoded : PairingSecret.fromBase36With bigUints plusText=
      .ok ⟨[0,2,182,233,41,207,25]⟩ := by decide +kernel
  refine ⟨hdecoded,by rfl,fun hexact => ?_⟩
  obtain ⟨profile,htext,_⟩ := (hexact.accepts _).mp hdecoded
  exact absurd (htext.digits 43 List.mem_cons_self) (by decide)

end WispersConnect.SecretDecoding
