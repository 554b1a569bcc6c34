import WispersConnect.Cryptography
import Mathlib.Data.Nat.Digits.Defs

/-!
# Pairing codes

A pairing code is a node number and a secret, shown as the decimal number, a
hyphen and the secret in base 36. A text is the list of its UTF-8 bytes. The
lifetime profile of a code fixes how long its secret and its base 36 form are.
-/

namespace WispersConnect.PairingCodes

open Messages OutcomeMonad Cryptography

/-- `TtlProfile`. -/
inductive TtlProfile where
  /-- Typed in right away. -/
  | interactive
  /-- Sent by slower means. -/
  | asynchronous
  deriving DecidableEq

/-- `secret_len`, in bytes. -/
def TtlProfile.secretLen : TtlProfile→ℕ
  | interactive => 7
  | asynchronous => 9

/-- `base36_len`, in characters. -/
def TtlProfile.base36Len : TtlProfile→ℕ
  | interactive => 11
  | asynchronous => 14

/-- `ttl`, in seconds. -/
def TtlProfile.ttl : TtlProfile→ℕ
  | interactive => 120
  | asynchronous => 24*60*60

/-- `from_secret_len`. -/
def TtlProfile.fromSecretLen (len : ℕ) : Option TtlProfile :=
  if len=7 then some interactive else if len=9 then some asynchronous else none

/-- `from_base36_len`. -/
def TtlProfile.fromBase36Len (len : ℕ) : Option TtlProfile :=
  if len=11 then some interactive else if len=14 then some asynchronous else none

/-- `PairingSecretError`. -/
inductive PairingSecretError where
  /-- Neither 11 nor 14 characters. -/
  | invalidLength
  /-- Not a number in base 36. -/
  | invalidCharacter
  /-- The number does not fit the secret. -/
  | outOfRange
  deriving DecidableEq

/-- `PairingCodeError`. -/
inductive PairingCodeError where
  /-- Not exactly one hyphen. -/
  | invalidFormat
  /-- The first part is no `i32`. -/
  | invalidNodeNumber
  /-- The second part is no secret. -/
  | invalidSecret (error : PairingSecretError)
  deriving DecidableEq

/-- Digits of a number, most significant first; zero has one digit. -/
def digitsBe (radix n : ℕ) : List ℕ := if n=0 then [0] else (Nat.digits radix n).reverse

/-- The number with the given digits, most significant first. -/
def ofDigitsBe (radix : ℕ) (digits : List ℕ) : ℕ := digits.foldl (fun acc d => acc*radix+d) 0

/-- `BigUint::from_bytes_be`. -/
def fromBytesBe (bytes : Bytes) : ℕ := ofDigitsBe 256 (bytes.map UInt8.toNat)

/-- `BigUint::to_bytes_be`. -/
def toBytesBe (n : ℕ) : Bytes := (digitsBe 256 n).map UInt8.ofNat

/-- Lower-case digit of base 36. -/
def base36Digit (d : ℕ) : UInt8 := if d<10 then UInt8.ofNat (d+48) else UInt8.ofNat (d+87)

/-- `BigUint::to_str_radix(36)`. -/
def toStrRadix36 (n : ℕ) : Bytes := (digitsBe 36 n).map base36Digit

/-- Value of a digit of base 36, in either case. -/
def base36Value (byte : UInt8) : Option ℕ :=
  if 48≤byte ∧ byte≤57 then some (byte.toNat-48)
  else if 97≤byte ∧ byte≤122 then some (byte.toNat-87)
  else if 65≤byte ∧ byte≤90 then some (byte.toNat-55)
  else none

/-- All digits of a text, underscores skipped. -/
def base36Values : Bytes→Option (List ℕ)
  | [] => some []
  | byte::rest =>
    if byte=95 then base36Values rest
    else do
      let d ← base36Value byte
      let ds ← base36Values rest
      some (d::ds)

/-- `BigUint::parse_bytes` in base 36: one plus sign may lead, an underscore may not. -/
def parseBytes36 (text : Bytes) : Option ℕ :=
  let digits := match text with
    | 43::tail => if tail.head?=some 43 then text else tail
    | _ => text
  if digits=[] ∨ digits.head?=some 95 then none
  else (base36Values digits).map (ofDigitsBe 36)

/-- `encode_base36`: padded with zeros to the width of the profile. -/
def encodeBase36 {ε : Type} (bytes : Bytes) : Outcome ε Bytes := do
  let profile ← Outcome.expect (TtlProfile.fromSecretLen bytes.length)
    "a secret always has a valid profile length"
  let s := toStrRadix36 (fromBytesBe bytes)
  Outcome.debugAssert (s.length≤profile.base36Len) "bytes must fit in base36 digits"
  pure (List.replicate (profile.base36Len-s.length) 48++s)

/-- `decode_base36`: padded with zero bytes to the secret's length. -/
def decodeBase36 (text : Bytes) : Except PairingSecretError Bytes :=
  match TtlProfile.fromBase36Len text.length with
  | none => .error .invalidLength
  | some profile =>
    match parseBytes36 text with
    | none => .error .invalidCharacter
    | some n =>
      let raw := toBytesBe n
      if profile.secretLen < raw.length then .error .outOfRange
      else .ok (List.replicate (profile.secretLen-raw.length) 0++raw)

/-- `PairingSecret::from_base36`. -/
def PairingSecret.fromBase36 (text : Bytes) : Except PairingSecretError PairingSecret :=
  (decodeBase36 text).map PairingSecret.mk

/-- `PairingSecret::to_base36`. -/
def PairingSecret.toBase36 {ε : Type} (secret : PairingSecret) : Outcome ε Bytes :=
  encodeBase36 secret.bytes

/-- `PairingCode`. -/
structure PairingCode where
  /-- The node that issued the code. -/
  nodeNumber : Int32
  /-- The secret it shares with whoever uses the code. -/
  secret : PairingSecret
  deriving DecidableEq

/-- Value of a run of decimal digits. -/
def decimalValue (digits : Bytes) : Option ℕ :=
  (digits.mapM fun byte => if 48≤byte ∧ byte≤57 then some (byte.toNat-48) else none).map
    (ofDigitsBe 10)

/-- `i32::from_str`: an optional sign, then decimal digits within range. -/
def parseI32 (text : Bytes) : Option Int32 := do
  let (negative,digits) := match text with
    | 43::rest => (false,rest)
    | 45::rest => (true,rest)
    | _ => (false,text)
  let magnitude ← if digits=[] then none else decimalValue digits
  let value : ℤ := if negative then -magnitude else magnitude
  if -2^31≤value ∧ value<2^31 then some (Int32.ofInt value) else none

/-- An `i32` in decimal. -/
def displayI32 (n : Int32) : Bytes :=
  let digits := (digitsBe 10 n.toInt.natAbs).map fun d => UInt8.ofNat (d+48)
  if n.toInt<0 then 45::digits else digits

/-- `PairingCode::format`. -/
def PairingCode.format {ε : Type} (code : PairingCode) : Outcome ε Bytes := do
  let secret ← PairingSecret.toBase36 code.secret
  pure (displayI32 code.nodeNumber++45::secret)

/-- `PairingCode::parse`. -/
def PairingCode.parse (text : Bytes) : Except PairingCodeError PairingCode :=
  match text.splitOn 45 with
  | [number,secret] =>
    match parseI32 number with
    | none => .error .invalidNodeNumber
    | some nodeNumber =>
      match PairingSecret.fromBase36 secret with
      | .error e => .error (.invalidSecret e)
      | .ok secret => .ok ⟨nodeNumber,secret⟩
  | _ => .error .invalidFormat

end WispersConnect.PairingCodes
