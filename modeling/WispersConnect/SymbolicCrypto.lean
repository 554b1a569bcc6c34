import WispersConnect.Endorsing
import WispersConnect.NodeLifecycle
import WispersConnect.RosterChain
import WispersConnect.RosterEncoding

/-!
# Symbolic primitives

An instance of the primitives in which signatures and hashes carry what they
were made from: a signature is its key followed by its message and a hash is
its input. Nothing can be forged, different rosters have different signing
hashes, and whole protocol runs can be evaluated.
-/

namespace WispersConnect.SymbolicCrypto

open Messages OutcomeMonad Cryptography PairingCodes RosterBuilders RosterChain RosterEncoding
open NodeLifecycle Endorsing

/-- A key is one byte; its SPKI form puts the DER sequence tag before it. -/
def symbolicSpki (key : UInt8) : Bytes := [0x30,key]

/-- Only that form decodes. -/
def decodeSymbolicSpki (spki : Bytes) : Except String UInt8 :=
  match spki with
  | [0x30,key] => .ok key
  | _ => .error "malformed SPKI"

/-- One byte of a keyed checksum. -/
def checksum (factor : UInt8) (input : Bytes) : UInt8 :=
  input.foldl (fun acc byte => acc*factor+byte+1) factor

/-- The symbolic primitives, with the real wire encodings. -/
def symbolicCrypto : Crypto where
  VerifyingKey := UInt8
  decEqKey := inferInstance
  SigningKey := UInt8
  Signature := Bytes
  fromPublicKeyDer := decodeSymbolicSpki
  signatureFromSlice := fun bytes => if bytes=[] then none else some bytes
  verify := fun key message signature => signature==key::message
  signingKeyFromBytes := fun bytes => bytes.headD 0
  verifyingKey := id
  publicKeySpki := symbolicSpki
  sign := fun key message => key::message
  sha256 := id
  hmacSha256 := fun key message =>
    (List.range 16).map fun i => checksum (UInt8.ofNat (2*i+3)) (key++message)
  hkdfSha256 := fun _ rootKey _ => rootKey
  encodeRoster := encodeRoster
  encodePairNodesPayload := encodePairNodesPayload

/-- A node's own SPKI decodes to its own key. -/
theorem symbolicCrypto_spkiRoundTrip : symbolicCrypto.SpkiRoundTrip := fun _ => rfl

/-- A signature verifies exactly when it is the key followed by the message. -/
theorem symbolicCrypto_verify_iff {key : UInt8} {message signature : Bytes} :
    verifySignature symbolicCrypto key message signature=.ok () ↔ signature=key::message := by
  by_cases hempty : signature=[]
  · subst hempty
    simp [verifySignature,symbolicCrypto,Outcome.okOr]
  · simp [verifySignature,symbolicCrypto,hempty,Outcome.okOr]

/-- Different rosters have different signing hashes. -/
theorem symbolicCrypto_signingHash_injective : Function.Injective (signingHash symbolicCrypto) :=
  fun _ _ h => encodeRoster_injective (List.append_cancel_left h)

/-- The symbolic signature of a key over a roster whose latest signatures are cleared. -/
def symbolicSign (key : UInt8) (roster : Roster) : Bytes :=
  key::signingHash symbolicCrypto (clearLatestAddendumSignatures roster)

/-- A founding signed by both keys. -/
def symbolicFounding (payload : ActivationPayload) (newKey endorserKey : UInt8) : Roster :=
  let state := bootstrapState payload (symbolicSpki newKey) (symbolicSpki endorserKey)
  let unsigned := state (unsignedActivation payload)
  state (signedActivation payload (symbolicSign newKey unsigned) (symbolicSign endorserKey unsigned))

/-- An activation signed by both keys. -/
def symbolicActivation (base : Roster) (payload : ActivationPayload) (newKey endorserKey : UInt8) :
    Roster :=
  let state := activationState base payload (symbolicSpki newKey)
  let unsigned := state (unsignedActivation payload)
  state (signedActivation payload (symbolicSign newKey unsigned) (symbolicSign endorserKey unsigned))

/-- A revocation signed by the revoker's key. -/
def symbolicRevocation (base : Roster) (payload : RevocationPayload) (revokerKey : UInt8) : Roster :=
  let state := revocationState base payload
  state (signedRevocation payload (symbolicSign revokerKey (state (unsignedRevocation payload))))

/-- Node 2 founds a group with node 1 as its endorser. -/
def pairRoster : Roster := symbolicFounding ⟨1,2,1,[21],[11]⟩ 2 1

/-- Node 3 joins the pair, endorsed by node 2. -/
def trioRoster : Roster := symbolicActivation pairRoster ⟨2,3,2,[32],[22]⟩ 3 2

/-- Node 1 revokes node 2 from the trio. -/
def reducedRoster : Roster := symbolicRevocation trioRoster ⟨3,2,1⟩ 1

/-- The registration of a node with number 2. -/
def secondRegistration : NodeRegistration := ⟨"group",2,"token",""⟩

/-- The registered node with number 2 and key 2. -/
def secondNode : Node symbolicCrypto :=
  ⟨.registered secondRegistration,⟨[2],some secondRegistration⟩,(2 : UInt8)⟩

/-- The secret of a code issued by node 1. -/
def firstSecret : PairingSecret := ⟨[0,0,0,0,0,0,1]⟩

/-- That code as the user types it. -/
def firstCode : Bytes := literalBytes "1-00000000001"

/-- A hub that relays the pairing to node 1, registers everyone as number 2 and
otherwise delivers the given rosters. -/
def relayingHub (currentRoster : Roster) (cosignedRoster : Option Roster) : Hub where
  connect := .ok ()
  completeRegistration := fun _ => .ok secondRegistration
  deregisterNode := fun _ => .ok ()
  pairNodes := fun _ message =>
    match message.payload with
    | some payload =>
      .ok (pairingReply symbolicCrypto (1 : UInt8) 1 firstSecret payload [11])
    | none => .error .connection
  getUnverifiedRoster := fun _ => .ok currentRoster
  updateRoster := fun _ _ => .ok cosignedRoster

end WispersConnect.SymbolicCrypto
