import WispersConnect.PeerEncoding
import WispersConnect.RosterReplay
import WispersConnect.RosterHistory

/-!
# One key, three kinds of signed strings

A node's key signs connection requests, answers to them and roster states. The
strings that are signed differ between the kinds whatever the payloads are: the
first two begin with different tags, and both are longer than a digest. A
signature that verifies only for what was signed therefore passes in its own role
only, and for the payload bytes it was made over.
-/

namespace WispersConnect.SignatureRoles

open Messages OutcomeMonad Cryptography PeerSigning PeerEncoding RosterBuilders RosterVerification
open RosterChain RosterReplay RosterHistory SymbolicCrypto

/-- What a signature can be taken to be over. -/
inductive SignedRole where
  /-- The payload bytes of a connection request. -/
  | caller (payload : Bytes)
  /-- The payload bytes of an answer. -/
  | answerer (payload : Bytes)
  /-- The signing hash of a roster state. -/
  | roster (hash : Bytes)
  deriving DecidableEq

/-- The string that is signed. -/
def SignedRole.signingInput : SignedRole→Bytes
  | caller payload => callerSigningInput payload
  | answerer payload => answererSigningInput payload
  | roster hash => hash

/-- Roster states are signed by a digest of 32 bytes. -/
def SignedRole.Digested : SignedRole→Prop
  | roster hash => hash.length=32
  | _ => True

/-- The signed string tells the role and the payload. -/
theorem SignedRole.signingInput_inj {role role' : SignedRole} (h : role.Digested)
    (h' : role'.Digested) (hsame : role.signingInput=role'.signingInput) : role=role' := by
  have hlength := congrArg List.length hsame
  cases role with
  | caller p =>
    cases role' with
    | caller q => exact congrArg caller (callerSigningInput_injective hsame)
    | answerer q => exact absurd hsame (callerSigningInput_ne_answerer p q)
    | roster hash =>
      have hdigest : hash.length=32 := h'
      have hcaller := callerSigningInput_length p
      dsimp only [signingInput] at hlength
      omega
  | answerer p =>
    cases role' with
    | caller q => exact absurd hsame.symm (callerSigningInput_ne_answerer q p)
    | answerer q => exact congrArg answerer (answererSigningInput_injective hsame)
    | roster hash =>
      have hdigest : hash.length=32 := h'
      have hanswerer := answererSigningInput_length p
      dsimp only [signingInput] at hlength
      omega
  | roster hash =>
    have hdigest : hash.length=32 := h
    cases role' with
    | caller q =>
      have hcaller := callerSigningInput_length q
      dsimp only [signingInput] at hlength
      omega
    | answerer q =>
      have hanswerer := answererSigningInput_length q
      dsimp only [signingInput] at hlength
      omega
    | roster hash' => exact congrArg roster hsame

section Roles

variable {C : PeerCrypto}

/-- A signature that a node makes in one of the roles. -/
inductive Produces (C : PeerCrypto) (key : C.SigningKey) : SignedRole→Bytes→Prop where
  /-- By `build_signed_request`. -/
  | request (payload : RequestPayload) :
      Produces C key (.caller (C.encodeRequestPayload payload))
        (buildSignedRequest C key payload).signature
  /-- By `build_signed_response`. -/
  | response (payload : ResponsePayload) :
      Produces C key (.answerer (C.encodeResponsePayload payload))
        (buildSignedResponse C key payload).signature
  /-- Over a computed signing hash. -/
  | roster {roster : Roster} {hash : Bytes}
      (computed : (computeSigningHash C.toCrypto roster : Outcome Empty Bytes)=.ok hash) :
      Produces C key (.roster hash) (C.sign key hash)

/-- A signature that passes for the key's in one of the roles. -/
inductive Passes (C : PeerCrypto) (key : C.VerifyingKey) (signature : Bytes) :
    SignedRole→Prop where
  /-- In `verify_request`, under SPKI bytes of the key. -/
  | request {signedPayload spki : Bytes} {payload : RequestPayload}
      (decodes : C.fromPublicKeyDer spki=.ok key)
      (accepted : verifyRequest C ⟨signedPayload,signature⟩ spki=.ok payload) :
      Passes C key signature (.caller signedPayload)
  /-- In `verify_response`, under SPKI bytes of the key. -/
  | response {signedPayload spki : Bytes} {payload : ResponsePayload}
      (decodes : C.fromPublicKeyDer spki=.ok key)
      (accepted : verifyResponse C ⟨signedPayload,signature⟩ spki=.ok payload) :
      Passes C key signature (.answerer signedPayload)
  /-- In `verify_roster`, stored for a signer that is listed with the key. -/
  | roster {roster : Roster} {verifierNodeNumber signer : Int32} {verifierSpki : Bytes}
      {keys : Keys C.toCrypto} {j : ℕ} {addendum : Addendum} {entry : RosterNode}
      (accepted : verifyRoster C.toCrypto roster verifierNodeNumber verifierSpki=.ok keys)
      (stored : roster.addenda[j]?=some addendum)
      (slot : (signer,signature)∈signerSlots addendum) (listed : entry∈roster.nodes)
      (number : entry.nodeNumber=signer) (decodes : C.fromPublicKeyDer entry.publicKeySpki=.ok key) :
      Passes C key signature
        (.roster (signingHash C.toCrypto (clearLatestAddendumSignatures (historyAt roster (j+1)))))

/-- A signature verifies over a string, by either of the two ways to parse it. -/
def VerifiesOver (C : PeerCrypto) (key : C.VerifyingKey) (message signature : Bytes) : Prop :=
  EnvelopeSigned key message signature ∨
    verifySignature C.toCrypto key message signature=.ok ()

/-- Whatever passes verifies over the string of its role. -/
theorem Passes.verifies {key : C.VerifyingKey} {signature : Bytes} {role : SignedRole}
    (h : Passes C key signature role) : VerifiesOver C key role.signingInput signature := by
  cases h with
  | request decodes accepted => exact Or.inl (signed_of_verifyRequest accepted decodes)
  | response decodes accepted => exact Or.inl (signed_of_verifyResponse accepted decodes)
  | @roster roster _ signer _ _ j _ entry accepted stored slot listed number decodes =>
    obtain ⟨_,_,hbuilt,_,_⟩ := verifyRoster_eq_ok.mp accepted
    obtain ⟨node,hm,hn,found,hfound,hsigned⟩ := HonestlyBuilt.slots hbuilt stored slot
    have hsame : node=entry := hbuilt.invariant.entry_unique hm listed (hn.trans number.symm)
    subst hsame
    obtain rfl := Except.ok.inj (hfound.symm.trans decodes)
    exact Or.inr (signedState_iff.mp hsigned)

/-- A role in which something passes has a digest, if it has any. -/
theorem Passes.digested (hsha : ∀ message,(C.sha256 message).length=32) {key : C.VerifyingKey}
    {signature : Bytes} {role : SignedRole} (h : Passes C key signature role) :
    role.Digested := by
  cases h with
  | request => trivial
  | response => trivial
  | roster => exact hsha _

/-- A role in which a node signs has a digest, if it has any. -/
theorem Produces.digested (hsha : ∀ message,(C.sha256 message).length=32) {key : C.SigningKey}
    {signature : Bytes} {role : SignedRole} (h : Produces C key role signature) :
    role.Digested := by
  cases h with
  | request => trivial
  | response => trivial
  | roster computed =>
    simp only [computeSigningHash,Outcome.bind_eq_ok,Outcome.pure_eq_ok,Outcome.ok.injEq]
      at computed
    obtain ⟨_,_,rfl⟩ := computed
    exact hsha _

/-- A signature that verifies only over strings signed in some of the roles passes in
those roles only. -/
theorem passes_only_signed (hsha : ∀ message,(C.sha256 message).length=32)
    {key : C.VerifyingKey} {signature : Bytes} {signed : SignedRole→Prop}
    (hdigested : ∀ role,signed role → role.Digested)
    (hideal : ∀ message,VerifiesOver C key message signature →
      ∃ role,signed role ∧ role.signingInput=message) {role : SignedRole}
    (h : Passes C key signature role) : signed role := by
  obtain ⟨found,hfound,hinput⟩ := hideal _ h.verifies
  obtain rfl := SignedRole.signingInput_inj (hdigested found hfound) (h.digested hsha) hinput
  exact hfound

end Roles

/-- The strings signed in the three roles are pairwise different and determine their
payloads; what a build function produced verifies under the signer's SPKI with
exactly its payload; and where signatures verify only over what was signed, a
signature passes only in the role, and for the bytes, it was produced for. -/
theorem signature_roles_apart (C : PeerCrypto) (hsha : ∀ message,(C.sha256 message).length=32)
    (hround : C.SpkiRoundTrip) (hsign : C.SignsCorrectly) (hdecodes : C.Decodes) :
    (∀ p q : Bytes,callerSigningInput p≠answererSigningInput q) ∧
    (∀ (p : Bytes) (roster : Roster) (hash : Bytes),
      (computeSigningHash C.toCrypto roster : Outcome Empty Bytes)=.ok hash →
      hash.length=32 ∧ callerSigningInput p≠hash ∧ answererSigningInput p≠hash) ∧
    Function.Injective callerSigningInput ∧ Function.Injective answererSigningInput ∧
    (∀ (key : C.SigningKey) (payload : RequestPayload),
      verifyRequest C (buildSignedRequest C key payload) (C.publicKeySpki key)=.ok payload) ∧
    (∀ (key : C.SigningKey) (payload : ResponsePayload),
      verifyResponse C (buildSignedResponse C key payload) (C.publicKeySpki key)=.ok payload) ∧
    (∀ (key : C.SigningKey) (role : SignedRole) (signature : Bytes),
      Produces C key role signature →
      (∀ message,VerifiesOver C (C.verifyingKey key) message signature →
        message=role.signingInput) →
      ∀ role',Passes C (C.verifyingKey key) signature role' → role'=role) ∧
    (∀ (key : C.VerifyingKey) (signature : Bytes) (signed : SignedRole→Prop),
      (∀ role,signed role → role.Digested) →
      (∀ message,VerifiesOver C key message signature →
        ∃ role,signed role ∧ role.signingInput=message) →
      ∀ role,Passes C key signature role → signed role) := by
  refine ⟨callerSigningInput_ne_answerer,?_,callerSigningInput_injective,
    answererSigningInput_injective,verifyRequest_built hround hsign hdecodes,
    verifyResponse_built hround hsign hdecodes,?_,?_⟩
  · intro p roster hash hcomputed
    have hproduced : ∀ key : C.SigningKey,Produces C key (.roster hash) (C.sign key hash) :=
      fun key => .roster hcomputed
    have hdigest : hash.length=32 :=
      (hproduced (C.signingKeyFromBytes [])).digested hsha
    have hcaller := callerSigningInput_length p
    have hanswerer := answererSigningInput_length p
    refine ⟨hdigest,?_,?_⟩
    · rintro rfl
      omega
    · rintro rfl
      omega
  · intro key role signature hproduces hideal role' hpasses
    refine @passes_only_signed C hsha _ signature (fun found => found=role) ?_ ?_ role' hpasses
    · rintro found rfl
      exact hproduces.digested hsha
    · intro message hverifies
      exact ⟨role,rfl,(hideal message hverifies).symm⟩
  · intro key signature signed hdigested hideal role hpasses
    exact passes_only_signed hsha hdigested hideal hpasses

/-- A short message is the only one that its sealed signature verifies over. -/
theorem sealed_verifies_only {key : UInt8} {message signed : Bytes} (hshort : signed.length≤62)
    (h : VerifiesOver sealedCrypto key message (sealSignature key signed)) : message=signed := by
  have hsame : ∀ m,sealedCrypto.verify key m (sealSignature key signed)=true → m=signed :=
    fun m hm => sealSignature_inj_short hshort (beq_iff_eq.mp hm).symm
  have hparse : sealedCrypto.signatureFromSlice (sealSignature key signed)=
      some (sealSignature key signed) := if_pos (sealSignature_length key signed)
  rcases h with henvelope|hroster
  · exact hsame _ henvelope.2
  · simp only [verifySignature,Outcome.bind_eq_ok,Outcome.okOr_eq_ok,Outcome.reject_eq_ok,
      Bool.not_eq_false] at hroster
    obtain ⟨parsed,hparsed,hverifies⟩ := hroster
    obtain rfl := Option.some.inj (hparsed.symm.trans hparse)
    exact hsame _ hverifies

/-- A request to node 2. -/
def shortRequestPayload : RequestPayload := ⟨2,[7,7],"",0,none,0,0⟩

/-- The signature of a request to node 2 passes neither as that of an answer with the same
payload nor as that of an empty roster digest. -/
theorem signature_roles_apart_request :
    ¬Passes sealedCrypto (1 : UInt8)
      (buildSignedRequest sealedCrypto (1 : UInt8) shortRequestPayload).signature
      (.answerer (sealedCrypto.encodeRequestPayload shortRequestPayload)) ∧
    ¬Passes sealedCrypto (1 : UInt8)
      (buildSignedRequest sealedCrypto (1 : UInt8) shortRequestPayload).signature (.roster []) := by
  have hapart := signature_roles_apart sealedCrypto digest_length sealedCrypto_spkiRoundTrip
    sealedCrypto_signsCorrectly sealedCrypto_decodes
  have hshort : (callerSigningInput
      (sealedCrypto.encodeRequestPayload shortRequestPayload)).length≤62 := by decide +kernel
  have honly := hapart.2.2.2.2.2.2.1 (1 : UInt8) _ _ (.request shortRequestPayload)
    fun message hverifies => sealed_verifies_only hshort hverifies
  constructor
  · intro hpasses
    cases honly _ hpasses
  · intro hpasses
    cases honly _ hpasses

end WispersConnect.SignatureRoles
