import WispersConnect.CodeLifetimes

/-!
# Pairings that nobody takes further

The bound on activations counts codes and pending endorsements together. Codes count
until they expire. An endorsement counts until it is co-signed, and a node that has
paired may never ask for that. So an endorser issues codes again after every code has
expired exactly if fewer nodes than the bound are left waiting.
-/

namespace WispersConnect.AbandonedPairings

open Messages Cryptography PairingCodes SymbolicCrypto Endorsing EndorserRuns CodeLifetimes Runs

/-- The nodes left waiting after a call, of those waiting before it. -/
def awaitingAfter (awaiting : Finset Int32) (event : EndorserEvent) : Finset Int32 :=
  match event with
  | .restart => ∅
  | .generateActivationCode _ _ _ _ _ => awaiting
  | .pairNodes message _ _ _ (.ok _) =>
    match message.payload with
    | some payload => insert payload.senderNodeNumber awaiting
    | none => awaiting
  | .pairNodes _ _ _ _ (.error _) => awaiting
  | .rosterCosign request (.ok _) => awaiting.erase request.newNodeNumber.toInt32
  | .rosterCosign _ _ => awaiting

/-- The nodes that paired in the current session and have not been co-signed since. -/
def awaitingCosign (log : List EndorserEvent) : Finset Int32 := log.foldl awaitingAfter ∅

/-- A call that ends no wait: neither a new session nor an answered co-sign request. -/
def KeepsWaiting (event : EndorserEvent) : Prop := event≠.restart ∧ cosignedNode event=none

section Waiting

variable {C : Crypto} {endorser : Endorser C}

/-- A call leaves those waiting whose endorsement is pending after it. -/
theorem EndorserStep.awaiting {before after : EndorsingState} {event : EndorserEvent}
    (h : EndorserStep endorser before event after) :
    after.pendingEndorsements.keys=awaitingAfter before.pendingEndorsements.keys event := by
  cases h.effect with
  | restarted => exact Finmap.keys_empty
  | refusedIssue => rfl
  | issued => rfl
  | refusedPairing same =>
    rcases same with rfl|rfl
    · rfl
    · rfl
  | paired hasPayload =>
    dsimp only [awaitingAfter]
    rw [hasPayload]
    exact keys_insert _ _ _
  | refusedCosign => rfl
  | cosigned => exact Finmap.keys_erase _ _

/-- In every run, the pending endorsements are those of the nodes left waiting. -/
theorem pending_awaiting {log : List EndorserEvent} {state : EndorsingState}
    (run : EndorserRun endorser log state) :
    state.pendingEndorsements.keys=awaitingCosign log := by
  refine run.invariant
    (motive := fun log state => state.pendingEndorsements.keys=awaitingCosign log) ?_ ?_
  · exact Finmap.keys_empty
  · intro log before event after _ ih hstep
    rw [EndorserStep.awaiting hstep,ih]
    unfold awaitingCosign
    rw [List.foldl_append]
    rfl

/-- Who is waiting stays waiting where no call ends a wait. -/
theorem awaitingAfter_keeps {event : EndorserEvent} (h : KeepsWaiting event)
    (awaiting : Finset Int32) : awaiting⊆awaitingAfter awaiting event := by
  cases event with
  | restart => exact absurd rfl h.1
  | generateActivationCode => exact subset_rfl
  | pairNodes message now ourNonce used result =>
    cases result with
    | error e => exact subset_rfl
    | ok reply =>
      dsimp only [awaitingAfter]
      cases message.payload with
      | none => exact subset_rfl
      | some payload => exact Finset.subset_insert _ _
  | rosterCosign request result =>
    cases result with
    | ok response => cases h.2
    | err e => exact subset_rfl
    | panic message => exact subset_rfl

/-- Calls that each keep what waits for a co-signature keep it together. -/
theorem awaitingCosign_keeps (log : List EndorserEvent) {later : List EndorserEvent}
    (h : ∀ event∈later,KeepsWaiting event) : awaitingCosign log⊆awaitingCosign (log++later) := by
  unfold awaitingCosign
  rw [List.foldl_append]
  generalize log.foldl awaitingAfter ∅=awaiting
  induction later generalizing awaiting with
  | nil => exact subset_rfl
  | cons event later ih =>
    have hrest := ih fun other hother => h other (List.mem_cons_of_mem _ hother)
    exact (awaitingAfter_keeps (h event List.mem_cons_self) awaiting).trans (hrest _)

end Waiting

section Issuing

variable {C : Crypto} {endorser : Endorser C}

/-- Below the bound a code is issued, and at the bound it is refused. -/
theorem generateActivationCode_result (state : EndorsingState) (nodeNumber : Int32)
    (ttlProfile : TtlProfile) (pruneTime issueTime : ℕ) (secret : PairingSecret) :
    (state.generateActivationCode nodeNumber ttlProfile pruneTime issueTime secret).2=
      if maxActiveActivations≤(state.pruneExpired pruneTime).pairingSecrets.length+
          state.pendingEndorsements.keys.card then .error .tooManyActivationSessions
        else .ok ⟨nodeNumber,secret⟩ := by
  unfold EndorsingState.generateActivationCode
  rw [←card_entries]
  dsimp only
  split_ifs with hbound hbound'
  · rfl
  · exact absurd hbound hbound'
  · contradiction
  · rfl

/-- Nothing is outstanding once every code has expired. -/
theorem pruneExpired_issued {log : List EndorserEvent} {state : EndorsingState}
    (run : EndorserRun endorser log state) {pruneTime : ℕ}
    (hexpired : ∀ ts∈log.filterMap issuedSecret,ts.expiresAt≤pruneTime) :
    (state.pruneExpired pruneTime).pairingSecrets=[] := by
  refine List.filter_eq_nil_iff.mpr fun ts hts hlater => ?_
  have hissued := hexpired ts (outstanding_issued run hts)
  exact absurd (of_decide_eq_true hlater) (not_lt.mpr hissued)

/-- In every run, once every code issued has expired a code is issued exactly if fewer nodes than
the bound are left waiting for a co-signature. -/
theorem issues_again_iff (C : Crypto) (endorser : Endorser C) (log : List EndorserEvent)
    (state : EndorsingState) (run : EndorserRun endorser log state) (pruneTime : ℕ)
    (hexpired : ∀ ts∈log.filterMap issuedSecret,ts.expiresAt≤pruneTime) (ttlProfile : TtlProfile)
    (issueTime : ℕ) (secret : PairingSecret) :
    (state.generateActivationCode endorser.nodeNumber ttlProfile pruneTime issueTime secret).2=
      .ok ⟨endorser.nodeNumber,secret⟩ ↔ (awaitingCosign log).card < maxActiveActivations := by
  rw [generateActivationCode_result,pruneExpired_issued run hexpired,pending_awaiting run,
    List.length_nil,Nat.zero_add]
  split_ifs with hbound
  · exact iff_of_false nofun (not_lt.mpr hbound)
  · exact iff_of_true rfl (not_le.mp hbound)

/-- With as many nodes waiting as the bound, no code is issued at any time until one of them is
co-signed or a new session starts. -/
theorem refused_while_waiting {log later : List EndorserEvent} {state : EndorsingState}
    (run : EndorserRun endorser (log++later) state) (hkeeps : ∀ event∈later,KeepsWaiting event)
    (hmany : maxActiveActivations≤(awaitingCosign log).card) (ttlProfile : TtlProfile)
    (pruneTime issueTime : ℕ) (secret : PairingSecret) :
    (state.generateActivationCode endorser.nodeNumber ttlProfile pruneTime issueTime secret).2=
      .error .tooManyActivationSessions := by
  have hcard := Finset.card_le_card (awaitingCosign_keeps log hkeeps)
  rw [generateActivationCode_result,pending_awaiting run]
  exact if_pos (hmany.trans (hcard.trans (Nat.le_add_left _ _)))

end Issuing

section Abandoned

/-- The number of a new node. -/
def newcomer (i : ℕ) : Int32 := Int32.ofNat (i+2)

/-- The secret of the code it is given. -/
def newcomerSecret (i : ℕ) : PairingSecret := ⟨[0,0,0,0,0,0,UInt8.ofNat (i+1)]⟩

/-- What it sends to pair. -/
def newcomerPayload (i : ℕ) : PairNodesPayload := ⟨newcomer i,1,symbolicSpki 2,[21],[]⟩

/-- That, with its tag. -/
def newcomerRequest (i : ℕ) : PairNodesMessage :=
  ⟨some (newcomerPayload i),(newcomerSecret i).computeMac symbolicCrypto
    (symbolicCrypto.encodePairNodesPayload (newcomerPayload i))⟩

/-- A new node is given a code, pairs with it and never asks for a co-signature. -/
def abandonedRound (i : ℕ) : List EndorserEvent :=
  [.generateActivationCode .interactive 0 0 (newcomerSecret i) (.ok ⟨1,newcomerSecret i⟩),
   .pairNodes (newcomerRequest i) 0 [11] (some (newcomerSecret i))
    (.ok (pairingReply symbolicCrypto (1 : UInt8) 1 (newcomerSecret i) (newcomerPayload i) [11]))]

/-- Some new nodes, one after another, are given a code, pair with it and go no further. -/
def abandonedLog (n : ℕ) : List EndorserEvent := (List.range n).flatMap abandonedRound

/-- One node more. -/
theorem abandonedLog_succ (n : ℕ) : abandonedLog (n+1)=abandonedLog n++abandonedRound n := by
  unfold abandonedLog
  rw [List.range_succ,List.flatMap_append,List.flatMap_singleton]

/-- They are left waiting. -/
theorem awaitingCosign_abandoned (n : ℕ) :
    awaitingCosign (abandonedLog n)=(Finset.range n).image newcomer := by
  induction n with
  | zero => rfl
  | succ n ih =>
    rw [abandonedLog_succ,awaitingCosign,List.foldl_append,Finset.range_add_one,Finset.image_insert,
      ←ih]
    rfl

/-- A new node can be given a code and pair while fewer nodes than the bound are waiting. -/
theorem abandonedRound_run {log : List EndorserEvent} {state : EndorsingState}
    (run : EndorserRun firstEndorser log state) (hnone : state.pairingSecrets=[])
    (hfew : (awaitingCosign log).card < maxActiveActivations) (i : ℕ) :
    ∃ state',EndorserRun firstEndorser (log++abandonedRound i) state' ∧
      state'.pairingSecrets=[] := by
  have hproduction := ttlOverride_none run
  have hwaiting := pending_awaiting run
  obtain ⟨ttlOverride,secrets,pending⟩ := state
  obtain rfl : ttlOverride=none := hproduction
  obtain rfl : secrets=[] := hnone
  let code : TimedSecret := ⟨newcomerSecret i,0+TtlProfile.interactive.ttl⟩
  let issued : EndorsingState := ⟨none,[code],pending⟩
  have hissue : EndorsingState.generateActivationCode ⟨none,[],pending⟩ firstEndorser.nodeNumber
      .interactive 0 0 (newcomerSecret i)=(issued,.ok ⟨1,newcomerSecret i⟩) := by
    have hbelow : ¬maxActiveActivations≤0+pending.entries.card := by
      rw [card_entries,Nat.zero_add]
      exact not_le.mpr (hwaiting▸hfew)
    exact if_neg hbelow
  have hverifies : code.secret.verifyMac symbolicCrypto
      (symbolicCrypto.encodePairNodesPayload (newcomerPayload i)) (newcomerRequest i).mac=true :=
    (verifyMac_iff _ _ _ _).mpr rfl
  have hfound : issued.verifyingSecret symbolicCrypto (newcomerRequest i) 0=some code := by
    have hfresh : (issued.pruneExpired 0).pairingSecrets=[code] := rfl
    unfold EndorsingState.verifyingSecret
    rw [hfresh]
    change [code].find? (fun ts => ts.secret.verifyMac symbolicCrypto
      (symbolicCrypto.encodePairNodesPayload (newcomerPayload i)) (newcomerRequest i).mac)=some code
    rw [List.find?_cons_of_pos]
    exact hverifies
  rcases pairNodes_cases symbolicCrypto issued (newcomerRequest i) firstEndorser.nodeNumber
    firstEndorser.signingKey 0 [11] with ⟨hnone,_⟩|⟨payload,ts,left,hsome,hpayload,_,hperm,hpair⟩
  · rw [hfound] at hnone
    cases hnone
  · obtain rfl := Option.some.inj (hfound.symm.trans hsome)
    obtain rfl : left=[] := List.length_eq_zero_iff.mp (Nat.succ.inj hperm.length_eq)
    obtain rfl := Option.some.inj hpayload
    have hrun := (run.next (.generateActivationCode hissue)).next (.pairNodes hpair)
    rw [hfound,List.append_assoc] at hrun
    exact ⟨_,hrun,rfl⟩

/-- As many new nodes as the bound can be left waiting. -/
theorem abandonedLog_run {n : ℕ} (hn : n ≤ maxActiveActivations) :
    ∃ state,EndorserRun firstEndorser (abandonedLog n) state ∧ state.pairingSecrets=[] := by
  induction n with
  | zero => exact ⟨_,.start,rfl⟩
  | succ n ih =>
    obtain ⟨state,hrun,hnone⟩ := ih (Nat.le_of_succ_le hn)
    have hfew : (awaitingCosign (abandonedLog n)).card < maxActiveActivations := by
      rw [awaitingCosign_abandoned]
      exact (Finset.card_image_le.trans_eq (Finset.card_range n)).trans_lt hn
    rw [abandonedLog_succ]
    exact abandonedRound_run hrun hnone hfew n

/-- After one abandoned pairing a code is issued again. -/
theorem issues_again_iff_once : ∃ state,EndorserRun firstEndorser (abandonedLog 1) state ∧
    (state.generateActivationCode 1 .interactive TtlProfile.interactive.ttl
      TtlProfile.interactive.ttl (newcomerSecret 1)).2=.ok ⟨1,newcomerSecret 1⟩ := by
  obtain ⟨state,hrun,_⟩ := abandonedLog_run (n := 1) (by decide)
  exact ⟨state,hrun,(issues_again_iff symbolicCrypto firstEndorser (abandonedLog 1) state hrun
    TtlProfile.interactive.ttl (by decide +kernel) .interactive TtlProfile.interactive.ttl
    (newcomerSecret 1)).mpr (by decide +kernel)⟩

/-- After a hundred abandoned pairings no code is ever issued, whatever comes next, until one of
these nodes is co-signed or a new session starts. -/
theorem hundred_abandoned : ∃ state,EndorserRun firstEndorser (abandonedLog 100) state ∧
    (∀ ts∈(abandonedLog 100).filterMap issuedSecret,ts.expiresAt≤TtlProfile.interactive.ttl) ∧
    (∀ pruneTime,TtlProfile.interactive.ttl≤pruneTime → ∀ issueTime secret,
      (state.generateActivationCode 1 .interactive pruneTime issueTime secret).2=
        .error .tooManyActivationSessions) ∧
    ∀ later state',EndorserRun firstEndorser (abandonedLog 100++later) state' →
      (∀ event∈later,KeepsWaiting event) → ∀ ttlProfile pruneTime issueTime secret,
      (state'.generateActivationCode 1 ttlProfile pruneTime issueTime secret).2=
        .error .tooManyActivationSessions := by
  obtain ⟨state,hrun,_⟩ := abandonedLog_run (Nat.le_refl maxActiveActivations)
  have hmany : maxActiveActivations≤(awaitingCosign (abandonedLog 100)).card := by
    decide +kernel
  have hrefused : ∀ later state',EndorserRun firstEndorser (abandonedLog 100++later) state' →
      (∀ event∈later,KeepsWaiting event) → ∀ ttlProfile pruneTime issueTime secret,
      (state'.generateActivationCode 1 ttlProfile pruneTime issueTime secret).2=
        .error .tooManyActivationSessions :=
    fun later state' hlater hkeeps => refused_while_waiting hlater hkeeps hmany
  refine ⟨state,hrun,by decide +kernel,fun pruneTime _ => ?_,hrefused⟩
  have hsame : EndorserRun firstEndorser (abandonedLog 100++[]) state :=
    (List.append_nil (abandonedLog 100)).symm▸hrun
  exact hrefused [] state hsame nofun .interactive pruneTime

end Abandoned

end WispersConnect.AbandonedPairings
