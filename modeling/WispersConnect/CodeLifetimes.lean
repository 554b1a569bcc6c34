import WispersConnect.PairingSecrets

/-!
# The lifetime of an activation code

Over whole runs of an endorsing state. Codes outstanding and endorsements pending
stay within the bound on activations. A code is used up by the one pairing it
authorises, before it expires. A co-signature uses up the endorsement of one pairing.
A call that fails leaves unexpired codes and pending endorsements as they were.
-/

namespace WispersConnect.CodeLifetimes

open Messages OutcomeMonad Cryptography PairingCodes Endorsing EndorserRuns PairingSecrets Runs

/-- The secret a call puts into a new code, with its expiry. -/
def issuedSecret : EndorserEvent→Option TimedSecret
  | .generateActivationCode ttlProfile _ issueTime secret (.ok _) =>
    some ⟨secret,issueTime+ttlProfile.ttl⟩
  | _ => none

/-- The secret that authorised a successful pairing, with the instant of the call. -/
def authorisingSecret : EndorserEvent→Option (PairingSecret×ℕ)
  | .pairNodes _ now _ (some secret) (.ok _) => some (secret,now)
  | _ => none

/-- The node a successful pairing is with, and the endorsement it leaves pending. -/
def pairedNode : EndorserEvent→Option (Int32×PendingEndorsement)
  | .pairNodes message _ ourNonce _ (.ok _) => message.payload.map fun payload =>
    (payload.senderNodeNumber,⟨payload.publicKeySpki,payload.nonce,ourNonce⟩)
  | _ => none

/-- The node a successful co-signature is for. -/
def cosignedNode : EndorserEvent→Option Int32
  | .rosterCosign request (.ok _) => some request.newNodeNumber.toInt32
  | _ => none

/-- A call that returned an error. -/
def Fails : EndorserEvent→Prop
  | .restart => False
  | .generateActivationCode _ _ _ _ result => ∀ code,result≠.ok code
  | .pairNodes _ _ _ _ result => ∀ reply,result≠.ok reply
  | .rosterCosign _ result => ∀ response,result≠.ok response

/-- The instant at which a call drops expired codes, if it does. -/
def prunesAt : EndorserEvent→Option ℕ
  | .generateActivationCode _ pruneTime _ _ _ => some pruneTime
  | .pairNodes _ now _ _ _ => some now
  | _ => none

/-- Codes and endorsements of activations under way. -/
def activeActivations (state : EndorsingState) : ℕ :=
  state.pairingSecrets.length+state.pendingEndorsements.entries.card

/-- Neither a new session nor a pairing or co-signature of the node. -/
def LeavesPending (nodeNumber : Int32) (event : EndorserEvent) : Prop :=
  event≠.restart ∧ (∀ pending,pairedNode event≠some (nodeNumber,pending)) ∧
    cosignedNode event≠some nodeNumber

/-- The event at the first position co-signs the endorsement of the pairing at the
second, and no event between them replaced or dropped it. -/
structure Consumes (log : List EndorserEvent) (i j : ℕ) (nodeNumber : Int32)
    (pending : PendingEndorsement) : Prop where
  /-- The pairing came first. -/
  earlier : j < i
  /-- It left the endorsement pending. -/
  paired : log[j]?.bind pairedNode=some (nodeNumber,pending)
  /-- The co-signature is for the same node. -/
  cosigned : log[i]?.bind cosignedNode=some nodeNumber
  /-- Nothing touched it in between. -/
  untouched : ∀ k event,j < k → k < i → log[k]?=some event → LeavesPending nodeNumber event

/-- The number of keys of a map is the number of its entries. -/
theorem card_entries (pending : Finmap fun _ : Int32 => PendingEndorsement) :
    pending.entries.card=pending.keys.card := (Multiset.card_map Sigma.fst pending.entries).symm

/-- The keys after an insertion. -/
theorem keys_insert (nodeNumber : Int32) (entry : PendingEndorsement)
    (pending : Finmap fun _ : Int32 => PendingEndorsement) :
    (pending.insert nodeNumber entry).keys=insert nodeNumber pending.keys := by
  ext number
  rw [Finmap.mem_keys,Finmap.mem_insert,Finset.mem_insert,Finmap.mem_keys]

/-- An insertion adds at most one entry. -/
theorem card_insert_le (nodeNumber : Int32) (entry : PendingEndorsement)
    (pending : Finmap fun _ : Int32 => PendingEndorsement) :
    (pending.insert nodeNumber entry).entries.card≤pending.entries.card+1 := by
  rw [card_entries,card_entries,keys_insert]
  exact Finset.card_insert_le nodeNumber pending.keys

/-- Erasing adds none. -/
theorem card_erase_le (nodeNumber : Int32)
    (pending : Finmap fun _ : Int32 => PendingEndorsement) :
    (pending.erase nodeNumber).entries.card≤pending.entries.card := by
  rw [card_entries,card_entries,Finmap.keys_erase]
  exact Finset.card_erase_le

section Steps

variable {C : Crypto} {endorser : Endorser C}

/-- No call changes the lifetime of codes. -/
theorem EndorserStep.ttlOverride {before after : EndorsingState} {event : EndorserEvent}
    (h : EndorserStep endorser before event after) (hb : before.ttlOverride=none) :
    after.ttlOverride=none := by
  cases h.effect with
  | restarted => rfl
  | refusedIssue => exact hb
  | issued => exact hb
  | refusedPairing same =>
    rcases same with rfl|rfl
    · exact hb
    · exact hb
  | paired => exact hb
  | refusedCosign => exact hb
  | cosigned => exact hb

/-- In production codes live as long as their profile says. -/
theorem ttlOverride_none {log : List EndorserEvent} {state : EndorsingState}
    (run : EndorserRun endorser log state) : state.ttlOverride=none := by
  refine run.invariant (motive := fun _ state => state.ttlOverride=none) rfl ?_
  intro _ before event after _ ih hstep
  exact EndorserStep.ttlOverride hstep ih

/-- Dropping expired codes leaves no more activations under way. -/
theorem activeActivations_pruneExpired (state : EndorsingState) (now : ℕ) :
    activeActivations (state.pruneExpired now)≤activeActivations state :=
  Nat.add_le_add_right (pruneExpired_sublist state now).length_le _

/-- No call exceeds the bound on activations. -/
theorem EndorserStep.bounded {before after : EndorsingState} {event : EndorserEvent}
    (h : EndorserStep endorser before event after)
    (hb : activeActivations before ≤ maxActiveActivations) :
    activeActivations after ≤ maxActiveActivations := by
  cases h.effect with
  | restarted => exact Nat.zero_le _
  | refusedIssue => exact (activeActivations_pruneExpired _ _).trans hb
  | issued below =>
    dsimp only [activeActivations]
    rw [List.length_append,List.length_singleton]
    omega
  | refusedPairing same =>
    rcases same with rfl|rfl
    · exact hb
    · exact (activeActivations_pruneExpired _ _).trans hb
  | @paired message now ourNonce payload ts secrets _ _ removed =>
    have hpruned := (activeActivations_pruneExpired before now).trans hb
    have hlength := removed.length_eq
    have hcard := card_insert_le payload.senderNodeNumber
      ⟨payload.publicKeySpki,payload.nonce,ourNonce⟩ before.pendingEndorsements
    rw [List.length_cons] at hlength
    dsimp only [activeActivations,EndorsingState.pruneExpired] at hpruned hlength ⊢
    omega
  | refusedCosign => exact hb
  | @cosigned request =>
    have hcard := card_erase_le request.newNodeNumber.toInt32 before.pendingEndorsements
    exact (Nat.add_le_add_left hcard _).trans hb

/-- Codes outstanding and endorsements pending never exceed the bound. -/
theorem activations_bounded {log : List EndorserEvent} {state : EndorsingState}
    (run : EndorserRun endorser log state) : activeActivations state ≤ maxActiveActivations := by
  refine run.invariant (motive := fun _ state => activeActivations state ≤ maxActiveActivations)
    (Nat.zero_le _) ?_
  intro _ before event after _ ih hstep
  exact EndorserStep.bounded hstep ih

/-- What is outstanding after a step was so before, or was just issued. -/
theorem EndorserStep.outstanding {before after : EndorsingState} {event : EndorserEvent}
    (h : EndorserStep endorser before event after) (hb : before.ttlOverride=none)
    {ts : TimedSecret} (hts : ts∈after.pairingSecrets) :
    ts∈before.pairingSecrets ∨ issuedSecret event=some ts := by
  cases h.effect with
  | restarted => exact absurd hts List.not_mem_nil
  | refusedIssue => exact Or.inl ((pruneExpired_sublist _ _).subset hts)
  | issued =>
    rcases List.mem_append.mp hts with hold|hnew
    · exact Or.inl ((pruneExpired_sublist _ _).subset hold)
    · rw [hb,Option.getD_none] at hnew
      exact Or.inr (congrArg some (List.mem_singleton.mp hnew).symm)
  | refusedPairing same =>
    rcases same with rfl|rfl
    · exact Or.inl hts
    · exact Or.inl ((pruneExpired_sublist _ _).subset hts)
  | paired _ _ removed =>
    have hkept := removed.subset (List.mem_cons_of_mem _ hts)
    exact Or.inl ((pruneExpired_sublist _ _).subset hkept)
  | refusedCosign => exact Or.inl hts
  | cosigned => exact Or.inl hts

/-- Every outstanding secret is one of an issued code, with its expiry. -/
theorem outstanding_issued {log : List EndorserEvent} {state : EndorsingState}
    (run : EndorserRun endorser log state) {ts : TimedSecret} (hts : ts∈state.pairingSecrets) :
    ts∈log.filterMap issuedSecret := by
  have hall : ∀ ts∈state.pairingSecrets,ts∈log.filterMap issuedSecret := by
    refine run.invariant
      (motive := fun log state => ∀ ts∈state.pairingSecrets,ts∈log.filterMap issuedSecret)
      (fun ts h => absurd h List.not_mem_nil) ?_
    intro log before event after earlier ih hstep ts hts
    rw [List.filterMap_append,List.mem_append]
    rcases EndorserStep.outstanding hstep (ttlOverride_none earlier) hts with hold|hnew
    · exact Or.inl (ih ts hold)
    · exact Or.inr (List.mem_filterMap.mpr ⟨event,List.mem_cons_self,hnew⟩)
  exact hall ts hts

/-- A pending endorsement was just left by a pairing, or was there and is untouched. -/
theorem EndorserStep.lookup {before after : EndorsingState} {event : EndorserEvent}
    (h : EndorserStep endorser before event after) {nodeNumber : Int32}
    {pending : PendingEndorsement}
    (hp : after.pendingEndorsements.lookup nodeNumber=some pending) :
    pairedNode event=some (nodeNumber,pending) ∨
      before.pendingEndorsements.lookup nodeNumber=some pending ∧
        LeavesPending nodeNumber event := by
  cases h.effect with
  | restarted =>
    rw [new_pending] at hp
    cases hp
  | refusedIssue => exact Or.inr ⟨hp,nofun,nofun,nofun⟩
  | issued => exact Or.inr ⟨hp,nofun,nofun,nofun⟩
  | refusedPairing same =>
    rcases same with rfl|rfl
    · exact Or.inr ⟨hp,nofun,nofun,nofun⟩
    · exact Or.inr ⟨hp,nofun,nofun,nofun⟩
  | @paired message now ourNonce payload ts secrets hasPayload =>
    dsimp only at hp
    have hpaired : pairedNode (.pairNodes message now ourNonce (some ts.secret)
        (.ok (pairingReply C endorser.signingKey endorser.nodeNumber ts.secret payload ourNonce)))=
        some (payload.senderNodeNumber,⟨payload.publicKeySpki,payload.nonce,ourNonce⟩) := by
      rw [pairedNode,hasPayload,Option.map_some]
    by_cases hn : nodeNumber=payload.senderNodeNumber
    · subst hn
      rw [Finmap.lookup_insert] at hp
      exact Or.inl (hpaired.trans (congrArg (fun p => some (payload.senderNodeNumber,p))
        (Option.some.inj hp)))
    · rw [Finmap.lookup_insert_of_ne _ hn] at hp
      refine Or.inr ⟨hp,nofun,?_,nofun⟩
      intro other hother
      exact hn (congrArg Prod.fst (Option.some.inj (hother.symm.trans hpaired)))
  | refusedCosign => exact Or.inr ⟨hp,nofun,nofun,nofun⟩
  | @cosigned request =>
    dsimp only at hp
    by_cases hn : nodeNumber=request.newNodeNumber.toInt32
    · rw [hn,Finmap.lookup_erase] at hp
      cases hp
    · rw [Finmap.lookup_erase_ne hn] at hp
      refine Or.inr ⟨hp,nofun,nofun,?_⟩
      intro hcosigned
      exact hn (Option.some.inj hcosigned).symm

/-- What is pending was left by a pairing and has not been touched since. -/
theorem pending_latest {log : List EndorserEvent} {state : EndorsingState}
    (run : EndorserRun endorser log state) {nodeNumber : Int32} {pending : PendingEndorsement}
    (hp : state.pendingEndorsements.lookup nodeNumber=some pending) :
    ∃ j : ℕ,log[j]?.bind pairedNode=some (nodeNumber,pending) ∧
      ∀ k event,j < k → log[k]?=some event → LeavesPending nodeNumber event := by
  revert hp
  refine run.invariant (motive := fun log state =>
    state.pendingEndorsements.lookup nodeNumber=some pending →
      ∃ j : ℕ,log[j]?.bind pairedNode=some (nodeNumber,pending) ∧
        ∀ k event,j < k → log[k]?=some event → LeavesPending nodeNumber event) ?_ ?_
  · intro hp
    rw [new_pending] at hp
    cases hp
  · intro log before event after _ ih hstep hp
    rcases EndorserStep.lookup hstep hp with hnew|⟨hold,hleaves⟩
    · refine ⟨log.length,?_,?_⟩
      · rw [List.getElem?_concat_length]
        exact hnew
      · intro k other hk hget
        have hlt := (List.getElem?_eq_some_iff.mp hget).1
        rw [List.length_append,List.length_singleton] at hlt
        omega
    · obtain ⟨j,hpaired,huntouched⟩ := ih hold
      have hj : j<log.length := by
        by_contra hlong
        rw [List.getElem?_eq_none (not_lt.mp hlong)] at hpaired
        cases hpaired
      refine ⟨j,?_,?_⟩
      · rw [List.getElem?_append_left hj]
        exact hpaired
      · intro k other hk hget
        by_cases hlt : k<log.length
        · rw [List.getElem?_append_left hlt] at hget
          exact huntouched k other hk hget
        · have hle := (List.getElem?_eq_some_iff.mp hget).1
          rw [List.length_append,List.length_singleton] at hle
          have he : k=log.length := by omega
          subst he
          rw [List.getElem?_concat_length] at hget
          exact Option.some.inj hget ▸ hleaves

/-- Every co-signature uses up the endorsement of a pairing. -/
theorem cosign_consumes {log : List EndorserEvent} {state : EndorsingState}
    (run : EndorserRun endorser log state) {i : ℕ} {nodeNumber : Int32}
    (h : log[i]?.bind cosignedNode=some nodeNumber) :
    ∃ j pending before,Consumes log i j nodeNumber pending ∧
      EndorserRun endorser (log.take i) before ∧
      before.pendingEndorsements.lookup nodeNumber=some pending := by
  obtain ⟨event,hget,hcosigned⟩ := Option.bind_eq_some_iff.mp h
  obtain ⟨before,after,hbefore,hstep,_⟩ := run.at hget
  cases EndorserStep.effect hstep with
  | @cosigned request response pending isPending =>
    obtain rfl : request.newNodeNumber.toInt32=nodeNumber := Option.some.inj hcosigned
    obtain ⟨j,hpaired,huntouched⟩ := pending_latest hbefore isPending
    have hj : j < i := by
      by_contra hlong
      rw [List.getElem?_eq_none ((List.length_take_le i log).trans (not_lt.mp hlong))] at hpaired
      cases hpaired
    refine ⟨j,pending,before,⟨hj,?_,h,?_⟩,hbefore,isPending⟩
    · rw [List.getElem?_take_of_lt hj] at hpaired
      exact hpaired
    · intro k other hjk hki hk
      exact huntouched k other hjk ((List.getElem?_take_of_lt hki).trans hk)
  | restarted => cases hcosigned
  | refusedIssue => cases hcosigned
  | issued => cases hcosigned
  | refusedPairing => cases hcosigned
  | paired => cases hcosigned
  | refusedCosign => cases hcosigned

end Steps

/-- A co-signature uses up no other pairing, later or earlier. -/
theorem Consumes.pairing_unique {log : List EndorserEvent} {i j j' : ℕ}
    {nodeNumber nodeNumber' : Int32} {pending pending' : PendingEndorsement}
    (h : Consumes log i j nodeNumber pending) (h' : Consumes log i j' nodeNumber' pending') :
    j=j' := by
  have hnumber : nodeNumber=nodeNumber' := Option.some.inj (h.cosigned.symm.trans h'.cosigned)
  subst hnumber
  have hnot : ∀ {j j' : ℕ} {pending pending' : PendingEndorsement},
      Consumes log i j nodeNumber pending → Consumes log i j' nodeNumber pending' → ¬j<j' := by
    intro j j' pending pending' h h' hlt
    obtain ⟨event,hget,hpaired⟩ := Option.bind_eq_some_iff.mp h'.paired
    exact (h.untouched j' event hlt h'.earlier hget).2.1 pending' hpaired
  have hleft := hnot h h'
  have hright := hnot h' h
  omega

/-- No two co-signatures use up one pairing. -/
theorem Consumes.cosign_unique {log : List EndorserEvent} {i i' j : ℕ}
    {nodeNumber nodeNumber' : Int32} {pending pending' : PendingEndorsement}
    (h : Consumes log i j nodeNumber pending) (h' : Consumes log i' j nodeNumber' pending') :
    i=i' := by
  have hsame := Option.some.inj (h.paired.symm.trans h'.paired)
  have hnumber : nodeNumber=nodeNumber' := congrArg Prod.fst hsame
  subst hnumber
  have hnot : ∀ {i i' : ℕ} {pending pending' : PendingEndorsement},
      Consumes log i j nodeNumber pending → Consumes log i' j nodeNumber pending' → ¬i < i' := by
    intro i i' pending pending' h h' hlt
    obtain ⟨event,hget,hcosigned⟩ := Option.bind_eq_some_iff.mp h.cosigned
    exact (h'.untouched i event h.earlier hlt hget).2.2 hcosigned
  have hleft := hnot h h'
  have hright := hnot h' h
  omega

/-- A call that returned an error without drawing a secret. -/
def refusesIssue : EndorserEvent→Bool
  | .generateActivationCode _ _ _ _ (.error _) => true
  | _ => false

/-- The events but for the codes that were refused. -/
def withoutRefusals (log : List EndorserEvent) : List EndorserEvent :=
  log.filter fun event => !refusesIssue event

/-- The secrets drawn in them are those of issued codes. -/
theorem drawn_withoutRefusals (log : List EndorserEvent) :
    (withoutRefusals log).filterMap drawnSecret=
      (log.filterMap issuedSecret).map TimedSecret.secret := by
  rw [withoutRefusals,List.filterMap_filter,List.map_filterMap]
  refine List.filterMap_congr fun event _ => ?_
  match event with
  | .restart => rfl
  | .generateActivationCode _ _ _ _ (.error _) => rfl
  | .generateActivationCode _ _ _ _ (.ok _) => rfl
  | .pairNodes .. => rfl
  | .rosterCosign .. => rfl

section Runs

variable {C : Crypto} {endorser : Endorser C}

/-- As long as no two codes have one secret, outstanding secrets were never used. -/
theorem issued_secrets_invariant {log : List EndorserEvent} {state : EndorsingState}
    (run : EndorserRun endorser log state)
    (hdistinct : ((log.filterMap issuedSecret).map TimedSecret.secret).Nodup) :
    SecretsInvariant (withoutRefusals log) state.pairingSecrets := by
  revert hdistinct
  refine run.invariant (motive := fun log state =>
    ((log.filterMap issuedSecret).map TimedSecret.secret).Nodup →
      SecretsInvariant (withoutRefusals log) state.pairingSecrets) ?_ ?_
  · exact fun _ => .start
  · intro log before event after _ ih hstep hdistinct
    rw [←drawn_withoutRefusals,withoutRefusals,List.filter_append,List.filterMap_append,
      ←withoutRefusals,drawn_withoutRefusals] at hdistinct
    obtain ⟨hearlier,_,hapart⟩ := List.nodup_append.mp hdistinct
    have hbefore := ih hearlier
    have hsecrets := EndorserStep.secrets hstep
    rw [withoutRefusals,List.filter_append]
    cases hrefuses : refusesIssue event with
    | true =>
      have hnone : [event].filter (fun event => !refusesIssue event)=[] := by
        rw [List.filter_cons_of_neg (by rw [hrefuses]; decide),List.filter_nil]
      rw [hnone,List.append_nil]
      cases EndorserStep.effect hstep with
      | refusedIssue => exact hbefore.sublist (pruneExpired_sublist _ _)
      | restarted => cases hrefuses
      | issued => cases hrefuses
      | refusedPairing => cases hrefuses
      | paired => cases hrefuses
      | refusedCosign => cases hrefuses
      | cosigned => cases hrefuses
    | false =>
      have hkept : [event].filter (fun event => !refusesIssue event)=[event] := by
        rw [List.filter_cons_of_pos (by rw [hrefuses]; decide),List.filter_nil]
      rw [hkept] at hapart ⊢
      refine hbefore.step ?_ hsecrets
      intro secret hdrawn hm
      have hnow : secret∈[event].filterMap drawnSecret :=
        List.mem_filterMap.mpr ⟨event,List.mem_cons_self,hdrawn⟩
      rw [drawn_withoutRefusals] at hm
      exact hapart secret hm secret hnow rfl

/-- A pairing is authorised by the unexpired secret of a code issued before, which
was not used yet and verifies the request. -/
structure Authorised (C : Crypto) (log : List EndorserEvent) (i : ℕ) (message : PairNodesMessage)
    (now : ℕ) (used : Option PairingSecret) (g : ℕ) (ts : TimedSecret) : Prop where
  /-- The code was issued first. -/
  earlier : g < i
  /-- The secret and its expiry are those of the code. -/
  issued : log[g]?.bind issuedSecret=some ts
  /-- The pairing used the secret. -/
  uses : used=some ts.secret
  /-- It had not expired. -/
  unexpired : now<ts.expiresAt
  /-- It verifies the request. -/
  verifies : ∃ payload,message.payload=some payload ∧
    ts.secret.verifyMac C (C.encodePairNodesPayload payload) message.mac=true
  /-- No earlier pairing used it. -/
  unused : ∀ k earlierNow,k < i → log[k]?.bind authorisingSecret≠some (ts.secret,earlierNow)

/-- Every successful pairing is authorised. -/
theorem pairing_authorised {log : List EndorserEvent} {state : EndorsingState}
    (run : EndorserRun endorser log state)
    (hdistinct : ((log.filterMap issuedSecret).map TimedSecret.secret).Nodup) {i : ℕ}
    {message : PairNodesMessage} {now : ℕ} {ourNonce : Bytes} {used : Option PairingSecret}
    {reply : PairNodesMessage}
    (h : log[i]?=some (.pairNodes message now ourNonce used (.ok reply))) :
    ∃ g ts,Authorised C log i message now used g ts := by
  obtain ⟨before,after,hbefore,hstep,_⟩ := run.at h
  cases EndorserStep.effect hstep with
  | @paired _ _ _ payload ts secrets hasPayload verifies removed =>
    have hkept := removed.subset (List.mem_cons_self)
    obtain ⟨houtstanding,hexpiry⟩ := List.mem_filter.mp hkept
    have hissued := outstanding_issued hbefore houtstanding
    obtain ⟨event,hevent,hts⟩ := List.mem_filterMap.mp hissued
    obtain ⟨g,hg,hget⟩ := mem_take_iff.mp hevent
    have hinitial : ((log.take i).filterMap issuedSecret).Sublist (log.filterMap issuedSecret) :=
      (List.take_sublist i log).filterMap issuedSecret
    have hsecrets := issued_secrets_invariant hbefore
      (hdistinct.sublist (hinitial.map TimedSecret.secret))
    refine ⟨g,ts,hg,?_,rfl,of_decide_eq_true hexpiry,⟨payload,hasPayload,verifies⟩,?_⟩
    · rw [hget]
      exact hts
    · intro k earlierNow hk hauthorised
      obtain ⟨other,hother,hsecret⟩ := Option.bind_eq_some_iff.mp hauthorised
      have hmem : other∈log.take i := mem_take_iff.mpr ⟨k,hk,hother⟩
      have hused : usedSecret other=some ts.secret ∧ refusesIssue other=false := by
        match other,hsecret with
        | .pairNodes _ _ _ (some secret) (.ok _),hsecret =>
          exact ⟨congrArg (some ∘ Prod.fst) (Option.some.inj hsecret),rfl⟩
      refine hsecrets.unused ts houtstanding (List.mem_filterMap.mpr ⟨other,?_,hused.1⟩)
      exact List.mem_filter.mpr ⟨hmem,by rw [hused.2]; rfl⟩

end Runs

/-- The secret of a code authorises at most one pairing, before it expires. -/
structure SingleUse (log : List EndorserEvent) (ts : TimedSecret) : Prop where
  /-- No two pairings. -/
  once : ∀ (i j now now' : ℕ),log[i]?.bind authorisingSecret=some (ts.secret,now) →
    log[j]?.bind authorisingSecret=some (ts.secret,now') → i=j
  /-- None at or after its expiry. -/
  unexpired : ∀ (i now : ℕ),log[i]?.bind authorisingSecret=some (ts.secret,now) →
    now<ts.expiresAt

/-- An authorised pairing is one of this form. -/
theorem authorisingSecret_eq_some {event : EndorserEvent} {secret : PairingSecret} {now : ℕ}
    (h : authorisingSecret event=some (secret,now)) :
    ∃ message ourNonce reply,
      event=.pairNodes message now ourNonce (some secret) (.ok reply) := by
  match event,h with
  | .pairNodes message now ourNonce (some secret) (.ok reply),h =>
    obtain ⟨rfl,rfl⟩ := Prod.mk.inj (Option.some.inj h)
    exact ⟨message,ourNonce,reply,rfl⟩

/-- Codes with distinct secrets are single-use. -/
theorem issued_single_use {C : Crypto} {endorser : Endorser C} {log : List EndorserEvent}
    {state : EndorsingState} (run : EndorserRun endorser log state)
    (hdistinct : ((log.filterMap issuedSecret).map TimedSecret.secret).Nodup) {ts : TimedSecret}
    (hissued : ts∈log.filterMap issuedSecret) : SingleUse log ts := by
  have hfacts : ∀ {i now : ℕ},log[i]?.bind authorisingSecret=some (ts.secret,now) →
      now<ts.expiresAt ∧ ∀ k earlierNow,k < i →
        log[k]?.bind authorisingSecret≠some (ts.secret,earlierNow) := by
    intro i now h
    obtain ⟨event,hget,hauthorises⟩ := Option.bind_eq_some_iff.mp h
    obtain ⟨message,ourNonce,reply,rfl⟩ := authorisingSecret_eq_some hauthorises
    obtain ⟨g,found,facts⟩ := pairing_authorised run hdistinct hget
    obtain ⟨code,hcode,hfound⟩ := Option.bind_eq_some_iff.mp facts.issued
    have hfoundIssued : found∈log.filterMap issuedSecret :=
      List.mem_filterMap.mpr ⟨code,List.mem_of_getElem? hcode,hfound⟩
    have hsecret : ts.secret=found.secret := Option.some.inj facts.uses
    have hsame : ts=found := List.inj_on_of_nodup_map hdistinct hissued hfoundIssued hsecret
    subst hsame
    exact ⟨facts.unexpired,facts.unused⟩
  constructor
  case once =>
    intro i j now now' hi hj
    have hnotBefore : ¬i<j := fun hlt => (hfacts hj).2 i now hlt hi
    have hnotAfter : ¬j < i := fun hlt => (hfacts hi).2 j now' hlt hj
    omega
  case unexpired => exact fun i now h => (hfacts h).1

/-- A failed call leaves pending endorsements, and codes unexpired when it read the
clock, as they were. -/
theorem failing_call_unchanged {C : Crypto} {endorser : Endorser C}
    {before after : EndorsingState} {event : EndorserEvent}
    (h : EndorserStep endorser before event after) (hfails : Fails event) :
    after.pendingEndorsements=before.pendingEndorsements ∧
      ∀ t,(∀ now,prunesAt event=some now → now≤t) → after.pruneExpired t=before.pruneExpired t := by
  have hpruned : ∀ {now t : ℕ},now≤t →
      (before.pruneExpired now).pruneExpired t=before.pruneExpired t := by
    intro now t hle
    unfold EndorsingState.pruneExpired
    dsimp only
    rw [List.filter_filter]
    congr 1
    refine List.filter_congr fun ts _ => ?_
    rw [←Bool.decide_and,decide_eq_decide]
    omega
  cases EndorserStep.effect h with
  | restarted => exact hfails.elim
  | refusedIssue => exact ⟨rfl,fun t ht => hpruned (ht _ rfl)⟩
  | issued => exact absurd rfl (hfails _)
  | refusedPairing same =>
    rcases same with rfl|rfl
    · exact ⟨rfl,fun t _ => rfl⟩
    · exact ⟨rfl,fun t ht => hpruned (ht _ rfl)⟩
  | paired => exact absurd rfl (hfails _)
  | refusedCosign => exact ⟨rfl,fun t _ => rfl⟩
  | cosigned => exact absurd rfl (hfails _)

/-- Over every run with distinct secrets: activations under way are bounded; every
pairing is authorised by an issued code and each code authorises at most one, before
it expires; every co-signature uses up one pairing that no other one does; and a
failed call changes neither pending endorsements nor unexpired codes. -/
theorem codes_single_use (C : Crypto) (endorser : Endorser C) (log : List EndorserEvent)
    (state : EndorsingState) (run : EndorserRun endorser log state)
    (hdistinct : ((log.filterMap issuedSecret).map TimedSecret.secret).Nodup) :
    state.pairingSecrets.length+state.pendingEndorsements.entries.card ≤ maxActiveActivations ∧
    (∀ (i : ℕ) (message : PairNodesMessage) (now : ℕ) (ourNonce : Bytes)
      (used : Option PairingSecret) (reply : PairNodesMessage),
      log[i]?=some (.pairNodes message now ourNonce used (.ok reply)) →
      ∃ g ts,Authorised C log i message now used g ts) ∧
    (∀ ts∈log.filterMap issuedSecret,SingleUse log ts) ∧
    (∀ (i : ℕ) (nodeNumber : Int32),log[i]?.bind cosignedNode=some nodeNumber →
      ∃ j pending before,Consumes log i j nodeNumber pending ∧
        EndorserRun endorser (log.take i) before ∧
        before.pendingEndorsements.lookup nodeNumber=some pending ∧
        ∀ (i' j' : ℕ) (nodeNumber' : Int32) (pending' : PendingEndorsement),
          Consumes log i' j' nodeNumber' pending' → (i'=i ↔ j'=j)) ∧
    (∀ (i : ℕ) (event : EndorserEvent),log[i]?=some event → Fails event →
      ∃ before after,EndorserRun endorser (log.take i) before ∧
        EndorserStep endorser before event after ∧ EndorserRun endorser (log.take (i+1)) after ∧
        after.pendingEndorsements=before.pendingEndorsements ∧
        ∀ t,(∀ now,prunesAt event=some now → now≤t) →
          after.pruneExpired t=before.pruneExpired t) := by
  refine ⟨activations_bounded run,?_,fun ts hts => issued_single_use run hdistinct hts,?_,?_⟩
  · intro i message now ourNonce used reply h
    exact pairing_authorised run hdistinct h
  · intro i nodeNumber h
    obtain ⟨j,pending,before,hconsumes,hbefore,hlookup⟩ := cosign_consumes run h
    refine ⟨j,pending,before,hconsumes,hbefore,hlookup,?_⟩
    intro i' j' nodeNumber' pending' hother
    constructor
    · rintro rfl
      exact hother.pairing_unique hconsumes
    · rintro rfl
      exact hother.cosign_unique hconsumes
  · intro i event hget hfails
    obtain ⟨before,after,hbefore,hstep,hafter⟩ := run.at hget
    obtain ⟨hpending,hsecrets⟩ := failing_call_unchanged hstep hfails
    exact ⟨before,after,hbefore,hstep,hafter,hpending,hsecrets⟩

/-- Node 1 co-signs its founding with node 2 and uses up their pairing. -/
theorem codes_single_use_founding :
    ∃ j pending,Consumes (cosignLog foundingRequest) 2 j 2 pending := by
  obtain ⟨response,hresponse⟩ : ∃ response,(cosigning foundingRequest).2=.ok response :=
    Outcome.isOk_iff.mp (by decide +kernel)
  have hall := codes_single_use SymbolicCrypto.symbolicCrypto firstEndorser
    (cosignLog foundingRequest) _ (cosignLog_run foundingRequest) (by decide +kernel)
  have hcosigned : (cosignLog foundingRequest)[2]?.bind cosignedNode=some 2 := by
    rw [cosignLog,hresponse]
    rfl
  obtain ⟨j,pending,before,hconsumes,_⟩ := hall.2.2.2.1 2 2 hcosigned
  exact ⟨j,pending,hconsumes⟩

end WispersConnect.CodeLifetimes
