import WispersConnect.RosterChain

/-!
# The forward walk replays exactly the honest steps

One turn of the walk succeeds exactly when its addendum is an honest step of
the working roster whose new entries the input lists first, and then the keys
map is again the map of the active entries. By induction over the addenda, a
roster is accepted exactly when it is honestly built and lists the verifier as
active under the expected key.
-/

namespace WispersConnect.RosterReplay

open Messages OutcomeMonad Cryptography FirstMatch MachineIntegers
open RosterBuilders RosterVerification RosterChain MembershipLog

/-- The map holds the decoded key of every active entry and nothing else. -/
def IsActiveKeys (C : Crypto) (roster : Roster) (keys : Keys C) : Prop :=
  ∀ nodeNumber key,keys.lookup nodeNumber=some key ↔ ActiveWithKey C roster nodeNumber key

/-- The active keys of a roster are determined by it. -/
theorem IsActiveKeys.unique {C : Crypto} {roster : Roster} {keys keys' : Keys C}
    (h : IsActiveKeys C roster keys) (h' : IsActiveKeys C roster keys') : keys=keys' := by
  refine Finmap.ext_lookup fun nodeNumber => Option.ext fun key => ?_
  rw [h nodeNumber key,h' nodeNumber key]

/-- The founding keys. -/
theorem BootstrapFacts.activeKeys {C : Crypto} {payload : ActivationPayload}
    {newSpki endorserSpki newSignature endorserSignature : Bytes}
    {newKey endorserKey : C.VerifyingKey}
    (facts : BootstrapFacts C payload newSpki endorserSpki newSignature endorserSignature newKey
      endorserKey) (addendum : Addendum) :
    IsActiveKeys C (bootstrapState payload newSpki endorserSpki addendum)
      (Finmap.insert payload.newNodeNumber newKey
        (Finmap.insert payload.endorserNodeNumber endorserKey ∅)) := by
  intro nodeNumber key
  simp only [ActiveWithKey,bootstrapState,List.mem_cons,List.not_mem_nil,or_false,
    exists_eq_or_imp,exists_eq_left,facts.endorserDecodes,facts.newDecodes,true_and,
    Except.ok.injEq]
  by_cases hn : nodeNumber=payload.newNodeNumber
  · subst hn
    simp [Finmap.lookup_insert,facts.distinct]
  · rw [Finmap.lookup_insert_of_ne _ hn]
    by_cases he : nodeNumber=payload.endorserNodeNumber
    · subst he
      simp [Finmap.lookup_insert,Ne.symm hn]
    · rw [Finmap.lookup_insert_of_ne _ he]
      simp [Ne.symm hn,Ne.symm he]

/-- The keys after an activation. -/
theorem activationState_activeKeys {C : Crypto} {base : Roster} {payload : ActivationPayload}
    {newSpki : Bytes} {newKey : C.VerifyingKey} {keys : Keys C}
    (fresh : ∀ node∈base.nodes,node.nodeNumber≠payload.newNodeNumber)
    (newDecodes : C.fromPublicKeyDer newSpki=.ok newKey) (hk : IsActiveKeys C base keys)
    (addendum : Addendum) :
    IsActiveKeys C (activationState base payload newSpki addendum)
      (keys.insert payload.newNodeNumber newKey) := by
  intro nodeNumber key
  have hnew : ActiveWithKey C (activationState base payload newSpki addendum) nodeNumber key ↔
      ActiveWithKey C base nodeNumber key ∨ payload.newNodeNumber=nodeNumber ∧ newKey=key := by
    simp only [ActiveWithKey,activationState,List.mem_append,List.mem_singleton,or_and_right,
      exists_or,exists_eq_left,newDecodes,true_and,Except.ok.injEq]
  rw [hnew,←hk nodeNumber key]
  by_cases hn : nodeNumber=payload.newNodeNumber
  · subst hn
    have hnone : keys.lookup payload.newNodeNumber≠some key := by
      rw [Ne,hk]
      rintro ⟨node,hm,he,_⟩
      exact fresh node hm he
    simp [Finmap.lookup_insert,hnone]
  · rw [Finmap.lookup_insert_of_ne _ hn]
    simp [Ne.symm hn]

/-- The keys after a revocation. -/
theorem revocationState_activeKeys {C : Crypto} {base : Roster} {payload : RevocationPayload}
    {keys : Keys C} (distinct : (base.nodes.map RosterNode.nodeNumber).Nodup)
    (hk : IsActiveKeys C base keys) (addendum : Addendum) :
    IsActiveKeys C (revocationState base payload addendum)
      (keys.erase payload.revokedNodeNumber) := by
  intro nodeNumber key
  have hold : ActiveWithKey C (revocationState base payload addendum) nodeNumber key ↔
      ActiveWithKey C base nodeNumber key ∧ nodeNumber≠payload.revokedNodeNumber := by
    simp only [ActiveWithKey,revocationState,mem_markRevoked distinct]
    constructor
    · rintro ⟨_,⟨old,hm,rfl⟩,rfl,hr,hd⟩
      simp only [Bool.or_eq_false_iff,decide_eq_false_iff_not] at hr
      exact ⟨⟨old,hm,rfl,hr.1,hd⟩,hr.2⟩
    · rintro ⟨⟨old,hm,rfl,hr,hd⟩,hne⟩
      exact ⟨_,⟨old,hm,rfl⟩,rfl,by simp [hr,hne],hd⟩
  rw [hold,←hk nodeNumber key]
  by_cases hn : nodeNumber=payload.revokedNodeNumber
  · subst hn
    simp [Finmap.lookup_erase]
  · rw [Finmap.lookup_erase_ne hn]
    simp [hn]

/-- The first turn of the walk accepts exactly the foundings listed in the input. -/
theorem applyAndVerifyActivation_first {C : Crypto} {inputRoster : Roster}
    {activation : Activation} {workingRoster : Roster} {keys : Keys C} :
    applyAndVerifyActivation C inputRoster activation 1 Roster.default ∅=
        .ok (workingRoster,keys) ↔
      ∃ payload newNode endorserNode newKey endorserKey,
        activation.payload=some payload ∧
        findNode inputRoster.nodes payload.newNodeNumber=some newNode ∧
        findNode inputRoster.nodes payload.endorserNodeNumber=some endorserNode ∧
        BootstrapFacts C payload newNode.publicKeySpki endorserNode.publicKeySpki
          activation.newNodeSignature activation.endorserSignature newKey endorserKey ∧
        workingRoster=bootstrapState payload newNode.publicKeySpki endorserNode.publicKeySpki
          (signedActivation payload activation.newNodeSignature activation.endorserSignature) ∧
        keys=Finmap.insert payload.newNodeNumber newKey
          (Finmap.insert payload.endorserNodeNumber endorserKey ∅) := by
  simp only [applyAndVerifyActivation,if_pos,Outcome.bind_eq_ok,Outcome.okOr_eq_ok,
    Outcome.expect_eq_ok,Outcome.reject_eq_ok,Outcome.mapErr_eq_ok,Outcome.pure_eq_ok,
    Outcome.ok.injEq,decodeNodeKey,Outcome.ofExcept_eq_ok,Roster.default]
  constructor
  · rintro ⟨payload,hp,_,hv,_,hne,_,_,newNode,hn,newKey,hnk,endorserNode,he,endorserKey,hek,
      listed,he',_,rfl,hash,hh,_,hsn,_,hse,half,hset,signed,hset',hout⟩
    obtain rfl := Option.some.inj (he.symm.trans he')
    have hc := (computeSigningHash_unsignedActivation _ _ [] C payload).symm.trans hh
    cases hc
    have h1 := (setNewNodeSignature_activation _ _ [] _ _).symm.trans hset
    cases h1
    have h2 := (setEndorserSignature_activation _ _ [] _ _).symm.trans hset'
    cases h2
    cases hout
    exact ⟨payload,newNode,endorserNode,newKey,endorserKey,hp,hn,he,
      ⟨not_not.mp hv,fun h => hne h.symm,hnk,hek,hsn,hse⟩,rfl,rfl⟩
  · rintro ⟨payload,newNode,endorserNode,newKey,endorserKey,hp,hn,he,facts,rfl,rfl⟩
    exact ⟨payload,hp,(),not_not.mpr facts.firstVersion,(),fun h => facts.distinct h.symm,(),
      by simp,newNode,hn,newKey,facts.newDecodes,endorserNode,he,endorserKey,
      facts.endorserDecodes,endorserNode,he,_,rfl,_,
      computeSigningHash_unsignedActivation _ _ [] C payload,(),facts.newVerifies,(),
      facts.endorserVerifies,_,setNewNodeSignature_activation _ _ [] _ _,_,
      setEndorserSignature_activation _ _ [] _ _,rfl⟩

/-- No listed entry has the number exactly when the scan for it fails. -/
theorem any_nodeNumber_iff {nodes : List RosterNode} {nodeNumber : Int32} :
    ¬nodes.any (fun n => n.nodeNumber==nodeNumber)=true ↔
      ∀ node∈nodes,node.nodeNumber≠nodeNumber := by
  simp [List.any_eq_true]

section Next

variable {C : Crypto} {base : Roster} {keys : Keys C}

/-- The checked increment of an honest version is the next expected version. -/
theorem nextVersion_iff (h : ChainInvariant C base) (hb : base.addenda.length+1<2^63)
    {version : Int64} :
    (addOne base.version : Outcome Empty Int64)=.ok version ↔
      version=asI64 (base.addenda.length+1) := by
  rw [h.version,addOne_asI64 h.short,and_iff_right hb]

/-- A later turn of the walk accepts exactly the activations of the working roster. -/
theorem applyAndVerifyActivation_next (h : ChainInvariant C base)
    (hb : base.addenda.length+1<2^63) (hk : IsActiveKeys C base keys) {inputRoster : Roster}
    {activation : Activation} {workingRoster : Roster} {keys' : Keys C} :
    applyAndVerifyActivation C inputRoster activation (asI64 (base.addenda.length+1)) base keys=
        .ok (workingRoster,keys') ↔
      ∃ payload newNode newKey endorserKey,
        activation.payload=some payload ∧
        findNode inputRoster.nodes payload.newNodeNumber=some newNode ∧
        ActivationFacts C base payload newNode.publicKeySpki activation.newNodeSignature
          activation.endorserSignature newKey endorserKey ∧
        workingRoster=activationState base payload newNode.publicKeySpki
          (signedActivation payload activation.newNodeSignature activation.endorserSignature) ∧
        keys'=keys.insert payload.newNodeNumber newKey := by
  have hne : asI64 (base.addenda.length+1)≠1 :=
    (h.next ((nextVersion_iff h hb).mpr rfl)).2.2
  simp only [applyAndVerifyActivation,if_neg hne,Outcome.bind_eq_ok,Outcome.okOr_eq_ok,
    Outcome.reject_eq_ok,Outcome.mapErr_eq_ok,Outcome.pure_eq_ok,Outcome.ok.injEq,decodeNodeKey,
    Outcome.ofExcept_eq_ok,any_nodeNumber_iff,hk _ _]
  constructor
  · rintro ⟨payload,hp,_,hv,_,_,_,hfresh,newNode,hn,newKey,hnk,endorserKey,hek,_,rfl,hash,hh,_,hsn,
      _,hse,half,hset,signed,hset',hout⟩
    have hc := (computeSigningHash_unsignedActivation _ _ _ C payload).symm.trans hh
    cases hc
    have h1 := (setNewNodeSignature_activation _ _ _ _ _).symm.trans hset
    cases h1
    have h2 := (setEndorserSignature_activation _ _ _ _ _).symm.trans hset'
    cases h2
    cases hout
    have hv := not_not.mp hv
    have hstate : activationState base payload newNode.publicKeySpki (unsignedActivation payload)=
        ⟨asI64 (base.addenda.length+1),base.nodes++
          [⟨payload.newNodeNumber,newNode.publicKeySpki,false⟩],
          base.addenda++[unsignedActivation payload]⟩ := by
      rw [activationState,hv]
    refine ⟨payload,newNode,newKey,endorserKey,hp,hn,
      ⟨(nextVersion_iff h hb).mpr hv,hfresh,hek,hnk,hstate ▸ hsn,hstate ▸ hse⟩,?_,rfl⟩
    rw [activationState,hv]
    rfl
  · rintro ⟨payload,newNode,newKey,endorserKey,hp,hn,facts,rfl,rfl⟩
    have hv := (nextVersion_iff h hb).mp facts.nextVersion
    have hdistinct : payload.newNodeNumber≠payload.endorserNodeNumber := by
      obtain ⟨node,hm,he,_⟩ := facts.endorserActive
      exact fun heq => facts.fresh node hm (he.trans heq.symm)
    have hnew := facts.newVerifies
    have hend := facts.endorserVerifies
    simp only [activationState,hv] at hnew hend ⊢
    exact ⟨payload,hp,(),not_not.mpr hv,(),hdistinct,(),facts.fresh,newNode,hn,newKey,
      facts.newDecodes,endorserKey,facts.endorserActive,_,rfl,_,
      computeSigningHash_unsignedActivation _ _ _ C payload,(),hnew,(),hend,_,
      setNewNodeSignature_activation _ _ _ _ _,_,setEndorserSignature_activation _ _ _ _ _,rfl⟩

/-- A turn of the walk accepts exactly the revocations of the working roster. -/
theorem applyAndVerifyRevocation_next (h : ChainInvariant C base)
    (hb : base.addenda.length+1<2^63) (hk : IsActiveKeys C base keys)
    {revocation : Revocation} {workingRoster : Roster} {keys' : Keys C} :
    applyAndVerifyRevocation C revocation (asI64 (base.addenda.length+1)) base keys=
        .ok (workingRoster,keys') ↔
      ∃ payload revokerKey revokedKey,
        revocation.payload=some payload ∧
        RevocationFacts C base payload revocation.revokerSignature revokerKey revokedKey ∧
        workingRoster=revocationState base payload
          (signedRevocation payload revocation.revokerSignature) ∧
        keys'=keys.erase payload.revokedNodeNumber := by
  simp only [applyAndVerifyRevocation,Outcome.bind_eq_ok,Outcome.okOr_eq_ok,Outcome.reject_eq_ok,
    Outcome.mapErr_eq_ok,Outcome.pure_eq_ok,Outcome.ok.injEq,hk _ _,not_not,Finmap.mem_iff]
  constructor
  · rintro ⟨payload,hp,_,hv,revokerKey,hrk,_,⟨revokedKey,hxk⟩,hash,hh,_,hs,signed,hset,hout⟩
    have hc := (computeSigningHash_unsignedRevocation _ _ _ C payload).symm.trans hh
    cases hc
    have h1 := (setRevokerSignature_revocation _ _ _ _ _).symm.trans hset
    cases h1
    cases hout
    have hstate : revocationState base payload (unsignedRevocation payload)=
        ⟨asI64 (base.addenda.length+1),markRevoked base.nodes payload.revokedNodeNumber,
          base.addenda++[unsignedRevocation payload]⟩ := by
      rw [revocationState,hv]
    refine ⟨payload,revokerKey,revokedKey,hp,
      ⟨(nextVersion_iff h hb).mpr hv,hrk,hxk,hstate ▸ hs⟩,?_,rfl⟩
    rw [revocationState,hv]
    rfl
  · rintro ⟨payload,revokerKey,revokedKey,hp,facts,rfl,rfl⟩
    have hv := (nextVersion_iff h hb).mp facts.nextVersion
    have hs := facts.revokerVerifies
    simp only [revocationState,hv] at hs ⊢
    exact ⟨payload,hp,(),hv,revokerKey,facts.revokerActive,(),⟨revokedKey,facts.revokedActive⟩,_,
      computeSigningHash_unsignedRevocation _ _ _ C payload,(),hs,_,
      setRevokerSignature_revocation _ _ _ _ _,rfl⟩

end Next

/-- Walking a concatenation walks its two parts in turn. -/
theorem walkAddenda_append (C : Crypto) (inputRoster : Roster) (xs ys : List Addendum)
    (index : ℕ) (workingRoster : Roster) (keys : Keys C) :
    walkAddenda C inputRoster index (xs++ys) workingRoster keys=
      (walkAddenda C inputRoster index xs workingRoster keys >>= fun state =>
        walkAddenda C inputRoster (index+xs.length) ys state.1 state.2) := by
  induction xs generalizing index workingRoster keys with
  | nil => simp [walkAddenda]
  | cons x xs ih =>
    cases hx : applyAndVerifyAddendum C inputRoster index x workingRoster keys with
    | ok state =>
      simp only [List.cons_append,walkAddenda,hx,Outcome.ok_bind,ih,List.length_cons]
      rw [Nat.add_right_comm,Nat.add_assoc]
    | err e => simp only [List.cons_append,walkAddenda,hx,Outcome.err_bind]
    | panic m => simp only [List.cons_append,walkAddenda,hx,Outcome.panic_bind]

/-- The last turn of a walk. -/
theorem walkAddenda_snoc {C : Crypto} {inputRoster : Roster} {addenda : List Addendum}
    {addendum : Addendum} {workingRoster : Roster} {keys : Keys C} :
    walkAddenda C inputRoster 0 (addenda++[addendum]) Roster.default ∅=.ok (workingRoster,keys) ↔
      ∃ base baseKeys,walkAddenda C inputRoster 0 addenda Roster.default ∅=.ok (base,baseKeys) ∧
        applyAndVerifyAddendum C inputRoster addenda.length addendum base baseKeys=
          .ok (workingRoster,keys) := by
  simp only [walkAddenda_append,Outcome.bind_eq_ok,Prod.exists,Nat.zero_add,walkAddenda,
    Outcome.ok.injEq,Prod.mk.injEq,exists_eq_right_right,exists_eq_right]

/-- The first turn of the walk founds the group. -/
theorem applyAndVerifyAddendum_first {C : Crypto} {inputRoster : Roster} {addendum : Addendum}
    {workingRoster : Roster} {keys : Keys C}
    (h : applyAndVerifyAddendum C inputRoster 0 addendum Roster.default ∅=
      .ok (workingRoster,keys)) :
    HonestBootstrap C workingRoster ∧ IsActiveKeys C workingRoster keys ∧
      workingRoster.addenda=[addendum] := by
  simp only [applyAndVerifyAddendum,Outcome.bind_eq_ok,Outcome.okOr_eq_ok] at h
  obtain ⟨kind,hkind,h⟩ := h
  obtain rfl : addendum=⟨some kind⟩ := by rw [←hkind]
  cases kind with
  | activation activation =>
    obtain ⟨payload,newNode,endorserNode,newKey,endorserKey,hp,_,_,facts,rfl,rfl⟩ :=
      applyAndVerifyActivation_first.mp h
    refine ⟨(honestBootstrap_iff C _).mpr ⟨_,_,_,_,_,_,_,facts,rfl⟩,
      BootstrapFacts.activeKeys facts _,?_⟩
    rw [bootstrapState,signedActivation,←hp]
  | revocation revocation =>
    simp only [applyAndVerifyRevocation,Outcome.bind_eq_ok,Outcome.okOr_eq_ok,
      Finmap.lookup_empty,reduceCtorEq,false_and,exists_false,and_false] at h

/-- A later turn of the walk takes an honest step. -/
theorem applyAndVerifyAddendum_next {C : Crypto} {base : Roster} {keys : Keys C}
    (h : ChainInvariant C base) (hb : base.addenda.length+1<2^63) (hk : IsActiveKeys C base keys)
    {inputRoster : Roster} {addendum : Addendum} {workingRoster : Roster} {keys' : Keys C}
    (ha : applyAndVerifyAddendum C inputRoster base.addenda.length addendum base keys=
      .ok (workingRoster,keys')) :
    HonestStep C base workingRoster ∧ IsActiveKeys C workingRoster keys' ∧
      workingRoster.addenda=base.addenda++[addendum] := by
  simp only [applyAndVerifyAddendum,Outcome.bind_eq_ok,Outcome.okOr_eq_ok] at ha
  obtain ⟨kind,hkind,ha⟩ := ha
  obtain rfl : addendum=⟨some kind⟩ := by rw [←hkind]
  cases kind with
  | activation activation =>
    obtain ⟨payload,newNode,newKey,endorserKey,hp,_,facts,rfl,rfl⟩ :=
      (applyAndVerifyActivation_next h hb hk).mp ha
    refine ⟨(honestStep_iff C _ _).mpr (Or.inl ⟨_,_,_,_,_,_,facts,rfl⟩),
      activationState_activeKeys facts.fresh facts.newDecodes hk _,?_⟩
    rw [activationState,signedActivation,←hp]
  | revocation revocation =>
    obtain ⟨payload,revokerKey,revokedKey,hp,facts,rfl,rfl⟩ :=
      (applyAndVerifyRevocation_next h hb hk).mp ha
    refine ⟨(honestStep_iff C _ _).mpr (Or.inr ⟨_,_,_,_,facts,rfl⟩),
      revocationState_activeKeys h.distinct hk _,?_⟩
    rw [revocationState,signedRevocation,←hp]

/-- The first turn replays a founding whose entries the input lists. -/
theorem applyAndVerifyAddendum_bootstrap {C : Crypto} {inputRoster : Roster}
    {payload : ActivationPayload} {newNode endorserNode : RosterNode}
    {newSignature endorserSignature : Bytes} {newKey endorserKey : C.VerifyingKey}
    (hn : findNode inputRoster.nodes payload.newNodeNumber=some newNode)
    (he : findNode inputRoster.nodes payload.endorserNodeNumber=some endorserNode)
    (facts : BootstrapFacts C payload newNode.publicKeySpki endorserNode.publicKeySpki newSignature
      endorserSignature newKey endorserKey) :
    applyAndVerifyAddendum C inputRoster 0
        (signedActivation payload newSignature endorserSignature) Roster.default ∅=
      .ok (bootstrapState payload newNode.publicKeySpki endorserNode.publicKeySpki
          (signedActivation payload newSignature endorserSignature),
        Finmap.insert payload.newNodeNumber newKey
          (Finmap.insert payload.endorserNodeNumber endorserKey ∅)) := by
  have hrun := (@applyAndVerifyActivation_first C inputRoster
    ⟨some payload,newSignature,endorserSignature⟩ _ _).mpr
      ⟨payload,newNode,endorserNode,newKey,endorserKey,rfl,hn,he,facts,rfl,rfl⟩
  exact hrun

section Turns

variable {C : Crypto} {base : Roster} {keys : Keys C} (h : ChainInvariant C base)
  (hb : base.addenda.length+1<2^63) (hk : IsActiveKeys C base keys)

include h hb hk

/-- A later turn replays an activation whose new entry the input lists. -/
theorem applyAndVerifyAddendum_activation {inputRoster : Roster} {payload : ActivationPayload}
    {newNode : RosterNode} {newSignature endorserSignature : Bytes}
    {newKey endorserKey : C.VerifyingKey}
    (hn : findNode inputRoster.nodes payload.newNodeNumber=some newNode)
    (facts : ActivationFacts C base payload newNode.publicKeySpki newSignature endorserSignature
      newKey endorserKey) :
    applyAndVerifyAddendum C inputRoster base.addenda.length
        (signedActivation payload newSignature endorserSignature) base keys=
      .ok (activationState base payload newNode.publicKeySpki
          (signedActivation payload newSignature endorserSignature),
        keys.insert payload.newNodeNumber newKey) := by
  have hrun := (@applyAndVerifyActivation_next C base keys h hb hk inputRoster
    ⟨some payload,newSignature,endorserSignature⟩ _ _).mpr
      ⟨payload,newNode,newKey,endorserKey,rfl,hn,facts,rfl,rfl⟩
  exact hrun

/-- A later turn replays a revocation, whatever the input lists. -/
theorem applyAndVerifyAddendum_revocation (inputRoster : Roster) {payload : RevocationPayload}
    {revokerSignature : Bytes} {revokerKey revokedKey : C.VerifyingKey}
    (facts : RevocationFacts C base payload revokerSignature revokerKey revokedKey) :
    applyAndVerifyAddendum C inputRoster base.addenda.length
        (signedRevocation payload revokerSignature) base keys=
      .ok (revocationState base payload (signedRevocation payload revokerSignature),
        keys.erase payload.revokedNodeNumber) := by
  have hrun := (@applyAndVerifyRevocation_next C base keys h hb hk
    ⟨some payload,revokerSignature⟩ _ _).mpr ⟨payload,revokerKey,revokedKey,rfl,facts,rfl,rfl⟩
  exact hrun

end Turns

/-- Whatever the input lists, a completed walk leaves an honestly built roster
with exactly the walked addenda, and the map of its active keys. -/
theorem walkAddenda_sound {C : Crypto} {inputRoster : Roster} {addenda : List Addendum}
    (hne : addenda≠[]) (hb : addenda.length<2^63) {workingRoster : Roster} {keys : Keys C}
    (h : walkAddenda C inputRoster 0 addenda Roster.default ∅=.ok (workingRoster,keys)) :
    HonestlyBuilt C workingRoster ∧ IsActiveKeys C workingRoster keys ∧
      workingRoster.addenda=addenda := by
  induction addenda using List.reverseRecOn generalizing workingRoster keys with
  | nil => exact absurd rfl hne
  | append_singleton addenda addendum ih =>
    obtain ⟨base,baseKeys,hbase,hlast⟩ := walkAddenda_snoc.mp h
    rw [List.length_append,List.length_singleton] at hb
    cases addenda with
    | nil =>
      cases hbase
      obtain ⟨founded,hkeys,haddenda⟩ := applyAndVerifyAddendum_first hlast
      exact ⟨.bootstrap founded,hkeys,haddenda⟩
    | cons first rest =>
      obtain ⟨hbuilt,hbaseKeys,haddenda⟩ := ih (List.cons_ne_nil _ _) (by omega) hbase
      rw [←haddenda] at hb hlast
      obtain ⟨hstep,hkeys,hnext⟩ :=
        applyAndVerifyAddendum_next hbuilt.invariant hb hbaseKeys hlast
      exact ⟨.step hbuilt hstep,hkeys,haddenda ▸ hnext⟩

/-- The input lists every entry of the roster first under its number, with its key. -/
def Lists (inputRoster roster : Roster) : Prop :=
  ∀ node∈roster.nodes,∃ listed,findNode inputRoster.nodes node.nodeNumber=some listed ∧
    listed.publicKeySpki=node.publicKeySpki

/-- The walk replays every honestly built roster whose entries the input lists. -/
theorem walkAddenda_complete {C : Crypto} {inputRoster roster : Roster}
    (h : HonestlyBuilt C roster) (hl : Lists inputRoster roster) :
    ∃ keys,walkAddenda C inputRoster 0 roster.addenda Roster.default ∅=.ok (roster,keys) ∧
      IsActiveKeys C roster keys := by
  induction h with
  | bootstrap founded =>
    obtain ⟨payload,newSpki,endorserSpki,newSignature,endorserSignature,newKey,endorserKey,facts,
      rfl⟩ := (honestBootstrap_iff C _).mp founded
    obtain ⟨endorserNode,he,hes⟩ := hl _ (List.mem_cons_self)
    obtain ⟨newNode,hn,hns⟩ := hl _ (List.mem_cons_of_mem _ List.mem_cons_self)
    dsimp only at he hes hn hns
    subst hes hns
    refine ⟨_,?_,BootstrapFacts.activeKeys facts _⟩
    have hrun := applyAndVerifyAddendum_bootstrap hn he facts
    exact (@walkAddenda_snoc C inputRoster [] _ _ _).mpr ⟨_,_,rfl,hrun⟩
  | @step base roster earlier next ih =>
    have inv := earlier.invariant
    rcases (honestStep_iff C _ _).mp next with
      ⟨payload,newSpki,newSignature,endorserSignature,newKey,endorserKey,facts,rfl⟩|
      ⟨payload,revokerSignature,revokerKey,revokedKey,facts,rfl⟩
    · obtain ⟨keys,hwalk,hkeys⟩ := ih fun node hm => hl node (List.mem_append_left _ hm)
      obtain ⟨newNode,hn,hns⟩ := hl _ (List.mem_append_right _ (List.mem_singleton_self _))
      dsimp only at hn hns
      subst hns
      have hb := (inv.next facts.nextVersion).1
      refine ⟨_,?_,activationState_activeKeys facts.fresh facts.newDecodes hkeys _⟩
      have hrun := applyAndVerifyAddendum_activation inv hb hkeys hn facts
      exact walkAddenda_snoc.mpr ⟨_,_,hwalk,hrun⟩
    · have hold : Lists inputRoster base := by
        intro node hm
        have hmarked : (⟨node.nodeNumber,node.publicKeySpki,
            node.revoked || decide (node.nodeNumber=payload.revokedNodeNumber)⟩ : RosterNode)∈
            markRevoked base.nodes payload.revokedNodeNumber :=
          (mem_markRevoked inv.distinct).mpr ⟨node,hm,rfl⟩
        have hlisted := hl _ hmarked
        exact hlisted
      obtain ⟨keys,hwalk,hkeys⟩ := ih hold
      have hb := (inv.next facts.nextVersion).1
      refine ⟨_,?_,revocationState_activeKeys inv.distinct hkeys _⟩
      have hrun := applyAndVerifyAddendum_revocation inv hb hkeys inputRoster facts
      exact walkAddenda_snoc.mpr ⟨_,_,hwalk,hrun⟩

/-- A roster with distinct numbers lists its own entries first. -/
theorem lists_self {roster : Roster} (hd : (roster.nodes.map RosterNode.nodeNumber).Nodup) :
    Lists roster roster :=
  fun node hm => ⟨node,lookup_of_mem RosterNode.nodeNumber hd hm,rfl⟩

/-- The structure check passes exactly when the version counts the addenda. -/
theorem verifyRosterStructure_eq_ok {roster : Roster} :
    verifyRosterStructure roster=.ok () ↔
      ¬roster.version<1 ∧ roster.addenda.length=asUsize roster.version := by
  simp [verifyRosterStructure]

/-- The completed walk together with the comparison against the input: these
succeed exactly on honestly built rosters. -/
theorem replay_iff {C : Crypto} {roster : Roster} {keys : Keys C} :
    (verifyRosterStructure roster=.ok () ∧
      walkAddenda C roster 0 roster.addenda Roster.default ∅=.ok (roster,keys)) ↔
      HonestlyBuilt C roster ∧ IsActiveKeys C roster keys := by
  constructor
  · rintro ⟨hstructure,hwalk⟩
    obtain ⟨hpos,hlen⟩ := verifyRosterStructure_eq_ok.mp hstructure
    obtain ⟨h0,hb,_⟩ := asUsize_of_pos hpos
    have hne : roster.addenda≠[] := by
      rw [←List.length_pos_iff]
      omega
    obtain ⟨hbuilt,hkeys,_⟩ := walkAddenda_sound hne (by omega) hwalk
    exact ⟨hbuilt,hkeys⟩
  · rintro ⟨hbuilt,hkeys⟩
    have inv := hbuilt.invariant
    obtain ⟨keys',hwalk,hkeys'⟩ := walkAddenda_complete hbuilt (lists_self inv.distinct)
    obtain rfl := hkeys.unique hkeys'
    refine ⟨verifyRosterStructure_eq_ok.mpr ?_,hwalk⟩
    rw [inv.version]
    exact ⟨asI64_pos inv.nonempty inv.short,(asUsize_asI64 inv.short).symm⟩

/-- The anchor passes exactly when the verifier's key in the map is the expected one. -/
theorem checkVerifierAnchor_eq_ok {C : Crypto} {roster : Roster} {keys keys' : Keys C}
    {verifierNodeNumber : Int32} {expected : C.VerifyingKey} :
    checkVerifierAnchor C roster keys verifierNodeNumber expected=.ok keys' ↔
      keys.lookup verifierNodeNumber=some expected ∧ keys=keys' := by
  unfold checkVerifierAnchor
  split
  next hnone =>
    rw [hnone]
    split <;> simp
  next key hsome =>
    rw [hsome]
    by_cases hk : key=expected
    · simp [hk]
    · simp [hk]

/-- An accepted roster is an honestly built one that lists the verifier as
active under the expected key, and the result is the map of its active keys. -/
theorem verifyRoster_eq_ok {C : Crypto} {roster : Roster} {verifierNodeNumber : Int32}
    {verifierPublicKeySpki : Bytes} {keys : Keys C} :
    verifyRoster C roster verifierNodeNumber verifierPublicKeySpki=.ok keys ↔
      ∃ verifierKey,C.fromPublicKeyDer verifierPublicKeySpki=.ok verifierKey ∧
        HonestlyBuilt C roster ∧ IsActiveKeys C roster keys ∧
        ActiveWithKey C roster verifierNodeNumber verifierKey := by
  have htoOption : ∀ key,(C.fromPublicKeyDer verifierPublicKeySpki).toOption=some key ↔
      C.fromPublicKeyDer verifierPublicKeySpki=.ok key := by
    intro key
    cases C.fromPublicKeyDer verifierPublicKeySpki <;> simp [Except.toOption]
  simp only [verifyRoster,Outcome.bind_eq_ok,Outcome.expect_eq_ok,htoOption,
    Outcome.reject_eq_ok,checkVerifierAnchor_eq_ok,Prod.exists,not_not]
  refine exists_congr fun verifierKey => and_congr_right fun _ => ?_
  constructor
  · rintro ⟨_,hstructure,workingRoster,keys',hwalk,_,rfl,hanchor,rfl⟩
    obtain ⟨hbuilt,hkeys⟩ := replay_iff.mp ⟨hstructure,hwalk⟩
    exact ⟨hbuilt,hkeys,(hkeys _ _).mp hanchor⟩
  · rintro ⟨hbuilt,hkeys,hactive⟩
    obtain ⟨hstructure,hwalk⟩ := replay_iff.mpr ⟨hbuilt,hkeys⟩
    exact ⟨(),hstructure,roster,keys,hwalk,(),rfl,(hkeys _ _).mpr hactive,rfl⟩

/-- Every honestly built roster has a map of its active keys. -/
theorem HonestlyBuilt.exists_activeKeys {C : Crypto} {roster : Roster}
    (h : HonestlyBuilt C roster) : ∃ keys,IsActiveKeys C roster keys := by
  obtain ⟨keys,_,hkeys⟩ := walkAddenda_complete h (lists_self h.invariant.distinct)
  exact ⟨keys,hkeys⟩

end WispersConnect.RosterReplay
