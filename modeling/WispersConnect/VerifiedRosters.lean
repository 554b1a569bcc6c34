import WispersConnect.RosterHistory
import WispersConnect.RosterReplay
import WispersConnect.SymbolicCrypto

/-!
# What an accepted roster guarantees

Acceptance characterizes the honestly built rosters. Every way in which callers
later read an accepted roster returns the entry whose key was verified, revoked
numbers never act again, and each earlier state of an accepted roster is itself
accepted by its members.
-/

namespace WispersConnect.VerifiedRosters

open Messages OutcomeMonad Cryptography FirstMatch MachineIntegers
open RosterBuilders RosterVerification RosterChain RosterReplay RosterHistory MembershipLog
open SymbolicCrypto

/-- Acceptance means: honestly built, with the verifier active under its key;
the returned map is then that of the active keys. -/
theorem verifyRoster_accepts_iff (C : Crypto) (roster : Roster) (verifierNodeNumber : Int32)
    (verifierPublicKeySpki : Bytes) (verifierKey : C.VerifyingKey)
    (hspki : C.fromPublicKeyDer verifierPublicKeySpki=.ok verifierKey) :
    (∀ keys : Keys C,verifyRoster C roster verifierNodeNumber verifierPublicKeySpki=.ok keys ↔
      HonestlyBuilt C roster ∧ ActiveWithKey C roster verifierNodeNumber verifierKey ∧
        ∀ nodeNumber key,keys.lookup nodeNumber=some key ↔ ActiveWithKey C roster nodeNumber key) ∧
    ((∃ keys,verifyRoster C roster verifierNodeNumber verifierPublicKeySpki=.ok keys) ↔
      HonestlyBuilt C roster ∧ ActiveWithKey C roster verifierNodeNumber verifierKey) := by
  have haccept : ∀ keys : Keys C,
      verifyRoster C roster verifierNodeNumber verifierPublicKeySpki=.ok keys ↔
        HonestlyBuilt C roster ∧ ActiveWithKey C roster verifierNodeNumber verifierKey ∧
          IsActiveKeys C roster keys := by
    intro keys
    rw [verifyRoster_eq_ok]
    constructor
    · rintro ⟨key,hkey,hbuilt,hkeys,hactive⟩
      obtain rfl := Except.ok.inj (hspki.symm.trans hkey)
      exact ⟨hbuilt,hactive,hkeys⟩
    · rintro ⟨hbuilt,hactive,hkeys⟩
      exact ⟨verifierKey,hspki,hbuilt,hkeys,hactive⟩
  refine ⟨haccept,?_⟩
  constructor
  · rintro ⟨keys,hkeys⟩
    have h := (haccept keys).mp hkeys
    exact ⟨h.1,h.2.1⟩
  · rintro ⟨hbuilt,hactive⟩
    obtain ⟨keys,hkeys⟩ := HonestlyBuilt.exists_activeKeys hbuilt
    exact ⟨keys,(haccept keys).mpr ⟨hbuilt,hactive,hkeys⟩⟩

/-- The trio of three signed steps is honestly built, and lists its third node. -/
theorem verifyRoster_accepts_trio :
    HonestlyBuilt symbolicCrypto trioRoster ∧ ActiveWithKey symbolicCrypto trioRoster 3 (3 : UInt8) :=
  (verifyRoster_accepts_iff symbolicCrypto trioRoster 3 (symbolicSpki 3) (3 : UInt8) rfl).2.mp
    (Outcome.isOk_iff.mp (by decide +kernel))

/-- The listed entry under a number whose key the verified map holds. -/
def IsVerifiedEntry (C : Crypto) (roster : Roster) (keys : Keys C) (nodeNumber : Int32)
    (node : RosterNode) : Prop :=
  node∈roster.nodes ∧ node.nodeNumber=nodeNumber ∧
    ∃ key,C.fromPublicKeyDer node.publicKeySpki=.ok key ∧ keys.lookup nodeNumber=some key

/-- The addendum revokes the number. -/
inductive Revokes (nodeNumber : Int32) : Addendum→Prop where
  /-- A revocation naming it. -/
  | revoked {payload : RevocationPayload} {signature : Bytes}
      (number : payload.revokedNodeNumber=nodeNumber) :
      Revokes nodeNumber ⟨some (.revocation ⟨some payload,signature⟩)⟩

/-- The number has some role in the addendum. -/
inductive TakesPart (nodeNumber : Int32) : Addendum→Prop where
  /-- It is activated. -/
  | activated {payload : ActivationPayload} {newSignature endorserSignature : Bytes}
      (number : payload.newNodeNumber=nodeNumber) :
      TakesPart nodeNumber ⟨some (.activation ⟨some payload,newSignature,endorserSignature⟩)⟩
  /-- It endorses. -/
  | endorses {payload : ActivationPayload} {newSignature endorserSignature : Bytes}
      (number : payload.endorserNodeNumber=nodeNumber) :
      TakesPart nodeNumber ⟨some (.activation ⟨some payload,newSignature,endorserSignature⟩)⟩
  /-- It revokes. -/
  | revokes {payload : RevocationPayload} {signature : Bytes}
      (number : payload.revokerNodeNumber=nodeNumber) :
      TakesPart nodeNumber ⟨some (.revocation ⟨some payload,signature⟩)⟩
  /-- It is revoked. -/
  | revoked {payload : RevocationPayload} {signature : Bytes}
      (number : payload.revokedNodeNumber=nodeNumber) :
      TakesPart nodeNumber ⟨some (.revocation ⟨some payload,signature⟩)⟩

/-- A revoked number is expelled by the event of its addendum. -/
theorem Revokes.expelled {nodeNumber : Int32} {addendum : Addendum}
    (h : Revokes nodeNumber addendum) :
    ∃ event,addendumEvent addendum=some event ∧ nodeNumber∈event.expelled := by
  cases h with
  | revoked number => exact ⟨_,rfl,List.mem_singleton.mpr number.symm⟩

/-- A number with a role is an actor of the event of its addendum. -/
theorem TakesPart.actor {nodeNumber : Int32} {addendum : Addendum}
    (h : TakesPart nodeNumber addendum) :
    ∃ event,addendumEvent addendum=some event ∧ nodeNumber∈event.actors := by
  cases h with
  | @activated payload _ _ number =>
    by_cases hv : payload.version=1
    · exact ⟨_,if_pos hv,by simp [Event.actors,number]⟩
    · exact ⟨_,if_neg hv,by simp [Event.actors,number]⟩
  | @endorses payload _ _ number =>
    by_cases hv : payload.version=1
    · exact ⟨_,if_pos hv,by simp [Event.actors,number]⟩
    · exact ⟨_,if_neg hv,by simp [Event.actors,number]⟩
  | revokes number => exact ⟨_,rfl,by simp [Event.actors,number]⟩
  | revoked number => exact ⟨_,rfl,by simp [Event.actors,number]⟩

/-- In a legal history a revoked number has no role in any later addendum. -/
theorem ChainInvariant.revoked_inert {C : Crypto} {roster : Roster} (h : ChainInvariant C roster)
    {i j : ℕ} {earlier later : Addendum} (hij : i<j) (hi : roster.addenda[i]?=some earlier)
    (hj : roster.addenda[j]?=some later) {nodeNumber : Int32} (hr : Revokes nodeNumber earlier) :
    ¬TakesPart nodeNumber later := by
  intro ht
  have hpairs := List.pairwise_filterMap.mp h.legal.expelled_inert
  obtain ⟨hil,hi⟩ := List.getElem?_eq_some_iff.mp hi
  obtain ⟨hjl,hj⟩ := List.getElem?_eq_some_iff.mp hj
  obtain ⟨event,he,hx⟩ := hr.expelled
  obtain ⟨event',he',hx'⟩ := ht.actor
  have hpair := List.pairwise_iff_getElem.mp hpairs i j hil hjl hij
  rw [hi,hj] at hpair
  exact hpair event he event' he' nodeNumber hx hx'

/-- The entry whose key was verified is the active entry with its number. -/
theorem isVerifiedEntry_iff {C : Crypto} {roster : Roster} {keys : Keys C}
    (inv : ChainInvariant C roster) (hkeys : IsActiveKeys C roster keys) {nodeNumber : Int32}
    {node : RosterNode} :
    IsVerifiedEntry C roster keys nodeNumber node ↔
      node∈roster.nodes ∧ node.nodeNumber=nodeNumber ∧ node.revoked=false := by
  constructor
  · rintro ⟨hm,hn,key,_,hlookup⟩
    obtain ⟨active,hactive,hnumber,hrevoked,_⟩ := (hkeys _ _).mp hlookup
    have hsame := inv.entry_unique hm hactive (hn.trans hnumber.symm)
    rw [←hsame] at hrevoked
    exact ⟨hm,hn,hrevoked⟩
  · rintro ⟨hm,hn,hr⟩
    obtain ⟨key,hkey⟩ := inv.keys node hm
    exact ⟨hm,hn,key,hkey,(hkeys _ _).mpr ⟨node,hm,hn,hr,hkey⟩⟩

/-- The answerer's caller check finds exactly the active entry. -/
theorem findCaller_eq_ok {C : Crypto} {roster : Roster} (inv : ChainInvariant C roster)
    {nodeNumber : Int32} {node : RosterNode} :
    findCaller roster nodeNumber=.ok node ↔
      node∈roster.nodes ∧ node.nodeNumber=nodeNumber ∧ node.revoked=false := by
  simp only [findCaller,Outcome.bind_eq_ok,Outcome.okOr_eq_ok,Outcome.reject_eq_ok,
    Outcome.pure_eq_ok,Outcome.ok.injEq,findNode,
    lookup_eq_some RosterNode.nodeNumber inv.distinct,Bool.not_eq_true]
  constructor
  · rintro ⟨_,⟨hm,hn⟩,_,hr,rfl⟩
    exact ⟨hm,hn,hr⟩
  · rintro ⟨hm,hn,hr⟩
    exact ⟨node,⟨hm,hn⟩,(),hr,rfl⟩

/-- The peer lookup finds exactly the active entry. -/
theorem findPeer_eq_some {C : Crypto} {roster : Roster} (inv : ChainInvariant C roster)
    {nodeNumber : Int32} {node : RosterNode} :
    findPeer roster nodeNumber=some node ↔
      node∈roster.nodes ∧ node.nodeNumber=nodeNumber ∧ node.revoked=false := by
  rw [findPeer,find_and_eq_some RosterNode.nodeNumber inv.distinct (fun n => !n.revoked),
    lookup_eq_some RosterNode.nodeNumber inv.distinct,Bool.not_eq_true',and_assoc]

/-- All readers of an accepted roster agree on the entry whose key was verified,
and a revoked number never acts again. -/
theorem verifyRoster_readers_agree (C : Crypto) (roster : Roster) (verifierNodeNumber : Int32)
    (verifierPublicKeySpki : Bytes) (keys : Keys C)
    (h : verifyRoster C roster verifierNodeNumber verifierPublicKeySpki=.ok keys) :
    (roster.nodes.map RosterNode.nodeNumber).Nodup ∧
    (∀ nodeNumber,nodeNumber∈keys ↔
      ∃ node∈roster.nodes,node.nodeNumber=nodeNumber ∧ node.revoked=false) ∧
    (∀ node∈roster.nodes,node.revoked=false→
      ∃ key,C.fromPublicKeyDer node.publicKeySpki=.ok key ∧ keys.lookup node.nodeNumber=some key) ∧
    (∀ nodeNumber node,
      (findCaller roster nodeNumber=.ok node ↔ IsVerifiedEntry C roster keys nodeNumber node) ∧
      (findPeer roster nodeNumber=some node ↔ IsVerifiedEntry C roster keys nodeNumber node) ∧
      (node∈activeNodes roster ∧ node.nodeNumber=nodeNumber ↔
        IsVerifiedEntry C roster keys nodeNumber node)) ∧
    (∀ (i j : ℕ) (earlier later : Addendum) (nodeNumber : Int32),i<j →
      roster.addenda[i]?=some earlier →
      roster.addenda[j]?=some later → Revokes nodeNumber earlier → ¬TakesPart nodeNumber later) := by
  obtain ⟨_,_,hbuilt,hkeys,_⟩ := verifyRoster_eq_ok.mp h
  have inv := hbuilt.invariant
  have hentry := fun nodeNumber node => @isVerifiedEntry_iff C roster keys inv hkeys nodeNumber node
  have hactive : ∀ node∈roster.nodes,node.revoked=false→
      ∃ key,C.fromPublicKeyDer node.publicKeySpki=.ok key ∧
        keys.lookup node.nodeNumber=some key := by
    intro node hm hr
    obtain ⟨_,_,key,hkey,hlookup⟩ := (hentry _ _).mpr ⟨hm,rfl,hr⟩
    exact ⟨key,hkey,hlookup⟩
  refine ⟨inv.distinct,?_,hactive,?_,?_⟩
  · intro nodeNumber
    rw [Finmap.mem_iff]
    constructor
    · rintro ⟨key,hlookup⟩
      obtain ⟨node,hm,hn,hr,_⟩ := (hkeys _ _).mp hlookup
      exact ⟨node,hm,hn,hr⟩
    · rintro ⟨node,hm,rfl,hr⟩
      obtain ⟨key,_,hlookup⟩ := hactive node hm hr
      exact ⟨key,hlookup⟩
  · intro nodeNumber node
    refine ⟨(findCaller_eq_ok inv).trans (hentry _ _).symm,
      (findPeer_eq_some inv).trans (hentry _ _).symm,?_⟩
    rw [hentry,activeNodes,List.mem_filter,Bool.not_eq_true',and_assoc]
    exact and_congr_right fun _ => and_comm
  · intro i j earlier later nodeNumber hij hi hj hr
    exact ChainInvariant.revoked_inert inv hij hi hj hr

/-- In the reduced trio every lookup of node 2 fails and node 2 acts no more. -/
theorem verifyRoster_readers_agree_reduced :
    findPeer reducedRoster 2=none ∧
    ∃ keys : Keys symbolicCrypto,verifyRoster symbolicCrypto reducedRoster 3 (symbolicSpki 3)=.ok keys ∧
      (2 : Int32)∉keys := by
  obtain ⟨keys,hkeys⟩ : ∃ keys,
      verifyRoster symbolicCrypto reducedRoster 3 (symbolicSpki 3)=.ok keys :=
    Outcome.isOk_iff.mp (by decide +kernel)
  have hmem := (verifyRoster_readers_agree symbolicCrypto reducedRoster 3 (symbolicSpki 3) keys
    hkeys).2.1 2
  refine ⟨by decide +kernel,keys,hkeys,?_⟩
  rw [hmem]
  decide +kernel

/-- Every initial part of an accepted roster is accepted by each of its active
members, and each member's own signature over its introduction is stored. -/
theorem verifyRoster_history (C : Crypto) (roster : Roster) (verifierNodeNumber : Int32)
    (verifierPublicKeySpki : Bytes) (keys : Keys C)
    (h : verifyRoster C roster verifierNodeNumber verifierPublicKeySpki=.ok keys) (k : ℕ)
    (hpos : 1≤k) (hk : k≤asUsize roster.version) :
    ∀ node∈(historyAt roster k).nodes,node.revoked=false→
      (∃ listed∈roster.nodes,listed.nodeNumber=node.nodeNumber ∧
        listed.publicKeySpki=node.publicKeySpki) ∧
      (∃ keys',verifyRoster C (historyAt roster k) node.nodeNumber node.publicKeySpki=.ok keys' ∧
        IsActiveKeys C (historyAt roster k) keys') ∧
      ∃ key,C.fromPublicKeyDer node.publicKeySpki=.ok key ∧
        ∃ j addendum signature,j<k ∧ roster.addenda[j]?=some addendum ∧
          Introduces node.nodeNumber addendum signature ∧
          SignedState C key (historyAt roster (j+1)) signature := by
  obtain ⟨_,_,hbuilt,_,_⟩ := verifyRoster_eq_ok.mp h
  have inv := hbuilt.invariant
  rw [inv.version,asUsize_asI64 inv.short] at hk
  have hpart := historyAt_honestlyBuilt hbuilt hpos hk
  intro node hm hr
  obtain ⟨key,hkey,j,addendum,signature,ha,hi,hs⟩ := HonestlyBuilt.introduced hpart hm
  obtain ⟨keys',hkeys'⟩ := HonestlyBuilt.exists_activeKeys hpart
  refine ⟨?_,⟨keys',?_,hkeys'⟩,key,hkey,j,addendum,signature,?_⟩
  · obtain ⟨listed,hlisted,rfl⟩ := List.mem_map.mp hm
    exact ⟨listed,List.mem_of_mem_filter hlisted,rfl,rfl⟩
  · exact verifyRoster_eq_ok.mpr ⟨key,hkey,hpart,hkeys',node,hm,rfl,hr,hkey⟩
  · have htake : (roster.addenda.take k)[j]?=some addendum := ha
    have hj : j<k := by
      have hlt := (List.getElem?_eq_some_iff.mp htake).1
      rw [List.length_take] at hlt
      omega
    rw [List.getElem?_take_of_lt hj] at htake
    rw [historyAt_historyAt hbuilt hpos hj hk] at hs
    exact ⟨hj,htake,hi,hs⟩

/-- Node 2, revoked by now, still verifies the trio's first two versions. -/
theorem verifyRoster_history_reduced :
    ∃ keys',verifyRoster symbolicCrypto (historyAt reducedRoster 2) 2 (symbolicSpki 2)=.ok keys' := by
  obtain ⟨keys,hkeys⟩ : ∃ keys,
      verifyRoster symbolicCrypto reducedRoster 3 (symbolicSpki 3)=.ok keys :=
    Outcome.isOk_iff.mp (by decide +kernel)
  obtain ⟨_,⟨keys',hkeys',_⟩,_⟩ := verifyRoster_history symbolicCrypto reducedRoster 3
    (symbolicSpki 3) keys hkeys 2 (by decide) (by decide +kernel) ⟨2,symbolicSpki 2,false⟩
    (by decide +kernel) rfl
  exact ⟨keys',hkeys'⟩

end WispersConnect.VerifiedRosters
