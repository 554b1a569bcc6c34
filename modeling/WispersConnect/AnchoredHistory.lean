import WispersConnect.VerifiedRosters

/-!
# Histories anchored by the verifier's own signature

A node signs the state that introduces it. As long as its signature cannot be
forged and different states hash differently, every roster it later accepts
goes through exactly that state: the same earlier addenda, and the same first
entries.
-/

namespace WispersConnect.AnchoredHistory

open Messages OutcomeMonad Cryptography FirstMatch MachineIntegers
open RosterBuilders RosterVerification RosterChain RosterReplay RosterHistory MembershipLog
open VerifiedRosters SymbolicCrypto

/-- The signatures an addendum stores. -/
def addendumSignatures (addendum : Addendum) : List Bytes :=
  match addendum.kind with
  | some (.activation act) => [act.newNodeSignature,act.endorserSignature]
  | some (.revocation rev) => [rev.revokerSignature]
  | none => []

/-- The signatures stored in a roster. -/
def storedSignatures (roster : Roster) : List Bytes := roster.addenda.flatMap addendumSignatures

/-- A stored signature that verifies under the key was made by it, over a
state with the hash it verifies for. -/
def Unforgeable (C : Crypto) (key : C.VerifyingKey) (signed : Roster→Prop) (roster : Roster) :
    Prop :=
  ∀ signature∈storedSignatures roster,∀ hash,verifySignature C key hash signature=.ok () →
    ∃ state,signed state ∧ signingHash C state=hash

/-- Signing more keeps a roster's signatures accounted for. -/
theorem Unforgeable.mono {C : Crypto} {key : C.VerifyingKey} {signed signed' : Roster→Prop}
    {roster : Roster} (h : Unforgeable C key signed roster)
    (hsub : ∀ state,signed state → signed' state) : Unforgeable C key signed' roster := by
  intro signature hm hash hverify
  obtain ⟨state,hstate,hhash⟩ := h signature hm hash hverify
  exact ⟨state,hsub state hstate,hhash⟩

/-- The latest addendum introduces the number. -/
def IntroducesLatest (nodeNumber : Int32) (roster : Roster) : Prop :=
  ∃ last signature,roster.addenda.getLast?=some last ∧ Introduces nodeNumber last signature

/-- The roster went through the signed state, up to the signatures on that
state's latest addendum. -/
structure GoesThrough (state roster : Roster) : Prop where
  /-- The state counts its own addenda. -/
  counted : state.version=asI64 state.addenda.length
  /-- The roster is at least as new. -/
  newer : state.version≤roster.version
  /-- All addenda before the state's latest are the same. -/
  earlier : roster.addenda.take (state.addenda.length-1)=state.addenda.dropLast
  /-- The state's latest addendum is the same but for its signatures. -/
  latest : (roster.addenda[state.addenda.length-1]?).map Addendum.clearSignatures=
    state.addenda.getLast?
  /-- The state's entries come first, with the same numbers and keys. -/
  entries : (roster.nodes.take state.nodes.length).map identity=state.nodes.map identity
  /-- Their flags changed only by revocations that came later. -/
  flags : ∀ (i : ℕ) (old now : RosterNode),state.nodes[i]?=some old → roster.nodes[i]?=some now →
    (now.revoked=true ↔ old.revoked=true ∨
      ∃ addendum∈roster.addenda.drop state.addenda.length,Revokes now.nodeNumber addendum)

/-- Filtering by the first keys of a list without repetition takes its first part. -/
theorem filter_mem_eq_take {α κ : Type} [DecidableEq κ] (key : α→κ) {xs : List α} {as bs : List κ}
    (hd : (xs.map key).Nodup) (h : xs.map key=as++bs) :
    xs.filter (fun x => key x∈as)=xs.take as.length := by
  obtain ⟨firsts,rest,rfl,hfirsts,hrest⟩ := List.map_eq_append_iff.mp h
  have hlen : as.length=firsts.length := by rw [←hfirsts,List.length_map]
  have hkeep : firsts.filter (fun x => key x∈as)=firsts := by
    refine List.filter_eq_self.mpr fun x hx => ?_
    rw [decide_eq_true_eq,←hfirsts]
    exact List.mem_map_of_mem hx
  have hdrop : rest.filter (fun x => key x∈as)=[] := by
    refine List.filter_eq_nil_iff.mpr fun x hx => ?_
    rw [decide_eq_true_eq]
    intro hm
    rw [h] at hd
    have hb : key x∈bs := hrest ▸ List.mem_map_of_mem hx
    exact (List.nodup_append.mp hd).2.2 _ hm _ hb rfl
  rw [List.filter_append,hkeep,hdrop,List.append_nil,hlen,List.take_left]

/-- The expelled numbers are those that some addendum revokes. -/
theorem mem_expelled_events {addenda : List Addendum} {nodeNumber : Int32} :
    nodeNumber∈expelled (events addenda) ↔ ∃ addendum∈addenda,Revokes nodeNumber addendum := by
  simp only [expelled,events,List.mem_flatMap,List.mem_filterMap]
  constructor
  · rintro ⟨event,⟨addendum,hm,he⟩,hx⟩
    refine ⟨addendum,hm,?_⟩
    rcases addendum with ⟨_|⟨⟨_|payload,_,_⟩|⟨_|payload,_⟩⟩⟩
    · cases he
    · cases he
    · by_cases hv : payload.version=1
      · cases (if_pos hv).symm.trans he
        cases hx
      · cases (if_neg hv).symm.trans he
        cases hx
    · cases he
    · cases he
      exact .revoked (List.mem_singleton.mp hx).symm
  · rintro ⟨addendum,hm,hr⟩
    obtain ⟨event,he,hx⟩ := hr.expelled
    exact ⟨event,⟨addendum,hm,he⟩,hx⟩

/-- A roster goes through each state of its own history. -/
theorem goesThrough_historyAt {C : Crypto} {roster : Roster} (h : HonestlyBuilt C roster)
    {j : ℕ} (hj : j<roster.addenda.length) :
    GoesThrough (clearLatestAddendumSignatures (historyAt roster (j+1))) roster := by
  have inv := h.invariant
  have hshort := inv.short
  have htake : roster.addenda.take (j+1)=roster.addenda.take j++[roster.addenda[j]] :=
    List.take_succ_eq_append_getElem hj
  have hclear : clearLatestAddendumSignatures (historyAt roster (j+1))=
      ⟨asI64 (j+1),nodesAt (events (roster.addenda.take (j+1))) roster.nodes,
        roster.addenda.take j++[Addendum.clearSignatures roster.addenda[j]]⟩ := by
    rw [historyAt,htake,clearLatest_concat]
  have hcount : (roster.addenda.take j++[Addendum.clearSignatures roster.addenda[j]]).length=
      j+1 := by
    rw [List.length_append,List.length_take,List.length_singleton]
    omega
  have hlog : events roster.addenda=
      events (roster.addenda.take (j+1))++events (roster.addenda.drop (j+1)) := by
    rw [←events_append,List.take_append_drop]
  have hsplit : roster.nodes.map RosterNode.nodeNumber=
      joined (events (roster.addenda.take (j+1)))++joined (events (roster.addenda.drop (j+1))) := by
    rw [inv.numbers,hlog,joined_append]
  have hfirst := filter_mem_eq_take RosterNode.nodeNumber inv.distinct hsplit
  have hnodes : nodesAt (events (roster.addenda.take (j+1))) roster.nodes=
      (roster.nodes.take (joined (events (roster.addenda.take (j+1)))).length).map fun n =>
        {n with revoked := decide (n.nodeNumber∈expelled (events (roster.addenda.take (j+1))))} := by
    rw [nodesAt,hfirst]
  have hwithin : (joined (events (roster.addenda.take (j+1)))).length≤roster.nodes.length := by
    have hl := congrArg List.length hsplit
    rw [List.length_map,List.length_append] at hl
    omega
  rw [hclear]
  constructor
  case counted => rw [hcount]
  case newer =>
    rw [inv.version,Int64.le_iff_toInt_le,asI64_toInt (by omega),asI64_toInt hshort]
    exact_mod_cast hj
  case earlier => rw [hcount,List.dropLast_concat,Nat.add_sub_cancel]
  case latest =>
    rw [hcount,Nat.add_sub_cancel,List.getElem?_eq_getElem hj,List.getLast?_concat]
    rfl
  case entries =>
    rw [hnodes,List.length_map,List.length_take,Nat.min_eq_left hwithin,List.map_map]
    rfl
  case flags =>
    intro i old now hold hnow
    rw [hcount,←mem_expelled_events]
    dsimp only at hold
    rw [hnodes,List.getElem?_map] at hold
    obtain ⟨entry,hentry,rfl⟩ := Option.map_eq_some_iff.mp hold
    have hi : roster.nodes[i]?=some entry := by
      have hlt := (List.getElem?_eq_some_iff.mp hentry).1
      rw [List.length_take] at hlt
      rwa [List.getElem?_take_of_lt (by omega)] at hentry
    obtain rfl := Option.some.inj (hi.symm.trans hnow)
    rw [inv.flags entry (List.mem_of_getElem? hi),hlog,expelled_append,List.mem_append,
      decide_eq_true_eq]

/-- Clearing signatures keeps whom an addendum introduces. -/
theorem introduces_clearSignatures {nodeNumber : Int32} {addendum : Addendum} {signature : Bytes}
    (h : Introduces nodeNumber addendum signature) :
    Introduces nodeNumber (Addendum.clearSignatures addendum) [] := by
  cases h with
  | newNode number => exact .newNode number
  | founder first number => exact .founder first number

/-- Whom a cleared addendum introduces, the addendum introduces. -/
theorem introduces_of_clearSignatures {nodeNumber : Int32} {addendum : Addendum}
    {signature : Bytes} (h : Introduces nodeNumber (Addendum.clearSignatures addendum) signature) :
    ∃ stored,Introduces nodeNumber addendum stored := by
  obtain ⟨_|⟨⟨_|payload,newSignature,endorserSignature⟩|revocation⟩⟩ := addendum
  · cases h
  · cases h
  · change Introduces nodeNumber ⟨some (.activation ⟨some payload,[],[]⟩)⟩ signature at h
    cases h with
    | newNode number => exact ⟨newSignature,.newNode number⟩
    | founder first number => exact ⟨endorserSignature,.founder first number⟩
  · cases h

/-- A state of the history introduces the number exactly when its last addendum does. -/
theorem introducesLatest_historyAt {roster : Roster} {j : ℕ} (hj : j<roster.addenda.length)
    {nodeNumber : Int32} :
    IntroducesLatest nodeNumber (clearLatestAddendumSignatures (historyAt roster (j+1))) ↔
      ∃ signature,Introduces nodeNumber roster.addenda[j] signature := by
  have hlast : (clearLatestAddendumSignatures (historyAt roster (j+1))).addenda.getLast?=
      some (Addendum.clearSignatures roster.addenda[j]) := by
    rw [historyAt,List.take_succ_eq_append_getElem hj,clearLatest_concat]
    exact List.getLast?_concat
  constructor
  · rintro ⟨last,signature,hl,hi⟩
    obtain rfl := Option.some.inj (hlast.symm.trans hl)
    exact introduces_of_clearSignatures hi
  · rintro ⟨signature,hi⟩
    exact ⟨_,[],hlast,introduces_clearSignatures hi⟩

/-- The signature of an introduction is stored with its addendum. -/
theorem introduces_stored {nodeNumber : Int32} {addendum : Addendum} {signature : Bytes}
    (h : Introduces nodeNumber addendum signature) : signature∈addendumSignatures addendum := by
  cases h with
  | newNode _ => exact List.mem_cons_self
  | founder _ _ => exact List.mem_cons_of_mem _ List.mem_cons_self

/-- An active node's key really signed the state that introduced it. -/
theorem introduced_signed {C : Crypto} {roster : Roster} {nodeNumber : Int32}
    {key : C.VerifyingKey} {signed : Roster→Prop} (hinj : Function.Injective (signingHash C))
    (h : HonestlyBuilt C roster) (hactive : ActiveWithKey C roster nodeNumber key)
    (hunforgeable : Unforgeable C key signed roster) :
    ∃ j,j<roster.addenda.length ∧
      signed (clearLatestAddendumSignatures (historyAt roster (j+1))) ∧
      IntroducesLatest nodeNumber (clearLatestAddendumSignatures (historyAt roster (j+1))) := by
  obtain ⟨node,hm,rfl,_,hdecode⟩ := hactive
  obtain ⟨key',hkey',j,addendum,signature,ha,hi,hs⟩ := HonestlyBuilt.introduced h hm
  obtain rfl := Except.ok.inj (hdecode.symm.trans hkey')
  obtain ⟨hj,haddendum⟩ := List.getElem?_eq_some_iff.mp ha
  have hstored : signature∈storedSignatures roster :=
    List.mem_flatMap.mpr ⟨addendum,List.mem_of_getElem? ha,introduces_stored hi⟩
  obtain ⟨state,hsigned,hhash⟩ := hunforgeable signature hstored _ (signedState_iff.mp hs)
  have hstate := hinj hhash
  subst hstate
  exact ⟨j,hj,hsigned,(introducesLatest_historyAt hj).mpr ⟨signature,haddendum ▸ hi⟩⟩

/-- Two rosters accepted by a node that signed one introduction of itself both
go through the state it signed, so their histories up to it are the same. -/
theorem verifyRoster_anchors_history (C : Crypto) (nodeNumber : Int32) (spki : Bytes)
    (key : C.VerifyingKey) (hspki : C.fromPublicKeyDer spki=.ok key) (signed : Roster→Prop)
    (hinj : Function.Injective (signingHash C)) (state : Roster)
    (hunique : ∀ state',signed state' ∧ IntroducesLatest nodeNumber state' ↔ state'=state)
    (roster roster' : Roster) (keys keys' : Keys C)
    (hunforgeable : Unforgeable C key signed roster)
    (hunforgeable' : Unforgeable C key signed roster')
    (h : verifyRoster C roster nodeNumber spki=.ok keys)
    (h' : verifyRoster C roster' nodeNumber spki=.ok keys') :
    GoesThrough state roster ∧ GoesThrough state roster' ∧
      roster.addenda.take (state.addenda.length-1)=roster'.addenda.take (state.addenda.length-1) ∧
      (roster.addenda[state.addenda.length-1]?).map Addendum.clearSignatures=
        (roster'.addenda[state.addenda.length-1]?).map Addendum.clearSignatures ∧
      (roster.nodes.take state.nodes.length).map identity=
        (roster'.nodes.take state.nodes.length).map identity := by
  have hthrough : ∀ (accepted : Roster) (active : Keys C),Unforgeable C key signed accepted →
      verifyRoster C accepted nodeNumber spki=.ok active → GoesThrough state accepted := by
    intro accepted active hforge haccept
    obtain ⟨key',hkey',hbuilt,_,hactive⟩ := verifyRoster_eq_ok.mp haccept
    obtain rfl := Except.ok.inj (hspki.symm.trans hkey')
    obtain ⟨j,hj,hsigned,hintro⟩ := introduced_signed hinj hbuilt hactive hforge
    have hstate := (hunique _).mp ⟨hsigned,hintro⟩
    rw [←hstate]
    exact goesThrough_historyAt hbuilt hj
  have ha := hthrough roster keys hunforgeable h
  have hb := hthrough roster' keys' hunforgeable' h'
  exact ⟨ha,hb,ha.earlier.trans hb.earlier.symm,ha.latest.trans hb.latest.symm,
    ha.entries.trans hb.entries.symm⟩

/-- Symbolic signatures are unforgeable as soon as each stored one that starts
with the key carries the hash of a signed state. -/
theorem symbolic_unforgeable {key : UInt8} {signed : List Roster} {roster : Roster}
    (h : ∀ signature∈storedSignatures roster,signature.head?=some key →
      ∃ state∈signed,signature.tail=signingHash symbolicCrypto state) :
    Unforgeable symbolicCrypto key (fun state => state∈signed) roster := by
  intro signature hm hash hverify
  have hform := symbolicCrypto_verify_iff.mp hverify
  subst hform
  obtain ⟨state,hstate,hhash⟩ := h _ hm rfl
  exact ⟨state,hstate,hhash.symm⟩

/-- Node 3 signed only its own introduction to the trio, which both the trio and
the reduced trio go through. -/
theorem verifyRoster_anchors_history_trio :
    GoesThrough (clearLatestAddendumSignatures trioRoster) trioRoster ∧
      GoesThrough (clearLatestAddendumSignatures trioRoster) reducedRoster := by
  obtain ⟨keys,hkeys⟩ : ∃ keys,verifyRoster symbolicCrypto trioRoster 3 (symbolicSpki 3)=.ok keys :=
    Outcome.isOk_iff.mp (by decide +kernel)
  obtain ⟨keys',hkeys'⟩ : ∃ keys,
      verifyRoster symbolicCrypto reducedRoster 3 (symbolicSpki 3)=.ok keys :=
    Outcome.isOk_iff.mp (by decide +kernel)
  have hintro : IntroducesLatest 3 (clearLatestAddendumSignatures trioRoster) :=
    ⟨unsignedActivation ⟨2,3,2,[32],[22]⟩,[],by decide +kernel,.newNode rfl⟩
  have hall := verifyRoster_anchors_history symbolicCrypto 3 (symbolicSpki 3) (3 : UInt8) rfl
    (fun state => state∈[clearLatestAddendumSignatures trioRoster])
    symbolicCrypto_signingHash_injective (clearLatestAddendumSignatures trioRoster)
    (fun state => ⟨fun hs => List.mem_singleton.mp hs.1,
      fun hs => ⟨List.mem_singleton.mpr hs,hs ▸ hintro⟩⟩)
    trioRoster reducedRoster keys keys' (symbolic_unforgeable (by decide +kernel))
    (symbolic_unforgeable (by decide +kernel)) hkeys hkeys'
  exact ⟨hall.1,hall.2.1⟩

end WispersConnect.AnchoredHistory
