import WispersConnect.DeviceRuns
import WispersConnect.Runs
import WispersConnect.VerifierAnchor

/-!
# Concurrent calls on one cached roster

`revoke_node` and `find_peer_in_roster` take a shared reference: each reads the
cached roster, talks to the hub and writes the cache, in three steps that those of
other calls come between. The hub is honest and only appends. The last write wins,
so an older roster may replace a newer one, exactly when a write comes after that
of a call which asked the hub later.
-/

namespace WispersConnect.CacheRaces

open Messages OutcomeMonad Cryptography FirstMatch MachineIntegers RosterBuilders
open RosterVerification RosterChain RosterReplay NodeLifecycle ActivationSteps VerifierAnchor
open PeerEncoding PeerConnections DeviceRuns SymbolicCrypto Runs

/-- The guards of `revoke_node` on the cached roster. -/
def checkRevocable (registration : NodeRegistration) (base : Roster) (targetNodeNumber : Int32) :
    Outcome NodeStateError Unit := do
  Outcome.reject (targetNodeNumber=registration.nodeNumber) .cannotRevokeSelf
  Outcome.reject ((activeNodes base).any (fun n => n.nodeNumber==targetNodeNumber)=false)
    (.nodeNotActive targetNodeNumber)

/-- Where a call on the shared node stands. -/
inductive CacheCall where
  /-- It has not read the cache yet. -/
  | idle
  /-- A revocation that read its base. -/
  | revoking (targetNodeNumber : Int32) (base : Roster)
  /-- A lookup that did not find its peer. -/
  | looking (peerNodeNumber : Int32)
  /-- It has what it is about to write. -/
  | writing (roster : Roster)
  /-- It returned or was dropped. -/
  | done

/-- The hub, the cached roster and the calls under way. -/
structure CacheState (ι : Type) where
  /-- The hub's current roster. -/
  hub : Roster
  /-- The node's cached roster. -/
  cache : Roster
  /-- Where each call stands. -/
  calls : ι→CacheCall

/-- What happens at the hub and at the node. -/
inductive CacheEvent (ι : Type) where
  /-- Another node's update is taken. -/
  | updated (roster : Roster)
  /-- A call reads the cache and goes on to the hub. -/
  | began (i : ι)
  /-- A lookup returns a peer from the cache. -/
  | found (i : ι) (peerNodeNumber : Int32) (entry : RosterNode)
  /-- The hub takes a call's revocation. -/
  | submitted (i : ι) (roster : Roster)
  /-- A call fetches the hub's roster. -/
  | fetched (i : ι) (roster : Roster)
  /-- A call writes the cache. -/
  | wrote (i : ι) (roster : Roster)
  /-- A call fails or is dropped. -/
  | failed (i : ι)

/-- The hub answers with its current roster, and takes the next version only. -/
structure HonestHub (current : Roster) (hub : Hub) : Prop where
  /-- What is read. -/
  reads : ∀ registration roster,hub.getUnverifiedRoster registration=.ok roster → roster=current
  /-- What is taken. -/
  updates : ∀ registration newRoster cosigned,hub.submitRoster registration newRoster=.ok cosigned →
    (addOne current.version : Outcome Empty Int64)=.ok newRoster.version

section Model

variable {C : Crypto} {ι : Type} [DecidableEq ι]

/-- The state with one call moved on. -/
def CacheState.set (state : CacheState ι) (i : ι) (call : CacheCall) : CacheState ι :=
  {state with calls := Function.update state.calls i call}

/-- One step of a call on the shared node, or of the hub. -/
inductive CacheStep (node : Node C) (registration : NodeRegistration) (before : CacheState ι) :
    CacheEvent ι→CacheState ι→Prop where
  /-- Another node activates or revokes. -/
  | updated {roster : Roster} (next : HonestStep C before.hub roster) :
      CacheStep node registration before (.updated roster) {before with hub := roster}
  /-- A revocation passes its guards. -/
  | beganRevoking {i : ι} {targetNodeNumber : Int32} (idle : before.calls i=.idle)
      (revocable : checkRevocable registration before.cache targetNodeNumber=.ok ()) :
      CacheStep node registration before (.began i)
        (before.set i (.revoking targetNodeNumber before.cache))
  /-- A lookup does not find its peer in the cache. -/
  | beganLooking {i : ι} {peerNodeNumber : Int32} (idle : before.calls i=.idle)
      (absent : findPeer before.cache peerNodeNumber=none) :
      CacheStep node registration before (.began i) (before.set i (.looking peerNodeNumber))
  /-- A lookup finds its peer in the cache. -/
  | found {i : ι} {peerNodeNumber : Int32} {entry : RosterNode} (idle : before.calls i=.idle)
      (present : findPeer before.cache peerNodeNumber=some entry) :
      CacheStep node registration before (.found i peerNodeNumber entry) (before.set i .done)
  /-- A revocation of the base that was read is submitted, and taken. -/
  | submitted {i : ι} {targetNodeNumber : Int32} {base newRoster : Roster} {hub : Hub}
      (under : before.calls i=.revoking targetNodeNumber base) (honest : HonestHub before.hub hub)
      (submits : node.submitRevocation registration base targetNodeNumber hub=.ok newRoster) :
      CacheStep node registration before (.submitted i newRoster)
        {before.set i (.writing newRoster) with hub := newRoster}
  /-- A lookup fetches and verifies the hub's roster, and finds its peer there. -/
  | fetched {i : ι} {peerNodeNumber : Int32} {roster : Roster} {entry : RosterNode} {hub : Hub}
      (under : before.calls i=.looking peerNodeNumber) (honest : HonestHub before.hub hub)
      (fetches : hub.getAndVerifyRoster C registration (C.publicKeySpki node.signingKey)=.ok roster)
      (present : findPeer roster peerNodeNumber=some entry) :
      CacheStep node registration before (.fetched i roster) (before.set i (.writing roster))
  /-- What a call has is written. -/
  | wrote {i : ι} {roster : Roster} (under : before.calls i=.writing roster) :
      CacheStep node registration before (.wrote i roster)
        {before.set i .done with cache := roster}
  /-- A call may fail wherever it stands. -/
  | failed {i : ι} :
      CacheStep node registration before (.failed i) (before.set i .done)

/-- The runs of calls on a shared node. -/
abbrev CacheRun (node : Node C) (registration : NodeRegistration) (start : CacheState ι) :
    List (CacheEvent ι)→CacheState ι→Prop :=
  Run (fun _ before event after => CacheStep node registration before event after) start

/-- The calls start on an activated node whose cache is an earlier state of the hub's roster. -/
structure CacheStart (node : Node C) (registration : NodeRegistration) (start : CacheState ι) :
    Prop where
  /-- The cached roster verifies for the node. -/
  verified : ∃ keys,verifyRoster C start.cache registration.nodeNumber
    (C.publicKeySpki node.signingKey)=.ok keys
  /-- The hub went on from it. -/
  grown : Relation.ReflTransGen (HonestStep C) start.cache start.hub
  /-- No call is under way. -/
  idle : ∀ i,start.calls i=.idle

end Model

/-- The hub's roster after the given events. -/
def hubAfter {ι : Type} (start : Roster) (log : List (CacheEvent ι)) : Roster :=
  log.foldl (fun roster event => match event with
    | .updated next => next
    | .submitted _ next => next
    | _ => roster) start

/-- The cached roster after the given events. -/
def cacheAfter {ι : Type} (start : Roster) (log : List (CacheEvent ι)) : Roster :=
  log.foldl (fun roster event => match event with
    | .wrote _ next => next
    | _ => roster) start

/-- The hub's roster after more events. -/
theorem hubAfter_append {ι : Type} (start : Roster) (xs ys : List (CacheEvent ι)) :
    hubAfter start (xs++ys)=hubAfter (hubAfter start xs) ys := List.foldl_append

/-- The cached roster after more events. -/
theorem cacheAfter_append {ι : Type} (start : Roster) (xs ys : List (CacheEvent ι)) :
    cacheAfter start (xs++ys)=cacheAfter (cacheAfter start xs) ys := List.foldl_append

/-- The hub's roster changes. -/
inductive ChangesHub {ι : Type} : CacheEvent ι→Prop where
  /-- By another node. -/
  | updated {roster : Roster} : ChangesHub (.updated roster)
  /-- By a call of this node. -/
  | submitted {i : ι} {roster : Roster} : ChangesHub (.submitted i roster)

/-- A call gets from the hub what it is about to write. -/
inductive Exchanges {ι : Type} : CacheEvent ι→ι→Roster→Prop where
  /-- By a lookup. -/
  | fetched {i : ι} {roster : Roster} : Exchanges (.fetched i roster) i roster
  /-- By a revocation. -/
  | submitted {i : ι} {roster : Roster} : Exchanges (.submitted i roster) i roster

/-- The write at a position was overtaken: another call asked the hub later, after its
roster had changed, and wrote earlier. -/
def Overtaken {ι : Type} (log : List (CacheEvent ι)) (n : ℕ) : Prop :=
  ∃ (i j : ι) (roster roster' : Roster) (e k e' w : ℕ) (asked changed asked' : CacheEvent ι),
    e<k ∧ k≤e' ∧ e'<w ∧ w<n ∧
    log[n]?=some (.wrote i roster) ∧ log[e]?=some asked ∧ Exchanges asked i roster ∧
    log[k]?=some changed ∧ ChangesHub changed ∧
    log[e']?=some asked' ∧ Exchanges asked' j roster' ∧ log[w]?=some (.wrote j roster')

/-- One roster is the other or comes before it: what it lists as revoked stays so. -/
structure Older (a b : Roster) : Prop where
  /-- Its version is no later. -/
  version : a.version.toInt≤b.version.toInt
  /-- It is determined by its version. -/
  same : a.version=b.version → a=b
  /-- Revocations stay. -/
  revoked : ∀ nodeNumber,ListsRevoked a nodeNumber → ListsRevoked b nodeNumber

/-- The node numbers of a roster are pairwise distinct. -/
def Distinct (roster : Roster) : Prop := (roster.nodes.map RosterNode.nodeNumber).Nodup

/-- The next version of a roster. -/
structure Extends (base next : Roster) : Prop where
  /-- It is one higher. -/
  version : next.version.toInt=base.version.toInt+1
  /-- Revocations stay. -/
  revoked : ∀ nodeNumber,ListsRevoked base nodeNumber → ListsRevoked next nodeNumber
  /-- Numbers stay distinct. -/
  distinct : Distinct next

/-- The checked increment of a version is one higher. -/
theorem next_toInt {ε : Type} {version next : Int64} (h : (addOne version : Outcome ε Int64)=.ok next) :
    next.toInt=version.toInt+1 := by
  obtain ⟨hmax,rfl⟩ := addOne_eq_ok.mp h
  exact addOne_toInt hmax

/-- A revocation extends its base. -/
theorem revocationState_extends {base : Roster} {payload : RevocationPayload}
    (hd : Distinct base) (hnext : (addOne base.version : Outcome Empty Int64)=.ok payload.version)
    (addendum : Addendum) : Extends base (revocationState base payload addendum) := by
  refine ⟨next_toInt hnext,?_,?_⟩
  · rintro nodeNumber ⟨old,hm,hn,hr⟩
    refine ⟨_,(mem_markRevoked hd).mpr ⟨old,hm,rfl⟩,hn,?_⟩
    rw [hr,Bool.true_or]
  · rw [Distinct,revocationState,markRevoked_numbers]
    exact hd

/-- An honest step extends its base. -/
theorem honestStep_extends {C : Crypto} {base next : Roster} (hd : Distinct base)
    (h : HonestStep C base next) : Extends base next := by
  rcases (honestStep_iff C base next).mp h with
    ⟨payload,newSpki,_,_,_,_,facts,rfl⟩|⟨payload,_,_,_,facts,rfl⟩
  · refine ⟨next_toInt facts.nextVersion,?_,?_⟩
    · rintro nodeNumber ⟨old,hm,hn,hr⟩
      exact ⟨old,List.mem_append_left _ hm,hn,hr⟩
    · rw [Distinct,activationState,List.map_append]
      refine List.nodup_append.mpr ⟨hd,List.nodup_singleton _,?_⟩
      intro a ha b hb
      obtain ⟨old,hm,rfl⟩ := List.mem_map.mp ha
      obtain rfl := List.mem_singleton.mp hb
      exact facts.fresh old hm
  · exact revocationState_extends hd facts.nextVersion _

/-- A roster is older than itself. -/
theorem Older.refl (a : Roster) : Older a a := ⟨le_refl _,fun _ => rfl,fun _ h => h⟩

/-- What is older than a roster is older than the next one. -/
theorem Older.extend {a b c : Roster} (h : Older a b) (hnext : Extends b c) : Older a c := by
  have hversion := hnext.version
  have hle := h.version
  refine ⟨by omega,?_,fun nodeNumber hr => hnext.revoked nodeNumber (h.revoked nodeNumber hr)⟩
  intro hsame
  rw [hsame] at hle
  omega

/-- Older rosters of older rosters are older. -/
theorem Older.trans {a b c : Roster} (h : Older a b) (h' : Older b c) : Older a c := by
  have hle := h.version
  have hle' := h'.version
  refine ⟨by omega,?_,fun nodeNumber hr => h'.revoked nodeNumber (h.revoked nodeNumber hr)⟩
  intro hsame
  have htoInt := congrArg Int64.toInt hsame
  rw [h.same (Int64.toInt_inj.mp (by omega)),h'.same (Int64.toInt_inj.mp (by omega))]

/-- Of two rosters of which one is older, the one of the lower version is. -/
theorem Older.of_version {a b : Roster} (h : Older a b ∨ Older b a)
    (hversion : a.version.toInt≤b.version.toInt) : Older a b := by
  rcases h with h|h
  · exact h
  · have hle := h.version
    have hequal : b.version=a.version := Int64.toInt_inj.mp (by omega)
    rw [h.same hequal]
    exact Older.refl a

/-- A roster that was extended by honest steps is older than where they lead. -/
theorem older_of_grown {C : Crypto} {a b : Roster} (hd : Distinct a)
    (h : Relation.ReflTransGen (HonestStep C) a b) : Older a b ∧ Distinct b := by
  induction h with
  | refl => exact ⟨Older.refl a,hd⟩
  | tail _ hstep ih =>
    have hnext := honestStep_extends ih.2 hstep
    exact ⟨ih.1.extend hnext,hnext.distinct⟩

section Runs

variable {C : Crypto} {ι : Type} {node : Node C} {registration : NodeRegistration}

/-- All that the node keeps are earlier states of the hub's roster. -/
structure CacheInvariant (state : CacheState ι) : Prop where
  /-- The hub lists each number once. -/
  distinct : Distinct state.hub
  /-- The cache holds a roster that the hub has had. -/
  cache : Older state.cache state.hub
  /-- The base of a revocation under way is one that it has had. -/
  base : ∀ i targetNodeNumber base,state.calls i=.revoking targetNodeNumber base →
    Older base state.hub
  /-- What is about to be written is one that it has had. -/
  writing : ∀ i roster,state.calls i=.writing roster → Older roster state.hub

/-- What a step does to the hub's roster. -/
inductive HubEffect (before : Roster) : CacheEvent ι→Roster→Prop where
  /-- Nothing. -/
  | kept {event : CacheEvent ι} (unchanged : ¬ChangesHub event) : HubEffect before event before
  /-- It is extended. -/
  | extended {event : CacheEvent ι} {after : Roster} (changed : ChangesHub event)
      (next : Extends before after) : HubEffect before event after

/-- The hub's roster is older than after a step. -/
theorem HubEffect.older {before after : Roster} {event : CacheEvent ι}
    (h : HubEffect before event after) : Older before after := by
  cases h with
  | kept unchanged => exact Older.refl before
  | extended changed next => exact (Older.refl before).extend next

/-- A change of the hub's roster extends it. -/
theorem HubEffect.changes {before after : Roster} {event : CacheEvent ι}
    (h : HubEffect before event after) (hchanges : ChangesHub event) : Extends before after := by
  cases h with
  | kept unchanged => exact absurd hchanges unchanged
  | extended changed next => exact next

/-- Other events keep it. -/
theorem HubEffect.keeps {before after : Roster} {event : CacheEvent ι}
    (h : HubEffect before event after) (hkept : ¬ChangesHub event) : after=before := by
  cases h with
  | kept unchanged => rfl
  | extended changed next => exact absurd changed hkept

/-- A submission that an honest hub takes extends the hub's roster. -/
theorem submitted_extends {state : CacheState ι} (inv : CacheInvariant state) {i : ι}
    {targetNodeNumber : Int32} {base newRoster : Roster} {hub : Hub}
    (under : state.calls i=.revoking targetNodeNumber base) (honest : HonestHub state.hub hub)
    (submits : node.submitRevocation registration base targetNodeNumber hub=.ok newRoster) :
    Extends state.hub newRoster := by
  obtain ⟨version,hnext,rfl,cosigned,htaken⟩ := submitRevocation_eq_ok submits
  have hversion := next_toInt (honest.updates _ _ _ htaken)
  have hown := next_toInt hnext
  have hequal : base.version=state.hub.version := by
    refine Int64.toInt_inj.mp ?_
    change version.toInt=_ at hversion
    omega
  have hbase := (inv.base i targetNodeNumber base under).same hequal
  subst hbase
  exact revocationState_extends inv.distinct hnext _

/-- The calls of a state keep earlier states when the hub's roster grows. -/
theorem CacheInvariant.grow {state : CacheState ι} (inv : CacheInvariant state) {hub : Roster}
    (hnext : Extends state.hub hub) : CacheInvariant {state with hub := hub} :=
  ⟨hnext.distinct,inv.cache.extend hnext,fun i target base h => (inv.base i target base h).extend hnext,
    fun i roster h => (inv.writing i roster h).extend hnext⟩

/-- The start satisfies the invariant. -/
theorem CacheStart.invariant {start : CacheState ι} (h : CacheStart node registration start) :
    CacheInvariant start := by
  obtain ⟨keys,hkeys⟩ := h.verified
  obtain ⟨_,_,hbuilt,_,_⟩ := verifyRoster_eq_ok.mp hkeys
  obtain ⟨holder,hdistinct⟩ := older_of_grown hbuilt.invariant.distinct h.grown
  refine ⟨hdistinct,holder,?_,?_⟩
  · intro i target base hcall
    cases (h.idle i).symm.trans hcall
  · intro i roster hcall
    cases (h.idle i).symm.trans hcall

variable [DecidableEq ι]

/-- Every step keeps the hub's roster or extends it. -/
theorem CacheStep.hubEffect {before after : CacheState ι} {event : CacheEvent ι}
    (h : CacheStep node registration before event after) (inv : CacheInvariant before) :
    HubEffect before.hub event after.hub := by
  cases h with
  | updated next => exact .extended .updated (honestStep_extends inv.distinct next)
  | submitted under honest submits =>
    exact .extended .submitted (submitted_extends inv under honest submits)
  | beganRevoking | beganLooking | found | fetched | wrote | failed =>
    refine .kept ?_
    intro hchanges
    cases hchanges

/-- A call's place after one call moved on. -/
theorem set_calls {state : CacheState ι} {i j : ι} {call found : CacheCall}
    (h : (state.set i call).calls j=found) : (j=i ∧ call=found) ∨ state.calls j=found := by
  change Function.update state.calls i call j=found at h
  by_cases hj : j=i
  · subst hj
    exact .inl ⟨rfl,(Function.update_self j call state.calls).symm.trans h⟩
  · exact .inr ((Function.update_of_ne hj call state.calls).symm.trans h)

/-- A call moves on with rosters that are earlier states. -/
theorem CacheInvariant.set {state : CacheState ι} (inv : CacheInvariant state) (i : ι)
    {call : CacheCall} (hbase : ∀ target base,call=.revoking target base → Older base state.hub)
    (hwriting : ∀ roster,call=.writing roster → Older roster state.hub) :
    CacheInvariant (state.set i call) := by
  refine ⟨inv.distinct,inv.cache,?_,?_⟩
  · intro j target base h
    rcases set_calls h with ⟨_,hcall⟩|hold
    · exact hbase target base hcall
    · exact inv.base j target base hold
  · intro j roster h
    rcases set_calls h with ⟨_,hcall⟩|hold
    · exact hwriting roster hcall
    · exact inv.writing j roster hold

/-- Every step keeps the invariant. -/
theorem CacheStep.invariant {before after : CacheState ι} {event : CacheEvent ι}
    (h : CacheStep node registration before event after) (inv : CacheInvariant before) :
    CacheInvariant after := by
  cases h with
  | updated next => exact inv.grow (honestStep_extends inv.distinct next)
  | @beganRevoking i target idle revocable =>
    refine inv.set i ?_ ?_
    · intro _ base hcall
      obtain ⟨_,rfl⟩ := CacheCall.revoking.inj hcall
      exact inv.cache
    · intro roster hcall
      cases hcall
  | @submitted i target base newRoster hub under honest submits =>
    refine (inv.grow (submitted_extends inv under honest submits)).set i ?_ ?_
    · intro _ base hcall
      cases hcall
    · intro roster hcall
      obtain rfl := CacheCall.writing.inj hcall
      exact Older.refl _
  | @fetched i peer roster entry hub under honest fetches present =>
    refine inv.set i ?_ ?_
    · intro _ base hcall
      cases hcall
    · intro written hcall
      obtain rfl := CacheCall.writing.inj hcall
      simp only [Hub.getAndVerifyRoster,Outcome.bind_eq_ok,Outcome.ofExcept_eq_ok,
        Outcome.pure_eq_ok,Outcome.ok.injEq] at fetches
      obtain ⟨read,hread,_,_,rfl⟩ := fetches
      rw [honest.reads registration read hread]
      exact Older.refl _
  | @wrote i roster under =>
    have hset : CacheInvariant (before.set i .done) := by
      refine inv.set i ?_ ?_
      · intro _ base hcall
        cases hcall
      · intro written hcall
        cases hcall
    exact ⟨hset.distinct,inv.writing i roster under,hset.base,hset.writing⟩
  | @beganLooking i | @found i | @failed i =>
    refine inv.set i ?_ ?_
    · intro _ base hcall
      cases hcall
    · intro roster hcall
      cases hcall

/-- Every state of a run satisfies the invariant. -/
theorem CacheRun.invariant {start state : CacheState ι} {log : List (CacheEvent ι)}
    (run : CacheRun node registration start log state) (hstart : CacheStart node registration start) :
    CacheInvariant state := by
  refine Run.invariant (motive := fun _ state => CacheInvariant state) hstart.invariant ?_ run
  intro _ before event after _ ih hstep
  exact hstep.invariant ih

/-- The events determine the hub's roster and the cache. -/
theorem CacheRun.rosters {start state : CacheState ι} {log : List (CacheEvent ι)}
    (run : CacheRun node registration start log state) :
    state.hub=hubAfter start.hub log ∧ state.cache=cacheAfter start.cache log := by
  refine Run.invariant (motive := fun log state =>
    state.hub=hubAfter start.hub log ∧ state.cache=cacheAfter start.cache log) ⟨rfl,rfl⟩ ?_ run
  intro log before event after _ ih hstep
  rw [hubAfter_append,cacheAfter_append,←ih.1,←ih.2]
  cases hstep <;> exact ⟨rfl,rfl⟩

section Positions

variable {start state : CacheState ι} {log : List (CacheEvent ι)}

/-- What each event of a run does to the hub's roster. -/
theorem CacheRun.hub_step (run : CacheRun node registration start log state)
    (hstart : CacheStart node registration start) {k : ℕ} {event : CacheEvent ι}
    (h : log[k]?=some event) :
    HubEffect (hubAfter start.hub (log.take k)) event (hubAfter start.hub (log.take (k+1))) := by
  obtain ⟨before,after,hbefore,hstep,hafter⟩ := run.at h
  rw [←(CacheRun.rosters hbefore).1,←(CacheRun.rosters hafter).1]
  exact hstep.hubEffect (CacheRun.invariant hbefore hstart)

/-- The hub's roster only grows. -/
theorem CacheRun.hub_older (run : CacheRun node registration start log state)
    (hstart : CacheStart node registration start) {a b : ℕ} (hab : a≤b) :
    Older (hubAfter start.hub (log.take a)) (hubAfter start.hub (log.take b)) := by
  induction b,hab using Nat.le_induction with
  | base => exact Older.refl _
  | succ b hab ih =>
    cases hget : log[b]? with
    | none =>
      rw [List.take_add_one,hget,Option.toList_none,List.append_nil]
      exact ih
    | some event => exact ih.trans (CacheRun.hub_step run hstart hget).older

/-- A change makes the hub's version higher for good. -/
theorem CacheRun.hub_changed (run : CacheRun node registration start log state)
    (hstart : CacheStart node registration start) {a k b : ℕ} {event : CacheEvent ι}
    (hak : a≤k) (hkb : k<b) (h : log[k]?=some event) (hchanges : ChangesHub event) :
    (hubAfter start.hub (log.take a)).version.toInt<
      (hubAfter start.hub (log.take b)).version.toInt := by
  have hbefore := (CacheRun.hub_older run hstart hak).version
  have hafter := (CacheRun.hub_older run hstart (show k+1≤b from hkb)).version
  have hone := ((CacheRun.hub_step run hstart h).changes hchanges).version
  omega

/-- Without a change the hub's roster stays. -/
theorem CacheRun.hub_unchanged (run : CacheRun node registration start log state)
    (hstart : CacheStart node registration start) {a b : ℕ} (hab : a≤b)
    (hquiet : ∀ k event,a≤k → k<b → log[k]?=some event → ¬ChangesHub event) :
    hubAfter start.hub (log.take b)=hubAfter start.hub (log.take a) := by
  induction b,hab using Nat.le_induction with
  | base => rfl
  | succ b hab ih =>
    rw [←ih fun k event hak hkb => hquiet k event hak (by omega)]
    cases hget : log[b]? with
    | none => rw [List.take_add_one,hget,Option.toList_none,List.append_nil]
    | some event =>
      exact (CacheRun.hub_step run hstart hget).keeps (hquiet b event hab (by omega) hget)

/-- What a call gets from the hub is the hub's roster at the end of that step. -/
theorem CacheRun.exchanged (run : CacheRun node registration start log state) {e : ℕ}
    {event : CacheEvent ι} {i : ι} {roster : Roster} (h : log[e]?=some event)
    (hexchanges : Exchanges event i roster) : roster=hubAfter start.hub (log.take (e+1)) := by
  obtain ⟨before,after,hbefore,hstep,hafter⟩ := run.at h
  rw [←(CacheRun.rosters hafter).1]
  cases hexchanges with
  | fetched =>
    cases hstep with
    | fetched under honest fetches present =>
      simp only [Hub.getAndVerifyRoster,Outcome.bind_eq_ok,Outcome.ofExcept_eq_ok,
        Outcome.pure_eq_ok,Outcome.ok.injEq] at fetches
      obtain ⟨read,hread,_,_,rfl⟩ := fetches
      exact honest.reads registration read hread
  | submitted =>
    cases hstep with
    | submitted under honest submits => rfl

/-- What is about to be written was got from the hub. -/
theorem CacheRun.writing_exchanged (run : CacheRun node registration start log state)
    (hstart : CacheStart node registration start) {i : ι} {roster : Roster}
    (h : state.calls i=.writing roster) : ∃ event∈log,Exchanges event i roster := by
  refine Run.invariant (motive := fun log state => ∀ i roster,state.calls i=.writing roster →
    ∃ event∈log,Exchanges event i roster) ?_ ?_ run i roster h
  · intro i roster h
    cases (hstart.idle i).symm.trans h
  · intro log before event after _ ih hstep i roster hcall
    have hold : before.calls i=.writing roster → ∃ event'∈log++[event],Exchanges event' i roster := by
      intro hbefore
      obtain ⟨event',hm,hexchanges⟩ := ih i roster hbefore
      exact ⟨event',List.mem_append_left _ hm,hexchanges⟩
    have hlast : event∈log++[event] := List.mem_append_right _ (List.mem_singleton_self _)
    cases hstep with
    | updated next => exact hold hcall
    | submitted under honest submits =>
      rcases set_calls hcall with ⟨rfl,hwriting⟩|hbefore
      · obtain rfl := CacheCall.writing.inj hwriting
        exact ⟨_,hlast,.submitted⟩
      · exact hold hbefore
    | fetched under honest fetches present =>
      rcases set_calls hcall with ⟨rfl,hwriting⟩|hbefore
      · obtain rfl := CacheCall.writing.inj hwriting
        exact ⟨_,hlast,.fetched⟩
      · exact hold hbefore
    | beganRevoking | beganLooking | found | wrote | failed =>
      rcases set_calls hcall with ⟨_,hwriting⟩|hbefore
      · cases hwriting
      · exact hold hbefore

/-- What a call writes it got from the hub before. -/
theorem CacheRun.wrote_exchanged (run : CacheRun node registration start log state)
    (hstart : CacheStart node registration start) {n : ℕ} {i : ι} {roster : Roster}
    (h : log[n]?=some (.wrote i roster)) :
    ∃ e event,e<n ∧ log[e]?=some event ∧ Exchanges event i roster := by
  obtain ⟨before,after,hbefore,hstep,_⟩ := run.at h
  cases hstep with
  | wrote under =>
    obtain ⟨event,hm,hexchanges⟩ := CacheRun.writing_exchanged hbefore hstart under
    obtain ⟨e,he,hget⟩ := mem_take_iff.mp hm
    exact ⟨e,event,he,hget,hexchanges⟩

omit [DecidableEq ι] in
/-- The cache is what it was at first, or what was written last. -/
theorem cacheAfter_source (start : Roster) (log : List (CacheEvent ι)) :
    cacheAfter start log=start ∨
      ∃ w i,w<log.length ∧ log[w]?=some (.wrote i (cacheAfter start log)) := by
  induction log using List.reverseRecOn with
  | nil => exact .inl rfl
  | append_singleton log event ih =>
    rw [cacheAfter_append]
    have hold : cacheAfter start log=start ∨ ∃ w i,w<(log++[event]).length ∧
        (log++[event])[w]?=some (.wrote i (cacheAfter start log)) := by
      rcases ih with h|⟨w,i,hw,hget⟩
      · exact .inl h
      · refine .inr ⟨w,i,?_,?_⟩
        · rw [List.length_append]
          omega
        · rw [List.getElem?_append_left hw]
          exact hget
    cases event with
    | wrote i roster =>
      refine .inr ⟨log.length,i,?_,List.getElem?_concat_length⟩
      rw [List.length_append,List.length_singleton]
      omega
    | updated | began | found | submitted | fetched | failed => exact hold

/-- At every position the cache is what it was at first, or a roster that the hub had. -/
theorem CacheRun.cache_source (run : CacheRun node registration start log state)
    (hstart : CacheStart node registration start) (n : ℕ) :
    cacheAfter start.cache (log.take n)=start.cache ∨
      ∃ i w e event,e<w ∧ w<n ∧
        log[w]?=some (.wrote i (cacheAfter start.cache (log.take n))) ∧
        log[e]?=some event ∧ Exchanges event i (cacheAfter start.cache (log.take n)) ∧
        cacheAfter start.cache (log.take n)=hubAfter start.hub (log.take (e+1)) := by
  rcases cacheAfter_source start.cache (log.take n) with h|⟨w,i,hw,hget⟩
  · exact .inl h
  · rw [List.length_take] at hw
    rw [List.getElem?_take_of_lt (by omega)] at hget
    obtain ⟨e,event,he,hexchange,hexchanges⟩ := CacheRun.wrote_exchanged run hstart hget
    exact .inr ⟨i,w,e,event,he,by omega,hget,hexchange,hexchanges,
      CacheRun.exchanged run hexchange hexchanges⟩

/-- The version of the cached roster never goes down. -/
def NeverDecreases (start : Roster) (log : List (CacheEvent ι)) : Prop :=
  ∀ a b : ℕ,a≤b →
    (cacheAfter start (log.take a)).version≤(cacheAfter start (log.take b)).version

/-- A write that was not overtaken does not lower the version. -/
theorem CacheRun.write_keeps_version (run : CacheRun node registration start log state)
    (hstart : CacheStart node registration start) {n : ℕ} (h : ¬Overtaken log n) :
    (cacheAfter start.cache (log.take n)).version.toInt≤
      (cacheAfter start.cache (log.take (n+1))).version.toInt := by
  rw [List.take_add_one,cacheAfter_append]
  cases hget : log[n]? with
  | none => exact le_refl _
  | some event =>
    cases event with
    | updated | began | found | submitted | fetched | failed => exact le_refl _
    | wrote i roster =>
      change _ ≤ roster.version.toInt
      obtain ⟨e,asked,_,hasked,hexchanges⟩ := CacheRun.wrote_exchanged run hstart hget
      have hroster := CacheRun.exchanged run hasked hexchanges
      rw [hroster]
      rcases CacheRun.cache_source run hstart n with hfirst|
        ⟨j,w,e',asked',hew,hwn,hwrote,hasked',hexchanges',hcache⟩
      · rw [hfirst]
        have hbefore := (CacheStart.invariant hstart).cache.version
        have hafter := (CacheRun.hub_older run hstart (Nat.zero_le (e+1))).version
        exact le_trans hbefore hafter
      · rw [hcache]
        rcases Nat.lt_or_ge e e' with hlater|hearlier
        · have hquiet : ∀ k changed,e+1≤k → k<e'+1 → log[k]?=some changed →
              ¬ChangesHub changed := by
            intro k changed hek hke hchanged hchanges
            exact h ⟨i,j,roster,_,e,k,e',w,asked,changed,asked',by omega,by omega,hew,hwn,hget,
              hasked,hexchanges,hchanged,hchanges,hasked',hexchanges',hwrote⟩
          rw [CacheRun.hub_unchanged run hstart (by omega) hquiet]
        · exact (CacheRun.hub_older run hstart (by omega)).version

/-- The version never goes down exactly when no write is overtaken. -/
theorem CacheRun.neverDecreases_iff (run : CacheRun node registration start log state)
    (hstart : CacheStart node registration start) :
    NeverDecreases start.cache log ↔ ∀ n,¬Overtaken log n := by
  constructor
  · rintro hnever n ⟨i,j,roster,roster',e,k,e',w,asked,changed,asked',hek,hke,hew,hwn,hwrote,
      hasked,hexchanges,hchanged,hchanges,hasked',hexchanges',hwrote'⟩
    have hlater := CacheRun.hub_changed run hstart (show e+1≤k from hek) (show k<e'+1 by omega)
      hchanged hchanges
    rw [←CacheRun.exchanged run hasked hexchanges,
      ←CacheRun.exchanged run hasked' hexchanges'] at hlater
    have hversions := hnever (w+1) (n+1) (by omega)
    rw [List.take_add_one,List.take_add_one,hwrote,hwrote',cacheAfter_append,cacheAfter_append]
      at hversions
    have htoInt : roster'.version.toInt ≤ roster.version.toInt := Int64.le_iff_toInt_le.mp hversions
    omega
  · intro hnone a b hab
    rw [Int64.le_iff_toInt_le]
    induction b,hab using Nat.le_induction with
    | base => exact le_refl _
    | succ b hab ih =>
      have hstep := CacheRun.write_keeps_version run hstart (hnone b)
      omega

/-- The cache always lists each number once. -/
theorem CacheRun.cache_distinct (run : CacheRun node registration start log state)
    (hstart : CacheStart node registration start) (n : ℕ) :
    Distinct (cacheAfter start.cache (log.take n)) := by
  rcases CacheRun.cache_source run hstart n with hfirst|⟨_,_,e,_,_,_,_,hget,_,hcache⟩
  · rw [hfirst]
    obtain ⟨keys,hkeys⟩ := hstart.verified
    obtain ⟨_,_,hbuilt,_,_⟩ := verifyRoster_eq_ok.mp hkeys
    exact hbuilt.invariant.distinct
  · rw [hcache]
    obtain ⟨before,after,_,_,hafter⟩ := run.at hget
    rw [←(CacheRun.rosters hafter).1]
    exact (CacheRun.invariant hafter hstart).distinct

/-- Of two rosters the cache ever held one is older. -/
theorem CacheRun.cache_comparable (run : CacheRun node registration start log state)
    (hstart : CacheStart node registration start) (m n : ℕ) :
    Older (cacheAfter start.cache (log.take m)) (cacheAfter start.cache (log.take n)) ∨
      Older (cacheAfter start.cache (log.take n)) (cacheAfter start.cache (log.take m)) := by
  have hfirst : ∀ k,Older start.cache (hubAfter start.hub (log.take k)) := fun k =>
    (CacheStart.invariant hstart).cache.trans (CacheRun.hub_older run hstart (Nat.zero_le k))
  rcases CacheRun.cache_source run hstart m with hm|⟨_,_,e,_,_,_,_,_,_,hm⟩
  · rcases CacheRun.cache_source run hstart n with hn|⟨_,_,e',_,_,_,_,_,_,hn⟩
    · rw [hm,hn]
      exact .inl (Older.refl _)
    · rw [hm,hn]
      exact .inl (hfirst _)
  · rcases CacheRun.cache_source run hstart n with hn|⟨_,_,e',_,_,_,_,_,_,hn⟩
    · rw [hm,hn]
      exact .inr (hfirst _)
    · rw [hm,hn]
      rcases Nat.le_total (e+1) (e'+1) with hle|hle
      · exact .inl (CacheRun.hub_older run hstart hle)
      · exact .inr (CacheRun.hub_older run hstart hle)

/-- While the version never goes down, a peer that the cache listed as revoked is not
returned from the cache any more. -/
theorem CacheRun.revoked_not_found (run : CacheRun node registration start log state)
    (hstart : CacheStart node registration start) (hnever : NeverDecreases start.cache log)
    {a m : ℕ} (ham : a ≤ m) {peerNodeNumber : Int32}
    (hrevoked : ListsRevoked (cacheAfter start.cache (log.take a)) peerNodeNumber) (i : ι)
    (entry : RosterNode) : log[m]?≠some (.found i peerNodeNumber entry) := by
  intro hget
  have hversion := Int64.le_iff_toInt_le.mp (hnever a m ham)
  have holder := Older.of_version (CacheRun.cache_comparable run hstart a m) hversion
  obtain ⟨listed,hm,hn,hr⟩ := holder.revoked peerNodeNumber hrevoked
  obtain ⟨before,after,hbefore,hstep,_⟩ := run.at hget
  cases hstep with
  | found idle present =>
    rw [(CacheRun.rosters hbefore).2] at present
    have hfound := List.mem_of_find?_eq_some present
    have hactive := List.find?_some present
    simp only [Bool.and_eq_true,decide_eq_true_eq,Bool.not_eq_true'] at hactive
    have hsame := List.inj_on_of_nodup_map (CacheRun.cache_distinct run hstart m) hm hfound
      (hn.trans hactive.1.symm)
    rw [hsame,hactive.2] at hr
    cases hr

end Positions

end Runs

section Uninterrupted

variable {C : Crypto} {ι : Type} [DecidableEq ι] {node node' : Node C}
  {registration : NodeRegistration} {before : CacheState ι} {hub : Hub}

/-- A revocation that nothing comes between takes its three steps. -/
theorem revokeNode_uninterrupted {i : ι} {targetNodeNumber : Int32}
    (hinner : node.inner=.activated registration before.cache) (hidle : before.calls i=.idle)
    (honest : HonestHub before.hub hub) (h : node.revokeNode targetNodeNumber hub=.ok node') :
    ∃ newRoster after,CacheRun node registration before
      [.began i,.submitted i newRoster,.wrote i newRoster] after ∧
      node'.inner=.activated registration after.cache := by
  simp only [Node.revokeNode,hinner,Outcome.bind_eq_ok,Outcome.pure_eq_ok,Outcome.ok.injEq] at h
  obtain ⟨_,hself,_,hactive,_,_,newRoster,hsubmit,rfl⟩ := h
  have hrevocable : checkRevocable registration before.cache targetNodeNumber=.ok () := by
    rw [checkRevocable,hself]
    exact hactive
  let reading := before.set i (.revoking targetNodeNumber before.cache)
  let asking : CacheState ι := {reading.set i (.writing newRoster) with hub := newRoster}
  have hbegan : CacheStep node registration before (.began i) reading :=
    .beganRevoking hidle hrevocable
  have hsubmitted : CacheStep node registration reading (.submitted i newRoster) asking :=
    .submitted (Function.update_self i _ _) honest hsubmit
  have hwrote : CacheStep node registration asking (.wrote i newRoster)
      {asking.set i .done with cache := newRoster} := .wrote (Function.update_self i _ _)
  exact ⟨newRoster,_,.next (.next (.next .start hbegan) hsubmitted) hwrote,rfl⟩

/-- A lookup that nothing comes between takes one step, or three. -/
theorem findPeerInRoster_uninterrupted {i : ι} {peerNodeNumber : Int32} {entry : RosterNode}
    (hinner : node.inner=.activated registration before.cache) (hidle : before.calls i=.idle)
    (honest : HonestHub before.hub hub)
    (h : node.findPeerInRoster peerNodeNumber hub=.ok (node',entry)) :
    ∃ log after,CacheRun node registration before log after ∧
      (log=[.found i peerNodeNumber entry] ∨
        ∃ roster,log=[.began i,.fetched i roster,.wrote i roster]) ∧
      node'.inner=.activated registration after.cache := by
  simp only [Node.findPeerInRoster,hinner] at h
  split at h
  · next peer hpresent =>
    obtain ⟨rfl,rfl⟩ := Prod.mk.inj (Outcome.ok.inj h)
    have hfound : CacheStep node registration before (.found i peerNodeNumber peer)
        (before.set i .done) := .found hidle hpresent
    exact ⟨_,_,.next .start hfound,.inl rfl,hinner⟩
  · next habsent =>
    split at h
    · next fresh hfresh =>
      simp only [Outcome.bind_eq_ok,Outcome.okOr_eq_ok,Outcome.pure_eq_ok,Outcome.ok.injEq,
        Prod.mk.injEq] at h
      obtain ⟨peer,hpresent,rfl,rfl⟩ := h
      let reading := before.set i (.looking peerNodeNumber)
      let asking := reading.set i (.writing fresh)
      have hbegan : CacheStep node registration before (.began i) reading :=
        .beganLooking hidle habsent
      have hfetched : CacheStep node registration reading (.fetched i fresh) asking :=
        .fetched (Function.update_self i _ _) honest hfresh hpresent
      have hwrote : CacheStep node registration asking (.wrote i fresh)
          {asking.set i .done with cache := fresh} := .wrote (Function.update_self i _ _)
      exact ⟨_,_,.next (.next (.next .start hbegan) hfetched) hwrote,.inr ⟨fresh,rfl⟩,rfl⟩
    · cases h
    · cases h
    · cases h

end Uninterrupted

/-- In every run the version of the cached roster never goes down exactly when no write
is overtaken, and then a peer once listed as revoked is not returned from the cache. -/
theorem cache_monotone_iff (C : Crypto) {ι : Type} [DecidableEq ι] (node : Node C)
    (registration : NodeRegistration) (start : CacheState ι)
    (hstart : CacheStart node registration start) (log : List (CacheEvent ι))
    (state : CacheState ι) (run : CacheRun node registration start log state) :
    state.cache=cacheAfter start.cache log ∧
    (NeverDecreases start.cache log ↔ ∀ n,¬Overtaken log n) ∧
    ((∀ n,¬Overtaken log n) → ∀ (a m : ℕ) (peerNodeNumber : Int32),a ≤ m →
      ListsRevoked (cacheAfter start.cache (log.take a)) peerNodeNumber →
      ∀ (i : ι) (entry : RosterNode),log[m]?≠some (.found i peerNodeNumber entry)) := by
  have hiff := CacheRun.neverDecreases_iff run hstart
  refine ⟨(CacheRun.rosters run).2,hiff,?_⟩
  intro hnone a m peerNodeNumber ham hrevoked i entry
  exact CacheRun.revoked_not_found run hstart (hiff.mpr hnone) ham hrevoked i entry

/-- Node 2 has the pair cached while the hub has the trio. -/
def pairCached : CacheState ℕ := ⟨sealedTrio,sealedPair,fun _ => .idle⟩

/-- A start of calls on node 2. -/
theorem pairCached_start : CacheStart restoredSecond secondRegistration pairCached := by
  have hpair : ∃ keys,verifyRoster sealedCrypto.toCrypto sealedPair 2 (symbolicSpki 2)=.ok keys :=
    sealed_accepted (.bootstrap sealedPair_founded) (List.mem_cons_of_mem _ List.mem_cons_self)
  exact ⟨hpair,.single sealedTrio_step,fun _ => rfl⟩

/-- The honest hub while it has the trio. -/
def trioHub : Hub where
  connect := .ok ()
  completeRegistration := fun _ => .error .connection
  deregisterNode := fun _ => .error .connection
  pairNodes := fun _ _ => .error .connection
  getUnverifiedRoster := fun _ => .ok sealedTrio
  updateRoster := fun _ newRoster =>
    if newRoster.version=3 then .ok (some newRoster) else .error .connection

/-- It is honest. -/
theorem trioHub_honest : HonestHub sealedTrio trioHub := by
  constructor
  case reads =>
    intro _ roster h
    exact (Except.ok.inj h).symm
  case updates =>
    intro registration newRoster cosigned h
    by_cases hversion : newRoster.version=3
    · rw [hversion]
      rfl
    · simp only [Hub.submitRoster,trioHub,if_neg hversion] at h
      cases h

/-- A roster that the hub has and that verifies is fetched. -/
theorem getAndVerifyRoster_verified {C : Crypto} {hub : Hub} {registration : NodeRegistration}
    {verifierPublicKeySpki : Bytes} {roster : Roster} {keys : Keys C}
    (hroster : hub.getUnverifiedRoster registration=.ok roster)
    (hverified : verifyRoster C roster registration.nodeNumber verifierPublicKeySpki=.ok keys) :
    hub.getAndVerifyRoster C registration verifierPublicKeySpki=.ok roster := by
  simp only [Hub.getAndVerifyRoster,hroster,Outcome.ofExcept,Outcome.ok_bind,hverified,
    Outcome.mapErr]
  rfl

/-- Node 2 fetches the trio from it. -/
theorem trioHub_fetches : trioHub.getAndVerifyRoster sealedCrypto.toCrypto secondRegistration
    (sealedCrypto.publicKeySpki restoredSecond.signingKey)=.ok sealedTrio := by
  obtain ⟨keys,hkeys⟩ := sealedTrio_accepted
  have hown : verifyRoster sealedCrypto.toCrypto sealedTrio secondRegistration.nodeNumber
      (sealedCrypto.publicKeySpki restoredSecond.signingKey)=.ok keys := hkeys
  exact getAndVerifyRoster_verified rfl hown

/-- The trio without node 3, as node 2 writes it. -/
def withoutThird : Roster :=
  revokedRoster sealedCrypto.toCrypto (2 : UInt8) sealedTrio ⟨3,3,2⟩

/-- Node 3's entry. -/
def thirdEntry : RosterNode := ⟨3,symbolicSpki 3,false⟩

/-- A lookup of node 3 that fetches and writes the trio. -/
def lookupLog : List (CacheEvent ℕ) :=
  [.began 1,.fetched 1 sealedTrio,.wrote 1 sealedTrio]

/-- Call 0 fetches the trio; call 1 does too and writes it; call 2 revokes node 3 on
that and writes its roster; then call 0 writes the trio, and call 3 is given node 3. -/
def racingLog : List (CacheEvent ℕ) :=
  [.began 0,.fetched 0 sealedTrio,.began 1,.fetched 1 sealedTrio,.wrote 1 sealedTrio,.began 2,
    .submitted 2 withoutThird,.wrote 2 withoutThird,.wrote 0 sealedTrio,.found 3 3 thirdEntry]

/-- The trio has node 3 and the pair does not. -/
theorem findPeer_third :
    findPeer sealedPair 3=none ∧ findPeer sealedTrio 3=some thirdEntry := by decide +kernel

/-- The lookup is a run. -/
theorem lookupLog_run :
    ∃ state,CacheRun restoredSecond secondRegistration pairCached lookupLog state := by
  refine ⟨_,.next (.next (.next .start (.beganLooking rfl findPeer_third.1))
    (.fetched rfl trioHub_honest trioHub_fetches findPeer_third.2)) (.wrote rfl)⟩

/-- The race is a run. -/
theorem racingLog_run :
    ∃ state,CacheRun restoredSecond secondRegistration pairCached racingLog state := by
  have hrevocable : checkRevocable secondRegistration sealedTrio 3=.ok () := by decide +kernel
  have hsubmits : restoredSecond.submitRevocation secondRegistration sealedTrio 3 trioHub=
      .ok withoutThird := by
    rw [submitRevocation_eq]
    rfl
  refine ⟨_,.next (.next (.next (.next (.next (.next (.next (.next (.next (.next .start
    (.beganLooking rfl findPeer_third.1))
    (.fetched rfl trioHub_honest trioHub_fetches findPeer_third.2))
    (.beganLooking rfl findPeer_third.1))
    (.fetched rfl trioHub_honest trioHub_fetches findPeer_third.2))
    (.wrote rfl))
    (.beganRevoking rfl hrevocable))
    (.submitted rfl trioHub_honest hsubmits))
    (.wrote rfl))
    (.wrote rfl))
    (.found rfl findPeer_third.2)⟩

/-- A single lookup overtakes nothing. -/
theorem cache_monotone_lookup : NeverDecreases sealedPair lookupLog := by
  obtain ⟨state,run⟩ := lookupLog_run
  refine (cache_monotone_iff sealedCrypto.toCrypto restoredSecond secondRegistration pairCached
    pairCached_start lookupLog state run).2.1.mpr ?_
  rintro n ⟨i,j,roster,roster',e,k,e',w,asked,changed,asked',_,_,hew,hwn,hwrote,_,_,_,_,_,_,hwrote'⟩
  have hwrites : ∀ (m : ℕ) (call : ℕ) (written : Roster),
      lookupLog[m]?=some (.wrote call written) → m=2 := by
    intro m call written h
    match m,h with
    | 2,_ => rfl
  have hn := hwrites n i roster hwrote
  have hw := hwrites w j roster' hwrote'
  omega

/-- The cache goes back from the roster without node 3 to the trio, and node 3 is
returned from the cache after its revocation was written there. -/
theorem overtaken_write_revives :
    (∃ state,CacheRun restoredSecond secondRegistration pairCached racingLog state) ∧
    CacheStart restoredSecond secondRegistration pairCached ∧
    ¬NeverDecreases sealedPair racingLog ∧
    ListsRevoked (cacheAfter sealedPair (racingLog.take 8)) 3 ∧
    racingLog[9]?=some (.found 3 3 thirdEntry) := by
  refine ⟨racingLog_run,pairCached_start,?_,?_,rfl⟩
  · intro hnever
    exact absurd (hnever 8 9 (by decide)) (show ¬(3 : Int64)≤2 by decide)
  · have hlisted : ∃ node∈withoutThird.nodes,node.nodeNumber=3 ∧ node.revoked=true := by
      decide +kernel
    exact hlisted

end WispersConnect.CacheRaces
