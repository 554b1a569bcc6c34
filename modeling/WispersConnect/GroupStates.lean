import WispersConnect.NodeLifecycle
import WispersConnect.RosterReplay
import Mathlib.Data.Finset.Basic
import Mathlib.Data.List.Count

/-!
# The group state shown to the user

`analyze_group`: the status of every node that the hub lists, and from these
the state of the group, read off the hub's list and an unverified roster. Each
state is characterised by what the list and the roster say.
-/

namespace WispersConnect.GroupStates

open Messages Cryptography RosterBuilders RosterVerification RosterChain NodeLifecycle

/-- A node of the hub's list. -/
structure HubNode where
  /-- Number in the group. -/
  nodeNumber : Int32
  /-- Display name. -/
  name : String
  /-- Opaque metadata. -/
  metadata : String
  /-- When the node was last seen. -/
  lastSeenAtMillis : Int64
  /-- Whether it is connected to the hub. -/
  isOnline : Bool
  deriving DecidableEq

/-- `NodeInfo`. -/
structure NodeInfo where
  /-- Number in the group. -/
  nodeNumber : Int32
  /-- Display name. -/
  name : String
  /-- Opaque metadata. -/
  metadata : String
  /-- Whether this is the node itself. -/
  isSelf : Bool
  /-- Lifecycle state as observed from here. -/
  state : NodeState
  /-- When the node was last seen. -/
  lastSeenAtMillis : Int64
  /-- Whether it is connected to the hub. -/
  isOnline : Bool
  deriving DecidableEq

/-- `GroupState`. -/
inductive GroupState where
  /-- No other usable nodes. -/
  | alone
  /-- No activated nodes; any node can pair with any other. -/
  | bootstrap
  /-- There are activated peers; this node needs a code from one. -/
  | needActivation
  /-- This node is activated and there are peers to endorse. -/
  | canEndorse
  /-- All nodes are activated. -/
  | allActivated
  deriving DecidableEq

/-- `activated_set`. -/
def activatedSet (roster : Roster) : Finset Int32 :=
  ((activeNodes roster).map RosterNode.nodeNumber).toFinset

/-- `revoked_set`. -/
def revokedSet (roster : Roster) : Finset Int32 :=
  ((roster.nodes.filter RosterNode.revoked).map RosterNode.nodeNumber).toFinset

/-- `hub_numbers`. -/
def hubNumbers (hubNodes : List HubNode) : Finset Int32 :=
  (hubNodes.map HubNode.nodeNumber).toFinset

/-- `is_dead_roster`: it has content, but the hub lists none of its active members. -/
def IsDeadRoster (hubNodes : List HubNode) (roster : Roster) : Prop :=
  0 < roster.version ∧ ¬∃ n∈activatedSet roster,n∈hubNumbers hubNodes

instance (hubNodes : List HubNode) (roster : Roster) : Decidable (IsDeadRoster hubNodes roster) :=
  inferInstanceAs (Decidable (_ ∧ _))

/-- The state reported for a listed number. -/
def reportedState (hubNodes : List HubNode) (roster : Roster) (nodeNumber : Int32) : NodeState :=
  if IsDeadRoster hubNodes roster then .registered
  else if nodeNumber∈activatedSet roster then .activated
  else if nodeNumber∈revokedSet roster then .revoked
  else .registered

/-- What is reported about a listed node. -/
def nodeInfo (hubNodes : List HubNode) (roster : Roster) (myNodeNumber : Int32)
    (hubNode : HubNode) : NodeInfo where
  nodeNumber := hubNode.nodeNumber
  name := hubNode.name
  metadata := hubNode.metadata
  isSelf := hubNode.nodeNumber=myNodeNumber
  state := reportedState hubNodes roster hubNode.nodeNumber
  lastSeenAtMillis := hubNode.lastSeenAtMillis
  isOnline := hubNode.isOnline

/-- `analyze_group`: the listed nodes with their states, and the state of the group. -/
def analyzeGroup (hubNodes : List HubNode) (roster : Roster) (myNodeNumber : Int32) :
    List NodeInfo×GroupState :=
  let selfActivated := myNodeNumber∈activatedSet roster ∧ ¬IsDeadRoster hubNodes roster
  let nodes := hubNodes.map (nodeInfo hubNodes roster myNodeNumber)
  let nonRevoked := nodes.countP fun n => n.state≠.revoked
  let state : GroupState :=
    if nonRevoked≤1 then .alone
    else if activatedSet roster=∅ ∨ IsDeadRoster hubNodes roster then .bootstrap
    else if ¬selfActivated then .needActivation
    else if nodes.any (fun n => n.state=.registered)=true then .canEndorse
    else .allActivated
  (nodes,state)

/-- A number is in the activated set when it has an active entry. -/
theorem mem_activatedSet {roster : Roster} {nodeNumber : Int32} :
    nodeNumber∈activatedSet roster ↔
      ∃ entry∈roster.nodes,entry.nodeNumber=nodeNumber ∧ entry.revoked=false := by
  simp only [activatedSet,activeNodes,List.mem_toFinset,List.mem_map,List.mem_filter,
    Bool.not_eq_true',and_assoc]
  exact exists_congr fun entry => and_congr_right fun _ => and_comm

/-- A number is in the revoked set when it has a revoked entry. -/
theorem mem_revokedSet {roster : Roster} {nodeNumber : Int32} :
    nodeNumber∈revokedSet roster ↔
      ∃ entry∈roster.nodes,entry.nodeNumber=nodeNumber ∧ entry.revoked=true := by
  simp only [revokedSet,List.mem_toFinset,List.mem_map,List.mem_filter,and_assoc]
  exact exists_congr fun entry => and_congr_right fun _ => and_comm

/-- A listed number has an entry in the hub's list. -/
theorem mem_hubNumbers {hubNodes : List HubNode} {nodeNumber : Int32} :
    nodeNumber∈hubNumbers hubNodes ↔ ∃ hubNode∈hubNodes,hubNode.nodeNumber=nodeNumber := by
  simp only [hubNumbers,List.mem_toFinset,List.mem_map]

/-- A number is activated in an honestly built roster when some key is active under it. -/
theorem mem_activatedSet_iff {C : Crypto} {roster : Roster} (inv : ChainInvariant C roster)
    {nodeNumber : Int32} :
    nodeNumber∈activatedSet roster ↔ ∃ key,ActiveWithKey C roster nodeNumber key := by
  rw [mem_activatedSet]
  constructor
  · rintro ⟨entry,hm,hn,hr⟩
    obtain ⟨key,hkey⟩ := inv.keys entry hm
    exact ⟨key,entry,hm,hn,hr,hkey⟩
  · rintro ⟨_,entry,hm,hn,hr,_⟩
    exact ⟨entry,hm,hn,hr⟩

/-- No number of an honestly built roster is both activated and revoked. -/
theorem not_activated_of_revoked {C : Crypto} {roster : Roster} (inv : ChainInvariant C roster)
    {nodeNumber : Int32} (h : nodeNumber∈revokedSet roster) : nodeNumber∉activatedSet roster := by
  intro hactivated
  obtain ⟨entry,hm,hn,hr⟩ := mem_revokedSet.mp h
  obtain ⟨other,ho,hn',hr'⟩ := mem_activatedSet.mp hactivated
  rw [inv.entry_unique hm ho (hn.trans hn'.symm),hr'] at hr
  cases hr

/-- A number outside both sets has no entry. -/
theorem absent_iff {roster : Roster} {nodeNumber : Int32} :
    (∀ entry∈roster.nodes,entry.nodeNumber≠nodeNumber) ↔
      nodeNumber∉activatedSet roster ∧ nodeNumber∉revokedSet roster := by
  rw [mem_activatedSet,mem_revokedSet]
  constructor
  · intro h
    exact ⟨fun ⟨entry,hm,hn,_⟩ => h entry hm hn,fun ⟨entry,hm,hn,_⟩ => h entry hm hn⟩
  · rintro ⟨hactive,hrevoked⟩ entry hm hn
    cases hr : entry.revoked with
    | false => exact hactive ⟨entry,hm,hn,hr⟩
    | true => exact hrevoked ⟨entry,hm,hn,hr⟩

section Analysis

variable {hubNodes : List HubNode} {roster : Roster} {myNodeNumber : Int32}

/-- The reported nodes are the listed ones. -/
theorem mem_analyzeGroup_nodes {info : NodeInfo} :
    info∈(analyzeGroup hubNodes roster myNodeNumber).1 ↔
      ∃ hubNode∈hubNodes,nodeInfo hubNodes roster myNodeNumber hubNode=info := List.mem_map

/-- A node is reported activated when the roster is alive and has it active. -/
theorem reportedState_activated {nodeNumber : Int32} :
    reportedState hubNodes roster nodeNumber=.activated ↔
      ¬IsDeadRoster hubNodes roster ∧ nodeNumber∈activatedSet roster := by
  unfold reportedState
  split_ifs with hdead hactive hrevoked
  · simp [hdead]
  · simp [hdead,hactive]
  · simp [hactive]
  · simp [hactive]

/-- A node is reported revoked when the roster is alive and has it revoked and not active. -/
theorem reportedState_revoked {nodeNumber : Int32} :
    reportedState hubNodes roster nodeNumber=.revoked ↔
      ¬IsDeadRoster hubNodes roster ∧ nodeNumber∉activatedSet roster ∧
        nodeNumber∈revokedSet roster := by
  unfold reportedState
  split_ifs with hdead hactive hrevoked
  · simp [hdead]
  · simp [hactive]
  · simp [hdead,hactive,hrevoked]
  · simp [hrevoked]

/-- The nodes that count as company. -/
def company (hubNodes : List HubNode) (roster : Roster) : ℕ :=
  hubNodes.countP fun n => reportedState hubNodes roster n.nodeNumber≠.revoked

/-- The state of the group, by the nodes that count as company. -/
theorem analyzeGroup_state :
    (analyzeGroup hubNodes roster myNodeNumber).2=
      if company hubNodes roster≤1 then .alone
      else if activatedSet roster=∅ ∨ IsDeadRoster hubNodes roster then .bootstrap
      else if ¬(myNodeNumber∈activatedSet roster ∧ ¬IsDeadRoster hubNodes roster) then
        .needActivation
      else if hubNodes.any (fun n => reportedState hubNodes roster n.nodeNumber=.registered)=true
        then .canEndorse
      else .allActivated := by
  simp only [analyzeGroup,company,List.countP_map,List.any_map,Function.comp_def,nodeInfo]
  rfl

/-- The group is shown as founding when there is company and no usable active member. -/
theorem analyzeGroup_bootstrap_iff :
    (analyzeGroup hubNodes roster myNodeNumber).2=.bootstrap ↔
      2 ≤ company hubNodes roster ∧ (activatedSet roster=∅ ∨ IsDeadRoster hubNodes roster) := by
  rw [analyzeGroup_state]
  by_cases hcompany : company hubNodes roster≤1
  · rw [if_pos hcompany]
    simp only [reduceCtorEq,false_iff]
    omega
  · rw [if_neg hcompany]
    have htwo : 2 ≤ company hubNodes roster := by omega
    by_cases hfounding : activatedSet roster=∅ ∨ IsDeadRoster hubNodes roster
    · simp only [if_pos hfounding,htwo,true_and,true_iff]
      exact hfounding
    · rw [if_neg hfounding]
      split_ifs <;> simp [hfounding]

/-- The group is shown as asking for a code when there is company, a usable
active member, and this node is not active. -/
theorem analyzeGroup_needActivation_iff :
    (analyzeGroup hubNodes roster myNodeNumber).2=.needActivation ↔
      2 ≤ company hubNodes roster ∧ activatedSet roster≠∅ ∧ ¬IsDeadRoster hubNodes roster ∧
        myNodeNumber∉activatedSet roster := by
  rw [analyzeGroup_state]
  by_cases hcompany : company hubNodes roster≤1
  · rw [if_pos hcompany]
    simp only [reduceCtorEq,false_iff,not_and]
    omega
  · rw [if_neg hcompany]
    have htwo : 2 ≤ company hubNodes roster := by omega
    by_cases hfounding : activatedSet roster=∅ ∨ IsDeadRoster hubNodes roster
    · rw [if_pos hfounding]
      simp only [reduceCtorEq,false_iff,htwo,true_and]
      rintro ⟨hsome,hlive,_⟩
      exact hfounding.elim hsome hlive
    · rw [if_neg hfounding]
      obtain ⟨hsome,hlive⟩ := not_or.mp hfounding
      by_cases hself : myNodeNumber∈activatedSet roster
      · rw [if_neg (not_not.mpr ⟨hself,hlive⟩)]
        split_ifs <;> simp [hself]
      · rw [if_pos fun h => hself h.1]
        simp [htwo,hsome,hlive,hself]

end Analysis

/-- With a dead roster every listed node counts as company. -/
theorem company_dead {hubNodes : List HubNode} {roster : Roster}
    (h : IsDeadRoster hubNodes roster) : company hubNodes roster=hubNodes.length := by
  refine List.countP_eq_length.mpr fun hubNode _ => decide_eq_true ?_
  rw [reportedState,if_pos h]
  exact NodeState.noConfusion

/-- With a live, honestly built roster the company is the listed nodes it does not revoke. -/
theorem company_live {C : Crypto} {hubNodes : List HubNode} {roster : Roster}
    (inv : ChainInvariant C roster) (h : ¬IsDeadRoster hubNodes roster) :
    company hubNodes roster=hubNodes.countP fun n => n.nodeNumber∉revokedSet roster := by
  refine List.countP_congr fun hubNode _ => ?_
  simp only [decide_eq_true_eq,ne_eq,reportedState_revoked,h,not_false_eq_true,true_and,not_and]
  constructor
  · intro himp hrevoked
    exact himp (not_activated_of_revoked inv hrevoked) hrevoked
  · intro hnot _
    exact hnot

end WispersConnect.GroupStates
