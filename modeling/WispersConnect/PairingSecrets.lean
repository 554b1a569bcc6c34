import WispersConnect.EndorserRuns

/-!
# The secrets of issued codes

What each call does to the outstanding secrets of an endorser: they expire, one
is added by a new code, or the one that verified a pairing request is used up.
As long as no secret is drawn twice, outstanding secrets are distinct and were
never used.
-/

namespace WispersConnect.PairingSecrets

open Messages OutcomeMonad Cryptography Endorsing EndorserRuns

/-- The secret a call draws for a new code. -/
def drawnSecret : EndorserEvent→Option PairingSecret
  | .generateActivationCode _ _ _ secret _ => some secret
  | _ => none

/-- The secret a call uses up. -/
def usedSecret : EndorserEvent→Option PairingSecret
  | .pairNodes _ _ _ used _ => used
  | _ => none

/-- What a call does to the outstanding secrets. -/
inductive SecretsStep (event : EndorserEvent) (before after : List TimedSecret) : Prop where
  /-- Some may be dropped. -/
  | drops (unused : usedSecret event=none) (kept : after.Sublist before)
  /-- A drawn one is added. -/
  | adds {secret : PairingSecret} {expiresAt : ℕ} {kept : List TimedSecret}
      (unused : usedSecret event=none) (drawn : drawnSecret event=some secret)
      (sublist : kept.Sublist before) (added : after=kept++[⟨secret,expiresAt⟩])
  /-- One is used up. -/
  | uses {ts : TimedSecret} {kept : List TimedSecret} (used : usedSecret event=some ts.secret)
      (sublist : kept.Sublist before) (removed : (ts::after).Perm kept)

/-- Pruning drops secrets. -/
theorem pruneExpired_sublist (state : EndorsingState) (now : ℕ) :
    (state.pruneExpired now).pairingSecrets.Sublist state.pairingSecrets :=
  List.filter_sublist

/-- Every call drops, adds or uses up. -/
theorem EndorserStep.secrets {C : Crypto} {endorser : Endorser C} {before after : EndorsingState}
    {event : EndorserEvent} (h : EndorserStep endorser before event after) :
    SecretsStep event before.pairingSecrets after.pairingSecrets := by
  cases h.effect with
  | restarted => exact .drops rfl (List.nil_sublist _)
  | refusedIssue => exact .drops rfl (pruneExpired_sublist _ _)
  | issued => exact .adds rfl rfl (pruneExpired_sublist _ _) rfl
  | refusedPairing same =>
    rcases same with rfl|rfl
    · exact .drops rfl (List.Sublist.refl _)
    · exact .drops rfl (pruneExpired_sublist _ _)
  | paired _ _ removed => exact .uses rfl (pruneExpired_sublist _ _) removed
  | refusedCosign => exact .drops rfl (List.Sublist.refl _)
  | cosigned => exact .drops rfl (List.Sublist.refl _)

/-- The outstanding secrets are distinct, were drawn and were not used. -/
structure SecretsInvariant (log : List EndorserEvent) (secrets : List TimedSecret) : Prop where
  /-- No secret is outstanding twice. -/
  distinct : (secrets.map TimedSecret.secret).Nodup
  /-- Outstanding secrets were drawn. -/
  drawn : ∀ ts∈secrets,ts.secret∈log.filterMap drawnSecret
  /-- Outstanding secrets were not used. -/
  unused : ∀ ts∈secrets,ts.secret∉log.filterMap usedSecret
  /-- Used secrets were drawn. -/
  usedDrawn : ∀ secret∈log.filterMap usedSecret,secret∈log.filterMap drawnSecret

/-- Nothing is outstanding at first. -/
theorem SecretsInvariant.start : SecretsInvariant [] [] := by
  constructor
  case distinct => exact List.nodup_nil
  case drawn => exact fun ts h => absurd h (List.not_mem_nil)
  case unused => exact fun ts h => absurd h (List.not_mem_nil)
  case usedDrawn => exact fun secret h => absurd h (List.not_mem_nil)

/-- Dropping secrets keeps the invariant. -/
theorem SecretsInvariant.sublist {log : List EndorserEvent} {secrets kept : List TimedSecret}
    (h : SecretsInvariant log secrets) (hkept : kept.Sublist secrets) :
    SecretsInvariant log kept := by
  constructor
  case distinct => exact h.distinct.sublist (hkept.map TimedSecret.secret)
  case drawn => exact fun ts hts => h.drawn ts (hkept.subset hts)
  case unused => exact fun ts hts => h.unused ts (hkept.subset hts)
  case usedDrawn => exact h.usedDrawn

/-- What was drawn stays drawn. -/
theorem drawn_concat {log : List EndorserEvent} (event : EndorserEvent) {secret : PairingSecret}
    (h : secret∈log.filterMap drawnSecret) : secret∈(log++[event]).filterMap drawnSecret := by
  rw [List.filterMap_append]
  exact List.mem_append_left _ h

/-- A call that uses no secret and leaves the secrets keeps the invariant. -/
theorem SecretsInvariant.idle {log : List EndorserEvent} {secrets : List TimedSecret}
    (h : SecretsInvariant log secrets) {event : EndorserEvent} (hunused : usedSecret event=none) :
    SecretsInvariant (log++[event]) secrets := by
  have hused : (log++[event]).filterMap usedSecret=log.filterMap usedSecret := by
    rw [List.filterMap_append,List.filterMap_cons_none hunused,List.filterMap_nil,List.append_nil]
  constructor
  case distinct => exact h.distinct
  case drawn => exact fun ts hts => drawn_concat event (h.drawn ts hts)
  case unused =>
    rw [hused]
    exact h.unused
  case usedDrawn =>
    rw [hused]
    exact fun secret hm => drawn_concat event (h.usedDrawn secret hm)

/-- A call that adds a secret never drawn before keeps the invariant. -/
theorem SecretsInvariant.adds {log : List EndorserEvent} {secrets : List TimedSecret}
    (h : SecretsInvariant log secrets) {event : EndorserEvent} {secret : PairingSecret}
    (hunused : usedSecret event=none) (hdrawn : drawnSecret event=some secret)
    (hnew : secret∉log.filterMap drawnSecret) (expiresAt : ℕ) :
    SecretsInvariant (log++[event]) (secrets++[⟨secret,expiresAt⟩]) := by
  have hkept := h.idle hunused
  have hmem : secret∈(log++[event]).filterMap drawnSecret := by
    rw [List.filterMap_append,List.filterMap_cons_some hdrawn]
    exact List.mem_append_right _ List.mem_cons_self
  have hnever : secret∉(log++[event]).filterMap usedSecret := by
    rw [List.filterMap_append,List.filterMap_cons_none hunused,List.filterMap_nil,List.append_nil]
    exact fun hused => hnew (h.usedDrawn secret hused)
  constructor
  case distinct =>
    rw [List.map_append,List.nodup_append]
    refine ⟨hkept.distinct,List.nodup_singleton _,?_⟩
    intro a ha b hb hab
    obtain ⟨ts,hts,rfl⟩ := List.mem_map.mp ha
    have hold := h.drawn ts hts
    rw [hab,List.mem_singleton.mp hb] at hold
    exact hnew hold
  case drawn =>
    intro ts hts
    rcases List.mem_append.mp hts with hts|hts
    · exact hkept.drawn ts hts
    · rw [List.mem_singleton.mp hts]
      exact hmem
  case unused =>
    intro ts hts
    rcases List.mem_append.mp hts with hts|hts
    · exact hkept.unused ts hts
    · rw [List.mem_singleton.mp hts]
      exact hnever
  case usedDrawn => exact hkept.usedDrawn

/-- A call that uses up one outstanding secret keeps the invariant. -/
theorem SecretsInvariant.uses {log : List EndorserEvent} {secrets after : List TimedSecret}
    (h : SecretsInvariant log secrets) {event : EndorserEvent} {ts : TimedSecret}
    (hused : usedSecret event=some ts.secret) (removed : (ts::after).Perm secrets) :
    SecretsInvariant (log++[event]) after := by
  have hdistinct : (ts.secret::after.map TimedSecret.secret).Nodup :=
    (removed.map TimedSecret.secret).nodup_iff.mpr h.distinct
  have hrest : ∀ other∈after,other∈secrets := fun other ho =>
    removed.subset (List.mem_cons_of_mem _ ho)
  have hlog : (log++[event]).filterMap usedSecret=log.filterMap usedSecret++[ts.secret] := by
    rw [List.filterMap_append,List.filterMap_cons_some hused,List.filterMap_nil]
  constructor
  case distinct => exact (List.nodup_cons.mp hdistinct).2
  case drawn => exact fun other ho => drawn_concat event (h.drawn other (hrest other ho))
  case unused =>
    intro other ho hm
    rw [hlog] at hm
    rcases List.mem_append.mp hm with hm|hm
    · exact h.unused other (hrest other ho) hm
    · have hsame := List.mem_singleton.mp hm
      exact (List.nodup_cons.mp hdistinct).1 (hsame ▸ List.mem_map_of_mem ho)
  case usedDrawn =>
    intro secret hm
    rw [hlog] at hm
    rcases List.mem_append.mp hm with hm|hm
    · exact drawn_concat event (h.usedDrawn secret hm)
    · rw [List.mem_singleton.mp hm]
      exact drawn_concat event (h.drawn ts (removed.subset List.mem_cons_self))

/-- Every call keeps the invariant, as long as what it draws was not drawn before. -/
theorem SecretsInvariant.step {log : List EndorserEvent} {before after : List TimedSecret}
    {event : EndorserEvent} (h : SecretsInvariant log before)
    (hfresh : ∀ secret,drawnSecret event=some secret → secret∉log.filterMap drawnSecret)
    (hstep : SecretsStep event before after) : SecretsInvariant (log++[event]) after := by
  cases hstep with
  | drops unused kept => exact (h.sublist kept).idle unused
  | @adds secret expiresAt kept unused drawn sublist added =>
    subst added
    exact (h.sublist sublist).adds unused drawn (hfresh secret drawn) expiresAt
  | uses used sublist removed => exact (h.sublist sublist).uses used removed

end WispersConnect.PairingSecrets
