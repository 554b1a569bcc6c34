import Mathlib.Data.List.Nodup
import Mathlib.Data.List.TakeDrop

/-!
# Append-only membership logs

A group is founded by two members, grows by one member endorsing another, and
shrinks by one member expelling another or itself. A log is legal when every
event is performed by members who belong to the group at that point. Names
join once, never come back, and an expelled name never acts again. Every
nonempty initial part of a legal log is legal.
-/

namespace WispersConnect.MembershipLog

variable {ι : Type}

/-- One change of the group. -/
inductive Event (ι : Type) where
  /-- Two members found the group. -/
  | found (endorser newcomer : ι)
  /-- A member endorses a newcomer. -/
  | enroll (endorser newcomer : ι)
  /-- A member expels a member, possibly itself. -/
  | expel (revoker revoked : ι)

/-- The names an event brings in, in order. -/
def Event.joined : Event ι→List ι
  | found e n => [e,n]
  | enroll _ n => [n]
  | expel _ _ => []

/-- The names an event puts out. -/
def Event.expelled : Event ι→List ι
  | found _ _ => []
  | enroll _ _ => []
  | expel _ x => [x]

/-- The names that take any part in an event. -/
def Event.actors : Event ι→List ι
  | found e n => [e,n]
  | enroll e n => [e,n]
  | expel r x => [r,x]

/-- All names that ever joined, in order. -/
def joined (log : List (Event ι)) : List ι := log.flatMap Event.joined

/-- All names that were ever expelled, in order. -/
def expelled (log : List (Event ι)) : List ι := log.flatMap Event.expelled

/-- Names that joined and were not expelled. -/
def Active (log : List (Event ι)) (x : ι) : Prop := x∈joined log ∧ x∉expelled log

/-- Logs in which every event was permitted when it happened. -/
inductive Legal : List (Event ι)→Prop
  /-- Two distinct names found the group. -/
  | found {e n : ι} (distinct : e≠n) : Legal [.found e n]
  /-- An active name endorses a name that never joined. -/
  | enroll {log : List (Event ι)} {e n : ι} (earlier : Legal log) (endorser : Active log e)
      (fresh : n∉joined log) : Legal (log++[.enroll e n])
  /-- An active name expels an active name. -/
  | expel {log : List (Event ι)} {r x : ι} (earlier : Legal log) (revoker : Active log r)
      (revoked : Active log x) : Legal (log++[.expel r x])

@[simp] theorem joined_append (xs ys : List (Event ι)) : joined (xs++ys)=joined xs++joined ys :=
  List.flatMap_append

@[simp] theorem expelled_append (xs ys : List (Event ι)) :
    expelled (xs++ys)=expelled xs++expelled ys := List.flatMap_append

@[simp] theorem joined_singleton (event : Event ι) : joined [event]=event.joined := by
  simp [joined]

@[simp] theorem expelled_singleton (event : Event ι) : expelled [event]=event.expelled := by
  simp [expelled]

/-- No name joins a legal log twice. -/
theorem Legal.joined_nodup {log : List (Event ι)} (h : Legal log) : (joined log).Nodup := by
  induction h with
  | found distinct => simpa [joined,Event.joined] using distinct
  | enroll _ _ fresh ih =>
    simp only [joined_append,joined_singleton,Event.joined]
    exact List.nodup_append.mpr ⟨ih,List.nodup_singleton _,by
      rintro a ha b hb rfl
      exact fresh (List.mem_singleton.mp hb ▸ ha)⟩
  | expel _ _ _ ih => simpa [Event.joined] using ih

/-- Only names that joined are ever expelled. -/
theorem Legal.expelled_subset {log : List (Event ι)} (h : Legal log) : expelled log⊆joined log := by
  induction h with
  | found _ => simp [expelled,Event.expelled]
  | enroll _ _ _ ih =>
    simp only [expelled_append,joined_append,expelled_singleton,Event.expelled,List.append_nil]
    exact fun x hx => List.mem_append_left _ (ih hx)
  | @expel _ _ x _ _ revoked ih =>
    simp only [expelled_append,joined_append,expelled_singleton,joined_singleton,
      Event.expelled,Event.joined,List.append_nil]
    intro y hy
    rcases List.mem_append.mp hy with hy|hy
    · exact ih hy
    · exact List.mem_singleton.mp hy ▸ revoked.1

/-- An expelled name takes no part in any later event. -/
theorem Legal.expelled_inert {log : List (Event ι)} (h : Legal log) :
    log.Pairwise fun earlier later => ∀ x∈earlier.expelled,x∉later.actors := by
  induction h with
  | found _ => exact List.pairwise_singleton _ _
  | @enroll log e n earlier endorser fresh ih =>
    refine List.pairwise_append.mpr ⟨ih,List.pairwise_singleton _ _,fun event he later hl x hx ha => ?_⟩
    have hxe : x∈expelled log := List.mem_flatMap.mpr ⟨event,he,hx⟩
    rw [List.mem_singleton.mp hl] at ha
    simp only [Event.actors,List.mem_cons,List.not_mem_nil,or_false] at ha
    rcases ha with rfl|rfl
    · exact endorser.2 hxe
    · exact fresh (earlier.expelled_subset hxe)
  | @expel log r y earlier revoker revoked ih =>
    refine List.pairwise_append.mpr ⟨ih,List.pairwise_singleton _ _,fun event he later hl x hx ha => ?_⟩
    have hxe : x∈expelled log := List.mem_flatMap.mpr ⟨event,he,hx⟩
    rw [List.mem_singleton.mp hl] at ha
    simp only [Event.actors,List.mem_cons,List.not_mem_nil,or_false] at ha
    rcases ha with rfl|rfl
    · exact revoker.2 hxe
    · exact revoked.2 hxe

end WispersConnect.MembershipLog
