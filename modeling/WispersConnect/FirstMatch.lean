import Mathlib.Data.List.Nodup

/-!
# First-match lookup and in-place update of keyed lists

A vector of records is searched for the first record with a given key, and one
record is updated through that search. When keys are distinct the first match
is the only one, the search is membership, and the update is a map.
-/

namespace WispersConnect.FirstMatch

variable {α κ : Type} [DecidableEq κ] (key : α→κ)

/-- The first record with the given key. -/
def lookup (records : List α) (k : κ) : Option α := records.find? fun x => key x=k

/-- Update the first record with the given key, in place. -/
def updateFirst (f : α→α) (k : κ) : List α→List α
  | [] => []
  | x::records => if key x=k then f x::records else x::updateFirst f k records

/-- A found record is in the list and has the key. -/
theorem lookup_sound {records : List α} {k : κ} {x : α} (h : lookup key records k=some x) :
    x∈records ∧ key x=k := by
  refine ⟨List.mem_of_find?_eq_some h,?_⟩
  simpa using List.find?_some h

/-- Where keys are distinct, any record with the key is the first one. -/
theorem lookup_of_mem {records : List α} (hd : (records.map key).Nodup) {x : α}
    (hx : x∈records) : lookup key records (key x)=some x := by
  cases hf : lookup key records (key x) with
  | none =>
    have hn := List.find?_eq_none.mp hf x hx
    exact absurd (decide_eq_true rfl) hn
  | some y =>
    obtain ⟨hy,hk⟩ := lookup_sound key hf
    rw [List.inj_on_of_nodup_map hd hy hx hk]

/-- Where keys are distinct, lookup is membership. -/
theorem lookup_eq_some {records : List α} (hd : (records.map key).Nodup) {k : κ} {x : α} :
    lookup key records k=some x ↔ x∈records ∧ key x=k := by
  constructor
  · exact lookup_sound key
  · rintro ⟨hx,rfl⟩
    exact lookup_of_mem key hd hx

/-- Where keys are distinct, a record that meets a further test is found by
searching for both, exactly when the first match meets it. -/
theorem find_and_eq_some {records : List α} (hd : (records.map key).Nodup) (p : α→Bool)
    {k : κ} {x : α} :
    records.find? (fun y => key y=k && p y)=some x ↔ lookup key records k=some x ∧ p x=true := by
  constructor
  · intro h
    have hx := List.mem_of_find?_eq_some h
    have hp := List.find?_some h
    simp only [Bool.and_eq_true,decide_eq_true_eq] at hp
    exact ⟨(lookup_eq_some key hd).mpr ⟨hx,hp.1⟩,hp.2⟩
  · rintro ⟨h,hp⟩
    obtain ⟨hx,hk⟩ := lookup_sound key h
    cases hf : records.find? (fun y => key y=k && p y) with
    | none =>
      have hn := List.find?_eq_none.mp hf x hx
      simp only [hk,hp,decide_true,Bool.and_self,not_true_eq_false] at hn
    | some y =>
      have hy := List.find?_some hf
      simp only [Bool.and_eq_true,decide_eq_true_eq] at hy
      have he := (lookup_eq_some key hd).mpr ⟨List.mem_of_find?_eq_some hf,hy.1⟩
      rw [h] at he
      exact he.symm

/-- An update that keeps the key keeps every key. -/
theorem map_key_updateFirst {f : α→α} (hf : ∀ x, key (f x)=key x) (k : κ) (records : List α) :
    (updateFirst key f k records).map key=records.map key := by
  induction records with
  | nil => rfl
  | cons x records ih =>
    by_cases he : key x=k
    · simp [updateFirst,he,hf]
    · simp [updateFirst,he,ih]

/-- Where keys are distinct, updating the first match updates all matches. -/
theorem updateFirst_eq_map {records : List α} (hd : (records.map key).Nodup) (f : α→α) (k : κ) :
    updateFirst key f k records=records.map fun x => if key x=k then f x else x := by
  induction records with
  | nil => rfl
  | cons x records ih =>
    obtain ⟨hx,hd⟩ := List.nodup_cons.mp hd
    by_cases he : key x=k
    · have hrest : records.map (fun y => if key y=k then f y else y)=records := by
        refine (List.map_congr_left fun y hy => ?_).trans (List.map_id records)
        rw [if_neg,id]
        exact fun hk => hx (he.trans hk.symm ▸ List.mem_map_of_mem hy)
      simp [updateFirst,he,hrest]
    · simp [updateFirst,he,ih hd]

end WispersConnect.FirstMatch
