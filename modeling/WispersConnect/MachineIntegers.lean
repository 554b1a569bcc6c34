import WispersConnect.OutcomeMonad
import Mathlib.Algebra.Ring.Nat
import Mathlib.Data.Int.Notation

/-!
# Casts and checked increments of 64-bit integers

Lengths are `usize` on a 64-bit target and versions are `i64`. A length that a
vector can have survives the cast to `i64` and back; incrementing panics
exactly at the largest value.
-/

namespace WispersConnect.MachineIntegers

open OutcomeMonad

/-- `n as i64` for a length `n`. -/
def asI64 (n : ℕ) : Int64 := Int64.ofNat n

/-- `v as usize` for an `i64`. -/
def asUsize (v : Int64) : ℕ := v.toUInt64.toNat

/-- `v + 1`, with the overflow check of a debug build. -/
def addOne {ε : Type} (v : Int64) : Outcome ε Int64 :=
  if v=Int64.maxValue then .panic "attempt to add with overflow" else .ok (v+1)

/-- A length below `2^63` keeps its value as an `i64`. -/
theorem asI64_toInt {n : ℕ} (h : n<2^63) : (asI64 n).toInt=n := Int64.toInt_ofNat_of_lt h

/-- The cast to `i64` is injective on lengths below `2^63`. -/
theorem asI64_inj {m n : ℕ} (hm : m<2^63) (hn : n<2^63) : asI64 m=asI64 n ↔ m=n := by
  constructor
  · intro h
    have ht := congrArg Int64.toInt h
    rw [asI64_toInt hm,asI64_toInt hn] at ht
    exact_mod_cast ht
  · rintro rfl
    rfl

/-- A nonnegative `i64` has the same value as a `usize`. -/
theorem asUsize_toInt {v : Int64} (h : 0≤v.toInt) : (asUsize v : ℤ)=v.toInt := by
  have hv : (0 : Int64)≤v := by
    rw [Int64.le_iff_toInt_le]
    simpa using h
  rw [asUsize,Int64.toNat_toUInt64_of_le hv]
  exact Int.toNat_of_nonneg h

/-- A positive `i64` is the cast of its own `usize` value, which is below `2^63`. -/
theorem asUsize_of_pos {v : Int64} (h : ¬v<1) :
    0<asUsize v ∧ asUsize v<2^63 ∧ asI64 (asUsize v)=v := by
  have hv : 1≤v.toInt := by
    rw [Int64.lt_iff_toInt_lt] at h
    simpa using h
  have hlt := v.toInt_lt
  have hu := asUsize_toInt (v:=v) (by omega)
  have hb : asUsize v<2^63 := by omega
  refine ⟨by omega,hb,?_⟩
  rw [←Int64.toInt_inj,asI64_toInt hb,hu]

/-- A length below `2^63` survives the cast to `i64` and back. -/
theorem asUsize_asI64 {n : ℕ} (h : n<2^63) : asUsize (asI64 n)=n := by
  have hv := asI64_toInt h
  have hu := asUsize_toInt (v:=asI64 n) (by omega)
  omega

/-- A nonzero length is positive as an `i64`. -/
theorem asI64_pos {n : ℕ} (h0 : 0<n) (h : n<2^63) : ¬asI64 n<1 := by
  rw [Int64.lt_iff_toInt_lt,asI64_toInt h]
  change ¬(n : ℤ)<1
  omega

/-- Incrementing the cast of a length overflows only at `2^63-1`. -/
theorem addOne_asI64 {ε : Type} {n : ℕ} (h : n<2^63) {v : Int64} :
    (addOne (asI64 n) : Outcome ε Int64)=.ok v ↔ n+1<2^63 ∧ v=asI64 (n+1) := by
  have hmax : asI64 n=Int64.maxValue ↔ n+1=2^63 := by
    rw [←Int64.toInt_inj,asI64_toInt h,Int64.toInt_maxValue]
    omega
  by_cases hm : asI64 n=Int64.maxValue
  · have hn := hmax.mp hm
    simp only [addOne,if_pos hm,reduceCtorEq,false_iff,not_and]
    omega
  · have hn : n+1<2^63 := by
      have := mt hmax.mpr hm
      omega
    have hs : asI64 n+1=asI64 (n+1) := by
      simp only [asI64,Int64.ofNat_add]
      rfl
    rw [addOne,if_neg hm,hs,Outcome.ok.injEq]
    exact ⟨fun h => ⟨hn,h.symm⟩,fun h => h.2.symm⟩

/-- An `i64` is zero when its value is. -/
theorem toInt_eq_zero {v : Int64} : v.toInt=0 ↔ v=0 := by
  rw [←Int64.toInt_inj,Int64.toInt_zero]

/-- An `i64` is positive when its value is. -/
theorem pos_iff_toInt {v : Int64} : 0<v ↔ 0<v.toInt := by
  rw [Int64.lt_iff_toInt_lt,Int64.toInt_zero]

/-- An `i64` is negative when its value is. -/
theorem neg_iff_toInt {v : Int64} : v<0 ↔ v.toInt<0 := by
  rw [Int64.lt_iff_toInt_lt,Int64.toInt_zero]

/-- The checked increment succeeds below the largest value. -/
theorem addOne_eq_ok {ε : Type} {v w : Int64} :
    (addOne v : Outcome ε Int64)=.ok w ↔ v≠Int64.maxValue ∧ v+1=w := by
  by_cases hv : v=Int64.maxValue
  · simp [addOne,hv]
  · simp [addOne,hv]

/-- The checked increment adds one to the value. -/
theorem addOne_toInt {v : Int64} (hv : v≠Int64.maxValue) : (v+1).toInt=v.toInt+1 := by
  have hmax : v.toInt≠2^63-1 := by
    intro h
    refine hv (Int64.toInt_inj.mp ?_)
    rw [h,Int64.toInt_maxValue]
  have hlt := v.toInt_lt
  have hle := v.le_toInt
  rw [Int64.toInt_add,Int64.toInt_one]
  exact Int.bmod_eq_of_le (by omega) (by omega)

section Bytes

/-- The lowest bytes of a number, lowest first. -/
def leBytes : ℕ→ℕ→List UInt8
  | 0,_ => []
  | length+1,n => UInt8.ofNat (n%256)::leBytes length (n/256)

/-- The number of bytes, lowest first. -/
def fromLeBytes : List UInt8→ℕ
  | [] => 0
  | byte::bytes => byte.toNat+256*fromLeBytes bytes

/-- There are as many bytes as were asked for. -/
theorem length_leBytes (length n : ℕ) : (leBytes length n).length=length := by
  induction length generalizing n with
  | zero => rfl
  | succ length ih => rw [leBytes,List.length_cons,ih]

/-- A number that fits is read back from its bytes. -/
theorem fromLeBytes_leBytes {length n : ℕ} (h : n<256^length) :
    fromLeBytes (leBytes length n)=n := by
  induction length generalizing n with
  | zero =>
    have hzero : n=0 := by simpa using h
    rw [hzero]
    rfl
  | succ length ih =>
    have hhigh : n/256<256^length := by
      rw [Nat.div_lt_iff_lt_mul (by omega),←Nat.pow_succ]
      exact h
    have hlow : (UInt8.ofNat (n%256)).toNat=n%256 :=
      UInt8.toNat_ofNat_of_lt' (Nat.mod_lt _ (by decide))
    rw [leBytes,fromLeBytes,ih hhigh,hlow]
    omega

/-- `to_le_bytes` of a `u64`. -/
def u64LeBytes (n : UInt64) : List UInt8 := leBytes 8 n.toNat

/-- `u64::from_le_bytes`. -/
def u64FromLeBytes (bytes : List UInt8) : UInt64 := UInt64.ofNat (fromLeBytes bytes)

/-- `to_le_bytes` of an `i64`. -/
def i64LeBytes (n : Int64) : List UInt8 := u64LeBytes n.toUInt64

/-- A `u64` is read back from its bytes. -/
theorem u64FromLeBytes_u64LeBytes (n : UInt64) : u64FromLeBytes (u64LeBytes n)=n := by
  rw [u64FromLeBytes,u64LeBytes,fromLeBytes_leBytes n.toNat_lt,UInt64.ofNat_toNat]

/-- The bytes of a `u64` determine it. -/
theorem u64LeBytes_inj {a b : UInt64} : u64LeBytes a=u64LeBytes b ↔ a=b := by
  refine ⟨fun h => ?_,fun h => h ▸ rfl⟩
  have hread := congrArg u64FromLeBytes h
  rw [u64FromLeBytes_u64LeBytes,u64FromLeBytes_u64LeBytes] at hread
  exact hread

/-- The bytes of an `i64` determine it. -/
theorem i64LeBytes_inj {a b : Int64} : i64LeBytes a=i64LeBytes b ↔ a=b := by
  refine ⟨fun h => ?_,fun h => h ▸ rfl⟩
  have hread := congrArg UInt64.toInt64 (u64LeBytes_inj.mp h)
  rw [Int64.toInt64_toUInt64,Int64.toInt64_toUInt64] at hread
  exact hread

end Bytes

end WispersConnect.MachineIntegers
